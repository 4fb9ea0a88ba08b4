import AbiProbe.Log.Pattern.Class
import AbiProbe.Text.Alphabetic

/-! # Regular expressions

The value of a field may be asked for by a regular expression. Fields have no values here, so it
only matters whether a text is one (`AbiProbe.Log.Pattern.isWellFormed`). A text is read from
left to right with the groups around the place reached.
-/

namespace AbiProbe.Log.Pattern

/-- A part of a regular expression. -/
structure Part where
  depth : Nat
  /-- Whether a repetition may follow. -/
  repeatable : Bool
deriving DecidableEq, Repr

/-- What has been read of a group, or of the whole text. -/
structure Group where
  /-- The mode here. -/
  mode : Mode
  /-- The depths of the rows before the last bar, if there is one. -/
  choices : List Nat
  /-- The parts of the row after it, the last one first. -/
  row : List Part
deriving DecidableEq, Repr

namespace Group

/-- A group in which nothing has been read. -/
def empty (mode : Mode) : Group := ⟨mode, [], []⟩

/-- The group with one more part. -/
def push (part : Part) (group : Group) : Group :=
  { group with row := part :: group.row }

/-- The depths of the parts of the current row. -/
def rowDepths (group : Group) : List Nat :=
  group.row.map Part.depth

/-- The group after a bar. -/
def choose (group : Group) : Group :=
  { group with choices := rowDepth group.rowDepths :: group.choices, row := [] }

/-- The depth of what stands in the group. -/
def depth (group : Group) : Nat :=
  partedDepth (if group.choices.isEmpty then none else some (deepest group.choices))
    group.rowDepths

/-- The group with its last part repeated. -/
def repeat? (group : Group) : Option Group :=
  match group.row with
  | ⟨depth, true⟩ :: row => some { group with row := ⟨depth + 1, true⟩ :: row }
  | _ => none

end Group

/-- What has been read of a regular expression. -/
structure Progress where
  /-- The innermost open group, or the whole text. -/
  inner : Group
  /-- The groups around it, the innermost first. -/
  outer : List Group
  /-- The names of the groups so far. -/
  names : List (List Char)
deriving DecidableEq, Repr

namespace Progress

/-- Nothing read. -/
def initial : Progress := ⟨.empty .initial, [], []⟩

/-- The mode at the place reached. -/
def mode (progress : Progress) : Mode := progress.inner.mode

/-- The progress past a part of a depth that can be repeated. -/
def past (depth : Nat) (progress : Progress) : Progress :=
  { progress with inner := progress.inner.push ⟨depth, true⟩ }

/-- The progress past flags, which hold up to the end of the group. -/
def switch (mode : Mode) (progress : Progress) : Progress :=
  { progress with inner := { progress.inner.push ⟨0, false⟩ with mode } }

/-- The progress into a group with a mode of its own. -/
def enter (mode : Mode) (progress : Progress) : Progress :=
  { progress with inner := .empty mode, outer := progress.inner :: progress.outer }

/-- The progress out of the innermost group. -/
def leave? (progress : Progress) : Option Progress :=
  match progress.outer with
  | [] => none
  | around :: outer =>
      some { progress with inner := around.push ⟨progress.inner.depth + 1, true⟩, outer }

end Progress

/-! ## Groups -/

/-- Whether a character may be the first of a name of a group. -/
def isNameStart (c : Char) : Bool :=
  c = '_' || Text.isAlphabetic c

/-- Whether a character may follow in a name of a group. -/
def isNamePart (c : Char) : Bool :=
  ['_', '.', '[', ']'].contains c || Text.isAlphanumeric c

/-- Whether a text is a name of a group. -/
def isName : List Char → Bool
  | [] => false
  | c :: rest => isNameStart c && rest.all isNamePart

/-- Enters a group whose name ends with an angle bracket. No two groups have one name. -/
def enterNamed? (progress : Progress) (input : List Char) : Option (Progress × List Char) :=
  let name := input.takeWhile (· ≠ '>')
  match input.dropWhile (· ≠ '>') with
  | '>' :: rest =>
      if isName name && !progress.names.contains name then
        some ({ progress.enter progress.mode with names := name :: progress.names }, rest)
      else none
  | _ => none

/-- Whether a text is a group of flags: letters, each at most once, with at most one dash, after
which flags are taken back. -/
def areFlags (flags : List Char) : Bool :=
  flags.all ['i', 'm', 's', 'U', 'u', 'R', 'x', '-'].contains && decide flags.Nodup &&
    flags.getLast? ≠ some '-'

/-- Reads flags, which hold in a group after a colon, and else up to the end of the group they
stand in. -/
def readFlags? (progress : Progress) (input : List Char) : Option (Progress × List Char) :=
  let flags := input.takeWhile fun c => c ≠ ':' && c ≠ ')'
  if !areFlags flags then none
  else
    let mode := progress.mode.update flags
    match input.drop flags.length with
    | ':' :: rest => some (progress.enter mode, rest)
    | ')' :: rest => if flags.isEmpty then none else some (progress.switch mode, rest)
    | _ => none

/-- Reads what opens a group, after its parenthesis. -/
def openGroup? (progress : Progress) (input : List Char) : Option (Progress × List Char) :=
  match progress.mode.skip input with
  | '?' :: 'P' :: '<' :: rest | '?' :: '<' :: rest => enterNamed? progress rest
  | '?' :: rest => readFlags? progress rest
  | rest => some (progress.enter progress.mode, rest)

/-! ## The whole text -/

/-- Reads what a character starts. -/
def step? (progress : Progress) (c : Char) (rest : List Char) : Option (Progress × List Char) :=
  match c with
  | '(' => openGroup? progress rest
  | ')' => progress.leave?.map fun progress => (progress, rest)
  | '|' => some ({ progress with inner := progress.inner.choose }, rest)
  | '[' => (readClass? progress.mode rest).map fun (depth, rest) => (progress.past depth, rest)
  | '*' | '+' | '?' => do
      let inner ← progress.inner.repeat?
      -- A question mark right after a repetition makes it a reluctant one.
      return ({ progress with inner }, if rest.head? = some '?' then rest.drop 1 else rest)
  | '{' => none
  | '.' => if progress.mode.unicode then some (progress.past 0, rest) else none
  | '^' | '$' => some (progress.past 0, rest)
  | '\\' =>
      match escape? progress.mode rest with
      | some (.character _, rest) =>
          if progress.mode.tellsCase then some (progress.past 0, rest) else none
      | some (_, rest) => some (progress.past 0, rest)
      | none => none
  | _ => if progress.mode.tellsCase then some (progress.past 0, rest) else none

/-- Whether a text goes on as a regular expression. A text of `fuel` characters takes fewer steps
than that. -/
def continuesWell (fuel : Nat) (progress : Progress) (input : List Char) : Bool :=
  match fuel with
  | 0 => false
  | fuel + 1 =>
      match progress.mode.skip input with
      | [] => progress.outer.isEmpty && progress.inner.depth ≤ nestingLimit
      | c :: rest =>
          match step? progress c rest with
          | some (progress, rest) => continuesWell fuel progress rest
          | none => false

/-- Whether a text is a regular expression. One with a counted repetition is not: its braces
cannot stand in a filter. -/
def isWellFormed (text : List Char) : Bool :=
  continuesWell (text.length + 1) .initial text

end AbiProbe.Log.Pattern
