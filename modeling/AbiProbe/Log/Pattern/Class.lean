import AbiProbe.Log.Pattern.Nesting
import AbiProbe.Log.Pattern.Symbol

/-! # The classes of a regular expression

A class stands between brackets. It holds characters, ranges of them, kinds of characters and
other classes, and operators between these. What matters here is how deep it is and where it ends
(`AbiProbe.Log.Pattern.readClass?`).
-/

namespace AbiProbe.Log.Pattern

/-- The names of the kinds of characters that are written between colons. -/
def kindNames : List String :=
  ["alnum", "alpha", "ascii", "blank", "cntrl", "digit", "graph", "lower", "print", "punct",
    "space", "upper", "word", "xdigit"]

/-- Reads the name of a kind of characters after its opening bracket, and whether a circumflex
inverts it. -/
def namedKind? (input : List Char) : Option (Bool × List Char) :=
  match input with
  | ':' :: rest =>
      let inverted := rest.head? = some '^'
      let named := if inverted then rest.drop 1 else rest
      match named.dropWhile (· ≠ ':') with
      | ':' :: ']' :: rest =>
          if kindNames.contains (String.ofList (named.takeWhile (· ≠ ':'))) then
            some (inverted, rest)
          else none
      | _ => none
  | _ => none

/-- Reads a character of a class, or a kind of characters, which is no end of a range. -/
def member? (mode : Mode) : (input : List Char) → Option (Option Char × List Char)
  | [] => none
  | '\\' :: rest =>
      match escape? mode rest with
      | some (.character c, rest) => if mode.allows c then some (some c, rest) else none
      | some (.kind, rest) => some (none, rest)
      | _ => none
  | c :: rest => if mode.allows c then some (some c, rest) else none

/-- Passes over a member of a class or a range of them. A dash before a dash or before the end of
the class makes no range. -/
def range? (mode : Mode) (input : List Char) : Option (List Char) := do
  let (low, rest) ← member? mode input
  match mode.skip rest with
  | '-' :: afterDash =>
      if mode.ahead? afterDash = some ']' ∨ mode.ahead? afterDash = some '-' then
        return '-' :: afterDash
      else
        match low, ← member? mode (mode.skip afterDash) with
        | some low, (some high, rest) => if low ≤ high then return rest else none
        | _, _ => none
  | rest => return rest

/-- How much of a class has been read. -/
inductive ClassPart
  /-- Nothing, so a closing bracket is a member. -/
  | opening
  /-- Dashes alone, which are members. -/
  | dashes
  /-- Other members. -/
  | members
deriving DecidableEq, Repr

/-- A class whose closing bracket has not been read. -/
structure OpenClass where
  /-- The depth of what stands before the last operator, if there is one. -/
  operand : Option Nat
  /-- The depths of the members after it. -/
  members : List Nat
deriving DecidableEq, Repr

namespace OpenClass

/-- A class of which only the opening bracket has been read. -/
def empty : OpenClass := ⟨none, []⟩

/-- The class with one more member. -/
def push (depth : Nat) (current : OpenClass) : OpenClass :=
  { current with members := depth :: current.members }

/-- The depth of what stands in the class. -/
def depth (current : OpenClass) : Nat :=
  partedDepth current.operand current.members

/-- The class after an operator. -/
def operate (current : OpenClass) : OpenClass :=
  ⟨some current.depth, []⟩

end OpenClass

/-- The text after the opening bracket of a class and its circumflex. A class that is inverted by
the byte would match parts of characters. -/
def opened? (mode : Mode) (input : List Char) : Option (List Char) :=
  match mode.skip input with
  | '^' :: rest => if mode.unicode then some rest else none
  | rest => some rest

/-- Reads the members of a class and its closing bracket, with the open classes around it, the
innermost first. The result is the depth of the outermost class and the text after it. A text of
`fuel` characters holds fewer members than that. -/
def classMembers? (mode : Mode) (fuel : Nat) (outer : List OpenClass) (inner : OpenClass)
    (part : ClassPart) (input : List Char) : Option (Nat × List Char) :=
  match fuel with
  | 0 => none
  | fuel + 1 =>
      match part, mode.skip input with
      | _, [] => none
      | .opening, '-' :: rest | .dashes, '-' :: rest =>
          if mode.allows '-' then classMembers? mode fuel outer (inner.push 0) .dashes rest
          else none
      | .opening, ']' :: rest =>
          if mode.allows ']' then classMembers? mode fuel outer (inner.push 0) .members rest
          else none
      | _, ']' :: rest =>
          match outer with
          | [] => some (inner.depth + 1, rest)
          | around :: outer =>
              classMembers? mode fuel outer (around.push (inner.depth + 1)) .members rest
      | _, '[' :: rest =>
          match namedKind? rest with
          | some (inverted, rest) =>
              if mode.tellsCase && (mode.unicode || !inverted) then
                classMembers? mode fuel outer (inner.push 0) .members rest
              else none
          | none => do
              classMembers? mode fuel (inner :: outer) .empty .opening (← opened? mode rest)
      | _, '&' :: '&' :: rest | _, '-' :: '-' :: rest | _, '~' :: '~' :: rest =>
          classMembers? mode fuel outer inner.operate .members rest
      | _, input => do
          classMembers? mode fuel outer (inner.push 0) .members (← range? mode input)

/-- Reads a class after its opening bracket: its depth and the text after it. -/
def readClass? (mode : Mode) (input : List Char) : Option (Nat × List Char) := do
  classMembers? mode (input.length + 1) [] .empty .opening (← opened? mode input)

end AbiProbe.Log.Pattern
