import AbiProbe.Log.Pattern
import AbiProbe.Log.Record
import AbiProbe.Text.Slice

/-! # Directives of a log filter

A directive says how much detail it lets through, and for which records: those of targets with a
given start, those with given fields, those in spans. Its text is read from left to right
(`AbiProbe.Log.Directive.ofText?`). Blanks around the text do not count when it is read, but they
do when its parts are cut out of it, so a directive with blanks in front rarely means much.
-/

namespace AbiProbe.Log

/-- A field a directive asks for. -/
structure FieldDemand where
  name : String
  /-- Whether the field must have a given value. -/
  hasValue : Bool
deriving DecidableEq, Repr

/-- The fields every record has. Their values are not looked at. -/
def recordFields : List String := ["message"]

/-- Whether every record has a field as it is asked for. -/
def FieldDemand.isMet (demand : FieldDemand) : Bool :=
  !demand.hasValue && recordFields.contains demand.name

/-- A rule about some records. -/
structure Directive where
  /-- The start of the targets; `none` for all of them. -/
  target : Option String
  /-- The fields a record must have. -/
  fields : List FieldDemand
  /-- Whether the rule is for records in a span, of which there are none. -/
  inSpan : Bool
  /-- The greatest detail let through. -/
  detail : Nat
deriving DecidableEq, Repr

namespace Directive

/-- The detail of everything. -/
def fullDetail : Nat := Level.trace.detail

/-- The rule that lets everything through. -/
def everything : Directive := ⟨none, [], false, fullDetail⟩

/-! ## Which records a directive is for -/

/-- Whether a directive is for a record. -/
def isFor (directive : Directive) (record : Record) : Bool :=
  !directive.inSpan && directive.fields.all FieldDemand.isMet &&
    match directive.target with
    | none => true
    | some target => target.toList.isPrefixOf record.target.path.toList

/-- Whether one directive is at least as specific as another: by the length of its target, then
by the number of its fields. -/
def atLeastAsSpecific (directive other : Directive) : Bool :=
  let length (directive : Directive) : Nat :=
    (directive.target.map fun target => target.utf8ByteSize + 1).getD 0
  length other < length directive ||
    (length other = length directive && other.fields.length ≤ directive.fields.length)

/-! ## The parts of a directive -/

/-- The detail a level lets through, by its name in any case or by its number. -/
def detailOf? (text : List Char) : Option Nat :=
  match Text.Decimal.unsigned? text with
  | some number => if number.toNat ≤ fullDetail then some number.toNat else none
  | none =>
      let upper := String.ofList (text.map Char.toUpper)
      if upper = "OFF" then some 0
      else (Level.all.find? fun level => level.name = upper).map Level.detail

/-- The detail written after an equals sign; everything if there is none. -/
def detailAfterEquals? (text : List Char) : Option Nat :=
  if text.isEmpty then some fullDetail else detailOf? text

/-- A directive that is only a level or only a target. -/
def ofBare (text : List Char) : Directive :=
  match detailOf? text with
  | some detail => { everything with detail }
  | none => { everything with target := some (String.ofList text) }

/-- Whether a directive may start with a character, brackets aside. -/
def isStart (c : Char) : Bool :=
  c = '-' || c = ':' || c = '_' || Text.isAlphanumeric c

/-- Reads a field: its name, and after an equals sign its value, a number or a regular
expression. What follows a second equals sign is passed over. -/
def fieldOfText? (text : List Char) : Option FieldDemand :=
  if text.isEmpty then none
  else
    match text.splitOnP (· = '=') with
    | name :: value :: _ =>
        if Text.Decimal.isReal value || Pattern.isWellFormed value then
          some ⟨String.ofList name, true⟩
        else none
    | _ => some ⟨String.ofList text, false⟩

/-! ## Reading a directive -/

/-- How far a directive has been read, with the place where the part being read starts. Places
are counted in bytes. -/
inductive Stage
  /-- Nothing has been read. -/
  | start
  /-- What may be a level or a target is being read. -/
  | bare
  /-- The name of a span is being read. -/
  | span (start : Nat)
  /-- A field is being read. -/
  | field (start : Nat)
  /-- The fields have been read. -/
  | fieldsRead
  /-- The span has been read. -/
  | spanRead
  /-- A level is being read. -/
  | level (start : Nat)
deriving DecidableEq, Repr

/-- What is known of a directive after one more character, at a given place. Parts are cut from
the whole text, with the blanks around it. -/
def advance? (whole : List Char) (directive : Directive) (stage : Stage) (place : Nat)
    (c : Char) : Option (Directive × Stage) :=
  match stage with
  | .start =>
      if c = '[' then some (directive, .span (place + 1))
      else if isStart c then some (directive, .bare)
      else none
  | .bare =>
      if c = '=' ∨ c = '[' then do
        let target ← Text.slice? 0 place whole
        let next := if c = '=' then Stage.level (place + 1) else Stage.span (place + 1)
        return ({ directive with target := some (String.ofList target) }, next)
      else some (directive, .bare)
  | .span start =>
      if c = ']' then do
        let _ ← Text.slice? start place whole
        return ({ directive with inSpan := true }, .spanRead)
      else if c = '{' then do
        let name ← Text.slice? start place whole
        return ({ directive with inSpan := !name.isEmpty }, .field (place + 1))
      else some (directive, .span start)
  | .field start =>
      if c = '}' then do
        let field ← fieldOfText? (← Text.slice? start place whole)
        return ({ directive with fields := directive.fields ++ [field] }, .fieldsRead)
      else some (directive, .field start)
  | .fieldsRead => if c = ']' then some (directive, .spanRead) else none
  | .spanRead =>
      if c = '=' then some (directive, .level (place + 1))
      else if c = '[' then some (directive, .span (place + 1))
      else none
  | .level start => some (directive, .level start)

/-- The directive read when its text ends. -/
def finish? (whole : List Char) (directive : Directive) : Stage → Option Directive
  | .bare => some (ofBare whole)
  | .level start => do
      let detail ← detailAfterEquals? (← Text.sliceFrom? start whole)
      return { directive with detail }
  | .spanRead => some directive
  | .start | .span _ | .field _ | .fieldsRead => none

/-- Reads the rest of a directive from a given place on. -/
def readFrom? (whole : List Char) (directive : Directive) (stage : Stage) (place : Nat) :
    (rest : List Char) → Option Directive
  | [] => finish? whole directive stage
  | c :: rest => do
      let (directive, stage) ← advance? whole directive stage place c
      readFrom? whole directive stage (place + c.utf8Size) rest

/-- Reads a directive. -/
def ofText? (text : List Char) : Option Directive :=
  readFrom? text everything .start 0 (Text.trim text)

end Directive

end AbiProbe.Log
