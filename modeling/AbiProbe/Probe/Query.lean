import AbiProbe.Probe.Finding

/-! # Questions with one printed answer -/

namespace AbiProbe

/-- A question whose answer is one line of text. -/
inductive Query
  | size (cType : String)
  | alignment (cType : String)
  | signedness (cType : String)
  | definedness (macroName : String)
  /-- The primitive of the same representation. -/
  | primitive (cType : String)
  | signedConstant (name : String)
  | unsignedConstant (name : String)
deriving DecidableEq, Repr

/-- A failed question as it is told to the user. -/
def Query.failureMessage : ProbeError → String
  | .unrepresentable cType => "no Rust primitive matches C type `" ++ cType ++ "`"
  | error => error.message

/-- The text of a truth value. -/
def truthText : Bool → String
  | true => "true"
  | false => "false"

open Text in
/-- Answers a question by a text. -/
def Probe.answer (probe : Probe) : Query → Inquiry ProbeError String
  | .size cType => do return Decimal.ofNat (← probe.sizeOf cType).toNat
  | .alignment cType => do return Decimal.ofNat (← probe.alignOf cType).toNat
  | .signedness cType => do return truthText (← probe.isSigned cType)
  | .definedness macroName => do return truthText (← probe.isDefinedMacro macroName)
  | .primitive cType => do
      match ← probe.equivalentPrimitive cType with
      | some primitive => return primitive.name
      | none => Inquiry.settled (.error (.unrepresentable cType))
  | .signedConstant name => do return Decimal.ofInt (← probe.signedConstant name).toInt
  | .unsignedConstant name => do return Decimal.ofNat (← probe.unsignedConstant name).toNat

end AbiProbe
