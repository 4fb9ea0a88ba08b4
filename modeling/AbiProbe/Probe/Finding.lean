import AbiProbe.Probe.Basic
import AbiProbe.TypeLayout.Basic

/-! # What several answers tell of a type

The kind of a type, the primitive of the same representation and the layout of a type are put
together from several answers. A layout leaves out the alignment and the kind where the program
that asks for them does not compile, and fails with any other failure.
-/

namespace AbiProbe.Probe

/-- The kind of an arithmetic type. -/
def numericKind (probe : Probe) (cType : String) : Inquiry ProbeError NumericKind := do
  if ← probe.isFloatingPoint cType then return .float
  else if ← probe.isSigned cType then return .signedInt
  else return .unsignedInt

/-- The integer primitive of the same representation as a C type. The size of a floating-point
type is not asked for. -/
def equivalentInteger (probe : Probe) (cType : String) :
    Inquiry ProbeError (Option Primitive) := do
  let kind ← probe.numericKind cType
  if kind = .float then return none
  else return Primitive.ofLayout? kind (← probe.sizeOf cType)

/-- The primitive of the same representation as an arithmetic C type. -/
def equivalentPrimitive (probe : Probe) (cType : String) :
    Inquiry ProbeError (Option Primitive) := do
  let kind ← probe.numericKind cType
  return Primitive.ofLayout? kind (← probe.sizeOf cType)

/-- An inquiry whose answer is left open where its program does not compile. -/
def ifCompiles {α : Type} (probe : Probe) (inquiry : Inquiry ProbeError α) :
    Inquiry ProbeError (Option α) :=
  inquiry.recover some fun
    | .compile output => do
        Inquiry.tell probe.log (.leftUnknown output)
        return none
    | error => Inquiry.settled (.error error)

/-- The layout of a type. -/
def layoutOf (probe : Probe) (cType : String) : Inquiry ProbeError TypeLayout := do
  let size ← probe.sizeOf cType
  let align ← probe.ifCompiles (probe.alignOf cType)
  let kind ← probe.ifCompiles (probe.numericKind cType)
  return TypeLayout.ofKind cType size align kind

end AbiProbe.Probe
