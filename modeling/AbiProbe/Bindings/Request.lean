import AbiProbe.Bindings.Basic
import AbiProbe.Probe.Finding

/-! # Requested bindings

A request names a C type or constant to be declared. Requests are answered in order, and the
first that fails ends the inquiry (`AbiProbe.Probe.generate`).
-/

namespace AbiProbe

/-- A declaration to be generated. -/
inductive Request
  /-- An alias of the primitive that represents a type. -/
  | typeAlias (cType : String)
  /-- A signed constant. -/
  | signedConstant (name : String)
  /-- An unsigned constant. -/
  | unsignedConstant (name : String)
deriving DecidableEq, Repr

/-- The name to be declared. -/
def Request.name : Request → String
  | typeAlias name | signedConstant name | unsignedConstant name => name

namespace Probe

/-- Finds the item of a name that can be declared. -/
def lookUp (probe : Probe) : Request → Inquiry ProbeError Item
  | .typeAlias cType => do
      match ← probe.equivalentPrimitive cType with
      | some primitive => return .typeAlias primitive
      | none => Inquiry.settled (.error (.unrepresentable cType))
  | .signedConstant name => do return .signedConstant (← probe.signedConstant name)
  | .unsignedConstant name => do return .unsignedConstant (← probe.unsignedConstant name)

/-- Finds the item of one request. A name that cannot be spelled is refused. -/
def itemFor (probe : Probe) (request : Request) : Inquiry ProbeError Item :=
  match Identifier.rustSpelling? request.name with
  | none => Inquiry.settled (.error (.invalidIdentifier request.name))
  | some _ => probe.lookUp request

/-- The log record of a name that got its item. -/
def itemRecord (name : String) (item : Item) : Log.Record :=
  ⟨.debug, .bindings, name ++ " => " ++ item.diagnostic⟩

/-- The bindings with the item of one more request. -/
def extend (probe : Probe) (bindings : Bindings) (request : Request) :
    Inquiry ProbeError Bindings := do
  let item ← probe.itemFor request
  Inquiry.tell probe.log (itemRecord request.name item)
  return bindings.insert request.name item

/-- Answers requests in order. -/
def generate (probe : Probe) (requests : List Request) : Inquiry ProbeError Bindings :=
  requests.foldlM probe.extend Bindings.empty

end Probe

end AbiProbe
