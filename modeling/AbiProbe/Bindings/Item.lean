import AbiProbe.Json.Value
import AbiProbe.Primitive
import AbiProbe.Text.Diagnostic

/-! # Items of generated bindings -/

namespace AbiProbe

/-- What a generated declaration declares a name to be. -/
inductive Item
  /-- A type alias of a primitive. -/
  | typeAlias (primitive : Primitive)
  /-- A signed 64-bit constant. -/
  | signedConstant (value : Int64)
  /-- An unsigned 64-bit constant. -/
  | unsignedConstant (value : UInt64)
deriving DecidableEq, Repr

namespace Item

open Text in
/-- An item in the words of a diagnostic. -/
def diagnostic : Item → String
  | typeAlias primitive => Diagnostic.variant "TypeAlias" primitive.label
  | signedConstant value => Diagnostic.variant "SignedConstant" (Decimal.ofInt value.toInt)
  | unsignedConstant value => Diagnostic.variant "UnsignedConstant" (Decimal.ofNat value.toNat)

/-- The name of an item's kind in a JSON document. -/
def kindName : Item → String
  | typeAlias _ => "type_alias"
  | signedConstant _ => "signed_constant"
  | unsignedConstant _ => "unsigned_constant"

/-- The content of an item as JSON. -/
def content : Item → Json.Value
  | typeAlias primitive => .text primitive.name
  | signedConstant value => .integer value.toInt
  | unsignedConstant value => .integer value.toNat

/-- An item as JSON: its kind and its content. -/
def toJson (item : Item) : Json.Value :=
  .object [("kind", .text item.kindName), ("value", item.content)]

end Item

end AbiProbe
