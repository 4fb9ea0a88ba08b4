import AbiProbe.Json.Reader
import AbiProbe.Json.Value
import AbiProbe.TypeLayout.Basic

/-! # Layouts as JSON

A layout is written as an object of its known parts (`AbiProbe.TypeLayout.toJson`) and read from
such an object in any order of members, or from an array of its parts
(`AbiProbe.TypeLayout.ofJson`). Members of other names are passed over.
-/

namespace AbiProbe

/-- Reads a kind by its name. -/
def NumericKind.readJson : Json.Reader NumericKind :=
  Json.variant (NumericKind.all.map NumericKind.name) NumericKind.ofName?

/-- Reads a primitive by its name. -/
def Primitive.readJson : Json.Reader Primitive :=
  Json.variant (Primitive.all.map Primitive.name) Primitive.ofName?

/-- A kind as JSON. -/
def NumericKind.toJson (kind : NumericKind) : Json.Value :=
  .text kind.name

/-- A primitive as JSON. -/
def Primitive.toJson (primitive : Primitive) : Json.Value :=
  .text primitive.name

namespace TypeLayout

/-- A layout as JSON: its parts in order, without those that are not known. -/
def toJson (layout : TypeLayout) : Json.Value :=
  .object ([("c_type", .text layout.cType), ("size", .integer layout.size.toNat)] ++
    (layout.align.map fun align => ("align", .integer align.toNat)).toList ++
    (layout.kind.map fun kind => ("kind", kind.toJson)).toList ++
    (layout.primitive.map fun primitive => ("rust", primitive.toJson)).toList)

/-- The parts of a layout met so far in an object. -/
structure Draft where
  cType : Option String
  size : Option UInt64
  align : Option (Option UInt64)
  kind : Option (Option NumericKind)
  primitive : Option (Option Primitive)

/-- No part met. -/
def Draft.empty : Draft :=
  ⟨none, none, none, none, none⟩

/-- Reads the text of a type name. -/
def readTypeName : Json.Reader String :=
  Json.string "a string"

/-- Reads a size or an alignment. -/
def readBytes : Json.Reader UInt64 :=
  Json.unsigned "usize"

/-- Reads the member of a given key into a draft; a member of another key is passed over. -/
def Draft.member (draft : Draft) (key : String) (input : List Char) :
    Except Json.Error (Draft × List Char) :=
  match key with
  | "c_type" => do
      let (cType, rest) ← Json.onceOnly key draft.cType readTypeName input
      return ({ draft with cType }, rest)
  | "size" => do
      let (size, rest) ← Json.onceOnly key draft.size readBytes input
      return ({ draft with size }, rest)
  | "align" => do
      let (align, rest) ← Json.onceOnly key draft.align (Json.optional readBytes) input
      return ({ draft with align }, rest)
  | "kind" => do
      let (kind, rest) ← Json.onceOnly key draft.kind (Json.optional NumericKind.readJson) input
      return ({ draft with kind }, rest)
  | "rust" => do
      let (primitive, rest) ←
        Json.onceOnly key draft.primitive (Json.optional Primitive.readJson) input
      return ({ draft with primitive }, rest)
  | _ => do
      let rest ← Json.colon input
      let ((), rest) ← Json.skip rest
      return (draft, rest)

/-- The layout of a finished draft; its name and size are required. -/
def Draft.finish (draft : Draft) : Except Json.Error TypeLayout :=
  match draft.cType, draft.size with
  | none, _ => .error (.missingField "c_type")
  | some _, none => .error (.missingField "size")
  | some cType, some size =>
      .ok ⟨cType, size, draft.align.join, draft.kind.join, draft.primitive.join⟩

/-- What a layout is in the words of a diagnostic. -/
def expected : String := "struct TypeLayout"

/-- The fault of an array with too few parts of a layout. -/
def tooShort (length : Nat) : Json.Error :=
  .invalidLength length (expected ++ " with 5 elements")

/-- Reads the parts of a layout as elements of an array; its name and size are required. -/
def readElements (input : List Char) : Except Json.Error (TypeLayout × List Char) := do
  match ← Json.element? readTypeName true input with
  | (none, _) => .error (tooShort 0)
  | (some cType, rest) =>
      match ← Json.element? readBytes false rest with
      | (none, _) => .error (tooShort 1)
      | (some size, rest) =>
          let (align, rest) ← Json.element? (Json.optional readBytes) false rest
          let (kind, rest) ← Json.element? (Json.optional NumericKind.readJson) false rest
          let (primitive, rest) ← Json.element? (Json.optional Primitive.readJson) false rest
          return (⟨cType, size, align.join, kind.join, primitive.join⟩, rest)

/-- Reads a layout. -/
def readJson : Json.Reader TypeLayout :=
  Json.record expected Draft.member Draft.empty Draft.finish readElements

/-- The layout a JSON text describes. -/
def ofJson (text : String) : Except Json.Error TypeLayout :=
  Json.document readJson text

end TypeLayout

end AbiProbe
