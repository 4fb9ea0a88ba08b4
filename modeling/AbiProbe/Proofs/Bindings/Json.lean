import AbiProbe.Bindings.Basic
import AbiProbe.Proofs.Json.Document

/-! # Bindings as a JSON document

The JSON texts of bindings are read as one document, an object with an item for each name in the
order of the bindings (`AbiProbe.Bindings.document`). So bindings are known by their JSON text
(`AbiProbe.Bindings.json_faithful`).
-/

namespace AbiProbe

open Json

namespace Item

/-- The kind of an item with its value: the name of a primitive or an exact integer. -/
def document : Item → Document
  | typeAlias primitive =>
      .object [("kind", .text "type_alias"), ("value", .text primitive.name)]
  | signedConstant value =>
      .object [("kind", .text "signed_constant"), ("value", .integer value.toInt)]
  | unsignedConstant value =>
      .object [("kind", .text "unsigned_constant"), ("value", .integer value.toNat)]

theorem document_toJson (item : Item) : item.toJson.document = item.document := by
  cases item with
  | typeAlias primitive | signedConstant value | unsignedConstant value =>
      simp only [toJson, content, kindName, Value.document, document, List.map_cons, List.map_nil]

/-- Items with the same document are the same. -/
theorem document_injective {first second : Item} (same : first.document = second.document) :
    first = second := by
  cases first with
  | typeAlias primitive =>
      cases second with
      | typeAlias other =>
          simp only [document, Document.object.injEq, List.cons.injEq, Prod.mk.injEq,
            Document.text.injEq, true_and, and_true] at same
          rw [Primitive.name_injective same]
      | signedConstant | unsignedConstant => simp [document] at same
  | signedConstant value =>
      cases second with
      | signedConstant other =>
          simp only [document, Document.object.injEq, List.cons.injEq, Prod.mk.injEq,
            Document.integer.injEq, true_and, and_true] at same
          rw [Int64.toInt_inj.mp same]
      | typeAlias | unsignedConstant => simp [document] at same
  | unsignedConstant value =>
      cases second with
      | unsignedConstant other =>
          simp only [document, Document.object.injEq, List.cons.injEq, Prod.mk.injEq,
            Document.integer.injEq, true_and, and_true] at same
          rw [UInt64.toNat_inj.mp (Int.natCast_inj.mp same)]
      | typeAlias | signedConstant => simp [document] at same

theorem within_toJson (item : Item) (depth : Nat) : item.toJson.Within (depth + 2) := by
  have content : item.content.Within (depth + 1) := by
    cases item with
    | typeAlias primitive => exact .text _
    | signedConstant value =>
        have bound := value.toInt_lt
        have size : UInt64.size = 2 ^ 64 := rfl
        exact .integer (Int64.toInt_minValue ▸ value.le_toInt) (by omega)
    | unsignedConstant value =>
        have lowest : Int64.minValue.toInt = -2 ^ 63 := Int64.toInt_minValue
        exact .integer (by omega) (Int.ofNat_lt.mpr value.toNat_lt_size)
  apply Value.Within.object
  intro entry member
  simp only [List.mem_cons, List.not_mem_nil, or_false] at member
  rcases member with rfl | rfl
  · exact .text _
  · exact content

end Item

namespace Bindings

/-- The items of bindings by their names, in order. -/
def document (bindings : Bindings) : Document :=
  .object (bindings.entries.map fun entry => (entry.1, entry.2.document))

theorem document_toJson (bindings : Bindings) : bindings.toJson.document = bindings.document := by
  have items : (fun entry : String × Value => (entry.1, entry.2.document)) ∘
      (fun entry : String × Item => (entry.1, entry.2.toJson)) =
        fun entry => (entry.1, entry.2.document) := by
    funext entry
    exact congrArg (Prod.mk entry.1) entry.2.document_toJson
  rw [toJson, Value.document, List.map_map, document]
  exact congrArg (fun part => Document.object (bindings.entries.map part)) items

/-- Bindings with the same document are the same in names, order and items. -/
theorem entries_eq_of_document_eq {bindings other : Bindings}
    (same : bindings.document = other.document) : bindings.entries = other.entries := by
  have item : Function.Injective fun entry : String × Item => (entry.1, entry.2.document) := by
    intro first second equal
    obtain ⟨names, documents⟩ := Prod.mk.inj equal
    exact Prod.ext names (Item.document_injective documents)
  exact item.list_map (Document.object.inj same)

theorem within_toJson (bindings : Bindings) (depth : Nat) : bindings.toJson.Within (depth + 3) := by
  apply Value.Within.object
  intro entry member
  obtain ⟨given, -, rfl⟩ := List.mem_map.mp member
  exact given.2.within_toJson depth

/-- Every text that spells the JSON value of bindings is read as their document. -/
theorem ofText_of_spelled {bindings : Bindings} {content : List Char}
    (spelled : bindings.toJson.Spelled content) :
    Document.ofText (String.ofList content) = .ok bindings.document := by
  obtain ⟨depth, deep⟩ : ∃ depth, content.length + 1 = depth + 3 := by
    cases spelled with
    | object members =>
        have shorter := members.length_lt
        refine ⟨_, (Nat.sub_add_cancel ?_).symm⟩
        rw [List.length_cons]
        omega
  have read := (bindings.within_toJson depth).recovers.document_of_spelled isGap_nil spelled
    isGap_nil
  rw [List.append_nil, List.nil_append, document_toJson, ← deep] at read
  rw [Document.ofText, String.length_ofList]
  exact read

/-- **Bindings are known by their JSON text.** The compact and the indented text of bindings are
read as one document, an object with the items of the names in order. So bindings with a JSON text
in common are the same in names, order and items. -/
theorem json_faithful (bindings : Bindings) :
    Document.ofText bindings.toJson.compact = .ok bindings.document ∧
      Document.ofText bindings.toJson.pretty = .ok bindings.document ∧
      ∀ other : Bindings,
        bindings.toJson.compact = other.toJson.compact ∨
          bindings.toJson.pretty = other.toJson.pretty → bindings.entries = other.entries := by
  have compact (given : Bindings) : Document.ofText given.toJson.compact = .ok given.document :=
    ofText_of_spelled given.toJson.written_compactText.spelled
  have pretty (given : Bindings) : Document.ofText given.toJson.pretty = .ok given.document :=
    ofText_of_spelled (given.toJson.written_prettyText 0).spelled
  refine ⟨compact bindings, pretty bindings, ?_⟩
  rintro other (same | same)
  · have read := compact bindings
    rw [same, compact other] at read
    exact entries_eq_of_document_eq (Except.ok.inj read).symm
  · have read := pretty bindings
    rw [same, pretty other] at read
    exact entries_eq_of_document_eq (Except.ok.inj read).symm

end Bindings

end AbiProbe
