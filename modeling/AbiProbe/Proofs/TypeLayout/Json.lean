import AbiProbe.Proofs.Json.Reading
import AbiProbe.Proofs.Probe.Layout
import AbiProbe.TypeLayout.Json

/-! # Layouts that are read from JSON

A layout is read from an object whose members stand in any order, step by step from the empty
draft to the draft of its parts (`AbiProbe.TypeLayout.Draft.takes_of_perm`). So every layout is
read back from its own text (`AbiProbe.TypeLayout.ofJson_toJson`). The primitive of a layout that
is read is the one its text gives, where that of a layout that is built or found follows from its
kind (`AbiProbe.TypeLayout.followsKind_of_origin`).
-/

namespace AbiProbe

open Json

theorem NumericKind.recovers_toJson (kind : NumericKind) : Recovers readJson kind.toJson kind := by
  apply recovers_variant
  cases kind <;> rfl

theorem Primitive.recovers_toJson (primitive : Primitive) :
    Recovers readJson primitive.toJson primitive := by
  apply recovers_variant
  cases primitive <;> rfl

namespace TypeLayout

theorem recovers_typeName (cType : String) : Recovers readTypeName (.text cType) cType :=
  recovers_string "a string" cType

theorem recovers_bytes (bytes : UInt64) : Recovers readBytes (.integer bytes.toNat) bytes :=
  recovers_unsigned "usize" bytes

namespace Draft

/-- The members that give the parts of a draft. -/
def members (draft : Draft) : List (String × Value) :=
  partMembers "c_type" .text draft.cType ++
    partMembers "size" (fun size => .integer size.toNat) draft.size ++
    partMembers "align" (Value.ofOption fun align : UInt64 => .integer align.toNat) draft.align ++
    partMembers "kind" (Value.ofOption NumericKind.toJson) draft.kind ++
    partMembers "rust" (Value.ofOption Primitive.toJson) draft.primitive

/-- A draft that has met the members of some keys only. -/
def restrict (draft : Draft) (keys : List String) : Draft where
  cType := if "c_type" ∈ keys then draft.cType else none
  size := if "size" ∈ keys then draft.size else none
  align := if "align" ∈ keys then draft.align else none
  kind := if "kind" ∈ keys then draft.kind else none
  primitive := if "rust" ∈ keys then draft.primitive else none

theorem nodup_keys_members (draft : Draft) : (draft.members.map Prod.fst).Nodup := by
  have named : ["c_type", "size", "align", "kind", "rust"].Nodup := by decide
  apply List.Nodup.sublist _ named
  simp only [members, List.map_append]
  have head := (keys_partMembers_sublist "c_type" .text draft.cType).append
    (keys_partMembers_sublist "size" (fun size => .integer size.toNat) draft.size)
  exact ((head.append (keys_partMembers_sublist ..)).append (keys_partMembers_sublist ..)).append
    (keys_partMembers_sublist ..)

/-- One step: the next member adds its part to the draft. -/
theorem takesAs_restrict {draft : Draft} {keys : List String} {entry : String × Value}
    (given : entry ∈ draft.members) (fresh : entry.1 ∉ keys) :
    TakesAs Draft.member (draft.restrict keys) entry (draft.restrict (entry.1 :: keys)) := by
  simp only [members, List.mem_append, mem_partMembers] at given
  rcases given with
    (((⟨cType, given, rfl⟩ | ⟨size, given, rfl⟩) | ⟨align, given, rfl⟩) | ⟨kind, given, rfl⟩) |
      ⟨primitive, given, rfl⟩
  · apply (recovers_typeName cType).takesAs
    intro input rest once
    simp [Draft.member, restrict, fresh, given, once, bind, Except.bind, pure, Except.pure]
  · apply (recovers_bytes size).takesAs
    intro input rest once
    simp [Draft.member, restrict, fresh, given, once, bind, Except.bind, pure, Except.pure]
  · apply (Recovers.ofOption recovers_bytes (fun _ => nofun) align).takesAs
    intro input rest once
    simp [Draft.member, restrict, fresh, given, once, bind, Except.bind, pure, Except.pure]
  · apply (Recovers.ofOption NumericKind.recovers_toJson (fun _ => nofun) kind).takesAs
    intro input rest once
    simp [Draft.member, restrict, fresh, given, once, bind, Except.bind, pure, Except.pure]
  · apply (Recovers.ofOption Primitive.recovers_toJson (fun _ => nofun) primitive).takesAs
    intro input rest once
    simp [Draft.member, restrict, fresh, given, once, bind, Except.bind, pure, Except.pure]

theorem restrict_keys {draft : Draft} {keys : List String}
    (all : ∀ entry ∈ draft.members, entry.1 ∈ keys) : draft.restrict keys = draft := by
  simp only [members, List.mem_append, or_imp, forall_and] at all
  obtain ⟨⟨⟨⟨cType, size⟩, align⟩, kind⟩, primitive⟩ := all
  rw [restrict, kept_part cType, kept_part size, kept_part align, kept_part kind,
    kept_part primitive]

/-- The members of a draft are taken in any order. -/
theorem takes_of_perm {draft : Draft} {entries : List (String × Value)}
    (order : entries.Perm draft.members) : Takes Draft.member Draft.empty entries draft :=
  Json.takes_of_perm (fun _ given _ => takesAs_restrict given) (fun _ => restrict_keys)
    draft.nodup_keys_members order

end Draft

theorem recovers_of_perm {draft : Draft} {entries : List (String × Value)} {layout : TypeLayout}
    (order : entries.Perm draft.members) (finished : draft.finish = .ok layout) :
    Recovers readJson (.object entries) layout :=
  (Draft.takes_of_perm order).recovers_record finished expected readElements

/-! ## Round trip -/

/-- The parts of a layout, each given if it is known. -/
def toDraft (layout : TypeLayout) : Draft where
  cType := some layout.cType
  size := some layout.size
  align := layout.align.map some
  kind := layout.kind.map some
  primitive := layout.primitive.map some

theorem finish_toDraft (layout : TypeLayout) : layout.toDraft.finish = .ok layout := by
  have joined : ∀ {α : Type} (part : Option α), (part.map some).join = part := by
    intro α part
    cases part <;> rfl
  simp only [toDraft, Draft.finish, joined]

theorem object_members_toDraft (layout : TypeLayout) :
    Value.object layout.toDraft.members = layout.toJson := by
  obtain ⟨cType, size, align, kind, primitive⟩ := layout
  cases align <;> cases kind <;> cases primitive <;> rfl

theorem recovers_toJson (layout : TypeLayout) : Recovers readJson layout.toJson layout := by
  rw [← object_members_toDraft]
  exact recovers_of_perm (.refl _) layout.finish_toDraft

/-- Every text that writes a layout is read as that layout. -/
theorem ofJson_of_written {layout : TypeLayout} {content : List Char}
    (written : layout.toJson.Written content) : ofJson (String.ofList content) = .ok layout := by
  have read := layout.recovers_toJson.document written isGap_nil
  rwa [List.append_nil] at read

/-- **Round trip.** A layout is read back from its compact and from its indented text. -/
theorem ofJson_toJson (layout : TypeLayout) :
    ofJson layout.toJson.compact = .ok layout ∧ ofJson layout.toJson.pretty = .ok layout := by
  constructor
  · exact ofJson_of_written layout.toJson.written_compactText
  · exact ofJson_of_written (layout.toJson.written_prettyText 0)

/-- The layouts a JSON text lists. -/
def listOfJson (text : String) : Except Json.Error (List TypeLayout) :=
  document (array readJson "a sequence") text

theorem listOfJson_pretty (layouts : List TypeLayout) :
    listOfJson ((Value.array (layouts.map toJson)).pretty ++ "\n") = .ok layouts := by
  have reads : List.Forall₂ (Recovers readJson) (layouts.map toJson) layouts := by
    rw [List.forall₂_map_left_iff, List.forall₂_same]
    intro layout member
    exact layout.recovers_toJson
  have text : (Value.array (layouts.map toJson)).pretty ++ "\n" =
      String.ofList ((Value.array (layouts.map toJson)).prettyText 0 ++ ['\n']) := by
    rw [String.ofList_append]
    rfl
  rw [text]
  exact (Recovers.array reads "a sequence").document (Value.written_prettyText 0 _)
    (Value.isGap_newLine 0)

/-! ## The primitive of a layout -/

/-- The primitive of a layout is the one that follows from its kind and size. -/
def FollowsKind (layout : TypeLayout) : Prop :=
  layout.primitive = layout.kind.bind fun kind => Primitive.ofLayout? kind layout.size

instance (layout : TypeLayout) : Decidable layout.FollowsKind :=
  inferInstanceAs (Decidable (layout.primitive = _))

/-- Reads what is given of a layout, whether that is enough or not. -/
def readDraft : Json.Reader Draft :=
  record expected Draft.member Draft.empty pure fun input =>
    (readElements input).map fun (layout, rest) => (layout.toDraft, rest)

/-- What a JSON text gives of a layout. -/
def draftOfJson (text : String) : Except Json.Error Draft :=
  document readDraft text

theorem draftOfJson_of_perm {draft : Draft} {entries : List (String × Value)}
    {content : List Char} (order : entries.Perm draft.members)
    (written : (Value.object entries).Written content) :
    draftOfJson (String.ofList content) = .ok draft := by
  have recovers : Recovers readDraft (.object entries) draft :=
    (Draft.takes_of_perm order).recovers_record rfl _ _
  have read := recovers.document written isGap_nil
  rwa [List.append_nil] at read

/-- A layout is read from a text by finishing what the text gives of it. -/
theorem exists_draft_of_ofJson {text : String} {layout : TypeLayout}
    (read : ofJson text = .ok layout) :
    ∃ draft, draftOfJson text = .ok draft ∧ draft.finish = .ok layout := by
  obtain ⟨rest, found, ended⟩ := document_eq_ok_iff.mp read
  rcases record_cases found with
    ⟨content, draft, behind, opened, collected, finished, closed⟩ |
      ⟨content, behind, opened, listed, closed⟩
  · have given : readDraft text.toList = .ok (draft, rest) :=
      record_of_object opened collected rfl closed
    exact ⟨draft, document_eq_ok_iff.mpr ⟨rest, given, ended⟩, finished⟩
  · refine ⟨layout.toDraft, document_eq_ok_iff.mpr ⟨rest, ?_, ended⟩, layout.finish_toDraft⟩
    apply record_of_array opened _ closed
    rw [listed]
    rfl

theorem followsKind_iff_of_finish {draft : Draft} {layout : TypeLayout}
    (finished : draft.finish = .ok layout) :
    layout.FollowsKind ↔
      draft.primitive.join =
        draft.kind.join.bind fun kind => Primitive.ofLayout? kind layout.size := by
  unfold Draft.finish at finished
  split at finished
  · cases finished
  · cases finished
  · cases finished
    rfl

/-- **Which layouts follow their kind.** A layout that is built from a kind or found by a probe
does. One that is read from any text does exactly when the primitive the text gives is the one
that follows from the kind and the size it gives. What a text gives of a layout are the members of
its object, in any order, where a part may be missing or `null`. -/
theorem followsKind_of_origin (layout : TypeLayout) :
    (∀ cType size align kind, layout = ofKind cType size align kind → layout.FollowsKind) ∧
    (∀ (probe : Probe) cType,
      (probe.layoutOf cType).outcome = .ok layout → layout.FollowsKind) ∧
    (∀ text, ofJson text = .ok layout → ∃ draft, draftOfJson text = .ok draft ∧
      draft.finish = .ok layout ∧
      (layout.FollowsKind ↔
        draft.primitive.join =
          draft.kind.join.bind fun kind => Primitive.ofLayout? kind layout.size)) ∧
    ∀ (draft : Draft) (entries : List (String × Value)) (content : List Char),
      entries.Perm draft.members → (Value.object entries).Written content →
      draftOfJson (String.ofList content) = .ok draft := by
  refine ⟨?_, ?_, ?_, ?_⟩
  · rintro cType size align kind rfl
    rfl
  · intro probe cType found
    obtain ⟨size, align, kind, -, -, -, rfl⟩ := Probe.outcome_layoutOf_eq_ok_iff.mp found
    rfl
  · intro text read
    obtain ⟨draft, given, finished⟩ := exists_draft_of_ofJson read
    exact ⟨draft, given, finished, followsKind_iff_of_finish finished⟩
  · intro draft entries content order written
    exact draftOfJson_of_perm order written

theorem followsKind_not_of_ofJson :
    ofJson "\x7b\"c_type\":\"int\",\"size\":4,\"rust\":\"f64\"\x7d" =
        .ok ⟨"int", 4, none, none, some .f64⟩ ∧
      ¬(⟨"int", 4, none, none, some .f64⟩ : TypeLayout).FollowsKind := by
  constructor
  · rfl
  · decide

end TypeLayout

end AbiProbe
