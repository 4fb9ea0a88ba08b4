import AbiProbe.Proofs.Bindings.Generation
import AbiProbe.Proofs.Bindings.Reading
import AbiProbe.Toolchain.Script

/-! # What generated declarations mean

The declarations of a source text share one scope, in which a declared alias takes the place of
a primitive of its name (`AbiProbe.Denotes`). So the declaration of an item means what was found
for it exactly when no alias has the name of the primitive to which it refers
(`AbiProbe.Bindings.conveys_iff_uncaptured`); an alias that has the name of its own primitive
means nothing at all.
-/

namespace AbiProbe

/-- What a name in the place of a type denotes in the scope of declarations: a declared alias
what its target denotes, and a primitive itself unless an alias of its name is declared. A name
from which the aliases lead in a circle denotes nothing. -/
inductive Denotes (declarations : List Declaration) : String → Primitive → Prop
  | builtin {primitive : Primitive}
      (undeclared : ∀ target, Declaration.typeAlias primitive.name target ∉ declarations) :
      Denotes declarations primitive.name primitive
  | declared {name target : String} {primitive : Primitive}
      (member : Declaration.typeAlias name target ∈ declarations)
      (onward : Denotes declarations target primitive) : Denotes declarations name primitive

/-- Whether declarations say of a name what its item says: an alias leads to its primitive, and
the type with which a constant is declared is the one its value was found in. -/
def Conveys (declarations : List Declaration) : String × Item → Prop
  | (name, .typeAlias primitive) => Denotes declarations name primitive
  | (name, .signedConstant value) =>
      Declaration.constant name "i64" value.toInt ∈ declarations ∧
        Denotes declarations "i64" .i64
  | (name, .unsignedConstant value) =>
      Declaration.constant name "u64" value.toNat ∈ declarations ∧
        Denotes declarations "u64" .u64

/-- Whatever a name denotes, no alias takes the place of that. -/
theorem Denotes.undeclared {declarations : List Declaration} {name : String}
    {primitive : Primitive} (denotes : Denotes declarations name primitive) :
    ∀ target, Declaration.typeAlias primitive.name target ∉ declarations := by
  induction denotes with
  | builtin undeclared => exact undeclared
  | declared _ _ ih => exact ih

/-- The name of a primitive denotes it exactly when it is not the name of an alias. -/
theorem denotes_name_iff {declarations : List Declaration} {primitive : Primitive} :
    Denotes declarations primitive.name primitive ↔
      ∀ target, Declaration.typeAlias primitive.name target ∉ declarations :=
  ⟨Denotes.undeclared, .builtin⟩

namespace Bindings

/-- The aliases among the declarations of entries are those of the entries. -/
theorem typeAlias_mem_map_ofEntry {entries : List (String × Item)} {name target : String} :
    Declaration.typeAlias name target ∈ entries.map Declaration.ofEntry ↔
      ∃ primitive, (name, Item.typeAlias primitive) ∈ entries ∧ primitive.name = target := by
  rw [List.mem_map]
  constructor
  · rintro ⟨⟨entryName, item⟩, member, same⟩
    cases item with
    | typeAlias primitive =>
        simp only [Declaration.ofEntry, Declaration.typeAlias.injEq] at same
        obtain ⟨rfl, rfl⟩ := same
        exact ⟨primitive, member, rfl⟩
    | signedConstant value => cases same
    | unsignedConstant value => cases same
  · rintro ⟨primitive, member, rfl⟩
    exact ⟨_, member, rfl⟩

/-- An entry is conveyed exactly when no alias has the name of its primitive. -/
theorem conveys_map_ofEntry_iff {entries : List (String × Item)} {entry : String × Item}
    (member : entry ∈ entries) :
    Conveys (entries.map Declaration.ofEntry) entry ↔
      ∀ primitive, (entry.2.primitive.name, Item.typeAlias primitive) ∉ entries := by
  have uncaptured : Denotes (entries.map Declaration.ofEntry) entry.2.primitive.name
        entry.2.primitive ↔
      ∀ primitive, (entry.2.primitive.name, Item.typeAlias primitive) ∉ entries := by
    simp only [denotes_name_iff, typeAlias_mem_map_ofEntry]
    constructor
    · intro free primitive captured
      exact free _ ⟨primitive, captured, rfl⟩
    · rintro free _ ⟨primitive, captured, rfl⟩
      exact free primitive captured
  have listed := List.mem_map_of_mem (f := Declaration.ofEntry) member
  obtain ⟨name, item⟩ := entry
  cases item with
  | typeAlias primitive =>
      rw [← uncaptured]
      exact ⟨fun conveys => .builtin conveys.undeclared, .declared listed⟩
  | signedConstant value => exact (and_iff_right listed).trans uncaptured
  | unsignedConstant value => exact (and_iff_right listed).trans uncaptured

/-- **What generated declarations mean.** The source text of generated bindings is read in one
way, whatever its style, and its declarations convey an item exactly when no generated alias has
the name of the primitive to which the declaration of the item refers. The visibility is read as
one mark in front of a declaration, whatever stands in it; declarations written into the
visibility itself are none of these. -/
theorem conveys_iff_uncaptured (probe : Probe) (requests : List Request) (bindings : Bindings)
    (generated : (probe.generate requests).outcome = .ok bindings) (style : EmissionStyle) :
    ∃ declarations, style.Reads (bindings.render style) declarations ∧
      (∀ others, style.Reads (bindings.render style) others → others = declarations) ∧
      ∀ entry ∈ bindings.entries,
        Conveys declarations entry ↔
          ∀ primitive, (entry.2.primitive.name, Item.typeAlias primitive) ∉ bindings.entries := by
  have reads := reads_render (Probe.spelled_of_generate generated) style
  exact ⟨_, reads, fun others also => also.unique reads,
    fun entry member => conveys_map_ofEntry_iff member⟩

/-- An alias with the name of its own primitive denotes nothing: the scope has no other alias of
that name, so the way from the name never leaves it. -/
theorem not_denotes_of_self_alias (bindings : Bindings) {primitive : Primitive}
    (captured : (primitive.name, Item.typeAlias primitive) ∈ bindings.entries)
    (other : Primitive) :
    ¬Denotes (bindings.entries.map Declaration.ofEntry) primitive.name other := by
  intro denotes
  -- The induction goes along the aliases, and every step of it starts at the same name.
  generalize start : primitive.name = name at denotes
  induction denotes with
  | builtin undeclared =>
      rw [← start] at undeclared
      exact undeclared _ (typeAlias_mem_map_ofEntry.mpr ⟨primitive, captured, rfl⟩)
  | declared member _ ih =>
      obtain ⟨next, listed, rfl⟩ := typeAlias_mem_map_ofEntry.mp member
      rw [← start] at listed
      have same := bindings.item_unique captured listed
      exact ih (congrArg Primitive.name (Item.typeAlias.inj same))

/-! ## Two probes -/

/-- A probe whose programs all compile and print the same text. -/
def printingProbe (text : String) : Probe where
  includes := .ofHeaders []
  workDir := "."
  toolchain := {
    compile := fun _ => .ok (Toolchain.printed 0 "" "")
    run := fun _ => .ok (Toolchain.printed 0 text "") }

/-- A probe to which every type is an unsigned integer of one byte. -/
def byteProbe : Probe where
  includes := .ofHeaders []
  workDir := "."
  toolchain := .ofScript
    [⟨["sizeof"], .ok (Toolchain.printed 0 "" ""), .ok (Toolchain.printed 0 "1\n" "")⟩,
      ⟨[], .ok (Toolchain.printed 0 "" ""), .ok (Toolchain.printed 0 "false\n" "")⟩]

/-- A single answered request gives bindings of one name. -/
private theorem generate_singleton {probe : Probe} {request : Request} {item : Item}
    (answered : probe.verdict request = .ok item) :
    (probe.generate [request]).outcome = .ok (empty.insert request.name item) := by
  have given : ∀ asked ∈ [request], probe.verdict asked = .ok ((fun _ => item) asked) := by
    rintro asked member
    rwa [List.mem_singleton.mp member]
  exact (Probe.foldlM_extend_of_answered given empty).1

/-- A constant that is found to be seven is conveyed, since no alias is called `i64`. -/
theorem conveys_iff_uncaptured_constant :
    ((printingProbe "7\n").generate [.signedConstant "LIMIT"]).outcome =
        .ok (empty.insert "LIMIT" (.signedConstant 7)) ∧
      ∃ declarations,
        EmissionStyle.standard.Reads
          ((empty.insert "LIMIT" (.signedConstant 7)).render .standard) declarations ∧
        Conveys declarations ("LIMIT", .signedConstant 7) := by
  have generated : ((printingProbe "7\n").generate [.signedConstant "LIMIT"]).outcome =
      .ok (empty.insert "LIMIT" (.signedConstant 7)) :=
    generate_singleton (by decide +kernel)
  refine ⟨generated, ?_⟩
  obtain ⟨declarations, reads, -, conveyed⟩ :=
    conveys_iff_uncaptured _ _ _ generated EmissionStyle.standard
  refine ⟨declarations, reads, (conveyed _ List.mem_cons_self).mpr ?_⟩
  intro primitive captured
  have named : "i64" = "LIMIT" := congrArg Prod.fst (List.mem_singleton.mp captured)
  exact absurd named (by decide)

/-- **An alias may capture itself.** A type called `u8` that is an unsigned byte is declared as
an alias of itself, so its name denotes no primitive. -/
theorem alias_captures_itself :
    ∃ declarations, (byteProbe.generate [.typeAlias "u8"]).outcome =
        .ok (empty.insert "u8" (.typeAlias .u8)) ∧
      EmissionStyle.standard.Reads
        ((empty.insert "u8" (.typeAlias .u8)).render .standard) declarations ∧
      ∀ primitive, ¬Denotes declarations "u8" primitive := by
  have answered : byteProbe.verdict (.typeAlias "u8") = .ok (.typeAlias .u8) := by
    decide +kernel
  have generated := generate_singleton answered
  have captured : (Primitive.u8.name, Item.typeAlias .u8) ∈
      (empty.insert "u8" (.typeAlias .u8)).entries := List.mem_cons_self
  exact ⟨_, generated, reads_render (Probe.spelled_of_generate generated) _,
    not_denotes_of_self_alias _ captured⟩

end Bindings

end AbiProbe
