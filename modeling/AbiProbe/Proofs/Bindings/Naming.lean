import AbiProbe.Proofs.Bindings.Reading
import Mathlib.Data.List.Nodup

/-! # Declared identifiers

A declaration declares the spelling of a name. Without its mark that is the name itself
(`AbiProbe.Declaration.withoutMark_identifier`), so the declarations of bindings declare as many
identifiers as there are names, and nothing is defined twice
(`AbiProbe.Bindings.spellings_faithful`).
-/

namespace AbiProbe

open Identifier

/-- The identifier that stands in the text of a declaration. -/
def Declaration.identifier (declaration : Declaration) : String :=
  Bindings.spelling declaration.name

theorem Declaration.withoutMark_identifier {declaration : Declaration}
    (spelled : (rustSpelling? declaration.name).isSome) :
    withoutMark declaration.identifier = declaration.name := by
  obtain ⟨spelling, known⟩ := Option.isSome_iff_exists.mp spelled
  rw [identifier, Bindings.spelling_eq_of_rustSpelling? known]
  exact withoutMark_of_spelled known

namespace Bindings

/-- Without their marks, the identifiers declared for entries are the names of the entries. -/
theorem map_withoutMark_identifier {entries : List (String × Item)}
    (spelled : ∀ entry ∈ entries, (rustSpelling? entry.1).isSome) :
    (entries.map Declaration.ofEntry).map (withoutMark ∘ Declaration.identifier) =
      entries.map Prod.fst := by
  rw [List.map_map]
  apply List.map_congr_left
  intro entry member
  have named := Declaration.name_ofEntry entry
  rw [Function.comp_apply, Function.comp_apply, Declaration.withoutMark_identifier, named]
  rw [named]
  exact spelled entry member

/-- **Spellings are faithful.** The names with a spelling are those of the form of an identifier,
but for five. A name is spelled as itself, and then is no keyword, or behind the mark of a raw
identifier, and then is one; without the mark its spelling is the name, so no two names share one.
Hence the source text of bindings, which is read in one way, declares no identifier twice, not even
if marks are left out. -/
theorem spellings_faithful :
    (∀ name, (rustSpelling? name).isSome ↔
      IsName name ∧ name ∉ ["_", "crate", "self", "Self", "super"]) ∧
    (∀ name spelling, rustSpelling? name = some spelling →
      ((spelling = name ∧ ¬IsKeyword name) ∨ (spelling = "r#" ++ name ∧ IsKeyword name)) ∧
        withoutMark spelling = name) ∧
    (∀ first second spelling, rustSpelling? first = some spelling →
      rustSpelling? second = some spelling → first = second) ∧
    ∀ (bindings : Bindings) (style : EmissionStyle), bindings.Spellable →
      ∃ declarations, style.Reads (bindings.render style) declarations ∧
        (∀ others, style.Reads (bindings.render style) others → others = declarations) ∧
        (declarations.map Declaration.identifier).Nodup ∧
        (declarations.map (withoutMark ∘ Declaration.identifier)).Nodup := by
  refine ⟨isSome_rustSpelling?_iff, fun name spelling spelled => ?_,
    fun _ _ _ => rustSpelling?_injective, fun bindings style spellable => ?_⟩
  · exact ⟨spelled_cases spelled, withoutMark_of_spelled spelled⟩
  · have reads := reads_render spellable style
    have names := map_withoutMark_identifier spellable
    have unmarked : ((bindings.entries.map Declaration.ofEntry).map
        (withoutMark ∘ Declaration.identifier)).Nodup := names ▸ bindings.nodup
    refine ⟨_, reads, fun others also => also.unique reads, ?_, unmarked⟩
    rw [← List.map_map] at unmarked
    exact List.Nodup.of_map withoutMark unmarked

/-- A keyword is spelled with a mark and no other name like it, and beside a name that differs in
one letter it is declared by an identifier of its own. -/
theorem spellings_faithful_keyword :
    let bindings := (empty.insert "match" (.typeAlias .u8)).insert "Match" (.signedConstant (-1))
    rustSpelling? "match" = some "r#match" ∧ IsKeyword "match" ∧ withoutMark "r#match" = "match" ∧
      (∀ other, rustSpelling? other = some "r#match" → other = "match") ∧ bindings.Spellable ∧
      ∃ declarations, EmissionStyle.standard.Reads (bindings.render .standard) declarations ∧
        (declarations.map Declaration.identifier).Nodup ∧
        (declarations.map (withoutMark ∘ Declaration.identifier)).Nodup := by
  intro bindings
  have spelled : rustSpelling? "match" = some "r#match" := by decide
  have spellable : bindings.Spellable := by
    intro entry member
    rcases List.mem_pair.mp member with rfl | rfl <;> decide
  obtain ⟨-, told, apart, declared⟩ := spellings_faithful
  obtain ⟨cases, unmarked⟩ := told "match" "r#match" spelled
  obtain ⟨-, keyword⟩ := cases.resolve_left fun same => absurd same.1 (by decide)
  obtain ⟨declarations, reads, -, distinct⟩ := declared bindings .standard spellable
  exact ⟨spelled, keyword, unmarked, fun other also => apart other _ _ also spelled, spellable,
    declarations, reads, distinct⟩

end Bindings

end AbiProbe
