import AbiProbe.Proofs.Json.Reading
import Mathlib.Data.List.Perm.Subperm

/-! # Members that are refused

A reader that refuses a member at its key does not come to what stands behind the key. So an object
is refused for its first such member, and the text need not go on as JSON
(`AbiProbe.Json.Takes.record_refused`).
-/

namespace AbiProbe.Json

variable {α σ : Type}

/-- A text that spells some members of an object and the key of one more, whatever stands behind
that key. -/
inductive SpelledUpTo (key : String) : Bool → List (String × Value) → List Char → Prop
  | key {first : Bool} {separator form : List Char} (separates : Separates first separator)
      (spelled : SpelledChars key.toList form) (behind : List Char) :
      SpelledUpTo key first [] (separator ++ (quoted form ++ behind))
  | member {first : Bool} {name : String} {value : Value} {others : List (String × Value)}
      {separator form before after content more : List Char}
      (separates : Separates first separator) (spelled : SpelledChars name.toList form)
      (blankBefore : IsGap before) (blankAfter : IsGap after) (head : value.Spelled content)
      (tail : SpelledUpTo key false others more) :
      SpelledUpTo key first ((name, value) :: others)
        (separator ++ (quoted form ++ (before ++ ':' :: (after ++ (content ++ more)))))

/-- The members of an object are spelled up to the key of any of them. -/
theorem Value.SpelledMembers.upTo {key : String} {value : Value} {first : Bool}
    {front behind : List (String × Value)} {content : List Char}
    (spelled : SpelledMembers first (front ++ (key, value) :: behind) content) (rest : List Char) :
    SpelledUpTo key first front (content ++ rest) := by
  induction front generalizing first content with
  | nil =>
      cases spelled with
      | member separates keyed =>
          simp only [List.append_assoc]
          exact .key separates keyed _
  | cons entry front ih =>
      cases spelled with
      | member separates keyed blankBefore blankAfter head tail =>
          simp only [List.append_assoc, List.cons_append]
          exact .member separates keyed blankBefore blankAfter head (ih tail)

namespace SpelledUpTo

variable {key : String} {entries : List (String × Value)} {content : List Char}

theorem follows (spelled : SpelledUpTo key false entries content) : Follows content := by
  cases spelled with
  | key separates | member separates =>
      cases separates with
      | next blankBehind =>
          rw [List.append_assoc, List.cons_append]
          exact follows_gap blankBehind (.cons (by decide) _)

theorem length_lt {first : Bool} (spelled : SpelledUpTo key first entries content) :
    entries.length < content.length := by
  induction spelled with
  | key =>
      simp only [quoted, List.length_append, List.length_cons, List.length_nil]
      omega
  | member _ _ _ _ _ _ ih =>
      simp only [List.length_append, List.length_cons]
      omega

end SpelledUpTo

/-- An element that a list gains and had before stands behind another place of it. -/
theorem exists_repeated {before after : List α} {entry : α} (repeated : entry ∈ before ++ after) :
    ∃ first behind, before ++ entry :: after = first ++ entry :: behind ∧ entry ∈ first ∧
      first.Subperm (before ++ after) := by
  rcases List.mem_append.mp repeated with earlier | later
  · exact ⟨before, after, rfl, earlier, (List.sublist_append_left before after).subperm⟩
  · obtain ⟨between, behind, rfl⟩ := List.append_of_mem later
    refine ⟨before ++ entry :: between, behind, ?_, ?_, ?_⟩
    · rw [List.append_assoc, List.cons_append]
    · exact List.mem_append_right before List.mem_cons_self
    · have kept : (before ++ entry :: between).Sublist (before ++ entry :: (between ++ behind)) :=
        (List.Sublist.cons_cons entry (List.sublist_append_left between behind)).append_left before
      exact kept.subperm.trans (List.perm_middle.symm.append_left before).subperm

section Refused

variable {member : σ → String → Reader σ} {state met : σ} {entries : List (String × Value)}
  {key : String} {fault : Error}

/-- A key that is refused after the members before it were taken is the fault of them all. -/
theorem Takes.members_refused (takes : Takes member state entries met)
    (refused : ∀ input, member met key input = .error fault) {first : Bool} {content : List Char}
    (spelled : SpelledUpTo key first entries content) {fuel : Nat}
    (enough : entries.length < fuel) : members member fuel first state content = .error fault := by
  induction takes generalizing first content fuel with
  | nil state =>
      obtain ⟨fuel, rfl⟩ := Nat.exists_eq_succ_of_ne_zero (Nat.ne_zero_of_lt enough)
      cases spelled with
      | key separates keyed behind =>
          rw [members_of_key (nextKey_separated separates _ behind) keyed, refused]
          rfl
  | cons head takes ih =>
      obtain ⟨fuel, rfl⟩ := Nat.exists_eq_succ_of_ne_zero (Nat.ne_zero_of_lt enough)
      cases spelled with
      | member separates keyed blankBefore blankAfter content tail =>
          -- The member in front is taken, and the fault is that of what stands behind it.
          have taken := head blankBefore blankAfter content tail.follows
          rw [members_of_key (nextKey_separated separates _ _) keyed, taken]
          exact ih refused tail (Nat.lt_of_succ_lt_succ enough)

/-- A record is refused for the first member whose key is refused. -/
theorem Takes.record_refused (takes : Takes member state entries met)
    (refused : ∀ input, member met key input = .error fault) {content gap : List Char}
    (spelled : SpelledUpTo key true entries content) (blank : IsGap gap) (expected : String)
    (finish : σ → Except Error α) (fields : Reader α) :
    document (record expected member state finish fields) (String.ofList (gap ++ '{' :: content)) =
      .error fault := by
  have enough : entries.length < content.length + 1 := Nat.lt_succ_of_lt spelled.length_lt
  have failed := takes.members_refused refused spelled enough
  rw [document, String.toList_ofList, record, skipBlanks_gap blank, skipBlanks_token rfl]
  simp only [failed, bind, Except.bind]

end Refused

end AbiProbe.Json
