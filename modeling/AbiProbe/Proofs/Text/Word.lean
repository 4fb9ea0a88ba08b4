import AbiProbe.Text.Blank

/-! # Words and blank texts

A text has no word exactly when it is blank, which is to say that all its characters are
(`AbiProbe.Text.wordsOf_eq_nil_iff`). Words set apart by blanks are the words of the text they
make (`AbiProbe.Text.Spaced.wordsOf_eq`).
-/

namespace AbiProbe.Text

/-- A blank in front of a text is part of no word. -/
theorem words_cons_of_isBlank {c : Char} (blank : isBlank c = true) (text : List Char) :
    words (c :: text) = words text := by
  unfold words
  rw [List.splitOnP_cons_eq_if_modifyHead, if_pos blank, List.filter_cons_of_neg]
  simp

/-- A character that is no blank begins a word. -/
theorem words_cons_ne_nil {c : Char} (solid : isBlank c = false) (text : List Char) :
    words (c :: text) ≠ [] := by
  obtain ⟨piece, pieces, split⟩ :=
    List.exists_cons_of_ne_nil (List.splitOnP_ne_nil isBlank text)
  have kept : (c :: piece) ∈ words (c :: text) := by
    unfold words
    rw [List.splitOnP_cons_eq_if_modifyHead, solid, split, List.modifyHead_cons]
    simp
  exact List.ne_nil_of_mem kept

theorem words_eq_nil_iff {text : List Char} :
    words text = [] ↔ ∀ c ∈ text, isBlank c = true := by
  induction text with
  | nil => simp
  | cons c text ih =>
      rw [List.forall_mem_cons]
      cases blank : isBlank c with
      | true => rw [words_cons_of_isBlank blank, ih, eq_self, true_and]
      | false => simp [words_cons_ne_nil blank]

theorem wordsOf_eq_nil_iff {text : String} :
    wordsOf text = [] ↔ ∀ c ∈ text.toList, isBlank c = true := by
  rw [wordsOf, List.map_eq_nil_iff, words_eq_nil_iff]

/-! ## Words set apart -/

/-- A text that is not empty and holds no blank. -/
structure IsWord (word : String) : Prop where
  nonempty : word ≠ ""
  solid : ∀ c ∈ word.toList, isBlank c = false

/-- Words with blanks between any two of them, and perhaps behind the last. -/
inductive Spaced : List String → String → Prop
  | last {word behind : String} (isWord : IsWord word)
      (blank : ∀ c ∈ behind.toList, isBlank c = true) : Spaced [word] (word ++ behind)
  | next {word gap text : String} {words : List String} (isWord : IsWord word) (given : gap ≠ "")
      (blank : ∀ c ∈ gap.toList, isBlank c = true) (others : Spaced words text) :
      Spaced (word :: words) (word ++ (gap ++ text))

theorem words_append_of_blank {gap : List Char} (blank : ∀ c ∈ gap, isBlank c = true)
    (text : List Char) : words (gap ++ text) = words text := by
  induction gap with
  | nil => rfl
  | cons c gap ih =>
      rw [List.forall_mem_cons] at blank
      rw [List.cons_append, words_cons_of_isBlank blank.1, ih blank.2]

/-- A word ends where a blank stands, or the text. -/
theorem words_append_of_isWord {word : String} (isWord : IsWord word) {rest : List Char}
    (ends : ∀ c, rest.head? = some c → isBlank c = true) :
    words (word.toList ++ rest) = word.toList :: words rest := by
  have whole : word.toList.splitOnP isBlank = [word.toList] :=
    List.splitOnP_eq_singleton isWord.solid
  have kept : ([word.toList].filter fun word => !word.isEmpty) = [word.toList] :=
    List.filter_cons_of_pos (by simpa using isWord.nonempty)
  cases rest with
  | nil =>
      unfold words
      rw [List.append_nil, whole, kept]
      rfl
  | cons c rest =>
      rw [words_cons_of_isBlank (ends c rfl)]
      unfold words
      rw [List.splitOnP_append_cons _ _ (ends c rfl), whole, List.filter_append, kept]
      rfl

/-- **Words set apart by blanks are read back.** Blanks in front of them play no part. -/
theorem Spaced.wordsOf_eq {front text : String} {found : List String}
    (blank : ∀ c ∈ front.toList, isBlank c = true) (spaced : Spaced found text) :
    wordsOf (front ++ text) = found := by
  rw [wordsOf, String.toList_append, words_append_of_blank blank]
  induction spaced with
  | @last word behind isWord blankBehind =>
      have ends : ∀ c, behind.toList.head? = some c → isBlank c = true :=
        fun c first => blankBehind c (List.mem_of_head? first)
      rw [String.toList_append, words_append_of_isWord isWord ends,
        words_eq_nil_iff.mpr blankBehind, List.map_singleton, String.ofList_toList]
  | @next word gap text words isWord given blankGap _ ih =>
      have ends : ∀ c, (gap ++ text).toList.head? = some c → isBlank c = true := by
        intro c first
        obtain ⟨head, tail, split⟩ : ∃ head tail, gap.toList = head :: tail :=
          List.exists_cons_of_ne_nil (by simpa using given)
        rw [String.toList_append, split] at first
        obtain rfl := Option.some.inj first
        exact blankGap _ (split ▸ List.mem_cons_self)
      rw [String.toList_append, words_append_of_isWord isWord ends, String.toList_append,
        words_append_of_blank blankGap, List.map_cons, ih, String.ofList_toList]

end AbiProbe.Text
