import AbiProbe.Text.Line

/-! # Lines of terminated texts

Behind a text whose last line is terminated the lines start afresh
(`AbiProbe.Text.lines_append`). Characters in front of the first end of a line
begin the first line (`AbiProbe.Text.exists_lines_append_eq_cons`), and no line holds a line feed.
A text made of lines with a line feed behind each is cut into them at its line feeds
(`AbiProbe.Text.consistsOf_join`).
-/

namespace AbiProbe.Text

/-- A text that does not break off within a line: an empty one, or one with a line feed at its
end. -/
def Terminated (text : List Char) : Prop :=
  ∀ last, text.getLast? = some last → last = '\n'

theorem terminated_nil : Terminated [] := by
  intro last impossible
  cases impossible

theorem terminated_concat (text : List Char) : Terminated (text ++ ['\n']) := by
  intro last ends
  rw [List.getLast?_concat] at ends
  exact (Option.some.inj ends).symm

theorem Terminated.append {first second : List Char} (terminated : Terminated first)
    (also : Terminated second) : Terminated (first ++ second) := by
  intro last ends
  rw [List.getLast?_append, Option.or_eq_some_iff] at ends
  rcases ends with ends | ⟨-, ends⟩
  · exact also last ends
  · exact terminated last ends

theorem Terminated.join {texts : List String}
    (terminated : ∀ text ∈ texts, Terminated text.toList) :
    Terminated (String.join texts).toList := by
  rw [String.toList_join]
  induction texts with
  | nil => exact terminated_nil
  | cons text texts ih =>
      rw [List.forall_mem_cons] at terminated
      rw [List.flatMap_cons]
      exact terminated.1.append (ih terminated.2)

theorem Terminated.tail {c : Char} {rest : List Char} (terminated : Terminated (c :: rest)) :
    Terminated rest := by
  cases rest with
  | nil => exact terminated_nil
  | cons d rest =>
      intro last ends
      exact terminated last (by rwa [List.getLast?_cons_cons])

theorem consToFirst_ne_nil (c : Char) (found : List (List Char)) : consToFirst c found ≠ [] := by
  cases found <;> exact List.cons_ne_nil _ _

theorem lines_cons_ne_nil (c : Char) (rest : List Char) : lines (c :: rest) ≠ [] := by
  unfold lines
  split
  · contradiction
  · exact List.cons_ne_nil _ _
  · exact List.cons_ne_nil _ _
  · exact consToFirst_ne_nil _ _

theorem consToFirst_append {c : Char} {first : List (List Char)} (nonempty : first ≠ [])
    (second : List (List Char)) :
    consToFirst c (first ++ second) = consToFirst c first ++ second := by
  cases first with
  | nil => exact absurd rfl nonempty
  | cons line lines => rfl

/-- **The lines of a terminated text end with it.** What stands behind has its own lines. -/
theorem lines_append {front : List Char} (terminated : Terminated front) (tail : List Char) :
    lines (front ++ tail) = lines front ++ lines tail := by
  fun_induction lines front with
  | case1 => rfl
  | case2 rest ih =>
      rw [List.cons_append, lines_lineFeed, ih terminated.tail, List.cons_append]
  | case3 rest ih =>
      change [] :: lines (rest ++ tail) = _
      rw [ih terminated.tail.tail, List.cons_append]
  | case4 c rest inside noEnd ih =>
      cases rest with
      | nil => exact absurd (terminated c rfl) inside
      | cons d rest =>
          have apart : c = '\r' → (d :: rest ++ tail).head? ≠ some '\n' := by
            intro same ends
            obtain rfl : d = '\n' := Option.some.inj ends
            exact noEnd rest same rfl
          rw [List.cons_append, lines_cons inside apart, ih terminated.tail,
            consToFirst_append (lines_cons_ne_nil d rest)]

/-- Characters without a line end begin the first line of a text that begins with them. -/
theorem exists_lines_append_eq_cons (start : List Char) (given : start ≠ [])
    (noFeed : '\n' ∉ start) (noReturn : '\r' ∉ start) (rest : List Char) :
    ∃ line more, lines (start ++ rest) = (start ++ line) :: more := by
  induction start with
  | nil => exact absurd rfl given
  | cons c start ih =>
      simp only [List.mem_cons, not_or] at noFeed noReturn
      have step : lines (c :: (start ++ rest)) = consToFirst c (lines (start ++ rest)) :=
        lines_cons (Ne.symm noFeed.1) fun same => absurd same.symm noReturn.1
      rw [List.cons_append, step]
      cases start with
      | nil =>
          rw [List.nil_append]
          cases lines rest with
          | nil => exact ⟨[], [], rfl⟩
          | cons line more => exact ⟨line, more, rfl⟩
      | cons d start =>
          obtain ⟨line, more, split⟩ := ih (List.cons_ne_nil d start) noFeed.2 noReturn.2
          rw [split]
          exact ⟨line, more, rfl⟩

theorem exists_line_of_append (start : List Char) (given : start ≠ [])
    (noFeed : '\n' ∉ start) (noReturn : '\r' ∉ start) (rest : List Char) :
    ∃ line ∈ lines (start ++ rest), start <+: line := by
  obtain ⟨line, more, split⟩ := exists_lines_append_eq_cons start given noFeed noReturn rest
  exact ⟨start ++ line, split ▸ List.mem_cons_self, List.prefix_append start line⟩

/-- A line holds no line feed. -/
theorem lineFeed_notMem_of_mem_lines {text line : List Char} (member : line ∈ lines text) :
    '\n' ∉ line := by
  fun_induction lines text generalizing line with
  | case1 => cases member
  | case2 rest ih | case3 rest ih =>
      rcases List.mem_cons.mp member with rfl | later
      · exact List.not_mem_nil
      · exact ih later
  | case4 c rest inside _ ih =>
      cases found : lines rest with
      | nil =>
          rw [found, consToFirst, List.mem_singleton] at member
          rw [member, List.mem_singleton]
          exact Ne.symm inside
      | cons first more =>
          rw [found, consToFirst, List.mem_cons] at member
          rcases member with rfl | later
          · rw [List.mem_cons, not_or]
            exact ⟨Ne.symm inside, ih (found ▸ List.mem_cons_self)⟩
          · exact ih (found ▸ List.mem_cons_of_mem _ later)

/-! ## Cutting at line feeds -/

/-- A text consists of some lines when cutting it at its line feeds gives these lines and nothing
behind the last line feed. -/
def ConsistsOf (text : String) (lines : List String) : Prop :=
  text.toList.splitOn '\n' = lines.map String.toList ++ [[]]

theorem consistsOf_join {lines : List String} (noFeed : ∀ line ∈ lines, '\n' ∉ line.toList) :
    ConsistsOf (String.join (lines.map (· ++ "\n"))) lines := by
  unfold ConsistsOf
  rw [String.toList_join]
  induction lines with
  | nil => rfl
  | cons line lines ih =>
      rw [List.forall_mem_cons] at noFeed
      have first (rest : List Char) :
          (line ++ "\n").toList ++ rest = line.toList ++ '\n' :: rest := by
        simp
      rw [List.map_cons, List.flatMap_cons, first,
        List.splitOn_append_cons_self_of_not_mem noFeed.1, ih noFeed.2, List.map_cons,
        List.cons_append]

/-- The text that is left when the lines between its line feeds that are unwanted are deleted,
each with its line feed. -/
def withoutLines (unwanted : List String) (text : String) : String :=
  String.ofList (['\n'].intercalate
    ((text.toList.splitOn '\n').filter fun line => String.ofList line ∉ unwanted))

/-- What is left consists of the lines that are not unwanted. -/
theorem withoutLines_eq {unwanted lines : List String} {text left : String}
    (consists : ConsistsOf text lines) (kept : ConsistsOf left (lines.filter (· ∉ unwanted)))
    (given : "" ∉ unwanted) : withoutLines unwanted text = left := by
  have filtered : ((lines.map String.toList).filter fun line => String.ofList line ∉ unwanted) =
      (lines.filter (· ∉ unwanted)).map String.toList := by
    rw [List.filter_map]
    congr 2
    funext line
    rw [Function.comp_apply, String.ofList_toList]
  have last : ([[]].filter fun line => String.ofList line ∉ unwanted) = [[]] :=
    List.filter_cons_of_pos (by simpa using given)
  unfold ConsistsOf at consists kept
  rw [withoutLines, consists, List.filter_append, filtered, last, ← kept,
    List.intercalate_splitOn, String.ofList_toList]

end AbiProbe.Text
