/-! # Lines of a text

A line ends with a line feed or with a carriage return and a line feed; neither belongs to
the line. A text that does not end with a line feed has an unterminated last line, and a
carriage return at its very end belongs to that line. The empty text has no line.
-/

namespace AbiProbe.Text

/-- Puts a character in front of the first line; without a line it is a line of its own. -/
def consToFirst (c : Char) : List (List Char) → List (List Char)
  | [] => [[c]]
  | line :: rest => (c :: line) :: rest

/-- The lines of a text, without their ends. -/
def lines : List Char → List (List Char)
  | [] => []
  | '\n' :: rest => [] :: lines rest
  | '\r' :: '\n' :: rest => [] :: lines rest
  | c :: rest => consToFirst c (lines rest)

@[simp]
theorem lines_nil : lines [] = [] := rfl

@[simp]
theorem lines_lineFeed (rest : List Char) : lines ('\n' :: rest) = [] :: lines rest := by
  simp [lines]

/-- A character that does not end a line goes into the line behind it. -/
theorem lines_cons {c : Char} {rest : List Char} (inside : c ≠ '\n')
    (noEnd : c = '\r' → rest.head? ≠ some '\n') :
    lines (c :: rest) = consToFirst c (lines rest) := by
  rw [lines]
  · exact inside
  · rintro after same rfl
    exact noEnd same rfl

/-- Text up to a line feed is one line when it has no line feed and no carriage return at its end. -/
theorem lines_append_lineFeed {line : List Char} (noFeed : '\n' ∉ line)
    (noReturn : line.getLast? ≠ some '\r') (rest : List Char) :
    lines (line ++ '\n' :: rest) = line :: lines rest := by
  induction line with
  | nil => simp
  | cons c line ih =>
      rw [List.mem_cons, not_or] at noFeed
      cases line with
      | nil =>
          have step : lines (c :: '\n' :: rest) = consToFirst c (lines ('\n' :: rest)) :=
            lines_cons (Ne.symm noFeed.1) fun same => absurd (congrArg some same) noReturn
          rw [List.singleton_append, step, lines_lineFeed, consToFirst]
      | cons d line =>
          have step : lines (c :: (d :: line ++ '\n' :: rest)) =
              consToFirst c (lines (d :: line ++ '\n' :: rest)) := by
            refine lines_cons (Ne.symm noFeed.1) fun _ ends => noFeed.2 ?_
            obtain rfl : d = '\n' := Option.some.inj ends
            exact List.mem_cons_self
          rw [List.getLast?_cons_cons] at noReturn
          rw [List.cons_append, step, ih noFeed.2 noReturn, consToFirst]

/-- The lines of a string, without their ends. -/
def linesOf (text : String) : List String :=
  (lines text.toList).map String.ofList

end AbiProbe.Text
