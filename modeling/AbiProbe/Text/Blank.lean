/-! # Blanks, trimming and words

A blank is a character with the Unicode property `White_Space`. A text is trimmed by
dropping the blanks at both ends (`AbiProbe.Text.trim`) and split into the maximal
stretches that hold no blank (`AbiProbe.Text.words`).
-/

namespace AbiProbe.Text

/-- The code points with the Unicode property `White_Space`, as inclusive ranges. -/
def blankRanges : List (Nat × Nat) :=
  [(0x9, 0xD), (0x20, 0x20), (0x85, 0x85), (0xA0, 0xA0), (0x1680, 0x1680), (0x2000, 0x200A),
    (0x2028, 0x2029), (0x202F, 0x202F), (0x205F, 0x205F), (0x3000, 0x3000)]

/-- A blank is a character with the Unicode property `White_Space`. -/
def isBlank (c : Char) : Bool :=
  blankRanges.any fun (low, high) => low ≤ c.toNat && c.toNat ≤ high

/-- The text without the blanks it starts with. -/
def trimStart (text : List Char) : List Char :=
  text.dropWhile isBlank

/-- The text without the blanks it ends with. -/
def trimEnd (text : List Char) : List Char :=
  (text.reverse.dropWhile isBlank).reverse

/-- The text without the blanks at its two ends. -/
def trim (text : List Char) : List Char :=
  trimEnd (trimStart text)

/-- The maximal stretches of a text that hold no blank, in order. -/
def words (text : List Char) : List (List Char) :=
  (text.splitOnP isBlank).filter fun word => !word.isEmpty

@[simp]
theorem trim_nil : trim [] = [] := rfl

@[simp]
theorem words_nil : words [] = [] := rfl

/-- The words of a string: the maximal stretches that hold no blank. -/
def wordsOf (text : String) : List String :=
  (words text.toList).map String.ofList

end AbiProbe.Text
