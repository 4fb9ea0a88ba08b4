import AbiProbe.Text.Unprintable

/-! # Quoted text

Diagnostics show a text between double quotes (`AbiProbe.Text.quote`). A quote and a
backslash get a backslash, four control characters have a letter of their own, every other
unprintable character is written by its code point in lower-case hexadecimal, and all else
stands for itself.
-/

namespace AbiProbe.Text

/-- The written form of a character by its code point. -/
def codePointForm (c : Char) : List Char :=
  "\\u\x7b".toList ++ Nat.toDigits 16 c.toNat ++ "\x7d".toList

/-- The written form of one character inside quotes. -/
def quotedForm (c : Char) : List Char :=
  if c = '"' then ['\\', '"']
  else if c = '\\' then ['\\', '\\']
  else if c = '\x00' then ['\\', '0']
  else if c = '\t' then ['\\', 't']
  else if c = '\r' then ['\\', 'r']
  else if c = '\n' then ['\\', 'n']
  else if isUnprintable c then codePointForm c
  else [c]

/-- A text between double quotes, with every character in its written form. -/
def quote (text : String) : String :=
  String.ofList ('"' :: (text.toList.flatMap quotedForm ++ ['"']))

theorem toList_quote (text : String) :
    (quote text).toList = '"' :: (text.toList.flatMap quotedForm ++ ['"']) := by
  simp [quote]

end AbiProbe.Text
