/-! # Places in a text by their bytes

A place in a text can be told by the number of UTF-8 bytes in front of it. A number that falls
inside a character tells no place (`AbiProbe.Text.splitAfterBytes?`).
-/

namespace AbiProbe.Text

/-- The number of bytes of a text. -/
def byteCount : List Char → Nat
  | [] => 0
  | c :: text => c.utf8Size + byteCount text

/-- A text split after a number of bytes, if they end between two characters. -/
def splitAfterBytes? : (count : Nat) → (text : List Char) → Option (List Char × List Char)
  | 0, text => some ([], text)
  | _ + 1, [] => none
  | count + 1, c :: text =>
      if c.utf8Size ≤ count + 1 then
        (splitAfterBytes? (count + 1 - c.utf8Size) text).map fun (front, rest) =>
          (c :: front, rest)
      else none

/-- The text from a number of bytes on. -/
def sliceFrom? (start : Nat) (text : List Char) : Option (List Char) :=
  (splitAfterBytes? start text).map Prod.snd

/-- The text between two numbers of bytes. -/
def slice? (start stop : Nat) (text : List Char) : Option (List Char) := do
  let rest ← sliceFrom? start text
  let (part, _) ← splitAfterBytes? (stop - start) rest
  return part

end AbiProbe.Text
