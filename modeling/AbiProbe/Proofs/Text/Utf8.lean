import AbiProbe.Text.Utf8
import Mathlib.Data.List.Basic

/-! # Bytes that are UTF-8 and bytes that are not

The bytes of a text are decoded to its characters (`AbiProbe.Text.Utf8.decode_encode`), and bytes
that are decoded to characters throughout are the bytes of their text
(`AbiProbe.Text.Utf8.eq_encode_of_decode`). So the bytes of a text are read as that text, and any
other bytes as a text with a replacement character in it.
-/

namespace AbiProbe.Text.Utf8

/-- The bytes that finish an open character, with the code point they finish it to. -/
inductive Completes : Partial → List UInt8 → Nat → Prop
  | last {low high byte : UInt8} {bits : Nat} (least : low ≤ byte) (greatest : byte ≤ high) :
      Completes ⟨0, low, high, bits⟩ [byte] (bits * 0x40 + byte.toNat % 0x40)
  | more {after bits code : Nat} {low high byte : UInt8} {bytes : List UInt8}
      (least : low ≤ byte) (greatest : byte ≤ high)
      (tail : Completes ⟨after, 0x80, 0xBF, bits * 0x40 + byte.toNat % 0x40⟩ bytes code) :
      Completes ⟨after + 1, low, high, bits⟩ (byte :: bytes) code

theorem decodeFrom_of_completes {open_ : Partial} {bytes : List UInt8} {code : Nat}
    (completes : Completes open_ bytes code) (rest : List UInt8) :
    decodeFrom (some open_) (bytes ++ rest) = some (Char.ofNat code) :: decodeFrom none rest := by
  induction completes with
  | last least greatest =>
      rw [List.singleton_append, decodeFrom, step, continueWith, if_pos ⟨least, greatest⟩]
      rfl
  | more least greatest _ ih =>
      rw [List.cons_append, decodeFrom, step, continueWith, if_pos ⟨least, greatest⟩]
      exact ih

/-- An open character is finished by the bytes that come next, or it is ill-formed. -/
theorem decodeFrom_open_cases (open_ : Partial) (bytes : List UInt8) :
    (∃ pieces, decodeFrom (some open_) bytes = none :: pieces) ∨
      ∃ front rest code, bytes = front ++ rest ∧ Completes open_ front code := by
  -- Induction on the number of bytes that are missing; any bounds are allowed for the next one.
  obtain ⟨after, low, high, bits⟩ := open_
  induction after generalizing low high bits bytes with
  | zero =>
      cases bytes with
      | nil => exact Or.inl ⟨[], rfl⟩
      | cons byte bytes =>
          by_cases inside : low ≤ byte ∧ byte ≤ high
          · exact Or.inr ⟨[byte], bytes, _, rfl, .last inside.1 inside.2⟩
          · left
            rw [decodeFrom, step, continueWith, if_neg inside]
            exact ⟨_, rfl⟩
  | succ after ih =>
      cases bytes with
      | nil => exact Or.inl ⟨[], rfl⟩
      | cons byte bytes =>
          by_cases inside : low ≤ byte ∧ byte ≤ high
          · rw [decodeFrom, step, continueWith, if_pos inside]
            rcases ih bytes 0x80 0xBF (bits * 0x40 + byte.toNat % 0x40) with
              ill | ⟨front, rest, code, rfl, completes⟩
            · exact Or.inl ill
            · exact Or.inr ⟨byte :: front, rest, code, rfl, .more inside.1 inside.2 completes⟩
          · left
            rw [decodeFrom, step, continueWith, if_neg inside]
            exact ⟨_, rfl⟩

/-! ## Characters of several bytes -/

theorem opens_iff {lead : UInt8} {open_ : Partial} :
    Lead.ofByte lead = .opens open_ ↔
      (0xC2 ≤ lead.toNat ∧ lead.toNat < 0xE0 ∧ open_ = ⟨0, 0x80, 0xBF, lead.toNat % 0x20⟩) ∨
      (0xE0 ≤ lead.toNat ∧ lead.toNat < 0xF0 ∧
        open_ = ⟨1, if lead = 0xE0 then 0xA0 else 0x80, if lead = 0xED then 0x9F else 0xBF,
          lead.toNat % 0x10⟩) ∨
      (0xF0 ≤ lead.toNat ∧ lead.toNat < 0xF5 ∧
        open_ = ⟨2, if lead = 0xF0 then 0x90 else 0x80, if lead = 0xF4 then 0x8F else 0xBF,
          lead.toNat % 0x8⟩) := by
  unfold Lead.ofByte
  simp only [UInt8.lt_iff_toNat_lt, UInt8.reduceToNat]
  by_cases ascii : lead.toNat < 0x80
  · rw [if_pos ascii]
    simp only [reduceCtorEq, false_iff]
    omega
  rw [if_neg ascii]
  by_cases stray : lead.toNat < 0xC2
  · rw [if_pos stray]
    simp only [reduceCtorEq, false_iff]
    omega
  rw [if_neg stray]
  by_cases two : lead.toNat < 0xE0
  · rw [if_pos two, Lead.opens.injEq]
    constructor
    · rintro rfl
      exact Or.inl ⟨by omega, two, rfl⟩
    · rintro (⟨-, -, rfl⟩ | ⟨above, -⟩ | ⟨above, -⟩)
      · rfl
      all_goals omega
  rw [if_neg two]
  by_cases three : lead.toNat < 0xF0
  · rw [if_pos three, Lead.opens.injEq]
    constructor
    · rintro rfl
      exact Or.inr (Or.inl ⟨by omega, three, rfl⟩)
    · rintro (⟨-, below, -⟩ | ⟨-, -, rfl⟩ | ⟨above, -⟩)
      · omega
      · rfl
      · omega
  rw [if_neg three]
  by_cases four : lead.toNat < 0xF5
  · rw [if_pos four, Lead.opens.injEq]
    constructor
    · rintro rfl
      exact Or.inr (Or.inr ⟨by omega, four, rfl⟩)
    · rintro (⟨-, below, -⟩ | ⟨-, below, -⟩ | ⟨-, -, rfl⟩)
      · omega
      · omega
      · rfl
  · rw [if_neg four]
    simp only [reduceCtorEq, false_iff]
    omega

theorem within_iff {byte : UInt8} :
    0x80 ≤ byte ∧ byte ≤ 0xBF ↔ 0x80 ≤ byte.toNat ∧ byte.toNat ≤ 0xBF := by
  rw [UInt8.le_iff_toNat_le, UInt8.le_iff_toNat_le]
  rfl

/-- The bounds on the second byte are those of any further byte, with one of them tightened behind
a certain first byte. -/
theorem bounds_iff (lead first last byte : UInt8) {least greatest : UInt8}
    (tightLeast : 0x80 ≤ least.toNat) (tightGreatest : greatest.toNat ≤ 0xBF) :
    ((if lead = first then least else 0x80) ≤ byte ∧
        byte ≤ if lead = last then greatest else 0xBF) ↔
      0x80 ≤ byte.toNat ∧ byte.toNat ≤ 0xBF ∧
        (lead.toNat = first.toNat → least.toNat ≤ byte.toNat) ∧
        (lead.toNat = last.toNat → byte.toNat ≤ greatest.toNat) := by
  have lowest : (0x80 : UInt8).toNat = 0x80 := rfl
  have highest : (0xBF : UInt8).toNat = 0xBF := rfl
  simp only [← UInt8.toNat_inj, UInt8.le_iff_toNat_le]
  split <;> split <;> omega

theorem toNat_ofNat_of_isValidChar {code : Nat} (valid : code.isValidChar) :
    (Char.ofNat code).toNat = code := by
  rw [Char.ofNat, dif_pos valid]
  rfl

theorem ofNat_eq_of_toNat {value : Nat} (byte : UInt8) (same : value = byte.toNat) :
    UInt8.ofNat value = byte := by
  rw [same, UInt8.ofNat_toNat]

/-- A character that is opened and finished by some bytes is encoded by them. -/
theorem utf8EncodeChar_of_completes {lead : UInt8} {open_ : Partial} {bytes : List UInt8}
    {code : Nat} (opened : Lead.ofByte lead = .opens open_)
    (completes : Completes open_ bytes code) :
    String.utf8EncodeChar (Char.ofNat code) = lead :: bytes := by
  have value : code.isValidChar → (Char.ofNat code).val.toNat = code := toNat_ofNat_of_isValidChar
  rcases opens_iff.mp opened with ⟨low, high, rfl⟩ | ⟨low, high, rfl⟩ | ⟨low, high, rfl⟩
  · cases completes with
    | @last _ _ second _ least greatest =>
      have bounds := within_iff.mp ⟨least, greatest⟩
      unfold String.utf8EncodeChar
      dsimp only
      rw [value (Or.inl (by omega)), if_neg (by omega), if_pos (by omega),
        ofNat_eq_of_toNat lead (by omega), ofNat_eq_of_toNat second (by omega)]
  · cases completes with
    | @more _ _ _ _ _ second _ least greatest tail =>
      cases tail with
      | @last _ _ third _ thirdLeast thirdGreatest =>
        have bounds := (bounds_iff lead _ _ second (by decide) (by decide)).mp ⟨least, greatest⟩
        simp only [UInt8.reduceToNat] at bounds
        have thirdBounds := within_iff.mp ⟨thirdLeast, thirdGreatest⟩
        unfold String.utf8EncodeChar
        dsimp only
        rw [value (by unfold Nat.isValidChar; omega), if_neg (by omega), if_neg (by omega),
          if_pos (by omega), ofNat_eq_of_toNat lead (by omega),
          ofNat_eq_of_toNat second (by omega),
          ofNat_eq_of_toNat third (by omega)]
  · cases completes with
    | @more _ _ _ _ _ second _ least greatest tail =>
      cases tail with
      | @more _ _ _ _ _ third _ thirdLeast thirdGreatest tail =>
        cases tail with
        | @last _ _ fourth _ fourthLeast fourthGreatest =>
          have bounds := (bounds_iff lead _ _ second (by decide) (by decide)).mp ⟨least, greatest⟩
          simp only [UInt8.reduceToNat] at bounds
          have thirdBounds := within_iff.mp ⟨thirdLeast, thirdGreatest⟩
          have fourthBounds := within_iff.mp ⟨fourthLeast, fourthGreatest⟩
          unfold String.utf8EncodeChar
          dsimp only
          rw [value (by unfold Nat.isValidChar; omega), if_neg (by omega), if_neg (by omega),
            if_neg (by omega), ofNat_eq_of_toNat lead (by omega),
            ofNat_eq_of_toNat second (by omega),
            ofNat_eq_of_toNat third (by omega),
            ofNat_eq_of_toNat fourth (by omega)]

theorem exists_byte (value : Nat) (small : value < 256) :
    ∃ byte : UInt8, byte.toNat = value ∧ UInt8.ofNat value = byte :=
  ⟨_, UInt8.toNat_ofNat_of_lt' small, rfl⟩

/-- A character beyond ASCII is encoded by a byte that opens it and bytes that finish it. -/
theorem exists_completes {c : Char} (beyond : 0x80 ≤ c.toNat) :
    ∃ lead open_ bytes, String.utf8EncodeChar c = lead :: bytes ∧
      Lead.ofByte lead = .opens open_ ∧ Completes open_ bytes c.toNat := by
  have valid := c.valid
  rw [UInt32.isValidChar, Nat.isValidChar, Char.toNat_val] at valid
  unfold String.utf8EncodeChar
  dsimp only
  rw [Char.toNat_val, if_neg (by omega)]
  generalize c.toNat = code at beyond valid
  obtain ⟨last, lastValue, lastEq⟩ := exists_byte (code % 0x40 + 0x80) (by omega)
  obtain ⟨third, thirdValue, thirdEq⟩ := exists_byte (code / 64 % 0x40 + 0x80) (by omega)
  have lastWithin := within_iff.mpr (⟨by omega, by omega⟩ : 0x80 ≤ last.toNat ∧ last.toNat ≤ 0xBF)
  have thirdWithin :=
    within_iff.mpr (⟨by omega, by omega⟩ : 0x80 ≤ third.toNat ∧ third.toNat ≤ 0xBF)
  rw [lastEq, thirdEq]
  by_cases two : code ≤ 0x7ff
  · obtain ⟨lead, leadValue, leadEq⟩ := exists_byte (code / 64 % 0x20 + 0xc0) (by omega)
    rw [if_pos two, leadEq]
    refine ⟨_, _, _, rfl, opens_iff.mpr (Or.inl ⟨by omega, by omega, rfl⟩), ?_⟩
    rw [show code = lead.toNat % 0x20 * 0x40 + last.toNat % 0x40 by omega]
    exact .last lastWithin.1 lastWithin.2
  rw [if_neg two]
  by_cases three : code ≤ 0xffff
  · obtain ⟨lead, leadValue, leadEq⟩ := exists_byte (code / 4096 % 0x10 + 0xe0) (by omega)
    rw [if_pos three, leadEq]
    -- No character is a surrogate, which keeps the second byte below its bound.
    refine ⟨_, _, _, rfl, opens_iff.mpr (Or.inr (Or.inl ⟨by omega, by omega, rfl⟩)), ?_⟩
    have within : (if lead = 0xE0 then 0xA0 else 0x80) ≤ third ∧
        third ≤ if lead = 0xED then 0x9F else 0xBF := by
      rw [bounds_iff lead _ _ third (by decide) (by decide)]
      simp only [UInt8.reduceToNat]
      omega
    rw [show code = (lead.toNat % 0x10 * 0x40 + third.toNat % 0x40) * 0x40 + last.toNat % 0x40 by
      omega]
    exact .more within.1 within.2 (.last lastWithin.1 lastWithin.2)
  · obtain ⟨lead, leadValue, leadEq⟩ := exists_byte (code / 262144 % 0x08 + 0xf0) (by omega)
    obtain ⟨second, secondValue, secondEq⟩ :=
      exists_byte (code / 4096 % 0x40 + 0x80) (by omega)
    rw [if_neg three, leadEq, secondEq]
    refine ⟨_, _, _, rfl, opens_iff.mpr (Or.inr (Or.inr ⟨by omega, by omega, rfl⟩)), ?_⟩
    have within : (if lead = 0xF0 then 0x90 else 0x80) ≤ second ∧
        second ≤ if lead = 0xF4 then 0x8F else 0xBF := by
      rw [bounds_iff lead _ _ second (by decide) (by decide)]
      simp only [UInt8.reduceToNat]
      omega
    rw [show code = ((lead.toNat % 0x8 * 0x40 + second.toNat % 0x40) * 0x40 +
      third.toNat % 0x40) * 0x40 + last.toNat % 0x40 by omega]
    exact .more within.1 within.2
      (.more thirdWithin.1 thirdWithin.2 (.last lastWithin.1 lastWithin.2))

/-! ## Texts and their bytes -/

theorem utf8EncodeChar_of_lt {c : Char} (ascii : c.toNat < 0x80) :
    String.utf8EncodeChar c = [UInt8.ofNat c.toNat] :=
  if_pos (Nat.le_of_lt_succ ascii)

theorem ofByte_eq_complete_iff {byte : UInt8} {c : Char} :
    Lead.ofByte byte = .complete c ↔ c.toNat < 0x80 ∧ byte = UInt8.ofNat c.toNat := by
  have size : UInt8.size = 0x100 := rfl
  unfold Lead.ofByte
  by_cases ascii : byte < 0x80
  · rw [if_pos ascii, Lead.complete.injEq]
    rw [UInt8.lt_iff_toNat_lt] at ascii
    have valid : byte.toNat.isValidChar := Or.inl (by have := byte.toNat_lt; omega)
    constructor
    · rintro rfl
      rw [toNat_ofNat_of_isValidChar valid, UInt8.ofNat_toNat]
      exact ⟨ascii, rfl⟩
    · rintro ⟨small, rfl⟩
      rw [UInt8.toNat_ofNat_of_lt' (by omega), Char.ofNat_toNat]
  · rw [if_neg ascii]
    constructor
    · intro classified
      split_ifs at classified
    · rintro ⟨small, rfl⟩
      rw [UInt8.lt_iff_toNat_lt, UInt8.toNat_ofNat_of_lt' (by omega)] at ascii
      exact absurd small ascii

theorem decodeFrom_utf8EncodeChar (c : Char) (rest : List UInt8) :
    decodeFrom none (String.utf8EncodeChar c ++ rest) = some c :: decodeFrom none rest := by
  by_cases ascii : c.toNat < 0x80
  · rw [utf8EncodeChar_of_lt ascii, List.singleton_append, decodeFrom, step, start,
      ofByte_eq_complete_iff.mpr ⟨ascii, rfl⟩]
    rfl
  · obtain ⟨lead, open_, bytes, encoded, opened, completes⟩ :=
      exists_completes (Nat.le_of_not_lt ascii)
    rw [encoded, List.cons_append, decodeFrom, step, start, opened]
    rw [decodeFrom_of_completes completes, Char.ofNat_toNat]
    rfl

theorem decode_encode (text : String) : decode (encode text) = text.toList.map some := by
  unfold decode encode
  induction text.toList with
  | nil => rfl
  | cons c chars ih => rw [List.flatMap_cons, decodeFrom_utf8EncodeChar, ih, List.map_cons]

/-- A byte string that is decoded to a character first begins with the bytes of it. -/
theorem eq_append_of_decodeFrom {bytes : List UInt8} {c : Char} {pieces : List Piece}
    (decoded : decodeFrom none bytes = some c :: pieces) :
    ∃ rest, bytes = String.utf8EncodeChar c ++ rest ∧ decodeFrom none rest = pieces := by
  cases bytes with
  | nil => cases decoded
  | cons byte bytes =>
      rw [decodeFrom, step, start] at decoded
      cases classified : Lead.ofByte byte with
      | complete d =>
          rw [classified] at decoded
          obtain ⟨same, rest⟩ := List.cons.inj decoded
          obtain rfl := Option.some.inj same
          obtain ⟨ascii, rfl⟩ := ofByte_eq_complete_iff.mp classified
          exact ⟨bytes, by rw [utf8EncodeChar_of_lt ascii, List.singleton_append], rest⟩
      | opens open_ =>
          rw [classified] at decoded
          rcases decodeFrom_open_cases open_ bytes with
            ⟨others, ill⟩ | ⟨front, rest, code, rfl, completes⟩
          · rw [List.nil_append, ill] at decoded
            cases (List.cons.inj decoded).1
          · rw [List.nil_append, decodeFrom_of_completes completes] at decoded
            obtain ⟨same, behind⟩ := List.cons.inj decoded
            obtain rfl := Option.some.inj same
            refine ⟨rest, ?_, behind⟩
            rw [utf8EncodeChar_of_completes classified completes, List.cons_append]
      | invalid =>
          rw [classified] at decoded
          cases (List.cons.inj decoded).1

theorem eq_nil_of_decodeFrom {bytes : List UInt8} (decoded : decodeFrom none bytes = []) :
    bytes = [] := by
  cases bytes with
  | nil => rfl
  | cons byte bytes =>
      rw [decodeFrom, step, start] at decoded
      cases classified : Lead.ofByte byte with
      | complete d | invalid =>
          rw [classified] at decoded
          cases decoded
      | opens open_ =>
          rw [classified, List.nil_append] at decoded
          rcases decodeFrom_open_cases open_ bytes with
            ⟨others, ill⟩ | ⟨front, rest, code, rfl, completes⟩
          · rw [ill] at decoded
            cases decoded
          · rw [decodeFrom_of_completes completes] at decoded
            cases decoded

/-- Bytes that are decoded to characters throughout are the bytes of these characters. -/
theorem eq_encode_of_decode {bytes : List UInt8} {chars : List Char}
    (decoded : decode bytes = chars.map some) : bytes = encode (String.ofList chars) := by
  unfold decode encode at *
  rw [String.toList_ofList]
  induction chars generalizing bytes with
  | nil => exact eq_nil_of_decodeFrom decoded
  | cons c chars ih =>
      obtain ⟨rest, rfl, behind⟩ := eq_append_of_decodeFrom decoded
      rw [List.flatMap_cons, ← ih behind]

/-- **The bytes of a text are read as that text.** -/
theorem decodeLossy_encode (text : String) : decodeLossy (encode text) = text := by
  have kept : (fun piece : Piece => piece.getD '\uFFFD') ∘ some = id := rfl
  rw [decodeLossy, decode_encode, List.map_map, kept, List.map_id, String.ofList_toList]

theorem exists_map_some {pieces : List Piece} (whole : none ∉ pieces) :
    ∃ chars : List Char, pieces = chars.map some := by
  induction pieces with
  | nil => exact ⟨[], rfl⟩
  | cons piece pieces ih =>
      rw [List.mem_cons, not_or] at whole
      obtain ⟨c, rfl⟩ := Option.ne_none_iff_exists'.mp (Ne.symm whole.1)
      obtain ⟨chars, rfl⟩ := ih whole.2
      exact ⟨c :: chars, rfl⟩

theorem ne_encode_of_none_mem {bytes : List UInt8} (broken : none ∈ decode bytes)
    (text : String) : bytes ≠ encode text := by
  rintro rfl
  rw [decode_encode] at broken
  obtain ⟨c, -, absent⟩ := List.mem_map.mp broken
  cases absent

/-- Bytes of no text are read with a replacement character in them. -/
theorem replacement_mem_decodeLossy {bytes : List UInt8} (ill : ∀ text, bytes ≠ encode text) :
    '\uFFFD' ∈ (decodeLossy bytes).toList := by
  rw [decodeLossy, String.toList_ofList]
  by_cases broken : none ∈ decode bytes
  · exact List.mem_map.mpr ⟨none, broken, rfl⟩
  · obtain ⟨chars, whole⟩ := exists_map_some broken
    exact absurd (eq_encode_of_decode whole) (ill _)

end AbiProbe.Text.Utf8
