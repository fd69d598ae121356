import Mathlib.Tactic.SplitIfs
import Storefront.Text.Utf8

/-
  The UTF-8 bytes of characters are well formed.

  A character is written in one to four bytes (`String.utf8EncodeChar`): below `0x80` as
  itself, above it as a lead byte that says how many continuation bytes follow, then the
  continuation bytes, six bits each.  The lead byte and the first continuation byte keep the
  bounds `leadInfo` asks for because a character is no surrogate and lies below `0x110000`.
  Main statement: `validPrefixLength` reads the bytes of every list of characters to the end
  (`validPrefixLength_encode`), so the bytes of a string never stop being UTF-8.
-/

namespace Storefront.Text

/-- The bytes of a byte array, as its list. -/
theorem toList_eq_data (b : ByteArray) : b.toList = b.data.toList := by
  -- the loop has pushed the first `i` bytes, reversed, onto `r`
  have hloop : ∀ i r, ByteArray.toList.loop b i r = r.reverse ++ b.data.toList.drop i := by
    intro i r
    fun_induction ByteArray.toList.loop b i r with
    | case1 i r hi ih =>
      rw [ih, List.reverse_cons, List.append_assoc, List.singleton_append]
      congr 1
      have hget : b.get! i = b.data.toList.get ⟨i, by simpa using hi⟩ := by
        simp [ByteArray.get!, hi]
      rw [hget, List.get_eq_getElem, List.getElem_cons_drop]
    | case2 i r hi =>
      rw [List.drop_eq_nil_of_le (by simpa using hi), List.append_nil]
  rw [ByteArray.toList, hloop, List.reverse_nil, List.nil_append, List.drop_zero]

/-- A character is not a surrogate and lies below `0x110000`. -/
theorem char_toNat_valid (c : Char) :
    c.toNat < 0xD800 ∨ (0xDFFF < c.toNat ∧ c.toNat < 0x110000) := by
  have hvalid := c.valid
  simpa [UInt32.isValidChar, Nat.isValidChar] using hvalid

/-- The bytes of a character, as numbers. -/
theorem encodeChar_toNat (c : Char) :
    (String.utf8EncodeChar c).map UInt8.toNat =
      if c.toNat ≤ 0x7F then [c.toNat]
      else if c.toNat ≤ 0x7FF then [c.toNat / 64 % 32 + 0xC0, c.toNat % 64 + 0x80]
      else if c.toNat ≤ 0xFFFF then
        [c.toNat / 4096 % 16 + 0xE0, c.toNat / 64 % 64 + 0x80, c.toNat % 64 + 0x80]
      else
        [c.toNat / 262144 % 8 + 0xF0, c.toNat / 4096 % 64 + 0x80, c.toNat / 64 % 64 + 0x80,
          c.toNat % 64 + 0x80] := by
  have hlt : c.toNat < 0x110000 := by rcases char_toNat_valid c with h | h <;> omega
  have hbyte : ∀ x : Nat, x < 256 → (UInt8.ofNat x).toNat = x := fun x hx => by simp; omega
  unfold String.utf8EncodeChar
  simp only [show c.val.toNat = c.toNat from rfl]
  -- each byte is below 256 in its own case, so `UInt8.ofNat` keeps it
  split_ifs <;> simp (disch := omega) only [List.map_cons, List.map_nil, hbyte]

/-- A lead byte of a sequence of `n + 1` bytes is read past its continuation bytes. -/
theorem validPrefixLength_lead {b n lo hi : Nat} {rest : List Nat} (hb : 0x80 ≤ b)
    (hlead : leadInfo b = some (n, lo, hi)) (hrun : continuationRun rest n lo hi = n) :
    validPrefixLength (b :: rest) = validPrefixLength (rest.drop n) + n + 1 := by
  rw [validPrefixLength, if_neg (by omega)]
  simp only [hlead, hrun, if_true]

@[simp] theorem continuationRun_zero (bs : List Nat) (lo hi : Nat) :
    continuationRun bs 0 lo hi = 0 := by
  cases bs <;> rfl

theorem continuationRun_one {x lo hi : Nat} {rest : List Nat} (hx : lo ≤ x ∧ x ≤ hi) :
    continuationRun (x :: rest) 1 lo hi = 1 := by
  simp [continuationRun, hx.1, hx.2]

theorem continuationRun_two {x y lo hi : Nat} {rest : List Nat} (hx : lo ≤ x ∧ x ≤ hi)
    (hy : 0x80 ≤ y ∧ y ≤ 0xBF) : continuationRun (x :: y :: rest) 2 lo hi = 2 := by
  simp [continuationRun, hx.1, hx.2, hy.1, hy.2]

theorem continuationRun_three {x y z lo hi : Nat} {rest : List Nat} (hx : lo ≤ x ∧ x ≤ hi)
    (hy : 0x80 ≤ y ∧ y ≤ 0xBF) (hz : 0x80 ≤ z ∧ z ≤ 0xBF) :
    continuationRun (x :: y :: z :: rest) 3 lo hi = 3 := by
  simp [continuationRun, hx.1, hx.2, hy.1, hy.2, hz.1, hz.2]

/-- The lead bytes of two-byte sequences. -/
theorem leadInfo_two {b : Nat} (h : 0xC2 ≤ b ∧ b ≤ 0xDF) : leadInfo b = some (1, 0x80, 0xBF) := by
  rw [leadInfo, if_pos (by simp [h.1, h.2])]

/-- The lead bytes of three-byte sequences; `0xE0` and `0xED` narrow the next byte. -/
theorem leadInfo_three {b : Nat} (h : 0xE0 ≤ b ∧ b ≤ 0xEF) :
    leadInfo b = some (2, if b = 0xE0 then 0xA0 else 0x80, if b = 0xED then 0x9F else 0xBF) := by
  have hall : ∀ d : Fin 16, leadInfo (0xE0 + d) =
      some (2, if 0xE0 + d.val = 0xE0 then 0xA0 else 0x80,
        if 0xE0 + d.val = 0xED then 0x9F else 0xBF) := by
    decide
  have hb := hall ⟨b - 0xE0, by omega⟩
  simp only at hb
  rwa [show 0xE0 + (b - 0xE0) = b by omega] at hb

/-- The lead bytes of four-byte sequences; `0xF0` and `0xF4` narrow the next byte. -/
theorem leadInfo_four {b : Nat} (h : 0xF0 ≤ b ∧ b ≤ 0xF4) :
    leadInfo b = some (3, if b = 0xF0 then 0x90 else 0x80, if b = 0xF4 then 0x8F else 0xBF) := by
  have hall : ∀ d : Fin 5, leadInfo (0xF0 + d) =
      some (3, if 0xF0 + d.val = 0xF0 then 0x90 else 0x80,
        if 0xF0 + d.val = 0xF4 then 0x8F else 0xBF) := by
    decide
  have hb := hall ⟨b - 0xF0, by omega⟩
  simp only at hb
  rwa [show 0xF0 + (b - 0xF0) = b by omega] at hb

/-- **The bytes of one character are read to their end**, whatever follows them. -/
theorem validPrefixLength_encodeChar_append (c : Char) (rest : List Nat) :
    validPrefixLength ((String.utf8EncodeChar c).map UInt8.toNat ++ rest) =
      validPrefixLength rest + (String.utf8EncodeChar c).length := by
  have hvalid := char_toNat_valid c
  have hlength : (String.utf8EncodeChar c).length =
      ((String.utf8EncodeChar c).map UInt8.toNat).length := (List.length_map _).symm
  rw [hlength, encodeChar_toNat]
  split_ifs with h1 h2 h3
  · -- one byte: the character itself
    rw [List.singleton_append, validPrefixLength, if_pos (by omega)]
    rfl
  · -- two bytes
    simp only [List.cons_append, List.nil_append, List.length_cons, List.length_nil]
    rw [validPrefixLength_lead (by omega) (leadInfo_two (by omega))
      (continuationRun_one (by omega))]
    rfl
  · -- three bytes: the second byte keeps the bounds of `0xE0` and `0xED`
    simp only [List.cons_append, List.nil_append, List.length_cons, List.length_nil]
    rw [validPrefixLength_lead (by omega) (leadInfo_three (by omega))
      (continuationRun_two (by split_ifs <;> omega) (by omega))]
    rfl
  · -- four bytes: the second byte keeps the bounds of `0xF0` and `0xF4`
    simp only [List.cons_append, List.nil_append, List.length_cons, List.length_nil]
    rw [validPrefixLength_lead (by omega) (leadInfo_four (by omega))
      (continuationRun_three (by split_ifs <;> omega) (by omega) (by omega))]
    rfl

/-- **The bytes of characters are UTF-8 to their end.** -/
theorem validPrefixLength_encode (cs : List Char) :
    validPrefixLength ((cs.flatMap String.utf8EncodeChar).map UInt8.toNat) =
      (cs.flatMap String.utf8EncodeChar).length := by
  induction cs with
  | nil => simp [validPrefixLength]
  | cons c cs ih =>
    rw [List.flatMap_cons, List.map_append, validPrefixLength_encodeChar_append, ih,
      List.length_append]
    omega

end Storefront.Text
