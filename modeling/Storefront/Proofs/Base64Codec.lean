import Storefront.Proofs.Utf8Bytes
import Storefront.Text.Base64

/-
  Base64 texts read back.

  `encode` writes each group of three bytes as four six-bit values, and a last group of one or
  two bytes as two or three, each value as a character of the alphabet (`digitChar`), which
  `digitValue` reads back.  The values of a group leave the bits a short group does not use at
  zero, which is what `decodeGroup` asks.  Main statements: `decode` reads back every text
  `encode` writes (`decode_encode`), and no written text has a `.` (`dot_not_mem_encode`), so
  the parts of a token can be told apart by its dots.
-/

namespace Storefront.Text.Base64

theorem digitValue_digitChar {n : Nat} (h : n < 64) : digitValue (digitChar n) = some n := by
  have hall : ∀ d : Fin 64, digitValue (digitChar d) = some d := by decide
  exact hall ⟨n, h⟩

theorem digitChar_ne_dot {n : Nat} (h : n < 64) : digitChar n ≠ '.' := by
  have hall : ∀ d : Fin 64, digitChar d ≠ '.' := by decide
  exact hall ⟨n, h⟩

/-- The characters of six-bit values read back as the values. -/
theorem mapM_digitValue {vs : List Nat} (h : ∀ v ∈ vs, v < 64) :
    (vs.map digitChar).mapM digitValue = some vs := by
  induction vs with
  | nil => rfl
  | cons v vs ih =>
    have hv := h v List.mem_cons_self
    rw [List.map_cons, List.mapM_cons, digitValue_digitChar hv,
      ih fun w hw => h w (List.mem_cons_of_mem v hw)]
    rfl

/-- **The text of some bytes is the characters of six-bit values that read back as the
bytes.** -/
theorem encodeList_values : ∀ l : List Nat, (∀ a ∈ l, a < 256) →
    ∃ vs, encodeList l = vs.map digitChar ∧ (∀ v ∈ vs, v < 64) ∧ decodeList vs = some l
  | [], _ => ⟨[], rfl, by simp, rfl⟩
  | [a], h => by
    have ha := h a (by simp)
    refine ⟨[a / 4, a % 4 * 16], rfl, by simp; omega, ?_⟩
    simp only [decodeList, decodeGroup]
    rw [if_pos (by omega)]
    congr 2
    omega
  | [a, b], h => by
    have ha := h a (by simp)
    have hb := h b (by simp)
    refine ⟨[a / 4, a % 4 * 16 + b / 16, b % 16 * 4], rfl, by simp; omega, ?_⟩
    simp only [decodeList, decodeGroup]
    rw [if_pos (by omega)]
    congr 1
    exact List.cons_eq_cons.2 ⟨by omega, List.cons_eq_cons.2 ⟨by omega, rfl⟩⟩
  | a :: b :: c :: rest, h => by
    have ha := h a (by simp)
    have hb := h b (by simp)
    have hc := h c (by simp)
    obtain ⟨vs, henc, hlt, hdec⟩ :=
      encodeList_values rest fun x hx => h x (by simp [hx])
    -- a whole group gives four values; its bytes come back from them
    have hgroup : decodeGroup [a / 4, a % 4 * 16 + b / 16, b % 16 * 4 + c / 64, c % 64] =
        some [a, b, c] := by
      simp only [decodeGroup]
      congr 1
      refine List.cons_eq_cons.2 ⟨by omega, List.cons_eq_cons.2 ⟨by omega, ?_⟩⟩
      exact List.cons_eq_cons.2 ⟨by omega, rfl⟩
    refine ⟨[a / 4, a % 4 * 16 + b / 16, b % 16 * 4 + c / 64, c % 64] ++ vs,
      by rw [encodeList, henc]; rfl, ?_, ?_⟩
    · intro v hv
      simp only [List.cons_append, List.nil_append, List.mem_cons] at hv
      rcases hv with rfl | rfl | rfl | rfl | hv
      · omega
      · omega
      · omega
      · omega
      · exact hlt v hv
    · cases vs with
      | nil =>
        obtain rfl : rest = [] := by simpa [decodeList] using hdec.symm
        exact hgroup
      | cons e vs =>
        simp only [List.cons_append, List.nil_append, decodeList, hgroup, hdec]
        rfl

/-- The bytes of a byte array are below 256. -/
theorem toNat_lt_of_mem {b : ByteArray} {a : Nat} (h : a ∈ b.data.toList.map UInt8.toNat) :
    a < 256 := by
  obtain ⟨x, -, rfl⟩ := List.mem_map.1 h
  exact x.toNat_lt

/-- **`decode` reads back what `encode` writes.** -/
theorem decode_encode (b : ByteArray) : decode (encode b) = some b := by
  obtain ⟨vs, henc, hlt, hdec⟩ :=
    encodeList_values (b.data.toList.map UInt8.toNat) fun _ => toNat_lt_of_mem
  rw [decode, encode, toList_eq_data, String.toList_ofList, henc, mapM_digitValue hlt]
  simp only [Option.bind_eq_bind, Option.bind_some, hdec, List.map_map]
  have hround : (Nat.toUInt8 ∘ UInt8.toNat) = id := by
    funext x
    simp
  rw [hround, List.map_id, Array.toArray_toList]
  rfl

/-- Every character `encode` writes is a digit of the alphabet. -/
theorem mem_encode {b : ByteArray} {c : Char} (h : c ∈ (encode b).toList) :
    ∃ v < 64, c = digitChar v := by
  obtain ⟨vs, henc, hlt, -⟩ :=
    encodeList_values (b.data.toList.map UInt8.toNat) fun _ => toNat_lt_of_mem
  rw [encode, toList_eq_data, String.toList_ofList, henc] at h
  obtain ⟨v, hv, rfl⟩ := List.mem_map.1 h
  exact ⟨v, hlt v hv, rfl⟩

/-- No text `encode` writes has a `.`. -/
theorem dot_not_mem_encode (b : ByteArray) : '.' ∉ (encode b).toList := by
  intro hmem
  obtain ⟨v, hv, hdot⟩ := mem_encode hmem
  exact digitChar_ne_dot hv hdot.symm

end Storefront.Text.Base64
