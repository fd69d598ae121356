import Storefront.Proofs.JsonStrings
import Storefront.Proofs.FreshIds

/-
  Objects of strings and numbers read back.

  A member value is plain (`Plain`) when it is a string or a natural number of 64 bits.  The
  writer puts an object's members between braces, each as its quoted key, a colon and its value,
  with commas between them and no blanks.  The reader takes the first member after the brace,
  each next one after its comma, and stops at the closing brace; a string comes back by
  `readString_quote`, a number digit by digit (`integerDigits_digits`), none of them too large
  for 64 bits.  Main statement: `parse` reads back every object of plain members as written
  (`parse_write_obj`).
-/

namespace Storefront.Json.Reader

open Storefront.Shop

section Reading

variable {b : ByteArray}

/-! ## Numbers -/

/-- Characters below `0x80` are their own bytes. -/
theorem flatMap_utf8EncodeChar_ascii {cs : List Char} (h : ∀ c ∈ cs, c.toNat < 0x80) :
    cs.flatMap String.utf8EncodeChar = cs.map fun c => c.toNat.toUInt8 := by
  induction cs with
  | nil => rfl
  | cons c cs ih =>
    rw [List.flatMap_cons, List.map_cons, utf8EncodeChar_ascii (h c List.mem_cons_self),
      ih fun d hd => h d (List.mem_cons_of_mem c hd)]
    rfl

/-- The byte of a decimal digit: a digit byte of its value, no blank, no sign and no first
letter of a literal. -/
theorem digitByte {d : Nat} (h : d < 10) :
    isDigit (Nat.digitChar d).toNat.toUInt8 = true ∧
      digitValue (Nat.digitChar d).toNat.toUInt8 = d ∧
      isBlank (Nat.digitChar d).toNat.toUInt8 = false ∧
      (Nat.digitChar d).toNat.toUInt8 ≠ 0x6E ∧ (Nat.digitChar d).toNat.toUInt8 ≠ 0x74 ∧
      (Nat.digitChar d).toNat.toUInt8 ≠ 0x66 ∧ (Nat.digitChar d).toNat.toUInt8 ≠ 0x2D ∧
      (Nat.digitChar d).toNat < 0x80 := by
  have hall : ∀ k : Fin 10,
      isDigit (Nat.digitChar k).toNat.toUInt8 = true ∧
      digitValue (Nat.digitChar k).toNat.toUInt8 = k ∧
      isBlank (Nat.digitChar k).toNat.toUInt8 = false ∧
      (Nat.digitChar k).toNat.toUInt8 ≠ 0x6E ∧ (Nat.digitChar k).toNat.toUInt8 ≠ 0x74 ∧
      (Nat.digitChar k).toNat.toUInt8 ≠ 0x66 ∧ (Nat.digitChar k).toNat.toUInt8 ≠ 0x2D ∧
      (Nat.digitChar k).toNat < 0x80 := by
    decide
  exact hall ⟨d, h⟩

/-- The bytes of a natural number: its decimal digits. -/
theorem toString_bytes (n : Nat) :
    (toString n).toUTF8.data.toList = (Nat.toDigits 10 n).map fun c => c.toNat.toUInt8 := by
  rw [toUTF8_toList, show toString n = String.ofList (Nat.toDigits 10 n) from rfl,
    String.toList_ofList]
  apply flatMap_utf8EncodeChar_ascii
  intro c hc
  obtain ⟨d, hd, rfl⟩ := mem_toDigits (by decide) hc
  exact (digitByte hd).2.2.2.2.2.2.2

/-- Reading digits never lowers the number read so far. -/
theorem le_ofDigitChars (cs : List Char) (acc : Nat) : acc ≤ Nat.ofDigitChars 10 cs acc := by
  induction cs generalizing acc with
  | nil => exact Nat.le_refl acc
  | cons c cs ih =>
    calc acc ≤ 10 * acc + (c.toNat - '0'.toNat) := by omega
      _ ≤ Nat.ofDigitChars 10 cs (10 * acc + (c.toNat - '0'.toNat)) := ih _
      _ = Nat.ofDigitChars 10 (c :: cs) acc := rfl

/-- A digit that keeps the number within `limit` does not overflow it. -/
theorem overflows_eq_false {acc d limit : Nat} (hd : d < 10) (h : acc * 10 + d ≤ limit) :
    overflows acc d limit = false := by
  unfold overflows
  by_cases hge : acc ≥ limit / 10
  · have hlt : ¬ acc > limit / 10 := by omega
    have hmod : ¬ d > limit % 10 := by omega
    simp [hlt, hmod]
  · simp [hge]

/-- Digits after the first are taken into the number until a byte that is no digit. -/
theorem integerDigits_digits {x : UInt8} (hx : isDigit x = false) :
    ∀ {cs : List Char} {i acc : Nat}, (∀ c ∈ cs, ∃ d < 10, c = Nat.digitChar d) →
      BytesAt b i ((cs.map fun c => c.toNat.toUInt8) ++ [x]) →
      Nat.ofDigitChars 10 cs acc ≤ u64Max →
      integerDigits b true acc i =
        readNumberTail b true (Nat.ofDigitChars 10 cs acc) (i + cs.length) := by
  intro cs
  induction cs with
  | nil =>
    intro i acc _ h _
    obtain ⟨hlt, hget⟩ := byteAt?_eq_some_iff.1 (show BytesAt b i [x] from h).byteAt?
    rw [integerDigits, dif_pos hlt]
    simp only [hget, hx, Bool.false_eq_true, if_false]
    rfl
  | cons c cs ih =>
    intro i acc hdigits h hmax
    obtain ⟨d, hd, rfl⟩ := hdigits c List.mem_cons_self
    obtain ⟨hdigit, hvalue, -⟩ := digitByte hd
    rw [List.map_cons, List.cons_append] at h
    obtain ⟨hbyte, hrest⟩ := BytesAt.cons_iff.1 h
    obtain ⟨hlt, hget⟩ := byteAt?_eq_some_iff.1 hbyte.byteAt?
    -- the number so far, with this digit, is at most the whole number
    have hstep : Nat.ofDigitChars 10 (Nat.digitChar d :: cs) acc =
        Nat.ofDigitChars 10 cs (acc * 10 + d) := by
      rw [Nat.ofDigitChars_cons_digitChar_of_lt_ten hd, Nat.mul_comm]
    have hbound := le_ofDigitChars cs (acc * 10 + d)
    have hfits : overflows acc d u64Max = false := overflows_eq_false hd (by omega)
    rw [integerDigits, dif_pos hlt]
    simp only [hget, hdigit, if_true, hvalue, hfits, Bool.false_eq_true, if_false]
    rw [ih (fun c hc => hdigits c (List.mem_cons_of_mem _ hc)) hrest (by omega), hstep,
      List.length_cons, Nat.add_assoc, Nat.add_comm 1]

/-- A number ends at a comma or a closing brace. -/
theorem readNumberTail_end {i n : Nat} {x : UInt8} (h : byteAt? b i = some x)
    (hx : x = 0x2C ∨ x = 0x7D) : readNumberTail b true n i = .ok (.nat n, i) := by
  rcases hx with rfl | rfl <;> simp [readNumberTail, h]

/-- The first digit of a positive number is not zero. -/
theorem toDigits_head {n : Nat} (hn : 0 < n) :
    ∃ d cs, Nat.toDigits 10 n = Nat.digitChar d :: cs ∧ 0 < d ∧ d < 10 := by
  induction n using Nat.strongRecOn with
  | ind n ih =>
    rw [Nat.toDigits_eq_if (by decide)]
    split
    · next hlt => exact ⟨n, [], rfl, hn, hlt⟩
    · next hge =>
      obtain ⟨d, cs, hcs, hd⟩ := ih (n / 10) (by omega) (by omega)
      exact ⟨d, cs ++ [Nat.digitChar (n % 10)], by rw [hcs]; rfl, hd⟩

/-- **A natural number of 64 bits reads back**, up to the comma or brace after it. -/
theorem readNumber_toString {i n : Nat} {x : UInt8} (hn : n ≤ u64Max)
    (h : BytesAt b i ((toString n).toUTF8.data.toList ++ [x])) (hx : x = 0x2C ∨ x = 0x7D) :
    readNumber b true i = .ok (.nat n, i + (toString n).toUTF8.data.toList.length) := by
  have hxdigit : isDigit x = false := by rcases hx with rfl | rfl <;> rfl
  rw [toString_bytes] at h ⊢
  rcases Nat.eq_zero_or_pos n with rfl | hpos
  · -- zero is one `0`, with no digit after it
    obtain ⟨hzero, hnext⟩ := BytesAt.cons_iff.1 h
    rw [readNumber, hzero.byteAt?]
    simp only [hnext.byteAt?, hxdigit, Bool.false_eq_true, if_false]
    exact readNumberTail_end hnext.byteAt? hx
  · -- the first digit is not zero; the others follow it
    obtain ⟨d, cs, hcs, hd0, hd⟩ := toDigits_head hpos
    obtain ⟨hdigit, hvalue, -⟩ := digitByte hd
    have hfirst : (Nat.digitChar d).toNat.toUInt8 ≠ 0x30 := by
      have hall : ∀ k : Fin 10, 0 < k.val → (Nat.digitChar k).toNat.toUInt8 ≠ 0x30 := by decide
      exact hall ⟨d, hd⟩ hd0
    have hdigits : ∀ c ∈ cs, ∃ k < 10, c = Nat.digitChar k := fun c hc =>
      mem_toDigits (by decide) (by rw [hcs]; exact List.mem_cons_of_mem _ hc)
    have hvalue_n : Nat.ofDigitChars 10 cs d = n := by
      have := Nat.ofDigitChars_ten_toDigits (n := n)
      rwa [hcs, Nat.ofDigitChars_cons_digitChar_of_lt_ten hd, Nat.mul_zero, Nat.zero_add] at this
    rw [hcs, List.map_cons, List.cons_append] at h
    obtain ⟨hbyte, hrest⟩ := BytesAt.cons_iff.1 h
    rw [readNumber, hbyte.byteAt?]
    simp only [beq_eq_false_iff_ne.2 hfirst, Bool.false_eq_true, if_false, hdigit, if_true, hvalue]
    rw [integerDigits_digits hxdigit hdigits hrest (by omega), hvalue_n]
    have hend : byteAt? b (i + 1 + cs.length) = some x := by
      have := (BytesAt.append_iff.1 hrest).2
      rw [List.length_map] at this
      exact this.byteAt?
    rw [readNumberTail_end hend hx, hcs, List.map_cons, List.length_cons, List.length_map,
      Nat.add_assoc, Nat.add_comm 1]

/-! ## Plain values -/

/-- A member value that reads back as written: a string, or a natural number of 64 bits. -/
inductive Plain : Value → Prop
  | str (s : String) : Plain (.str s)
  | nat {n : Nat} (h : n ≤ u64Max) : Plain (.num (.nat n))

/-- **A plain value reads back**, up to the comma or brace after it. -/
theorem readValue_plain {v : Value} (hv : Plain v) {i fuel depth : Nat} {x : UInt8}
    (h : BytesAt b i (v.write.toUTF8.data.toList ++ [x])) (hx : x = 0x2C ∨ x = 0x7D) :
    readValue b (fuel + 1) depth i = .ok (v, i + v.write.toUTF8.data.toList.length) := by
  cases hv with
  | str s =>
    have hwrite : (Value.str s).write = quote s := rfl
    rw [hwrite, quote_bytes, List.cons_append] at h
    rw [hwrite, quote_bytes]
    obtain ⟨hquote, hrest⟩ := BytesAt.cons_iff.1 h
    have hskip := skipBlanks_of_byteAt? hquote.byteAt? (by decide)
    rw [readValue]
    simp +decide only [hskip, hquote.byteAt?, ↓reduceIte,
      readString_quote s (BytesAt.append_iff.1 hrest).1]
    simp only [Except.map, List.length_cons, List.length_append, List.length_nil,
      Except.ok.injEq, Prod.mk.injEq, true_and]
    omega
  | nat hn =>
    rename_i n
    have hwrite : (Value.num (.nat n)).write = toString n := rfl
    rw [hwrite] at h ⊢
    have hread := readNumber_toString hn h hx
    rw [toString_bytes] at h
    obtain ⟨d, cs, hcs, -, hd⟩ : ∃ d cs, Nat.toDigits 10 n = Nat.digitChar d :: cs ∧ 0 ≤ d ∧ d < 10 := by
      rcases Nat.eq_zero_or_pos n with rfl | hpos
      · exact ⟨0, [], rfl, Nat.le_refl 0, by decide⟩
      · obtain ⟨d, cs, hcs, hd0, hd⟩ := toDigits_head hpos
        exact ⟨d, cs, hcs, Nat.zero_le d, hd⟩
    obtain ⟨hdigit, -, hblank, hn', ht, hf, hminus, -⟩ := digitByte hd
    rw [hcs, List.map_cons, List.cons_append] at h
    have hbyte := (BytesAt.cons_iff.1 h).1.byteAt?
    rw [readValue]
    simp only [skipBlanks_of_byteAt? hbyte hblank, hbyte, beq_eq_false_iff_ne.2 hn',
      beq_eq_false_iff_ne.2 ht, beq_eq_false_iff_ne.2 hf, beq_eq_false_iff_ne.2 hminus,
      Bool.false_eq_true, if_false, hdigit, if_true, hread]
    rfl

/-! ## Members -/

/-- The bytes of a member: its quoted key, a colon and its value. -/
def memberBytes (m : String × Value) : List UInt8 :=
  (quote m.1).toUTF8.data.toList ++ 0x3A :: m.2.write.toUTF8.data.toList

theorem colon_bytes : (":" : String).toUTF8.data.toList = [0x3A] := by decide

theorem comma_bytes : ("," : String).toUTF8.data.toList = [0x2C] := by decide

/-- The bytes of the members of an object: the first, then each next after a comma. -/
theorem writeMembers_bytes : ∀ (m : String × Value) (ms : List (String × Value)),
    (writeMembers (m :: ms)).toUTF8.data.toList =
      memberBytes m ++ ms.flatMap fun m => 0x2C :: memberBytes m
  | (k, v), [] => by
    rw [writeMembers, toUTF8_append_toList, toUTF8_append_toList, colon_bytes]
    simp [memberBytes]
  | (k, v), m :: ms => by
    rw [writeMembers.eq_3 k v (m :: ms) (by simp), toUTF8_append_toList, toUTF8_append_toList,
      toUTF8_append_toList, toUTF8_append_toList, writeMembers_bytes m ms, colon_bytes,
      comma_bytes]
    simp [memberBytes]

/-- What follows the members of an object: a comma before each next one, then the closing
brace. -/
theorem members_rest_head (ms : List (String × Value)) :
    ∃ x rest, (ms.flatMap fun m => 0x2C :: memberBytes m) ++ [0x7D] = x :: rest ∧
      (x = 0x2C ∨ x = 0x7D) := by
  cases ms with
  | nil => exact ⟨0x7D, [], rfl, .inr rfl⟩
  | cons m ms =>
    exact ⟨0x2C, memberBytes m ++ ((ms.flatMap fun m => 0x2C :: memberBytes m) ++ [0x7D]),
      by simp, .inl rfl⟩

/-- The length of a member's bytes. -/
theorem memberBytes_length (k : String) (v : Value) :
    (memberBytes (k, v)).length =
      (escapedBytes k.toList).length + v.write.toUTF8.data.toList.length + 3 := by
  simp only [memberBytes, quote_bytes, List.length_append, List.length_cons, List.length_nil]
  omega

/-- A member whose key starts at `j` (at `i` for the first member, after the comma at `i`
otherwise) is read with its value, and the reader goes on after it. -/
theorem readMembers_member {i j fuel depth : Nat} {first : Bool} {acc : List (String × Value)}
    {k : String} {v : Value} {x : UInt8} {rest : List UInt8}
    (hstart : (first = true ∧ j = i) ∨ (first = false ∧ BytesAt b i [0x2C] ∧ j = i + 1))
    (hv : Plain v) (h : BytesAt b j (memberBytes (k, v) ++ x :: rest))
    (hx : x = 0x2C ∨ x = 0x7D) :
    readMembers b (fuel + 2) depth i first acc =
      readMembers b (fuel + 1) depth (j + (memberBytes (k, v)).length) false ((k, v) :: acc) := by
  -- the member's parts: the key's quotes and body, the colon, the value and what follows
  have hsplit : memberBytes (k, v) ++ x :: rest = [0x22] ++ ((escapedBytes k.toList ++ [0x22]) ++
      ([0x3A] ++ ((v.write.toUTF8.data.toList ++ [x]) ++ rest))) := by
    rw [memberBytes, quote_bytes]
    simp
  rw [hsplit] at h
  obtain ⟨hquote, h⟩ := BytesAt.append_iff.1 h
  obtain ⟨hkey, h⟩ := BytesAt.append_iff.1 h
  obtain ⟨hcolon, h⟩ := BytesAt.append_iff.1 h
  have hvalue := (BytesAt.append_iff.1 h).1
  simp only [List.length_append, List.length_singleton] at hkey hcolon hvalue
  rw [← Nat.add_assoc] at hcolon hvalue
  have hread := readString_quote k hkey
  have hskipColon := skipBlanks_of_byteAt? hcolon.byteAt? (by decide)
  have hval : readValue b (fuel + 1) depth (j + 1 + (escapedBytes k.toList).length + 1 + 1) =
      .ok (v, j + 1 + (escapedBytes k.toList).length + 1 + 1 + v.write.toUTF8.data.toList.length) :=
    readValue_plain hv hvalue hx
  have hskipKey := skipBlanks_of_byteAt? hquote.byteAt? (by decide)
  have hlength := memberBytes_length k v
  rw [readMembers]
  rcases hstart with ⟨rfl, rfl⟩ | ⟨rfl, hcomma, rfl⟩
  · simp +decide only [hskipKey, hquote.byteAt?, ↓reduceIte, hread, hskipColon, hcolon.byteAt?,
      hval]
    congr 1
    omega
  · simp +decide only [skipBlanks_of_byteAt? hcomma.byteAt? (by decide), hcomma.byteAt?,
      ↓reduceIte, hskipKey, hquote.byteAt?, hread, hskipColon, hcolon.byteAt?, hval]
    congr 1
    omega

/-- The members after the first, each after its comma, up to the closing brace. -/
theorem readMembers_rest {depth : Nat} : ∀ (ms : List (String × Value)) {i fuel : Nat}
    {acc : List (String × Value)}, (∀ m ∈ ms, Plain m.2) →
    BytesAt b i ((ms.flatMap fun m => 0x2C :: memberBytes m) ++ [0x7D]) → b.size < fuel + i →
    readMembers b fuel depth i false acc =
      .ok (acc.reverse ++ ms, i + (ms.flatMap fun m => 0x2C :: memberBytes m).length)
  | [], i, fuel, acc, _, h, hfuel => by
    have hbrace : BytesAt b i [0x7D] := by simpa using h
    obtain ⟨f, rfl⟩ : ∃ f, fuel = f + 1 := ⟨fuel - 1, by have := hbrace.lt_size; omega⟩
    rw [readMembers]
    simp +decide only [skipBlanks_of_byteAt? hbrace.byteAt? (by decide), hbrace.byteAt?]
    simp
  | (k, v) :: ms, i, fuel, acc, hplain, h, hfuel => by
    simp only [List.flatMap_cons, List.cons_append, List.append_assoc] at h
    obtain ⟨hcomma, h⟩ := BytesAt.cons_iff.1 h
    have hrest := (BytesAt.append_iff.1 h).2
    obtain ⟨x, rest, hnext, hx⟩ := members_rest_head ms
    rw [hnext] at h
    -- a member takes at least its quotes and its colon, so the fuel lasts
    obtain ⟨f, rfl⟩ : ∃ f, fuel = f + 2 := by
      have := (BytesAt.append_iff.1 h).2.lt_size
      have := memberBytes_length k v
      exact ⟨fuel - 2, by omega⟩
    rw [readMembers_member (.inr ⟨rfl, hcomma, rfl⟩) (hplain _ List.mem_cons_self) h hx,
      readMembers_rest ms (fun m hm => hplain m (List.mem_cons_of_mem _ hm)) hrest (by omega)]
    simp only [List.reverse_cons, List.append_assoc, List.flatMap_cons, List.cons_append,
      List.nil_append, List.length_cons, List.length_append, Except.ok.injEq, Prod.mk.injEq,
      true_and]
    omega

/-- The bytes of the members of an object, as the writer puts them between its braces. -/
def membersBytes : List (String × Value) → List UInt8
  | [] => []
  | m :: ms => memberBytes m ++ ms.flatMap fun m => 0x2C :: memberBytes m

/-- The bytes of an object: its members between braces. -/
theorem obj_bytes (ms : List (String × Value)) :
    (Value.obj ms).write.toUTF8.data.toList = 0x7B :: (membersBytes ms ++ [0x7D]) := by
  rw [Value.write, toUTF8_append_toList, toUTF8_append_toList]
  cases ms with
  | nil => rfl
  | cons m ms =>
    rw [writeMembers_bytes]
    rfl

/-- **An object of plain members reads back** from its opening brace, with the offset after its
closing brace. -/
theorem readValue_obj {ms : List (String × Value)} (hms : ∀ m ∈ ms, Plain m.2)
    {i fuel depth : Nat} (h : BytesAt b i (Value.obj ms).write.toUTF8.data.toList)
    (hdepth : 1 < depth) (hfuel : b.size < fuel + i) :
    readValue b fuel depth i = .ok (.obj ms, i + (Value.obj ms).write.toUTF8.data.toList.length) := by
  rw [obj_bytes] at h ⊢
  obtain ⟨hbrace, h⟩ := BytesAt.cons_iff.1 h
  have hclose := h.lt_size_of_append
  obtain ⟨f, rfl⟩ : ∃ f, fuel = f + 1 := ⟨fuel - 1, by omega⟩
  rw [readValue]
  simp +decide only [skipBlanks_of_byteAt? hbrace.byteAt? (by decide), hbrace.byteAt?,
    ↓reduceIte, show ¬ depth ≤ 1 by omega]
  cases ms with
  | nil =>
    -- no member: the closing brace follows at once
    have hend : BytesAt b (i + 1) [0x7D] := h
    obtain ⟨g, rfl⟩ : ∃ g, f = g + 1 := ⟨f - 1, by have := hend.lt_size; omega⟩
    rw [readMembers]
    simp +decide only [skipBlanks_of_byteAt? hend.byteAt? (by decide), hend.byteAt?]
    rfl
  | cons m ms =>
    obtain ⟨k, v⟩ := m
    rw [membersBytes, List.append_assoc] at h
    have hrest := (BytesAt.append_iff.1 h).2
    obtain ⟨x, rest, hnext, hx⟩ := members_rest_head ms
    rw [hnext] at h
    have hmember := memberBytes_length k v
    obtain ⟨g, rfl⟩ : ∃ g, f = g + 2 := by
      have := (BytesAt.append_iff.1 h).2.lt_size
      exact ⟨f - 2, by omega⟩
    have hlength : (membersBytes ((k, v) :: ms) ++ [0x7D]).length =
        (memberBytes (k, v)).length + (ms.flatMap fun m => 0x2C :: memberBytes m).length + 1 := by
      simp only [membersBytes, List.length_append, List.length_singleton]
    rw [readMembers_member (.inl ⟨rfl, rfl⟩) (hms _ List.mem_cons_self) h hx,
      readMembers_rest ms (fun m hm => hms m (List.mem_cons_of_mem _ hm)) hrest (by omega),
      List.length_cons, hlength]
    simp only [List.reverse_cons, List.reverse_nil, List.nil_append, List.singleton_append]
    congr 2
    omega

/-- **`parse` reads back every object of plain members as written.** -/
theorem parse_write_obj {ms : List (String × Value)} (hms : ∀ m ∈ ms, Plain m.2) :
    parse (Value.obj ms).write.toUTF8 = .ok (.obj ms) := by
  have hread : readValue (Value.obj ms).write.toUTF8 (2 * (Value.obj ms).write.toUTF8.size + 2)
      maxDepth 0 = .ok (.obj ms, (Value.obj ms).write.toUTF8.size) := by
    rw [readValue_obj hms (BytesAt.whole _) (by decide) (by omega), Nat.zero_add,
      Array.length_toList, ByteArray.size_data]
  have hend : skipBlanks (Value.obj ms).write.toUTF8 (Value.obj ms).write.toUTF8.size =
      (Value.obj ms).write.toUTF8.size := by
    rw [skipBlanks, dif_neg (Nat.lt_irrefl _)]
  rw [parse, value, hread]
  simp only [hend, Nat.lt_irrefl, if_false]

end Reading

end Storefront.Json.Reader
