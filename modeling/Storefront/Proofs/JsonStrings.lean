import Mathlib.Tactic.SplitIfs
import Storefront.Proofs.Utf8Bytes
import Storefront.Json.Reader

/-
  Quoted strings read back.

  `quote` writes a character as itself unless it is a quote, a backslash or a control
  character (`Unescaped`); those it writes as a backslash and a letter, or as `\u00` and two
  hexadecimal digits.  The reader takes the characters written as themselves a byte at a time,
  checks the run of them as UTF-8 when it meets a backslash or the closing quote (`brokenAt`),
  and turns an escape back into its byte.  The bytes of characters are UTF-8
  (`validPrefixLength_encode`), so no check fails.  Main statement: reading what `quote s`
  writes gives `s` back, with the offset after the closing quote (`readString_quote`).

  Positions in a document are stated with `BytesAt b i l`: the bytes of `b` from offset `i`
  on start with `l`.
-/

namespace Storefront.Json.Reader

open Storefront.Text

/-! ## Bytes at an offset -/

/-- The bytes of `b` from offset `i` on start with `l`. -/
def BytesAt (b : ByteArray) (i : Nat) (l : List UInt8) : Prop :=
  l <+: b.data.toList.drop i

namespace BytesAt

variable {b : ByteArray} {i : Nat} {x : UInt8} {l l' : List UInt8}

theorem nil (b : ByteArray) (i : Nat) : BytesAt b i [] := List.nil_prefix

/-- A document's bytes stand at offset zero. -/
theorem whole (b : ByteArray) : BytesAt b 0 b.data.toList := by
  unfold BytesAt
  simp only [List.drop_zero, List.prefix_refl]

theorem append_iff : BytesAt b i (l ++ l') ↔ BytesAt b i l ∧ BytesAt b (i + l.length) l' := by
  unfold BytesAt
  rw [← List.drop_drop]
  constructor
  · rintro ⟨t, ht⟩
    refine ⟨⟨l' ++ t, by rw [← ht, List.append_assoc]⟩, ⟨t, ?_⟩⟩
    rw [← ht, List.append_assoc, List.drop_left]
  · rintro ⟨⟨t, ht⟩, ⟨u, hu⟩⟩
    refine ⟨u, ?_⟩
    rw [← ht, List.drop_left] at hu
    rw [← ht, ← hu, List.append_assoc]

theorem cons_iff : BytesAt b i (x :: l) ↔ BytesAt b i [x] ∧ BytesAt b (i + 1) l :=
  show BytesAt b i ([x] ++ l) ↔ _ from append_iff

/-- The bytes stand inside the document. -/
theorem lt_size (h : BytesAt b i (x :: l)) : i + l.length < b.size := by
  obtain ⟨t, ht⟩ := h
  have hlength := congrArg List.length ht
  simp only [List.length_append, List.length_cons, List.length_drop, Array.length_toList,
    ByteArray.size_data] at hlength
  omega

/-- The bytes up to a last one stand inside the document. -/
theorem lt_size_of_append (h : BytesAt b i (l ++ [x])) : i + l.length < b.size := by
  have hlast := (append_iff.1 h).2.lt_size
  simp only [List.length_nil, Nat.add_zero] at hlast
  exact hlast

/-- The byte at an offset. -/
theorem byteAt? (h : BytesAt b i (x :: l)) : Reader.byteAt? b i = some x := by
  have hlt : i < b.size := by
    have := h.lt_size
    omega
  obtain ⟨t, ht⟩ := h
  have hget : (b.data.toList.drop i)[0]? = some x := by rw [← ht]; rfl
  rw [List.getElem?_drop, Nat.add_zero, List.getElem?_eq_some_iff] at hget
  obtain ⟨_, hx⟩ := hget
  rw [Reader.byteAt?, dif_pos hlt, ByteArray.getElem_eq_getElem_data, ← Array.getElem_toList, hx]

/-- The bytes read back from the document. -/
theorem extract (h : BytesAt b i l) : (b.extract i (i + l.length)).toList = l := by
  obtain ⟨t, ht⟩ := h
  rw [toList_eq_data, ByteArray.data_extract, Array.toList_extract, List.extract_eq_take_drop,
    ← ht, Nat.add_sub_cancel_left, List.take_left]

end BytesAt

theorem byteAt?_eq_some_iff {b : ByteArray} {i : Nat} {x : UInt8} :
    byteAt? b i = some x ↔ ∃ h : i < b.size, b[i] = x := by
  unfold byteAt?
  split
  · next h => simp [h]
  · next h => simp [h]

/-- Blanks are skipped up to a byte that is none. -/
theorem skipBlanks_of_byteAt? {b : ByteArray} {i : Nat} {x : UInt8} (h : byteAt? b i = some x)
    (hx : isBlank x = false) : skipBlanks b i = i := by
  obtain ⟨hlt, hget⟩ := byteAt?_eq_some_iff.1 h
  rw [skipBlanks, dif_pos hlt, hget, hx]
  rfl

/-! ## Bytes of strings -/

/-- The bytes of a string are the bytes of its characters. -/
theorem toUTF8_toList (s : String) :
    s.toUTF8.data.toList = s.toList.flatMap String.utf8EncodeChar := by
  obtain ⟨cs, rfl⟩ : ∃ cs, s = String.ofList cs := ⟨s.toList, String.ofList_toList.symm⟩
  rw [String.toList_ofList, String.toUTF8, String.toByteArray_ofList, List.utf8Encode,
    List.toList_data_toByteArray]

theorem toUTF8_append_toList (s t : String) :
    (s ++ t).toUTF8.data.toList = s.toUTF8.data.toList ++ t.toUTF8.data.toList := by
  rw [String.toUTF8, String.toByteArray_append, ByteArray.data_append, Array.toList_append]
  rfl

/-- The bytes of characters read back as the string of the characters. -/
theorem fromUTF8?_flatMap (cs : List Char) :
    String.fromUTF8? (cs.flatMap String.utf8EncodeChar).toByteArray = some (String.ofList cs) := by
  rw [← List.utf8Encode, String.fromUTF8?, dif_pos ByteArray.isValidUTF8_utf8Encode]
  rfl

/-- A character below `0x80` is its own byte. -/
theorem utf8EncodeChar_ascii {c : Char} (h : c.toNat < 0x80) :
    String.utf8EncodeChar c = [c.toNat.toUInt8] := by
  unfold String.utf8EncodeChar
  simp only [show c.val.toNat = c.toNat from rfl]
  rw [if_pos (by omega)]

/-! ## Characters as `quote` writes them -/

/-- A character `quote` writes as itself: no quote, no backslash, no control character. -/
def Unescaped (c : Char) : Prop := c.toNat ≠ 0x22 ∧ c.toNat ≠ 0x5C ∧ 0x20 ≤ c.toNat

/-- The bytes `quote` writes for some characters, between its quotes. -/
def escapedBytes (cs : List Char) : List UInt8 :=
  cs.flatMap fun c => (escapeChar c).toUTF8.data.toList

theorem escapedBytes_cons (c : Char) (cs : List Char) :
    escapedBytes (c :: cs) = (escapeChar c).toUTF8.data.toList ++ escapedBytes cs :=
  List.flatMap_cons

theorem escapeChar_of_unescaped {c : Char} (h : Unescaped c) :
    escapeChar c = String.singleton c := by
  obtain ⟨hquote, hslash, hcontrol⟩ := h
  have hne : ∀ d : Char, d.toNat < 0x20 ∨ d.toNat = 0x22 ∨ d.toNat = 0x5C → c ≠ d := by
    rintro d hd rfl
    omega
  rw [escapeChar, if_neg (hne '"' (by decide)), if_neg (hne '\\' (by decide)),
    if_neg (hne '\n' (by decide)), if_neg (hne '\r' (by decide)), if_neg (hne '\t' (by decide)),
    if_neg (by omega), if_neg (by omega), if_neg (by omega)]

/-- The bytes of a character written as itself: none of them ends the string, starts an
escape or is a control byte. -/
theorem utf8EncodeChar_plain {c : Char} (h : Unescaped c) :
    ∀ x ∈ String.utf8EncodeChar c, 0x20 ≤ x.toNat ∧ x.toNat ≠ 0x22 ∧ x.toNat ≠ 0x5C := by
  obtain ⟨hquote, hslash, hcontrol⟩ := h
  intro x hx
  have hmem := List.mem_map_of_mem (f := UInt8.toNat) hx
  rw [encodeChar_toNat] at hmem
  -- one byte is the character itself; the bytes of longer sequences are all above `0x7F`
  split_ifs at hmem <;> simp only [List.mem_cons, List.not_mem_nil, or_false] at hmem <;> omega

/-- The byte of the hexadecimal digit `hexDigit n`. -/
def hexByte (n : Nat) : UInt8 := (hexDigit n).toNat.toUInt8

theorem hexValue_hexByte {n : Nat} (h : n < 16) : hexValue (hexByte n) = some n := by
  have hall : ∀ d : Fin 16, hexValue (hexByte d) = some d := by decide
  exact hall ⟨n, h⟩

theorem utf8EncodeChar_hexDigit {n : Nat} (h : n < 16) :
    String.utf8EncodeChar (hexDigit n) = [hexByte n] := by
  have hall : ∀ d : Fin 16, String.utf8EncodeChar (hexDigit d) = [hexByte d] := by decide
  exact hall ⟨n, h⟩

/-- The bytes of a quoted string: its escaped characters between two quotes. -/
theorem quote_bytes (s : String) :
    (quote s).toUTF8.data.toList = 0x22 :: (escapedBytes s.toList ++ [0x22]) := by
  have hfold : ∀ (cs : List Char) (init : String),
      (cs.foldl (fun acc c => acc ++ escapeChar c) init).toUTF8.data.toList =
        init.toUTF8.data.toList ++ escapedBytes cs := by
    intro cs
    induction cs with
    | nil => intro init; simp [escapedBytes]
    | cons c cs ih =>
      intro init
      rw [List.foldl_cons, ih, toUTF8_append_toList, escapedBytes_cons, List.append_assoc]
  rw [quote, toUTF8_append_toList, toUTF8_append_toList, String.foldl_eq_foldl_toList, hfold]
  rfl

/-! ## Reading a quoted string -/

section Reading

variable {b : ByteArray}

/-- Bytes that are no quote, no backslash and no control byte are taken one by one. -/
theorem readStringBody_plain (fuel start : Nat) :
    ∀ {i : Nat} {acc l : List UInt8}, BytesAt b i l →
      (∀ x ∈ l, 0x20 ≤ x.toNat ∧ x.toNat ≠ 0x22 ∧ x.toNat ≠ 0x5C) →
      readStringBody b (fuel + l.length) start i acc.toByteArray =
        readStringBody b fuel start (i + l.length) (acc ++ l).toByteArray := by
  intro i acc l
  induction l generalizing i acc with
  | nil => intro _ _; simp
  | cons x l ih =>
    intro h hplain
    obtain ⟨hcontrol, hquote, hslash⟩ := hplain x List.mem_cons_self
    obtain ⟨hx, hrest⟩ := BytesAt.cons_iff.1 h
    have hq : (x == 0x22) = false := beq_eq_false_iff_ne.2 fun h => hquote (by rw [h]; rfl)
    have hs : (x == 0x5C) = false := beq_eq_false_iff_ne.2 fun h => hslash (by rw [h]; rfl)
    have hc : ¬ x < 0x20 := by rw [UInt8.lt_iff_toNat_lt]; exact Nat.not_lt.2 hcontrol
    rw [List.length_cons, ← Nat.add_assoc, readStringBody, hx.byteAt?]
    simp only [hq, hs, Bool.or_false, Bool.false_eq_true, if_false, hc]
    rw [← ByteArray.append_toByteArray_singleton, ← List.toByteArray_append,
      ih hrest fun y hy => hplain y (List.mem_cons_of_mem x hy)]
    simp only [List.append_assoc, List.singleton_append, Nat.add_right_comm i 1, Nat.add_assoc]

/-- A run of characters written as themselves is UTF-8 to its end. -/
theorem brokenAt_flatMap {start : Nat} {cs : List Char}
    (h : BytesAt b start (cs.flatMap String.utf8EncodeChar)) :
    brokenAt b start (start + (cs.flatMap String.utf8EncodeChar).length) = none := by
  simp only [brokenAt, h.extract, validPrefixLength_encode, Nat.add_sub_cancel_left,
    Nat.lt_irrefl, if_false]

/-- Four hexadecimal digits, as one number. -/
theorem readHex4_of {i : Nat} {h₁ h₂ h₃ h₄ : UInt8} {p₁ p₂ p₃ p₄ : Nat}
    (h : BytesAt b i [h₁, h₂, h₃, h₄]) (hp₁ : hexValue h₁ = some p₁)
    (hp₂ : hexValue h₂ = some p₂) (hp₃ : hexValue h₃ = some p₃) (hp₄ : hexValue h₄ = some p₄) :
    readHex4 b i = .ok (((p₁ * 16 + p₂) * 16 + p₃) * 16 + p₄, i + 4) := by
  have hsize := h.lt_size
  obtain ⟨hb₁, h⟩ := BytesAt.cons_iff.1 h
  obtain ⟨hb₂, h⟩ := BytesAt.cons_iff.1 h
  obtain ⟨hb₃, hb₄⟩ := BytesAt.cons_iff.1 h
  simp only [List.length_cons, List.length_nil] at hsize
  rw [readHex4, if_pos (by omega), hb₁.byteAt?, hb₂.byteAt?, hb₃.byteAt?, hb₄.byteAt?]
  simp only [Option.bind_some, hp₁, hp₂, hp₃, hp₄]

/-- A one-letter escape. -/
theorem readEscape_simple {i : Nat} {x y : UInt8} (h : BytesAt b i [x])
    (hx : simpleEscape x = some y) (acc : ByteArray) :
    readEscape b i acc = .ok (acc.push y, i + 1) := by
  rw [readEscape, h.byteAt?]
  simp only [hx]

/-- A `\u00` escape of a control character. -/
theorem readEscape_unicode {i p q : Nat} (h : BytesAt b i [0x75, 0x30, 0x30, hexByte p, hexByte q])
    (hp : p < 2) (hq : q < 16) (acc : ByteArray) :
    readEscape b i acc = .ok (acc.push (p * 16 + q).toUInt8, i + 5) := by
  obtain ⟨hu, hdigits⟩ := BytesAt.cons_iff.1 h
  have hzero : hexValue 0x30 = some 0 := by decide
  have hhex := readHex4_of hdigits hzero hzero (hexValue_hexByte (by omega)) (hexValue_hexByte hq)
  rw [readEscape, hu.byteAt?]
  simp only [show simpleEscape 0x75 = none by decide, show ((0x75 : UInt8) == 0x75) = true by decide,
    if_true]
  -- the code is below `0x20`: no surrogate, and its UTF-8 is one byte
  have hcode : ((0 * 16 + 0) * 16 + p) * 16 + q = p * 16 + q := by omega
  rw [readUnicodeEscape, hhex, hcode]
  simp only [bind, Except.bind, if_neg (show ¬(0xDC00 ≤ p * 16 + q ∧ p * 16 + q ≤ 0xDFFF) by omega),
    if_pos (show p * 16 + q < 0xD800 ∨ p * 16 + q > 0xDBFF by omega), pure, Except.pure]
  rw [pushCodePoint, utf8Bytes, if_pos (by omega)]
  rfl

/-- The escape `quote` writes for a character that is not written as itself: a backslash,
then letters the reader turns back into the character's byte. -/
theorem escapeChar_escaped {c : Char} (hc : ¬ Unescaped c) :
    ∃ e, (escapeChar c).toUTF8.data.toList = 0x5C :: e ∧
      ∀ {b : ByteArray} {i : Nat} (acc : ByteArray), BytesAt b i e →
        readEscape b i acc = .ok (acc.push c.toNat.toUInt8, i + e.length) := by
  unfold escapeChar
  split_ifs with hquote hslash hnl hcr htab hbs hff hctl
  · subst hquote
    exact ⟨[0x22], by decide, fun acc h => readEscape_simple h (by decide) acc⟩
  · subst hslash
    exact ⟨[0x5C], by decide, fun acc h => readEscape_simple h (by decide) acc⟩
  · subst hnl
    exact ⟨[0x6E], by decide, fun acc h => readEscape_simple h (by decide) acc⟩
  · subst hcr
    exact ⟨[0x72], by decide, fun acc h => readEscape_simple h (by decide) acc⟩
  · subst htab
    exact ⟨[0x74], by decide, fun acc h => readEscape_simple h (by decide) acc⟩
  · rw [hbs]
    exact ⟨[0x62], by decide, fun acc h => readEscape_simple h (by decide) acc⟩
  · rw [hff]
    exact ⟨[0x66], by decide, fun acc h => readEscape_simple h (by decide) acc⟩
  · -- any other control character: `\u00` and the two hexadecimal digits of its code
    refine ⟨[0x75, 0x30, 0x30, hexByte (c.toNat / 16), hexByte (c.toNat % 16)], ?_,
      fun acc h => ?_⟩
    · rw [toUTF8_toList, String.toList_ofList]
      simp only [List.flatMap_cons, List.flatMap_nil, List.append_nil,
        utf8EncodeChar_hexDigit (show c.toNat / 16 < 16 by omega),
        utf8EncodeChar_hexDigit (Nat.mod_lt c.toNat (show 16 > 0 by decide))]
      rfl
    · rw [readEscape_unicode h (by omega) (Nat.mod_lt _ (by decide)), Nat.div_add_mod']
      rfl
  · exact absurd ⟨fun h => hquote (Char.toNat_inj.1 h), fun h => hslash (Char.toNat_inj.1 h),
      Nat.not_lt.1 hctl⟩ hc

/-- **One escape**: the run of characters written as themselves before it is checked as UTF-8,
and the escape's bytes give its character; reading goes on after them with an empty run. -/
theorem readStringBody_escape {c : Char} (hc : ¬ Unescaped c) {done run : List Char}
    {start i f : Nat} (hrun : BytesAt b start (run.flatMap String.utf8EncodeChar))
    (hi : i = start + (run.flatMap String.utf8EncodeChar).length)
    (h : BytesAt b i (escapeChar c).toUTF8.data.toList) :
    readStringBody b (f + 1) start i ((done ++ run).flatMap String.utf8EncodeChar).toByteArray =
      readStringBody b f (i + (escapeChar c).toUTF8.data.toList.length)
        (i + (escapeChar c).toUTF8.data.toList.length)
        ((done ++ run ++ [c]).flatMap String.utf8EncodeChar).toByteArray := by
  obtain ⟨e, hbytes, hread⟩ := escapeChar_escaped hc
  rw [hbytes] at h ⊢
  obtain ⟨hslash, hletters⟩ := BytesAt.cons_iff.1 h
  have hascii : c.toNat < 0x80 := by unfold Unescaped at hc; omega
  rw [readStringBody, hslash.byteAt?]
  have hbroken : brokenAt b start i = none := hi ▸ brokenAt_flatMap hrun
  simp only [show ((0x5C : UInt8) == 0x22) = false by decide,
    show ((0x5C : UInt8) == 0x5C) = true by decide, Bool.false_or, Bool.false_eq_true, if_true,
    if_false, hbroken]
  -- the escape's byte joins the bytes read so far
  have hacc : (done ++ run).flatMap String.utf8EncodeChar ++ [c.toNat.toUInt8] =
      (done ++ run ++ [c]).flatMap String.utf8EncodeChar := by
    simp [utf8EncodeChar_ascii hascii]
  rw [hread _ hletters, ← ByteArray.append_toByteArray_singleton, ← List.toByteArray_append, hacc]
  have hoffset : i + 1 + e.length = i + (0x5C :: e).length := by
    rw [List.length_cons]
    omega
  dsimp only
  rw [hoffset]

/-- The reader takes the written characters `cs` from offset `i` to the closing quote.  The
characters read so far are `done ++ run`, where `run` are those written as themselves since the
last escape, from offset `start`: their bytes are checked as UTF-8 at the next escape or at the
closing quote. -/
theorem readStringBody_escaped :
    ∀ (cs done run : List Char) {start i fuel : Nat},
      BytesAt b start (run.flatMap String.utf8EncodeChar) →
      i = start + (run.flatMap String.utf8EncodeChar).length →
      BytesAt b i (escapedBytes cs ++ [0x22]) → b.size < fuel + i →
      readStringBody b fuel start i ((done ++ run).flatMap String.utf8EncodeChar).toByteArray =
        .ok (String.ofList (done ++ run ++ cs), i + (escapedBytes cs).length + 1) := by
  intro cs
  induction cs with
  | nil =>
    intro done run start i fuel hrun hi h hfuel
    -- the closing quote: the run is UTF-8, and so are all the bytes read
    have hquote : BytesAt b i [0x22] := by simpa [escapedBytes] using h
    obtain ⟨f, rfl⟩ : ∃ f, fuel = f + 1 := ⟨fuel - 1, by have := hquote.lt_size; omega⟩
    rw [readStringBody, hquote.byteAt?]
    have hbroken : brokenAt b start i = none := hi ▸ brokenAt_flatMap hrun
    simp only [show ((0x22 : UInt8) == 0x22) = true by decide, if_true, hbroken,
      fromUTF8?_flatMap]
    simp [escapedBytes]
  | cons c cs ih =>
    intro done run start i fuel hrun hi h hfuel
    by_cases hc : Unescaped c
    · -- written as itself: its bytes join the run
      have hbytes : (escapeChar c).toUTF8.data.toList = String.utf8EncodeChar c := by
        rw [escapeChar_of_unescaped hc, toUTF8_toList, String.toList_singleton, List.flatMap_cons,
          List.flatMap_nil, List.append_nil]
      rw [escapedBytes_cons, hbytes, List.append_assoc] at h
      obtain ⟨hchar, hrest⟩ := BytesAt.append_iff.1 h
      have hlen : (String.utf8EncodeChar c).length ≤ fuel := by
        have := hrest.lt_size_of_append
        omega
      obtain ⟨f, rfl⟩ : ∃ f, fuel = f + (String.utf8EncodeChar c).length :=
        ⟨fuel - (String.utf8EncodeChar c).length, by omega⟩
      have hacc : (done ++ run).flatMap String.utf8EncodeChar ++ String.utf8EncodeChar c =
          (done ++ (run ++ [c])).flatMap String.utf8EncodeChar := by
        simp
      rw [readStringBody_plain f start hchar (utf8EncodeChar_plain hc), hacc]
      have hrun' : BytesAt b start ((run ++ [c]).flatMap String.utf8EncodeChar) := by
        rw [List.flatMap_append, List.flatMap_singleton]
        exact BytesAt.append_iff.2 ⟨hrun, hi ▸ hchar⟩
      rw [ih done (run ++ [c]) hrun' (by simp [hi, Nat.add_assoc]) hrest (by omega),
        escapedBytes_cons, hbytes]
      simp [Nat.add_assoc]
    · -- escaped: the run ends at the escape, and an empty one starts after it
      obtain ⟨e, hbytes, -⟩ := escapeChar_escaped hc
      rw [escapedBytes_cons, List.append_assoc] at h
      obtain ⟨hescape, hrest⟩ := BytesAt.append_iff.1 h
      have hpos : 0 < (escapeChar c).toUTF8.data.toList.length := by
        rw [hbytes, List.length_cons]
        omega
      have hlen := hrest.lt_size_of_append
      obtain ⟨f, rfl⟩ : ∃ f, fuel = f + 1 := ⟨fuel - 1, by omega⟩
      rw [readStringBody_escape hc hrun hi hescape]
      have ih' := @ih (done ++ run ++ [c]) [] (i + (escapeChar c).toUTF8.data.toList.length) _ f
        (BytesAt.nil b _) (by simp) hrest (by omega)
      rw [List.append_nil] at ih'
      rw [ih', escapedBytes_cons, List.length_append]
      simp [Nat.add_assoc]

/-- **A quoted string reads back**: from the offset after the opening quote, the reader gives
the string and the offset after the closing quote. -/
theorem readString_quote (s : String) {i : Nat} (h : BytesAt b i (escapedBytes s.toList ++ [0x22])) :
    readString b i = .ok (s, i + (escapedBytes s.toList).length + 1) := by
  have hread := readStringBody_escaped s.toList [] [] (BytesAt.nil b i) (by simp) h
    (show b.size < b.size + 1 + i by omega)
  rw [List.nil_append, List.nil_append, String.ofList_toList] at hread
  exact hread

end Reading

end Storefront.Json.Reader
