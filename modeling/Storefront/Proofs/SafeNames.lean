import Mathlib
import Storefront.Proofs.ImageUrls

/-
  Safe file names, and the byte arithmetic of their cut.

  `sanitize` keeps the last segment of a client's file name, trims its blanks, turns every
  character outside `A-Z a-z 0-9 . _ -` into `_` and cuts the result to `maxNameLength`
  characters, keeping a short extension.  The service makes that cut on byte offsets of the
  UTF-8 text: `cutBytes` is the cut made so, step by step, with the length in bytes, the offset
  of the last dot, two slices and two subtractions, each of which fails, here `none`, off a
  character boundary or below zero.  The cut comes after the replacement, when every character
  is ASCII and takes one byte, so every offset it computes is a boundary within the text and the
  byte cut is the character cut `cut` (`cutBytes_ascii`).

  Main statement (`sanitize_cuts_to_safe_names`): for every raw name, the byte cut of the
  replaced name does not panic and gives the character cut; a name of at most 100 characters is
  kept, a longer one is cut to exactly 100, keeping the suffix from its last dot when that dot is
  not first and the suffix has at most 16 characters; the name is refused exactly when the cut is
  empty or all dots; and every name given back has 1 to 100 characters from `A-Z a-z 0-9 . _ -`
  and is neither `.` nor `..`.
-/

namespace Storefront.Media

/-! ## Bytes of characters -/

/-- The number of bytes of the UTF-8 form of some characters. -/
def byteLength : List Char → Nat
  | [] => 0
  | c :: cs => c.utf8Size + byteLength cs

@[simp] theorem byteLength_nil : byteLength [] = 0 := rfl

@[simp] theorem byteLength_cons (c : Char) (cs : List Char) :
    byteLength (c :: cs) = c.utf8Size + byteLength cs := rfl

@[simp] theorem byteLength_append (l m : List Char) :
    byteLength (l ++ m) = byteLength l + byteLength m := by
  induction l with
  | nil => simp
  | cons c cs ih => simp [ih, Nat.add_assoc]

/-- A text takes the bytes of its characters. -/
theorem utf8ByteSize_ofList (l : List Char) : (String.ofList l).utf8ByteSize = byteLength l := by
  induction l with
  | nil => rfl
  | cons c cs ih =>
    have hsplit : String.ofList (c :: cs) = String.singleton c ++ String.ofList cs := by
      rw [String.singleton_eq_ofList, ← String.ofList_append]
      rfl
    rw [hsplit, String.utf8ByteSize_append, String.utf8ByteSize_singleton, ih, byteLength_cons]

/-- Characters of one byte each take as many bytes as there are of them. -/
theorem byteLength_of_ascii {l : List Char} (h : ∀ c ∈ l, c.utf8Size = 1) :
    byteLength l = l.length := by
  induction l with
  | nil => rfl
  | cons c cs ih =>
    rw [byteLength_cons, h c List.mem_cons_self, ih fun d hd => h d (List.mem_cons_of_mem _ hd),
      List.length_cons, Nat.add_comm]

/-- A character below 128 takes one byte. -/
theorem utf8Size_of_toNat_lt {c : Char} (h : c.toNat < 128) : c.utf8Size = 1 := by
  simp [Char.utf8Size, UInt32.le_iff_toNat_le]
  omega

/-- A name character is ASCII. -/
theorem isNameChar_toNat_lt {c : Char} (h : isNameChar c = true) : c.toNat < 128 := by
  show c.val.toNat < 128
  simp only [isNameChar, Char.isAlphanum, Char.isAlpha, Char.isUpper, Char.isLower, Char.isDigit,
    Bool.or_eq_true, Bool.and_eq_true, decide_eq_true_eq, UInt32.le_iff_toNat_le] at h
  have hZ : 'Z'.val.toNat = 90 := rfl
  have hz : 'z'.val.toNat = 122 := rfl
  have h9 : '9'.val.toNat = 57 := rfl
  -- the three ranges end below 128, and `.`, `_` and `-` are ASCII
  rcases h with (((⟨-, h⟩ | ⟨-, h⟩) | ⟨-, h⟩) | rfl | rfl) | rfl
  · omega
  · omega
  · omega
  · decide
  · decide
  · decide

/-! ## Slicing at byte offsets -/

/-- A slice of a text: the text between its byte offsets `a` and `b`.  Slicing fails, here
`none`, unless `a ≤ b` and both offsets are character boundaries of `s`, which no offset past its
end is. -/
def sliceBytes (s : String) (a b : Nat) : Option String :=
  if a ≤ b ∧ (⟨a⟩ : String.Pos.Raw).IsValid s ∧ (⟨b⟩ : String.Pos.Raw).IsValid s then
    some (String.Pos.Raw.extract s ⟨a⟩ ⟨b⟩)
  else none

/-- The offset after some leading characters is a character boundary. -/
theorem isValid_byteLength {s : String} {pre rest : List Char} (h : s.toList = pre ++ rest) :
    (⟨byteLength pre⟩ : String.Pos.Raw).IsValid s := by
  rw [String.Pos.Raw.isValid_iff_exists_take_toList]
  exact ⟨pre.length, by rw [h, List.take_left' rfl, utf8ByteSize_ofList]⟩

theorem extract_go₂ (mid rest : List Char) (k : Nat) :
    String.Pos.Raw.extract.go₂ (mid ++ rest) ⟨k⟩ ⟨k + byteLength mid⟩ = mid := by
  induction mid generalizing k with
  | nil => cases rest <;> simp [String.Pos.Raw.extract.go₂]
  | cons d ds ih =>
    have hpos := d.utf8Size_pos
    have hne : (⟨k⟩ : String.Pos.Raw) ≠ ⟨k + byteLength (d :: ds)⟩ := by
      intro h
      have := congrArg String.Pos.Raw.byteIdx h
      simp only [byteLength_cons] at this
      omega
    have hadd : (⟨k⟩ : String.Pos.Raw) + d = ⟨k + d.utf8Size⟩ := rfl
    rw [List.cons_append, String.Pos.Raw.extract.go₂, if_neg hne, hadd,
      show k + byteLength (d :: ds) = k + d.utf8Size + byteLength ds by simp; omega, ih]

theorem extract_go₁ (pre l : List Char) (k : Nat) (e : String.Pos.Raw) :
    String.Pos.Raw.extract.go₁ (pre ++ l) ⟨k⟩ ⟨k + byteLength pre⟩ e =
      String.Pos.Raw.extract.go₂ l ⟨k + byteLength pre⟩ e := by
  induction pre generalizing k with
  | nil =>
    rw [List.nil_append, byteLength_nil, Nat.add_zero]
    cases l with
    | nil => rfl
    | cons c cs => rw [String.Pos.Raw.extract.go₁, if_pos rfl]
  | cons d ds ih =>
    have hpos := d.utf8Size_pos
    have hne : (⟨k⟩ : String.Pos.Raw) ≠ ⟨k + byteLength (d :: ds)⟩ := by
      intro h
      have := congrArg String.Pos.Raw.byteIdx h
      simp only [byteLength_cons] at this
      omega
    have hadd : (⟨k⟩ : String.Pos.Raw) + d = ⟨k + d.utf8Size⟩ := rfl
    rw [List.cons_append, String.Pos.Raw.extract.go₁, if_neg hne, hadd,
      show k + byteLength (d :: ds) = k + d.utf8Size + byteLength ds by simp; omega, ih]

/-- The text between the offsets around some characters is those characters. -/
theorem extract_eq {s : String} {pre mid rest : List Char} (h : s.toList = pre ++ mid ++ rest) :
    String.Pos.Raw.extract s ⟨byteLength pre⟩ ⟨byteLength pre + byteLength mid⟩ =
      String.ofList mid := by
  simp only [String.Pos.Raw.extract]
  rcases mid with _ | ⟨d, ds⟩
  · simp
  have hpos := d.utf8Size_pos
  have hgo := extract_go₁ pre (d :: ds ++ rest) 0 ⟨byteLength pre + byteLength (d :: ds)⟩
  rw [Nat.zero_add, extract_go₂] at hgo
  rw [if_neg (by simp; omega), h, List.append_assoc]
  exact congrArg String.ofList hgo

/-- **A slice between character boundaries.**  Slicing at the offsets around some characters of
a text does not panic and gives those characters. -/
theorem sliceBytes_eq {s : String} {pre mid rest : List Char} (h : s.toList = pre ++ mid ++ rest) :
    sliceBytes s (byteLength pre) (byteLength pre + byteLength mid) = some (String.ofList mid) := by
  have ha : (⟨byteLength pre⟩ : String.Pos.Raw).IsValid s :=
    isValid_byteLength (show s.toList = pre ++ (mid ++ rest) by rw [h, List.append_assoc])
  have hb : (⟨byteLength pre + byteLength mid⟩ : String.Pos.Raw).IsValid s := by
    rw [← byteLength_append]
    exact isValid_byteLength h
  rw [sliceBytes, if_pos ⟨Nat.le_add_right _ _, ha, hb⟩, extract_eq h]

/-! ## The last dot -/

/-- The byte offset at which the last `c` of some characters starts, found searching from the
end. -/
def lastByteOffset (c : Char) : List Char → Option Nat
  | [] => none
  | d :: ds =>
    match lastByteOffset c ds with
    | some i => some (d.utf8Size + i)
    | none => if d = c then some 0 else none

theorem lastByteOffset_eq_none {c : Char} {l : List Char} (h : c ∉ l) : lastByteOffset c l = none := by
  induction l with
  | nil => rfl
  | cons d ds ih =>
    have hd : d ≠ c := fun hdc => h (hdc ▸ List.mem_cons_self)
    rw [lastByteOffset, ih fun hm => h (List.mem_cons_of_mem _ hm), if_neg hd]

/-- The last `c` of a text that has no `c` after it starts after the bytes before it. -/
theorem lastByteOffset_append {c : Char} {t : List Char} (h : c ∉ t) (p : List Char) :
    lastByteOffset c (p ++ c :: t) = some (byteLength p) := by
  induction p with
  | nil => rw [List.nil_append, lastByteOffset, lastByteOffset_eq_none h, if_pos rfl, byteLength_nil]
  | cons d ds ih => rw [List.cons_append, lastByteOffset, ih, byteLength_cons]

/-- A text that has a `c` is the part before its first `c`, that `c` and the rest. -/
theorem exists_first_mem {c : Char} {m : List Char} (h : c ∈ m) :
    ∃ u v, m = u ++ c :: v ∧ c ∉ u := by
  induction m with
  | nil => cases h
  | cons d ds ih =>
    by_cases hd : d = c
    · exact ⟨[], ds, by rw [hd]; rfl, List.not_mem_nil⟩
    · obtain ⟨u, v, rfl, hu⟩ := ih ((List.mem_cons.1 h).resolve_left (Ne.symm hd))
      refine ⟨d :: u, v, rfl, ?_⟩
      rw [List.mem_cons, not_or]
      exact ⟨Ne.symm hd, hu⟩

/-- Every text has no `c`, or a last one. -/
theorem not_mem_or_last_mem (c : Char) (l : List Char) :
    c ∉ l ∨ ∃ p t, l = p ++ c :: t ∧ c ∉ t := by
  by_cases hc : c ∈ l
  · -- the last `c` is the first one of the reversed text
    obtain ⟨u, v, hrev, hu⟩ := exists_first_mem (List.mem_reverse.2 hc)
    refine .inr ⟨v.reverse, u.reverse, ?_, by simpa using hu⟩
    rw [← List.reverse_reverse l, hrev]
    simp
  · exact .inl hc

/-! ## The extension a cut keeps -/

theorem keptExtension_of_not_mem {cs : List Char} (h : '.' ∉ cs) : keptExtension cs = [] := by
  have hnone : cs.reverse.findIdx? (· = '.') = none := by
    rw [List.findIdx?_eq_none_iff]
    intro c hc
    have hne : c ≠ '.' := fun hdot => h (List.mem_reverse.1 (hdot ▸ hc))
    simpa using hne
  rw [keptExtension, hnone]

/-- **The extension, from the last dot.**  A cut keeps the text from the last dot when the dot
is not first and the text has at most `maxExtensionLength` characters, and nothing else. -/
theorem keptExtension_append_dot {p t : List Char} (h : '.' ∉ t) :
    keptExtension (p ++ '.' :: t) =
      if p ≠ [] ∧ t.length + 1 ≤ maxExtensionLength then '.' :: t else [] := by
  -- the last dot is the first one of the reversed text
  have hfind : (p ++ '.' :: t).reverse.findIdx? (· = '.') = some t.length := by
    have hnone : t.reverse.findIdx? (· = '.') = none := by
      rw [List.findIdx?_eq_none_iff]
      intro c hc
      have hne : c ≠ '.' := fun hdot => h (List.mem_reverse.1 (hdot ▸ hc))
      simpa using hne
    simp [List.findIdx?_append, List.findIdx?_cons, hnone]
  have hdot : (p ++ '.' :: t).length - 1 - t.length = p.length := by
    simp only [List.length_append, List.length_cons]
    omega
  have htail : (p ++ '.' :: t).length - p.length = t.length + 1 := by
    simp only [List.length_append, List.length_cons]
    omega
  have hcond : (0 < p.length && (p ++ '.' :: t).length - p.length ≤ maxExtensionLength) = true ↔
      p ≠ [] ∧ t.length + 1 ≤ maxExtensionLength := by
    simp only [Bool.and_eq_true, decide_eq_true_eq, List.length_pos_iff, htail]
  rw [keptExtension, hfind]
  dsimp only
  rw [hdot, List.drop_left' rfl]
  exact if_congr hcond rfl rfl

theorem keptExtension_length_le (cs : List Char) :
    (keptExtension cs).length ≤ maxExtensionLength := by
  unfold keptExtension
  split
  · dsimp only
    split
    · next hcond =>
      simp only [Bool.and_eq_true, decide_eq_true_eq] at hcond
      rw [List.length_drop]
      exact hcond.2
    · exact Nat.zero_le _
  · exact Nat.zero_le _

theorem cut_of_le {cs : List Char} (h : cs.length ≤ maxNameLength) : cut cs = cs := by
  rw [cut, if_pos h]

/-- A long name is cut to exactly `maxNameLength` characters. -/
theorem cut_length {cs : List Char} (h : maxNameLength < cs.length) :
    (cut cs).length = maxNameLength := by
  have he := keptExtension_length_le cs
  have hmax : maxExtensionLength ≤ maxNameLength := by decide
  rw [cut, if_neg (Nat.not_le.2 h), List.length_append, List.length_take]
  omega

theorem cut_length_le (cs : List Char) : (cut cs).length ≤ maxNameLength := by
  by_cases h : cs.length ≤ maxNameLength
  · rw [cut_of_le h]
    exact h
  · exact (cut_length (Nat.lt_of_not_le h)).le

/-! ## The cut, on bytes -/

/-- The subtraction of machine words, which fails below zero, here `none`. -/
def subChecked (a b : Nat) : Option Nat :=
  if b ≤ a then some (a - b) else none

/-- The extension a cut on bytes keeps: the slice from the byte offset of the last dot to the
end, when that offset is not `0` and the bytes from it are at most `maxExtensionLength`; else the
empty text. -/
def extensionBytes (name : String) : Option String :=
  match lastByteOffset '.' name.toList with
  | some dot =>
    if 0 < dot then do
      let tail ← subChecked name.utf8ByteSize dot
      if tail ≤ maxExtensionLength then sliceBytes name dot name.utf8ByteSize else pure ""
    else pure ""
  | none => pure ""

/-- The cut of a name on byte offsets: a name of at most `maxNameLength` bytes is kept, and a
longer one becomes its slice up to `maxNameLength` less the extension's bytes, followed by the
extension; `none` where a slice or a subtraction fails. -/
def cutBytes (name : String) : Option String :=
  if name.utf8ByteSize ≤ maxNameLength then some name
  else do
    let extension ← extensionBytes name
    let stemEnd ← subChecked maxNameLength extension.utf8ByteSize
    let stem ← sliceBytes name 0 stemEnd
    pure (stem ++ extension)

section Ascii

variable {r : List Char}

/-- On ASCII text the extension cut on bytes is the kept extension. -/
theorem extensionBytes_ascii (h : ∀ c ∈ r, c.utf8Size = 1) :
    extensionBytes (String.ofList r) = some (String.ofList (keptExtension r)) := by
  unfold extensionBytes
  rw [String.toList_ofList]
  rcases not_mem_or_last_mem '.' r with hno | ⟨p, t, rfl, ht⟩
  · rw [lastByteOffset_eq_none hno, keptExtension_of_not_mem hno]
    rfl
  have hp : byteLength p = p.length := byteLength_of_ascii fun c hc => h c (by simp [hc])
  have ht' : byteLength ('.' :: t) = t.length + 1 := by
    rw [byteLength_of_ascii fun c hc => h c (by simp [hc]), List.length_cons]
  have hsize : (String.ofList (p ++ '.' :: t)).utf8ByteSize = p.length + (t.length + 1) := by
    rw [utf8ByteSize_ofList, byteLength_append, hp, ht']
  rw [lastByteOffset_append ht, hp, keptExtension_append_dot ht]
  dsimp only
  by_cases hp0 : p = []
  · -- a dot at the start keeps nothing
    subst hp0
    rw [List.length_nil, if_neg (Nat.lt_irrefl 0), if_neg (fun hc => hc.1 rfl)]
    rfl
  have hpos : 0 < p.length := List.length_pos_iff.2 hp0
  have hsub : subChecked (String.ofList (p ++ '.' :: t)).utf8ByteSize p.length =
      some (t.length + 1) := by
    rw [hsize, subChecked, if_pos (by omega)]
    congr 1
    omega
  rw [if_pos hpos, hsub]
  by_cases hlen : t.length + 1 ≤ maxExtensionLength
  · -- the slice from the dot to the end
    have hslice := @sliceBytes_eq (String.ofList (p ++ '.' :: t)) p ('.' :: t) [] (by simp)
    rw [hp, ht', ← Nat.add_assoc, ← hsize.trans (Nat.add_assoc _ _ _).symm] at hslice
    rw [if_pos ⟨hp0, hlen⟩]
    exact (Option.bind_some _ _).trans (if_pos hlen ▸ hslice)
  · rw [if_neg (fun hc => hlen hc.2)]
    exact (Option.bind_some _ _).trans (if_neg hlen)

/-- **The byte cut of ASCII text is the character cut.**  Every offset the byte cut computes is a
character boundary within the text, no subtraction goes below zero, and the result is `cut`. -/
theorem cutBytes_ascii (h : ∀ c ∈ r, c.utf8Size = 1) :
    cutBytes (String.ofList r) = some (String.ofList (cut r)) := by
  have hsize : (String.ofList r).utf8ByteSize = r.length := by
    rw [utf8ByteSize_ofList, byteLength_of_ascii h]
  unfold cutBytes
  rw [hsize]
  by_cases hle : r.length ≤ maxNameLength
  · rw [if_pos hle, cut_of_le hle]
  rw [if_neg hle, extensionBytes_ascii h]
  -- the extension is short and ASCII, and the stem ends on a character
  have hext := keptExtension_length_le r
  have hmax : maxExtensionLength ≤ maxNameLength := by decide
  have hesize : (String.ofList (keptExtension r)).utf8ByteSize = (keptExtension r).length := by
    rw [utf8ByteSize_ofList, byteLength_of_ascii fun c hc => h c (keptExtension_subset r hc)]
  have hsub : subChecked maxNameLength (String.ofList (keptExtension r)).utf8ByteSize =
      some (maxNameLength - (keptExtension r).length) := by
    rw [hesize, subChecked, if_pos (by omega)]
  have hstem := @sliceBytes_eq (String.ofList r) []
    (r.take (maxNameLength - (keptExtension r).length))
    (r.drop (maxNameLength - (keptExtension r).length)) (by simp)
  rw [byteLength_nil, Nat.zero_add,
    byteLength_of_ascii fun c hc => h c (List.mem_of_mem_take hc), List.length_take,
    Nat.min_eq_left (by omega)] at hstem
  rw [cut, if_neg hle, String.ofList_append]
  simp only [Option.bind_eq_bind, Option.bind_some, hsub, hstem]
  rfl

end Ascii

/-! ## Safe names -/

/-- A character after the replacement is a name character. -/
theorem isNameChar_replaced (c : Char) : isNameChar (if isNameChar c then c else '_') = true := by
  split
  · assumption
  · decide

/-- A long name with no dot is cut to its first `maxNameLength` characters. -/
theorem cut_of_not_mem {cs : List Char} (h : maxNameLength < cs.length) (hdot : '.' ∉ cs) :
    cut cs = cs.take maxNameLength := by
  rw [cut, if_neg (Nat.not_le.2 h), keptExtension_of_not_mem hdot]
  dsimp only
  rw [List.length_nil, Nat.sub_zero, List.append_nil]

/-- A name that a safe name is made of has 1 to `maxNameLength` name characters, and is
neither `.` nor `..`. -/
theorem sanitize_ok_bounds {raw name : String} (h : sanitize raw = .ok name) :
    1 ≤ name.length ∧ name.length ≤ maxNameLength ∧ (∀ c ∈ name.toList, isNameChar c = true) ∧
      name ≠ "." ∧ name ≠ ".." := by
  obtain ⟨hchars, c, hc, hdot⟩ := sanitize_ok h
  -- a name with a character other than a dot is no name of dots only
  have hdots : ∀ t : String, (∀ d ∈ t.toList, d = '.') → name ≠ t := by
    rintro t ht rfl
    exact hdot (ht c hc)
  have hlen : name.length ≤ maxNameLength := by
    unfold sanitize at h
    dsimp only at h
    split at h
    · cases h
    · rw [← Except.ok.inj h, ← String.length_toList, String.toList_ofList]
      exact cut_length_le _
  refine ⟨?_, hlen, hchars, hdots "." (by simp), hdots ".." (by simp)⟩
  rw [← String.length_toList]
  exact List.length_pos_of_mem hc

/-- **Safe file names.**  Let `r` be the last segment of a raw name after its last `/` or `\`,
trimmed, with every character outside `A-Z a-z 0-9 . _ -` turned into `_`, and `n` its cut.  The
cut of `r` on byte offsets never fails, every slice falling on a character boundary within the
text, and gives `n`, whose characters are all from `A-Z a-z 0-9 . _ -`, so ASCII.  A name of at
most `maxNameLength` (100) characters is kept; a longer one is cut to exactly 100, to its first
100 characters when it has no dot, and otherwise to the characters before the extension followed
by the extension, which is the text from the last dot when that dot is not first and the text has
at most `maxExtensionLength` (16) characters, and empty else.  The name is refused as empty
exactly when `n` is empty or all dots, and `n` is given back otherwise; so every name given back
has 1 to 100 characters from `A-Z a-z 0-9 . _ -` and is neither `.` nor `..`. -/
theorem sanitize_cuts_to_safe_names (raw : String) :
    (let r := (Text.trimBlanks (lastSegment raw.toList)).map fun c =>
      if isNameChar c then c else '_'
    let n := cut r
    cutBytes (String.ofList r) = some (String.ofList n) ∧
    (∀ c ∈ n, isNameChar c = true) ∧
    (r.length ≤ maxNameLength → n = r) ∧
    (maxNameLength < r.length →
      n.length = maxNameLength ∧ ('.' ∉ r → n = r.take maxNameLength) ∧
      ∀ p t, r = p ++ '.' :: t → '.' ∉ t →
        let e := if p ≠ [] ∧ t.length + 1 ≤ maxExtensionLength then '.' :: t else []
        n = r.take (maxNameLength - e.length) ++ e) ∧
    (sanitize raw = .error (.invalidRequest "file name is empty") ↔ ∀ c ∈ n, c = '.') ∧
    ((∃ c ∈ n, c ≠ '.') → sanitize raw = .ok (String.ofList n)) ∧
    ∀ name, sanitize raw = .ok name →
      1 ≤ name.length ∧ name.length ≤ maxNameLength ∧ (∀ c ∈ name.toList, isNameChar c = true) ∧
        name ≠ "." ∧ name ≠ "..") := by
  intro r n
  -- the replacement leaves name characters only, one byte each
  have hchars : ∀ c ∈ r, isNameChar c = true := by
    intro c hc
    obtain ⟨d, -, rfl⟩ := List.mem_map.1 hc
    exact isNameChar_replaced d
  have hascii : ∀ c ∈ r, c.utf8Size = 1 := fun c hc =>
    utf8Size_of_toNat_lt (isNameChar_toNat_lt (hchars c hc))
  have hsanitize : sanitize raw =
      if n.all (· = '.') then .error (.invalidRequest "file name is empty")
      else .ok (String.ofList n) := rfl
  refine ⟨cutBytes_ascii hascii, fun c hc => hchars c (cut_subset r hc), cut_of_le, fun hlong => ⟨cut_length hlong, cut_of_not_mem hlong,
    fun p t hr ht => ?_⟩, ?_, fun ⟨c, hc, hdot⟩ => ?_, fun name => sanitize_ok_bounds⟩
  · -- the extension of a long name, from its last dot
    show cut r = _
    rw [cut, if_neg (Nat.not_le.2 hlong), hr, keptExtension_append_dot ht]
  · rw [hsanitize]
    by_cases hall : n.all (· = '.') = true
    · simp only [hall, if_true, true_iff]
      simpa using hall
    · simp only [hall, Bool.false_eq_true, if_false, reduceCtorEq, false_iff]
      simpa using hall
  · rw [hsanitize, if_neg]
    simp only [List.all_eq_true, decide_eq_true_eq, not_forall]
    exact ⟨c, hc, hdot⟩

end Storefront.Media
