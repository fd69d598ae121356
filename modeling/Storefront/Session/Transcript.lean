import Storefront.Json.Value
import Storefront.Time.Stamp

/-
  Transcripts of a session, made independent of random ids, tokens and clocks.

  A session's answers are walked in written order (object keys sorted).  Each token under
  `access_token` becomes `@n` and each lowercase hyphenated uuid inside any other string
  becomes `#n`, numbered by first appearance in the session, equal texts getting equal labels.
  A time stamp under `created_at`, `upload_started_at` or `timestamp` becomes `<time>`.  A
  validation report, whose lines and parameters come in no fixed order, is put in sorted
  order.  The labels can be written back: `{#n}` and `{@n}` in a later request stand for
  the uuid or token behind the label.
-/

namespace Storefront.Session

open Storefront.Json

/-- The labels given so far: the `n`-th token is `@n`, the `n`-th uuid is `#n`. -/
structure Labels where
  tokens : List String := []
  uuids : List String := []
  deriving DecidableEq, Repr

/-- The label number of a text in a list, adding it at the end if new. -/
def labelOf (xs : List String) (s : String) : Nat × List String :=
  match xs.idxOf? s with
  | some i => (i + 1, xs)
  | none => (xs.length + 1, xs ++ [s])

/-- Whether a character is a lowercase hexadecimal digit. -/
def isLowerHex (c : Char) : Bool :=
  c.isDigit || ('a' ≤ c && c ≤ 'f')

/-- Whether 36 characters form a uuid: lowercase hexadecimal digits in groups of 8, 4, 4, 4
and 12, joined by `-`. -/
def isUuid (cs : List Char) : Bool :=
  cs.length = 36 &&
    (cs.zipIdx.all fun (c, i) =>
      if i = 8 || i = 13 || i = 18 || i = 23 then c = '-' else isLowerHex c)

/-- Every uuid in a text replaced by its label, scanning from the left. -/
def labelUuids (cs : List Char) (l : Labels) : List Char × Labels :=
  match cs with
  | [] => ([], l)
  | c :: rest =>
    if isUuid ((c :: rest).take 36) then
      let (n, uuids) := labelOf l.uuids (String.ofList ((c :: rest).take 36))
      let (out, l') := labelUuids (rest.drop 35) { l with uuids }
      (('#' :: (toString n).toList) ++ out, l')
    else
      let (out, l') := labelUuids rest l
      (c :: out, l')
termination_by cs.length
decreasing_by all_goals simp only [List.length_drop, List.length_cons]; omega

/-- The pieces of a parameter list, split at each `, ` outside quotes and brackets. -/
def splitParams (cs : List Char) : List String :=
  let rec go : List Char → Nat → Bool → List Char → List String → List String
    | [], _, _, cur, acc => (acc ++ [String.ofList cur.reverse])
    | '\\' :: c :: rest, depth, true, cur, acc => go rest depth true (c :: '\\' :: cur) acc
    | '"' :: rest, depth, inQuote, cur, acc => go rest depth (!inQuote) ('"' :: cur) acc
    | ',' :: ' ' :: rest, 0, false, cur, acc =>
      go rest 0 false [] (acc ++ [String.ofList cur.reverse])
    | c :: rest, depth, false, cur, acc =>
      if c = '(' || c = '[' || c = '\x7b' then go rest (depth + 1) false (c :: cur) acc
      else if c = ')' || c = ']' || c = '\x7d' then go rest (depth - 1) false (c :: cur) acc
      else go rest depth false (c :: cur) acc
    | c :: rest, depth, true, cur, acc => go rest depth true (c :: cur) acc
  go cs 0 false [] []

/-- The index of the first occurrence of a pattern in a list, at or after `from`. -/
def findFrom (cs pat : List Char) (start : Nat) : Option Nat :=
  ((List.range (cs.length + 1)).drop start).find? fun i => (cs.drop i).take pat.length = pat

/-- A report line with the entries of its trailing parameter map sorted. -/
def sortParamLine (line : String) : String :=
  let cs := line.toList
  let openMark := ['[', '\x7b']
  let closeMark := ['\x7d', ']']
  match findFrom cs "Validation error: ".toList 0 with
  | none => line
  | some i =>
    match findFrom cs openMark i with
    | none => line
    | some j =>
      if cs.length < j + 4 || cs.drop (cs.length - 2) ≠ closeMark then line
      else
        let inner := (cs.drop (j + 2)).take (cs.length - j - 4)
        let entries := (splitParams inner).mergeSort fun a b => decide (a ≤ b)
        String.ofList (cs.take (j + 2)) ++ ", ".intercalate entries ++ "\x7d]"

/-- A validation report in sorted order: parameters within each line, then the lines. -/
def sortReport (s : String) : String :=
  "\n".intercalate (((s.splitOn "\n").map sortParamLine).mergeSort fun a b => decide (a ≤ b))

/-- Whether a text contains another. -/
def containsText (s pat : String) : Bool :=
  (findFrom s.toList pat.toList 0).isSome

/-- The keys whose values are time stamps. -/
def timeKeys : List String := ["created_at", "upload_started_at", "timestamp"]

/-- A string of an answer, under `key`, made independent of ids, tokens and clocks. -/
def maskString (key : String) (s : String) (l : Labels) : String × Labels :=
  if key = "access_token" then
    let (n, tokens) := labelOf l.tokens s
    ("@" ++ toString n, { l with tokens })
  else if timeKeys.contains key && Time.isStamp s then ("<time>", l)
  else if containsText s "Validation error:" then (sortReport s, l)
  else
    let (cs, l') := labelUuids s.toList l
    (String.ofList cs, l')

mutual

/-- A value of an answer, under `key`, with every string masked in written order. -/
def maskValue (key : String) : Value → Labels → Value × Labels
  | .str s, l => let (s', l') := maskString key s l; (.str s', l')
  | .arr items, l => let (xs, l') := maskItems key items l; (.arr xs, l')
  | .obj members, l => let (ms, l') := maskMembers members l; (.obj ms, l')
  | v, l => (v, l)

/-- `maskValue` on each item, in order. -/
def maskItems (key : String) : List Value → Labels → List Value × Labels
  | [], l => ([], l)
  | v :: rest, l =>
    let (v', l1) := maskValue key v l
    let (rest', l2) := maskItems key rest l1
    (v' :: rest', l2)

/-- `maskValue` on each member under its own key, in order. -/
def maskMembers : List (String × Value) → Labels → List (String × Value) × Labels
  | [], l => ([], l)
  | (k, v) :: rest, l =>
    let (v', l1) := maskValue k v l
    let (rest', l2) := maskMembers rest l1
    ((k, v') :: rest', l2)

end

/-- An answer masked with the labels so far: keys sorted, then `maskValue`. -/
def mask (v : Value) (l : Labels) : Value × Labels :=
  maskValue "" v.canonical l

mutual

/-- Only the time stamps of a value masked. -/
def maskTimes : Value → Value
  | .arr items => .arr (maskTimesItems items)
  | .obj members => .obj (maskTimesMembers members)
  | v => v

/-- `maskTimes` on each item. -/
def maskTimesItems : List Value → List Value
  | [] => []
  | v :: rest => maskTimes v :: maskTimesItems rest

/-- `maskTimes` on each member, a stamp under a time key replaced. -/
def maskTimesMembers : List (String × Value) → List (String × Value)
  | [] => []
  | (k, .str s) :: rest =>
    (k, if timeKeys.contains k && Time.isStamp s then .str "<time>" else .str s) ::
      maskTimesMembers rest
  | (k, v) :: rest => (k, maskTimes v) :: maskTimesMembers rest

end

/-- The text behind a label reference `#n` or `@n`, if the label is known. -/
def Labels.resolve (l : Labels) (mark : Char) (n : Nat) : Option String :=
  let xs := if mark = '#' then l.uuids else l.tokens
  if n = 0 then none else xs[n - 1]?

/-- A reference `{#n}` or `{@n}` at the front of a text: its mark, its number and its
length. -/
def referenceAtFront : List Char → Option (Char × Nat × Nat)
  | '\x7b' :: mark :: more =>
    let ds := more.takeWhile Char.isDigit
    if (mark = '#' || mark = '@') && !ds.isEmpty && (more.drop ds.length).head? = some '\x7d' then
      some (mark, ds.foldl (fun v d => 10 * v + (d.toNat - 48)) 0, ds.length + 3)
    else none
  | _ => none

/-- Every known reference in a list of characters replaced by the text behind it. -/
def Labels.substituteChars (l : Labels) (cs : List Char) : List Char :=
  match cs with
  | [] => []
  | c :: rest =>
    match referenceAtFront cs with
    | some (mark, n, k) =>
      match l.resolve mark n with
      | some t => t.toList ++ l.substituteChars (rest.drop (k - 1))
      | none => c :: l.substituteChars rest
    | none => c :: l.substituteChars rest
termination_by cs.length
decreasing_by all_goals simp only [List.length_drop, List.length_cons]; omega

/-- Every known reference `{#n}` or `{@n}` in a text replaced by the uuid or token behind it;
unknown ones are left as they are. -/
def Labels.substitute (l : Labels) (s : String) : String :=
  String.ofList (l.substituteChars s.toList)

end Storefront.Session
