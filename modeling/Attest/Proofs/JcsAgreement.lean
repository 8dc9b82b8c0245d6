import Attest.Proofs.CanonicalForm
import Attest.Proofs.EcmaNumberText

/-!
# Canonical text against RFC 8785

RFC 8785, the JSON Canonicalization Scheme, writes a value with no blanks, strings escaped in
the way of ECMAScript's JSON.stringify, every number as ECMAScript's Number::toString of its
double, and the members of each object in ascending order of the UTF-16 code units of their
names (`jcsText`).

`Json.canonical` differs from it in two ways: it orders members by their written names
(`Members.WrittenSorted`), whose order is that of the names' code points with the quote and
the escapes taken into account, and it writes integers exactly, where a double rounds those
beyond `2 ^ 53`.  The two agree on every value whose integers are safe and whose objects'
written order follows the UTF-16 order of their names (`canonical_eq_jcsText`), which holds of
names made of characters after the quote and below the surrogates, the backslash apart
(`Members.writtenFollowsUtf16_of_plain`).  They part on two names, one of them beyond U+FFFF
and the other in U+E000 to U+FFFF (`canonical_jcs_disagree`).
-/

namespace Attest

namespace Json

/-! ## The scheme -/

/-- The UTF-16 code units of a character: one below U+10000, otherwise a surrogate pair. -/
def utf16Units (c : Char) : List Nat :=
  if c.toNat < 0x10000 then [c.toNat]
  else [0xD800 + (c.toNat - 0x10000) / 0x400, 0xDC00 + (c.toNat - 0x10000) % 0x400]

/-- The UTF-16 code units of a text, the key by which RFC 8785 orders names. -/
def utf16 (s : String) : List Nat := s.toList.flatMap utf16Units

/-- The order of RFC 8785 on code units: compared one by one, a proper prefix first. -/
def unitsLe : List Nat → List Nat → Bool
  | [], _ => true
  | _ :: _, [] => false
  | a :: as, b :: bs => decide (a < b) || (decide (a = b) && unitsLe as bs)

/-- The control characters that JSON writes with a short escape, by code point. -/
def shortEscape? : Nat → Option Char
  | 0x08 => some 'b'
  | 0x09 => some 't'
  | 0x0A => some 'n'
  | 0x0C => some 'f'
  | 0x0D => some 'r'
  | _ => none

/-- One character of an RFC 8785 string: a control character by its short escape or as
`\u00hh` with lowercase hexadecimal digits, the quote and the backslash after a backslash,
and every other character as it is. -/
def jcsEscape (c : Char) : List Char :=
  if c.toNat < 0x20 then
    match shortEscape? c.toNat with
    | some e => ['\\', e]
    | none => ['\\', 'u', '0', '0', Nat.digitChar (c.toNat / 16), Nat.digitChar (c.toNat % 16)]
  else if c = '\\' ∨ c = '"' then ['\\', c]
  else [c]

/-- An RFC 8785 string literal. -/
def jcsString (s : String) : String := String.ofList ('"' :: (s.toList.flatMap jcsEscape ++ ['"']))

/-- Members in ascending order of the UTF-16 code units of their names. -/
def orderByUtf16 (ms : List (String × String)) : List (String × String) :=
  ms.mergeSort fun a b => unitsLe (utf16 a.1) (utf16 b.1)

mutual

/-- The RFC 8785 text of a value. -/
def jcsText : Json → String
  | .null => "null"
  | .bool true => "true"
  | .bool false => "false"
  | .num (.int i) => (Binary64.ofInt i).ecmaText
  | .num (.float x) => x.ecmaText
  | .str s => jcsString s
  | .arr xs => "[" ++ ",".intercalate (jcsItems xs) ++ "]"
  | .obj ms =>
    "\x7b" ++ ",".intercalate ((orderByUtf16 (jcsMembers ms)).map fun m =>
      jcsString m.1 ++ ":" ++ m.2) ++ "\x7d"

/-- The RFC 8785 texts of items. -/
def jcsItems : List Json → List String
  | [] => []
  | x :: rest => jcsText x :: jcsItems rest

/-- Names with the RFC 8785 texts of their values. -/
def jcsMembers : List (String × Json) → List (String × String)
  | [] => []
  | (k, v) :: rest => (k, jcsText v) :: jcsMembers rest

end

/-! ## Strings -/

/-- Outside the control characters JSON text escapes only the quote and the backslash. -/
theorem escapeChar_of_not_control {c : Char} (hc : ¬ c.toNat < 0x20) :
    escapeChar c = if c = '"' then ['\\', '"'] else if c = '\\' then ['\\', '\\'] else [c] := by
  have hne : ∀ d : Char, d.toNat < 0x20 → c ≠ d := fun d hd h => hc (h ▸ hd)
  unfold escapeChar
  by_cases hq : c = '"'
  · rw [if_pos hq, if_pos hq]
  · by_cases hb : c = '\\'
    · rw [if_neg hq, if_pos hb, if_neg hq, if_pos hb]
    · rw [if_neg hq, if_neg hb, if_neg (hne '\n' (by decide)), if_neg (hne '\r' (by decide)),
        if_neg (hne '\t' (by decide)), if_neg (hne '\x08' (by decide)),
        if_neg (hne '\x0c' (by decide)), if_neg hc, if_neg hq, if_neg hb]

/-- RFC 8785 escapes a character as JSON text does. -/
theorem jcsEscape_eq_escapeChar (c : Char) : jcsEscape c = escapeChar c := by
  by_cases hc : c.toNat < 0x20
  · -- the thirty-two control characters, one by one
    have hcontrol : ∀ k < 0x20, jcsEscape (Char.ofNat k) = escapeChar (Char.ofNat k) := by
      decide
    simpa only [Char.ofNat_toNat] using hcontrol c.toNat hc
  · rw [jcsEscape, if_neg hc, escapeChar_of_not_control hc]
    by_cases hq : c = '"'
    · simp [hq]
    · by_cases hb : c = '\\'
      · simp [hb]
      · simp [hq, hb]

theorem jcsString_eq_quote (s : String) : jcsString s = quote s := by
  rw [jcsString, quote, funext jcsEscape_eq_escapeChar]

/-! ## Member order -/

theorem unitsLe_total : ∀ l₁ l₂ : List Nat, (unitsLe l₁ l₂ || unitsLe l₂ l₁) = true
  | [], _ => by simp [unitsLe]
  | _ :: _, [] => by simp [unitsLe]
  | a :: as, b :: bs => by
    rcases Nat.lt_trichotomy a b with h | rfl | h
    · simp [unitsLe, h]
    · simpa [unitsLe] using unitsLe_total as bs
    · simp [unitsLe, h]

theorem unitsLe_trans : ∀ l₁ l₂ l₃ : List Nat,
    unitsLe l₁ l₂ = true → unitsLe l₂ l₃ = true → unitsLe l₁ l₃ = true
  | [], _, _, _, _ => rfl
  | _ :: _, [], _, h, _ => by simp [unitsLe] at h
  | _ :: _, _ :: _, [], _, h => by simp [unitsLe] at h
  | a :: as, b :: bs, c :: cs, h₁, h₂ => by
    simp only [unitsLe, Bool.or_eq_true, Bool.and_eq_true, decide_eq_true_eq] at h₁ h₂ ⊢
    -- the first units decide unless both pairs agree there
    rcases h₁ with h₁ | ⟨rfl, h₁⟩ <;> rcases h₂ with h₂ | ⟨rfl, h₂⟩
    · exact .inl (by omega)
    · exact .inl h₁
    · exact .inl h₂
    · exact .inr ⟨rfl, unitsLe_trans as bs cs h₁ h₂⟩

theorem joinCommas_eq_intercalate : (xs : List String) → joinCommas xs = ",".intercalate xs
  | [] => rfl
  | [x] => by rw [joinCommas, String.intercalate_singleton]
  | x :: y :: rest => by
    rw [joinCommas, String.intercalate_cons_cons, joinCommas_eq_intercalate (y :: rest)]
    exact List.cons_ne_nil y rest

/-- An object's written order follows the UTF-16 order of its names: a name with smaller or
equal code units is never written after another. -/
def Members.WrittenFollowsUtf16 (ms : Members) : Prop :=
  ∀ a ∈ ms.names, ∀ b ∈ ms.names, unitsLe (utf16 a) (utf16 b) = true → quote a ≤ quote b

theorem char_lt_iff_toNat_lt {a b : Char} : a < b ↔ a.toNat < b.toNat := Iff.rfl

/-- On characters written as themselves, after the quote, the written order of two texts with the
closing quote appended follows the order of their code units. -/
theorem closed_lt_or_eq : ∀ xs ys : List Char, (∀ c ∈ ys, '"' < c) →
    unitsLe (xs.map Char.toNat) (ys.map Char.toNat) = true → xs ++ ['"'] < ys ++ ['"'] ∨ xs = ys
  | [], [], _, _ => .inr rfl
  | [], y :: _, hy, _ => .inl (List.cons_lt_cons_iff.mpr (.inl (hy y List.mem_cons_self)))
  | _ :: _, [], _, h => by simp [unitsLe] at h
  | x :: xs, y :: ys, hy, h => by
    simp only [List.map_cons, unitsLe, Bool.or_eq_true, Bool.and_eq_true, decide_eq_true_eq] at h
    rcases h with hlt | ⟨heq, hrest⟩
    · exact .inl (List.cons_lt_cons_iff.mpr (.inl (char_lt_iff_toNat_lt.mpr hlt)))
    · have hxy : x = y := Char.ext (UInt32.toNat_inj.mp heq)
      subst hxy
      rcases closed_lt_or_eq xs ys (fun c hc => hy c (List.mem_cons_of_mem x hc)) hrest with h | h
      · exact .inl (List.cons_lt_cons_iff.mpr (.inr ⟨rfl, h⟩))
      · exact .inr (h ▸ rfl)

/-- A name whose characters all lie after the quote, below the surrogates, and are not the
backslash. -/
def PlainName (s : String) : Prop := ∀ c ∈ s.toList, '"' < c ∧ c ≠ '\\' ∧ c.toNat < 0xD800

/-- Plainness is checked on the name's own characters, not by ranging over every character. -/
instance : DecidablePred PlainName := fun s =>
  decidable_of_iff
    (s.toList.all fun c => decide ('"' < c) && c != '\\' && decide (c.toNat < 0xD800))
    (by simp [PlainName, and_assoc])

theorem toList_quote_of_plain {s : String} (h : PlainName s) :
    (quote s).toList = '"' :: (s.toList ++ ['"']) := by
  rw [toList_quote]
  congr 2
  rw [List.flatMap_congr (g := fun c => [c]) fun c hc => ?_, List.flatMap_singleton']
  obtain ⟨hq, hb, -⟩ := h c hc
  have hc20 : ¬ c.toNat < 0x20 := by
    have hquote : ('"' : Char).toNat = 0x22 := rfl
    have := char_lt_iff_toNat_lt.mp hq
    omega
  rw [escapeChar_of_not_control hc20, if_neg (ne_of_gt hq), if_neg hb]

theorem utf16_of_plain {s : String} (h : PlainName s) : utf16 s = s.toList.map Char.toNat := by
  have hunits : ∀ c ∈ s.toList, utf16Units c = [c.toNat] := fun c hc => by
    rw [utf16Units, if_pos (by have := (h c hc).2.2; omega)]
  unfold utf16
  rw [List.flatMap_congr hunits]
  exact (List.map_eq_flatMap ..).symm

/-- Plain names are written in the order of their UTF-16 code units. -/
theorem Members.writtenFollowsUtf16_of_plain {ms : Members} (h : ∀ a ∈ ms.names, PlainName a) :
    Members.WrittenFollowsUtf16 ms := by
  intro a ha b hb hab
  rw [utf16_of_plain (h a ha), utf16_of_plain (h b hb)] at hab
  -- the written names are the names between quotes
  show ¬ quote b < quote a
  rw [String.lt_iff_toList_lt, toList_quote_of_plain (h b hb), toList_quote_of_plain (h a ha)]
  intro hlt
  rcases closed_lt_or_eq a.toList b.toList (fun c hc => (h b hb c hc).1) hab with hab | hab
  · exact List.lt_asymm (List.cons_lt_cons_iff.mpr (.inr ⟨rfl, hab⟩)) hlt
  · rw [hab] at hlt
    exact List.lt_irrefl _ hlt

/-- Where the written order follows the UTF-16 order, sorting by either gives one list. -/
theorem mergeSort_utf16_eq {ms : Members} (hnd : ms.names.Nodup)
    (hord : ms.WrittenFollowsUtf16) :
    ms.mergeSort (fun a b => unitsLe (utf16 a.1) (utf16 b.1)) =
      ms.mergeSort (fun a b => decide (quote a.1 ≤ quote b.1)) := by
  have hperm := List.mergeSort_perm ms fun a b => unitsLe (utf16 a.1) (utf16 b.1)
  have hutf16 := @List.pairwise_mergeSort (String × Json)
    (fun a b => unitsLe (utf16 a.1) (utf16 b.1))
    (fun a b c => unitsLe_trans (utf16 a.1) (utf16 b.1) (utf16 c.1))
    (fun a b => unitsLe_total (utf16 a.1) (utf16 b.1)) ms
  -- the list sorted by code units is sorted by written names too, strictly
  have hwritten :
      Members.WrittenSorted (ms.mergeSort fun a b => unitsLe (utf16 a.1) (utf16 b.1)) := by
    refine Members.writtenSorted_of_perm hnd hperm (List.pairwise_map.mpr ?_)
    exact hutf16.imp_of_mem fun {a b} ha hb hab =>
      hord a.1 (Members.mem_names_of_mem (hperm.mem_iff.mp ha))
        b.1 (Members.mem_names_of_mem (hperm.mem_iff.mp hb)) hab
  -- two lists strictly sorted by written names and with the same members are one
  have hquoted := writtenSorted_mergeSort hnd
  unfold Members.WrittenSorted at hwritten hquoted
  rw [List.pairwise_map] at hwritten hquoted
  refine List.Perm.eq_of_pairwise (fun _ _ _ _ hab hba => absurd hab (lt_asymm hba))
    hwritten hquoted ?_
  exact hperm.trans (List.mergeSort_perm ms _).symm

/-- An object whose written order follows the UTF-16 order of its names, with the RFC 8785 texts
of its values their canonical texts, has the RFC 8785 text as its canonical text. -/
theorem canonicalText_obj_eq_jcsText {ms : Members} (hs : ms.Sorted)
    (hord : ms.WrittenFollowsUtf16)
    (hm : jcsMembers ms = ms.map fun m => (m.1, canonicalText m.2)) :
    canonicalText (.obj ms) = jcsText (.obj ms) := by
  have hsort := List.map_mergeSort (l := ms) (f := fun m => (m.1, canonicalText m.2))
    (r := fun a b => unitsLe (utf16 a.1) (utf16 b.1))
    (s := fun a b => unitsLe (utf16 a.1) (utf16 b.1))
    (fun _ _ _ _ => rfl)
  rw [canonicalText_obj_eq, jcsText, hm, orderByUtf16, ← hsort, List.map_map,
    mergeSort_utf16_eq hs.nodup hord, joinCommas_eq_intercalate]
  simp only [Function.comp_def, jcsString_eq_quote]

/-! ## Agreement -/

mutual

/-- Values on which canonical text and RFC 8785 can agree: no doubles, every integer safe
(below `2 ^ 53` in magnitude, so a double holds it exactly), and in every object the written
order following the UTF-16 order of the names. -/
def JcsCompatible : Json → Prop
  | .num (.int i) => i.natAbs < 2 ^ 53
  | .num (.float _) => False
  | .arr xs => ItemsJcsCompatible xs
  | .obj ms => Members.WrittenFollowsUtf16 ms ∧ MembersJcsCompatible ms
  | _ => True

/-- Every item is compatible. -/
def ItemsJcsCompatible : List Json → Prop
  | [] => True
  | x :: rest => JcsCompatible x ∧ ItemsJcsCompatible rest

/-- Every member value is compatible. -/
def MembersJcsCompatible : Members → Prop
  | [] => True
  | (_, v) :: rest => JcsCompatible v ∧ MembersJcsCompatible rest

end

mutual

theorem firstFloat?_eq_none_of_jcsCompatible :
    (j : Json) → JcsCompatible j → firstFloat? j = none
  | .null, _ => rfl
  | .bool _, _ => rfl
  | .num (.int _), _ => rfl
  | .num (.float _), hj => hj.elim
  | .str _, _ => rfl
  | .arr xs, hj => by
    rw [firstFloat?]
    exact firstFloatItems?_eq_none_of_jcsCompatible xs hj
  | .obj ms, hj => by
    rw [firstFloat?]
    exact firstFloatMembers?_eq_none_of_jcsCompatible ms hj.2

theorem firstFloatItems?_eq_none_of_jcsCompatible :
    (xs : List Json) → ItemsJcsCompatible xs → firstFloatItems? xs = none
  | [], _ => rfl
  | x :: rest, hj => by
    rw [firstFloatItems?, firstFloat?_eq_none_of_jcsCompatible x hj.1,
      firstFloatItems?_eq_none_of_jcsCompatible rest hj.2]
    rfl

theorem firstFloatMembers?_eq_none_of_jcsCompatible :
    (ms : Members) → MembersJcsCompatible ms → firstFloatMembers? ms = none
  | [], _ => rfl
  | (_, v) :: rest, hj => by
    rw [firstFloatMembers?, firstFloat?_eq_none_of_jcsCompatible v hj.1,
      firstFloatMembers?_eq_none_of_jcsCompatible rest hj.2]
    rfl

end

mutual

/-- On a compatible well-formed value the canonical text is the RFC 8785 text. -/
theorem canonicalText_eq_jcsText :
    (j : Json) → WellFormed j → JcsCompatible j → canonicalText j = jcsText j
  | .null, _, _ => rfl
  | .bool true, _, _ => rfl
  | .bool false, _, _ => rfl
  | .num (.int i), _, hj => by
    rw [canonicalText_int, jcsText, Binary64.ecmaText_ofInt hj]
  | .num (.float _), _, hj => hj.elim
  | .str s, _, _ => by
    rw [jcsText, jcsString_eq_quote]
    rfl
  | .arr xs, hw, hj => by
    rw [canonicalText_arr, jcsText, jcsItems_eq_map xs hw hj, joinCommas_eq_intercalate]
  | .obj ms, hw, hj => canonicalText_obj_eq_jcsText hw.1 hj.1 (jcsMembers_eq_map ms hw.2 hj.2)

theorem jcsItems_eq_map : (xs : List Json) → ItemsWellFormed xs → ItemsJcsCompatible xs →
    jcsItems xs = xs.map canonicalText
  | [], _, _ => rfl
  | x :: rest, hw, hj => by
    rw [jcsItems, List.map_cons, canonicalText_eq_jcsText x hw.1 hj.1,
      jcsItems_eq_map rest hw.2 hj.2]

theorem jcsMembers_eq_map : (ms : Members) → MembersWellFormed ms → MembersJcsCompatible ms →
    jcsMembers ms = ms.map fun m => (m.1, canonicalText m.2)
  | [], _, _ => rfl
  | (k, v) :: rest, hw, hj => by
    rw [jcsMembers, List.map_cons, canonicalText_eq_jcsText v hw.1 hj.1,
      jcsMembers_eq_map rest hw.2 hj.2]

end

/-- The canonical form of a well-formed value whose integers are safe and whose objects'
written order follows the UTF-16 order of their names is its RFC 8785 text. -/
theorem canonical_eq_jcsText {j : Json} (hw : j.WellFormed) (hj : j.JcsCompatible) :
    canonical j = .ok (jcsText j) :=
  (canonical_eq_ok_iff hw).mpr
    ⟨firstFloat?_eq_none_of_jcsCompatible j hj, (canonicalText_eq_jcsText j hw hj).symm⟩

/-- A credential-like object: names in plain letters, text, an array and the safe integer
furthest below zero. -/
theorem canonical_eq_jcsText_credential :
    WellFormed (.obj [("aud", .arr [.str "wallet"]), ("nbf", .num (.int (-9007199254740991)))]) ∧
      JcsCompatible
        (.obj [("aud", .arr [.str "wallet"]), ("nbf", .num (.int (-9007199254740991)))]) ∧
      canonical (.obj [("aud", .arr [.str "wallet"]), ("nbf", .num (.int (-9007199254740991)))]) =
        .ok (jcsText
          (.obj [("aud", .arr [.str "wallet"]), ("nbf", .num (.int (-9007199254740991)))])) := by
  have hw : WellFormed
      (.obj [("aud", .arr [.str "wallet"]), ("nbf", .num (.int (-9007199254740991)))]) :=
    (wellFormed_obj_iff _).mpr
      ⟨by decide, by simp [WellFormed, ItemsWellFormed, intMin, intMax]⟩
  have hj : JcsCompatible
      (.obj [("aud", .arr [.str "wallet"]), ("nbf", .num (.int (-9007199254740991)))]) := by
    refine ⟨Members.writtenFollowsUtf16_of_plain (by decide), ?_⟩
    simp [MembersJcsCompatible, JcsCompatible, ItemsJcsCompatible]
  exact ⟨hw, hj, canonical_eq_jcsText hw hj⟩

/-- Where the two orders part: U+FF61 comes before U+1F600 by code point, and after it by
UTF-16 code units, since the latter is written with a surrogate pair starting at U+D83D. -/
theorem canonical_jcs_disagree :
    canonical (.obj [("｡", .num (.int 1)), ("😀", .num (.int 2))]) =
        .ok "\x7b\"｡\":1,\"😀\":2\x7d" ∧
      jcsText (.obj [("｡", .num (.int 1)), ("😀", .num (.int 2))]) =
        "\x7b\"😀\":2,\"｡\":1\x7d" := by
  refine ⟨?_, ?_⟩
  · have hw : WellFormed (.obj [("｡", .num (.int 1)), ("😀", .num (.int 2))]) :=
      (wellFormed_obj_iff _).mpr ⟨by decide, by simp [WellFormed, intMin, intMax]⟩
    rw [canonical_eq_ok_iff hw]
    refine ⟨rfl, ?_⟩
    rw [canonicalText_obj_eq]
    simp [List.mergeSort, quote, escapeChar]
    simp only [joinCommas, canonicalText_int]
    decide
  · have h1 : jcsText (.num (.int 1)) = "1" := Binary64.ecmaText_ofInt (by decide)
    have h2 : jcsText (.num (.int 2)) = "2" := Binary64.ecmaText_ofInt (by decide)
    -- the surrogate U+D83D sorts before U+FF61
    have horder : unitsLe (utf16 "｡") (utf16 "😀") = false := by decide
    rw [jcsText]
    simp only [jcsMembers, h1, h2, orderByUtf16]
    simp [List.mergeSort, horder, jcsString_eq_quote, quote, escapeChar]

end Json

end Attest
