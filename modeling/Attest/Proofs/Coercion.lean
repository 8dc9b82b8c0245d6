import Attest.Calendar.Parse
import Attest.Proofs.TemplateChecks
import Mathlib.Tactic.IntervalCases

/-!
# Coercion keeps what it gives

Coercing a value that coercion gave changes nothing (`FieldType.coerce?_idempotent`).  For
strings, numbers and booleans the coerced value is already of its type; for dates the coerced
value is the text of a date, and two facts about the calendar make that text read back as the
same date:

* `Date.ofDays` gives a real date, with month and day in range and a year within one era of
  the day number (`ofDays_valid`), so the UTC date of any RFC 3339 time read by
  `readDateTime` is a valid date (`utcDate_isValid`), even where the move to UTC leaves the
  years 0 to 9999;
* `readDate` reads the text of every valid date back (`readDate_text`), including years
  written with a sign and more than four digits.

The day-number arithmetic follows the 400-year era: a day of an era splits into centuries,
four-year cycles, years and a day of the computational year, which starts in March so that
the leap day ends it (`era_split`).
-/

namespace Attest

namespace Calendar

/-! ## Digits and numbers -/

theorem digit?_of_isDigit {c : Char} (h : c.isDigit) : digit? c = some (c.toNat - '0'.toNat) := by
  rw [Char.isDigit_iff_toNat] at h
  have hc : '0' ≤ c ∧ c ≤ '9' := by
    simp only [Char.le_def, UInt32.le_iff_toNat_le, Char.toNat_val]
    exact h
  simp [digit?, hc]

theorem digit?_eq_none_of_not_isDigit {c : Char} (h : c.isDigit = false) : digit? c = none := by
  rw [Bool.eq_false_iff, ne_eq, Char.isDigit_iff_toNat] at h
  have hc : ¬ ('0' ≤ c ∧ c ≤ '9') := by
    simp only [Char.le_def, UInt32.le_iff_toNat_le, Char.toNat_val]
    exact h
  simp [digit?, hc]

theorem digit?_le_nine {c : Char} {d : Nat} (h : digit? c = some d) : d ≤ 9 := by
  have h0 : ('0' : Char).toNat = 48 := rfl
  have h9 : ('9' : Char).toNat = 57 := rfl
  unfold digit? at h
  split at h
  · rename_i hc
    cases h
    simp only [Char.le_def, UInt32.le_iff_toNat_le, Char.toNat_val] at hc
    omega
  · cases h

theorem isBlank_eq_false_of_isDigit {c : Char} (h : c.isDigit) : Text.isBlank c = false := by
  rw [Char.isDigit_iff_toNat] at h
  simp only [Char.reduceToNat] at h
  simp only [Text.isBlank, Text.blankRanges, List.any_cons, List.any_nil, Bool.or_false,
    Bool.or_eq_false_iff, Bool.and_eq_false_iff, decide_eq_false_iff_not, not_le]
  omega

theorem dropBlanks_of_not_blank {c : Char} (h : Text.isBlank c = false) (cs : List Char) :
    Text.dropBlanks (c :: cs) = c :: cs := by
  simp [Text.dropBlanks, h]

theorem dropBlanks_of_isDigit {c : Char} (h : c.isDigit) (cs : List Char) :
    Text.dropBlanks (c :: cs) = c :: cs :=
  dropBlanks_of_not_blank (isBlank_eq_false_of_isDigit h) cs

theorem byteLength_cons_pos (c : Char) (cs : List Char) : 0 < byteLength (c :: cs) := by
  have h : ∀ (k : Nat) (l : List Char), k ≤ l.foldl (fun n c => n + c.utf8Size) k := by
    intro k l
    induction l generalizing k with
    | nil => exact le_refl k
    | cons d l ih => exact le_trans (Nat.le_add_right k d.utf8Size) (ih _)
  exact lt_of_lt_of_le (Char.utf8Size_pos c) (by simpa [byteLength] using h c.utf8Size cs)

/-- Digits are read up to a character that is none, or whole once the allowed count is
reached. -/
theorem number_go_digits (mn mx : Nat) {ds : List Char} (hds : ∀ c ∈ ds, c.isDigit) (i n : Nat)
    {rest : List Char} (hmax : i + ds.length ≤ mx) (hmin : mn ≤ i + ds.length)
    (hrest : i + ds.length < mx → ∀ c ∈ rest.head?, c.isDigit = false) :
    number.go mn mx i n (ds ++ rest) = .ok (Nat.ofDigitChars 10 ds n, rest) := by
  induction ds generalizing i n with
  | nil =>
    simp only [List.length_nil, Nat.add_zero] at hmax hmin hrest
    cases rest with
    | nil => simp [number.go, show ¬ i < mn by omega]
    | cons c r =>
      by_cases hi : mx ≤ i
      · simp [number.go, hi]
      · have hc := digit?_eq_none_of_not_isDigit (hrest (by omega) c rfl)
        simp [number.go, hi, hc, show ¬ i < mn by omega]
  | cons d ds ih =>
    have hd := digit?_of_isDigit (hds d List.mem_cons_self)
    simp only [List.length_cons] at hmax hmin hrest
    rw [List.cons_append, number.go, if_neg (by omega), hd]
    simp only
    rw [ih (fun c hc => hds c (List.mem_cons_of_mem d hc)) (i + 1) _ (by omega) (by omega)
      (fun h => hrest (by omega)), Nat.ofDigitChars_cons]

/-- Reading goes on for at most `mx - i` more digits, so the value stays below the next
power of ten. -/
theorem number_go_lt {mn mx : Nat} {cs : List Char} {i n v : Nat} {r : List Char}
    (h : number.go mn mx i n cs = .ok (v, r)) : v < (n + 1) * 10 ^ (mx - i) := by
  have hstop : ∀ m k : Nat, m < (m + 1) * 10 ^ k := fun m k =>
    Nat.lt_of_lt_of_le (Nat.lt_succ_self m) (Nat.le_mul_of_pos_right _ (Nat.pow_pos (by decide)))
  induction cs generalizing i n with
  | nil =>
    unfold number.go at h
    split at h
    · cases h
    · cases h
      exact hstop _ _
  | cons c cs ih =>
    unfold number.go at h
    split at h
    · cases h
      exact hstop _ _
    · rename_i hi
      split at h
      · rename_i d hd
        have h9 := digit?_le_nine hd
        have hlt := ih h
        -- one digit more: the bound for `10 * n + d` is ten times the bound for `n`
        have hk : 10 ^ (mx - i) = 10 * 10 ^ (mx - (i + 1)) := by
          rw [← Nat.pow_succ']
          congr 1
          omega
        rw [hk]
        calc v < (10 * n + d + 1) * 10 ^ (mx - (i + 1)) := hlt
          _ ≤ 10 * (n + 1) * 10 ^ (mx - (i + 1)) := Nat.mul_le_mul_right _ (by omega)
          _ = (n + 1) * (10 * 10 ^ (mx - (i + 1))) := by rw [Nat.mul_comm 10 (n + 1), Nat.mul_assoc]
      · split at h
        · cases h
        · cases h
          exact hstop _ _

theorem number_lt {mn mx : Nat} {cs : List Char} {v : Nat} {r : List Char}
    (h : number mn mx cs = .ok (v, r)) : v < 10 ^ mx := by
  unfold number at h
  split at h
  · cases h
  · simpa using number_go_lt h

/-! ## Zero-padded numbers -/

theorem toList_padded (w n : Nat) :
    (padded w n).toList = List.replicate (w - (Nat.toDigits 10 n).length) '0' ++ Nat.toDigits 10 n := by
  simp [padded]

theorem isDigit_of_mem_padded {w n : Nat} {c : Char} (h : c ∈ (padded w n).toList) : c.isDigit := by
  rw [toList_padded, List.mem_append, List.mem_replicate] at h
  rcases h with ⟨-, rfl⟩ | h
  · rfl
  · exact Nat.isDigit_of_mem_toDigits (by decide) (by decide) h

theorem ofDigitChars_padded (w n : Nat) : Nat.ofDigitChars 10 (padded w n).toList 0 = n := by
  rw [toList_padded, Nat.ofDigitChars_append, Nat.ofDigitChars_replicate_zero]
  simp

theorem length_padded {w n : Nat} (hw : 0 < w) (hn : n < 10 ^ w) :
    (padded w n).toList.length = w := by
  have := (Nat.length_toDigits_le_iff (by decide) hw).mpr hn
  rw [toList_padded, List.length_append, List.length_replicate]
  omega

theorem padded_cons (w n : Nat) : ∃ c cs, (padded w n).toList = c :: cs ∧ c.isDigit := by
  obtain ⟨d, ds, hds⟩ := List.exists_cons_of_ne_nil (Nat.toDigits_ne_nil (n := n) (b := 10))
  cases hk : w - (Nat.toDigits 10 n).length with
  | zero => exact ⟨d, ds, by rw [toList_padded, hk, hds]; rfl,
      isDigit_of_mem_padded (by rw [toList_padded, hk, hds]; simp)⟩
  | succ k => exact ⟨'0', _, by rw [toList_padded, hk, List.replicate_succ, List.cons_append], rfl⟩

/-- A zero-padded number is read back within its width, up to a character that is no
digit. -/
theorem number_padded (mx w n : Nat) (hw : (padded w n).toList.length ≤ mx)
    (rest : List Char) (hrest : ∀ c ∈ rest.head?, c.isDigit = false) :
    number 1 mx ((padded w n).toList ++ rest) = .ok (n, rest) := by
  obtain ⟨c, cs, hc, -⟩ := padded_cons w n
  have hlen : 1 ≤ (padded w n).toList.length := by rw [hc]; simp
  unfold number
  rw [if_neg (by rw [hc, List.cons_append]; exact Nat.not_lt.mpr (byteLength_cons_pos _ _)),
    number_go_digits 1 mx (fun _ h => isDigit_of_mem_padded h) 0 0 (by omega) (by omega)
      (fun _ => hrest),
    ofDigitChars_padded]

/-! ## Reading a date's text back -/

/-- A year is read back from its text: four digits, or a sign and the digits of its
magnitude. -/
theorem signedYear_yearText (y : Int) {rest : List Char}
    (hrest : ∀ c ∈ rest.head?, c.isDigit = false) :
    signedYear ((yearText y).toList ++ rest) = .ok (y, rest) := by
  unfold yearText
  split_ifs with hy hneg
  · -- four digits, no sign
    obtain ⟨c, cs, hc, hdig⟩ := padded_cons 4 y.toNat
    have hlen := length_padded (w := 4) (n := y.toNat) (by decide) (by omega)
    have hread := number_padded 4 4 y.toNat (by omega) rest hrest
    rw [hc, List.cons_append] at hread ⊢
    unfold signedYear
    rw [dropBlanks_of_isDigit hdig]
    split
    · rename_i heq
      simp only [List.cons.injEq] at heq
      rw [heq.1] at hdig
      simp at hdig
    · rename_i heq
      simp only [List.cons.injEq] at heq
      rw [heq.1] at hdig
      simp at hdig
    · rw [hread]
      simp [Except.map]
      omega
  · -- a minus sign, then the digits of the magnitude
    have hread := number_padded (((padded 4 y.natAbs).toList ++ rest).length + 1) 4 y.natAbs
      (by simp; omega) rest hrest
    simp only [String.toList_append, show "-".toList = ['-'] by rfl, List.nil_append,
      List.cons_append]
    unfold signedYear
    rw [dropBlanks_of_not_blank (by decide)]
    simp only [hread, Except.map]
    rw [show -((y.natAbs : Nat) : Int) = y by omega]
  · -- a plus sign for years past 9999
    have hread := number_padded (((padded 4 y.natAbs).toList ++ rest).length + 1) 4 y.natAbs
      (by simp; omega) rest hrest
    simp only [String.toList_append, show "+".toList = ['+'] by rfl, List.nil_append,
      List.cons_append]
    unfold signedYear
    rw [dropBlanks_of_not_blank (by decide)]
    simp only [hread, Except.map]
    rw [show ((y.natAbs : Nat) : Int) = y by omega]

theorem daysInMonth_le_31 (y : Int) (m : Nat) : daysInMonth y m ≤ 31 := by
  unfold daysInMonth
  split
  all_goals first | decide | (split <;> decide)

theorem toList_text (d : Date) :
    d.text.toList = (yearText d.year).toList ++
      '-' :: ((padded 2 d.month).toList ++ '-' :: (padded 2 d.day).toList) := by
  simp [Date.text]

/-- A valid date is read back from its text. -/
theorem readDate_text {d : Date} (hd : d.isValid = true) : readDate d.text = .ok d := by
  have hv := hd
  simp only [Date.isValid, Bool.and_eq_true, decide_eq_true_eq] at hv
  obtain ⟨⟨⟨⟨⟨hy0, hy1⟩, hm0⟩, hm1⟩, hd0⟩, hd1⟩ := hv
  have h31 := daysInMonth_le_31 d.year d.month
  have hmonth := number_padded 2 2 d.month (by rw [length_padded (by decide) (by omega)])
    ('-' :: (padded 2 d.day).toList) (by simp)
  have hday := number_padded 2 2 d.day (by rw [length_padded (by decide) (by omega)]) [] (by simp)
  obtain ⟨c, cs, hc, hcd⟩ := padded_cons 2 d.month
  obtain ⟨e, es, he, hed⟩ := padded_cons 2 d.day
  unfold readDate
  rw [toList_text, signedYear_yearText _ (by simp)]
  simp only [bind, Except.bind]
  -- the year of a valid date is far inside the 32-bit range the reader allows
  have hbound : ¬ (d.year < -Int.pow 2 31 ∨ d.year ≥ Int.pow 2 31) := by
    have hpow : Int.pow 2 31 = 2147483648 := rfl
    simp only [minYear, maxYear] at hy0 hy1
    omega
  rw [if_neg hbound]
  simp only [literal, if_true]
  rw [hc, List.cons_append, dropBlanks_of_isDigit hcd, ← List.cons_append, ← hc, hmonth]
  simp only [if_neg (show ¬ (d.month < 1 ∨ d.month > 12) by omega), if_true]
  rw [he, dropBlanks_of_isDigit hed, ← he, ← List.append_nil (padded 2 d.day).toList, hday]
  simp only [if_neg (show ¬ (d.day < 1 ∨ d.day > 31) by omega), List.isEmpty_nil, Bool.not_true,
    Bool.false_eq_true, if_false, Date.ofYmd?, hd, if_true]

/-! ## Day numbers to dates -/

/-- A day of a 400-year era splits into centuries, four-year cycles, years and a day of the
year; only the last year of a cycle, and of the era, has a day 365. -/
theorem era_split {doe : Int} (h0 : 0 ≤ doe) (h1 : doe ≤ 146096) :
    ∃ p q r t : Int, doe = 36524 * p + 1461 * q + 365 * r + t ∧ 0 ≤ p ∧ p ≤ 3 ∧ 0 ≤ q ∧ q ≤ 24 ∧
      0 ≤ r ∧ r ≤ 3 ∧ 0 ≤ t ∧ t ≤ 365 ∧ (t = 365 → r = 3 ∧ (q < 24 ∨ p = 3)) := by
  refine ⟨min (doe / 36524) 3, min ((doe - 36524 * min (doe / 36524) 3) / 1461) 24,
    min ((doe - 36524 * min (doe / 36524) 3 -
      1461 * min ((doe - 36524 * min (doe / 36524) 3) / 1461) 24) / 365) 3,
    doe - 36524 * min (doe / 36524) 3 - 1461 * min ((doe - 36524 * min (doe / 36524) 3) / 1461) 24 -
      365 * min ((doe - 36524 * min (doe / 36524) 3 -
        1461 * min ((doe - 36524 * min (doe / 36524) 3) / 1461) 24) / 365) 3, ?_⟩
  omega

/-- The year of an era that `Date.ofDays` computes from a day of the era is the year the
split names. -/
theorem yearOfEra {p q r t : Int} (hp : 0 ≤ p ∧ p ≤ 3) (hq : 0 ≤ q ∧ q ≤ 24)
    (hr : 0 ≤ r ∧ r ≤ 3) (ht : 0 ≤ t ∧ t ≤ 365) (hleap : t = 365 → r = 3 ∧ (q < 24 ∨ p = 3)) :
    let doe := 36524 * p + 1461 * q + 365 * r + t
    (doe - doe / 1460 + doe / 36524 - doe / 146096) / 365 = 100 * p + 4 * q + r := by
  intro doe
  have h1 : doe / 1460 = 25 * p + q + (if 24 * p + q + 365 * r + t ≥ 1460 then 1 else 0) := by
    split_ifs <;> omega
  -- only the last day of the era reaches the next century and the next era
  have hend : doe / 36524 = p + (if p = 3 ∧ q = 24 ∧ t = 365 then 1 else 0) ∧
      doe / 146096 = (if p = 3 ∧ q = 24 ∧ t = 365 then 1 else 0) := by
    split_ifs with h
    · obtain ⟨rfl, rfl, rfl⟩ := h
      have : r = 3 := (hleap rfl).1
      subst this
      decide
    · have hlt : 1461 * q + 365 * r + t < 36524 := by omega
      omega
  omega

/-- A day of the computational year, March first, gives a month and a day in it; day 365 is
February 29th, which needs a leap year. -/
theorem monthDay {t : Int} (ht0 : 0 ≤ t) (ht1 : t ≤ 365) (y : Int)
    (hleap : t = 365 → isLeapYear y = true) :
    1 ≤ (if (5 * t + 2) / 153 < 10 then (5 * t + 2) / 153 + 3 else (5 * t + 2) / 153 - 9) ∧
    (if (5 * t + 2) / 153 < 10 then (5 * t + 2) / 153 + 3 else (5 * t + 2) / 153 - 9) ≤ 12 ∧
    1 ≤ t - (153 * ((5 * t + 2) / 153) + 2) / 5 + 1 ∧
    (t - (153 * ((5 * t + 2) / 153) + 2) / 5 + 1).toNat ≤
      daysInMonth y
        (if (5 * t + 2) / 153 < 10 then (5 * t + 2) / 153 + 3 else (5 * t + 2) / 153 - 9).toNat := by
  have hmp : 0 ≤ (5 * t + 2) / 153 ∧ (5 * t + 2) / 153 ≤ 11 := by omega
  generalize hm : (5 * t + 2) / 153 = mp at hmp ⊢
  obtain ⟨h0, h1⟩ := hmp
  interval_cases mp
  case «11» =>
    -- February: the 29th is the last day of the year, which only a leap year has
    have hday : (t - (153 * 11 + 2) / 5 + 1).toNat ≤ daysInMonth y 2 := by
      by_cases h365 : t = 365
      · simp [daysInMonth, hleap h365]
        omega
      · have h28 : 28 ≤ daysInMonth y 2 := by
          simp only [daysInMonth]
          split <;> decide
        omega
    refine ⟨by omega, by omega, by omega, ?_⟩
    simpa using hday
  all_goals
    simp only [Int.reduceLT, Int.reduceAdd, Int.reduceSub, Int.reduceMul, Int.reduceDiv, ite_true,
      ite_false, Int.reduceToNat, daysInMonth]
    omega

/-- The date of a day number has month and day in range, and its year lies in the era of the
day number. -/
theorem ofDays_valid (n : Int) :
    400 * ((n + 719468) / 146097) ≤ (Date.ofDays n).year ∧
      (Date.ofDays n).year ≤ 400 * ((n + 719468) / 146097) + 400 ∧
      1 ≤ (Date.ofDays n).month ∧ (Date.ofDays n).month ≤ 12 ∧ 1 ≤ (Date.ofDays n).day ∧
      (Date.ofDays n).day ≤ daysInMonth (Date.ofDays n).year (Date.ofDays n).month := by
  unfold Date.ofDays
  dsimp only
  generalize hera : (n + 719468) / 146097 = era
  have hdoe : 0 ≤ n + 719468 - era * 146097 ∧ n + 719468 - era * 146097 ≤ 146096 := by omega
  generalize n + 719468 - era * 146097 = doe at hdoe ⊢
  obtain ⟨p, q, r, t, rfl, hp0, hp1, hq0, hq1, hr0, hr1, ht0, ht1, hleap⟩ := era_split hdoe.1 hdoe.2
  rw [yearOfEra ⟨hp0, hp1⟩ ⟨hq0, hq1⟩ ⟨hr0, hr1⟩ ⟨ht0, ht1⟩ hleap]
  have h4 : (100 * p + 4 * q + r) / 4 = 25 * p + q := by omega
  have h100 : (100 * p + 4 * q + r) / 100 = p := by omega
  have hdoy : 36524 * p + 1461 * q + 365 * r + t -
      (365 * (100 * p + 4 * q + r) + (100 * p + 4 * q + r) / 4 - (100 * p + 4 * q + r) / 100) = t := by
    omega
  rw [hdoy]
  -- the day of the year alone gives month and day; the year then follows the month
  generalize hm : (if (5 * t + 2) / 153 < 10 then (5 * t + 2) / 153 + 3 else (5 * t + 2) / 153 - 9) = m
  have hleap' : t = 365 →
      isLeapYear (100 * p + 4 * q + r + era * 400 + if m ≤ 2 then 1 else 0) = true := by
    intro h
    obtain ⟨rfl, hq⟩ := hleap h
    subst h
    have hm2 : m = 2 := by rw [← hm]; decide
    subst hm2
    simp only [isLeapYear, if_pos (show (2 : Int) ≤ 2 by decide)]
    have h4 : (100 * p + 4 * q + 3 + era * 400 + 1) % 4 = 0 := by omega
    by_cases hq24 : q < 24
    · have h100 : (100 * p + 4 * q + 3 + era * 400 + 1) % 100 ≠ 0 := by omega
      simp [h4, h100]
    · -- the last year of an era: a multiple of 400
      have h400 : (100 * p + 4 * q + 3 + era * 400 + 1) % 400 = 0 := by omega
      simp [h4, h400]
  obtain ⟨hm1, hm12, hd1, hdim⟩ := monthDay ht0 ht1 _ hleap'
  rw [hm] at hm1 hm12 hdim
  refine ⟨by split <;> omega, by split <;> omega, by omega, by omega, by omega, hdim⟩

/-! ## What is read is a date -/

theorem ofYmd?_eq_some {y : Int} {m n : Nat} {d : Date} (h : Date.ofYmd? y m n = some d) :
    d.isValid = true ∧ d = ⟨y, m, n⟩ := by
  unfold Date.ofYmd? at h
  dsimp only at h
  split at h
  · cases h
    exact ⟨‹_›, rfl⟩
  · cases h

/-- A date read by `readDate` is valid. -/
theorem readDate_isValid {s : String} {d : Date} (h : readDate s = .ok d) : d.isValid = true := by
  unfold readDate at h
  simp only [Except.bind_eq_ok] at h
  obtain ⟨⟨year, r1⟩, -, h⟩ := h
  dsimp only at h
  split at h
  · simp [bind, Except.bind] at h
  simp only [Except.bind_eq_ok] at h
  obtain ⟨r2, -, ⟨month, r3⟩, -, h⟩ := h
  dsimp only at h
  split at h
  · simp [bind, Except.bind] at h
  simp only [Except.bind_eq_ok] at h
  obtain ⟨r4, -, ⟨day, r5⟩, -, h⟩ := h
  dsimp only at h
  split at h
  · simp [bind, Except.bind] at h
  split at h
  · simp [bind, Except.bind] at h
  split at h
  · rename_i d' hd
    cases h
    exact (ofYmd?_eq_some hd).1
  · cases h

/-- A check that refuses with an error and otherwise goes on. -/
theorem checked_eq_ok {ε α : Type} {b : Bool} {e : ε} {x : Except ε α} {a : α}
    (h : (if (!b) = true then (Except.error e : Except ε PUnit) >>= (fun _ => x) else x) = .ok a) :
    b = true ∧ x = .ok a := by
  cases b
  · simp [bind, Except.bind] at h
  · exact ⟨rfl, h⟩

/-- A date-time read at the start of a text has a valid date with a four-digit year and a
valid time of day. -/
theorem readDateTimePrefix_eq_ok {cs : List Char} {t : DateTime} {rest : List Char}
    (h : readDateTimePrefix cs = .ok (t, rest)) :
    0 ≤ t.date.year ∧ t.date.year < 10000 ∧ t.date.isValid = true ∧
      timeIsValid t.hour t.minute t.second t.nanos = true := by
  unfold readDateTimePrefix at h
  split at h
  · cases h
  simp only [Except.bind_eq_ok] at h
  obtain ⟨⟨year, r1⟩, hyear, r2, -, ⟨month, r3⟩, -, r4, -, ⟨day, r5⟩, -, h⟩ := h
  dsimp only at h
  split at h
  case h_2 => cases h
  rename_i d hd
  obtain ⟨hvalid, rfl⟩ := ofYmd?_eq_some hd
  have hy : year < 10000 := number_lt hyear
  simp only [Except.bind_eq_ok, Except.ok.injEq, exists_eq_left'] at h
  obtain ⟨r6, -, ⟨hour, r7⟩, -, r8, -, ⟨minute, r9⟩, -, r10, -, ⟨sec, r11⟩, -, h⟩ := h
  dsimp only at h
  -- with a fraction or without, the time of day is checked before the offset is read
  split at h
  · simp only [Except.bind_eq_ok] at h
    obtain ⟨⟨n, r12⟩, -, h⟩ := h
    simp only [Except.ok.injEq, exists_eq_left'] at h
    obtain ⟨htime, h⟩ := checked_eq_ok h
    simp only [Except.bind_eq_ok, Except.ok.injEq, Prod.mk.injEq] at h
    obtain ⟨_, -, rfl, -⟩ := h
    exact ⟨by simp, by simpa using hy, hvalid, htime⟩
  · simp only [Except.ok.injEq, exists_eq_left', Except.bind_eq_ok] at h
    obtain ⟨htime, h⟩ := checked_eq_ok h
    simp only [Except.bind_eq_ok, Except.ok.injEq, Prod.mk.injEq] at h
    obtain ⟨_, -, rfl, -⟩ := h
    exact ⟨by simp, by simpa using hy, hvalid, htime⟩

/-- A date-time read from a whole text is read at its start, with an offset within
`±23:59`. -/
theorem readDateTime_eq_ok {s : String} {t : DateTime} (h : readDateTime s = .ok t) :
    (∃ rest, readDateTimePrefix s.toList = .ok (t, rest)) ∧
      -maxOffset ≤ t.offset ∧ t.offset ≤ maxOffset := by
  unfold readDateTime at h
  simp only [Except.bind_eq_ok] at h
  obtain ⟨⟨t', rest⟩, hpre, h⟩ := h
  dsimp only at h
  split at h
  · cases h
  split at h
  · cases h
  · rename_i hoff
    cases h
    exact ⟨⟨rest, hpre⟩, by omega, by omega⟩

/-- Days from 1970 of a date with a four-digit year. -/
theorem toDays_bounds {d : Date} (hy0 : 0 ≤ d.year) (hy1 : d.year < 10000) (hm : d.month ≤ 12)
    (hd : d.day ≤ 31) : -1000000 ≤ d.toDays ∧ d.toDays ≤ 3000000 := by
  unfold Date.toDays
  dsimp only
  split_ifs <;> omega

/-- The UTC date of a date-time read from a text is a valid date. -/
theorem utcDate_isValid {s : String} {t : DateTime} (h : readDateTime s = .ok t) :
    t.utcDate.isValid = true := by
  obtain ⟨⟨rest, hpre⟩, hoff0, hoff1⟩ := readDateTime_eq_ok h
  obtain ⟨hy0, hy1, hvalid, htime⟩ := readDateTimePrefix_eq_ok hpre
  have hd := hvalid
  simp only [Date.isValid, Bool.and_eq_true, decide_eq_true_eq] at hd
  have hdays := toDays_bounds hy0 hy1 hd.1.1.2 (le_trans hd.2 (daysInMonth_le_31 _ _))
  simp only [timeIsValid, Bool.and_eq_true, decide_eq_true_eq] at htime
  -- the time of day and the offset move the day number by at most one
  have hsecs : -1000001 ≤ t.epochSeconds / 86400 ∧ t.epochSeconds / 86400 ≤ 3000001 := by
    unfold DateTime.epochSeconds
    simp only [maxOffset] at hoff0 hoff1
    omega
  have hdate := ofDays_valid (t.epochSeconds / 86400)
  have hmin : minYear = -262143 := rfl
  have hmax : maxYear = 262142 := rfl
  unfold DateTime.utcDate
  simp only [Date.isValid, Bool.and_eq_true, decide_eq_true_eq]
  omega

/-- A date's text is made of digits and signs. -/
theorem mem_text {d : Date} {c : Char} (h : c ∈ d.text.toList) :
    c.isDigit ∨ c = '-' ∨ c = '+' := by
  rw [toList_text] at h
  simp only [List.mem_append, List.mem_cons] at h
  unfold yearText at h
  split_ifs at h
  · rcases h with h | h | h | h | h <;> first
      | exact .inl (isDigit_of_mem_padded h)
      | exact .inr (.inl h)
  all_goals
    simp only [String.toList_append, List.mem_append, show "-".toList = ['-'] by rfl,
      show "+".toList = ['+'] by rfl, List.mem_singleton] at h
    rcases h with (h | h) | h | h | h | h <;> first
      | exact .inl (isDigit_of_mem_padded h)
      | exact .inr (.inl h)
      | exact .inr (.inr h)

end Calendar

/-! ## Coercion keeps what it gives -/

namespace Text

theorem dropBlanks_eq_self {cs : List Char} (h : ∀ c ∈ cs, isBlank c = false) :
    dropBlanks cs = cs := by
  cases cs with
  | nil => rfl
  | cons c cs => simp [dropBlanks, h c List.mem_cons_self]

/-- A text without blanks is its own trim. -/
theorem trim_eq_self {s : String} (h : ∀ c ∈ s.toList, isBlank c = false) : trim s = s := by
  have hrev : ∀ c ∈ s.toList.reverse, isBlank c = false := fun c hc => h c (List.mem_reverse.mp hc)
  rw [trim, trimChars, dropBlanks_eq_self h, dropBlanks_eq_self hrev, List.reverse_reverse,
    String.ofList_toList]

end Text

namespace FieldType

open Calendar in
/-- A date's text is its own trim. -/
theorem trim_text (d : Date) : Text.trim d.text = d.text := by
  apply Text.trim_eq_self
  intro c hc
  rcases mem_text hc with hd | rfl | rfl
  · exact isBlank_eq_false_of_isDigit hd
  · rfl
  · rfl

/-- Every date read from a text, directly or as the UTC date of a time, is valid. -/
theorem dateOfText?_isValid {s : String} {d : Calendar.Date} (h : dateOfText? s = some d) :
    d.isValid = true := by
  unfold dateOfText? at h
  split at h
  · cases h
    exact Calendar.readDate_isValid ‹_›
  · split at h
    · cases h
      exact Calendar.utcDate_isValid ‹_›
    · cases h

theorem dateOfText?_text {d : Calendar.Date} (hd : d.isValid = true) :
    dateOfText? d.text = some d := by
  simp [dateOfText?, Calendar.readDate_text hd]

/-- Coercion is idempotent: a coerced value coerces to itself.  For dates this is the round
trip of the date's text, whose year may carry a sign and five digits after a time was moved
to UTC. -/
theorem coerce?_idempotent {t : FieldType} {v w : Json} (h : t.coerce? v = some w) :
    t.coerce? w = some w := by
  unfold coerce? at h
  split at h
  case h_5 =>
    obtain ⟨i, -, rfl⟩ := Option.map_eq_some_iff.mp h
    rfl
  case h_7 =>
    simp only at h
    split_ifs at h <;> cases h <;> rfl
  case h_8 =>
    obtain ⟨d, hd, rfl⟩ := Option.map_eq_some_iff.mp h
    simp [coerce?, trim_text, dateOfText?_text (dateOfText?_isValid hd)]
  case h_9 => cases h
  all_goals
    cases h
    rfl

end FieldType

end Attest
