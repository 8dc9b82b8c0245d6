import Attest.Proofs.DateTimeText

/-!
# The coercion table

`FieldType.Coerces t v w` states, row by row, which values coercion to the type `t` accepts and
what it gives for each:

* `string` takes a string as it is, an integer as its decimal text, a boolean as `true` or
  `false`;
* `number` takes an integer as it is, or a string whose trimmed text is decimal digits after an
  optional sign, naming an integer from `-2^63` to `2^64 - 1` (`IntegerText`);
* `boolean` takes a boolean, or a string whose trimmed text is `true` or `false` in any ASCII
  case;
* `date` takes a string whose trimmed text is a date as `Calendar.DayText` reads it, or an
  RFC 3339 date-time (`Calendar.DateTimeText`), and gives the text of the date, for a date-time
  its date in UTC.

`coercion_table` proves that coercion succeeds exactly on the table, with the value it gives,
and refuses everything else with a type mismatch naming the field, the type and the value.

The date row is wider than `YYYY-MM-DD`: the date reader takes a month and a day of one digit,
blanks after a hyphen and a year of any length after a sign, and gives the date's text written
back in full (`2023-3-1` gives `2023-03-01`).  A date-time whose offset moves it across the first
or the last day of the years 0 to 9999 gives a year outside them, written with a sign.
-/

namespace Attest

namespace FieldType

/-! ## Integers -/

theorem decimal?_eq_some_iff {cs : List Char} {n : Nat} : decimal? cs = some n ↔ Digits cs n := by
  unfold decimal?
  have hfold : cs.foldl (fun acc c => acc * 10 + (c.toNat - '0'.toNat)) 0 =
      Nat.ofDigitChars 10 cs 0 := by
    rw [Nat.ofDigitChars_eq_foldl]
    congr 1
    funext acc c
    rw [Nat.mul_comm]
  split_ifs with h
  · simp only [false_iff]
    rintro ⟨hne, hd, -⟩
    simp only [Bool.or_eq_true, List.isEmpty_iff, Bool.not_eq_eq_eq_not, Bool.not_true,
      List.all_eq_false] at h
    rcases h with h | ⟨c, hc, hcd⟩
    · exact hne h
    · simp [hd c hc] at hcd
  · simp only [Bool.or_eq_true, List.isEmpty_iff, Bool.not_eq_eq_eq_not, Bool.not_true, not_or,
      List.all_eq_false, not_exists, not_and] at h
    rw [hfold, Option.some.injEq]
    constructor
    · rintro rfl
      exact ⟨h.1, fun c hc => by simpa using h.2 c hc, rfl⟩
    · rintro ⟨-, -, rfl⟩
      rfl

/-- Decimal digits after an optional sign, and the integer they write. -/
inductive IntegerText : List Char → Int → Prop
  | digits {ds : List Char} {n : Nat} : Digits ds n → IntegerText ds n
  | minus {ds : List Char} {n : Nat} : Digits ds n → IntegerText ('-' :: ds) (-(n : Int))
  | plus {ds : List Char} {n : Nat} : Digits ds n → IntegerText ('+' :: ds) n

/-- The 64-bit range as the reader checks it: signed first, then unsigned. -/
theorem range_eq_some_iff {j i : Int} :
    (if Json.intMin ≤ j ∧ j < Int.pow 2 63 then some j
      else if 0 ≤ j ∧ j ≤ Json.intMax then some j else none) = some i ↔
      j = i ∧ Json.intMin ≤ i ∧ i ≤ Json.intMax := by
  have hmin : Json.intMin = -9223372036854775808 := rfl
  have hmax : Json.intMax = 18446744073709551615 := rfl
  have hpow : Int.pow 2 63 = 9223372036854775808 := rfl
  rw [hmin, hmax, hpow]
  split_ifs <;> simp only [Option.some.injEq, false_iff, not_and] <;> omega

/-- Text read as a 64-bit integer: decimal digits after an optional sign, naming an integer
from `-2^63` to `2^64 - 1`. -/
theorem integerOfText?_eq_some_iff {s : String} {i : Int} :
    integerOfText? s = some i ↔ IntegerText s.toList i ∧ Json.intMin ≤ i ∧ i ≤ Json.intMax := by
  unfold integerOfText?
  generalize s.toList = cs
  constructor
  · intro h
    -- the sign picks the branch, the digits after it give the value, and the value passed the
    -- range check
    split at h
    · rename_i ds
      cases hd : decimal? ds with
      | none => simp [hd] at h
      | some n =>
        simp only [hd, Option.pure_def, Option.bind_eq_bind, Option.bind_some,
          Option.map_some] at h
        obtain ⟨rfl, hr⟩ := range_eq_some_iff.mp h
        exact ⟨.minus (decimal?_eq_some_iff.mp hd), hr⟩
    · rename_i ds
      cases hd : decimal? ds with
      | none => simp [hd] at h
      | some n =>
        simp only [hd, Option.pure_def, Option.bind_eq_bind, Option.bind_some,
          Option.map_some] at h
        obtain ⟨rfl, hr⟩ := range_eq_some_iff.mp h
        exact ⟨.plus (decimal?_eq_some_iff.mp hd), hr⟩
    · cases hd : decimal? cs with
      | none => simp [hd] at h
      | some n =>
        simp only [hd, Option.pure_def, Option.bind_eq_bind, Option.bind_some,
          Option.map_some] at h
        obtain ⟨rfl, hr⟩ := range_eq_some_iff.mp h
        exact ⟨.digits (decimal?_eq_some_iff.mp hd), hr⟩
  · rintro ⟨h, hr⟩
    cases h with
    | minus h | plus h =>
      simp only [decimal?_eq_some_iff.mpr h, Option.pure_def, Option.bind_eq_bind,
        Option.bind_some, Option.map_some]
      exact range_eq_some_iff.mpr ⟨rfl, hr⟩
    | @digits ds n h =>
      -- unsigned digits start with a digit, which is no sign
      obtain ⟨c, cs', rfl⟩ := List.exists_cons_of_ne_nil h.ne_nil
      have hc := h.isDigit c List.mem_cons_self
      split
      · rename_i ds' heq
        rw [(List.cons.inj heq).1] at hc
        cases hc
      · rename_i ds' heq
        rw [(List.cons.inj heq).1] at hc
        cases hc
      · simp only [decimal?_eq_some_iff.mpr h, Option.pure_def, Option.bind_eq_bind,
          Option.bind_some, Option.map_some]
        exact range_eq_some_iff.mpr ⟨rfl, hr⟩

/-! ## Booleans -/

/-- Two texts are equal ignoring ASCII case exactly when their lowercase forms are equal. -/
theorem equalsIgnoringCase_eq_true_iff {a b : String} :
    equalsIgnoringCase a b = true ↔ a.toLower = b.toLower := by
  unfold equalsIgnoringCase
  rw [← String.toList_inj, show a.toLower = a.map Char.toLower from rfl,
    show b.toLower = b.map Char.toLower from rfl]
  simp only [String.toList_map, Bool.and_eq_true, beq_iff_eq, ← String.length_toList]
  generalize a.toList = l₁
  generalize b.toList = l₂
  -- character by character, along both lists at once
  induction l₁ generalizing l₂ with
  | nil => cases l₂ <;> simp
  | cons x l₁ ih =>
    cases l₂ with
    | nil => simp
    | cons y l₂ =>
      simp only [List.length_cons, List.zip_cons_cons, List.all_cons, Bool.and_eq_true, beq_iff_eq,
        List.map_cons, List.cons.injEq, Nat.add_right_cancel_iff, ← ih l₂]
      tauto

theorem toLower_true : "true".toLower = "true" := by decide +kernel

theorem toLower_false : "false".toLower = "false" := by decide +kernel

/-! ## Dates -/

/-- A date read from a text: the text is a date, or else an RFC 3339 date-time and the date is
its date in UTC.  The two grammars never meet: a date-time has a colon, a date none. -/
theorem dateOfText?_eq_some_iff {s : String} {d : Calendar.Date} :
    dateOfText? s = some d ↔
      Calendar.DayText s.toList d ∨ ∃ t, Calendar.DateTimeText s.toList t ∧ d = t.utcDate := by
  unfold dateOfText?
  split
  · rename_i d' hd'
    have hday := Calendar.readDate_eq_ok_iff.mp hd'
    simp only [Option.some.injEq]
    constructor
    · rintro rfl
      exact .inl hday
    · rintro (h | ⟨t, ht, -⟩)
      · rw [Calendar.readDate_eq_ok_iff.mpr h] at hd'
        cases hd'
        rfl
      · exact absurd ht.colon_mem hday.colon_not_mem
  · rename_i e he
    have hnot : ∀ d', ¬ Calendar.DayText s.toList d' := fun d' h => by
      rw [Calendar.readDate_eq_ok_iff.mpr h] at he
      cases he
    split
    · rename_i t ht
      simp only [Option.some.injEq]
      constructor
      · rintro rfl
        exact .inr ⟨t, Calendar.readDateTime_eq_ok_iff.mp ht, rfl⟩
      · rintro (h | ⟨t', ht', rfl⟩)
        · exact absurd h (hnot d)
        · rw [Calendar.readDateTime_eq_ok_iff.mpr ht'] at ht
          cases ht
          rfl
    · rename_i e' he'
      simp only [reduceCtorEq, false_iff, not_or, not_exists, not_and]
      refine ⟨hnot d, fun t ht _ => ?_⟩
      rw [Calendar.readDateTime_eq_ok_iff.mpr ht] at he'
      cases he'

/-! ## The table -/

theorem coerce?_number_str (s : String) :
    coerce? .number (.str s) = (integerOfText? (Text.trim s)).map Json.ofInt := rfl

theorem coerce?_date_str (s : String) :
    coerce? .date (.str s) = (dateOfText? (Text.trim s)).map fun d => .str d.text := rfl

/-- What coercion accepts and gives, type by type; texts are trimmed of blanks first.  A date
is given as its text: four digits for the years 0 to 9999, a sign and more digits outside. -/
inductive Coerces : FieldType → Json → Json → Prop
  | string_str (s : String) : Coerces .string (.str s) (.str s)
  | string_int (i : Int) : Coerces .string (.num (.int i)) (.str (toString i))
  | string_bool (b : Bool) : Coerces .string (.bool b) (.str (toString b))
  | number_int (i : Int) : Coerces .number (.num (.int i)) (.num (.int i))
  | number_str {s : String} {i : Int} : IntegerText (Text.trim s).toList i →
      Json.intMin ≤ i → i ≤ Json.intMax → Coerces .number (.str s) (Json.ofInt i)
  | boolean_bool (b : Bool) : Coerces .boolean (.bool b) (.bool b)
  | boolean_str {s : String} (b : Bool) : (Text.trim s).toLower = toString b →
      Coerces .boolean (.str s) (.bool b)
  | date_day {s : String} {d : Calendar.Date} : Calendar.DayText (Text.trim s).toList d →
      Coerces .date (.str s) (.str d.text)
  | date_time {s : String} {t : Calendar.DateTime} :
      Calendar.DateTimeText (Text.trim s).toList t → Coerces .date (.str s) (.str t.utcDate.text)

/-- A text is taken as a boolean exactly when it is `true` or `false` in any ASCII case. -/
theorem coerce?_boolean_str {s : String} {w : Json} :
    coerce? .boolean (.str s) = some w ↔ ∃ b, (Text.trim s).toLower = toString b ∧ w = .bool b := by
  have htrue : equalsIgnoringCase (Text.trim s) "true" = true ↔
      (Text.trim s).toLower = toString true := by
    rw [equalsIgnoringCase_eq_true_iff, toLower_true]
    rfl
  have hfalse : equalsIgnoringCase (Text.trim s) "false" = true ↔
      (Text.trim s).toLower = toString false := by
    rw [equalsIgnoringCase_eq_true_iff, toLower_false]
    rfl
  have hne : toString true ≠ toString false := by decide +kernel
  unfold coerce?
  simp only
  constructor
  · intro h
    split_ifs at h with ht hf <;> cases h
    · exact ⟨true, htrue.mp ht, rfl⟩
    · exact ⟨false, hfalse.mp hf, rfl⟩
  · rintro ⟨b, hb, rfl⟩
    cases b
    · -- a text that reads `false` does not read `true`
      have ht : ¬ equalsIgnoringCase (Text.trim s) "true" = true :=
        fun h => hne ((htrue.mp h).symm.trans hb)
      rw [if_neg ht, if_pos (hfalse.mpr hb)]
    · rw [if_pos (htrue.mpr hb)]

/-- Each value coercion gives is a row of the table. -/
theorem coerces_of_coerce? {t : FieldType} {v w : Json} (h : t.coerce? v = some w) :
    Coerces t v w := by
  cases t <;> cases v
  case string.bool b =>
    cases h
    exact .string_bool b
  case string.num n =>
    cases n <;> cases h
    exact .string_int _
  case string.str s =>
    cases h
    exact .string_str s
  case number.num n =>
    cases n <;> cases h
    exact .number_int _
  case number.str s =>
    rw [coerce?_number_str] at h
    obtain ⟨i, hi, rfl⟩ := Option.map_eq_some_iff.mp h
    obtain ⟨hi, hmin, hmax⟩ := integerOfText?_eq_some_iff.mp hi
    exact .number_str hi hmin hmax
  case boolean.bool b =>
    cases h
    exact .boolean_bool b
  case boolean.str s =>
    obtain ⟨b, hb, rfl⟩ := coerce?_boolean_str.mp h
    exact .boolean_str b hb
  case date.str s =>
    rw [coerce?_date_str] at h
    obtain ⟨d, hd, rfl⟩ := Option.map_eq_some_iff.mp h
    rcases dateOfText?_eq_some_iff.mp hd with hd | ⟨t, ht, rfl⟩
    · exact .date_day hd
    · exact .date_time ht
  -- every other pair is refused
  all_goals cases h

/-- Each row of the table is given by coercion. -/
theorem coerce?_of_coerces {t : FieldType} {v w : Json} (h : Coerces t v w) :
    t.coerce? v = some w := by
  cases h with
  | number_str hi hmin hmax =>
    rw [coerce?_number_str, integerOfText?_eq_some_iff.mpr ⟨hi, hmin, hmax⟩, Option.map_some]
  | boolean_str b hb => exact coerce?_boolean_str.mpr ⟨b, hb, rfl⟩
  | date_day hd => rw [coerce?_date_str, dateOfText?_eq_some_iff.mpr (.inl hd), Option.map_some]
  | @date_time s t ht =>
    rw [coerce?_date_str, dateOfText?_eq_some_iff.mpr (.inr ⟨t, ht, rfl⟩), Option.map_some]
  | _ => rfl

/-- Coercion gives a value exactly on the rows of the table. -/
theorem coerce?_eq_some_iff {t : FieldType} {v w : Json} : t.coerce? v = some w ↔ Coerces t v w :=
  ⟨coerces_of_coerce?, coerce?_of_coerces⟩

/-- Coercion follows the table: it succeeds exactly on the rows of `Coerces`, with the value
the row gives, and otherwise refuses with a type mismatch naming the field, the type and the
value's compact text. -/
theorem coercion_table (t : FieldType) (field : String) (v : Json) :
    (∀ w, t.coerce field v = .ok w ↔ Coerces t v w) ∧
      (∀ e, t.coerce field v = .error e ↔
        (∀ w, ¬ Coerces t v w) ∧ e = .typeMismatch field t.name v.compact) := by
  refine ⟨fun w => coerce_eq_ok.trans coerce?_eq_some_iff, fun e => ?_⟩
  rw [coerce_eq_error]
  constructor
  · rintro ⟨hnone, rfl⟩
    refine ⟨fun w hw => ?_, rfl⟩
    rw [coerce?_eq_some_iff.mpr hw] at hnone
    cases hnone
  · rintro ⟨hno, rfl⟩
    refine ⟨?_, rfl⟩
    cases h : t.coerce? v with
    | none => rfl
    | some w => exact absurd (coerce?_eq_some_iff.mp h) (hno w)

/-- A date is taken with a one-digit month and day and written back in full, and a date-time
an hour east of UTC on the first day of year 0 falls on the last day of year -1, written with a
sign. -/
theorem coerce_date_beyond_pattern :
    coerce .date "f" (.str "2023-3-1") = .ok (.str "2023-03-01") ∧
      coerce .date "f" (.str "0000-01-01T00:00:00+01:00") = .ok (.str "-0001-12-31") := by
  have hday : dateOfText? (Text.trim "2023-3-1") = some ⟨2023, 3, 1⟩ := by decide +kernel
  have htime : dateOfText? (Text.trim "0000-01-01T00:00:00+01:00") = some ⟨-1, 12, 31⟩ := by
    decide +kernel
  have hdayText : (⟨2023, 3, 1⟩ : Calendar.Date).text = "2023-03-01" := by decide +kernel
  have htimeText : (⟨-1, 12, 31⟩ : Calendar.Date).text = "-0001-12-31" := by decide +kernel
  constructor
  · rw [coerce_eq_ok, coerce?_date_str, hday, Option.map_some, hdayText]
  · rw [coerce_eq_ok, coerce?_date_str, htime, Option.map_some, htimeText]

end FieldType

end Attest
