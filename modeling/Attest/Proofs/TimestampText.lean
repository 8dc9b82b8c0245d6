import Attest.Proofs.DateTimeText
import Attest.Proofs.Timestamps

/-!
# The texts of timestamps

`Timestamp.parse` takes exactly the RFC 3339 date-times that end in an uppercase `Z`
(`parse_eq_ok_iff`), each as its whole second, a leap second `:60` read as `:59`.
`Timestamp.iso` writes such a timestamp as `YYYY-MM-DDTHH:MM:SSZ` with the date and time of day
the text named (`iso_ofSeconds`), and `parse` reads that text back as the same timestamp.  The
main statement is `parse_iso_roundtrip`.

The calendar fact underneath is that `Date.ofDays` inverts `Date.toDays` on every date whose
month and day are real (`ofDays_toDays`).  `toDays` counts the March-based year in 400-year
eras; its day of the era splits into centuries, four-year cycles, years and a day of the year,
the split that `Date.ofDays` undoes (`era_split`, `yearOfEra`), and the day of the year gives
the month back (`dayOfYear_monthIndex`).
-/

namespace Attest

namespace Calendar

/-! ## Day numbers of dates -/

/-- A month and a day in it give a day of the March-based year, from which the month index and
then the month are read back; only February 29th is day 365. -/
theorem dayOfYear_monthIndex {y : Int} {m d : Nat} (hm : 1 ≤ m ∧ m ≤ 12)
    (hd : 1 ≤ d ∧ d ≤ daysInMonth y m) (mp : Int)
    (hmp : mp = if m > 2 then (m : Int) - 3 else (m : Int) + 9) :
    0 ≤ (153 * mp + 2) / 5 + (d : Int) - 1 ∧ (153 * mp + 2) / 5 + (d : Int) - 1 ≤ 365 ∧
      ((153 * mp + 2) / 5 + (d : Int) - 1 = 365 → m = 2 ∧ d = 29) ∧
      (5 * ((153 * mp + 2) / 5 + (d : Int) - 1) + 2) / 153 = mp ∧
      (if mp < 10 then mp + 3 else mp - 9) = m := by
  obtain ⟨hm1, hm12⟩ := hm
  have hfeb : m = 2 → d ≤ 29 := by
    rintro rfl
    simp only [daysInMonth] at hd
    split at hd <;> omega
  -- each month has its own first day of the year and its own length
  interval_cases m <;> simp only [daysInMonth] at hd <;> subst hmp <;> simp <;> omega

/-- The date of a day number given by its era, its centuries, four-year cycles and years in the
era, and its day of the March-based year. -/
theorem ofDays_era {era p q r t : Int} (hp : 0 ≤ p ∧ p ≤ 3) (hq : 0 ≤ q ∧ q ≤ 24)
    (hr : 0 ≤ r ∧ r ≤ 3) (ht : 0 ≤ t ∧ t ≤ 365) (hleap : t = 365 → r = 3 ∧ (q < 24 ∨ p = 3)) :
    Date.ofDays (era * 146097 + (36524 * p + 1461 * q + 365 * r + t) - 719468) =
      ⟨100 * p + 4 * q + r + era * 400 +
          (if (if (5 * t + 2) / 153 < 10 then (5 * t + 2) / 153 + 3 else (5 * t + 2) / 153 - 9) ≤ 2
            then 1 else 0),
        (if (5 * t + 2) / 153 < 10 then (5 * t + 2) / 153 + 3 else (5 * t + 2) / 153 - 9).toNat,
        (t - (153 * ((5 * t + 2) / 153) + 2) / 5 + 1).toNat⟩ := by
  unfold Date.ofDays
  dsimp only
  have hera : (era * 146097 + (36524 * p + 1461 * q + 365 * r + t) - 719468 + 719468) / 146097 =
      era := by
    omega
  rw [hera]
  have hdoe : era * 146097 + (36524 * p + 1461 * q + 365 * r + t) - 719468 + 719468 -
      era * 146097 = 36524 * p + 1461 * q + 365 * r + t := by
    omega
  rw [hdoe, yearOfEra hp hq hr ht hleap]
  have h4 : (100 * p + 4 * q + r) / 4 = 25 * p + q := by omega
  have h100 : (100 * p + 4 * q + r) / 100 = p := by omega
  have hdoy : 36524 * p + 1461 * q + 365 * r + t -
      (365 * (100 * p + 4 * q + r) + (100 * p + 4 * q + r) / 4 - (100 * p + 4 * q + r) / 100) =
        t := by
    omega
  rw [hdoy]

/-- `Date.ofDays` inverts `Date.toDays` on every date whose month and day are real, in any
year. -/
theorem ofDays_toDays {d : Date} (hm : 1 ≤ d.month ∧ d.month ≤ 12)
    (hd : 1 ≤ d.day ∧ d.day ≤ daysInMonth d.year d.month) : Date.ofDays d.toDays = d := by
  obtain ⟨y, m, day⟩ := d
  dsimp only at hm hd
  generalize hmp : (if m > 2 then (m : Int) - 3 else (m : Int) + 9) = mp
  obtain ⟨hdoy0, hdoy1, hfeb29, hmpback, hmonth⟩ := dayOfYear_monthIndex hm hd mp hmp.symm
  generalize hdoy : (153 * mp + 2) / 5 + (day : Int) - 1 = doy at hdoy0 hdoy1 hfeb29 hmpback
  -- the March-based year: its era, and its centuries, four-year cycles and years in the era
  generalize hy' : (if m ≤ 2 then y - 1 else y) = y'
  obtain ⟨p, q, r, hp, hq, hr, hyoe⟩ : ∃ p q r : Int, (0 ≤ p ∧ p ≤ 3) ∧ (0 ≤ q ∧ q ≤ 24) ∧
      (0 ≤ r ∧ r ≤ 3) ∧ y' - y' / 400 * 400 = 100 * p + 4 * q + r :=
    ⟨(y' % 400) / 100, (y' % 100) / 4, y' % 4, by omega, by omega, by omega, by omega⟩
  -- day 365 is February 29th, so the calendar year is a leap year
  have hleap : doy = 365 → r = 3 ∧ (q < 24 ∨ p = 3) := by
    intro h365
    obtain ⟨rfl, rfl⟩ := hfeb29 h365
    have hleapYear : isLeapYear y = true := by
      by_contra hno
      simp [daysInMonth, hno] at hd
    simp only [isLeapYear, Bool.and_eq_true, beq_iff_eq, Bool.or_eq_true, bne_iff_ne,
      ne_eq] at hleapYear
    simp only [show (2 : Nat) ≤ 2 from le_refl 2, if_true] at hy'
    omega
  have htoDays : Date.toDays ⟨y, m, day⟩ =
      y' / 400 * 146097 + (36524 * p + 1461 * q + 365 * r + doy) - 719468 := by
    unfold Date.toDays
    dsimp only
    rw [hy', hmp, hdoy.symm.trans (by rfl), hyoe]
    omega
  rw [htoDays, ofDays_era hp hq hr ⟨hdoy0, hdoy1⟩ hleap, hmpback, hmonth]
  -- the year comes back once the March-based year is a calendar year again
  have hyear : 100 * p + 4 * q + r + y' / 400 * 400 + (if (m : Int) ≤ 2 then 1 else 0) = y := by
    split_ifs at hy' ⊢ <;> omega
  have hday : doy - (153 * mp + 2) / 5 + 1 = day := by omega
  rw [hyear, hday]
  simp

/-! ## The text of a date-time in UTC -/

/-- A zero-padded number is a run of digits naming the number. -/
theorem digits_padded (w n : Nat) : Digits (padded w n).toList n := by
  obtain ⟨c, cs, hc, -⟩ := padded_cons w n
  exact ⟨by rw [hc]; exact List.cons_ne_nil c cs, fun _ h => isDigit_of_mem_padded h,
    (ofDigitChars_padded w n).symm⟩

/-- A year from 0 to 9999 is written with four digits and no sign. -/
theorem yearText_eq_padded {y : Int} (h0 : 0 ≤ y) (h1 : y < 10000) :
    yearText y = padded 4 y.toNat := by
  simp [yearText, h0, show y ≤ 9999 by omega]

/-- The text `YYYY-MM-DDTHH:MM:SSZ` of a valid date in the years 0 to 9999 and a time of day is
an RFC 3339 date-time that names them, in UTC and with no fraction. -/
theorem dateTimeText_utc {d : Date} (hd : d.isValid = true) (hy : 0 ≤ d.year ∧ d.year < 10000)
    {h mi s : Nat} (hh : h < 24) (hmi : mi < 60) (hs : s < 60) :
    DateTimeText (d.text ++ "T" ++ padded 2 h ++ ":" ++ padded 2 mi ++ ":" ++ padded 2 s ++
      "Z").toList ⟨d, h, mi, s, 0, 0⟩ := by
  obtain ⟨y, m, dd⟩ := d
  obtain ⟨hy0, hy1⟩ := hy
  dsimp only at hy0 hy1
  have hv := hd
  simp only [Date.isValid, Bool.and_eq_true, decide_eq_true_eq] at hv
  have h31 := daysInMonth_le_31 y m
  have hdate : FullDateText ((yearText y).toList ++ '-' :: ((padded 2 m).toList ++ '-' ::
      (padded 2 dd).toList)) ⟨y, m, dd⟩ := by
    have hfull := FullDateText.mk (digits_padded 4 y.toNat)
      (length_padded (by decide) (by omega)) (digits_padded 2 m)
      (length_padded (by decide) (by omega)) (digits_padded 2 dd)
      (length_padded (by decide) (by omega)) (by rwa [Int.toNat_of_nonneg hy0])
    rwa [Int.toNat_of_nonneg hy0, ← yearText_eq_padded hy0 hy1] at hfull
  -- a second below 60 is no leap second, and no fraction follows it
  have htime : PartialTimeText ((padded 2 h).toList ++ ':' :: ((padded 2 mi).toList ++ ':' ::
      ((padded 2 s).toList ++ []))) h mi s 0 := by
    have hpart := PartialTimeText.mk (digits_padded 2 h) (length_padded (by decide) (by omega)) hh
      (digits_padded 2 mi) (length_padded (by decide) (by omega)) hmi (digits_padded 2 s)
      (length_padded (by decide) (by omega)) (by omega) FractionText.none
    simpa [show s ≠ 60 by omega] using hpart
  have htext := DateTimeText.mk hdate (Or.inl rfl) htime (.utc (Or.inl rfl))
    (by decide) (by decide)
  simpa [toList_text] using htext

/-- An RFC 3339 date-time that ends in `Z` is in UTC. -/
theorem DateTimeText.offset_eq_zero {cs : List Char} {dt : DateTime} (h : DateTimeText cs dt)
    (hz : ['Z'] <:+ cs) : dt.offset = 0 := by
  rw [List.singleton_suffix_iff_getLast?_eq_some] at hz
  cases h with
  | mk _ _ _ ho _ _ =>
  -- a numeric offset ends in a minute digit, which is no `Z`
  cases ho with
  | utc => rfl
  | east _ _ hm hml _ =>
    obtain ⟨a, b, rfl⟩ := length_eq_two hml
    have hb : b = 'Z' := by simpa [List.getLast?_cons, List.getLast?_append] using hz
    exact absurd (hm.isDigit b (by simp)) (by rw [hb]; decide)
  | west _ _ _ hm hml _ =>
    obtain ⟨a, b, rfl⟩ := length_eq_two hml
    have hb : b = 'Z' := by simpa [List.getLast?_cons, List.getLast?_append] using hz
    exact absurd (hm.isDigit b (by simp)) (by rw [hb]; decide)

/-- An RFC 3339 date-time has a valid date with a four-digit year and a time of day below
24:00:00, a leap second counted as second 59. -/
theorem DateTimeText.bounds {cs : List Char} {dt : DateTime} (h : DateTimeText cs dt) :
    dt.date.isValid = true ∧ 0 ≤ dt.date.year ∧ dt.date.year < 10000 ∧ dt.hour < 24 ∧
      dt.minute < 60 ∧ dt.second < 60 := by
  cases h with
  | mk hd _ ht _ _ _ =>
  cases hd with
  | mk hys hysl _ _ _ _ hvalid =>
  cases ht with
  | mk _ _ hh _ _ hm _ _ hs _ =>
  have hy := hys.lt
  rw [hysl] at hy
  dsimp only
  refine ⟨hvalid, by omega, by omega, hh, hm, ?_⟩
  split_ifs <;> omega

end Calendar

namespace Timestamp

open Calendar

/-! ## Reading and writing timestamps -/

/-- `parse` takes exactly the RFC 3339 date-times that end in an uppercase `Z`, each as the
whole second it names. -/
theorem parse_eq_ok_iff {s : String} {t : Timestamp} :
    parse s = .ok t ↔
      ['Z'] <:+ s.toList ∧ ∃ dt, DateTimeText s.toList dt ∧ t = ofSeconds dt.epochSeconds := by
  have hends : s.endsWith "Z" = true ↔ ['Z'] <:+ s.toList := by
    simp [← String.endsWith_toSlice]
  unfold parse
  by_cases hz : s.endsWith "Z" = true
  · rw [if_neg (by simp [hz])]
    cases hr : readDateTime s with
    | error e =>
      simp only [reduceCtorEq, false_iff, not_and, not_exists]
      intro _ dt hdt
      rw [← readDateTime_eq_ok_iff, hr] at hdt
      cases hdt
    | ok dt =>
      simp only [Except.ok.injEq]
      constructor
      · rintro rfl
        exact ⟨hends.mp hz, dt, readDateTime_eq_ok_iff.mp hr, rfl⟩
      · rintro ⟨-, dt', hdt', rfl⟩
        rw [← readDateTime_eq_ok_iff, hr] at hdt'
        cases hdt'
        rfl
  · rw [if_pos (by simpa using hz)]
    simp only [reduceCtorEq, false_iff, not_and]
    exact fun hsuf => absurd (hends.mpr hsuf) hz

/-- The whole second of a date and a time of day is written as that date and that time. -/
theorem iso_ofSeconds {d : Date} (hm : 1 ≤ d.month ∧ d.month ≤ 12)
    (hd : 1 ≤ d.day ∧ d.day ≤ daysInMonth d.year d.month) {h mi s : Nat} (hh : h < 24)
    (hmi : mi < 60) (hs : s < 60) :
    (ofSeconds (d.toDays * 86400 + (h * 3600 + mi * 60 + s : Nat))).iso =
      d.text ++ "T" ++ padded 2 h ++ ":" ++ padded 2 mi ++ ":" ++ padded 2 s ++ "Z" := by
  unfold iso
  simp only [seconds_ofSeconds]
  have hday : (d.toDays * 86400 + ((h * 3600 + mi * 60 + s : Nat) : Int)) / 86400 = d.toDays := by
    omega
  have hsecs : ((d.toDays * 86400 + ((h * 3600 + mi * 60 + s : Nat) : Int)) % 86400).toNat =
      h * 3600 + mi * 60 + s := by
    omega
  have hhour : (h * 3600 + mi * 60 + s) / 3600 = h := by omega
  have hminute : (h * 3600 + mi * 60 + s) / 60 % 60 = mi := by omega
  have hsecond : (h * 3600 + mi * 60 + s) % 60 = s := by omega
  rw [hday, hsecs, ofDays_toDays hm hd, hhour, hminute, hsecond]

/-- The text of a date in the years 0 to 9999 and a time of day, in UTC, is read as their whole
second. -/
theorem parse_utcText {d : Date} (hd : d.isValid = true) (hy : 0 ≤ d.year ∧ d.year < 10000)
    {h mi s : Nat} (hh : h < 24) (hmi : mi < 60) (hs : s < 60) :
    parse (d.text ++ "T" ++ padded 2 h ++ ":" ++ padded 2 mi ++ ":" ++ padded 2 s ++ "Z") =
      .ok (ofSeconds (d.toDays * 86400 + (h * 3600 + mi * 60 + s : Nat))) :=
  parse_eq_ok_iff.mpr ⟨by
      rw [List.singleton_suffix_iff_getLast?_eq_some]
      simp [List.getLast?_cons, List.getLast?_append], _, dateTimeText_utc hd hy hh hmi hs,
    by simp [DateTime.epochSeconds]⟩

/-- Timestamp texts round trip.  `parse` succeeds exactly on the RFC 3339 date-times that end in
an uppercase `Z`.  The timestamp it reads is the whole second the text names, a leap second
`:60` read as `:59` and any fraction dropped; `iso` writes it as `YYYY-MM-DDTHH:MM:SSZ` with
that date and time of day, and `parse` reads that text back as the same timestamp. -/
theorem parse_iso_roundtrip (s : String) :
    ((∃ t, parse s = .ok t) ↔ ['Z'] <:+ s.toList ∧ ∃ dt, DateTimeText s.toList dt) ∧
    ∀ t, parse s = .ok t → ∃ dt : DateTime, DateTimeText s.toList dt ∧ dt.offset = 0 ∧
      t = ofSeconds (dt.date.toDays * 86400 + (dt.hour * 3600 + dt.minute * 60 + dt.second : Nat)) ∧
      t.iso = padded 4 dt.date.year.toNat ++ "-" ++ padded 2 dt.date.month ++ "-" ++
        padded 2 dt.date.day ++ "T" ++ padded 2 dt.hour ++ ":" ++ padded 2 dt.minute ++ ":" ++
        padded 2 dt.second ++ "Z" ∧
      parse t.iso = .ok t := by
  refine ⟨⟨fun ⟨_, ht⟩ => ?_, fun ⟨hz, dt, hdt⟩ => ⟨_, parse_eq_ok_iff.mpr ⟨hz, dt, hdt, rfl⟩⟩⟩, ?_⟩
  · obtain ⟨hz, dt, hdt, -⟩ := parse_eq_ok_iff.mp ht
    exact ⟨hz, dt, hdt⟩
  intro t ht
  obtain ⟨hz, dt, hdt, rfl⟩ := parse_eq_ok_iff.mp ht
  have hoff := hdt.offset_eq_zero hz
  obtain ⟨hvalid, hy0, hy1, hh, hmi, hs⟩ := hdt.bounds
  have hv := hvalid
  simp only [Date.isValid, Bool.and_eq_true, decide_eq_true_eq] at hv
  obtain ⟨⟨⟨⟨⟨-, -⟩, hm1⟩, hm12⟩, hd1⟩, hdim⟩ := hv
  -- in UTC the instant is the day's first second moved by the time of day
  have hepoch : dt.epochSeconds =
      dt.date.toDays * 86400 + (dt.hour * 3600 + dt.minute * 60 + dt.second : Nat) := by
    simp [DateTime.epochSeconds, hoff]
  have hiso := iso_ofSeconds ⟨hm1, hm12⟩ ⟨hd1, hdim⟩ hh hmi hs
  refine ⟨dt, hdt, hoff, by rw [hepoch], ?_, ?_⟩
  · rw [hepoch, hiso, Date.text, yearText_eq_padded hy0 hy1]
  · rw [hepoch, hiso]
    exact parse_utcText hvalid ⟨hy0, hy1⟩ hh hmi hs

end Timestamp

end Attest
