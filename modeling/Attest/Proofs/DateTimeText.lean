import Attest.Proofs.DateText

/-!
# The texts of RFC 3339 date-times

`Calendar.readDateTime` reads an RFC 3339 date-time.  `DateTimeText` states the grammar it
takes, part by part as RFC 3339 names them: a full date (`FullDateText`), a separator, a
partial time with its fraction (`PartialTimeText`, `FractionText`) and an offset
(`OffsetText`), the offset within `±23:59`.  `readDateTime_eq_ok_iff` proves that the reader
takes exactly these texts, each as the date-time it names.

Each part has its reading lemma (`number_fixed_eq_ok_iff`, `fraction_eq_ok_iff`,
`offset_eq_ok_iff`); the reader is then inverted step by step, and run forward on a text of
the grammar step by step.
-/

namespace Attest

namespace Calendar

/-! ## Fixed-width numbers and separators -/

/-- A number of exactly `k` digits is read whole, whatever follows. -/
theorem number_fixed_eq_ok_iff {k : Nat} (hk : 1 ≤ k) {cs r : List Char} {v : Nat} :
    number k k cs = .ok (v, r) ↔ ∃ ds, cs = ds ++ r ∧ Digits ds v ∧ ds.length = k := by
  rw [number_eq_ok_iff hk (le_refl k)]
  constructor
  · rintro ⟨ds, hcs, hds, h1, h2, -⟩
    exact ⟨ds, hcs, hds, by omega⟩
  · rintro ⟨ds, hcs, hds, hlen⟩
    exact ⟨ds, hcs, hds, by omega, by omega, fun h => absurd h (by omega)⟩

theorem digits_two_iff {a b : Char} {v : Nat} :
    Digits [a, b] v ↔ ∃ x y, digit? a = some x ∧ digit? b = some y ∧ v = 10 * x + y := by
  constructor
  · rintro ⟨-, hd, rfl⟩
    refine ⟨_, _, digit?_of_isDigit (hd a (by simp)), digit?_of_isDigit (hd b (by simp)), ?_⟩
    simp [Nat.ofDigitChars_cons]
  · rintro ⟨x, y, hx, hy, rfl⟩
    obtain ⟨ha, rfl⟩ := digit?_eq_some_iff.mp hx
    obtain ⟨hb, rfl⟩ := digit?_eq_some_iff.mp hy
    refine ⟨by simp, ?_, by simp [Nat.ofDigitChars_cons]⟩
    intro c hc
    simp only [List.mem_cons, List.not_mem_nil, or_false] at hc
    rcases hc with rfl | rfl
    · exact ha
    · exact hb

theorem length_eq_two {ds : List Char} (h : ds.length = 2) : ∃ a b, ds = [a, b] := by
  match ds, h with
  | [a, b], _ => exact ⟨a, b, rfl⟩

theorem twoDigits_eq_ok_iff {a b : Char} {v : Nat} : twoDigits a b = .ok v ↔ Digits [a, b] v := by
  rw [digits_two_iff]
  unfold twoDigits
  split
  · rename_i x y hx hy
    simp only [Except.ok.injEq]
    constructor
    · rintro rfl
      exact ⟨x, y, hx, hy, rfl⟩
    · rintro ⟨x', y', hx', hy', rfl⟩
      rw [hx] at hx'
      rw [hy] at hy'
      cases hx'
      cases hy'
      rfl
  · rename_i hne
    simp only [reduceCtorEq, false_iff, not_exists, not_and]
    intro x y hx hy _
    exact hne x y hx hy

theorem separator_eq_ok_iff {cs r : List Char} :
    separator cs = .ok r ↔ ∃ c, cs = c :: r ∧ (c = 'T' ∨ c = 't' ∨ c = ' ') := by
  cases cs with
  | nil => simp [separator]
  | cons c rest =>
    simp only [separator]
    split_ifs with hc
    · simp [hc]
    · simp only [false_iff, not_exists, not_and, List.cons.injEq]
      rintro x ⟨rfl, -⟩ hx
      exact hc hx

/-! ## Fractions of a second -/

/-- A list is its leading digits and what `dropDigits` leaves. -/
theorem dropDigits_split (cs : List Char) :
    ∃ ds, cs = ds ++ dropDigits cs ∧ (∀ c ∈ ds, c.isDigit) ∧
      ∀ c ∈ (dropDigits cs).head?, c.isDigit = false := by
  induction cs with
  | nil => exact ⟨[], rfl, by simp, by simp [dropDigits]⟩
  | cons c cs ih =>
    cases hc : c.isDigit
    · refine ⟨[], ?_, by simp, ?_⟩
      · simp [dropDigits, digit?_eq_none_of_not_isDigit hc]
      · simpa [dropDigits, digit?_eq_none_of_not_isDigit hc] using hc
    · obtain ⟨ds, hds, hdig, hr⟩ := ih
      have hdrop : dropDigits (c :: cs) = dropDigits cs := by
        simp [dropDigits, digit?_of_isDigit hc]
      refine ⟨c :: ds, ?_, ?_, by rw [hdrop]; exact hr⟩
      · rw [hdrop, List.cons_append, ← hds]
      · intro x hx
        rcases List.mem_cons.mp hx with rfl | hx
        · exact hc
        · exact hdig x hx

theorem dropDigits_digits {ds r : List Char} (hds : ∀ c ∈ ds, c.isDigit)
    (hr : ∀ c ∈ r.head?, c.isDigit = false) : dropDigits (ds ++ r) = r := by
  induction ds with
  | nil =>
    cases r with
    | nil => rfl
    | cons c r => simp [dropDigits, digit?_eq_none_of_not_isDigit (hr c rfl)]
  | cons d ds ih =>
    rw [List.cons_append, dropDigits, if_pos (by simp [digit?_of_isDigit (hds d (by simp))]),
      ih fun c hc => hds c (List.mem_cons_of_mem d hc)]

/-- Fractional seconds: a point and one or more digits, of which the first nine give the
nanoseconds; or nothing. -/
inductive FractionText : List Char → Nat → Prop
  | none : FractionText [] 0
  | digits {fs : List Char} {n : Nat} : Digits (fs.take 9) n → (∀ c ∈ fs, c.isDigit) →
      FractionText ('.' :: fs) (n * 10 ^ (9 - fs.length))

/-- The fraction reader takes the digits after the point, scales the first nine to
nanoseconds and skips the others. -/
theorem fraction_eq_ok_iff {cs r : List Char} {v : Nat} :
    fraction cs = .ok (v, r) ↔ ∃ fs n, cs = fs ++ r ∧ Digits (fs.take 9) n ∧
      (∀ c ∈ fs, c.isDigit) ∧ (∀ c ∈ r.head?, c.isDigit = false) ∧
      v = n * 10 ^ (9 - fs.length) := by
  unfold fraction
  simp only [Except.bind_eq_ok]
  constructor
  · rintro ⟨⟨n, rest⟩, hn, h⟩
    simp only [Except.ok.injEq, Prod.mk.injEq] at h
    obtain ⟨rfl, rfl⟩ := h
    obtain ⟨ds, rfl, hds, h1, h9, hmax⟩ := (number_eq_ok_iff (le_refl 1) (by omega)).mp hn
    obtain ⟨more, hrest, hmore, hr⟩ := dropDigits_split rest
    -- fewer than nine digits are read only when no digit follows them
    have hmore_nil : ds.length < 9 → more = [] := by
      intro hlt
      cases more with
      | nil => rfl
      | cons c more =>
        have := hmax hlt c (by rw [hrest]; rfl)
        rw [hmore c List.mem_cons_self] at this
        cases this
    have htake : (ds ++ more).take 9 = ds := by
      by_cases hlt : ds.length < 9
      · rw [hmore_nil hlt, List.append_nil, List.take_of_length_le (by omega)]
      · rw [List.take_append_of_le_length (by omega), List.take_of_length_le (by omega)]
    refine ⟨ds ++ more, n, by rw [List.append_assoc, ← hrest], by rw [htake]; exact hds, ?_, hr, ?_⟩
    · intro c hc
      rcases List.mem_append.mp hc with hc | hc
      · exact hds.isDigit c hc
      · exact hmore c hc
    · congr 2
      by_cases hlt : ds.length < 9
      · rw [hmore_nil hlt]
        simp
      · simp only [List.length_append]
        omega
  · rintro ⟨fs, n, rfl, hn, hfs, hr, rfl⟩
    have hsplit := List.take_append_drop 9 fs
    have hlen : (fs.take 9).length ≤ 9 := by simp
    refine ⟨(n, fs.drop 9 ++ r), ?_, ?_⟩
    · apply (number_eq_ok_iff (le_refl 1) (by omega)).mpr
      refine ⟨fs.take 9, by rw [← List.append_assoc, hsplit], hn,
        List.length_pos_of_ne_nil hn.ne_nil, hlen, fun hlt => ?_⟩
      have hdrop : fs.drop 9 = [] := List.drop_eq_nil_of_le (by simp at hlt; omega)
      rw [hdrop, List.nil_append]
      exact hr
    · have hdrop := @dropDigits_digits (fs.drop 9) r
        (fun c hc => hfs c (List.mem_of_mem_drop hc)) hr
      simp only [hdrop, List.length_append, List.length_drop, Except.ok.injEq, Prod.mk.injEq,
        and_true]
      congr 2
      omega

/-! ## Offsets -/

/-- A time offset as RFC 3339 writes it, in seconds east of UTC: `Z` or `z`, or a sign (`+`,
`-` or the minus sign U+2212), two hour digits, a colon and two minute digits under 60. -/
inductive OffsetText : List Char → Int → Prop
  | utc {c : Char} : c = 'Z' ∨ c = 'z' → OffsetText [c] 0
  | east {hs ms : List Char} {h m : Nat} : Digits hs h → hs.length = 2 → Digits ms m →
      ms.length = 2 → m < 60 → OffsetText ('+' :: (hs ++ ':' :: ms)) (h * 3600 + m * 60)
  | west {c : Char} {hs ms : List Char} {h m : Nat} : c = '-' ∨ c = '−' → Digits hs h →
      hs.length = 2 → Digits ms m → ms.length = 2 → m < 60 →
      OffsetText (c :: (hs ++ ':' :: ms)) (-(h * 3600 + m * 60))

/-- A signed offset is read: `+` east of UTC, `-` or the minus sign west. -/
theorem offset_signed {c : Char} (hc : c = '+' ∨ c = '-' ∨ c = '−') {hs ms : List Char}
    {h m : Nat} (hh : Digits hs h) (hhl : hs.length = 2) (hm : Digits ms m)
    (hml : ms.length = 2) (hm60 : m < 60) (r : List Char) :
    offset (c :: (hs ++ ':' :: (ms ++ r))) =
      .ok (if c = '+' then (h * 3600 + m * 60 : Int) else -(h * 3600 + m * 60 : Int), r) := by
  obtain ⟨h₁, h₂, rfl⟩ := length_eq_two hhl
  obtain ⟨m₁, m₂, rfl⟩ := length_eq_two hml
  obtain ⟨a, b, ha, hb, rfl⟩ := digits_two_iff.mp hm
  have hz : ¬ (c = 'Z' ∨ c = 'z') := by rcases hc with rfl | rfl | rfl <;> decide
  have hlen₁ := length_le_byteLength (h₁ :: h₂ :: ':' :: m₁ :: m₂ :: r)
  have hlen₂ := length_le_byteLength (m₁ :: m₂ :: r)
  have hb9 := digit?_le_nine hb
  simp only [List.cons_append, List.nil_append]
  unfold offset
  dsimp only
  rw [if_neg hz, if_pos hc, if_neg (by simp at hlen₁ ⊢; omega)]
  simp only [twoDigits_eq_ok_iff.mpr hh]
  rw [if_neg (by simp at hlen₂ ⊢; omega)]
  simp only [ha, hb, if_neg (show ¬ a ≥ 6 by omega)]
  by_cases hplus : c = '+' <;> simp [hplus]

/-- Every offset text is read as the offset it names. -/
theorem offset_of_offsetText {os : List Char} {o : Int} (h : OffsetText os o) (r : List Char) :
    offset (os ++ r) = .ok (o, r) := by
  cases h with
  | utc hc => simp [offset, hc]
  | east hh hhl hm hml hm60 =>
    rw [List.cons_append, List.append_assoc, List.cons_append,
      offset_signed (.inl rfl) hh hhl hm hml hm60, if_pos rfl]
  | @west c hs ms h m hc hh hhl hm hml hm60 =>
    have hplus : ¬ c = '+' := by rcases hc with rfl | rfl <;> decide
    rw [List.cons_append, List.append_assoc, List.cons_append,
      offset_signed (.inr hc) hh hhl hm hml hm60, if_neg hplus]

/-- What the offset reader takes is an offset text. -/
theorem offsetText_of_offset {cs r : List Char} {o : Int} (h : offset cs = .ok (o, r)) :
    ∃ os, cs = os ++ r ∧ OffsetText os o := by
  cases cs with
  | nil => cases h
  | cons c rest =>
  unfold offset at h
  dsimp only at h
  by_cases hz : c = 'Z' ∨ c = 'z'
  · rw [if_pos hz] at h
    cases h
    exact ⟨[c], rfl, .utc hz⟩
  rw [if_neg hz] at h
  by_cases hsign : c = '+' ∨ c = '-' ∨ c = '−'
  swap
  · rw [if_neg hsign] at h
    cases h
  rw [if_pos hsign] at h
  split at h
  · cases h
  split at h
  case h_2 => cases h
  rename_i h₁ h₂ r₁ _
  split at h
  · cases h
  rename_i hours hhours
  split at h
  · cases h
  case h_3 => cases h
  rename_i r₂
  split at h
  · cases h
  split at h
  case h_2 => cases h
  rename_i m₁ m₂ r₃ _
  split at h
  case h_2 => cases h
  rename_i a b ha hb
  split at h
  · cases h
  rename_i ha6
  cases h
  -- the hour and minute digits make an offset text, east or west by the sign
  have hb9 := digit?_le_nine hb
  have hm : Digits [m₁, m₂] (10 * a + b) := digits_two_iff.mpr ⟨a, b, ha, hb, rfl⟩
  have hh := twoDigits_eq_ok_iff.mp hhours
  by_cases hplus : c = '+'
  · subst hplus
    refine ⟨'+' :: ([h₁, h₂] ++ ':' :: [m₁, m₂]), rfl, ?_⟩
    simpa using OffsetText.east hh rfl hm rfl (by omega)
  · have hc : c = '-' ∨ c = '−' := by tauto
    refine ⟨c :: ([h₁, h₂] ++ ':' :: [m₁, m₂]), rfl, ?_⟩
    simpa [hplus] using OffsetText.west hc hh rfl hm rfl (by omega)

/-- The offset reader takes exactly an offset text and leaves what follows. -/
theorem offset_eq_ok_iff {cs r : List Char} {o : Int} :
    offset cs = .ok (o, r) ↔ ∃ os, cs = os ++ r ∧ OffsetText os o := by
  constructor
  · exact offsetText_of_offset
  · rintro ⟨os, rfl, hos⟩
    exact offset_of_offsetText hos r

/-- Every offset text starts with a character that neither is a digit nor starts a fraction. -/
theorem OffsetText.head {os : List Char} {o : Int} (h : OffsetText os o) :
    ∃ c cs, os = c :: cs ∧ c ≠ '.' ∧ c.isDigit = false := by
  cases h with
  | utc hc => exact ⟨_, _, rfl, by rcases hc with rfl | rfl <;> decide,
      by rcases hc with rfl | rfl <;> decide⟩
  | east => exact ⟨_, _, rfl, by decide, by decide⟩
  | west hc => exact ⟨_, _, rfl, by rcases hc with rfl | rfl <;> decide,
      by rcases hc with rfl | rfl <;> decide⟩

/-! ## Times of day -/

/-- A fraction is less than a second. -/
theorem FractionText.lt {fs : List Char} {f : Nat} (h : FractionText fs f) : f < 1000000000 := by
  cases h with
  | none => decide
  | @digits fs n hn _ =>
    have hlt := hn.lt
    rw [List.length_take] at hlt
    calc n * 10 ^ (9 - fs.length) < 10 ^ min 9 fs.length * 10 ^ (9 - fs.length) :=
          Nat.mul_lt_mul_of_pos_right hlt (Nat.pow_pos (by decide))
      _ = 10 ^ 9 := by rw [← Nat.pow_add]; congr 1; omega
      _ = 1000000000 := by norm_num

/-- With a fraction under a second, a time is valid exactly when its hour, minute and second
are: a second of 60 counts as 59 with one more second of fraction. -/
theorem timeIsValid_leap {h m s f : Nat} (hf : f < 1000000000) :
    timeIsValid h m (if s = 60 then 59 else s) ((if s = 60 then 1000000000 else 0) + f) = true ↔
      h < 24 ∧ m < 60 ∧ s ≤ 60 := by
  unfold timeIsValid
  split_ifs with hs
  · simp only [Bool.and_eq_true, decide_eq_true_eq, beq_self_eq_true, Bool.or_true, and_true]
    omega
  · simp only [Bool.and_eq_true, decide_eq_true_eq, Bool.or_eq_true, beq_iff_eq]
    omega

/-! ## Date-times -/

/-- A date as RFC 3339 writes it: four year digits, two month digits and two day digits,
naming a valid date. -/
inductive FullDateText : List Char → Date → Prop
  | mk {ys ms ds : List Char} {y m d : Nat} : Digits ys y → ys.length = 4 → Digits ms m →
      ms.length = 2 → Digits ds d → ds.length = 2 → (Date.mk y m d).isValid →
      FullDateText (ys ++ '-' :: (ms ++ '-' :: ds)) ⟨y, m, d⟩

/-- A time of day as RFC 3339 writes it: hour, minute and second of two digits each, then a
fraction of a second; a second of 60, a leap second, is read as second 59 with one more second
of fraction. -/
inductive PartialTimeText : List Char → Nat → Nat → Nat → Nat → Prop
  | mk {hs ms ss fs : List Char} {h m s f : Nat} : Digits hs h → hs.length = 2 → h < 24 →
      Digits ms m → ms.length = 2 → m < 60 → Digits ss s → ss.length = 2 → s ≤ 60 →
      FractionText fs f →
      PartialTimeText (hs ++ ':' :: (ms ++ ':' :: (ss ++ fs))) h m (if s = 60 then 59 else s)
        ((if s = 60 then 1000000000 else 0) + f)

/-- The RFC 3339 date-times the reader takes, with the date-time each names: a full date, `T`,
`t` or a space, a partial time and an offset within `±23:59`. -/
inductive DateTimeText : List Char → DateTime → Prop
  | mk {ds ts os : List Char} {sep : Char} {d : Date} {h m s f : Nat} {off : Int} :
      FullDateText ds d → (sep = 'T' ∨ sep = 't' ∨ sep = ' ') → PartialTimeText ts h m s f →
      OffsetText os off → -maxOffset ≤ off → off ≤ maxOffset →
      DateTimeText (ds ++ sep :: (ts ++ os)) ⟨d, h, m, s, f, off⟩

/-- What the prefix reader takes: a full date, a separator, a partial time and an offset. -/
theorem dateTimeParts_of_readDateTimePrefix {cs r : List Char} {t : DateTime}
    (h : readDateTimePrefix cs = .ok (t, r)) :
    ∃ ds sep ts os, cs = ds ++ sep :: (ts ++ (os ++ r)) ∧ FullDateText ds t.date ∧
      (sep = 'T' ∨ sep = 't' ∨ sep = ' ') ∧
      PartialTimeText ts t.hour t.minute t.second t.nanos ∧ OffsetText os t.offset := by
  unfold readDateTimePrefix at h
  split at h
  · cases h
  simp only [Except.bind_eq_ok] at h
  obtain ⟨⟨year, r1⟩, hyear, r2, hr1, ⟨month, r3⟩, hmonth, r4, hr3, ⟨day, r5⟩, hday, h⟩ := h
  dsimp only at h hr1 hr3
  split at h
  case h_2 => cases h
  rename_i d hd
  simp only [Except.bind_eq_ok, Except.ok.injEq, exists_eq_left'] at h
  obtain ⟨r6, hsep, ⟨hour, r7⟩, hhour, r8, hr7, ⟨minute, r9⟩, hminute, r10, hr9, ⟨sec, r11⟩,
    hsec, h⟩ := h
  dsimp only at h hr7 hr9
  have hpair : (if sec = 60 then (59, 1000000000) else (sec, 0)) =
      (if sec = 60 then 59 else sec, if sec = 60 then 1000000000 else 0) := by
    split_ifs <;> rfl
  rw [hpair] at h
  dsimp only at h
  -- with a fraction or without, the time of day is checked before the offset is read
  have key : ∃ fs f r12 off, r11 = fs ++ r12 ∧ FractionText fs f ∧
      timeIsValid hour minute (if sec = 60 then 59 else sec)
        ((if sec = 60 then 1000000000 else 0) + f) = true ∧ offset r12 = .ok (off, r) ∧
      t = ⟨d, hour, minute, if sec = 60 then 59 else sec,
        (if sec = 60 then 1000000000 else 0) + f, off⟩ := by
    split at h
    · simp only [Except.bind_eq_ok, Except.ok.injEq, exists_eq_left'] at h
      obtain ⟨⟨n, r12⟩, hfrac, h⟩ := h
      obtain ⟨htime, h⟩ := checked_eq_ok h
      simp only [Except.bind_eq_ok, Except.ok.injEq, Prod.mk.injEq] at h
      obtain ⟨⟨off, r13⟩, hoff, rfl, rfl⟩ := h
      obtain ⟨fs, f, rfl, hf, hfs, -, rfl⟩ := fraction_eq_ok_iff.mp hfrac
      exact ⟨'.' :: fs, _, _, off, rfl, .digits hf hfs, htime, hoff, rfl⟩
    · simp only [Except.bind_eq_ok, Except.ok.injEq, exists_eq_left'] at h
      obtain ⟨htime, h⟩ := checked_eq_ok h
      simp only [Except.bind_eq_ok, Except.ok.injEq, Prod.mk.injEq] at h
      obtain ⟨⟨off, r13⟩, hoff, rfl, rfl⟩ := h
      exact ⟨[], 0, _, off, rfl, .none, htime, hoff, rfl⟩
  obtain ⟨fs, f, r12, off, rfl, hfs, htime, hoff, rfl⟩ := key
  -- each step of the reader names the characters it took
  obtain ⟨hh24, hm60, hs60⟩ := (timeIsValid_leap hfs.lt).mp htime
  obtain ⟨hvalid, rfl⟩ := ofYmd?_eq_some hd
  obtain ⟨ys, rfl, hys, hysl⟩ := (number_fixed_eq_ok_iff (by decide)).mp hyear
  obtain ⟨ms, rfl, hms, hmsl⟩ := (number_fixed_eq_ok_iff (by decide)).mp hmonth
  obtain ⟨dds, rfl, hdds, hddsl⟩ := (number_fixed_eq_ok_iff (by decide)).mp hday
  obtain ⟨hs, rfl, hhs, hhsl⟩ := (number_fixed_eq_ok_iff (by decide)).mp hhour
  obtain ⟨mins, rfl, hmins, hminsl⟩ := (number_fixed_eq_ok_iff (by decide)).mp hminute
  obtain ⟨ss, rfl, hss, hssl⟩ := (number_fixed_eq_ok_iff (by decide)).mp hsec
  obtain ⟨sep, rfl, hsepc⟩ := separator_eq_ok_iff.mp hsep
  obtain ⟨os, rfl, hos⟩ := offset_eq_ok_iff.mp hoff
  rw [literal_eq_ok_iff] at hr1 hr3 hr7 hr9
  subst hr1 hr3 hr7 hr9
  refine ⟨ys ++ '-' :: (ms ++ '-' :: dds), sep, hs ++ ':' :: (mins ++ ':' :: (ss ++ fs)), os,
    by simp, .mk hys hysl hms hmsl hdds hddsl hvalid, hsepc,
    .mk hhs hhsl hh24 hmins hminsl hm60 hss hssl hs60 hfs, hos⟩

/-- Every full date, separator, partial time and offset is read as the date-time they name. -/
theorem readDateTimePrefix_of_parts {ds ts os : List Char} {sep : Char} {d : Date}
    {h m s f : Nat} {off : Int} (hd : FullDateText ds d) (hsep : sep = 'T' ∨ sep = 't' ∨ sep = ' ')
    (ht : PartialTimeText ts h m s f) (ho : OffsetText os off) (r : List Char) :
    readDateTimePrefix (ds ++ sep :: (ts ++ (os ++ r))) = .ok (⟨d, h, m, s, f, off⟩, r) := by
  cases hd with
  | @mk ys ms dds y mo dd hys hysl hms hmsl hdds hddsl hvalid =>
  cases ht with
  | @mk hs mins ss fs hh mi se fr hhs hhsl hh24 hmins hminsl hmi60 hss hssl hse60 hfr =>
  obtain ⟨c, cs, rfl, hcdot, hcdig⟩ := ho.head
  unfold readDateTimePrefix
  simp only [List.append_assoc, List.cons_append]
  -- the text is long enough: nineteen characters before the offset
  have hlen := length_le_byteLength (ys ++ '-' :: (ms ++ '-' :: (dds ++ sep :: (hs ++ ':' ::
    (mins ++ ':' :: (ss ++ (fs ++ c :: (cs ++ r))))))))
  simp only [List.length_append, List.length_cons, hysl, hmsl, hddsl, hhsl, hminsl, hssl] at hlen
  rw [if_neg (by omega)]
  rw [(number_fixed_eq_ok_iff (by decide)).mpr ⟨ys, rfl, hys, hysl⟩]
  simp only [bind, Except.bind, literal, if_true]
  rw [(number_fixed_eq_ok_iff (by decide)).mpr ⟨ms, rfl, hms, hmsl⟩]
  simp only [if_true]
  rw [(number_fixed_eq_ok_iff (by decide)).mpr ⟨dds, rfl, hdds, hddsl⟩]
  simp only [Date.ofYmd?, hvalid, if_true, separator_eq_ok_iff.mpr ⟨sep, rfl, hsep⟩]
  rw [(number_fixed_eq_ok_iff (by decide)).mpr ⟨hs, rfl, hhs, hhsl⟩]
  simp only [if_true]
  rw [(number_fixed_eq_ok_iff (by decide)).mpr ⟨mins, rfl, hmins, hminsl⟩]
  simp only [if_true]
  rw [(number_fixed_eq_ok_iff (by decide)).mpr ⟨ss, rfl, hss, hssl⟩]
  have hpair : (if se = 60 then (59, 1000000000) else (se, 0)) =
      (if se = 60 then 59 else se, if se = 60 then 1000000000 else 0) := by
    split_ifs <;> rfl
  have htime := (timeIsValid_leap hfr.lt).mpr ⟨hh24, hmi60, hse60⟩
  have hoff := offset_of_offsetText ho r
  rw [List.cons_append] at hoff
  simp only [hpair]
  -- the offset follows the seconds, or the digits of the fraction
  cases hfr with
  | none =>
    simp only [List.nil_append, Nat.add_zero] at htime ⊢
    split
    · rename_i heq
      exact absurd (List.cons.inj heq).1 hcdot
    · simp only [htime, Bool.not_true, Bool.false_eq_true, if_false, hoff]
  | @digits fs n hn hfs =>
    split
    · rename_i r' heq
      obtain ⟨-, rfl⟩ := List.cons.inj heq
      rw [List.append_eq, fraction_eq_ok_iff.mpr ⟨fs, n, rfl, hn, hfs, head_cons_not_digit hcdig (cs ++ r), rfl⟩]
      simp only [htime, Bool.not_true, Bool.false_eq_true, if_false, hoff]
    · rename_i hne
      exact absurd rfl (hne _)

/-- The prefix reader takes exactly a full date, a separator, a partial time and an offset, and
leaves what follows. -/
theorem readDateTimePrefix_eq_ok_iff {cs r : List Char} {t : DateTime} :
    readDateTimePrefix cs = .ok (t, r) ↔ ∃ ds sep ts os, cs = ds ++ sep :: (ts ++ (os ++ r)) ∧
      FullDateText ds t.date ∧ (sep = 'T' ∨ sep = 't' ∨ sep = ' ') ∧
      PartialTimeText ts t.hour t.minute t.second t.nanos ∧ OffsetText os t.offset := by
  constructor
  · exact dateTimeParts_of_readDateTimePrefix
  · rintro ⟨ds, sep, ts, os, rfl, hd, hsep, ht, ho⟩
    exact readDateTimePrefix_of_parts hd hsep ht ho r

/-- The date-time reader takes exactly the RFC 3339 date-time texts, each as the date-time it
names. -/
theorem readDateTime_eq_ok_iff {s : String} {t : DateTime} :
    readDateTime s = .ok t ↔ DateTimeText s.toList t := by
  unfold readDateTime
  simp only [Except.bind_eq_ok]
  constructor
  · rintro ⟨⟨t', rest⟩, hpre, h⟩
    dsimp only at h
    split at h
    · cases h
    rename_i hrest
    split at h
    · cases h
    rename_i hoff
    cases h
    -- nothing follows the offset, which lies within its bounds
    have hr : rest = [] := by simpa using hrest
    subst hr
    obtain ⟨ds, sep, ts, os, hs, hd, hsep, ht, ho⟩ := readDateTimePrefix_eq_ok_iff.mp hpre
    rw [hs, List.append_nil]
    exact .mk hd hsep ht ho (by omega) (by omega)
  · intro h
    generalize hcs : s.toList = cs at h
    cases h with
    | @mk ds ts os sep d hh mi sc f off hd hsep ht ho hlo hhi =>
    have hpre := readDateTimePrefix_of_parts hd hsep ht ho []
    rw [List.append_nil] at hpre
    refine ⟨(⟨d, hh, mi, sc, f, off⟩, []), hpre, ?_⟩
    simp only [List.isEmpty_nil, Bool.not_true, Bool.false_eq_true, if_false]
    rw [if_neg (by omega)]

/-- Every RFC 3339 date-time has a colon, which no date text has. -/
theorem DateTimeText.colon_mem {cs : List Char} {t : DateTime} (h : DateTimeText cs t) :
    ':' ∈ cs := by
  cases h with
  | mk _ _ ht _ _ _ =>
  cases ht with
  | mk => simp

end Calendar

end Attest
