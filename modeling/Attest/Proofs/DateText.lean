import Attest.Proofs.HexText

/-!
# The texts of dates

`Calendar.readDate` reads `%Y-%m-%d` the lenient way: a year of one to four digits, or a sign
and any number of digits; a month and a day of one or two digits; blanks before each number.
`DayText` states that grammar without the reader, and `readDate_eq_ok_iff` proves that the
reader takes exactly the texts of `DayText`, each as the date it names.

The reader is built from `number`, which reads digits up to a bound, and `Text.dropBlanks`.
Both are inverted once (`number_eq_ok_iff`, `dropBlanks_split`); the date's grammar is then
read off the steps of the reader in order.
-/

namespace Attest

/-! ## Digits -/

/-- One or more ASCII digits, and the number they write in decimal. -/
structure Digits (ds : List Char) (n : Nat) : Prop where
  ne_nil : ds ≠ []
  isDigit : ∀ c ∈ ds, c.isDigit
  value : n = Nat.ofDigitChars 10 ds 0

theorem ofDigitChars_lt {ds : List Char} (hds : ∀ c ∈ ds, c.isDigit) (k : Nat) :
    Nat.ofDigitChars 10 ds k < (k + 1) * 10 ^ ds.length := by
  induction ds generalizing k with
  | nil => simp
  | cons c ds ih =>
    have h9 := Calendar.digit?_le_nine (Calendar.digit?_of_isDigit (hds c List.mem_cons_self))
    have hlt := ih (fun x hx => hds x (List.mem_cons_of_mem c hx)) (10 * k + (c.toNat - '0'.toNat))
    rw [Nat.ofDigitChars_cons, List.length_cons, Nat.pow_succ]
    calc _ < (10 * k + (c.toNat - '0'.toNat) + 1) * 10 ^ ds.length := hlt
      _ ≤ 10 * (k + 1) * 10 ^ ds.length := Nat.mul_le_mul_right _ (by omega)
      _ = (k + 1) * (10 ^ ds.length * 10) := by ring

/-- `n` digits write a number under `10 ^ n`. -/
theorem Digits.lt {ds : List Char} {n : Nat} (h : Digits ds n) : n < 10 ^ ds.length := by
  simpa [h.value] using ofDigitChars_lt h.isDigit 0

namespace Calendar

/-! ## Numbers -/

theorem digit?_eq_some_iff {c : Char} {d : Nat} :
    digit? c = some d ↔ c.isDigit ∧ d = c.toNat - '0'.toNat := by
  cases hc : c.isDigit
  · simp [digit?_eq_none_of_not_isDigit hc]
  · simp [digit?_of_isDigit hc, eq_comm]

theorem isDigit_eq_false_of_digit? {c : Char} (h : digit? c = none) : c.isDigit = false := by
  cases hc : c.isDigit
  · rfl
  · simp [digit?_of_isDigit hc] at h

/-- What `number.go` reads from count `i` on: digits up to the first character that is none, or
up to `mx` digits in all, and at least `mn` in all. -/
theorem number_go_eq_ok {mn mx : Nat} (hmn : mn ≤ mx) {cs : List Char} {i n v : Nat}
    {r : List Char} (hi : i ≤ mx) (h : number.go mn mx i n cs = .ok (v, r)) :
    ∃ ds, cs = ds ++ r ∧ (∀ c ∈ ds, c.isDigit) ∧ mn ≤ i + ds.length ∧ i + ds.length ≤ mx ∧
      (i + ds.length < mx → ∀ c ∈ r.head?, c.isDigit = false) ∧
      v = Nat.ofDigitChars 10 ds n := by
  induction cs generalizing i n with
  | nil =>
    unfold number.go at h
    split at h
    · cases h
    · cases h
      exact ⟨[], rfl, by simp, by omega, by omega, by simp, rfl⟩
  | cons c cs ih =>
    unfold number.go at h
    split at h
    · -- the bound is reached: the rest is not read
      cases h
      exact ⟨[], rfl, by simp, by omega, by omega, fun hlt => absurd hlt (by omega), rfl⟩
    · split at h
      · rename_i d hd
        obtain ⟨hdig, rfl⟩ := digit?_eq_some_iff.mp hd
        obtain ⟨ds, rfl, hds, hmin, hmax, hr, rfl⟩ := ih (by omega) h
        refine ⟨c :: ds, rfl, ?_, by simp; omega, by simp; omega, ?_, ?_⟩
        · intro x hx
          rcases List.mem_cons.mp hx with rfl | hx
          · exact hdig
          · exact hds x hx
        · intro hlt
          exact hr (by simp at hlt; omega)
        · rw [Nat.ofDigitChars_cons]
      · rename_i hd
        split at h
        · cases h
        · cases h
          refine ⟨[], rfl, by simp, by omega, by omega, fun _ x hx => ?_, rfl⟩
          simp only [List.head?_cons, Option.mem_def, Option.some.injEq] at hx
          exact hx ▸ isDigit_eq_false_of_digit? hd

theorem length_le_byteLength (cs : List Char) : cs.length ≤ byteLength cs := by
  have h : ∀ (k : Nat) (l : List Char), k + l.length ≤ l.foldl (fun n c => n + c.utf8Size) k := by
    intro k l
    induction l generalizing k with
    | nil => simp
    | cons d l ih =>
      have := ih (k + d.utf8Size)
      have := Char.utf8Size_pos d
      simp only [List.length_cons, List.foldl_cons]
      omega
  simpa [byteLength] using h 0 cs

/-- `number mn mx` reads between `mn` and `mx` digits, as many as there are up to `mx`. -/
theorem number_eq_ok_iff {mn mx : Nat} (h1 : 1 ≤ mn) (hmn : mn ≤ mx) {cs r : List Char}
    {v : Nat} :
    number mn mx cs = .ok (v, r) ↔ ∃ ds, cs = ds ++ r ∧ Digits ds v ∧ mn ≤ ds.length ∧
      ds.length ≤ mx ∧ (ds.length < mx → ∀ c ∈ r.head?, c.isDigit = false) := by
  constructor
  · intro h
    unfold number at h
    split at h
    · cases h
    · obtain ⟨ds, rfl, hds, hmin, hmax, hr, rfl⟩ := number_go_eq_ok hmn (Nat.zero_le _) h
      simp only [Nat.zero_add] at hmin hmax hr
      have hne : ds ≠ [] := fun h => by simp [h] at hmin; omega
      exact ⟨ds, rfl, ⟨hne, hds, rfl⟩, hmin, hmax, hr⟩
  · rintro ⟨ds, rfl, ⟨-, hds, rfl⟩, hmin, hmax, hr⟩
    have hlen := length_le_byteLength (ds ++ r)
    unfold number
    rw [if_neg (by simp at hlen; omega)]
    exact number_go_digits mn mx hds 0 0 (by omega) (by omega) (by simpa using hr)

/-! ## Blanks -/

/-- A list is its leading blanks and what `Text.dropBlanks` leaves. -/
theorem dropBlanks_split (cs : List Char) :
    ∃ b, cs = b ++ Text.dropBlanks cs ∧ ∀ c ∈ b, Text.isBlank c := by
  induction cs with
  | nil => exact ⟨[], rfl, by simp⟩
  | cons c cs ih =>
    by_cases hc : Text.isBlank c
    · obtain ⟨b, hb, hbl⟩ := ih
      refine ⟨c :: b, ?_, ?_⟩
      · rw [Text.dropBlanks, if_pos hc, List.cons_append, ← hb]
      · intro x hx
        rcases List.mem_cons.mp hx with rfl | hx
        · exact hc
        · exact hbl x hx
    · exact ⟨[], by simp [Text.dropBlanks, hc], by simp⟩

theorem dropBlanks_blanks {b cs : List Char} (hb : ∀ c ∈ b, Text.isBlank c)
    (hcs : ∀ c ∈ cs.head?, Text.isBlank c = false) : Text.dropBlanks (b ++ cs) = cs := by
  rw [Hex.dropBlanks_blanks_append hb]
  cases cs with
  | nil => rfl
  | cons c cs => exact dropBlanks_of_not_blank (hcs c rfl) cs

/-! ## Years -/

/-- A year as the date reader takes it: one to four digits, or a sign and any number of
digits. -/
inductive YearText : List Char → Int → Prop
  | digits {ds : List Char} {n : Nat} : Digits ds n → ds.length ≤ 4 → YearText ds n
  | minus {ds : List Char} {n : Nat} : Digits ds n → YearText ('-' :: ds) (-(n : Int))
  | plus {ds : List Char} {n : Nat} : Digits ds n → YearText ('+' :: ds) n

theorem YearText.mem {ys : List Char} {y : Int} (h : YearText ys y) {c : Char} (hc : c ∈ ys) :
    c.isDigit ∨ c = '-' ∨ c = '+' := by
  cases h with
  | digits hd _ => exact .inl (hd.isDigit c hc)
  | minus hd =>
    rcases List.mem_cons.mp hc with rfl | hc
    · exact .inr (.inl rfl)
    · exact .inl (hd.isDigit c hc)
  | plus hd =>
    rcases List.mem_cons.mp hc with rfl | hc
    · exact .inr (.inr rfl)
    · exact .inl (hd.isDigit c hc)

/-- A year text starts with a digit or a sign, so with no blank. -/
theorem YearText.head_not_blank {ys : List Char} {y : Int} (h : YearText ys y) (r : List Char) :
    ∀ c ∈ (ys ++ r).head?, Text.isBlank c = false := by
  intro c hc
  obtain ⟨x, xs, rfl⟩ : ∃ x xs, ys = x :: xs := by
    cases h with
    | digits hd _ => exact List.exists_cons_of_ne_nil hd.ne_nil
    | minus _ => exact ⟨_, _, rfl⟩
    | plus _ => exact ⟨_, _, rfl⟩
  simp only [List.cons_append, List.head?_cons, Option.mem_def, Option.some.injEq] at hc
  subst hc
  rcases h.mem List.mem_cons_self with hd | rfl | rfl
  · exact isBlank_eq_false_of_isDigit hd
  · rfl
  · rfl

theorem Except.map_eq_ok {ε α β : Type} {x : Except ε α} {f : α → β} {b : β} :
    x.map f = .ok b ↔ ∃ a, x = .ok a ∧ f a = b := by
  cases x <;> simp [Except.map]

/-- What the year reader takes: blanks, then a year text. -/
theorem signedYear_eq_ok {cs r : List Char} {y : Int} (h : signedYear cs = .ok (y, r)) :
    ∃ b ys, cs = b ++ (ys ++ r) ∧ (∀ c ∈ b, Text.isBlank c) ∧ YearText ys y := by
  obtain ⟨b, hcs, hb⟩ := dropBlanks_split cs
  unfold signedYear at h
  split at h
  · rename_i r0 heq
    obtain ⟨⟨v, r'⟩, hn, hvr⟩ := Except.map_eq_ok.mp h
    cases hvr
    obtain ⟨ds, rfl, hds, -⟩ := (number_eq_ok_iff (le_refl 1) (by omega)).mp hn
    exact ⟨b, '-' :: ds, by rw [hcs, heq]; rfl, hb, .minus hds⟩
  · rename_i r0 heq
    obtain ⟨⟨v, r'⟩, hn, hvr⟩ := Except.map_eq_ok.mp h
    cases hvr
    obtain ⟨ds, rfl, hds, -⟩ := (number_eq_ok_iff (le_refl 1) (by omega)).mp hn
    exact ⟨b, '+' :: ds, by rw [hcs, heq]; rfl, hb, .plus hds⟩
  · obtain ⟨⟨v, r'⟩, hn, hvr⟩ := Except.map_eq_ok.mp h
    cases hvr
    obtain ⟨ds, hds, hdig, -, hmax, -⟩ := (number_eq_ok_iff (le_refl 1) (by omega)).mp hn
    exact ⟨b, ds, by rw [hcs, hds], hb, .digits hdig hmax⟩

/-- A year text after blanks is read, up to a character that is no digit. -/
theorem signedYear_of_yearText {b ys r : List Char} {y : Int} (hb : ∀ c ∈ b, Text.isBlank c)
    (hy : YearText ys y) (hr : ∀ c ∈ r.head?, c.isDigit = false) :
    signedYear (b ++ (ys ++ r)) = .ok (y, r) := by
  unfold signedYear
  rw [dropBlanks_blanks hb (hy.head_not_blank r)]
  cases hy with
  | digits hd hlen =>
    obtain ⟨x, xs, rfl⟩ := List.exists_cons_of_ne_nil hd.ne_nil
    have hx := hd.isDigit x List.mem_cons_self
    have hread := (number_eq_ok_iff (le_refl 1) (show 1 ≤ 4 by omega)).mpr
      ⟨x :: xs, rfl, hd, by simp, hlen, fun _ => hr⟩
    rw [List.cons_append] at hread ⊢
    split
    · rename_i heq
      simp only [List.cons.injEq] at heq
      rw [heq.1] at hx
      simp at hx
    · rename_i heq
      simp only [List.cons.injEq] at heq
      rw [heq.1] at hx
      simp at hx
    · rw [hread]
      rfl
  | @minus ds n hd =>
    have hread := (number_eq_ok_iff (le_refl 1) (show 1 ≤ (ds ++ r).length + 1 by omega)).mpr
      ⟨_, rfl, hd, List.length_pos_of_ne_nil hd.ne_nil, by simp; omega, fun _ => hr⟩
    simp only [List.cons_append, hread]
    rfl
  | @plus ds n hd =>
    have hread := (number_eq_ok_iff (le_refl 1) (show 1 ≤ (ds ++ r).length + 1 by omega)).mpr
      ⟨_, rfl, hd, List.length_pos_of_ne_nil hd.ne_nil, by simp; omega, fun _ => hr⟩
    simp only [List.cons_append, hread]
    rfl

/-! ## Dates -/

theorem literal_eq_ok_iff {c : Char} {cs r : List Char} : literal c cs = .ok r ↔ cs = c :: r := by
  cases cs with
  | nil => simp [literal]
  | cons x rest =>
    simp only [literal]
    split_ifs with hx
    · simp [hx]
    · simp [hx]

/-- The texts the date reader takes, with the date each names: blanks and a year, a hyphen,
blanks and a month of one or two digits, a hyphen, blanks and a day of one or two digits, the
three naming a valid date. -/
inductive DayText : List Char → Date → Prop
  | mk {b₁ ys b₂ ms b₃ ds : List Char} {y : Int} {m n : Nat} :
      (∀ c ∈ b₁, Text.isBlank c) → YearText ys y →
      (∀ c ∈ b₂, Text.isBlank c) → Digits ms m → ms.length ≤ 2 →
      (∀ c ∈ b₃, Text.isBlank c) → Digits ds n → ds.length ≤ 2 →
      (Date.mk y m n).isValid →
      DayText (b₁ ++ (ys ++ '-' :: (b₂ ++ (ms ++ '-' :: (b₃ ++ ds))))) ⟨y, m, n⟩

/-- What the date reader takes is a date text. -/
theorem dayText_of_readDate {s : String} {d : Date} (h : readDate s = .ok d) :
    DayText s.toList d := by
  unfold readDate at h
  simp only [Except.bind_eq_ok] at h
  obtain ⟨⟨year, r1⟩, hyear, h⟩ := h
  obtain ⟨b₁, ys, hs, hb₁, hys⟩ := signedYear_eq_ok hyear
  dsimp only at h
  split at h
  · simp [bind, Except.bind] at h
  simp only [Except.bind_eq_ok] at h
  obtain ⟨r2, hr1, ⟨month, r3⟩, hmonth, h⟩ := h
  obtain ⟨b₂, hr2, hb₂⟩ := dropBlanks_split r2
  obtain ⟨ms, hms, hmd, -, hm2, -⟩ := (number_eq_ok_iff (le_refl 1) (by omega)).mp hmonth
  dsimp only at h
  split at h
  · simp [bind, Except.bind] at h
  simp only [Except.bind_eq_ok] at h
  obtain ⟨r4, hr3, ⟨day, r5⟩, hday, h⟩ := h
  obtain ⟨b₃, hr4, hb₃⟩ := dropBlanks_split r4
  obtain ⟨ds, hds, hdd, -, hd2, -⟩ := (number_eq_ok_iff (le_refl 1) (by omega)).mp hday
  dsimp only at h
  split at h
  · simp [bind, Except.bind] at h
  split at h
  · simp [bind, Except.bind] at h
  rename_i hempty
  have hr5 : r5 = [] := by simpa using hempty
  split at h
  · rename_i d' hd'
    cases h
    obtain ⟨hvalid, rfl⟩ := ofYmd?_eq_some hd'
    rw [hms] at hr2
    rw [hds, hr5, List.append_nil] at hr4
    rw [hs, literal_eq_ok_iff.mp hr1, hr2, literal_eq_ok_iff.mp hr3, hr4]
    exact DayText.mk hb₁ hys hb₂ hmd hm2 hb₃ hdd hd2 hvalid
  · cases h

theorem head_cons_not_digit {c : Char} (hc : c.isDigit = false) (cs : List Char) :
    ∀ x ∈ (c :: cs).head?, x.isDigit = false := by
  intro x hx
  simp only [List.head?_cons, Option.mem_def, Option.some.injEq] at hx
  exact hx ▸ hc

theorem head_not_blank_of_digits {ds : List Char} {n : Nat} (hd : Digits ds n) (r : List Char) :
    ∀ c ∈ (ds ++ r).head?, Text.isBlank c = false := by
  obtain ⟨x, xs, rfl⟩ := List.exists_cons_of_ne_nil hd.ne_nil
  intro c hc
  simp only [List.cons_append, List.head?_cons, Option.mem_def, Option.some.injEq] at hc
  exact hc ▸ isBlank_eq_false_of_isDigit (hd.isDigit x List.mem_cons_self)

/-- Every date text is read as the date it names. -/
theorem readDate_of_dayText {s : String} {d : Date} (h : DayText s.toList d) :
    readDate s = .ok d := by
  generalize hcs : s.toList = cs at h
  cases h with
  | @mk b₁ ys b₂ ms b₃ ds y m n hb₁ hys hb₂ hms hm2 hb₃ hds hd2 hvalid =>
  have hv := hvalid
  simp only [Date.isValid, Bool.and_eq_true, decide_eq_true_eq] at hv
  obtain ⟨⟨⟨⟨⟨hy0, hy1⟩, hm0⟩, hm1⟩, hd0⟩, hd1⟩ := hv
  have h31 := daysInMonth_le_31 y m
  have hmonth := (number_eq_ok_iff (le_refl 1) (show 1 ≤ 2 by omega)).mpr
    ⟨ms, rfl, hms, List.length_pos_of_ne_nil hms.ne_nil, hm2,
      fun _ => head_cons_not_digit (c := '-') (by decide) (b₃ ++ ds)⟩
  have hday := (number_eq_ok_iff (le_refl 1) (show 1 ≤ 2 by omega)).mpr
    ⟨ds, (List.append_nil ds).symm, hds, List.length_pos_of_ne_nil hds.ne_nil, hd2, by simp⟩
  unfold readDate
  rw [hcs, signedYear_of_yearText hb₁ hys (head_cons_not_digit (c := '-') (by decide) _)]
  simp only [bind, Except.bind]
  -- the year of a valid date is far inside the 32-bit range the reader allows
  have hbound : ¬ (y < -Int.pow 2 31 ∨ y ≥ Int.pow 2 31) := by
    have hpow : Int.pow 2 31 = 2147483648 := rfl
    simp only [minYear, maxYear] at hy0 hy1
    omega
  rw [if_neg hbound]
  simp only [literal, if_true]
  rw [dropBlanks_blanks hb₂ (head_not_blank_of_digits hms _), hmonth]
  simp only [if_neg (show ¬ (m < 1 ∨ m > 12) by omega), if_true]
  rw [dropBlanks_blanks hb₃ (by simpa using head_not_blank_of_digits hds []), hday]
  simp only [if_neg (show ¬ (n < 1 ∨ n > 31) by omega), List.isEmpty_nil, Bool.not_true,
    Bool.false_eq_true, if_false, Date.ofYmd?, hvalid, if_true]

/-- The date reader takes exactly the date texts, each as the date it names. -/
theorem readDate_eq_ok_iff {s : String} {d : Date} : readDate s = .ok d ↔ DayText s.toList d :=
  ⟨dayText_of_readDate, readDate_of_dayText⟩

/-- A date text has no colon, which every RFC 3339 date-time has. -/
theorem DayText.colon_not_mem {cs : List Char} {d : Date} (h : DayText cs d) : ':' ∉ cs := by
  have hcolon : Text.isBlank ':' = false := by decide
  cases h with
  | mk hb₁ hys hb₂ hms _ hb₃ hds _ _ =>
  simp only [List.mem_append, List.mem_cons, not_or]
  refine ⟨fun h => ?_, fun h => ?_, by decide, fun h => ?_, fun h => ?_, by decide,
    fun h => ?_, fun h => ?_⟩
  · simpa [hcolon] using hb₁ _ h
  · rcases hys.mem h with h | h | h <;> simp at h
  · simpa [hcolon] using hb₂ _ h
  · simpa using hms.isDigit _ h
  · simpa [hcolon] using hb₃ _ h
  · simpa using hds.isDigit _ h

end Calendar

end Attest
