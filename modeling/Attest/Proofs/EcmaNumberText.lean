import Attest.Binary64.Text
import Mathlib.Tactic.Positivity
import Mathlib.Data.Nat.Log
import Mathlib.Data.Nat.Factorization.Basic

/-!
# Whole numbers as doubles, and their ECMAScript text

Every whole number below `2 ^ 53` is a double exactly, and its shortest digits are the number
itself.  This module follows `Binary64.shortest` through such a double step by step:

* `ofNat_fields`, `ofNat_units`: the double of `n` has the binary exponent of `n` and holds `n`
  units of one exactly;
* `readsBackAs_ofNat`: a decimal `c * 10 ^ k` reads back as it exactly when it equals `n`,
  since the rounding interval is at most a unit wide;
* `decimalExponent_ofNat`: the estimated decimal exponent is corrected to `⌊log₁₀ n⌋`;
* `shortest_ofNat`: the search stops at the digits of `n` without its trailing zeros.

`ecmaText` is the text ECMAScript's Number::toString gives a double, on which RFC 8785 writes
every number.  `ecmaText_ofInt` is the main result: an integer of magnitude below `2 ^ 53`, a
safe integer, is written as its decimal numeral.
-/

namespace Attest

namespace Binary64

/-! ## Number::toString -/

/-- Number::toString of a positive double (steps 4 to 10 of the ECMAScript algorithm): the
shortest digits that read back, positional while the decimal point stays within 21 places
after the first digit and 6 places before it, otherwise one digit, a point, the rest and a
signed exponent. -/
def ecmaMagnitudeText (x : Binary64) : String :=
  if x.isInfinite then "Infinity"
  else
    let (d, k) := shortest x
    let ds := digitText d
    let n := (ds.length : Int) + k
    if -6 < n ∧ n ≤ 21 then positionalText Layout.expanded ds n else scientificText ds n

/-- Number::toString of a double: `NaN`, `0` for both zeros, and a negative value as `-` before
the text of its negation. -/
def ecmaText (x : Binary64) : String :=
  if x.isNaN then "NaN"
  else if x.isZero then "0"
  else if x.isNeg then "-" ++ ecmaMagnitudeText x.neg
  else ecmaMagnitudeText x

/-! ## The word of a whole number -/

theorem unitsOfOne_eq : unitsOfOne = 2 ^ 1074 := Nat.pow_eq

theorem unitsOfOne_pos : 0 < unitsOfOne := by
  rw [unitsOfOne_eq]
  positivity

variable {n : Nat}

theorem log2_bounds (h0 : 0 < n) (h53 : n < 2 ^ 53) :
    n.log2 ≤ 52 ∧ 2 ^ n.log2 ≤ n ∧ n < 2 ^ (n.log2 + 1) :=
  ⟨by have := (Nat.log2_lt (by omega)).mpr h53; omega, Nat.log2_self_le (by omega),
    Nat.lt_log2_self⟩

/-- Shifted up to 53 bits, a whole number below `2 ^ 53` is a normal significand. -/
theorem shifted_bounds (h0 : 0 < n) (h53 : n < 2 ^ 53) :
    2 ^ 52 ≤ n * 2 ^ (52 - n.log2) ∧ n * 2 ^ (52 - n.log2) < 2 ^ 53 := by
  obtain ⟨hL, hlo, hhi⟩ := log2_bounds h0 h53
  constructor
  · have he : n.log2 + (52 - n.log2) = 52 := by omega
    calc 2 ^ 52 = 2 ^ n.log2 * 2 ^ (52 - n.log2) := by rw [← Nat.pow_add, he]
      _ ≤ n * 2 ^ (52 - n.log2) := Nat.mul_le_mul_right _ hlo
  · have he : n.log2 + 1 + (52 - n.log2) = 53 := by omega
    calc n * 2 ^ (52 - n.log2) < 2 ^ (n.log2 + 1) * 2 ^ (52 - n.log2) :=
          Nat.mul_lt_mul_of_pos_right hhi (by positivity)
      _ = 2 ^ 53 := by rw [← Nat.pow_add, he]

theorem log2_mul_unitsOfOne (h0 : 0 < n) : Nat.log2 (n * unitsOfOne) = n.log2 + 1074 := by
  rw [Nat.log2_eq_iff (Nat.mul_ne_zero (by omega) (Nat.pos_iff_ne_zero.mp unitsOfOne_pos)),
    unitsOfOne_eq, Nat.pow_add, show n.log2 + 1074 + 1 = n.log2 + 1 + 1074 by omega,
    Nat.pow_add (a := 2) (m := n.log2 + 1)]
  exact ⟨Nat.mul_le_mul_right _ (Nat.log2_self_le (by omega)),
    Nat.mul_lt_mul_of_pos_right Nat.lt_log2_self (by positivity)⟩

/-- Rounding an exact multiple of the step gives the multiplier. -/
theorem roundHalfEven_mul {m s : Nat} (hs : 0 < s) : roundHalfEven (m * s) s = m := by
  unfold roundHalfEven
  rw [Nat.mul_div_cancel _ hs, Nat.mul_mod_left]
  simp only [Nat.mul_zero]
  rw [if_pos hs]

/-- The word of the double of a whole number below `2 ^ 53`: biased exponent `1023` plus the
binary exponent of `n`, and the bits of `n` below its leading one as fraction. -/
theorem ofNat_bits (h0 : 0 < n) (h53 : n < 2 ^ 53) :
    (ofNat n).bits.toNat = (n.log2 + 1023) * 2 ^ 52 + (n * 2 ^ (52 - n.log2) - 2 ^ 52) := by
  obtain ⟨hL, -, -⟩ := log2_bounds h0 h53
  obtain ⟨hm_lo, hm_hi⟩ := shifted_bounds h0 h53
  have hshift : 2 ^ (52 - n.log2) * 2 ^ (n.log2 + 1022) = unitsOfOne := by
    have he : 52 - n.log2 + (n.log2 + 1022) = 1074 := by omega
    rw [← Nat.pow_add, he]
    exact unitsOfOne_eq.symm
  have hq : n * unitsOfOne = n * 2 ^ (52 - n.log2) * 2 ^ (n.log2 + 1022) := by
    rw [Nat.mul_assoc, hshift]
  -- the significand `m`: the quotient by the step `2 ^ (log2 n + 1022)` is exact
  generalize hm : n * 2 ^ (52 - n.log2) = m at hm_lo hm_hi hq
  have hnU : ¬ n * unitsOfOne < 2 ^ 53 := by
    rw [hq]
    exact Nat.not_lt.mpr (le_trans (Nat.pow_le_pow_right (by decide) (by omega))
      (Nat.le_mul_of_pos_left _ (by omega)))
  have hround : roundHalfEven (n * unitsOfOne) (2 ^ (n.log2 + 1022)) = m := by
    rw [hq]
    exact roundHalfEven_mul (by positivity)
  unfold ofNat roundUnits pack
  simp only [Nat.one_ne_zero, if_false, Nat.div_one, Nat.one_mul, Nat.pow_eq, hnU,
    log2_mul_unitsOfOne h0, show n.log2 + 1074 - 52 = n.log2 + 1022 by omega, hround,
    Nat.ne_of_lt hm_hi, Nat.not_lt.mpr hm_lo]
  rw [if_neg (show ¬ (n.log2 + 1022 + 1 ≥ exponentMax) by simp only [exponentMax]; omega)]
  simp only [Nat.toUInt64, UInt64.toNat_ofNat']
  apply Nat.mod_eq_of_lt
  have : (n.log2 + 1022 + 1) * 2 ^ 52 + (m - 2 ^ 52) < 2 ^ 64 := by omega
  rw [show n.log2 + 1022 + 1 = n.log2 + 1023 by omega] at this ⊢
  exact this

/-- The fields of the double of a whole number below `2 ^ 53`: positive, with the exponent
and fraction of `ofNat_bits`. -/
theorem ofNat_fields (h0 : 0 < n) (h53 : n < 2 ^ 53) :
    (ofNat n).isNeg = false ∧ (ofNat n).exponentField = n.log2 + 1023 ∧
      (ofNat n).fractionField = n * 2 ^ (52 - n.log2) - 2 ^ 52 := by
  obtain ⟨hL, -, -⟩ := log2_bounds h0 h53
  obtain ⟨hm_lo, hm_hi⟩ := shifted_bounds h0 h53
  have hbits := ofNat_bits h0 h53
  generalize n * 2 ^ (52 - n.log2) = m at hm_lo hm_hi hbits ⊢
  unfold isNeg exponentField fractionField
  simp only [Nat.pow_eq, hbits]
  refine ⟨by simp only [decide_eq_false_iff_not]; omega, by omega, by omega⟩

/-- The double of a whole number below `2 ^ 53` holds it exactly. -/
theorem ofNat_units (h0 : 0 < n) (h53 : n < 2 ^ 53) :
    (ofNat n).scale = n.log2 + 1022 ∧ (ofNat n).units = n * unitsOfOne := by
  obtain ⟨hL, -, -⟩ := log2_bounds h0 h53
  obtain ⟨-, hexp, hfrac⟩ := ofNat_fields h0 h53
  obtain ⟨hm_lo, -⟩ := shifted_bounds h0 h53
  have hscale : (ofNat n).scale = n.log2 + 1022 := by
    unfold scale
    rw [hexp, if_neg (by omega)]
    omega
  refine ⟨hscale, ?_⟩
  unfold units significand
  rw [hexp, if_neg (by omega), hfrac, hscale, Nat.pow_eq, Nat.pow_eq,
    Nat.add_sub_cancel' hm_lo, Nat.mul_assoc, ← Nat.pow_add,
    show 52 - n.log2 + (n.log2 + 1022) = 1074 by omega]
  exact congrArg (n * ·) unitsOfOne_eq.symm

theorem ofNat_normal (h0 : 0 < n) (h53 : n < 2 ^ 53) :
    0 < (ofNat n).exponentField ∧ (ofNat n).exponentField < exponentMax := by
  obtain ⟨hL, -, -⟩ := log2_bounds h0 h53
  rw [(ofNat_fields h0 h53).2.1, exponentMax]
  omega

theorem ofNat_bits_lt (h0 : 0 < n) (h53 : n < 2 ^ 53) : (ofNat n).bits.toNat < 2 ^ 63 := by
  simpa [isNeg] using (ofNat_fields h0 h53).1

/-- A normal double, with its exponent field strictly between the zero and the all-ones
field, is neither NaN, nor zero, nor infinite. -/
theorem normal_classes {x : Binary64} (h0 : 0 < x.exponentField)
    (hmax : x.exponentField < exponentMax) :
    x.isNaN = false ∧ x.isZero = false ∧ x.isInfinite = false := by
  have hne : (x.exponentField == exponentMax) = false := beq_eq_false_iff_ne.mpr (by omega)
  have hz : (x.exponentField == 0) = false := beq_eq_false_iff_ne.mpr (by omega)
  simp only [isNaN, isZero, isInfinite, hne, hz, Bool.false_and, and_self]

/-! ## Reading back -/

/-- The arithmetic of reading back: a multiple `C` of the unit `U` lies strictly inside the
interval around `n * U` with ends at most a unit away (or on an end, when ends count) exactly
when it is `n * U`. -/
theorem readsBack_arith {C n U gl gh : Nat} {b : Bool} (hn : 0 < n)
    (hgl : 0 < gl ∧ gl ≤ U) (hgh : 0 < gh ∧ gh ≤ U) :
    ((compare (C * (2 * U)) (2 * (n * U) - gl) == .gt ||
        b && compare (C * (2 * U)) (2 * (n * U) - gl) == .eq) &&
      (compare (C * (2 * U)) (2 * (n * U) + gh) == .lt ||
        b && compare (C * (2 * U)) (2 * (n * U) + gh) == .eq)) = true ↔ C = n := by
  simp only [Bool.and_eq_true, Bool.or_eq_true, beq_iff_eq, Nat.compare_eq_gt, Nat.compare_eq_lt,
    Nat.compare_eq_eq]
  have hnU : U ≤ n * U := Nat.le_mul_of_pos_left U hn
  have hn2 : n * (2 * U) = 2 * (n * U) := Nat.mul_left_comm n 2 U
  constructor
  · rintro ⟨hlo, hhi⟩
    -- the grid point lies within half a unit of `n` on either side, so it is `n`
    have hlo' : 2 * (n * U) - gl ≤ C * (2 * U) := by
      rcases hlo with h | ⟨-, h⟩ <;> omega
    have hhi' : C * (2 * U) ≤ 2 * (n * U) + gh := by
      rcases hhi with h | ⟨-, h⟩ <;> omega
    -- grid points stand a whole unit `2 * U` apart
    have hgrid : ∀ {a b : Nat}, a < b → a * (2 * U) + 2 * U ≤ b * (2 * U) := fun h => by
      simpa only [Nat.succ_mul] using Nat.mul_le_mul_right (2 * U) (Nat.succ_le_of_lt h)
    rcases lt_trichotomy C n with h | h | h
    · have := hgrid h
      omega
    · exact h
    · have := hgrid h
      omega
  · rintro rfl
    rw [hn2]
    exact ⟨.inl (by omega), .inl (by omega)⟩

/-- A decimal `c * 10 ^ k` reads back as the double of a whole number below `2 ^ 53` exactly
when it is that number. -/
theorem readsBackAs_ofNat (h0 : 0 < n) (h53 : n < 2 ^ 53) (c k : Nat) :
    readsBackAs (ofNat n) c k = true ↔ c * 10 ^ k = n := by
  obtain ⟨hL, -, -⟩ := log2_bounds h0 h53
  obtain ⟨hscale, hunits⟩ := ofNat_units h0 h53
  unfold readsBackAs halfUnitInterval compareDecimalHalfUnits pow10Ratio
  simp only [hscale, hunits, Int.natCast_nonneg, if_true, Int.toNat_natCast, Nat.mul_one,
    Nat.pow_eq]
  have h1075 : (2 : Nat) ^ 1075 = 2 * unitsOfOne := by
    rw [unitsOfOne_eq, Nat.pow_succ, Nat.mul_comm]
  -- both ends of the rounding interval lie at most half a unit from `n`
  have hgap : ∀ e, e ≤ 1074 → 0 < 2 ^ e ∧ 2 ^ e ≤ unitsOfOne := fun e he =>
    ⟨by positivity, by rw [unitsOfOne_eq]; exact Nat.pow_le_pow_right (by decide) he⟩
  have hlow : 0 < (if (ofNat n).fractionField = 0 ∧ (ofNat n).exponentField > 1 then
      2 ^ (n.log2 + 1022 - 1) else 2 ^ (n.log2 + 1022)) ∧
      (if (ofNat n).fractionField = 0 ∧ (ofNat n).exponentField > 1 then
        2 ^ (n.log2 + 1022 - 1) else 2 ^ (n.log2 + 1022)) ≤ unitsOfOne := by
    split_ifs
    · exact hgap _ (by omega)
    · exact hgap _ (by omega)
  rw [h1075]
  exact readsBack_arith h0 hlow (hgap _ (by omega))

/-! ## The decimal exponent -/

theorem pow10LeUnits_ofNat (j : Nat) :
    pow10LeUnits (j : Int) (n * unitsOfOne) = decide (10 ^ j ≤ n) := by
  simp only [pow10LeUnits, pow10Ratio, if_pos (Int.natCast_nonneg j), Int.toNat_natCast,
    Nat.pow_eq, Nat.mul_one, Nat.mul_le_mul_right_iff unitsOfOne_pos]

/-- Powers of ten against powers of two up to `2 ^ 53`: the estimate `⌊L · 0.30103⌋` of the
decimal exponent is at most one too small. -/
theorem decimalGuess_bounds : ∀ L < 53,
    10 ^ (L * 30103 / 100000) ≤ 2 ^ L ∧ 2 ^ (L + 1) ≤ 10 ^ (L * 30103 / 100000 + 2) := by
  decide +kernel

/-- The decimal exponent of a whole number below `2 ^ 53` is `⌊log₁₀ n⌋`. -/
theorem decimalExponent_ofNat (h0 : 0 < n) (h53 : n < 2 ^ 53) :
    decimalExponent (n * unitsOfOne) = Nat.log 10 n := by
  obtain ⟨hL, hlo, hhi⟩ := log2_bounds h0 h53
  obtain ⟨hg1, hg2⟩ := decimalGuess_bounds n.log2 (by omega)
  have hE1 := Nat.pow_log_le_self 10 (Nat.pos_iff_ne_zero.mp h0)
  have hE2 := Nat.lt_pow_succ_log_self (by decide : 1 < 10) n
  set g := n.log2 * 30103 / 100000
  set E := Nat.log 10 n
  -- the true exponent is the estimate or one more
  have hgE : g ≤ E := Nat.le_log_of_pow_le (by decide) (le_trans hg1 hlo)
  have hEg : E < g + 2 :=
    (Nat.pow_lt_pow_iff_right (by decide : 1 < 10)).mp
      (lt_of_le_of_lt hE1 (lt_of_lt_of_le hhi hg2))
  have hguess : ((n.log2 + 1074 : Nat) - 1074 : Int) * 30103 / 100000 = g := by omega
  have hle1 : ∀ j : Nat, pow10LeUnits ((j : Int) + 1) (n * unitsOfOne) =
      decide (10 ^ (j + 1) ≤ n) := fun j => by
    rw [← pow10LeUnits_ofNat (j + 1), Nat.cast_succ]
  unfold decimalExponent
  dsimp only
  rw [log2_mul_unitsOfOne h0, hguess]
  obtain hE | hE : E = g ∨ E = g + 1 := by omega
  · -- the estimate is exact: no correction step fires
    have hup : pow10LeUnits ((g : Int) + 1) (n * unitsOfOne) = false := by
      rw [hle1, decide_eq_false_iff_not, ← hE]
      omega
    have hdown : pow10LeUnits (g : Int) (n * unitsOfOne) = true := by
      rw [pow10LeUnits_ofNat, decide_eq_true_iff, ← hE]
      exact hE1
    simp only [hup, hdown, Bool.false_eq_true, if_false, if_true, hE]
  · -- the estimate is one too small: the first step up corrects it
    have hup : pow10LeUnits ((g : Int) + 1) (n * unitsOfOne) = true := by
      rw [hle1, decide_eq_true_iff, ← hE]
      exact hE1
    have hup2 : pow10LeUnits ((g : Int) + 1 + 1) (n * unitsOfOne) = false := by
      have := hle1 (g + 1)
      push_cast at this
      rw [this, decide_eq_false_iff_not, show g + 1 + 1 = E.succ by omega]
      omega
    simp only [hup, hup2, Bool.false_eq_true, if_false, if_true, hE]
    push_cast
    rfl

/-! ## Shortest digits -/

theorem floorDecimal_ofNat (k : Nat) :
    floorDecimal (n * unitsOfOne) k = n / 10 ^ k := by
  simp only [floorDecimal, pow10Ratio, if_pos (Int.natCast_nonneg k), Int.toNat_natCast,
    Nat.pow_eq, Nat.mul_one]
  exact Nat.mul_div_mul_right _ _ unitsOfOne_pos

/-- With the last digit at `10 ^ k`, a whole number below `2 ^ 53` has a candidate exactly
when `10 ^ k` divides it, and the candidate is the number's digits above `10 ^ k`. -/
theorem shortestAt_ofNat (h0 : 0 < n) (h53 : n < 2 ^ 53) {e : Int} {digits k : Nat}
    (hk : e - digits + 1 = k) :
    shortestAt (ofNat n) e digits =
      if 10 ^ k ∣ n then some (n / 10 ^ k, (k : Int)) else none := by
  have hpos : 0 < 10 ^ k := by positivity
  have hlow : readsBackAs (ofNat n) (n / 10 ^ k) k = decide (10 ^ k ∣ n) := by
    rw [Bool.eq_iff_iff, readsBackAs_ofNat h0 h53, decide_eq_true_iff, Nat.dvd_iff_div_mul_eq]
  -- the next multiple of `10 ^ k` lies past `n`
  have hhigh : readsBackAs (ofNat n) (n / 10 ^ k + 1) k = false := by
    rw [← Bool.not_eq_true, readsBackAs_ofNat h0 h53]
    have := Nat.lt_mul_div_succ n hpos
    rw [Nat.mul_comm] at this
    omega
  unfold shortestAt
  simp only [hk, (ofNat_units h0 h53).2, floorDecimal_ofNat, hlow, hhigh, Bool.and_false,
    Bool.false_eq_true, if_false]
  by_cases hd : 10 ^ k ∣ n <;> simp [hd]

/-- The search over digit counts stops at the first count that gives a candidate. -/
theorem shortestFrom_eq_of_first {x : Binary64} {e : Int} {r : Nat × Int} (m : Nat) :
    ∀ fuel digits, m < fuel → (∀ i < m, shortestAt x e (digits + i) = none) →
      shortestAt x e (digits + m) = some r → shortestFrom x e fuel digits = r := by
  -- one miss per step of the search
  induction m with
  | zero =>
    intro fuel digits hm _ hr
    obtain ⟨fuel, rfl⟩ := Nat.exists_eq_add_one_of_ne_zero (Nat.pos_iff_ne_zero.mp hm)
    rw [Nat.add_zero] at hr
    rw [shortestFrom, hr, Option.getD_some]
  | succ m ih =>
    intro fuel digits hm hnone hr
    obtain ⟨fuel, rfl⟩ := Nat.exists_eq_add_one_of_ne_zero (by omega : fuel ≠ 0)
    have hmiss := hnone 0 (Nat.succ_pos m)
    rw [Nat.add_zero] at hmiss
    rw [shortestFrom, hmiss, Option.getD_none]
    refine ih fuel (digits + 1) (by omega) (fun i hi => ?_) ?_
    · simpa only [Nat.add_assoc, Nat.add_comm 1 i] using hnone (i + 1) (by omega)
    · simpa only [Nat.add_assoc, Nat.add_comm 1 m] using hr

theorem trimZeros_of_mod_ne_zero {d : Nat} (hd : d % 10 ≠ 0) (fuel : Nat) (k : Int) :
    trimZeros fuel d k = (d, k) := by
  cases fuel with
  | zero => rfl
  | succ fuel => rw [trimZeros, if_neg (fun h => hd h.2)]

/-- The shortest digits of a whole number below `2 ^ 53` are the number without its trailing
zeros, and the exponent counts them. -/
theorem shortest_ofNat (h0 : 0 < n) (h53 : n < 2 ^ 53) {t : Nat} (ht : 10 ^ t ∣ n)
    (ht1 : ¬ 10 ^ (t + 1) ∣ n) : shortest (ofNat n) = (n / 10 ^ t, (t : Int)) := by
  have hunits := (ofNat_units h0 h53).2
  have htE : t ≤ Nat.log 10 n := Nat.le_log_of_pow_le (by decide) (Nat.le_of_dvd h0 ht)
  have hE : Nat.log 10 n < 16 :=
    Nat.log_lt_of_lt_pow (Nat.pos_iff_ne_zero.mp h0) (lt_trans h53 (by decide))
  -- digit counts `1, 2, …` put the last digit at `10 ^ E, 10 ^ (E - 1), …`; the first that
  -- divides `n` is `10 ^ t`, after `E - t` misses
  have hfrom : shortestFrom (ofNat n) (Nat.log 10 n) 17 1 = (n / 10 ^ t, (t : Int)) := by
    refine shortestFrom_eq_of_first (Nat.log 10 n - t) 17 1 (by omega) (fun i hi => ?_) ?_
    · rw [shortestAt_ofNat h0 h53 (k := Nat.log 10 n - i) (by omega), if_neg]
      exact fun hdvd => ht1 (Nat.dvd_trans (Nat.pow_dvd_pow 10 (by omega)) hdvd)
    · rw [shortestAt_ofNat h0 h53 (k := t) (by omega), if_pos ht]
  have hlast : (n / 10 ^ t) % 10 ≠ 0 := fun hmod =>
    ht1 (by rw [Nat.pow_succ]; exact Nat.mul_dvd_of_dvd_div ht (Nat.dvd_of_mod_eq_zero hmod))
  unfold shortest
  rw [if_neg (by rw [hunits]; exact Nat.mul_ne_zero (by omega) unitsOfOne_pos.ne'),
    hunits, decimalExponent_ofNat h0 h53, hfrom]
  exact trimZeros_of_mod_ne_zero hlast 20 t

/-! ## Signs -/

theorem ext_toNat {x y : Binary64} (h : x.bits.toNat = y.bits.toNat) : x = y := by
  cases x
  cases y
  exact congrArg Binary64.mk (UInt64.toNat_inj.mp h)

/-- Setting the sign bit of a word without it adds `2 ^ 63`. -/
theorem xor_signBit {b : Nat} (h : b < 2 ^ 63) : b ^^^ 2 ^ 63 = 2 ^ 63 + b := by
  apply Nat.eq_of_testBit_eq
  intro i
  rw [Nat.testBit_xor, Nat.testBit_two_pow]
  rcases Nat.lt_trichotomy i 63 with hi | rfl | hi
  · rw [Nat.testBit_two_pow_add_gt hi, decide_eq_false (by omega), Bool.xor_false]
  · rw [Nat.testBit_two_pow_add_eq, Nat.testBit_lt_two_pow h, decide_eq_true rfl]
    rfl
  · -- above the sign bit both words are zero
    have hb : b < 2 ^ i := lt_of_lt_of_le h (Nat.pow_le_pow_right (by decide) hi.le)
    have hs : 2 ^ 63 + b < 2 ^ i :=
      calc 2 ^ 63 + b < 2 ^ 63 + 2 ^ 63 := by omega
        _ = 2 ^ 64 := by rw [← Nat.two_mul, ← Nat.pow_succ']
        _ ≤ 2 ^ i := Nat.pow_le_pow_right (by decide) hi
    rw [Nat.testBit_lt_two_pow hb, Nat.testBit_lt_two_pow hs, decide_eq_false (by omega)]
    rfl

theorem neg_bits {y : Binary64} (hy : y.bits.toNat < 2 ^ 63) :
    (neg y).bits.toNat = 2 ^ 63 + y.bits.toNat := by
  rw [neg, UInt64.toNat_xor]
  exact xor_signBit hy

theorem neg_neg (x : Binary64) : neg (neg x) = x := by
  unfold neg
  rw [UInt64.xor_assoc, UInt64.xor_self, UInt64.xor_zero]

/-- A double with the sign bit clear keeps its word under `withSign`: positive, or negated. -/
theorem withSign_of_lt {y : Binary64} (hy : y.bits.toNat < 2 ^ 63) (s : Bool) :
    withSign s y = if s then neg y else y := by
  have hmask : (⟨y.bits &&& 0x7FFFFFFFFFFFFFFF⟩ : Binary64) = y := by
    apply ext_toNat
    rw [UInt64.toNat_and, show (0x7FFFFFFFFFFFFFFF : UInt64).toNat = 2 ^ 63 - 1 from rfl,
      Nat.and_two_pow_sub_one_eq_mod, Nat.mod_eq_of_lt hy]
  unfold withSign
  rw [hmask]

/-- Negating a positive double sets the sign and keeps the exponent and fraction. -/
theorem neg_fields {y : Binary64} (hy : y.bits.toNat < 2 ^ 63) :
    (neg y).isNeg = true ∧ (neg y).exponentField = y.exponentField ∧
      (neg y).fractionField = y.fractionField := by
  simp only [isNeg, exponentField, fractionField, neg_bits hy, Nat.pow_eq, decide_eq_true_eq]
  omega

/-! ## The text of a safe integer -/

theorem toDigits_mul_pow10 {d : Nat} (hd : 0 < d) (t : Nat) :
    Nat.toDigits 10 (d * 10 ^ t) = Nat.toDigits 10 d ++ List.replicate t '0' := by
  -- one more factor of ten writes one more zero
  induction t with
  | zero => simp
  | succ t ih =>
    have hpos : 0 < d * 10 ^ t := by positivity
    rw [Nat.pow_succ, ← Nat.mul_assoc, Nat.mul_comm (d * 10 ^ t) 10,
      ← Nat.add_zero (10 * (d * 10 ^ t)),
      ← Nat.toDigits_append_toDigits (by decide) hpos (by decide), ih, Nat.toDigits_zero,
      List.replicate_succ', List.append_assoc]

/-- A whole number below `2 ^ 53` is written with all its digits: ECMAScript keeps the
positional form up to 21 digits. -/
theorem ecmaMagnitudeText_ofNat (h0 : 0 < n) (h53 : n < 2 ^ 53) :
    ecmaMagnitudeText (ofNat n) = n.repr := by
  obtain ⟨t, d, hd10, hn⟩ :=
    Nat.exists_eq_pow_mul_and_not_dvd (Nat.pos_iff_ne_zero.mp h0) 10 (by decide)
  have hd : 0 < d := Nat.pos_of_ne_zero (by rintro rfl; simp at hn; omega)
  have ht : 10 ^ t ∣ n := ⟨d, hn⟩
  have ht1 : ¬ 10 ^ (t + 1) ∣ n := by
    rintro ⟨c, hc⟩
    rw [hn, Nat.pow_succ, Nat.mul_assoc] at hc
    exact hd10 ⟨c, Nat.eq_of_mul_eq_mul_left (by positivity) hc⟩
  have hdiv : n / 10 ^ t = d := by rw [hn, Nat.mul_div_cancel_left _ (by positivity)]
  have hdigits : Nat.toDigits 10 n = Nat.toDigits 10 d ++ List.replicate t '0' := by
    rw [hn, Nat.mul_comm, toDigits_mul_pow10 hd]
  -- at most sixteen digits, so the decimal point stays within the positional range
  have hlen : (Nat.toDigits 10 n).length ≤ 16 :=
    (Nat.length_toDigits_le_iff (by decide) (by decide)).mpr (lt_trans h53 (by decide))
  rw [hdigits, List.length_append, List.length_replicate] at hlen
  have hds : (digitText d).length = (Nat.toDigits 10 d).length := String.length_ofList
  unfold ecmaMagnitudeText
  rw [(normal_classes (ofNat_normal h0 h53).1 (ofNat_normal h0 h53).2).2.2,
    shortest_ofNat h0 h53 ht ht1, hdiv]
  simp only [Bool.false_eq_true, if_false]
  rw [if_pos ⟨by omega, by omega⟩, positionalText, if_pos (by omega)]
  simp only [Layout.expanded, if_false, Bool.false_eq_true, String.append_empty, zeros,
    digitText, Nat.repr_eq_ofList_toDigits, hdigits, String.ofList_append]
  congr 3
  omega

/-- The double of a nonzero integer below `2 ^ 53` in magnitude is the double of its magnitude,
negated when the integer is negative. -/
theorem ofInt_eq {i : Int} (h0 : 0 < i.natAbs) (h53 : i.natAbs < 2 ^ 53) :
    ofInt i = if i < 0 then neg (ofNat i.natAbs) else ofNat i.natAbs := by
  rw [show ofInt i = withSign (decide (i < 0)) (ofNat i.natAbs) from rfl,
    withSign_of_lt (ofNat_bits_lt h0 h53)]
  simp only [decide_eq_true_eq]

/-- Every safe integer, of magnitude below `2 ^ 53`, is written by ECMAScript exactly as its
decimal numeral. -/
theorem ecmaText_ofInt {i : Int} (h53 : i.natAbs < 2 ^ 53) : ecmaText (ofInt i) = i.repr := by
  rcases Nat.eq_zero_or_pos i.natAbs with h0 | h0
  · rw [Int.natAbs_eq_zero.mp h0]
    decide +kernel
  obtain ⟨hnan, hzero, -⟩ := normal_classes (ofNat_normal h0 h53).1 (ofNat_normal h0 h53).2
  rw [ofInt_eq h0 h53]
  obtain ⟨n, rfl | rfl⟩ := Int.eq_nat_or_neg i
  · -- a positive integer: its magnitude's text
    rw [Int.natAbs_natCast] at h0 h53 hnan hzero ⊢
    rw [if_neg (by omega), ecmaText, if_neg (by simp [hnan]), if_neg (by simp [hzero]),
      if_neg (by simp [(ofNat_fields h0 h53).1]), ecmaMagnitudeText_ofNat h0 h53]
    rfl
  · -- a negative integer: the negation of its magnitude, written with a minus sign
    rw [Int.natAbs_neg, Int.natAbs_natCast] at h0 h53 hnan hzero ⊢
    obtain ⟨hneg, hexp, hfrac⟩ := neg_fields (ofNat_bits_lt h0 h53)
    have hnan' : (neg (ofNat n)).isNaN = false := by simpa only [isNaN, hexp, hfrac] using hnan
    have hzero' : (neg (ofNat n)).isZero = false := by
      simpa only [isZero, hexp, hfrac] using hzero
    rw [if_pos (by omega), ecmaText, if_neg (by simp [hnan']), if_neg (by simp [hzero']),
      if_pos hneg, neg_neg, ecmaMagnitudeText_ofNat h0 h53]
    obtain ⟨m, rfl⟩ := Nat.exists_eq_add_one_of_ne_zero (Nat.pos_iff_ne_zero.mp h0)
    rfl

end Binary64

end Attest
