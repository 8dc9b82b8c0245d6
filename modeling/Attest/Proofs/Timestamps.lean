import Attest.Proofs.Payload
import Attest.Proofs.Coercion

/-!
# Adding seconds to timestamps

`Timestamp.plusSeconds` adds whole seconds in three steps, each with a fallback: the count as
a signed 64-bit count, that count as a span no longer than the longest span, and the instant
that span later when it is representable, the last representable instant otherwise.  From a
representable instant the three fallbacks come to one rule (`plusSeconds_eq`): the count is
added without bound, and the sum saturates at the last instant.  A count too large for 64 bits
or for a span runs past the range anyway, since the longest span is about 292 million years and
the range about half a million.  Whatever the instant, a sum is representable
(`plusSeconds_mem`).

The timestamps the library makes (`Timestamp.Made`: read from an RFC 3339 text, read from the
clock, or a made one moved later by a 64-bit count of seconds) are representable instants
(`Made.inRange`), and for them:

* the seconds of a sum are the sum of the seconds, saturated at the last representable second
  and computed without bound (`seconds_plusSeconds`);
* adding is monotone in the count, never moves a timestamp back, and moves it strictly forward
  while there is room (`plusSeconds_le_plusSeconds`, `le_plusSeconds`, `lt_plusSeconds`);
* adding twice is adding once the saturated 64-bit sum of the counts
  (`plusSeconds_plusSeconds_saturating`);
* the payload of a credential with a validity window has `nbf = iat ≤ exp`, and `exp` is the
  saturated sum (`ClaimSet.payload_times`).

Made timestamps are whole seconds with one exception (`Made.nanos_eq_zero_or_latest`): past
the range the sum is the last representable instant itself, `+262142-12-31T23:59:59.999999999Z`,
fraction included.  So the whole second `+262142-12-31T23:59:59Z`, reached exactly, and the
saturated instant have the same seconds and are different timestamps.
-/

namespace Attest

namespace Timestamp

/-- At or before, in the order of instants: by seconds, then fraction. -/
def le (a b : Timestamp) : Bool := a.lt b || a == b

/-- A representable instant: its seconds within the range and a fraction below a second. -/
structure InRange (t : Timestamp) : Prop where
  earliest_le : earliestSeconds ≤ t.seconds
  le_latest : t.seconds ≤ latestSeconds
  nanos_lt : t.nanos < 1000000000

/-- The timestamps the library makes: one read from an RFC 3339 text, the clock's reading
truncated to a whole second (always a representable instant), and a made timestamp moved
later by a 64-bit count of seconds. -/
inductive Made : Timestamp → Prop
  | parsed {s : String} {t : Timestamp} : parse s = .ok t → Made t
  | clock {secs : Int} : earliestSeconds ≤ secs → secs ≤ latestSeconds → Made (ofSeconds secs)
  | plus {t : Timestamp} (n : UInt64) : Made t → Made (t.plusSeconds n.toNat)

/-! ## The order of instants -/

@[simp] theorem seconds_ofSeconds (secs : Int) : (ofSeconds secs).seconds = secs := rfl

@[simp] theorem nanos_ofSeconds (secs : Int) : (ofSeconds secs).nanos = 0 := rfl

theorem eq_iff {a b : Timestamp} : a = b ↔ a.seconds = b.seconds ∧ a.nanos = b.nanos := by
  cases a
  cases b
  simp

theorem lt_iff {a b : Timestamp} :
    a.lt b = true ↔ a.seconds < b.seconds ∨ (a.seconds = b.seconds ∧ a.nanos < b.nanos) := by
  simp [lt]

theorem le_iff {a b : Timestamp} :
    a.le b = true ↔ a.seconds < b.seconds ∨ (a.seconds = b.seconds ∧ a.nanos ≤ b.nanos) := by
  simp only [le, Bool.or_eq_true, lt_iff, beq_iff_eq, eq_iff]
  omega

/-! ## The steps of adding seconds -/

theorem toInt64Saturating_of_lt {n : Nat} (h : n < 2 ^ 63) : toInt64Saturating n = n :=
  if_pos h

theorem toInt64Saturating_of_le {n : Nat} (h : 2 ^ 63 ≤ n) : toInt64Saturating n = 2 ^ 63 - 1 :=
  if_neg (Nat.not_lt.mpr h)

/-- The span a count is added as: the count itself up to the longest span, and the longest span
beyond, whether the count first fits in 64 bits or not. -/
theorem span_of_count (n : Nat) :
    (Span.ofSeconds? (toInt64Saturating n)).getD Span.longest =
      if n ≤ 9223372036854775 then ⟨n, 0⟩ else Span.longest := by
  by_cases hn : n ≤ 9223372036854775
  · rw [toInt64Saturating_of_lt (by omega), Span.ofSeconds?, if_pos ⟨by omega, by omega⟩,
      if_pos hn]
    rfl
  · have hover : ¬ (-9223372036854775 ≤ toInt64Saturating n ∧
        toInt64Saturating n ≤ 9223372036854775) := by
      by_cases h64 : n < 2 ^ 63
      · rw [toInt64Saturating_of_lt h64]
        omega
      · rw [toInt64Saturating_of_le (by omega)]
        decide
    rw [Span.ofSeconds?, if_neg hover, if_neg hn]
    rfl

/-- A whole-second span moves an instant with a fraction below a second by its seconds and
keeps the fraction, when the result is representable. -/
theorem addSpan?_whole {t : Timestamp} (ht : t.nanos < 1000000000) (secs : Int) :
    t.addSpan? ⟨secs, 0⟩ =
      if earliestSeconds ≤ t.seconds + secs ∧ t.seconds + secs ≤ latestSeconds then
        some ⟨t.seconds + secs, t.nanos⟩
      else none := by
  have hcarry : (t.nanos + 0) / 1000000000 = 0 := Nat.div_eq_of_lt (by omega)
  have hfrac : (t.nanos + 0) % 1000000000 = t.nanos := Nat.mod_eq_of_lt (by omega)
  simp only [addSpan?, hcarry, hfrac, Nat.cast_zero, Int.add_zero]

/-- The longest span leaves the range from every representable second. -/
theorem addSpan?_longest {t : Timestamp} (ht : earliestSeconds ≤ t.seconds) :
    t.addSpan? Span.longest = none := by
  have hlatest : latestSeconds = 8210266876799 := rfl
  have hearliest : earliestSeconds = -8334601228800 := rfl
  rw [addSpan?, if_neg]
  simp only [Span.longest]
  omega

/-- Whatever the instant, a sum is representable: a span is added only when the result is,
and otherwise the sum is the last instant. -/
theorem plusSeconds_mem (t : Timestamp) (n : Nat) :
    earliestSeconds ≤ (t.plusSeconds n).seconds ∧ (t.plusSeconds n).seconds ≤ latestSeconds := by
  unfold plusSeconds addSpan?
  dsimp only
  split_ifs with h
  · exact h
  · exact ⟨by decide, le_refl _⟩

/-! ## Adding seconds to a representable instant -/

/-- From a representable instant, a count of seconds is added without bound, and the sum
saturates at the last instant: a count that does not fit in 64 bits, or a span longer than the
longest, runs past the range anyway. -/
theorem plusSeconds_eq {t : Timestamp} (ht : t.InRange) (n : Nat) :
    t.plusSeconds n =
      if latestSeconds < t.seconds + n then latest else ⟨t.seconds + n, t.nanos⟩ := by
  have hlatest : latestSeconds = 8210266876799 := rfl
  have hearliest : earliestSeconds = -8334601228800 := rfl
  have := ht.earliest_le
  rw [plusSeconds, span_of_count]
  by_cases hn : n ≤ 9223372036854775
  · rw [if_pos hn, addSpan?_whole ht.nanos_lt]
    by_cases hover : latestSeconds < t.seconds + n
    · rw [if_neg (by omega), if_pos hover]
      rfl
    · rw [if_pos ⟨by omega, by omega⟩, if_neg hover]
      rfl
  · -- the count is beyond every representable distance: the longest span is added, and fails
    rw [if_neg hn, addSpan?_longest ht.earliest_le, if_pos (by omega)]
    rfl

/-- Past the last representable second the sum is the last instant. -/
theorem plusSeconds_of_lt {t : Timestamp} (ht : t.InRange) {n : Nat}
    (h : latestSeconds < t.seconds + n) : t.plusSeconds n = latest := by
  rw [plusSeconds_eq ht, if_pos h]

/-- Within the range the seconds are added and the fraction kept. -/
theorem plusSeconds_of_le {t : Timestamp} (ht : t.InRange) {n : Nat}
    (h : t.seconds + n ≤ latestSeconds) : t.plusSeconds n = ⟨t.seconds + n, t.nanos⟩ := by
  rw [plusSeconds_eq ht, if_neg (not_lt.mpr h)]

/-- The seconds of a sum: the sum of the seconds, saturated at the last second. -/
theorem seconds_plusSeconds {t : Timestamp} (ht : t.InRange) (n : Nat) :
    (t.plusSeconds n).seconds = min (t.seconds + n) latestSeconds := by
  by_cases h : latestSeconds < t.seconds + n
  · rw [plusSeconds_of_lt ht h, min_eq_right h.le]
    rfl
  · rw [plusSeconds_of_le ht (not_lt.mp h), min_eq_left (not_lt.mp h)]

theorem latest_inRange : latest.InRange := ⟨by decide, le_refl _, by decide⟩

/-- The last instant stays where it is. -/
theorem latest_plusSeconds (n : Nat) : latest.plusSeconds n = latest := by
  rcases Nat.eq_zero_or_pos n with rfl | hn
  · exact plusSeconds_of_le latest_inRange (by simp [latest])
  · exact plusSeconds_of_lt latest_inRange (by simp only [latest]; omega)

theorem InRange.plusSeconds {t : Timestamp} (ht : t.InRange) (n : Nat) :
    (t.plusSeconds n).InRange := by
  have := ht.earliest_le
  have := ht.nanos_lt
  by_cases h : latestSeconds < t.seconds + n
  · rw [plusSeconds_of_lt ht h]
    exact latest_inRange
  · rw [plusSeconds_of_le ht (not_lt.mp h)]
    exact ⟨by dsimp only; omega, not_lt.mp h, ht.nanos_lt⟩

/-- Adding twice is adding the sum. -/
theorem plusSeconds_plusSeconds {t : Timestamp} (ht : t.InRange) (a b : Nat) :
    (t.plusSeconds a).plusSeconds b = t.plusSeconds (a + b) := by
  by_cases ha : latestSeconds < t.seconds + a
  · rw [plusSeconds_of_lt ht ha, latest_plusSeconds, plusSeconds_of_lt ht (by push_cast; omega)]
  · have hta := ht.plusSeconds a
    rw [plusSeconds_of_le ht (not_lt.mp ha)] at hta ⊢
    by_cases hab : latestSeconds < t.seconds + a + b
    · rw [plusSeconds_of_lt hta hab, plusSeconds_of_lt ht (by push_cast; omega)]
    · rw [plusSeconds_of_le hta (not_lt.mp hab), plusSeconds_of_le ht (by push_cast; omega)]
      simp only [Nat.cast_add, Int.add_assoc]

/-- Two counts that both run past the range give the same sum. -/
theorem plusSeconds_eq_of_saturated {t : Timestamp} (ht : t.InRange) {m n : Nat}
    (hm : latestSeconds < t.seconds + m) (hn : latestSeconds < t.seconds + n) :
    t.plusSeconds m = t.plusSeconds n := by
  rw [plusSeconds_of_lt ht hm, plusSeconds_of_lt ht hn]

/-- Adding two 64-bit counts is adding their saturated 64-bit sum: a saturated count runs
past the range from every representable second. -/
theorem plusSeconds_plusSeconds_saturating {t : Timestamp} (ht : t.InRange) (a b : UInt64) :
    (t.plusSeconds a.toNat).plusSeconds b.toNat =
      t.plusSeconds (min (a.toNat + b.toNat) (2 ^ 64 - 1)) := by
  rw [plusSeconds_plusSeconds ht]
  by_cases h : a.toNat + b.toNat ≤ 2 ^ 64 - 1
  · rw [Nat.min_eq_left h]
  · rw [Nat.min_eq_right (by omega)]
    have hlatest : latestSeconds = 8210266876799 := rfl
    have hearliest : earliestSeconds = -8334601228800 := rfl
    have := ht.earliest_le
    apply plusSeconds_eq_of_saturated ht <;> push_cast <;> omega

/-- Adding never moves a representable instant back. -/
theorem le_plusSeconds {t : Timestamp} (ht : t.InRange) (n : Nat) : t.le (t.plusSeconds n) := by
  rw [le_iff]
  by_cases h : latestSeconds < t.seconds + n
  · -- the last instant is at or after every representable one
    rw [plusSeconds_of_lt ht h]
    have := ht.le_latest
    have := ht.nanos_lt
    simp only [latest]
    omega
  · rw [plusSeconds_of_le ht (not_lt.mp h)]
    dsimp only
    omega

/-- Adding a positive count moves a representable instant before the last second strictly
forward. -/
theorem lt_plusSeconds {t : Timestamp} (ht : t.InRange) {n : Nat} (hn : 0 < n)
    (hlt : t.seconds < latestSeconds) : t.lt (t.plusSeconds n) := by
  rw [lt_iff]
  by_cases h : latestSeconds < t.seconds + n
  · rw [plusSeconds_of_lt ht h]
    exact .inl hlt
  · rw [plusSeconds_of_le ht (not_lt.mp h)]
    dsimp only
    omega

/-- Adding is monotone in the count. -/
theorem plusSeconds_le_plusSeconds {t : Timestamp} (ht : t.InRange) {m n : Nat}
    (hmn : m ≤ n) : (t.plusSeconds m).le (t.plusSeconds n) := by
  have := ht.nanos_lt
  rw [le_iff]
  by_cases hn : latestSeconds < t.seconds + n
  · by_cases hm : latestSeconds < t.seconds + m
    · rw [plusSeconds_of_lt ht hm, plusSeconds_of_lt ht hn]
      omega
    · -- only the larger count saturates; the last instant's fraction is the largest
      rw [plusSeconds_of_le ht (not_lt.mp hm), plusSeconds_of_lt ht hn]
      simp only [latest]
      omega
  · rw [plusSeconds_of_le ht (by omega : t.seconds + m ≤ latestSeconds),
      plusSeconds_of_le ht (not_lt.mp hn)]
    dsimp only
    omega

/-! ## Made timestamps are representable -/

/-- A timestamp read from a text is the whole second of an RFC 3339 date-time. -/
theorem parse_eq_ok {s : String} {t : Timestamp} (h : parse s = .ok t) :
    ∃ dt, Calendar.readDateTime s = .ok dt ∧ t = ofSeconds dt.epochSeconds := by
  unfold parse at h
  split at h
  · cases h
  · split at h
    · rename_i dt hdt
      cases h
      exact ⟨dt, hdt, rfl⟩
    · cases h

/-- An RFC 3339 date-time has a four-digit year and an offset within a day, so its seconds
lie well inside the representable range. -/
theorem epochSeconds_mem {s : String} {dt : Calendar.DateTime} (h : Calendar.readDateTime s = .ok dt) :
    earliestSeconds ≤ dt.epochSeconds ∧ dt.epochSeconds ≤ latestSeconds := by
  obtain ⟨⟨rest, hpre⟩, hoff0, hoff1⟩ := Calendar.readDateTime_eq_ok h
  obtain ⟨hy0, hy1, hvalid, htime⟩ := Calendar.readDateTimePrefix_eq_ok hpre
  simp only [Calendar.Date.isValid, Bool.and_eq_true, decide_eq_true_eq] at hvalid
  have hdays := Calendar.toDays_bounds hy0 hy1 hvalid.1.1.2
    (le_trans hvalid.2 (Calendar.daysInMonth_le_31 _ _))
  simp only [Calendar.timeIsValid, Bool.and_eq_true, decide_eq_true_eq] at htime
  simp only [Calendar.maxOffset] at hoff0 hoff1
  unfold Calendar.DateTime.epochSeconds
  simp only [earliestSeconds, latestSeconds]
  omega

theorem Made.inRange {t : Timestamp} (h : t.Made) : t.InRange := by
  induction h with
  | parsed hs =>
    obtain ⟨dt, hdt, rfl⟩ := parse_eq_ok hs
    obtain ⟨h0, h1⟩ := epochSeconds_mem hdt
    exact ⟨h0, h1, by simp⟩
  | clock h0 h1 => exact ⟨h0, h1, by simp⟩
  | plus n _ ih => exact ih.plusSeconds n.toNat

/-! ## Whole seconds -/

/-- Every made timestamp is a whole second, except the last instant, which a sum past the
range returns with its fraction. -/
theorem Made.nanos_eq_zero_or_latest {t : Timestamp} (h : t.Made) : t.nanos = 0 ∨ t = latest := by
  induction h with
  | parsed hs =>
    obtain ⟨dt, -, rfl⟩ := parse_eq_ok hs
    exact .inl rfl
  | clock => exact .inl rfl
  | @plus t n hmade ih =>
    rcases ih with hz | rfl
    · by_cases hn : latestSeconds < t.seconds + n.toNat
      · exact .inr (plusSeconds_of_lt hmade.inRange hn)
      · rw [plusSeconds_of_le hmade.inRange (not_lt.mp hn)]
        exact .inl hz
    · exact .inr (latest_plusSeconds _)

end Timestamp

namespace ClaimSet

/-- Under a namespace whose first name is no registered claim, the payload's registered names
hold the registered claims. -/
theorem payload_get?_registered {cs : ClaimSet} {first : String} {rest : List String}
    (hpath : cs.claimPath = first :: rest) (hfirst : first ∉ registeredClaims) {k : String}
    (hk : k ∈ registeredClaims) : cs.payload.get? k = Json.Members.get? cs.registered k := by
  rw [payload_eq_obj hpath]
  simp only [Json.get?]
  rw [cs.get?_payloadMembers hfirst, if_neg (fun h : first = k => hfirst (h ▸ hk)), Option.or_none]

/-- The times of a payload built under a valid template with a validity window: `nbf` and `iat`
are the issue second, and `exp` is the second of the issue time moved by the window. -/
theorem payload_times {t : Template} {r : SubjectRecord} {issuer : IssuerId} {now : Timestamp}
    {fresh : CredentialId} {cs : ClaimSet} {v : Nat} (ht : t.Valid)
    (h : buildClaims t r issuer now fresh = .ok cs) (hv : t.validitySecs = some v) :
    cs.payload.get? "nbf" = cs.payload.get? "iat" ∧
      cs.payload.get? "iat" = some (Json.ofInt now.seconds) ∧
      cs.payload.get? "exp" = some (Json.ofInt (now.plusSeconds v).seconds) := by
  obtain ⟨first, rest, hpath, hfirst⟩ := ht.pathHead
  obtain ⟨_, _, _, _, _, _, _, _, _, _, _, hcs⟩ := buildClaims_eq_ok h
  have hcp : cs.claimPath = first :: rest := by rw [hcs]; exact hpath
  have hat : cs.issuedAt = now := by rw [hcs]
  have hexpires : cs.expiresAt = some (now.plusSeconds v) := by rw [hcs, hv]; rfl
  obtain ⟨-, -, hiat, hnbf, hexp, -, -⟩ := cs.get?_registered
  have hreg := fun k (hk : k ∈ registeredClaims) => payload_get?_registered hcp hfirst hk
  rw [hreg "nbf" (by decide), hreg "iat" (by decide), hreg "exp" (by decide), hiat, hnbf, hexp,
    hat, hexpires]
  exact ⟨rfl, rfl, rfl⟩

end ClaimSet

namespace Timestamp

/-- The timestamp `2026-01-15T12:00:00Z` read from its text. -/
theorem parse_midJanuary : parse "2026-01-15T12:00:00Z" = .ok (ofSeconds 1768478400) := by
  decide +kernel

/-- Expiry arithmetic saturates exactly.  For a made timestamp and any counts of seconds: the
seconds of a sum are the unbounded sum saturated at the last second; adding is monotone in the
count, never moves the timestamp back and moves it strictly forward while there is room; adding
two 64-bit counts is adding their saturated sum; and a payload issued at that instant under a
template with a validity window has `nbf = iat ≤ exp`, `exp` the saturated sum. -/
theorem plusSeconds_saturates {now : Timestamp} (hnow : now.Made) :
    (∀ n : Nat, (now.plusSeconds n).seconds = min (now.seconds + n) latestSeconds) ∧
    (∀ m n : Nat, m ≤ n → (now.plusSeconds m).le (now.plusSeconds n)) ∧
    (∀ n : Nat, now.le (now.plusSeconds n)) ∧
    (∀ n : Nat, 0 < n → now.seconds < latestSeconds → now.lt (now.plusSeconds n)) ∧
    (∀ a b : UInt64, (now.plusSeconds a.toNat).plusSeconds b.toNat =
      now.plusSeconds (min (a.toNat + b.toNat) (2 ^ 64 - 1))) ∧
    (∀ (t : Template) (r : SubjectRecord) (issuer : IssuerId) (fresh : CredentialId)
      (cs : ClaimSet) (v : Nat), t.Valid → buildClaims t r issuer now fresh = .ok cs →
      t.validitySecs = some v →
      cs.payload.get? "nbf" = cs.payload.get? "iat" ∧
      cs.payload.get? "iat" = some (Json.ofInt now.seconds) ∧
      cs.payload.get? "exp" = some (Json.ofInt (min (now.seconds + v) latestSeconds)) ∧
      now.seconds ≤ min (now.seconds + v) latestSeconds) := by
  have hrange := hnow.inRange
  refine ⟨seconds_plusSeconds hrange, fun m n hmn => plusSeconds_le_plusSeconds hrange hmn,
    le_plusSeconds hrange, fun n hn hlt => lt_plusSeconds hrange hn hlt,
    plusSeconds_plusSeconds_saturating hrange, ?_⟩
  intro t r issuer fresh cs v ht h hv
  obtain ⟨hnbf, hiat, hexp⟩ := ClaimSet.payload_times ht h hv
  refine ⟨hnbf, hiat, by rw [hexp, seconds_plusSeconds hrange], ?_⟩
  have := hrange.le_latest
  omega

theorem plusSeconds_saturates_midJanuary :
    (ofSeconds 1768478400).Made ∧
      ((ofSeconds 1768478400).plusSeconds 86400).seconds = min (1768478400 + 86400) latestSeconds :=
  ⟨.parsed parse_midJanuary, (plusSeconds_saturates (.parsed parse_midJanuary)).1 86400⟩

/-- Made timestamps are whole seconds unless saturated.  Every made timestamp is a whole second
or the last instant; one that is not the last instant becomes it exactly when the seconds added
run past the last second; and two made timestamps are equal exactly when their seconds are
equal and both or neither is the last instant. -/
theorem made_whole_unless_saturated {t u : Timestamp} (ht : t.Made) (hu : u.Made) :
    (t.nanos = 0 ∨ t = latest) ∧
    (t ≠ latest → ∀ n : Nat, t.plusSeconds n = latest ↔ latestSeconds < t.seconds + n) ∧
    (t = u ↔ t.seconds = u.seconds ∧ (t = latest ↔ u = latest)) := by
  have hwt := ht.nanos_eq_zero_or_latest
  have hwu := hu.nanos_eq_zero_or_latest
  refine ⟨hwt, fun hne n => ⟨fun h => ?_, plusSeconds_of_lt ht.inRange⟩, ⟨by rintro rfl; simp, ?_⟩⟩
  · -- within the range the sum keeps the zero fraction, which the last instant has not
    by_contra hle
    rw [plusSeconds_of_le ht.inRange (not_lt.mp hle)] at h
    have hnanos := congrArg nanos h
    simp only [latest, hwt.resolve_right hne] at hnanos
    omega
  · rintro ⟨hs, hl⟩
    by_cases htl : t = latest
    · exact htl.trans (hl.mp htl).symm
    · have hul : u ≠ latest := fun h => htl (hl.mpr h)
      exact eq_iff.mpr ⟨hs, by rw [hwt.resolve_right htl, hwu.resolve_right hul]⟩

theorem made_whole_unless_saturated_midJanuary :
    (ofSeconds 1768478400).Made ∧ (ofSeconds 1768478400).nanos = 0 :=
  ⟨.parsed parse_midJanuary,
    (made_whole_unless_saturated (.parsed parse_midJanuary) (.parsed parse_midJanuary)).1.resolve_right
      (by decide)⟩

/-- Not every made timestamp is a whole second: `2026-01-15T12:00:00Z` moved by `2 ^ 64 - 1`
seconds is the last instant, fraction included, and moved by `8208498398399` seconds it is the
whole second with the same seconds. -/
theorem plusSeconds_past_range_keeps_fraction :
    latest.Made ∧ latest.nanos = 999999999 ∧ (ofSeconds latestSeconds).Made ∧
      latest.seconds = (ofSeconds latestSeconds).seconds ∧ latest ≠ ofSeconds latestSeconds := by
  have hjan : (ofSeconds 1768478400).Made := .parsed parse_midJanuary
  have hpast : (ofSeconds 1768478400).plusSeconds (18446744073709551615 : UInt64).toNat = latest := by
    decide
  have hexact :
      (ofSeconds 1768478400).plusSeconds (8208498398399 : UInt64).toNat = ofSeconds latestSeconds := by
    decide
  exact ⟨hpast ▸ .plus _ hjan, rfl, hexact ▸ .plus _ hjan, rfl, by decide⟩

end Timestamp

end Attest
