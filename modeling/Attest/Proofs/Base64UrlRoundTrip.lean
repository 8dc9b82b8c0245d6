import Attest.Encoding.Base64Url

/-!
# Base64url decoding inverts encoding

Each group of three bytes is a 24-bit number written as four 6-bit digits, and a final one
or two bytes are written with the low bits of their last digit zero, which is exactly what
decoding checks.  So `Base64Url.decode (Base64Url.encode bs) = some bs` for every byte
string, and every character of an encoding is in the alphabet: in particular none is a dot,
which is what lets dots separate the segments of a compact token.
-/

namespace Attest

namespace Base64Url

/-- Each of the 64 digits reads back as its value. -/
theorem valueOf?_charOf : ∀ n, n < 64 → valueOf? (charOf n) = some n := by
  decide

theorem charOf_of_le {n : Nat} (h : 64 ≤ n) : charOf n = '_' := by
  simp only [charOf]
  rw [if_neg (by omega), if_neg (by omega), if_neg (by omega), if_neg (by omega)]

theorem isSome_valueOf?_charOf (n : Nat) : (valueOf? (charOf n)).isSome := by
  by_cases h : n < 64
  · simp [valueOf?_charOf n h]
  · rw [charOf_of_le (by omega)]
    decide

/-- Four 6-bit digits of a number give it back. -/
theorem join_sextets (n : Nat) :
    n / 262144 * 262144 + n / 4096 % 64 * 4096 + n / 64 % 64 * 64 + n % 64 = n := by
  omega

theorem toUInt8_of_eq_toNat {a : UInt8} {m : Nat} (h : m = a.toNat) : m.toUInt8 = a := by
  simp [h]

/-! ## Groups -/

theorem decodeChars_encodeChars_cons₃ (a b c : UInt8) (rest : Bytes) :
    decodeChars (encodeChars (a :: b :: c :: rest)) =
      (decodeChars (encodeChars rest)).map (a :: b :: c :: ·) := by
  have ha := a.toNat_lt
  have hb := b.toNat_lt
  have hc := c.toNat_lt
  simp only [encodeChars, decodeChars]
  rw [valueOf?_charOf _ (by omega), valueOf?_charOf _ (by omega), valueOf?_charOf _ (by omega),
    valueOf?_charOf _ (by omega)]
  simp only [bind, Option.bind]
  rw [join_sextets]
  cases decodeChars (encodeChars rest) with
  | none => rfl
  | some tail =>
    simp only [Option.map_some, List.cons.injEq, Option.some.injEq]
    exact ⟨toUInt8_of_eq_toNat (by omega), toUInt8_of_eq_toNat (by omega),
      toUInt8_of_eq_toNat (by omega), trivial⟩

-- the last digit of two bytes carries two zero bits, which decoding checks
theorem decodeChars_encodeChars_pair (a b : UInt8) :
    decodeChars (encodeChars [a, b]) = some [a, b] := by
  have ha := a.toNat_lt
  have hb := b.toNat_lt
  simp only [encodeChars, decodeChars]
  rw [valueOf?_charOf _ (by omega), valueOf?_charOf _ (by omega), valueOf?_charOf _ (by omega)]
  simp only [bind, Option.bind]
  rw [if_pos (by omega)]
  simp only [Option.some.injEq, List.cons.injEq]
  exact ⟨toUInt8_of_eq_toNat (by omega), toUInt8_of_eq_toNat (by omega), trivial⟩

-- the last digit of one byte carries four zero bits
theorem decodeChars_encodeChars_single (a : UInt8) :
    decodeChars (encodeChars [a]) = some [a] := by
  have ha := a.toNat_lt
  simp only [encodeChars, decodeChars]
  rw [valueOf?_charOf _ (by omega), valueOf?_charOf _ (by omega)]
  simp only [bind, Option.bind]
  rw [if_pos (by omega)]
  simp only [Option.some.injEq, List.cons.injEq]
  exact ⟨toUInt8_of_eq_toNat (by omega), trivial⟩

theorem decodeChars_encodeChars (bs : Bytes) : decodeChars (encodeChars bs) = some bs := by
  induction bs using encodeChars.induct with
  | case1 a b c rest ih => rw [decodeChars_encodeChars_cons₃, ih]; rfl
  | case2 a b => exact decodeChars_encodeChars_pair a b
  | case3 a => exact decodeChars_encodeChars_single a
  | case4 => rfl

/-- Decoding an encoding gives the bytes back. -/
theorem decode_encode (bs : Bytes) : decode (encode bs) = some bs := by
  rw [decode, encode, String.toList_ofList, decodeChars_encodeChars]

/-! ## The alphabet -/

theorem isSome_valueOf?_of_mem_encodeChars {c : Char} {bs : Bytes} (h : c ∈ encodeChars bs) :
    (valueOf? c).isSome := by
  induction bs using encodeChars.induct with
  | case1 a b d rest ih =>
    simp only [encodeChars, List.mem_cons] at h
    rcases h with rfl | rfl | rfl | rfl | h
    any_goals exact isSome_valueOf?_charOf _
    exact ih h
  | case2 a b =>
    simp only [encodeChars, List.mem_cons, List.not_mem_nil, or_false] at h
    rcases h with rfl | rfl | rfl <;> exact isSome_valueOf?_charOf _
  | case3 a =>
    simp only [encodeChars, List.mem_cons, List.not_mem_nil, or_false] at h
    rcases h with rfl | rfl <;> exact isSome_valueOf?_charOf _
  | case4 => simp [encodeChars] at h

/-- An encoding holds no dot. -/
theorem dot_not_mem_encode (bs : Bytes) : '.' ∉ (encode bs).toList := by
  intro h
  rw [encode, String.toList_ofList] at h
  have hdot : valueOf? '.' = none := by decide
  simpa [hdot] using isSome_valueOf?_of_mem_encodeChars h

end Base64Url

end Attest
