import Attest.Proofs.UuidText
import Attest.Proofs.Coercion

/-!
# Hexadecimal texts

`Hex.encode` writes each byte as two lowercase digits.  `Hex.decode` trims blanks, refuses a
text of odd byte length, then a text with a character outside ASCII, and reads the rest pair
by pair, reporting the first pair that is no byte at its byte offset.  A pair is a byte when
both characters are hexadecimal digits, and also when the first is `+` and the second a digit,
the sign that base-16 parsing of a byte accepts (`decode_plus_digit`).

Main statements:

* what is written reads back as the bytes it came from, with any blanks around it, and two byte
  strings are never written alike (`decode_encode_blanks`, `encode_injective`);
* for a text whose trimmed form holds no `+`, decoding succeeds exactly when the trimmed text
  is an even number of hexadecimal digits, writing the bytes back gives that text in lowercase,
  and a failure is the first failing check, a bad pair reported at the byte size of the whole
  characters before it (`decode_hex_text`).
-/

namespace Attest

namespace Hex

/-! ## Characters -/

theorem toNat_ofNat_of_lt {n : Nat} (h : n < 55296) : (Char.ofNat n).toNat = n := by
  rw [Char.ofNat, dif_pos (Or.inl h)]
  exact BitVec.toNat_ofNatLT ..

/-- Lowercasing moves `A`–`Z` to `a`–`z` and keeps every other character. -/
theorem toNat_toLower (c : Char) :
    c.toLower.toNat = if 65 ≤ c.toNat ∧ c.toNat ≤ 90 then c.toNat + 32 else c.toNat := by
  have hA : ('A' : Char).toNat = 65 := rfl
  have hZ : ('Z' : Char).toNat = 90 := rfl
  unfold Char.toLower
  split
  · rename_i h
    have h32 : ('a'.val - 'A'.val).toNat = 32 := by decide
    simp only [ge_iff_le, UInt32.le_iff_toNat_le, Char.toNat_val] at h
    rw [Char.toNat_mk, UInt32.toNat_add, h32, Char.toNat_val, if_pos (by omega)]
    omega
  · rename_i h
    simp only [ge_iff_le, UInt32.le_iff_toNat_le, Char.toNat_val] at h
    rw [if_neg (by omega)]

/-- The digits with a value are exactly the hexadecimal digits `[0-9a-fA-F]`. -/
theorem digitValue?_isSome (c : Char) : (digitValue? c).isSome = c.isHexDigit := by
  unfold digitValue? Char.isHexDigit Char.isDigit
  simp only [Char.le_def, ge_iff_le]
  split_ifs <;> simp_all

/-- A digit's value is written back as the digit in lowercase. -/
theorem digitChar_of_digitValue? {c : Char} {d : Nat} (h : digitValue? c = some d) :
    digitChar d = c.toLower := by
  have h0 : ('0' : Char).toNat = 48 := rfl
  have h9 : ('9' : Char).toNat = 57 := rfl
  have ha : ('a' : Char).toNat = 97 := rfl
  have hf : ('f' : Char).toNat = 102 := rfl
  have hA : ('A' : Char).toNat = 65 := rfl
  have hF : ('F' : Char).toNat = 70 := rfl
  apply Char.toNat_inj.mp
  rw [toNat_toLower]
  unfold digitValue? at h
  split_ifs at h <;> cases h
  all_goals
    simp only [Char.le_def, UInt32.le_iff_toNat_le, Char.toNat_val] at *
    unfold digitChar
    split_ifs <;> rw [toNat_ofNat_of_lt (by omega)] <;> omega

theorem toNat_lt_of_isHexDigit {c : Char} (h : c.isHexDigit) : c.toNat < 128 := by
  simp only [Char.isHexDigit, Char.isDigit, Bool.or_eq_true, Bool.and_eq_true, decide_eq_true_eq,
    ge_iff_le, UInt32.le_iff_toNat_le, Char.toNat_val] at h
  have : ('9' : Char).toNat = 57 := rfl
  have : ('f' : Char).toNat = 102 := rfl
  have : ('F' : Char).toNat = 70 := rfl
  omega

theorem isBlank_of_isHexDigit {c : Char} (h : c.isHexDigit) : Text.isBlank c = false := by
  simp only [Char.isHexDigit, Char.isDigit, Bool.or_eq_true, Bool.and_eq_true, decide_eq_true_eq,
    ge_iff_le, UInt32.le_iff_toNat_le, Char.toNat_val] at h
  simp only [Text.isBlank, Text.blankRanges, List.any_cons, List.any_nil, Bool.or_false,
    Bool.or_eq_false_iff, Bool.and_eq_false_iff, decide_eq_false_iff_not, not_le]
  have : ('0' : Char).toNat = 48 := rfl
  have : ('9' : Char).toNat = 57 := rfl
  have : ('a' : Char).toNat = 97 := rfl
  have : ('f' : Char).toNat = 102 := rfl
  have : ('A' : Char).toNat = 65 := rfl
  have : ('F' : Char).toNat = 70 := rfl
  omega

theorem isHexDigit_digitChar {d : Nat} (h : d < 16) : (digitChar d).isHexDigit := by
  revert d
  decide

/-! ## Pairs -/

/-- Two lowercase digits of a byte, in order. -/
theorem byteChars_eq (v : UInt8) :
    byteChars v = [digitChar (v.toNat / 16), digitChar (v.toNat % 16)] := rfl

theorem length_flatMap_byteChars (bytes : Bytes) :
    (bytes.flatMap byteChars).length = 2 * bytes.length := by
  induction bytes with
  | nil => rfl
  | cons v rest ih =>
    rw [List.flatMap_cons, List.length_append, ih, byteChars_eq]
    simp only [List.length_cons, List.length_nil]
    omega

/-- Two digits read as the byte whose digits they are, in lowercase. -/
theorem pairValue?_of_isHexDigit {a b : Char} (ha : a.isHexDigit) (hb : b.isHexDigit) :
    ∃ v, pairValue? a b = some v ∧ byteChars v = [a.toLower, b.toLower] := by
  obtain ⟨x, hx⟩ := Option.isSome_iff_exists.mp ((digitValue?_isSome a).trans ha)
  obtain ⟨y, hy⟩ := Option.isSome_iff_exists.mp ((digitValue?_isSome b).trans hb)
  have hx16 := Uuid.digitValue?_lt hx
  have hy16 := Uuid.digitValue?_lt hy
  refine ⟨(x * 16 + y).toUInt8, by simp [pairValue?, hx, hy], ?_⟩
  have hval : (x * 16 + y).toUInt8.toNat = x * 16 + y := by
    simp only [Nat.toUInt8_eq, UInt8.toNat_ofNat']
    omega
  rw [byteChars_eq, hval, ← digitChar_of_digitValue? hx, ← digitChar_of_digitValue? hy]
  congr 3 <;> omega

/-- A pair that does not start with `+` is a byte only when both are digits. -/
theorem isHexDigit_of_pairValue? {a b : Char} {v : UInt8} (hplus : a ≠ '+')
    (h : pairValue? a b = some v) : a.isHexDigit ∧ b.isHexDigit := by
  unfold pairValue? at h
  rw [← digitValue?_isSome, ← digitValue?_isSome]
  split at h
  · rename_i hx hy
    simp [hx, hy]
  · rw [if_neg hplus] at h
    cases h
  · cases h

/-! ## Reading pairs -/

/-- The digits of a byte string read back as the byte string. -/
theorem decodePairs_byteChars (p : Nat) (bytes : Bytes) :
    decodePairs p (bytes.flatMap byteChars) = .ok bytes := by
  induction bytes generalizing p with
  | nil => rfl
  | cons v rest ih =>
    have hv := v.toNat_lt
    have hpair : pairValue? (digitChar (v.toNat / 16)) (digitChar (v.toNat % 16)) = some v := by
      simp only [pairValue?, Uuid.digitValue?_digitChar (show v.toNat / 16 < 16 by omega),
        Uuid.digitValue?_digitChar (show v.toNat % 16 < 16 by omega)]
      congr 1
      rw [show v.toNat / 16 * 16 + v.toNat % 16 = v.toNat by omega]
      exact UInt8.ofNat_toNat
    simp only [List.flatMap_cons, byteChars_eq, List.cons_append, List.nil_append, decodePairs,
      hpair, ih]
    rfl

theorem flatMap_byteChars_injective {xs ys : Bytes}
    (h : xs.flatMap byteChars = ys.flatMap byteChars) : xs = ys := by
  have hx := decodePairs_byteChars 0 xs
  rw [h, decodePairs_byteChars] at hx
  exact (Except.ok.inj hx).symm

/-- An even run of digits reads as some bytes, whatever the case of its letters. -/
theorem decodePairs_of_isHexDigit (p : Nat) {cs : List Char} (hcs : ∀ c ∈ cs, c.isHexDigit)
    (heven : Even cs.length) : ∃ bytes, decodePairs p cs = .ok bytes := by
  fun_induction decodePairs p cs with
  | case1 p a b rest v hv ih =>
    obtain ⟨bytes, hbytes⟩ := ih (fun c hc => hcs c (by simp [hc]))
      (by simpa [Nat.even_add_one, parity_simps] using heven)
    exact ⟨v :: bytes, by rw [hbytes]; rfl⟩
  | case2 p a b rest hnone =>
    obtain ⟨v, hv, -⟩ := pairValue?_of_isHexDigit (hcs a (by simp)) (hcs b (by simp))
    rw [hv] at hnone
    cases hnone
  | case3 => exact ⟨[], rfl⟩

/-- Without `+`, an even run of characters reads as bytes exactly when all are digits, and the
bytes are written back as the run in lowercase. -/
theorem decodePairs_eq_ok {p : Nat} {cs : List Char} {bytes : Bytes} (hplus : '+' ∉ cs)
    (heven : Even cs.length) (h : decodePairs p cs = .ok bytes) :
    (∀ c ∈ cs, c.isHexDigit) ∧ bytes.flatMap byteChars = cs.map Char.toLower := by
  fun_induction decodePairs p cs generalizing bytes with
  | case1 p a b rest v hv ih =>
    obtain ⟨bs, hbs, rfl⟩ : ∃ bs, decodePairs (p + 2) rest = .ok bs ∧ bytes = v :: bs := by
      cases hrest : decodePairs (p + 2) rest <;> rw [hrest] at h <;> cases h
      exact ⟨_, rfl, rfl⟩
    have hab := isHexDigit_of_pairValue? (fun he => hplus (by simp [he])) hv
    obtain ⟨w, hw, hchars⟩ := pairValue?_of_isHexDigit hab.1 hab.2
    rw [hv, Option.some.injEq] at hw
    subst hw
    obtain ⟨hrest, hmap⟩ := ih (fun hm => hplus (by simp [hm]))
      (by simpa [Nat.even_add_one, parity_simps] using heven) hbs
    refine ⟨?_, by simp [hchars, hmap]⟩
    simp only [List.mem_cons, forall_eq_or_imp]
    exact ⟨hab.1, hab.2, hrest⟩
  | case2 => cases h
  | case3 cs p hcs =>
    cases h
    -- an even run that is not two characters and more is empty
    match cs, heven with
    | [], _ => simp
    | [c], heven => simp at heven
    | a :: b :: rest, _ => exact absurd rfl (hcs a b rest)

theorem decodePairs_eq_ok_iff {p : Nat} {cs : List Char} {bytes : Bytes} (hplus : '+' ∉ cs)
    (heven : Even cs.length) :
    decodePairs p cs = .ok bytes ↔
      (∀ c ∈ cs, c.isHexDigit) ∧ bytes.flatMap byteChars = cs.map Char.toLower := by
  refine ⟨decodePairs_eq_ok hplus heven, fun ⟨hcs, hmap⟩ => ?_⟩
  obtain ⟨bs, hbs⟩ := decodePairs_of_isHexDigit p hcs heven
  rw [hbs, flatMap_byteChars_injective ((decodePairs_eq_ok hplus heven hbs).2.trans hmap.symm)]

/-- Without `+`, reading pairs fails exactly at the first pair that is not two digits, and
reports the offset at which that pair starts. -/
theorem decodePairs_eq_error_iff {p : Nat} {cs : List Char} {e : DecodeError} (hplus : '+' ∉ cs) :
    decodePairs p cs = .error e ↔
      ∃ pre a b post, cs = pre ++ a :: b :: post ∧ Even pre.length ∧ (∀ c ∈ pre, c.isHexDigit) ∧
        ¬(a.isHexDigit ∧ b.isHexDigit) ∧ e = .invalidDigit (p + pre.length) := by
  fun_induction decodePairs p cs with
  | case1 p a b rest v hv ih =>
    have hab := isHexDigit_of_pairValue? (fun he => hplus (by simp [he])) hv
    have ih := ih (fun hm => hplus (by simp [hm]))
    constructor
    · intro h
      cases hrest : decodePairs (p + 2) rest <;> rw [hrest] at h <;> cases h
      obtain ⟨pre, a', b', post, rfl, hpre, hdig, hbad, rfl⟩ := ih.mp hrest
      refine ⟨a :: b :: pre, a', b', post, rfl, by simpa [parity_simps] using hpre, ?_, hbad, ?_⟩
      · simp only [List.mem_cons]
        rintro c (rfl | rfl | hc)
        exacts [hab.1, hab.2, hdig c hc]
      · simp only [List.length_cons]
        congr 1
        omega
    · rintro ⟨pre, a', b', post, hcs, hpre, hdig, hbad, rfl⟩
      match pre, hcs, hpre with
      | [], hcs, _ =>
        -- the first pair is a byte, so it is no bad pair
        simp only [List.nil_append, List.cons.injEq] at hcs
        obtain ⟨rfl, rfl, -⟩ := hcs
        exact absurd hab hbad
      | [_], _, hpre => simp at hpre
      | x :: y :: pre, hcs, hpre =>
        simp only [List.cons_append, List.cons.injEq] at hcs
        obtain ⟨rfl, rfl, rfl⟩ := hcs
        have hrest := ih.mpr ⟨pre, a', b', post, rfl, by simpa [parity_simps] using hpre,
          fun c hc => hdig c (by simp [hc]), hbad, by simp only [List.length_cons]; congr 1; omega⟩
        rw [hrest]
        rfl
  | case2 p a b rest hnone =>
    constructor
    · intro h
      cases h
      refine ⟨[], a, b, rest, rfl, by simp, by simp, fun hab => ?_, rfl⟩
      obtain ⟨v, hv, -⟩ := pairValue?_of_isHexDigit hab.1 hab.2
      rw [hv] at hnone
      cases hnone
    · rintro ⟨pre, a', b', post, hcs, hpre, hdig, hbad, rfl⟩
      match pre, hcs, hpre with
      | [], _, _ => rfl
      | [_], _, hpre => simp at hpre
      | x :: y :: pre, hcs, _ =>
        -- a first pair of two digits would have been a byte
        simp only [List.cons_append, List.cons.injEq] at hcs
        obtain ⟨rfl, rfl, -⟩ := hcs
        obtain ⟨v, hv, -⟩ := pairValue?_of_isHexDigit (hdig _ List.mem_cons_self)
          (hdig _ (List.mem_cons_of_mem _ List.mem_cons_self))
        rw [hv] at hnone
        cases hnone
  | case3 cs p hcs =>
    constructor
    · intro h
      cases h
    · rintro ⟨pre, a, b, post, rfl, hpre, -, -, -⟩
      match pre, hpre with
      | [], _ => exact absurd rfl (hcs a b post)
      | [_], hpre => simp at hpre
      | x :: y :: pre, _ => exact absurd rfl (hcs x y (pre ++ a :: b :: post))

/-! ## Trimming and byte sizes -/

theorem foldl_utf8Size (cs : List Char) (k : Nat) :
    cs.foldl (fun n c => n + c.utf8Size) k = k + (String.ofList cs).utf8ByteSize := by
  induction cs generalizing k with
  | nil => simp
  | cons c cs ih =>
    rw [List.foldl_cons, ih, String.ofList_cons, String.utf8ByteSize_append,
      String.utf8ByteSize_singleton]
    omega

theorem toList_trim (s : String) : (Text.trim s).toList = Text.trimChars s.toList :=
  String.toList_ofList

theorem dropBlanks_blanks_append {pre : List Char} (hpre : ∀ c ∈ pre, Text.isBlank c)
    (rest : List Char) : Text.dropBlanks (pre ++ rest) = Text.dropBlanks rest := by
  induction pre with
  | nil => rfl
  | cons c pre ih =>
    rw [List.cons_append, Text.dropBlanks, if_pos (hpre c (by simp)),
      ih fun d hd => hpre d (by simp [hd])]

/-- Blanks around a text without blanks are trimmed away. -/
theorem trimChars_blanks {pre cs post : List Char} (hpre : ∀ c ∈ pre, Text.isBlank c)
    (hpost : ∀ c ∈ post, Text.isBlank c) (hcs : ∀ c ∈ cs, Text.isBlank c = false) :
    Text.trimChars (pre ++ cs ++ post) = cs := by
  have hblank : Text.dropBlanks post = [] := by
    have h := dropBlanks_blanks_append hpost []
    rw [List.append_nil] at h
    rw [h]
    rfl
  unfold Text.trimChars
  rw [List.append_assoc, dropBlanks_blanks_append hpre]
  cases cs with
  | nil => simp [hblank, Text.dropBlanks]
  | cons c cs =>
    -- the text's last character is no blank, so trimming the reversed text stops there
    obtain ⟨d, ds, hrev⟩ := List.exists_cons_of_ne_nil (List.reverse_ne_nil_iff.mpr
      (List.cons_ne_nil c cs))
    have hd : Text.isBlank d = false := by
      have hmem : d ∈ (c :: cs).reverse := by
        rw [hrev]
        exact List.mem_cons_self
      exact hcs d (List.mem_reverse.mp hmem)
    rw [List.cons_append, Calendar.dropBlanks_of_not_blank (hcs c List.mem_cons_self),
      ← List.cons_append, List.reverse_append,
      dropBlanks_blanks_append (fun x hx => hpost x (List.mem_reverse.mp hx)), hrev,
      Calendar.dropBlanks_of_not_blank hd, ← hrev, List.reverse_reverse]

theorem utf8ByteSize_of_ascii {cs : List Char} (h : ∀ c ∈ cs, c.toNat < 128) :
    (String.ofList cs).utf8ByteSize = cs.length :=
  Uuid.utf8ByteSize_ofList_ascii fun c hc => by
    have := h c hc
    rw [Char.utf8Size_eq_one_iff, UInt32.le_iff_toNat_le, Char.toNat_val]
    simp only [UInt32.reduceToNat]
    omega

/-! ## Decoding texts -/

/-- Decoding in terms of the trimmed text: its byte size, its characters, then its pairs. -/
theorem decode_eq (s : String) :
    decode s =
      if (Text.trim s).utf8ByteSize % 2 ≠ 0 then .error (.oddLength (Text.trim s).utf8ByteSize)
      else if (Text.trim s).toList.any (fun c => c.toNat ≥ 128) then .error .nonAscii
      else decodePairs 0 (Text.trim s).toList := by
  simp only [decode, toList_trim, foldl_utf8Size, Nat.zero_add]
  rfl

/-- What is written reads back as the bytes it came from, with any blanks around it. -/
theorem decode_encode_blanks (bytes : Bytes) {pre post : List Char}
    (hblank : ∀ c ∈ pre ++ post, Text.isBlank c) :
    decode (String.ofList (pre ++ (encode bytes).toList ++ post)) = .ok bytes := by
  have hdigits : ∀ c ∈ bytes.flatMap byteChars, c.isHexDigit := by
    simp only [List.mem_flatMap, byteChars_eq, List.mem_cons, List.not_mem_nil, or_false]
    rintro c ⟨v, -, rfl | rfl⟩ <;> exact isHexDigit_digitChar (by have := v.toNat_lt; omega)
  have htrim : Text.trim (String.ofList (pre ++ (encode bytes).toList ++ post)) =
      encode bytes := by
    rw [Text.trim, String.toList_ofList, encode, String.toList_ofList,
      trimChars_blanks (fun c hc => hblank c (by simp [hc])) (fun c hc => hblank c (by simp [hc]))
        (fun c hc => isBlank_of_isHexDigit (hdigits c hc))]
  have hascii : ∀ c ∈ bytes.flatMap byteChars, c.toNat < 128 :=
    fun c hc => toNat_lt_of_isHexDigit (hdigits c hc)
  have hany : (bytes.flatMap byteChars).any (fun c => c.toNat ≥ 128) = false :=
    List.any_eq_false.mpr fun c hc => by
      have := hascii c hc
      simp only [ge_iff_le, decide_eq_true_eq]
      omega
  rw [decode_eq, htrim, encode, utf8ByteSize_of_ascii hascii, length_flatMap_byteChars, String.toList_ofList,
    if_neg (by omega), hany, if_neg Bool.false_ne_true, decodePairs_byteChars]

theorem encode_injective {xs ys : Bytes} (h : encode xs = encode ys) : xs = ys :=
  flatMap_byteChars_injective (String.ofList_injective h)

/-- Why the trimmed text of a hexadecimal string is refused, in the order of the checks. -/
inductive Refusal (t : String) : DecodeError → Prop
  /-- An odd number of bytes. -/
  | oddLength : t.utf8ByteSize % 2 = 1 → Refusal t (.oddLength t.utf8ByteSize)
  /-- An even number of bytes, and a character outside ASCII. -/
  | nonAscii {c : Char} : t.utf8ByteSize % 2 = 0 → c ∈ t.toList → 128 ≤ c.toNat →
      Refusal t .nonAscii
  /-- Even ASCII whose first pair that is not two digits follows `pre`, reported at the byte
  offset of that pair. -/
  | invalidDigit {pre post : List Char} {a b : Char} : t.utf8ByteSize % 2 = 0 →
      (∀ c ∈ t.toList, c.toNat < 128) → t.toList = pre ++ a :: b :: post → Even pre.length →
      (∀ c ∈ pre, c.isHexDigit) → ¬(a.isHexDigit ∧ b.isHexDigit) →
      Refusal t (.invalidDigit (String.ofList pre).utf8ByteSize)

/-- Without `+` in the trimmed text, decoding fails exactly as `Refusal` says. -/
theorem decode_eq_error_iff {s : String} {e : DecodeError} (hs : '+' ∉ (Text.trim s).toList) :
    decode s = .error e ↔ Refusal (Text.trim s) e := by
  rw [decode_eq]
  by_cases hodd : (Text.trim s).utf8ByteSize % 2 = 0
  · rw [if_neg (by omega)]
    by_cases hascii : ∀ c ∈ (Text.trim s).toList, c.toNat < 128
    · rw [if_neg (by simpa using hascii), decodePairs_eq_error_iff hs]
      constructor
      · rintro ⟨pre, a, b, post, hcs, hpre, hdig, hbad, rfl⟩
        have hpos : (String.ofList pre).utf8ByteSize = pre.length :=
          utf8ByteSize_of_ascii fun c hc => hascii c (by simp [hcs, hc])
        rw [Nat.zero_add, ← hpos]
        exact .invalidDigit hodd hascii hcs hpre hdig hbad
      · rintro (hodd' | ⟨-, hc, hbig⟩ | ⟨-, -, hcs, hpre, hdig, hbad⟩)
        · omega
        · have := hascii _ hc
          omega
        · refine ⟨_, _, _, _, hcs, hpre, hdig, hbad, ?_⟩
          rw [Nat.zero_add, utf8ByteSize_of_ascii fun c hc => hascii c (by simp [hcs, hc])]
    · obtain ⟨c, hc, hbig⟩ : ∃ c ∈ (Text.trim s).toList, 128 ≤ c.toNat := by
        simpa using hascii
      rw [if_pos (List.any_eq_true.mpr ⟨c, hc, by simpa using hbig⟩)]
      constructor
      · rintro ⟨⟩
        exact .nonAscii hodd hc hbig
      · rintro (hodd' | - | ⟨-, hall, -⟩)
        · omega
        · rfl
        · exact absurd (hall c hc) (by omega)
  · rw [if_pos hodd]
    constructor
    · rintro ⟨⟩
      exact .oddLength (by omega)
    · rintro (- | ⟨hodd', -⟩ | ⟨hodd', -⟩)
      · rfl
      all_goals omega

theorem utf8ByteSize_eq_length {t : String} (h : ∀ c ∈ t.toList, c.toNat < 128) :
    t.utf8ByteSize = t.toList.length := by
  have hsize := utf8ByteSize_of_ascii h
  rwa [String.ofList_toList] at hsize

/-- Without `+` in the trimmed text, decoding succeeds exactly on an even run of digits, and
the bytes are then written as the run in lowercase. -/
theorem decode_eq_ok_iff {s : String} {bytes : Bytes} (hs : '+' ∉ (Text.trim s).toList) :
    decode s = .ok bytes ↔
      (∀ c ∈ (Text.trim s).toList, c.isHexDigit) ∧ Even (Text.trim s).toList.length ∧
        bytes.flatMap byteChars = (Text.trim s).toList.map Char.toLower := by
  rw [decode_eq]
  constructor
  · intro h
    split_ifs at h with hodd hany
    have hascii : ∀ c ∈ (Text.trim s).toList, c.toNat < 128 := by
      intro c hc
      have := List.any_eq_false.mp (Bool.of_not_eq_true hany) c hc
      simpa using this
    have heven : Even (Text.trim s).toList.length := by
      rw [← utf8ByteSize_eq_length hascii, Nat.even_iff]
      omega
    obtain ⟨hdig, hmap⟩ := decodePairs_eq_ok hs heven h
    exact ⟨hdig, heven, hmap⟩
  · rintro ⟨hdig, heven, hmap⟩
    have hascii : ∀ c ∈ (Text.trim s).toList, c.toNat < 128 :=
      fun c hc => toNat_lt_of_isHexDigit (hdig c hc)
    have hany : (Text.trim s).toList.any (fun c => c.toNat ≥ 128) = false :=
      List.any_eq_false.mpr fun c hc => by
        have := hascii c hc
        simp only [ge_iff_le, decide_eq_true_eq]
        omega
    rw [utf8ByteSize_eq_length hascii, if_neg (by rw [Nat.even_iff] at heven; omega), hany,
      if_neg Bool.false_ne_true]
    exact (decodePairs_eq_ok_iff hs heven).mpr ⟨hdig, hmap⟩

/-- Hexadecimal texts are read by their grammar.  What is written reads back with any blanks
around it; and for a text whose trimmed form holds no `+`, decoding succeeds exactly when the
trimmed text is an even number of hexadecimal digits, the bytes are then written back as the
trimmed text in lowercase, and a failure is the first failing check (`Refusal`): odd byte
length, a character outside ASCII, or the first pair that is not two digits, at its byte
offset. -/
theorem decode_hex_text (s : String) (hs : '+' ∉ (Text.trim s).toList) :
    (∀ (bytes : Bytes) (pre post : List Char), (∀ c ∈ pre ++ post, Text.isBlank c) →
      decode (String.ofList (pre ++ (encode bytes).toList ++ post)) = .ok bytes) ∧
    ((∃ bytes, decode s = .ok bytes) ↔
      (∀ c ∈ (Text.trim s).toList, c.isHexDigit) ∧ Even (Text.trim s).toList.length) ∧
    (∀ bytes, decode s = .ok bytes → encode bytes = (Text.trim s).toLower) ∧
    (∀ e, decode s = .error e ↔ Refusal (Text.trim s) e) := by
  refine ⟨fun bytes pre post hblank => decode_encode_blanks bytes hblank, ⟨?_, ?_⟩, ?_,
    fun e => decode_eq_error_iff hs⟩
  · rintro ⟨bytes, h⟩
    obtain ⟨hdig, heven, -⟩ := (decode_eq_ok_iff hs).mp h
    exact ⟨hdig, heven⟩
  · rintro ⟨hdig, heven⟩
    -- the pairs read as some bytes, and those are written as the run in lowercase
    obtain ⟨bytes, hbytes⟩ := decodePairs_of_isHexDigit 0 hdig heven
    exact ⟨bytes, (decode_eq_ok_iff hs).mpr ⟨hdig, heven, (decodePairs_eq_ok hs heven hbytes).2⟩⟩
  · intro bytes h
    obtain ⟨-, -, hmap⟩ := (decode_eq_ok_iff hs).mp h
    rw [encode, hmap, ← String.toList_map, String.ofList_toList]
    rfl

theorem decode_hex_text_deadbeef :
    '+' ∉ (Text.trim "  DEADbeef\n").toList ∧
      encode [0xde, 0xad, 0xbe, 0xef] = (Text.trim "  DEADbeef\n").toLower :=
  have hs : '+' ∉ (Text.trim "  DEADbeef\n").toList := by decide +kernel
  ⟨hs, (decode_hex_text "  DEADbeef\n" hs).2.2.1 _ (by decide +kernel)⟩

/-- A `+` and a digit read as a byte: `+a` decodes to `0a`, though `+` is no hexadecimal digit
and `0a` is not `+a` in lowercase. -/
theorem decode_plus_digit :
    decode "+a" = .ok [10] ∧ (Text.trim "+a").toList = ['+', 'a'] ∧ '+'.isHexDigit = false ∧
      encode [10] = "0a" :=
  ⟨by decide +kernel, by decide +kernel, by decide, by decide +kernel⟩

end Hex

end Attest
