import Attest.Identity
import Mathlib.Tactic.Ring
import Mathlib.Data.List.Basic

/-!
# UUID texts

A UUID is written as 32 lowercase hexadecimal digits in five hyphenated groups
(`Uuid.hyphenated`), and a credential id as `urn:uuid:` followed by that text
(`CredentialId.urn`).  The 32 digits are exactly the UUID's 128 bits, so reading inverts
writing (`CredentialId.parse_urn`): a credential id survives being written into a record and
read back from it.
-/

namespace Attest

namespace Uuid

/-! ## Hexadecimal digits -/

theorem digitValue?_digitChar {d : Nat} (h : d < 16) :
    Hex.digitValue? (Hex.digitChar d) = some d := by
  revert d
  decide

theorem digitChar_ne_hyphen {d : Nat} (h : d < 16) : Hex.digitChar d ≠ '-' := by
  revert d
  decide

theorem utf8Size_digitChar {d : Nat} (h : d < 16) : (Hex.digitChar d).utf8Size = 1 := by
  revert d
  decide

theorem digitValue?_lt {c : Char} {d : Nat} (h : Hex.digitValue? c = some d) : d < 16 := by
  have h0 : ('0' : Char).toNat = 48 := rfl
  have h9 : ('9' : Char).toNat = 57 := rfl
  have ha : ('a' : Char).toNat = 97 := rfl
  have hf : ('f' : Char).toNat = 102 := rfl
  have hA : ('A' : Char).toNat = 65 := rfl
  have hF : ('F' : Char).toNat = 70 := rfl
  unfold Hex.digitValue? at h
  split_ifs at h <;> cases h
  all_goals
    simp only [Char.le_def, UInt32.le_iff_toNat_le, Char.toNat_val] at *
    omega

/-! ## Reading digits -/

theorem foldl_hexStep_none (cs : List Char) :
    cs.foldl (fun acc c => acc.bind fun v => (Hex.digitValue? c).map (v * 16 + ·)) none = none := by
  induction cs with
  | nil => rfl
  | cons c cs ih => simpa using ih

/-- Reading `cs` after a value `a` stays below `a + 1` shifted by the digits read. -/
theorem foldl_hexStep_lt (cs : List Char) : ∀ a v : Nat,
    cs.foldl (fun acc c => acc.bind fun v => (Hex.digitValue? c).map (v * 16 + ·)) (some a) =
      some v → v < (a + 1) * 16 ^ cs.length := by
  induction cs with
  | nil =>
    intro a v h
    cases h
    simp
  | cons c cs ih =>
    intro a v h
    simp only [List.foldl_cons, Option.bind_some] at h
    cases hc : Hex.digitValue? c with
    | none =>
      rw [hc, Option.map_none, foldl_hexStep_none] at h
      cases h
    | some d =>
      rw [hc, Option.map_some] at h
      have hd := digitValue?_lt hc
      calc v < (a * 16 + d + 1) * 16 ^ cs.length := ih _ _ h
        _ ≤ 16 * (a + 1) * 16 ^ cs.length := Nat.mul_le_mul_right _ (by omega)
        _ = (a + 1) * 16 ^ (c :: cs).length := by
          rw [List.length_cons, Nat.pow_succ]
          ring

theorem hexValue?_lt {cs : List Char} {v : Nat} (h : hexValue? cs = some v) :
    v < 16 ^ cs.length := by
  simpa using foldl_hexStep_lt cs 0 v h

/-- Reading the last `k` digits of `v` after a value `a` shifts `a` by them and adds them. -/
theorem hexValue?_hexDigits_go (v k : Nat) : ∀ a : Nat,
    ((List.range k).reverse.map fun i => Hex.digitChar ((v / 16 ^ i) % 16)).foldl
      (fun acc c => acc.bind fun v => (Hex.digitValue? c).map (v * 16 + ·)) (some a) =
      some (a * 16 ^ k + v % 16 ^ k) := by
  induction k with
  | zero => intro a; simp [Nat.mod_one]
  | succ k ih =>
    intro a
    rw [List.range_succ, List.reverse_append, List.map_append]
    simp only [List.reverse_cons, List.reverse_nil, List.nil_append, List.map_cons, List.map_nil,
      List.cons_append, List.foldl_cons]
    rw [digitValue?_digitChar (Nat.mod_lt _ (by decide))]
    simp only [Option.bind_some, Option.map_some]
    -- the digit read first is the highest of the `k + 1`
    rw [ih, Nat.mod_pow_succ, Nat.pow_succ]
    congr 1
    ring

theorem length_hexDigits (u : Uuid) : u.hexDigits.length = 32 := by
  simp [hexDigits]

/-- The digits of a UUID read back as its 128 bits. -/
theorem hexValue?_hexDigits (u : Uuid) : hexValue? u.hexDigits = some u.value.toNat := by
  have h := hexValue?_hexDigits_go u.value.toNat 32 0
  simp only [Nat.zero_mul, Nat.zero_add] at h
  rw [← Nat.mod_eq_of_lt (show u.value.toNat < 16 ^ 32 from u.value.isLt), ← h]
  simp only [hexValue?, hexDigits, Nat.pow_eq]

/-- The UUID of a value's own 128 bits is the UUID. -/
@[simp] theorem ofNat_toNat (u : Uuid) : ofNat u.value.toNat = u := by
  rw [ofNat, BitVec.ofNat_toNat, BitVec.setWidth_eq]

/-! ## The hyphenated form is read back -/

/-- The five groups of the hyphenated form, put together, are the digits. -/
theorem groups_append {α : Type} (l : List α) :
    l.take 8 ++ (l.drop 8).take 4 ++ (l.drop 12).take 4 ++ (l.drop 16).take 4 ++ l.drop 20 = l := by
  have hgroup : ∀ m, (l.drop m).take 4 ++ l.drop (m + 4) = l.drop m := fun m => by
    rw [← List.drop_drop, List.take_append_drop]
  have h16 := hgroup 16
  have h12 := hgroup 12
  have h8 := hgroup 8
  simp only [Nat.reduceAdd] at h16 h12 h8
  simp only [List.append_assoc, h16, h12, h8, List.take_append_drop]

/-- Groups of 8, 4, 4, 4 and 12 digits joined by hyphens are read as their digits. -/
theorem parseHyphenated_groups {a b c d e : List Char} (ha : a.length = 8) (hb : b.length = 4)
    (hc : c.length = 4) (hd : d.length = 4) (he : e.length = 12)
    (hno : ∀ x ∈ a ++ b ++ c ++ d ++ e, x ≠ '-') :
    parseHyphenated (a ++ ['-'] ++ b ++ ['-'] ++ c ++ ['-'] ++ d ++ ['-'] ++ e) =
      (hexValue? (a ++ b ++ c ++ d ++ e)).map ofNat := by
  have hf : ∀ l : List Char, (∀ x ∈ l, x ≠ '-') → l.filter (fun x => decide (x ≠ '-')) = l :=
    fun l hl => List.filter_eq_self.mpr (by simpa using hl)
  have hf' : ∀ l : List Char, (∀ x ∈ l, x ≠ '-') → l.filter (fun x => decide (x = '-')) = [] :=
    fun l hl => List.filter_eq_nil_iff.mpr (by simpa using hl)
  simp only [List.mem_append, or_imp, forall_and] at hno
  obtain ⟨⟨⟨⟨hna, hnb⟩, hnc⟩, hnd⟩, hne⟩ := hno
  unfold parseHyphenated
  rw [if_pos]
  · simp only [List.filter_append, List.filter_cons, hf a hna, hf b hnb, hf c hnc, hf d hnd,
      hf e hne, hf' a hna, hf' b hnb, hf' c hnc, hf' d hnd, hf' e hne]
    simp
    cases hexValue? (a ++ (b ++ (c ++ (d ++ e)))) <;> rfl
  · simp [List.getD_eq_getElem?_getD, ha, hb, hc, hd, he]

theorem mem_hexDigits {u : Uuid} {c : Char} (h : c ∈ u.hexDigits) :
    ∃ d, d < 16 ∧ c = Hex.digitChar d := by
  simp only [hexDigits, List.mem_map] at h
  obtain ⟨i, -, rfl⟩ := h
  exact ⟨_, Nat.mod_lt _ (by decide), rfl⟩

theorem hexDigits_ne_hyphen (u : Uuid) : ∀ x ∈ u.hexDigits, x ≠ '-' := by
  intro x hx
  obtain ⟨d, hd, rfl⟩ := mem_hexDigits hx
  exact digitChar_ne_hyphen hd

theorem toList_hyphenated (u : Uuid) :
    u.hyphenated.toList = u.hexDigits.take 8 ++ ['-'] ++ (u.hexDigits.drop 8).take 4 ++ ['-'] ++
      (u.hexDigits.drop 12).take 4 ++ ['-'] ++ (u.hexDigits.drop 16).take 4 ++ ['-'] ++
      u.hexDigits.drop 20 := by
  simp [hyphenated]

/-- The hyphenated form is read back. -/
theorem parseHyphenated_hyphenated (u : Uuid) :
    parseHyphenated u.hyphenated.toList = some u := by
  have hlen := length_hexDigits u
  have hno := hexDigits_ne_hyphen u
  rw [← groups_append u.hexDigits] at hno
  rw [toList_hyphenated, parseHyphenated_groups (by simp [hlen]) (by simp [hlen]) (by simp [hlen])
    (by simp [hlen]) (by simp [hlen]) hno, groups_append, hexValue?_hexDigits, Option.map_some,
    ofNat_toNat]

theorem utf8ByteSize_ofList_ascii {cs : List Char} (h : ∀ c ∈ cs, c.utf8Size = 1) :
    (String.ofList cs).utf8ByteSize = cs.length := by
  induction cs with
  | nil => rfl
  | cons c cs ih =>
    rw [String.ofList_cons, String.utf8ByteSize_append, String.utf8ByteSize_singleton,
      h c List.mem_cons_self, ih fun d hd => h d (List.mem_cons_of_mem c hd), List.length_cons]
    omega

theorem utf8ByteSize_hyphenated (u : Uuid) : u.hyphenated.utf8ByteSize = 36 := by
  have hlen := length_hexDigits u
  rw [← String.ofList_toList (s := u.hyphenated), utf8ByteSize_ofList_ascii, toList_hyphenated]
  · simp [hlen]
  · -- every character is a hyphen or a digit
    intro x hx
    rw [toList_hyphenated] at hx
    simp only [List.mem_append, List.mem_singleton] at hx
    rcases hx with ((((((((h | rfl) | h) | rfl) | h) | rfl) | h) | rfl) | h)
    all_goals first
      | rfl
      | (obtain ⟨d, hd, rfl⟩ := mem_hexDigits (List.mem_of_mem_take h)
         exact utf8Size_digitChar hd)
      | (obtain ⟨d, hd, rfl⟩ := mem_hexDigits (List.mem_of_mem_drop (List.mem_of_mem_take h))
         exact utf8Size_digitChar hd)
      | (obtain ⟨d, hd, rfl⟩ := mem_hexDigits (List.mem_of_mem_drop h)
         exact utf8Size_digitChar hd)

theorem parse_hyphenated (u : Uuid) : parse u.hyphenated = .ok u := by
  simp only [parse, parseForm?, utf8ByteSize_hyphenated, parseHyphenated_hyphenated]

end Uuid

/-! ## Credential ids -/

namespace CredentialId

/-- A credential id is read back from its URN. -/
theorem parse_urn (c : CredentialId) : parse c.urn = .ok c := by
  have hprefix : c.urn.startsWith "urn:uuid:" = true := by
    simp [urn, Uuid.urn]
  have hrest : String.ofList (c.urn.toList.drop 9) = c.uuid.hyphenated := by
    simp [urn, Uuid.urn]
  simp only [parse, hprefix, if_true, hrest, Uuid.parse_hyphenated]

end CredentialId

end Attest
