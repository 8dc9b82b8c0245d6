import Attest.Proofs.IssueOutcome
import Attest.Proofs.Coercion
import Attest.Proofs.UuidText

/-!
# Rebuilding a credential from its own claims

The custom claims of a credential, given back as a subject record together with the
credential's own id under `jti`, build the same claims again: the same custom claims, the same
subject and the same credential id, at any issuance time (`rebuild_from_claims`).

Two facts carry it.  Coercion is idempotent (`FieldType.coerce?_idempotent`), so a claim is a
value that its field's type keeps as it is, and a record that gives the claims of another back
gets the same claims (`claimOf_of_givesBack`).  And the credential id's URN is read back as the
id (`CredentialId.parse_urn`).
-/

namespace Attest

/-- In a list of named things with distinct names, a member's name looks up its value. -/
theorem lookup_eq_some_of_mem {α : Type} {xs : List (String × α)} {k : String} {a : α}
    (hnd : (xs.map (·.1)).Nodup) (h : (k, a) ∈ xs) : xs.lookup k = some a := by
  induction xs with
  | nil => cases h
  | cons p rest ih =>
    obtain ⟨k', a'⟩ := p
    simp only [List.map_cons, List.nodup_cons] at hnd
    rcases List.mem_cons.mp h with heq | hmem
    · cases heq
      rw [List.lookup_cons, beq_self_eq_true]
    · have hne : (k == k') = false := beq_eq_false_iff_ne.mpr fun heq =>
        hnd.1 (heq ▸ List.mem_map_of_mem (f := (·.1)) hmem)
      rw [List.lookup_cons, hne]
      exact ih hnd.2 hmem

namespace Json

theorem isNull_of_present? {o : Option Json} {j : Json} (h : present? o = some j) :
    j.isNull = false := by
  rcases o with _ | w
  · cases h
  · cases w <;> simp only [present?, Option.some.injEq, reduceCtorEq] at h <;> subst h <;> rfl

theorem present?_some {v : Json} (h : v.isNull = false) : present? (some v) = some v := by
  cases v <;> simp_all [present?, isNull]

end Json

namespace Template

variable {t : Template} {r r' : SubjectRecord}

/-! ## Claims by the kind of field -/

theorem claimOf_required (ht : t.Valid) {k : String} {ty : FieldType} (h : (k, ty) ∈ t.required) :
    t.claimOf r k = (r.get? k).bind ty.coerce? := by
  simp [claimOf, lookup_eq_some_of_mem ht.requiredNodup h]

theorem claimOf_optional (ht : t.Valid) {k : String} {o : OptionalField} (h : (k, o) ∈ t.optional) :
    t.claimOf r k = optionalClaim? r k o := by
  have hreq : t.required.lookup k = none := by
    rw [← Option.not_isSome_iff_eq_none, lookup_isSome_iff]
    exact fun hk => ht.disjoint k hk (List.mem_map_of_mem (f := (·.1)) h)
  simp [claimOf, hreq, lookup_eq_some_of_mem ht.optionalNodup h]

theorem claimOf_undeclared {k : String} (h : t.declares k = false) :
    t.claimOf r k = if t.allowUnknownFields && k != credentialIdField then r.get? k else none := by
  have hnot : ¬ (k ∈ t.required.map (·.1) ∨ k ∈ t.optional.map (·.1)) := by
    rw [← declares_iff, h]
    decide
  have hreq : t.required.lookup k = none := by
    rw [← Option.not_isSome_iff_eq_none, lookup_isSome_iff]
    exact fun hk => hnot (.inl hk)
  have hopt : t.optional.lookup k = none := by
    rw [← Option.not_isSome_iff_eq_none, lookup_isSome_iff]
    exact fun hk => hnot (.inr hk)
  simp only [claimOf, hreq, hopt]

theorem ne_credentialIdField_of_declares (ht : t.Valid) {k : String} (h : t.declares k = true) :
    k ≠ credentialIdField := by
  rintro rfl
  simp [ht.idUndeclared] at h

/-- A claim of a declared field is a value its type keeps: a required field's claim is a
coerced value, an optional field's claim a coerced value or the coerced default. -/
theorem coerce?_claimOf_required (ht : t.Valid) {k : String} {ty : FieldType} {j : Json}
    (hk : (k, ty) ∈ t.required) (h : t.claimOf r k = some j) : ty.coerce? j = some j := by
  rw [claimOf_required ht hk] at h
  obtain ⟨v, -, hco⟩ := Option.bind_eq_some_iff.mp h
  exact FieldType.coerce?_idempotent hco

theorem coerce?_claimOf_optional (ht : t.Valid) {k : String} {o : OptionalField} {j : Json}
    (hk : (k, o) ∈ t.optional) (h : t.claimOf r k = some j) : o.fieldType.coerce? j = some j := by
  rw [claimOf_optional ht hk] at h
  unfold optionalClaim? at h
  split at h
  · exact FieldType.coerce?_idempotent h
  · cases h
    obtain ⟨raw, -, hco⟩ := ht.defaultsCoerced k o hk
    exact FieldType.coerce?_idempotent hco

/-- A claim is never `null`: coercion gives strings, booleans and integers, and a value passed
through is present. -/
theorem isNull_claimOf (ht : t.Valid) {k : String} {j : Json} (h : t.claimOf r k = some j) :
    j.isNull = false := by
  have hcoerced : ∀ {ty : FieldType} {v : Json}, ty.coerce? v = some j → j.isNull = false := by
    intro ty v hco
    rcases FieldType.coerce?_eq_some_cases hco with ⟨s, rfl⟩ | ⟨b, rfl⟩ | ⟨i, rfl, -⟩ <;> rfl
  rcases claimOf_eq_some_cases ht h with ⟨ty, v, -, hco⟩ | ⟨ty, raw, -, hco⟩ | ⟨-, -, -, hget⟩
  · exact hcoerced hco
  · exact hcoerced hco
  · exact Json.isNull_of_present? hget

/-! ## Records that give claims back -/

/-- `r'` gives back the claims of `r`: every field other than `jti` holds the claim that the
template gives `r` under that name, or nothing when there is none. -/
def GivesBack (t : Template) (r r' : SubjectRecord) : Prop :=
  ∀ k, k ≠ credentialIdField → r'.get? k = t.claimOf r k

/-- A record that gives back the claims of an accepted record gets the same claims: coercing a
claim again keeps it. -/
theorem claimOf_of_givesBack (ht : t.Valid) (ha : t.Accepts r) (hback : GivesBack t r r')
    (k : String) : t.claimOf r' k = t.claimOf r k := by
  by_cases hdecl : t.declares k = true
  · have hk := ne_credentialIdField_of_declares ht hdecl
    rcases (declares_iff t k).mp hdecl with hreq | hopt
    · -- a required field: its claim is a coerced value, which coerces to itself
      obtain ⟨⟨_, ty⟩, hmem, rfl⟩ := List.mem_map.mp hreq
      rw [claimOf_required ht hmem (r := r'), hback _ hk]
      cases hj : t.claimOf r _ with
      | none => rfl
      | some j => rw [Option.bind_some, coerce?_claimOf_required ht hmem hj]
    · -- an optional field: the accepted record gives it a claim, which the field keeps
      obtain ⟨⟨_, o⟩, hmem, rfl⟩ := List.mem_map.mp hopt
      obtain ⟨j, hj⟩ := Option.isSome_iff_exists.mp
        (optionalFault?_eq_none_iff.mp (ha.optional _ o hmem))
      rw [← claimOf_optional ht hmem] at hj
      rw [claimOf_optional ht hmem (r := r'), hj]
      unfold optionalClaim?
      rw [hback _ hk, hj]
      exact coerce?_claimOf_optional ht hmem hj
  · -- an undeclared field passes through as it is, or has no claim
    rw [Bool.not_eq_true] at hdecl
    rw [claimOf_undeclared hdecl, claimOf_undeclared hdecl]
    split_ifs with hpass
    · have hk : k ≠ credentialIdField := by simpa using (Bool.and_eq_true_iff.mp hpass).2
      have hback' := hback k hk
      rwa [claimOf_undeclared hdecl, if_pos hpass] at hback'
    · rfl

/-- A record that gives back the claims of an accepted record has the same claims. -/
theorem claims_of_givesBack (ht : t.Valid) (ha : t.Accepts r) (hback : GivesBack t r r') :
    t.claims r' = t.claims r := by
  have hsorted : ∀ r : SubjectRecord, (t.claims r).Sorted := fun _ => Json.Members.sorted_ofList _
  refine (hsorted r').ext (hsorted r) fun k => ?_
  rw [get?_claims, get?_claims, claimOf_of_givesBack ht ha hback]

/-- A map that gives back the claims of an accepted record, with a credential id of its own
that reads, is accepted too. -/
theorem accepts_of_givesBack (ht : t.Valid)
    (ha : t.Accepts r) (hback : GivesBack t r r') (hid : r'.idFault? = none) : t.Accepts r' := by
  have hsame := claimOf_of_givesBack ht ha hback
  refine ⟨hid, ?_, ?_, ?_, ?_⟩
  · intro k ty hmem
    have hclaim := requiredFault?_eq_none_iff.mp (ha.required k ty hmem)
    rw [requiredFault?_eq_none_iff, ← claimOf_required ht hmem, hsame, claimOf_required ht hmem]
    exact hclaim
  · intro k o hmem
    have hclaim := optionalFault?_eq_none_iff.mp (ha.optional k o hmem)
    rw [optionalFault?_eq_none_iff, ← claimOf_optional ht hmem, hsame, claimOf_optional ht hmem]
    exact hclaim
  · -- an undeclared member of `r'` is a claim of `r` that passed through, so `r` had it
    intro k v hmem
    rw [undeclaredFault?_eq_none_iff]
    intro hund
    simp only [undeclared, Bool.and_eq_true, Bool.not_eq_true', bne_iff_ne, ne_eq] at hund
    obtain ⟨⟨hdecl, hk⟩, hnull⟩ := hund
    have hget : r'.get? k = some v := by
      unfold SubjectRecord.get?
      rw [r'.sorted.get?_eq_some_iff_mem.mpr hmem, Json.present?_some hnull]
    rw [hback k hk, claimOf_undeclared hdecl] at hget
    split_ifs at hget with hpass
    obtain ⟨hmem', -⟩ := SubjectRecord.mem_of_get?_eq_some hget
    have hold := undeclaredFault?_eq_none_iff.mp (ha.undeclared k v hmem')
    exact hold (by simp [undeclared, hdecl, hk, hnull])
  · rw [claims_of_givesBack ht ha hback]
    exact ha.rules

end Template

/-! ## Rebuilding -/

section Rebuild

variable {t : Template} {r : SubjectRecord} {issuer : IssuerId} {now : Timestamp}
  {fresh : CredentialId}

/-- The record of a claim set's custom claims and its credential id under `jti`. -/
def ClaimSet.record (cs : ClaimSet) : SubjectRecord :=
  (SubjectRecord.ofMembers cs.custom).set credentialIdField (.str cs.credentialId.urn)

theorem ClaimSet.get?_record_credentialIdField (cs : ClaimSet) :
    cs.record.get? credentialIdField = some (.str cs.credentialId.urn) := by
  simp [record, SubjectRecord.set, SubjectRecord.get?, Json.present?]

/-- The record of a built claim set gives its claims back. -/
theorem givesBack_record {cs : ClaimSet} (ht : t.Valid)
    (h : buildClaims t r issuer now fresh = .ok cs) : Template.GivesBack t r cs.record := by
  intro k hk
  have hclaim := (buildClaims_complete ht h).2.2.2.1 k
  unfold ClaimSet.customClaim? at hclaim
  dsimp only [ClaimSet.record, SubjectRecord.set, SubjectRecord.ofMembers, SubjectRecord.get?]
  rw [Json.Members.get?_insert, if_neg (Ne.symm hk),
    Json.Members.ofList_eq_self (buildClaims_complete ht h).1, hclaim]
  cases hj : t.claimOf r k with
  | none => rfl
  | some j => exact Json.present?_some (Template.isNull_claimOf ht hj)

/-- Rebuilding from a credential's own claims reproduces them.  The record of the custom
claims, with the credential id's URN under `jti`, is built under the same template at any
other time and with any other fresh id, with the same custom claims, the same subject and the
same credential id. -/
theorem rebuild_from_claims {cs : ClaimSet} (ht : t.Valid)
    (h : buildClaims t r issuer now fresh = .ok cs)
    (now' : Timestamp) (fresh' : CredentialId) :
    ∃ cs', buildClaims t cs.record issuer now' fresh' = .ok cs' ∧
      cs'.custom = cs.custom ∧ cs'.subject = cs.subject ∧ cs'.credentialId = cs.credentialId := by
  have ha := accepts_of_buildClaims_eq_ok ht h
  have hback := givesBack_record ht h
  -- the record's own id is the claim set's id, read back from its URN
  have hurn := CredentialId.parse_urn cs.credentialId
  have hid : cs.record.idFault? = none := by
    simp [SubjectRecord.idFault?, ClaimSet.get?_record_credentialIdField, hurn]
  obtain ⟨cs', h'⟩ : ∃ cs', buildClaims t cs.record issuer now' fresh' = .ok cs' :=
    buildClaims_isOk_of_accepts ht (Template.accepts_of_givesBack ht ha hback hid)
  refine ⟨cs', h', ?_, ?_, ?_⟩
  · rw [custom_of_buildClaims_eq_ok ht h', custom_of_buildClaims_eq_ok ht h,
      Template.claims_of_givesBack ht ha hback]
  · obtain ⟨j', hj', hsub'⟩ := (buildClaims_complete ht h').2.2.2.2.1
    obtain ⟨j, hj, hsub⟩ := (buildClaims_complete ht h).2.2.2.2.1
    rw [Template.claimOf_of_givesBack ht ha hback, hj] at hj'
    cases hj'
    rw [hsub', hsub]
  · have hid' := (buildClaims_complete ht h').2.2.2.2.2.1
    rw [ClaimSet.get?_record_credentialIdField] at hid'
    obtain ⟨s, hs, hp⟩ := hid'
    cases hs
    rw [hurn] at hp
    exact (Except.ok.inj hp).symm

/-- Ana's badge, rebuilt an hour and a half later from its own claims and id. -/
theorem rebuild_from_claims_anaBadge :
    badge.Valid ∧ buildClaims badge anaRecord badgeIssuer ⟨100, 0⟩ ⟨⟨7⟩⟩ = .ok anaBadge ∧
      ∃ cs', buildClaims badge anaBadge.record badgeIssuer ⟨5500, 0⟩ ⟨⟨9⟩⟩ = .ok cs' ∧
        cs'.custom = anaBadge.custom ∧ cs'.subject = anaBadge.subject ∧
        cs'.credentialId = anaBadge.credentialId :=
  ⟨badge_valid, buildClaims_anaBadge,
    rebuild_from_claims badge_valid buildClaims_anaBadge ⟨5500, 0⟩ ⟨⟨9⟩⟩⟩

end Rebuild

end Attest
