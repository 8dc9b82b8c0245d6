import Attest.Proofs.ClaimConstruction

/-!
# A `null` field is an absent field

Issuing reads a subject record in two ways: by looking fields up (`SubjectRecord.get?`, for the
record's own `jti`, the required and the optional fields, and the record id of a batch), and by
walking its members for the fields that pass through (`undeclaredClaims`).  A lookup reports a
`null` value as no value, and the walk skips `null` members, so neither can tell a field set to
`null` from a field that is not there.

`SubjectRecord.erase` removes a field.  The main statement, **`null_field_same_as_absent`**,
says that setting any field of a record to `null` and removing it give the same claims, the
same issuing outcome and the same record id, under every template and every vault.
-/

namespace Attest

namespace Json.Members

/-- The members that hold a value, `null` ones left out. -/
def present (ms : Members) : Members := ms.filter fun m => !m.2.isNull

/-- Removing a name hides it from lookups and changes no other lookup. -/
theorem get?_erase (name k : String) (ms : Members) :
    (erase name ms).get? k = if name = k then none else ms.get? k := by
  induction ms with
  | nil => simp [erase]
  | cons m rest ih =>
    obtain ⟨k', w⟩ := m
    by_cases hk' : k' = name
    · subst hk'
      have hskip : erase k' ((k', w) :: rest) = erase k' rest := by simp [erase]
      rw [hskip, ih]
      by_cases hk : k' = k <;> simp [hk]
    · have hkeep : erase name ((k', w) :: rest) = (k', w) :: erase name rest := by
        simp [erase, hk']
      rw [hkeep, get?_cons, get?_cons, ih]
      by_cases hk : k' = k
      · subst hk
        simp [Ne.symm hk']
      · simp [hk]

theorem sorted_erase {ms : Members} (h : ms.Sorted) (name : String) : (erase name ms).Sorted :=
  h.sublist (List.filter_sublist.map _)

theorem sorted_present {ms : Members} (h : ms.Sorted) : (present ms).Sorted :=
  h.sublist (List.filter_sublist.map _)

/-- In a map, the value a name holds among the present members is its value unless `null`. -/
theorem get?_present {ms : Members} (h : ms.Sorted) (k : String) :
    (present ms).get? k = Json.present? (ms.get? k) := by
  rw [present, get?_filter h.nodup (fun _ v => !v.isNull)]
  cases ms.get? k with
  | none => rfl
  | some v => cases v <;> rfl

/-- In a map, a name set to `null` and a name removed leave the same present members. -/
theorem present_insert_null {ms : Members} (h : ms.Sorted) (name : String) :
    present (insert name .null ms) = present (erase name ms) := by
  apply Sorted.ext (sorted_present (h.insert name .null)) (sorted_present (sorted_erase h name))
  intro k
  rw [get?_present (h.insert name .null), get?_present (sorted_erase h name), get?_insert,
    get?_erase]
  by_cases hk : name = k <;> simp [hk, Json.present?]

end Json.Members

/-- The record without a field. -/
def SubjectRecord.erase (r : SubjectRecord) (field : String) : SubjectRecord :=
  ⟨Json.Members.erase field r.fields, Json.Members.sorted_erase r.sorted field⟩

namespace SubjectRecord

/-- A field set to `null` and a removed field look up alike: as no value. -/
theorem get?_set_null (r : SubjectRecord) (k f : String) :
    (r.set k .null).get? f = (r.erase k).get? f := by
  simp only [get?, set, erase, Json.Members.get?_insert, Json.Members.get?_erase]
  by_cases hk : k = f <;> simp [hk, Json.present?]

end SubjectRecord

/-! ## The checks that look fields up -/

section Lookups

variable {r₁ r₂ : SubjectRecord} (hget : ∀ f, r₁.get? f = r₂.get? f)
include hget

theorem recordCredentialId_congr : recordCredentialId r₁ = recordCredentialId r₂ := by
  simp only [recordCredentialId, hget]

theorem requiredClaims_congr (t : Template) (xs : List (String × FieldType)) :
    requiredClaims t r₁ xs = requiredClaims t r₂ xs := by
  simp only [requiredClaims_eq, Template.requiredFault?, hget]

theorem optionalClaims_congr (xs : List (String × OptionalField)) :
    optionalClaims r₁ xs = optionalClaims r₂ xs := by
  simp only [optionalClaims_eq, Template.optionalFault?, Template.optionalClaim?, hget]

/-- Records that look up alike and pass the same undeclared fields give the same claims. -/
theorem buildClaims_congr {t : Template}
    (hund : undeclaredClaims t r₁.fields = undeclaredClaims t r₂.fields) (issuer : IssuerId)
    (now : Timestamp) (fresh : CredentialId) :
    buildClaims t r₁ issuer now fresh = buildClaims t r₂ issuer now fresh := by
  simp only [buildClaims, recordCredentialId_congr hget, requiredClaims_congr hget,
    optionalClaims_congr hget, hund]

end Lookups

/-! ## The walk over undeclared fields -/

/-- The walk over undeclared fields skips `null` members. -/
theorem undeclaredClaims_present (t : Template) (ms : Json.Members) :
    undeclaredClaims t (Json.Members.present ms) = undeclaredClaims t ms := by
  induction ms with
  | nil => rfl
  | cons m rest ih =>
    obtain ⟨k, v⟩ := m
    cases hv : v.isNull with
    | true =>
      -- a `null` member is dropped by `present` and skipped by the walk
      have hdrop : Json.Members.present ((k, v) :: rest) = Json.Members.present rest := by
        simp [Json.Members.present, hv]
      rw [hdrop, ih]
      simp [undeclaredClaims, hv]
    | false =>
      have hkeep :
          Json.Members.present ((k, v) :: rest) = (k, v) :: Json.Members.present rest := by
        simp [Json.Members.present, hv]
      rw [hkeep]
      simp only [undeclaredClaims, ih]

/-- A field set to `null` and a removed field pass the same undeclared fields. -/
theorem undeclaredClaims_set_null {r : SubjectRecord} (t : Template)
    (k : String) :
    undeclaredClaims t (r.set k .null).fields = undeclaredClaims t (r.erase k).fields := by
  rw [← undeclaredClaims_present t (r.set k .null).fields,
    ← undeclaredClaims_present t (r.erase k).fields]
  simp only [SubjectRecord.set, SubjectRecord.erase, Json.Members.present_insert_null r.sorted]

/-- In a subject record, setting a field to `null` and removing it cannot be told apart: under
every template the claims built are the same (or the same refusal), every vault issues the same
credential (or refuses alike), and a batch reports the same record id. -/
theorem null_field_same_as_absent {r : SubjectRecord} (k : String) :
    (∀ (t : Template) (issuer : IssuerId) (now : Timestamp) (fresh : CredentialId),
      buildClaims t (r.set k .null) issuer now fresh =
        buildClaims t (r.erase k) issuer now fresh) ∧
    (∀ (v : Vault) (c : String) (now : Timestamp) (fresh : CredentialId),
      v.issue c (r.set k .null) now fresh = v.issue c (r.erase k) now fresh) ∧
    (∀ (v : Vault) (c : String) (index : Nat),
      v.recordId index ⟨c, r.set k .null⟩ = v.recordId index ⟨c, r.erase k⟩) := by
  have hget := SubjectRecord.get?_set_null r k
  have hbuild : ∀ (t : Template) (issuer : IssuerId) (now : Timestamp) (fresh : CredentialId),
      buildClaims t (r.set k .null) issuer now fresh = buildClaims t (r.erase k) issuer now fresh :=
    fun t => buildClaims_congr hget (undeclaredClaims_set_null t k)
  refine ⟨hbuild, fun v c now fresh => ?_, fun v c index => ?_⟩
  · simp only [Vault.issue, hbuild]
  · simp only [Vault.recordId, hget]

/-- Ana's record with an undeclared `salary` set to `null`, against the record without it. -/
theorem null_field_same_as_absent_ana :
    buildClaims badge (anaRecord.set "salary" .null) badgeIssuer ⟨100, 0⟩ ⟨⟨7⟩⟩ =
      buildClaims badge (anaRecord.erase "salary") badgeIssuer ⟨100, 0⟩ ⟨⟨7⟩⟩ :=
  (null_field_same_as_absent "salary").1 badge badgeIssuer ⟨100, 0⟩ ⟨⟨7⟩⟩

end Attest
