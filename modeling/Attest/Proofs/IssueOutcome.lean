import Attest.Proofs.ClaimConstruction

/-!
# Why issuing fails

A vault answers a request with the first check that fails.  This module says which check that
is, for every request:

* `Template.Refusal t r e` — the error the checks of a template give a record: the record's own
  credential id, then the required fields, the optional fields and the undeclared fields, each
  loop at its least name with a fault, then the rules over the claims;
* `Template.Accepts t r` — the record passes every check;
* `buildClaims_eq_error_iff` — building fails with `e` exactly when the template refuses the
  record with `e`, and `buildClaims_isOk_of_accepts` — it succeeds when the record passes;
* `Vault.IssueRefusal` and **`issue_eq_error_iff`** — issuing fails with `e` exactly when the
  type is unknown, the template refuses the record with `e`, or the record passes and the issuer
  has no current key.

Two checks of the code never fire, and the theorem says so by leaving them out: the subject is
always among the claims (a valid template declares it, and a record that passes the loops gives
every declared field a claim), and the payload has no double (coercion makes none, defaults are
coerced, and an undeclared field that holds one is refused).
-/

namespace Attest

/-! ## Faults of a list of named things -/

section Faults

variable {α : Type} {xs : List (String × α)} {fault : String → α → Option IssuanceError}
  {e : IssuanceError}

/-- No member of a list of named things has a fault. -/
def NoFault (xs : List (String × α)) (fault : String → α → Option IssuanceError) : Prop :=
  ∀ k a, (k, a) ∈ xs → fault k a = none

/-- The fault of the least name with a fault. -/
def FirstFault (xs : List (String × α)) (fault : String → α → Option IssuanceError)
    (e : IssuanceError) : Prop :=
  ∃ k a, (k, a) ∈ xs ∧ fault k a = some e ∧
    ∀ k' a', (k', a') ∈ xs → k' < k → fault k' a' = none

theorem findSome?_eq_none_iff_noFault :
    xs.findSome? (fun p => fault p.1 p.2) = none ↔ NoFault xs fault := by
  rw [List.findSome?_eq_none_iff]
  exact ⟨fun h k a hm => h (k, a) hm, fun h p hm => h p.1 p.2 hm⟩

theorem findSome?_eq_some_iff_firstFault (hs : (xs.map (·.1)).Pairwise (· < ·)) :
    xs.findSome? (fun p => fault p.1 p.2) = some e ↔ FirstFault xs fault e := by
  rw [findSome?_eq_some_iff_least hs]
  constructor
  · rintro ⟨⟨k, a⟩, hm, he, hless⟩
    exact ⟨k, a, hm, he, fun k' a' hm' hlt => hless (k', a') hm' hlt⟩
  · rintro ⟨k, a, hm, he, hless⟩
    exact ⟨(k, a), hm, he, fun p hp hlt => hless p.1 p.2 hp hlt⟩

end Faults

namespace Template

variable {t : Template} {r : SubjectRecord}

/-! ## The checks of a template -/

/-- A record passes every check of a template. -/
structure Accepts (t : Template) (r : SubjectRecord) : Prop where
  credentialId : r.idFault? = none
  required : NoFault t.required (t.requiredFault? r)
  optional : NoFault t.optional (optionalFault? r)
  undeclared : NoFault r.fields t.undeclaredFault?
  rules : t.violations (.obj (t.claims r)) = []

/-- The error the checks of a template give a record: the first check that fails, in the order
credential id, required fields, optional fields, undeclared fields, rules; within a loop, the
fault of the least name. -/
inductive Refusal (t : Template) (r : SubjectRecord) : IssuanceError → Prop
  | credentialId {e} : r.idFault? = some e → Refusal t r e
  | required {e} : r.idFault? = none → FirstFault t.required (t.requiredFault? r) e →
      Refusal t r e
  | optional {e} : r.idFault? = none → NoFault t.required (t.requiredFault? r) →
      FirstFault t.optional (optionalFault? r) e → Refusal t r e
  | undeclared {e} : r.idFault? = none → NoFault t.required (t.requiredFault? r) →
      NoFault t.optional (optionalFault? r) → FirstFault r.fields t.undeclaredFault? e →
      Refusal t r e
  | rules : r.idFault? = none → NoFault t.required (t.requiredFault? r) →
      NoFault t.optional (optionalFault? r) → NoFault r.fields t.undeclaredFault? →
      t.violations (.obj (t.claims r)) ≠ [] →
      Refusal t r (.ruleViolation t.typeName (t.violations (.obj (t.claims r))))

/-! ## Each check on its own -/

variable {e : IssuanceError}

theorem recordCredentialId_eq_error_iff :
    recordCredentialId r = .error e ↔ r.idFault? = some e := by
  rw [recordCredentialId_eq]
  cases r.idFault? <;> simp

theorem recordCredentialId_isOk_iff :
    (∃ given, recordCredentialId r = .ok given) ↔ r.idFault? = none := by
  rw [recordCredentialId_eq]
  cases r.idFault? <;> simp

theorem requiredClaims_eq_error_iff (ht : t.Valid) :
    requiredClaims t r t.required = .error e ↔ FirstFault t.required (t.requiredFault? r) e := by
  rw [requiredClaims_eq, ← findSome?_eq_some_iff_firstFault ht.requiredSorted]
  cases t.required.findSome? (fun p => t.requiredFault? r p.1 p.2) <;> simp

theorem requiredClaims_isOk_iff :
    (∃ req, requiredClaims t r t.required = .ok req) ↔ NoFault t.required (t.requiredFault? r) := by
  rw [requiredClaims_eq, ← findSome?_eq_none_iff_noFault]
  cases t.required.findSome? (fun p => t.requiredFault? r p.1 p.2) <;> simp

theorem optionalClaims_eq_error_iff (ht : t.Valid) :
    optionalClaims r t.optional = .error e ↔ FirstFault t.optional (optionalFault? r) e := by
  rw [optionalClaims_eq, ← findSome?_eq_some_iff_firstFault ht.optionalSorted]
  cases t.optional.findSome? (fun p => optionalFault? r p.1 p.2) <;> simp

theorem optionalClaims_isOk_iff :
    (∃ opt, optionalClaims r t.optional = .ok opt) ↔ NoFault t.optional (optionalFault? r) := by
  rw [optionalClaims_eq, ← findSome?_eq_none_iff_noFault]
  cases t.optional.findSome? (fun p => optionalFault? r p.1 p.2) <;> simp

theorem undeclaredClaims_eq_error_iff :
    undeclaredClaims t r.fields = .error e ↔ FirstFault r.fields t.undeclaredFault? e := by
  rw [undeclaredClaims_eq, ← findSome?_eq_some_iff_firstFault r.sorted]
  cases r.fields.findSome? (fun m => t.undeclaredFault? m.1 m.2) <;> simp

theorem undeclaredClaims_isOk_iff :
    (∃ und, undeclaredClaims t r.fields = .ok und) ↔ NoFault r.fields t.undeclaredFault? := by
  rw [undeclaredClaims_eq, ← findSome?_eq_none_iff_noFault]
  cases r.fields.findSome? (fun m => t.undeclaredFault? m.1 m.2) <;> simp

/-- A record that passes the required and optional loops has a subject claim. -/
theorem claimOf_subjectField {req opt : Json.Members} (ht : t.Valid)
    (hreq : requiredClaims t r t.required = .ok req)
    (hopt : optionalClaims r t.optional = .ok opt) :
    ∃ j, t.claimOf r t.subjectField = some j :=
  Option.isSome_iff_exists.mp ((claimOf_isSome_iff hreq hopt _).mpr (.inl ht.subjectDeclared))

end Template

/-! ## Building the claims -/

section Build

variable {t : Template} {r : SubjectRecord} {issuer : IssuerId} {now : Timestamp}
  {fresh : CredentialId} {e : IssuanceError}

/-- A record that passes every check of a valid template is built. -/
theorem buildClaims_isOk_of_accepts (ht : t.Valid) (ha : t.Accepts r) :
    ∃ cs, buildClaims t r issuer now fresh = .ok cs := by
  obtain ⟨given, hg⟩ := Template.recordCredentialId_isOk_iff.mpr ha.credentialId
  obtain ⟨req, hreq⟩ := Template.requiredClaims_isOk_iff.mpr ha.required
  obtain ⟨opt, hopt⟩ := Template.optionalClaims_isOk_iff.mpr ha.optional
  obtain ⟨und, hund⟩ := Template.undeclaredClaims_isOk_iff.mpr ha.undeclared
  obtain ⟨j, hj⟩ := Template.claimOf_subjectField ht hreq hopt
  unfold buildClaims
  rw [hg, hreq, hopt, hund]
  simp only [bind, Except.bind]
  rw [Template.ofList_loops ht hreq hopt hund, ha.rules, if_neg (by decide),
    Template.get?_claims, hj]
  cases j <;> exact ⟨_, rfl⟩

/-- A record that is built passes every check. -/
theorem accepts_of_buildClaims_eq_ok {cs : ClaimSet} (ht : t.Valid)
    (h : buildClaims t r issuer now fresh = .ok cs) : t.Accepts r := by
  obtain ⟨given, req, opt, und, hg, hreq, hopt, hund, hrules, -⟩ := buildClaims_eq_ok h
  refine ⟨Template.recordCredentialId_isOk_iff.mp ⟨given, hg⟩,
    Template.requiredClaims_isOk_iff.mp ⟨req, hreq⟩,
    Template.optionalClaims_isOk_iff.mp ⟨opt, hopt⟩,
    Template.undeclaredClaims_isOk_iff.mp ⟨und, hund⟩, ?_⟩
  rwa [← Template.ofList_loops ht hreq hopt hund]

/-- The custom claims of a built claim set are the template's claims of the record. -/
theorem custom_of_buildClaims_eq_ok {cs : ClaimSet} (ht : t.Valid)
    (h : buildClaims t r issuer now fresh = .ok cs) : cs.custom = t.claims r := by
  obtain ⟨given, req, opt, und, -, hreq, hopt, hund, -, j, -, rfl⟩ := buildClaims_eq_ok h
  exact Template.ofList_loops ht hreq hopt hund

/-- What the template refuses is what building fails with. -/
theorem buildClaims_eq_error_of_refusal (ht : t.Valid)
    (h : t.Refusal r e) : buildClaims t r issuer now fresh = .error e := by
  unfold buildClaims
  cases h with
  | credentialId hid =>
      rw [Template.recordCredentialId_eq_error_iff.mpr hid]
      rfl
  | required hid hfirst =>
      obtain ⟨given, hg⟩ := Template.recordCredentialId_isOk_iff.mpr hid
      rw [hg, (Template.requiredClaims_eq_error_iff ht).mpr hfirst]
      rfl
  | optional hid hreqs hfirst =>
      obtain ⟨given, hg⟩ := Template.recordCredentialId_isOk_iff.mpr hid
      obtain ⟨req, hreq⟩ := Template.requiredClaims_isOk_iff.mpr hreqs
      rw [hg, hreq, (Template.optionalClaims_eq_error_iff ht).mpr hfirst]
      rfl
  | undeclared hid hreqs hopts hfirst =>
      obtain ⟨given, hg⟩ := Template.recordCredentialId_isOk_iff.mpr hid
      obtain ⟨req, hreq⟩ := Template.requiredClaims_isOk_iff.mpr hreqs
      obtain ⟨opt, hopt⟩ := Template.optionalClaims_isOk_iff.mpr hopts
      rw [hg, hreq, hopt, (Template.undeclaredClaims_eq_error_iff).mpr hfirst]
      rfl
  | rules hid hreqs hopts hunds hbroken =>
      obtain ⟨given, hg⟩ := Template.recordCredentialId_isOk_iff.mpr hid
      obtain ⟨req, hreq⟩ := Template.requiredClaims_isOk_iff.mpr hreqs
      obtain ⟨opt, hopt⟩ := Template.optionalClaims_isOk_iff.mpr hopts
      obtain ⟨und, hund⟩ := Template.undeclaredClaims_isOk_iff.mpr hunds
      rw [hg, hreq, hopt, hund]
      simp only [bind, Except.bind]
      rw [Template.ofList_loops ht hreq hopt hund,
        if_pos (by simpa [List.isEmpty_iff] using hbroken)]
      rfl

/-- Building fails only with what the template refuses: the subject check never fires. -/
theorem refusal_of_buildClaims_eq_error (ht : t.Valid)
    (h : buildClaims t r issuer now fresh = .error e) : t.Refusal r e := by
  unfold buildClaims at h
  cases hg : recordCredentialId r with
  | error e' =>
      rw [hg] at h
      cases h
      exact .credentialId (Template.recordCredentialId_eq_error_iff.mp hg)
  | ok given =>
  have hid := Template.recordCredentialId_isOk_iff.mp ⟨given, hg⟩
  cases hreq : requiredClaims t r t.required with
  | error e' =>
      rw [hg, hreq] at h
      cases h
      exact .required hid ((Template.requiredClaims_eq_error_iff ht).mp hreq)
  | ok req =>
  have hreqs := Template.requiredClaims_isOk_iff.mp ⟨req, hreq⟩
  cases hopt : optionalClaims r t.optional with
  | error e' =>
      rw [hg, hreq, hopt] at h
      cases h
      exact .optional hid hreqs ((Template.optionalClaims_eq_error_iff ht).mp hopt)
  | ok opt =>
  have hopts := Template.optionalClaims_isOk_iff.mp ⟨opt, hopt⟩
  cases hund : undeclaredClaims t r.fields with
  | error e' =>
      rw [hg, hreq, hopt, hund] at h
      cases h
      exact .undeclared hid hreqs hopts ((Template.undeclaredClaims_eq_error_iff).mp hund)
  | ok und =>
  have hunds := Template.undeclaredClaims_isOk_iff.mp ⟨und, hund⟩
  rw [hg, hreq, hopt, hund] at h
  simp only [bind, Except.bind] at h
  rw [Template.ofList_loops ht hreq hopt hund] at h
  by_cases hbroken : t.violations (.obj (t.claims r)) = []
  · -- the rules hold, and the subject field has a claim, so nothing fails
    obtain ⟨j, hj⟩ := Template.claimOf_subjectField ht hreq hopt
    rw [hbroken, if_neg (by decide), Template.get?_claims, hj] at h
    cases j <;> cases h
  · rw [if_pos (by simpa [List.isEmpty_iff] using hbroken)] at h
    cases h
    exact .rules hid hreqs hopts hunds hbroken

/-- Building the claims of a record under a valid template fails with `e` exactly when the
template refuses the record with `e`. -/
theorem buildClaims_eq_error_iff (ht : t.Valid) :
    buildClaims t r issuer now fresh = .error e ↔ t.Refusal r e :=
  ⟨refusal_of_buildClaims_eq_error ht, buildClaims_eq_error_of_refusal ht⟩

end Build

/-! ## The payload has no double -/

section Floats

variable {t : Template} {r : SubjectRecord}

/-- A value a record gives is a member of its fields, and not `null`. -/
theorem SubjectRecord.mem_of_get?_eq_some {k : String} {j : Json}
    (h : r.get? k = some j) : (k, j) ∈ r.fields ∧ j.isNull = false := by
  unfold SubjectRecord.get? at h
  cases hv : Json.Members.get? r.fields k with
  | none => simp [hv, Json.present?] at h
  | some w =>
      rw [hv] at h
      cases w <;> simp only [Json.present?, Option.some.injEq, reduceCtorEq] at h <;> subst h <;>
        exact ⟨r.sorted.get?_eq_some_iff_mem.mp hv, rfl⟩

/-- Where a claim comes from: a record value coerced to a declared type, a stored default
(itself a coerced value), or an undeclared record value passed through. -/
theorem Template.claimOf_eq_some_cases (ht : t.Valid) {k : String} {j : Json}
    (h : t.claimOf r k = some j) :
    (∃ (ty : FieldType) (v : Json), r.get? k = some v ∧ ty.coerce? v = some j) ∨
      (∃ (ty : FieldType) (raw : Json), raw.WellFormed ∧ ty.coerce? raw = some j) ∨
      (t.declares k = false ∧ t.allowUnknownFields = true ∧ k ≠ credentialIdField ∧
        r.get? k = some j) := by
  unfold Template.claimOf at h
  cases hreqk : t.required.lookup k with
  | some ty =>
      rw [hreqk] at h
      obtain ⟨v, hv, hco⟩ := Option.bind_eq_some_iff.mp h
      exact .inl ⟨ty, v, hv, hco⟩
  | none =>
  rw [hreqk] at h
  cases hoptk : t.optional.lookup k with
  | some o =>
      rw [hoptk] at h
      unfold Template.optionalClaim? at h
      cases hv : r.get? k with
      | some v =>
          rw [hv] at h
          exact .inl ⟨o.fieldType, v, rfl, h⟩
      | none =>
          rw [hv] at h
          cases h
          obtain ⟨raw, hraw, hco⟩ := ht.defaultsCoerced k o (Template.mem_of_lookup_eq_some hoptk)
          exact .inr (.inl ⟨o.fieldType, raw, hraw, hco⟩)
  | none =>
  rw [hoptk] at h
  have hdecl : t.declares k = false := by simp [Template.declares, hreqk, hoptk]
  by_cases hpass : (t.allowUnknownFields && k != credentialIdField) = true
  · rw [if_pos hpass] at h
    simp only [Bool.and_eq_true, bne_iff_ne, ne_eq] at hpass
    exact .inr (.inr ⟨hdecl, hpass.1, hpass.2, h⟩)
  · rw [if_neg hpass] at h
    cases h

/-- No claim of a record that passes the undeclared-field check holds a double: coercion makes
none, a default is a coerced value, and an undeclared field that holds one is refused. -/
theorem firstFloat?_claimOf (ht : t.Valid)
    (hunds : NoFault r.fields t.undeclaredFault?) {k : String} {j : Json}
    (h : t.claimOf r k = some j) : Json.firstFloat? j = none := by
  rcases Template.claimOf_eq_some_cases ht h with
    ⟨ty, v, -, hco⟩ | ⟨ty, raw, -, hco⟩ | ⟨hdecl, -, hk, hget⟩
  · exact FieldType.firstFloat?_of_coerce? hco
  · exact FieldType.firstFloat?_of_coerce? hco
  · -- a passed-through field: the undeclared-field check looked at it
    obtain ⟨hmem, hnull⟩ := SubjectRecord.mem_of_get?_eq_some hget
    have hund : t.undeclared k j = true := by
      simp [Template.undeclared, hdecl, hk, hnull]
    exact (Template.undeclaredFault?_eq_none_iff.mp (hunds k j hmem) hund).2

/-- The claims of a record that passes the undeclared-field check hold no double. -/
theorem firstFloat?_claims (ht : t.Valid)
    (hunds : NoFault r.fields t.undeclaredFault?) :
    Json.firstFloat? (.obj (t.claims r)) = none := by
  rw [Json.firstFloat?_obj_eq_none_iff]
  rintro ⟨k, j⟩ hm
  have hget : (t.claims r).get? k = some j :=
    (Json.Members.sorted_ofList _).get?_eq_some_iff_mem.mpr hm
  rw [Template.get?_claims] at hget
  exact firstFloat?_claimOf ht hunds hget

theorem firstFloat?_nest {custom : Json} (h : Json.firstFloat? custom = none) (path : List String) :
    Json.firstFloat? (ClaimSet.nest custom path) = none := by
  induction path with
  | nil => exact h
  | cons name rest ih =>
      simp [ClaimSet.nest, Json.firstFloat?, Json.firstFloatMembers?, ih]

/-- Every value a payload lists is a text, the issue time, the expiry time or the custom claims
nested under the namespace. -/
theorem ClaimSet.payload_values (cs : ClaimSet) :
    ∃ ms : Json.Members, cs.payload = .obj ms ∧ ms.Sorted ∧ ∀ m ∈ ms,
      (∃ s, m.2 = .str s) ∨ m.2 = Json.ofInt cs.issuedAt.seconds ∨
        (∃ e ∈ cs.expiresAt, m.2 = Json.ofInt e.seconds) ∨
        m.2 = ClaimSet.nest (.obj cs.custom) (cs.claimPath.drop 1) := by
  refine ⟨_, rfl, Json.Members.sorted_ofList _, fun m hm => ?_⟩
  have hm := Json.Members.mem_ofList hm
  cases hexp : cs.expiresAt <;>
    simp only [hexp, List.cons_append, List.nil_append, List.append_nil, List.mem_cons,
      List.not_mem_nil, or_false] at hm <;>
    rcases hm with rfl | rfl | rfl | rfl | rfl | rfl | rfl | rfl <;>
    first
      | exact .inl ⟨_, rfl⟩
      | exact .inr (.inl rfl)
      | exact .inr (.inr (.inl ⟨_, by simp, rfl⟩))
      | exact .inr (.inr (.inr rfl))

/-- A payload holds a double only where its custom claims do. -/
theorem firstFloat?_payload {cs : ClaimSet} (h : Json.firstFloat? (.obj cs.custom) = none) :
    Json.firstFloat? cs.payload = none := by
  obtain ⟨ms, hp, -, hvals⟩ := cs.payload_values
  rw [hp, Json.firstFloat?_obj_eq_none_iff]
  intro m hm
  rcases hvals m hm with ⟨s, hs⟩ | hs | ⟨e, -, hs⟩ | hs <;> rw [hs]
  · rfl
  · rfl
  · rfl
  · exact firstFloat?_nest h _

/-- The payload of a built claim set has a canonical text. -/
theorem canonical_payload {cs : ClaimSet} {issuer : IssuerId} {now : Timestamp}
    {fresh : CredentialId} (ht : t.Valid)
    (h : buildClaims t r issuer now fresh = .ok cs) :
    Json.canonical cs.payload = .ok (Json.canonicalText cs.payload) := by
  have hcustom : Json.firstFloat? (.obj cs.custom) = none := by
    rw [custom_of_buildClaims_eq_ok ht h]
    exact firstFloat?_claims ht (accepts_of_buildClaims_eq_ok ht h).undeclared
  unfold Json.canonical
  rw [Json.firstFloat?_sorted _ (firstFloat?_payload hcustom)]

end Floats

/-! ## Issuing -/

namespace Vault

/-- Why a vault refuses a request: its credential type is unknown, the type's template refuses
the record, or the record passes and the vault's issuer has no current key. -/
inductive IssueRefusal (v : Vault) (c : String) (r : SubjectRecord) : IssuanceError → Prop
  | unknownType : v.catalogue.resolve c = none → IssueRefusal v c r (.unknownCredentialType c)
  | refused {t e} : v.catalogue.resolve c = some t → t.Refusal r e → IssueRefusal v c r e
  | noKey {t} : v.catalogue.resolve c = some t → t.Accepts r → v.keys.current? v.issuer = none →
      IssueRefusal v c r (.noSigningKey v.issuer.val)

variable {v : Vault} {c : String} {r : SubjectRecord} {now : Timestamp} {fresh : CredentialId}
  {e : IssuanceError}

/-- Issuing fails only as `IssueRefusal` says: the subject check, the encoding of the payload
and signing never fail. -/
theorem issueRefusal_of_issue_eq_error (hv : v.Valid)
    (h : v.issue c r now fresh = .error e) : IssueRefusal v c r e := by
  unfold issue at h
  cases hres : v.catalogue.resolve c with
  | none =>
      rw [hres] at h
      cases h
      exact .unknownType hres
  | some t =>
  have ht := hv.resolve hres
  rw [hres] at h
  simp only [bind, Except.bind] at h
  cases hb : buildClaims t r v.issuer now fresh with
  | error e' =>
      rw [hb] at h
      cases h
      exact .refused hres ((buildClaims_eq_error_iff ht).mp hb)
  | ok cs =>
  rw [hb] at h
  cases hkey : v.keys.current? v.issuer with
  | none =>
      rw [hkey] at h
      cases h
      exact .noKey hres (accepts_of_buildClaims_eq_ok ht hb) hkey
  | some key =>
      -- the payload has a canonical text, so the request is issued
      simp only [hkey, canonical_payload ht hb, Except.mapError] at h
      cases h

/-- Every refusal `IssueRefusal` names is what issuing fails with. -/
theorem issue_eq_error_of_issueRefusal (hv : v.Valid)
    (h : IssueRefusal v c r e) : v.issue c r now fresh = .error e := by
  unfold issue
  cases h with
  | unknownType hres =>
      rw [hres]
      rfl
  | refused hres href =>
      rw [hres]
      simp only [bind, Except.bind]
      rw [buildClaims_eq_error_of_refusal (hv.resolve hres) href]
  | noKey hres ha hkey =>
      obtain ⟨cs, hb⟩ : ∃ cs, buildClaims _ r v.issuer now fresh = .ok cs :=
        buildClaims_isOk_of_accepts (hv.resolve hres) ha
      rw [hres]
      simp only [bind, Except.bind]
      rw [hb]
      simp only [hkey]

/-- A vault of valid templates refuses a record with `e` exactly when `IssueRefusal` says
so. -/
theorem issue_eq_error_iff (hv : v.Valid) :
    v.issue c r now fresh = .error e ↔ IssueRefusal v c r e :=
  ⟨issueRefusal_of_issue_eq_error hv, issue_eq_error_of_issueRefusal hv⟩

/-- A vault that issues badges and has no key yet. -/
def badgeVault : Vault := ⟨badgeIssuer, ⟨[], []⟩, ⟨[badge]⟩⟩

theorem badgeVault_valid : badgeVault.Valid := by
  intro t ht
  simp only [badgeVault, List.mem_singleton] at ht
  subst ht
  exact badge_valid

/-- Ana's record is accepted by the badge template, and the vault, which has no key, refuses
it at the key check. -/
theorem issue_eq_error_iff_badgeVault :
    badgeVault.Valid ∧
      badgeVault.issue "EmployeeBadge" anaRecord ⟨100, 0⟩ ⟨⟨7⟩⟩ =
        .error (.noSigningKey "issuer") ∧
      IssueRefusal badgeVault "EmployeeBadge" anaRecord (.noSigningKey "issuer") :=
  have hissue : badgeVault.issue "EmployeeBadge" anaRecord ⟨100, 0⟩ ⟨⟨7⟩⟩ =
      .error (.noSigningKey "issuer") := by
    rfl
  ⟨badgeVault_valid, hissue, (issue_eq_error_iff badgeVault_valid).mp hissue⟩

end Vault

end Attest
