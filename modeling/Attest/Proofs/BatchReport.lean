import Attest.Proofs.TokenRoundTrip

/-!
# Batch reports

A batch issues its requests one by one, each at its own reading of the clock and with an
identifier drawn for it, and reports the issued credentials and the failures, both in request
order; a concurrent batch computes the same report and differs only in where the debug events
go.

What a vault answers a request depends on the moment of issue only through the claims' times
and the identifier drawn for it: a refusal is the same refusal at every moment
(`issue_eq_error_moment`), and a credential issued at one moment is issued at every other with
claims that differ at most in those parts (`ClaimSet.Reissued`, `issue_reissued`).

The main statement, **`issueBatch_report`**, says that the indices of the issued credentials and
of the failures are each increasing and together are every index of the request list once; a
request fails exactly when issuing it fails, and its failure carries the error, the requested
type and the record id; and a concurrent batch run with other clock readings and other
identifiers reports the same failures and issues at the same indices credentials whose claims differ only
in their times and drawn identifiers.
-/

namespace Attest

/-- `b` is `a` issued at another moment: the two differ at most in their times, and in their
identifiers only when the record `r` names none, so that both were drawn. -/
structure ClaimSet.Reissued (r : SubjectRecord) (a b : ClaimSet) : Prop where
  same : b =
    { a with credentialId := b.credentialId, issuedAt := b.issuedAt, expiresAt := b.expiresAt }
  drawn : b.credentialId ≠ a.credentialId → r.get? credentialIdField = none

/-- Claims built from one record at two moments differ only as `ClaimSet.Reissued` allows:
every check of the record comes out the same. -/
theorem buildClaims_reissued {t : Template} {r : SubjectRecord} {issuer : IssuerId}
    {now now' : Timestamp} {fresh fresh' : CredentialId} {cs cs' : ClaimSet}
    (h : buildClaims t r issuer now fresh = .ok cs)
    (h' : buildClaims t r issuer now' fresh' = .ok cs') : cs.Reissued r cs' := by
  obtain ⟨given, req, opt, und, hg, hreq, hopt, hund, -, j, hj, rfl⟩ := buildClaims_eq_ok h
  obtain ⟨given', req', opt', und', hg', hreq', hopt', hund', -, j', hj', rfl⟩ :=
    buildClaims_eq_ok h'
  obtain rfl : given' = given := Except.ok.inj (hg'.symm.trans hg)
  obtain rfl : req' = req := Except.ok.inj (hreq'.symm.trans hreq)
  obtain rfl : opt' = opt := Except.ok.inj (hopt'.symm.trans hopt)
  obtain rfl : und' = und := Except.ok.inj (hund'.symm.trans hund)
  obtain rfl : j' = j := Option.some.inj (hj'.symm.trans hj)
  refine ⟨rfl, fun hne => ?_⟩
  -- a record that names its identifier gives it at both moments
  have hid := recordCredentialId_eq_ok hg
  cases hv : r.get? credentialIdField with
  | none => rfl
  | some w =>
    rw [hv] at hid
    obtain ⟨s, id, -, -, rfl⟩ := hid
    exact absurd rfl hne

namespace Vault

variable {v : Vault} {c : String} {r : SubjectRecord}

/-! ## Issuing at another moment -/

/-- A vault of valid templates refuses a record with the same error at every moment and with
every drawn identifier. -/
theorem issue_eq_error_moment (hv : v.Valid) (now now' : Timestamp)
    (fresh fresh' : CredentialId) {e : IssuanceError} :
    v.issue c r now fresh = .error e ↔ v.issue c r now' fresh' = .error e := by
  rw [issue_eq_error_iff hv, issue_eq_error_iff hv]

/-- A credential issued at one moment is issued at every other, its claims differing only in
what the moment decides. -/
theorem issue_reissued (hv : v.Valid) {now : Timestamp}
    {fresh : CredentialId} {cred : Credential} {event : LogEvent}
    (h : v.issue c r now fresh = .ok (cred, event)) (now' : Timestamp) (fresh' : CredentialId) :
    ∃ cred' event', v.issue c r now' fresh' = .ok (cred', event') ∧
      cred.claims.Reissued r cred'.claims := by
  cases h' : v.issue c r now' fresh' with
  | error e =>
    have := (issue_eq_error_moment hv now now' fresh fresh').mpr h'
    rw [h] at this
    cases this
  | ok result =>
    obtain ⟨cred', event'⟩ := result
    obtain ⟨t, -, -, hres, hb, -⟩ := issue_eq_ok h
    obtain ⟨t', -, -, hres', hb', -⟩ := issue_eq_ok h'
    obtain rfl : t' = t := Option.some.inj (hres'.symm.trans hres)
    exact ⟨cred', event', rfl, buildClaims_reissued hb hb'⟩

/-! ## The requests of a batch -/

variable {clock clock' : Nat → Timestamp}

/-- One request of a batch with its index and what issuing it gave. -/
abbrev BatchItem := Nat × IssuanceRequest × Except IssuanceError (Credential × LogEvent)

theorem issueEach_cons (k : Nat) (req : IssuanceRequest) (rest : List IssuanceRequest)
    (e : Entropy) :
    (v.issueEach clock k (req :: rest) e).1 =
      (k, req, v.issue req.credentialType req.subject (clock k)
          (CredentialId.ofRandomBytes (e.take 16).1)) ::
        (v.issueEach clock (k + 1) rest (e.take 16).2).1 := rfl

/-- The results of a batch come one per request, in order, with consecutive indices. -/
theorem issueEach_indices (k : Nat) (reqs : List IssuanceRequest) (e : Entropy) :
    (v.issueEach clock k reqs e).1.map (·.1) = List.range' k reqs.length := by
  induction reqs generalizing k e with
  | nil => rfl
  | cons req rest ih =>
    rw [issueEach_cons, List.map_cons, ih, List.length_cons, List.range'_succ]

/-- Each result of a batch is what issuing its request gave at the clock's reading for its
index, with some drawn identifier. -/
theorem issueEach_mem {k : Nat} {reqs : List IssuanceRequest} {e : Entropy} {x : BatchItem}
    (hx : x ∈ (v.issueEach clock k reqs e).1) :
    k ≤ x.1 ∧ reqs[x.1 - k]? = some x.2.1 ∧
      ∃ fresh, x.2.2 = v.issue x.2.1.credentialType x.2.1.subject (clock x.1) fresh := by
  induction reqs generalizing k e with
  | nil => cases hx
  | cons req rest ih =>
    rw [issueEach_cons] at hx
    rcases List.mem_cons.mp hx with rfl | hx
    · exact ⟨le_refl _, by simp, _, rfl⟩
    · obtain ⟨hk, hreq, hissue⟩ := ih hx
      refine ⟨by omega, ?_, hissue⟩
      rw [show x.1 - k = x.1 - (k + 1) + 1 by omega]
      simpa using hreq

/-- Two runs of one batch, with two clocks, pair up: the same index and request, each issued at
its own clock's reading for that index. -/
def MomentPair (v : Vault) (clock clock' : Nat → Timestamp) (x y : BatchItem) : Prop :=
  x.1 = y.1 ∧ x.2.1 = y.2.1 ∧ ∃ fresh fresh',
    x.2.2 = v.issue x.2.1.credentialType x.2.1.subject (clock x.1) fresh ∧
    y.2.2 = v.issue x.2.1.credentialType x.2.1.subject (clock' x.1) fresh'

theorem issueEach_pair (k : Nat) (reqs : List IssuanceRequest) (e e' : Entropy) :
    List.Forall₂ (MomentPair v clock clock') (v.issueEach clock k reqs e).1
      (v.issueEach clock' k reqs e').1 := by
  induction reqs generalizing k e e' with
  | nil => exact .nil
  | cons req rest ih =>
    rw [issueEach_cons, issueEach_cons]
    exact .cons ⟨rfl, rfl, _, _, rfl, rfl⟩ (ih (k + 1) _ _)

/-! ## The report -/

/-- The issued credential a result adds to the report. -/
def issuedEntry : BatchItem → Option (Nat × Credential)
  | (i, _, .ok (cred, _)) => some (i, cred)
  | (_, _, .error _) => none

/-- The failure a result adds to the report. -/
def failureEntry (v : Vault) : BatchItem → Option BatchFailure
  | (_, _, .ok _) => none
  | (i, req, .error err) => some ⟨i, v.recordId i req, req.credentialType, err⟩

/-- A fold that adds each result's credential or failure to the report ends with all of them, in
order. -/
theorem foldl_report {σ : Type} {step : BatchReport × σ → BatchItem → BatchReport × σ}
    (hstep : ∀ acc item, (step acc item).1 =
      ⟨acc.1.issued ++ (issuedEntry item).toList, acc.1.failures ++ (v.failureEntry item).toList⟩)
    (results : List BatchItem) (acc : BatchReport × σ) :
    (results.foldl step acc).1 =
      ⟨acc.1.issued ++ results.filterMap issuedEntry,
        acc.1.failures ++ results.filterMap v.failureEntry⟩ := by
  induction results generalizing acc with
  | nil => simp
  | cons item rest ih =>
    rw [List.foldl_cons, ih, hstep]
    obtain ⟨i, req, result⟩ := item
    cases result <;> simp [issuedEntry, failureEntry, List.filterMap_cons]

/-- The report of a batch, sequential or concurrent: the credentials of its issued results and
the failures of the others, in request order. -/
theorem issueBatch_report_eq (reqs : List IssuanceRequest) (e : Entropy) (concurrent : Bool) :
    (v.issueBatch reqs clock e concurrent).1.report =
      ⟨(v.issueEach clock 0 reqs e).1.filterMap issuedEntry,
        (v.issueEach clock 0 reqs e).1.filterMap v.failureEntry⟩ := by
  simp only [issueBatch]
  rw [foldl_report]
  · rfl
  · rintro acc ⟨i, req, result⟩
    cases result with
    | ok r =>
      obtain ⟨cred, debug⟩ := r
      cases concurrent <;> simp [issuedEntry, failureEntry]
    | error err => simp [issuedEntry, failureEntry]

/-- Whether a result is an issued credential. -/
def isIssued : BatchItem → Bool
  | (_, _, .ok _) => true
  | (_, _, .error _) => false

theorem issuedEntry_indices (results : List BatchItem) :
    (results.filterMap issuedEntry).map (·.1) = (results.filter isIssued).map (·.1) := by
  induction results with
  | nil => rfl
  | cons x rest ih =>
    obtain ⟨i, req, result⟩ := x
    cases result <;> simpa [issuedEntry, isIssued, List.filterMap_cons, List.filter_cons] using ih

theorem failureEntry_indices (results : List BatchItem) :
    (results.filterMap v.failureEntry).map (·.index) =
      (results.filter fun x => !isIssued x).map (·.1) := by
  induction results with
  | nil => rfl
  | cons x rest ih =>
    obtain ⟨i, req, result⟩ := x
    cases result <;> simpa [failureEntry, isIssued, List.filterMap_cons, List.filter_cons] using ih

/-- Paired results of two runs fail alike and are issued at the same indices. -/
theorem MomentPair.entries (hv : v.Valid) {x y : BatchItem}
    (hxy : MomentPair v clock clock' x y) :
    v.failureEntry x = v.failureEntry y ∧
      (issuedEntry x).map (·.1) = (issuedEntry y).map (·.1) := by
  obtain ⟨i, req, result⟩ := x
  obtain ⟨j, req', result'⟩ := y
  obtain ⟨rfl, rfl, fresh, fresh', hx, hy⟩ := hxy
  dsimp only at hx hy ⊢
  subst hx hy
  cases hx : v.issue req.credentialType req.subject (clock i) fresh with
  | error err =>
    -- a refusal is the same refusal at the other moment
    rw [(issue_eq_error_moment hv (clock i) (clock' i) fresh fresh').mp hx]
    exact ⟨rfl, rfl⟩
  | ok result =>
    obtain ⟨cred', event', hy, -⟩ := issue_reissued hv hx (clock' i) fresh'
    rw [hy]
    exact ⟨rfl, rfl⟩

/-- A failure of a batch report is the refusal of its request at the clock's reading for it. -/
theorem mem_failureEntries {reqs : List IssuanceRequest} {e : Entropy} {f : BatchFailure}
    (hf : f ∈ (v.issueEach clock 0 reqs e).1.filterMap v.failureEntry) :
    ∃ req, reqs[f.index]? = some req ∧ f.recordId = v.recordId f.index req ∧
      f.credentialType = req.credentialType ∧
      ∃ fresh, v.issue req.credentialType req.subject (clock f.index) fresh = .error f.error := by
  obtain ⟨⟨i, req, result⟩, hx, hfx⟩ := List.mem_filterMap.mp hf
  obtain ⟨-, hreq, fresh, hissue⟩ := issueEach_mem hx
  cases result with
  | ok _ => cases hfx
  | error err =>
    cases hfx
    exact ⟨req, by simpa using hreq, rfl, rfl, fresh, hissue.symm⟩

/-- An issued credential of a batch report is what issuing its request gave at the clock's
reading for it. -/
theorem mem_issuedEntries {reqs : List IssuanceRequest} {e : Entropy} {p : Nat × Credential}
    (hp : p ∈ (v.issueEach clock 0 reqs e).1.filterMap issuedEntry) :
    ∃ req fresh event, reqs[p.1]? = some req ∧
      v.issue req.credentialType req.subject (clock p.1) fresh = .ok (p.2, event) := by
  obtain ⟨⟨i, req, result⟩, hx, hpx⟩ := List.mem_filterMap.mp hp
  obtain ⟨-, hreq, fresh, hissue⟩ := issueEach_mem hx
  cases result with
  | ok r =>
    obtain ⟨cred, event⟩ := r
    cases hpx
    exact ⟨req, fresh, event, by simpa using hreq, hissue.symm⟩
  | error _ => cases hpx

end Vault

/-- Lists paired by a relation under which two functions agree have the same `filterMap`. -/
theorem List.filterMap_eq_of_forall₂ {α β γ : Type} {R : α → β → Prop} {f : α → Option γ}
    {g : β → Option γ} :
    ∀ {l : List α} {l' : List β}, List.Forall₂ R l l' →
      (∀ x ∈ l, ∀ y, R x y → f x = g y) → l.filterMap f = l'.filterMap g
  | [], [], .nil, _ => rfl
  | x :: _, y :: _, .cons hxy hrest, h => by
    rw [List.filterMap_cons, List.filterMap_cons, h x List.mem_cons_self y hxy,
      List.filterMap_eq_of_forall₂ hrest fun a ha b hab => h a (List.mem_cons_of_mem _ ha) b hab]

namespace Vault

variable {v : Vault} {clock clock' : Nat → Timestamp}

/-- Results numbered `0, …, n - 1` report issued and failed indices that are each increasing and
together are every index once. -/
theorem report_indices {results : List BatchItem} {n : Nat}
    (hidx : results.map (·.1) = List.range n) :
    ((results.filterMap issuedEntry).map (·.1)).Pairwise (· < ·) ∧
      ((results.filterMap v.failureEntry).map (·.index)).Pairwise (· < ·) ∧
      ((results.filterMap issuedEntry).map (·.1) ++
        (results.filterMap v.failureEntry).map (·.index)).Perm (List.range n) := by
  have hlt : (results.map (·.1)).Pairwise (· < ·) := hidx ▸ List.pairwise_lt_range
  rw [issuedEntry_indices, failureEntry_indices]
  refine ⟨hlt.sublist (List.filter_sublist.map _), hlt.sublist (List.filter_sublist.map _), ?_⟩
  -- the issued results and the others are a split of all of them
  rw [← List.map_append, ← hidx]
  exact (List.filter_append_perm isIssued results).map _

/-- In a batch report, of either kind and with any clock, the issued and the failed indices are
each increasing and together are every index of the requests once. -/
theorem issueBatch_indices (reqs : List IssuanceRequest) (clock : Nat → Timestamp) (e : Entropy)
    (concurrent : Bool) :
    ((v.issueBatch reqs clock e concurrent).1.report.issued.map (·.1)).Pairwise (· < ·) ∧
      ((v.issueBatch reqs clock e concurrent).1.report.failures.map (·.index)).Pairwise
        (· < ·) ∧
      ((v.issueBatch reqs clock e concurrent).1.report.issued.map (·.1) ++
        (v.issueBatch reqs clock e concurrent).1.report.failures.map (·.index)).Perm
          (List.range reqs.length) := by
  rw [issueBatch_report_eq]
  exact report_indices (by rw [issueEach_indices, List.range_eq_range'])

/-- An issued credential of a batch report is what issuing its request gave at the clock's
reading for it. -/
theorem mem_issueBatch_issued {reqs : List IssuanceRequest} {e : Entropy} {concurrent : Bool}
    {p : Nat × Credential} (hp : p ∈ (v.issueBatch reqs clock e concurrent).1.report.issued) :
    ∃ req fresh event, reqs[p.1]? = some req ∧
      v.issue req.credentialType req.subject (clock p.1) fresh = .ok (p.2, event) := by
  rw [issueBatch_report_eq] at hp
  exact mem_issuedEntries hp

section Moments

variable {reqs : List IssuanceRequest} (hv : v.Valid)
include hv

/-- A failure of a batch report is the refusal of its request, the same at every moment. -/
theorem mem_issueBatch_failures {e : Entropy} {concurrent : Bool} {f : BatchFailure}
    (hf : f ∈ (v.issueBatch reqs clock e concurrent).1.report.failures) :
    ∃ req, reqs[f.index]? = some req ∧ f.recordId = v.recordId f.index req ∧
      f.credentialType = req.credentialType ∧
      ∀ t fresh, v.issue req.credentialType req.subject t fresh = .error f.error := by
  rw [issueBatch_report_eq] at hf
  obtain ⟨req, hreq, hid, htype, fresh, hissue⟩ := mem_failureEntries hf
  exact ⟨req, hreq, hid, htype, fun t fresh' =>
    (issue_eq_error_moment hv (clock f.index) t fresh fresh').mp hissue⟩

/-- A request of a batch is among its failures exactly when issuing it fails, at any moment. -/
theorem issueBatch_failed_iff (e : Entropy) (concurrent : Bool) {i : Nat}
    {req : IssuanceRequest} (hreq : reqs[i]? = some req) (t : Timestamp) (fresh : CredentialId) :
    i ∈ (v.issueBatch reqs clock e concurrent).1.report.failures.map (·.index) ↔
      ∃ err, v.issue req.credentialType req.subject t fresh = .error err := by
  constructor
  · intro hi
    obtain ⟨f, hf, rfl⟩ := List.mem_map.mp hi
    obtain ⟨req', hreq', -, -, herr⟩ := mem_issueBatch_failures hv hf
    obtain rfl : req' = req := Option.some.inj (hreq'.symm.trans hreq)
    exact ⟨f.error, herr t fresh⟩
  · rintro ⟨err, herr⟩
    -- every index is issued or failed, and a request that fails is no issued one
    have hin : i ∈ List.range reqs.length :=
      List.mem_range.mpr (List.getElem?_eq_some_iff.mp hreq).1
    have hperm := (issueBatch_indices (v := v) reqs clock e concurrent).2.2
    rcases List.mem_append.mp (hperm.symm.subset hin) with hi | hi
    · obtain ⟨p, hp, rfl⟩ := List.mem_map.mp hi
      obtain ⟨req', fresh', event, hreq', hok⟩ := mem_issueBatch_issued hp
      obtain rfl : req' = req := Option.some.inj (hreq'.symm.trans hreq)
      have := (issue_eq_error_moment hv t (clock p.1) fresh fresh').mp herr
      rw [hok] at this
      cases this
    · exact hi

/-- Two runs of one batch, of either kind, with any two clocks and any drawn identifiers,
report the same failures and issue at the same indices. -/
theorem issueBatch_runs_agree (clock clock' : Nat → Timestamp) (e e' : Entropy) (c c' : Bool) :
    (v.issueBatch reqs clock' e' c').1.report.failures =
        (v.issueBatch reqs clock e c).1.report.failures ∧
      (v.issueBatch reqs clock' e' c').1.report.issued.map (·.1) =
        (v.issueBatch reqs clock e c).1.report.issued.map (·.1) := by
  rw [issueBatch_report_eq, issueBatch_report_eq]
  -- the two runs pair their results, which fail alike and are issued alike
  have hpair : List.Forall₂ (MomentPair v clock clock') (v.issueEach clock 0 reqs e).1
      (v.issueEach clock' 0 reqs e').1 :=
    issueEach_pair 0 reqs e e'
  have hentries : ∀ x ∈ (v.issueEach clock 0 reqs e).1, ∀ y, MomentPair v clock clock' x y →
      v.failureEntry x = v.failureEntry y ∧
        (issuedEntry x).map (·.1) = (issuedEntry y).map (·.1) :=
    fun _ _ _ hxy => hxy.entries hv
  constructor
  · exact (List.filterMap_eq_of_forall₂ hpair fun x hx y hxy => (hentries x hx y hxy).1).symm
  · rw [List.map_filterMap, List.map_filterMap]
    exact (List.filterMap_eq_of_forall₂ hpair fun x hx y hxy => (hentries x hx y hxy).2).symm

/-- Two runs of one batch that issue at one index issue the same request, with claims that
differ only in what the moment decides. -/
theorem issueBatch_reissued {e e' : Entropy} {c c' : Bool} {i : Nat} {cred cred' : Credential}
    (hi : (i, cred) ∈ (v.issueBatch reqs clock e c).1.report.issued)
    (hi' : (i, cred') ∈ (v.issueBatch reqs clock' e' c').1.report.issued) :
    ∃ req, reqs[i]? = some req ∧ cred.claims.Reissued req.subject cred'.claims := by
  obtain ⟨req, fresh, event, hreq, hok⟩ := mem_issueBatch_issued hi
  obtain ⟨req', fresh', event', hreq', hok'⟩ := mem_issueBatch_issued hi'
  obtain rfl : req = req' := Option.some.inj (hreq.symm.trans hreq')
  -- issuing the request at the second clock's reading gives the second credential
  obtain ⟨cred'', event'', hok'', hre⟩ := issue_reissued hv hok (clock' i) fresh'
  rw [hok'] at hok''
  obtain ⟨rfl, -⟩ := Prod.mk.inj (Except.ok.inj hok'')
  exact ⟨req, hreq, hre⟩

end Moments

/-- A batch's report, and the report of the same batch run concurrently with another clock and
other drawn identifiers:

* the issued indices and the failed indices are each increasing, and together they are every
  index of the requests once, so the report counts every request;
* a request fails exactly when issuing it fails, at any moment, and its failure carries that
  error, its credential type and its record id; an issued request carries the credential
  issuing it gave at the clock's reading for it;
* the concurrent report has the same failures and issues at the same indices, and its claims
  differ from the sequential ones only in their times and drawn identifiers. -/
theorem issueBatch_report (hv : v.Valid) {reqs : List IssuanceRequest}
    (clock clock' : Nat → Timestamp) (e e' : Entropy) :
    let report := (v.issueBatch reqs clock e false).1.report
    let parallel := (v.issueBatch reqs clock' e' true).1.report
    report.total = reqs.length ∧
      (report.issued.map (·.1)).Pairwise (· < ·) ∧
      (report.failures.map (·.index)).Pairwise (· < ·) ∧
      (report.issued.map (·.1) ++ report.failures.map (·.index)).Perm (List.range reqs.length) ∧
      (∀ i req t fresh, reqs[i]? = some req →
        (i ∈ report.failures.map (·.index) ↔
          ∃ err, v.issue req.credentialType req.subject t fresh = .error err)) ∧
      (∀ f ∈ report.failures, ∃ req, reqs[f.index]? = some req ∧
        f.recordId = v.recordId f.index req ∧ f.credentialType = req.credentialType ∧
        ∀ t fresh, v.issue req.credentialType req.subject t fresh = .error f.error) ∧
      (∀ p ∈ report.issued, ∃ req fresh event, reqs[p.1]? = some req ∧
        v.issue req.credentialType req.subject (clock p.1) fresh = .ok (p.2, event)) ∧
      parallel.failures = report.failures ∧
      parallel.issued.map (·.1) = report.issued.map (·.1) ∧
      (∀ i cred cred', (i, cred) ∈ report.issued → (i, cred') ∈ parallel.issued →
        ∃ req, reqs[i]? = some req ∧ cred.claims.Reissued req.subject cred'.claims) := by
  intro report parallel
  obtain ⟨hissuedLt, hfailedLt, hperm⟩ := issueBatch_indices (v := v) reqs clock e false
  obtain ⟨hfailures, hissued⟩ := issueBatch_runs_agree hv clock clock' e e' false true
  refine ⟨?_, hissuedLt, hfailedLt, hperm,
    fun i req t fresh hreq => issueBatch_failed_iff hv e false hreq t fresh,
    fun f hf => mem_issueBatch_failures hv hf, fun p hp => mem_issueBatch_issued hp,
    hfailures, hissued, fun i cred cred' hi hi' => issueBatch_reissued hv hi hi'⟩
  -- the report counts each index once
  simpa [BatchReport.total] using hperm.length_eq

/-- Ana's badge request and a request of an unknown type. -/
def badgeRequests : List IssuanceRequest :=
  [⟨"EmployeeBadge", anaRecord⟩, ⟨"VisitorBadge", ⟨[("name", .str "Bo")], by decide⟩⟩]

/-- The badge requests issued with a clock that ticks a second per request. -/
theorem issueBatch_report_badge :
    badgeVault.Valid ∧
      (badgeVault.issueBatch badgeRequests (fun i => ⟨100 + i, 0⟩) (Entropy.ofSeed [1])
        false).1.report.total = badgeRequests.length :=
  ⟨badgeVault_valid,
    (issueBatch_report badgeVault_valid (fun i => ⟨100 + i, 0⟩) (fun i => ⟨200 + i, 0⟩)
      (Entropy.ofSeed [1]) (Entropy.ofSeed [2])).1⟩

end Vault

end Attest
