import Attest.Proofs.IssueOutcome
import Attest.Proofs.CanonicalRead
import Attest.Proofs.Base64UrlRoundTrip
import Attest.Proofs.Timestamps

/-!
# Issued tokens round trip

A token is three base64url segments joined by dots.  Since no base64url character is a dot,
the two dots of a token are exactly the two that join its segments.  The first segment decodes
to the canonical header `{"alg":…,"kid":…,"typ":"JWT"}` of the issuer's current key, the second
to the canonical text of the claims' payload, and the third is the encoded signature of that
key over the first two segments joined by a dot.

The payload's canonical text reads back as the payload: a built payload is well formed (its
integers are in range when the issue time is, its objects are sorted) and holds no double,
because issuing succeeded only if the payload had a canonical form (`Json.canonical_eq_ok_iff`).
Reading back needs a reader that may open more arrays and objects than the payload nests; the
nesting grows with the namespace, which no bound limits.

The main statement is `Vault.issue_token_roundtrip`.
-/

namespace Attest

/-- A sum of seconds fits a JSON integer: it is a representable instant, whatever the instant
it started from. -/
theorem Timestamp.seconds_plusSeconds_mem (t : Timestamp) (n : Nat) :
    Json.intMin ≤ (t.plusSeconds n).seconds ∧ (t.plusSeconds n).seconds ≤ Json.intMax := by
  have hmin : Json.intMin = -2 ^ 63 := rfl
  have hmax : Json.intMax = 2 ^ 64 - 1 := rfl
  have hlatest : Timestamp.latestSeconds = 8210266876799 := rfl
  have hearliest : Timestamp.earliestSeconds = -8334601228800 := rfl
  have := Timestamp.plusSeconds_mem t n
  omega

/-! ## Payloads are well formed -/

section WellFormed

variable {t : Template} {r : SubjectRecord}

/-- Every claim of a record whose values are well formed is well formed. -/
theorem wellFormed_claimOf (ht : t.Valid) (hr : ∀ m ∈ r.fields, m.2.WellFormed) {k : String}
    {j : Json} (h : t.claimOf r k = some j) : j.WellFormed := by
  have hvalue : ∀ v, r.get? k = some v → v.WellFormed := fun v hv =>
    hr _ (SubjectRecord.mem_of_get?_eq_some hv).1
  rcases Template.claimOf_eq_some_cases ht h with
    ⟨ty, v, hv, hco⟩ | ⟨ty, raw, hraw, hco⟩ | ⟨-, -, -, hget⟩
  · exact FieldType.wellFormed_of_coerce? (hvalue v hv) hco
  · exact FieldType.wellFormed_of_coerce? hraw hco
  · exact hvalue j hget

theorem wellFormed_claims (ht : t.Valid) (hr : ∀ m ∈ r.fields, m.2.WellFormed) :
    (Json.obj (t.claims r)).WellFormed := by
  rw [Json.wellFormed_obj_iff]
  refine ⟨Json.Members.sorted_ofList _, ?_⟩
  rintro ⟨k, j⟩ hm
  have hget : (t.claims r).get? k = some j :=
    (Json.Members.sorted_ofList _).get?_eq_some_iff_mem.mpr hm
  rw [Template.get?_claims] at hget
  exact wellFormed_claimOf ht hr hget

theorem wellFormed_nest {custom : Json} (h : custom.WellFormed) (path : List String) :
    (ClaimSet.nest custom path).WellFormed := by
  induction path with
  | nil => exact h
  | cons name rest ih => simp [ClaimSet.nest, ih]

/-- A payload is well formed when its custom claims are and its times are in range. -/
theorem wellFormed_payload {cs : ClaimSet} (hc : (Json.obj cs.custom).WellFormed)
    (hi : Json.intMin ≤ cs.issuedAt.seconds ∧ cs.issuedAt.seconds ≤ Json.intMax)
    (he : ∀ e ∈ cs.expiresAt, Json.intMin ≤ e.seconds ∧ e.seconds ≤ Json.intMax) :
    cs.payload.WellFormed := by
  obtain ⟨ms, hp, hsorted, hvals⟩ := cs.payload_values
  rw [hp, Json.wellFormed_obj_iff]
  refine ⟨hsorted, fun m hm => ?_⟩
  rcases hvals m hm with ⟨s, hs⟩ | hs | ⟨e, hexp, hs⟩ | hs <;> rw [hs]
  · trivial
  · exact hi
  · exact he e hexp
  · exact wellFormed_nest hc _

/-- The payload built from a record of well-formed values at an instant in range is well
formed. -/
theorem wellFormed_payload_of_buildClaims {cs : ClaimSet} {issuer : IssuerId} {now : Timestamp}
    {fresh : CredentialId} (ht : t.Valid) (hr : ∀ m ∈ r.fields, m.2.WellFormed)
    (hnow : Json.intMin ≤ now.seconds ∧ now.seconds ≤ Json.intMax)
    (h : buildClaims t r issuer now fresh = .ok cs) : cs.payload.WellFormed := by
  obtain ⟨given, req, opt, und, -, hreq, hopt, hund, -, j, -, rfl⟩ := buildClaims_eq_ok h
  apply wellFormed_payload
  · rw [Template.ofList_loops ht hreq hopt hund]
    exact wellFormed_claims ht hr
  · exact hnow
  · intro e he
    simp only [Option.mem_def, Option.map_eq_some_iff] at he
    obtain ⟨n, -, rfl⟩ := he
    exact Timestamp.seconds_plusSeconds_mem now n

end WellFormed

/-! ## Compact tokens -/

/-- The canonical header of a key: its algorithm, its key id and the token type, in name order. -/
theorem Jws.canonicalText_header (k : SigningKey) :
    Json.canonicalText (Jws.header k) =
      "\x7b\"alg\":" ++ Json.quote k.algorithm.name ++ ",\"kid\":" ++ Json.quote k.kid.val ++
        ",\"typ\":\"JWT\"\x7d" := by
  have halg : Json.quote "alg" ≤ Json.quote "kid" := by decide
  have hkid : Json.quote "kid" ≤ Json.quote "typ" := by decide
  have htyp : Json.quote "alg" ≤ Json.quote "typ" := by decide
  rw [Jws.header, Json.canonicalText, Json.orderMembers, Json.canonicalMembers_eq_map,
    List.mergeSort_of_pairwise (by simp [halg, hkid, htyp])]
  simp only [List.map_cons, List.map_nil, Json.joinCommas, Json.canonicalText, Json.compact,
    show Json.quote "alg" = "\"alg\"" by decide, show Json.quote "kid" = "\"kid\"" by decide,
    show Json.quote "typ" = "\"typ\"" by decide, show Json.quote "JWT" = "\"JWT\"" by decide]
  rw [← String.toList_inj]
  simp

theorem count_dot_encode (bs : Bytes) : (Base64Url.encode bs).toList.count '.' = 0 :=
  List.count_eq_zero.mpr (Base64Url.dot_not_mem_encode bs)

/-- Three encoded segments joined by dots hold exactly those two dots. -/
theorem count_dot_segments (a b c : Bytes) :
    (Base64Url.encode a ++ "." ++ Base64Url.encode b ++ "." ++ Base64Url.encode c).toList.count
      '.' = 2 := by
  simp [count_dot_encode]

/-! ## Issuing -/

namespace Vault

variable {v : Vault} {c : String} {r : SubjectRecord} {now : Timestamp} {fresh : CredentialId}

/-- What a successful issue did: resolve the type, build the claims, find the issuer's current
key and sign the payload's canonical text with it. -/
theorem issue_eq_ok {cred : Credential} {event : LogEvent}
    (h : v.issue c r now fresh = .ok (cred, event)) :
    ∃ t key text, v.catalogue.resolve c = some t ∧
      buildClaims t r v.issuer now fresh = .ok cred.claims ∧
      v.keys.current? v.issuer = some key ∧ Json.canonical cred.claims.payload = .ok text ∧
      cred.token = Jws.encodeCompact key text ∧ cred.kid = key.kid := by
  unfold issue at h
  cases hres : v.catalogue.resolve c with
  | none =>
      rw [hres] at h
      cases h
  | some t =>
  rw [hres] at h
  simp only [bind, Except.bind] at h
  cases hb : buildClaims t r v.issuer now fresh with
  | error e' =>
      rw [hb] at h
      cases h
  | ok cs =>
  rw [hb] at h
  cases hkey : v.keys.current? v.issuer with
  | none =>
      rw [hkey] at h
      cases h
  | some key =>
  rw [hkey] at h
  cases hcan : Json.canonical cs.payload with
  | error e' =>
      simp [hcan, Except.mapError] at h
  | ok text =>
      simp only [hcan, Except.mapError, Except.ok.injEq, Prod.mk.injEq] at h
      obtain ⟨rfl, -⟩ := h
      exact ⟨t, key, text, rfl, hb, rfl, hcan, rfl, rfl⟩

/-- Issuing succeeds when the type resolves, the claims build, the issuer has a current key and
the payload has a canonical text. -/
theorem issue_eq_ok_of {t : Template} {cs : ClaimSet} {key : SigningKey} {text : String}
    (hres : v.catalogue.resolve c = some t) (hb : buildClaims t r v.issuer now fresh = .ok cs)
    (hkey : v.keys.current? v.issuer = some key) (hcan : Json.canonical cs.payload = .ok text) :
    ∃ event, v.issue c r now fresh = .ok (⟨cs, Jws.encodeCompact key text, key.kid⟩, event) := by
  unfold issue
  rw [hres]
  simp only [bind, Except.bind]
  rw [hb]
  simp only [hkey, hcan, Except.mapError]
  exact ⟨_, rfl⟩

/-- An issued token is three base64url segments joined by its only two dots: the canonical
header of the issuer's current key, whose id the credential names; the canonical text of the
claims' payload, which reads back as the payload; and the key's signature over the first two
segments joined by a dot. -/
theorem issue_token_roundtrip {cred : Credential} {event : LogEvent} (hv : v.Valid)
    (hr : ∀ m ∈ r.fields, m.2.WellFormed)
    (hnow : Json.intMin ≤ now.seconds ∧ now.seconds ≤ Json.intMax)
    (h : v.issue c r now fresh = .ok (cred, event)) :
    ∃ (key : SigningKey) (head body sig : String),
      v.keys.current? v.issuer = some key ∧ cred.kid = key.kid ∧
      cred.token = head ++ "." ++ body ++ "." ++ sig ∧
      '.' ∉ head.toList ∧ '.' ∉ body.toList ∧ '.' ∉ sig.toList ∧
      cred.token.toList.count '.' = 2 ∧
      Base64Url.decode head = some ("\x7b\"alg\":" ++ Json.quote key.algorithm.name ++
        ",\"kid\":" ++ Json.quote cred.kid.val ++ ",\"typ\":\"JWT\"\x7d").toUTF8.toList ∧
      Json.canonical cred.claims.payload = .ok (Json.canonicalText cred.claims.payload) ∧
      Base64Url.decode body = some (Json.canonicalText cred.claims.payload).toUTF8.toList ∧
      (∀ limit, cred.claims.payload.nesting < limit →
        Json.readCharsWithin limit (Json.canonicalText cred.claims.payload).toList =
          .ok cred.claims.payload) ∧
      sig = Base64Url.encode (key.sign (head ++ "." ++ body).toUTF8.toList) := by
  obtain ⟨t, key, text, hres, hb, hkey, hcan, htoken, hkid⟩ := issue_eq_ok h
  have hwf := wellFormed_payload_of_buildClaims (hv.resolve hres) hr hnow hb
  obtain ⟨hfloat, rfl⟩ := (Json.canonical_eq_ok_iff hwf).mp hcan
  refine ⟨key, _, _, _, hkey, hkid, htoken, Base64Url.dot_not_mem_encode _,
    Base64Url.dot_not_mem_encode _, Base64Url.dot_not_mem_encode _,
    htoken ▸ count_dot_segments _ _ _, ?_, hcan, Base64Url.decode_encode _,
    fun limit hl => Json.readCharsWithin_canonicalText hwf hfloat hl, rfl⟩
  rw [Base64Url.decode_encode, Jws.canonicalText_header, hkid]

/-- An ed25519 key of the badge issuer. -/
def badgeKey : SigningKey :=
  ⟨badgeIssuer, ⟨"badge-key", by decide⟩, .ed25519 (List.replicate 32 7),
    (KeyMaterial.ed25519 (List.replicate 32 7)).publicKey⟩

/-- The badge vault with the badge key as its issuer's current key. -/
def signingBadgeVault : Vault := { badgeVault with keys := ⟨[badgeKey], []⟩ }

/-- Ana's badge, signed with the badge key. -/
def anaCredential : Credential :=
  ⟨anaBadge, Jws.encodeCompact badgeKey (Json.canonicalText anaBadge.payload), badgeKey.kid⟩

theorem issue_token_roundtrip_anaBadge :
    ∃ event, signingBadgeVault.issue "EmployeeBadge" anaRecord ⟨100, 0⟩ ⟨⟨7⟩⟩ =
        .ok (anaCredential, event) ∧
      ∃ (key : SigningKey) (head body sig : String),
        signingBadgeVault.keys.current? badgeIssuer = some key ∧
        anaCredential.token = head ++ "." ++ body ++ "." ++ sig ∧
        anaCredential.token.toList.count '.' = 2 ∧
        Base64Url.decode body = some (Json.canonicalText anaBadge.payload).toUTF8.toList := by
  obtain ⟨event, h⟩ := issue_eq_ok_of (v := signingBadgeVault) (c := "EmployeeBadge") rfl
    buildClaims_anaBadge rfl
    (canonical_payload badge_valid buildClaims_anaBadge)
  have hr : ∀ m ∈ anaRecord.fields, m.2.WellFormed := by
    simp [anaRecord, Json.WellFormed]
  obtain ⟨key, head, body, sig, hkey, -, htoken, -, -, -, hcount, -, -, hbody, -, -⟩ :=
    issue_token_roundtrip (v := signingBadgeVault) badgeVault_valid hr (by decide) h
  exact ⟨event, h, key, head, body, sig, hkey, htoken, hcount, hbody⟩

end Vault

end Attest
