import Attest.Proofs.KeyRotation
import Attest.Proofs.TokenRoundTrip

/-!
# Issuing while keys rotate

A vault's key store is shared between callers: rotations change it, one at a time, and an issue
call reads the issuer's active key once and then works on its own.  What the call does after the
read (building the claims, writing the canonical payload, signing) looks at nothing shared, so
the credential a call returns is the one `Vault.issue` gives on the vault as it was at the
instant of the read; whatever rotations land between the read and the signature, or after it,
change nothing in it.  `Vault.rotateAll` is the vault after a history of `rotate` calls, each
succeeding or refused.

The main statement, **`issue_under_rotation`**, follows a call whose read comes after any
history of rotations: the credential names the key it read, the token's header names that key
id and its signature is that key's, and in every state that later rotations reach, the
issuer's published keys still hold exactly that key under its id.  The last part rests on the
invariant of `KeyStore.Tracks`: a retired key stays published, and an issuer never reuses a
key id.
-/

namespace Attest

namespace Vault

/-- The vault after a history of `rotate` calls; a refused call leaves it as it was. -/
def rotateAll (v : Vault) : List SigningKey → Vault
  | [] => v
  | key :: rest =>
    match v.rotate key with
    | .ok (_, v', _) => v'.rotateAll rest
    | .error _ => v.rotateAll rest

/-- Rotating a vault rotates its key store and keeps its issuer and templates. -/
theorem rotate_eq (v : Vault) (key : SigningKey) :
    v.rotate key = (v.keys.rotate key).map fun (previous, keys, event) =>
      (previous.kid, { v with keys := keys }, event) := by
  unfold rotate
  cases v.keys.rotate key <;> rfl

/-- A history of vault rotations is the same history on the vault's key store. -/
theorem rotateAll_eq (v : Vault) (history : List SigningKey) :
    v.rotateAll history = { v with keys := (v.keys.rotateAll history).2 } := by
  induction history generalizing v with
  | nil => rfl
  | cons key rest ih =>
    cases h : v.keys.rotate key with
    | ok result =>
      obtain ⟨previous, keys, event⟩ := result
      have hv : v.rotate key = .ok (previous.kid, { v with keys := keys }, event) := by
        rw [rotate_eq, h]
        rfl
      simp only [rotateAll, hv, KeyStore.rotateAll_cons_ok h, ih]
    | error e =>
      have hv : v.rotate key = .error e := by
        rw [rotate_eq, h]
        rfl
      simp only [rotateAll, hv, KeyStore.rotateAll_cons_error h, ih]

end Vault

namespace KeyStore

/-- An issuer's active key is among the keys it has had. -/
theorem Tracks.mem_log_of_current? {issuers : List IssuerId} {log : List SigningKey}
    {s : KeyStore} (ht : Tracks issuers log s) {i : IssuerId} {k : SigningKey}
    (h : s.current? i = some k) : k ∈ log := by
  have hk : k ∈ s.retired.filter (·.issuer == i) ++ (s.current? i).toList := by simp [h]
  rw [ht.history i] at hk
  exact List.mem_of_mem_filter hk

end KeyStore

namespace Vault

/-- A token's three segments: the encoded canonical header of the key, the encoded payload text,
and the encoded signature of the key over the first two joined by a dot. -/
theorem encodeCompact_segments (key : SigningKey) (text : String) :
    Jws.encodeCompact key text =
      Base64Url.encode (Json.canonicalText (Jws.header key)).toUTF8.toList ++ "." ++
        Base64Url.encode text.toUTF8.toList ++ "." ++
        Base64Url.encode (key.sign
          (Base64Url.encode (Json.canonicalText (Jws.header key)).toUTF8.toList ++ "." ++
            Base64Url.encode text.toUTF8.toList).toUTF8.toList) := rfl

/-- A call that reads the issuer's active key after the rotations `before` returns a credential
signed by the key it read: the credential names that key, the token's header carries its id and
the token's signature is that key's over the first two segments.  However the rotations `later`
go, successful or refused, and whether they land before the signature or after it, the issuer's
published keys still hold exactly that key under its id. -/
theorem issue_under_rotation {keys : List SigningKey} {v : Vault}
    (hv : KeyStore.ofKeys keys = .ok v.keys) (before later : List SigningKey) {c : String}
    {r : SubjectRecord} {now : Timestamp} {fresh : CredentialId} {cred : Credential}
    {event : LogEvent} (h : (v.rotateAll before).issue c r now fresh = .ok (cred, event)) :
    ∃ (key : SigningKey) (head body : String),
      (v.rotateAll before).keys.current? v.issuer = some key ∧ cred.kid = key.kid ∧
      cred.token = head ++ "." ++ body ++ "." ++
        Base64Url.encode (key.sign (head ++ "." ++ body).toUTF8.toList) ∧
      '.' ∉ head.toList ∧ '.' ∉ body.toList ∧
      Base64Url.decode head = some ("\x7b\"alg\":" ++ Json.quote key.algorithm.name ++
        ",\"kid\":" ++ Json.quote cred.kid.val ++ ",\"typ\":\"JWT\"\x7d").toUTF8.toList ∧
      (((v.rotateAll before).rotateAll later).jwks (some v.issuer)).find? cred.kid.val =
        some key.publicJwk := by
  obtain ⟨t, key, text, -, -, hkey, -, htoken, hkid⟩ := issue_eq_ok h
  -- the vault at the read is the first vault with the rotated store
  have hread : (v.rotateAll before).keys = (v.keys.rotateAll before).2 := by
    rw [rotateAll_eq]
  have hissuer : (v.rotateAll before).issuer = v.issuer := by
    rw [rotateAll_eq]
  rw [hissuer] at hkey
  -- the key read stays among the keys its issuer has had, whatever rotations follow
  have ht₁ := (KeyStore.tracks_ofKeys hv).rotateAll before
  have hlog₁ := ht₁.mem_log_of_current? (hread ▸ hkey)
  have ht₂ := ht₁.rotateAll later
  have hfind := ht₂.find?_jwks (List.mem_append_left _ hlog₁)
  have hkeyIssuer : key.issuer = v.issuer := (KeyStore.current?_eq_some hkey).2
  refine ⟨key, _, _, hkey, hkid, htoken.trans (encodeCompact_segments key text),
    Base64Url.dot_not_mem_encode _, Base64Url.dot_not_mem_encode _, ?_, ?_⟩
  · rw [Base64Url.decode_encode, Jws.canonicalText_header, hkid]
  · rw [rotateAll_eq, rotateAll_eq, hkid, ← hkeyIssuer]
    simpa [jwks, hread] using hfind

/-- A second key of the badge issuer. -/
def badgeKeyNext : SigningKey :=
  ⟨badgeIssuer, ⟨"badge-key-2", by decide⟩, .ed25519 (List.replicate 32 9),
    (KeyMaterial.ed25519 (List.replicate 32 9)).publicKey⟩

/-- Ana's badge, signed with the badge key, stays checkable by its key id after the badge key
is rotated out. -/
theorem issue_under_rotation_anaBadge :
    KeyStore.ofKeys [badgeKey] = .ok signingBadgeVault.keys ∧
      ∃ event, (signingBadgeVault.rotateAll []).issue "EmployeeBadge" anaRecord
          ⟨100, 0⟩ ⟨⟨7⟩⟩ = .ok (anaCredential, event) ∧
        (((signingBadgeVault.rotateAll []).rotateAll [badgeKeyNext]).jwks
          (some badgeIssuer)).find? anaCredential.kid.val = some badgeKey.publicJwk := by
  have hv : KeyStore.ofKeys [badgeKey] = .ok signingBadgeVault.keys := rfl
  obtain ⟨event, h⟩ := issue_eq_ok_of (v := signingBadgeVault) (c := "EmployeeBadge") rfl
    buildClaims_anaBadge rfl (canonical_payload badge_valid buildClaims_anaBadge)
  refine ⟨hv, event, h, ?_⟩
  obtain ⟨key, -, -, hkey, -, -, -, -, -, hfind⟩ :=
    issue_under_rotation hv [] [badgeKeyNext] h
  have hbadge : key = badgeKey := Option.some.inj hkey.symm
  rw [← hbadge]
  exact hfind

end Vault

end Attest
