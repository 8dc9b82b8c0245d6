import Attest.Key.SigningKey
import Attest.Key.Error
import Attest.Log

/-!
# Key stores

A key store holds one active signing key per issuer, and the keys that
rotation replaced.  Retired keys stay published in the store's key set, so
tokens they signed can still be checked.

* `KeyStore.ofKeys` refuses an empty list and a second key for an issuer.
* `KeyStore.rotate` needs an active key for the issuer, and a key id that
  the issuer has never used, active or retired.
* `KeyStore.jwks` lists the active keys by issuer, then the retired keys,
  the most recently retired first.
-/

namespace Attest

/-- Active keys, one per issuer in the order they were added, and retired
keys, the earliest retired first. -/
structure KeyStore where
  active : List SigningKey
  retired : List SigningKey

namespace KeyStore

/-- The active key of an issuer. -/
def current? (s : KeyStore) (issuer : IssuerId) : Option SigningKey :=
  s.active.find? (·.issuer == issuer)

/-- Add keys one by one, refusing a second key for an issuer. -/
def addAll (acc : List SigningKey) : List SigningKey → Except KeyError (List SigningKey)
  | [] => .ok acc
  | k :: rest =>
    if acc.any (·.issuer == k.issuer) then .error (.duplicateIssuer k.issuer.val)
    else addAll (acc ++ [k]) rest

/-- A store of the given keys, none retired. -/
def ofKeys (keys : List SigningKey) : Except KeyError KeyStore := do
  let active ← addAll [] keys
  if active.isEmpty then throw .emptyKeySet
  .ok ⟨active, []⟩

/-- Whether an issuer has used a key id, in an active or a retired key. -/
def kidTaken (s : KeyStore) (issuer : IssuerId) (kid : KeyId) : Bool :=
  (s.current? issuer).any (·.kid == kid) ||
    s.retired.any fun k => k.issuer == issuer && k.kid == kid

/-- Make `key` the active key of its issuer.  Gives the retired key, the new
store and the event that reports the rotation. -/
def rotate (s : KeyStore) (key : SigningKey) :
    Except KeyError (SigningKey × KeyStore × LogEvent) :=
  match s.current? key.issuer with
  | none => .error (.unknownIssuer key.issuer.val)
  | some previous =>
    if s.kidTaken key.issuer key.kid then .error (.duplicateKeyId key.issuer.val key.kid.val)
    else
      let active := s.active.map fun k => if k.issuer == key.issuer then key else k
      let event : LogEvent := ⟨.info, .keyStore, "rotated signing key",
        [("issuer", .shown key.issuer.val), ("retired_kid", .shown previous.kid.val),
         ("active_kid", .shown key.kid.val)]⟩
      .ok (previous, ⟨active, s.retired ++ [previous]⟩, event)

/-- Whether a key belongs to the wanted issuer, every issuer when `none`. -/
def wanted (issuer : Option IssuerId) (k : SigningKey) : Bool :=
  match issuer with
  | some i => k.issuer == i
  | none => true

/-- The published keys: active ones by issuer, then retired ones, the most
recently retired first; only those of `issuer` when one is given. -/
def jwks (s : KeyStore) (issuer : Option IssuerId) : JwkSet :=
  let active := (s.active.filter (wanted issuer)).mergeSort fun a b => a.issuer.val ≤ b.issuer.val
  ⟨(active ++ s.retired.reverse.filter (wanted issuer)).map SigningKey.publicJwk⟩

/-- The issuers with an active key, sorted. -/
def issuers (s : KeyStore) : List String :=
  (s.active.map (·.issuer.val)).mergeSort (· ≤ ·)

/-- The number of issuers with an active key. -/
def size (s : KeyStore) : Nat := s.active.length

/-- The debugging text: the numbers of active and retired keys. -/
def debugText (s : KeyStore) : String :=
  "KeyStore \x7b active: " ++ toString s.active.length ++ ", retired: " ++
    toString s.retired.length ++ " \x7d"

end KeyStore

end Attest
