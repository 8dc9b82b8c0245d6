import Attest.Key.Store
import Mathlib.Data.List.Nodup

/-!
# Rotation histories of a key store

A key store is made once from a checked key list and then changed only by rotations, each of
which succeeds or is refused.  `KeyStore.rotateAll` runs a history of rotations, one call after
another, and gives each call's answer (the retired key, or the refusal) and the store left at
the end; `KeyStore.activated` lists the keys the history made active.

The invariant is `KeyStore.Tracks issuers log s`, measured against `log`, the keys that have
been active in the store, in the order they became active:

* the issuers with an active key are `issuers`, with none twice;
* for each issuer, its retired keys in the order they retired, then its active key, are
  exactly its keys in `log`;
* no issuer has two keys in `log` with one key id, and every key of `log` belongs to one of
  the `issuers`.

`tracks_ofKeys` starts it, `Tracks.rotate` carries it over one successful rotation, and
`Tracks.rotateAll` over a whole history.  From it, the published keys of an issuer are its
keys of `log`, the most recently active first (`Tracks.jwks_some`), and a key that was ever
active is found by its id among them (`Tracks.find?_jwks`).

The main statement, **`rotation_history`**, collects what a history keeps: the issuers, the
store a refused call leaves, distinct key ids per issuer, the key a rotation retires, and the
published key sets.
-/

namespace Attest

/-- A key id is its text. -/
theorem KeyId.val_injective : Function.Injective KeyId.val := by
  intro a b h
  cases a
  cases b
  simp_all

/-- In a list whose keys under `f` are distinct, the members with key `b` are the first one. -/
theorem List.filter_eq_find?_toList {α β : Type} [DecidableEq β] {f : α → β} :
    ∀ {l : List α}, (l.map f).Nodup → ∀ b, l.filter (f · == b) = (l.find? (f · == b)).toList
  | [], _, _ => rfl
  | a :: l, hnd, b => by
    rw [List.map_cons, List.nodup_cons] at hnd
    by_cases hab : f a = b
    · -- no later member has the key of `a`
      have hrest : l.filter (f · == b) = [] := by
        rw [List.filter_eq_nil_iff]
        intro x hx hfx
        exact hnd.1 (hab ▸ (beq_iff_eq.mp hfx) ▸ List.mem_map_of_mem hx)
      simp [hab, hrest]
    · simp [hab, List.filter_eq_find?_toList hnd.2 b]

/-- In a list whose keys under `f` are distinct, searching by the key of a member finds it. -/
theorem List.find?_key_eq_some {α β : Type} [DecidableEq β] {f : α → β} :
    ∀ {l : List α}, (l.map f).Nodup → ∀ {a}, a ∈ l → l.find? (f · == f a) = some a
  | [], _, _, ha => absurd ha List.not_mem_nil
  | b :: l, hnd, a, ha => by
    rw [List.map_cons, List.nodup_cons] at hnd
    rcases List.mem_cons.mp ha with rfl | ha
    · simp
    · have hne : f b ≠ f a := fun h => hnd.1 (h ▸ List.mem_map_of_mem ha)
      simp [hne, List.find?_key_eq_some hnd.2 ha]

namespace KeyStore

/-! ## Histories -/

/-- A history of rotations, one call after another on one store: the answer of each call, the
retired key or the refusal, and the store the history leaves.  A refused call leaves the store
as it was. -/
def rotateAll (s : KeyStore) : List SigningKey → List (Except KeyError SigningKey) × KeyStore
  | [] => ([], s)
  | key :: rest =>
    match s.rotate key with
    | .ok (previous, s', _) =>
      let run := s'.rotateAll rest
      (.ok previous :: run.1, run.2)
    | .error e =>
      let run := s.rotateAll rest
      (.error e :: run.1, run.2)

/-- The keys a history of rotations makes active, in order. -/
def activated (s : KeyStore) : List SigningKey → List SigningKey
  | [] => []
  | key :: rest =>
    match s.rotate key with
    | .ok (_, s', _) => key :: s'.activated rest
    | .error _ => s.activated rest

section Steps

variable {s s' : KeyStore} {key previous : SigningKey} {event : LogEvent}

@[simp] theorem rotateAll_nil (s : KeyStore) : s.rotateAll [] = ([], s) := rfl

@[simp] theorem activated_nil (s : KeyStore) : s.activated [] = [] := rfl

theorem rotateAll_cons_ok (h : s.rotate key = .ok (previous, s', event)) (rest : List SigningKey) :
    s.rotateAll (key :: rest) = (.ok previous :: (s'.rotateAll rest).1, (s'.rotateAll rest).2) := by
  simp only [rotateAll, h]

theorem rotateAll_cons_error {e : KeyError} (h : s.rotate key = .error e) (rest : List SigningKey) :
    s.rotateAll (key :: rest) = (.error e :: (s.rotateAll rest).1, (s.rotateAll rest).2) := by
  simp only [rotateAll, h]

theorem activated_cons_ok (h : s.rotate key = .ok (previous, s', event)) (rest : List SigningKey) :
    s.activated (key :: rest) = key :: s'.activated rest := by
  simp only [activated, h]

theorem activated_cons_error {e : KeyError} (h : s.rotate key = .error e) (rest : List SigningKey) :
    s.activated (key :: rest) = s.activated rest := by
  simp only [activated, h]

/-- The active keys after `key` replaced the key of its issuer. -/
def replaceBy (key k : SigningKey) : SigningKey := if k.issuer == key.issuer then key else k

@[simp] theorem issuer_replaceBy (key k : SigningKey) : (replaceBy key k).issuer = k.issuer := by
  unfold replaceBy
  split <;> simp_all

/-- What a successful rotation did: it found the issuer's active key, the new key id was not
taken, the new key replaced the active one and the old one retired. -/
theorem rotate_eq_ok (h : s.rotate key = .ok (previous, s', event)) :
    s.current? key.issuer = some previous ∧ s.kidTaken key.issuer key.kid = false ∧
      s' = ⟨s.active.map (replaceBy key), s.retired ++ [previous]⟩ := by
  unfold rotate at h
  split at h
  · cases h
  · rename_i previous' hcur
    split at h
    · cases h
    · rename_i htaken
      simp only [Except.ok.injEq, Prod.mk.injEq] at h
      obtain ⟨rfl, rfl, -⟩ := h
      exact ⟨hcur, by simpa using htaken, rfl⟩

theorem current?_eq_some {i : IssuerId} {k : SigningKey} (h : s.current? i = some k) :
    k ∈ s.active ∧ k.issuer = i :=
  ⟨List.mem_of_find?_eq_some h, by simpa using List.find?_some h⟩

/-- Replacing keys by a key of one issuer changes no issuer's active key but that one. -/
theorem current?_replaceBy (retired : List SigningKey) (i : IssuerId) :
    (⟨s.active.map (replaceBy key), retired⟩ : KeyStore).current? i =
      (s.current? i).map (replaceBy key) := by
  simp only [current?, List.find?_map]
  congr 2
  funext k
  simp

/-- Replacing by a key of one issuer leaves the active key of every other issuer. -/
theorem current?_map_replaceBy {i : IssuerId} (hi : key.issuer ≠ i) :
    (s.current? i).map (replaceBy key) = s.current? i := by
  cases hc : s.current? i with
  | none => rfl
  | some k =>
    have hk := (current?_eq_some hc).2
    simp [replaceBy, hk, Ne.symm hi]

end Steps

/-! ## The invariant -/

/-- What a store reached by rotations keeps, measured against `log`, the keys that have been
active in it in the order they became active. -/
structure Tracks (issuers : List IssuerId) (log : List SigningKey) (s : KeyStore) : Prop where
  /-- The issuers with an active key, in the store's order. -/
  active_issuers : s.active.map (·.issuer) = issuers
  issuers_nodup : issuers.Nodup
  /-- For each issuer, its retired keys in the order they retired, then its active key. -/
  history : ∀ i, s.retired.filter (·.issuer == i) ++ (s.current? i).toList =
    log.filter (·.issuer == i)
  /-- No issuer has had two keys with one id. -/
  kids_nodup : ∀ i, ((log.filter (·.issuer == i)).map (·.kid)).Nodup
  log_issuers : ∀ k ∈ log, k.issuer ∈ issuers

/-- What a checked key list gives: the keys as they come, none for an issuer twice. -/
theorem addAll_eq_ok {acc keys active : List SigningKey} (hacc : (acc.map (·.issuer)).Nodup)
    (h : addAll acc keys = .ok active) :
    active = acc ++ keys ∧ (active.map (·.issuer)).Nodup := by
  induction keys generalizing acc with
  | nil =>
    cases h
    simpa using hacc
  | cons k rest ih =>
    unfold addAll at h
    split at h
    · cases h
    · rename_i hfresh
      have hnd : ((acc ++ [k]).map (·.issuer)).Nodup := by
        rw [List.map_append, List.nodup_append]
        refine ⟨hacc, List.nodup_singleton _, ?_⟩
        intro x hx y hy hxy
        obtain ⟨a, ha, rfl⟩ := List.mem_map.mp hx
        rw [List.map_singleton, List.mem_singleton] at hy
        exact hfresh (List.any_eq_true.mpr ⟨a, ha, by simp [hxy, hy]⟩)
      obtain ⟨rfl, hnd'⟩ := ih hnd h
      exact ⟨by simp, hnd'⟩

theorem ofKeys_eq_ok {keys : List SigningKey} {s : KeyStore} (h : ofKeys keys = .ok s) :
    s = ⟨keys, []⟩ ∧ keys ≠ [] ∧ (keys.map (·.issuer)).Nodup := by
  unfold ofKeys at h
  cases hadd : addAll [] keys with
  | error e =>
    rw [hadd] at h
    cases h
  | ok active =>
    obtain ⟨hactive, hnd⟩ := addAll_eq_ok (by simp) hadd
    rw [List.nil_append] at hactive
    subst hactive
    rw [hadd] at h
    by_cases hnil : active = []
    · subst hnil
      cases h
    · simp only [bind, Except.bind] at h
      rw [if_neg (by simpa using hnil)] at h
      cases h
      exact ⟨rfl, hnil, hnd⟩

/-- A store made from a checked key list tracks that list. -/
theorem tracks_ofKeys {keys : List SigningKey} {s : KeyStore} (h : ofKeys keys = .ok s) :
    Tracks (keys.map (·.issuer)) keys s := by
  obtain ⟨rfl, -, hnd⟩ := ofKeys_eq_ok h
  refine ⟨rfl, hnd, fun i => ?_, fun i => ?_, fun k hk => List.mem_map_of_mem hk⟩
  · simp [current?, List.filter_eq_find?_toList hnd i]
  · rw [List.filter_eq_find?_toList hnd i]
    cases keys.find? (·.issuer == i) <;> simp

variable {issuers : List IssuerId} {log : List SigningKey} {s s' : KeyStore}

/-- An issuer's active key is its only active key. -/
theorem Tracks.filter_active (ht : Tracks issuers log s) (i : IssuerId) :
    s.active.filter (·.issuer == i) = (s.current? i).toList :=
  List.filter_eq_find?_toList (ht.active_issuers ▸ ht.issuers_nodup) i

/-- A successful rotation brings a key id its issuer has not had. -/
theorem Tracks.kid_fresh {key previous : SigningKey} {event : LogEvent}
    (ht : Tracks issuers log s) (h : s.rotate key = .ok (previous, s', event)) :
    key.kid ∉ (log.filter (·.issuer == key.issuer)).map (·.kid) := by
  obtain ⟨hcur, htaken, -⟩ := rotate_eq_ok h
  -- the id is not taken by the issuer's retired keys or its active key
  have htaken' : previous.kid ≠ key.kid ∧
      ∀ k ∈ s.retired, k.issuer = key.issuer → k.kid ≠ key.kid := by
    simpa [kidTaken, hcur] using htaken
  rw [← ht.history, hcur]
  simp only [List.mem_map, List.mem_append, List.mem_filter, beq_iff_eq,
    Option.toList_some, List.mem_singleton, not_exists, not_and]
  rintro k (⟨hk, hki⟩ | rfl) hkid
  · exact htaken'.2 k hk hki hkid
  · exact htaken'.1 hkid

/-- One successful rotation: the new key joins the log. -/
theorem Tracks.rotate {key previous : SigningKey} {event : LogEvent} (ht : Tracks issuers log s)
    (h : s.rotate key = .ok (previous, s', event)) : Tracks issuers (log ++ [key]) s' := by
  have hfresh := ht.kid_fresh h
  obtain ⟨hcur, -, rfl⟩ := rotate_eq_ok h
  obtain ⟨hprev, hprevIssuer⟩ := current?_eq_some hcur
  have hkey : key.issuer ∈ issuers :=
    ht.active_issuers ▸ hprevIssuer ▸ List.mem_map_of_mem hprev
  refine ⟨?_, ht.issuers_nodup, fun i => ?_, fun i => ?_, ?_⟩
  · simpa [Function.comp_def] using ht.active_issuers
  · rw [current?_replaceBy, List.filter_append, List.filter_append, ← ht.history i]
    by_cases hi : key.issuer = i
    · -- the retired key and the new key are the issuer's last two keys
      subst hi
      simp [hcur, hprevIssuer, replaceBy]
    · simp [current?_map_replaceBy hi, hprevIssuer, hi]
  · rw [List.filter_append, List.map_append]
    by_cases hi : key.issuer = i
    · -- the new key's id comes last among its issuer's ids, and it is fresh
      subst hi
      have hone : ([key].filter (·.issuer == key.issuer)).map (·.kid) = [key.kid] := by simp
      rw [hone, ← List.concat_eq_append]
      exact List.Nodup.concat hfresh (ht.kids_nodup key.issuer)
    · simpa [hi] using ht.kids_nodup i
  · intro k hk
    rcases List.mem_append.mp hk with hk | hk
    · exact ht.log_issuers k hk
    · rw [List.mem_singleton.mp hk]
      exact hkey

/-- A whole history: the keys it makes active join the log. -/
theorem Tracks.rotateAll (ht : Tracks issuers log s) (history : List SigningKey) :
    Tracks issuers (log ++ s.activated history) (s.rotateAll history).2 := by
  induction history generalizing s log with
  | nil => simpa using ht
  | cons key rest ih =>
    cases h : s.rotate key with
    | ok result =>
      obtain ⟨previous, s', event⟩ := result
      rw [rotateAll_cons_ok h, activated_cons_ok h]
      simpa using ih (ht.rotate h)
    | error e =>
      rw [rotateAll_cons_error h, activated_cons_error h]
      exact ih ht

/-! ## What a history leaves -/

section Runs

/-- The retired keys after a history: those of the store, then the keys the successful calls
answered with, in order. -/
theorem rotateAll_retired (s : KeyStore) (history : List SigningKey) :
    (s.rotateAll history).2.retired =
      s.retired ++ (s.rotateAll history).1.filterMap Except.toOption := by
  induction history generalizing s with
  | nil => simp
  | cons key rest ih =>
    cases h : s.rotate key with
    | ok result =>
      obtain ⟨previous, s', event⟩ := result
      rw [rotateAll_cons_ok h, ih, (rotate_eq_ok h).2.2, List.append_assoc]
      rfl
    | error e =>
      rw [rotateAll_cons_error h, ih]
      rfl

/-- A history in two parts runs the second part on the store the first part leaves. -/
theorem rotateAll_append (s : KeyStore) (first second : List SigningKey) :
    s.rotateAll (first ++ second) =
      ((s.rotateAll first).1 ++ ((s.rotateAll first).2.rotateAll second).1,
        ((s.rotateAll first).2.rotateAll second).2) := by
  induction first generalizing s with
  | nil => simp
  | cons key rest ih =>
    cases h : s.rotate key with
    | ok result =>
      obtain ⟨previous, s', event⟩ := result
      rw [List.cons_append, rotateAll_cons_ok h, rotateAll_cons_ok h, ih]
      simp
    | error e =>
      rw [List.cons_append, rotateAll_cons_error h, rotateAll_cons_error h, ih]
      simp

end Runs

section Published

variable {issuers : List IssuerId} {log : List SigningKey} {s : KeyStore}

theorem wanted_some (i : IssuerId) : wanted (some i) = (·.issuer == i) := rfl

theorem wanted_none : wanted none = fun _ => true := rfl

/-- The issuers of a tracked store are the tracked issuers. -/
theorem Tracks.issuers_eq (ht : Tracks issuers log s) :
    s.issuers = (issuers.map (·.val)).mergeSort (· ≤ ·) := by
  unfold KeyStore.issuers
  rw [← ht.active_issuers, List.map_map]
  rfl

theorem Tracks.size_eq (ht : Tracks issuers log s) : s.size = issuers.length := by
  rw [size, ← ht.active_issuers, List.length_map]

/-- The published keys of an issuer are the keys it has had, the most recently active first. -/
theorem Tracks.jwks_some (ht : Tracks issuers log s) (i : IssuerId) :
    (s.jwks (some i)).keys = (log.filter (·.issuer == i)).reverse.map SigningKey.publicJwk := by
  have hactive : (s.active.filter (wanted (some i))).mergeSort
      (fun a b => a.issuer.val ≤ b.issuer.val) = (s.current? i).toList := by
    rw [wanted_some, ht.filter_active]
    cases s.current? i <;> simp
  simp only [jwks]
  rw [hactive, wanted_some, List.filter_reverse, ← ht.history i, List.reverse_append]
  cases s.current? i <;> rfl

/-- The key ids an issuer has had, the most recently active first, are distinct. -/
theorem Tracks.nodup_kid_reverse (ht : Tracks issuers log s) (i : IssuerId) :
    ((log.filter (·.issuer == i)).reverse.map (·.kid)).Nodup := by
  rw [List.map_reverse, List.nodup_reverse]
  exact ht.kids_nodup i

/-- No published key of an issuer is published twice. -/
theorem Tracks.jwks_some_nodup (ht : Tracks issuers log s) (i : IssuerId) :
    (s.jwks (some i)).keys.Nodup := by
  rw [ht.jwks_some]
  apply List.Nodup.of_map Jwk.kid
  -- a published key carries its key id
  have hkid : Jwk.kid ∘ SigningKey.publicJwk = (some ∘ KeyId.val) ∘ SigningKey.kid := rfl
  rw [List.map_map, hkid, ← List.map_map]
  exact (ht.nodup_kid_reverse i).map fun a b h => KeyId.val_injective (Option.some.inj h)

/-- A key that an issuer has had is found by its id among the issuer's published keys. -/
theorem Tracks.find?_jwks (ht : Tracks issuers log s) {key : SigningKey} (hkey : key ∈ log) :
    (s.jwks (some key.issuer)).find? key.kid.val = some key.publicJwk := by
  have hmatch : (fun j : Jwk => j.kid == some key.kid.val) ∘ SigningKey.publicJwk =
      fun k => k.kid == key.kid := by
    funext k
    simp [SigningKey.publicJwk, KeyId.val_injective.eq_iff]
  have hmem : key ∈ (log.filter (·.issuer == key.issuer)).reverse := by simpa using hkey
  rw [JwkSet.find?, ht.jwks_some, List.find?_map, hmatch,
    List.find?_key_eq_some (ht.nodup_kid_reverse key.issuer) hmem]
  rfl

/-- An issuer that never had a key publishes none. -/
theorem Tracks.jwks_some_eq_nil (ht : Tracks issuers log s) {i : IssuerId} (hi : i ∉ issuers) :
    (s.jwks (some i)).keys = [] := by
  rw [ht.jwks_some, List.map_eq_nil_iff, List.reverse_eq_nil_iff, List.filter_eq_nil_iff]
  intro k hk hki
  exact hi (beq_iff_eq.mp hki ▸ ht.log_issuers k hk)

/-- An issuer's active key and its retired keys have distinct ids. -/
theorem Tracks.nodup_kid_current_retired (ht : Tracks issuers log s) (i : IssuerId) :
    (((s.current? i).toList ++ s.retired.filter (·.issuer == i)).map (·.kid)).Nodup := by
  rw [List.map_append, List.nodup_append_comm, ← List.map_append, ht.history i]
  exact ht.kids_nodup i

end Published

/-- What every history of rotations keeps, on a store made from a checked key list:

* (a) the issuers with an active key stay those of the key list;
* (b) a refused call leaves the store as it was;
* (c) no issuer has two keys with one id among its active and retired keys;
* (d) a rotation answers with the key that was active for the new key's issuer;
* (e) the published keys of an issuer are the public keys of all the keys it has had, its
  initial key and the keys rotated in, the most recent first and each once, and none for an
  issuer without a key; all published keys are the active ones by issuer, then the keys the
  rotations retired, the most recent first. -/
theorem rotation_history {keys : List SigningKey} {s₀ s : KeyStore} {history : List SigningKey}
    {answers : List (Except KeyError SigningKey)} (h₀ : ofKeys keys = .ok s₀)
    (hrun : s₀.rotateAll history = (answers, s)) :
    (s.issuers = s₀.issuers ∧ s.size = keys.length ∧ 0 < s.size) ∧
    (∀ key e, s.rotate key = .error e →
      s₀.rotateAll (history ++ [key]) = (answers ++ [.error e], s)) ∧
    (∀ i, (((s.current? i).toList ++ s.retired.filter (·.issuer == i)).map (·.kid)).Nodup) ∧
    (∀ key previous s' event, s.rotate key = .ok (previous, s', event) →
      s.current? key.issuer = some previous) ∧
    (∀ i, (s.jwks (some i)).keys =
        ((keys ++ s₀.activated history).filter (·.issuer == i)).reverse.map
          SigningKey.publicJwk ∧
      (s.jwks (some i)).keys.Nodup) ∧
    (∀ i, (∀ k ∈ keys, k.issuer ≠ i) → (s.jwks (some i)).keys = []) ∧
    (s.jwks none).keys = (s.active.mergeSort (fun a b => a.issuer.val ≤ b.issuer.val) ++
      (answers.filterMap Except.toOption).reverse).map SigningKey.publicJwk := by
  have ht₀ := tracks_ofKeys h₀
  obtain ⟨hs₀, hne, -⟩ := ofKeys_eq_ok h₀
  have ht : Tracks (keys.map (·.issuer)) (keys ++ s₀.activated history) s := by
    simpa [hrun] using ht₀.rotateAll history
  have hsize : s.size = keys.length := by rw [ht.size_eq, List.length_map]
  refine ⟨⟨by rw [ht.issuers_eq, ht₀.issuers_eq], hsize, ?_⟩, fun key e he => ?_,
    ht.nodup_kid_current_retired, fun key previous s' event h => (rotate_eq_ok h).1,
    fun i => ⟨ht.jwks_some i, ht.jwks_some_nodup i⟩,
    fun i hi => ht.jwks_some_eq_nil (by simpa using hi), ?_⟩
  · rw [hsize]
    exact List.length_pos_iff.mpr hne
  · rw [rotateAll_append, hrun, rotateAll_cons_error he]
    rfl
  · -- every key a rotation retired was the answer of its call
    have hretired : s.retired = answers.filterMap Except.toOption := by
      have h := rotateAll_retired s₀ history
      rw [hrun] at h
      simpa [hs₀] using h
    simp only [jwks, wanted_none, List.filter_true, hretired]

/-- A key of an issuer, named by its id and its Ed25519 seed. -/
def exampleKey (issuer kid : String) (hi : tokenFault? issuer = none) (hk : tokenFault? kid = none)
    (seed : UInt8) : SigningKey :=
  ⟨⟨issuer, hi⟩, ⟨kid, hk⟩, .ed25519 (List.replicate 32 seed),
    (KeyMaterial.ed25519 (List.replicate 32 seed)).publicKey⟩

def hrKey : SigningKey := exampleKey "acme-hr" "hr-1" (by decide) (by decide) 1
def eduKey : SigningKey := exampleKey "acme-edu" "edu-1" (by decide) (by decide) 2
def hrKeyNext : SigningKey := exampleKey "acme-hr" "hr-2" (by decide) (by decide) 3
/-- A second key of `acme-hr` under the id of its first. -/
def hrKeyReused : SigningKey := exampleKey "acme-hr" "hr-1" (by decide) (by decide) 4
def globexKey : SigningKey := exampleKey "globex" "globex-1" (by decide) (by decide) 5

/-- Two issuers, one rotation that succeeds, one refused for its id and one for its issuer: the
first issuer then publishes its new key and its first one. -/
theorem rotation_history_acme :
    ofKeys [hrKey, eduKey] = .ok ⟨[hrKey, eduKey], []⟩ ∧
      (⟨[hrKey, eduKey], []⟩ : KeyStore).rotateAll [hrKeyNext, hrKeyReused, globexKey] =
        ([.ok hrKey, .error (.duplicateKeyId "acme-hr" "hr-1"), .error (.unknownIssuer "globex")],
          ⟨[hrKeyNext, eduKey], [hrKey]⟩) ∧
      ((⟨[hrKeyNext, eduKey], [hrKey]⟩ : KeyStore).jwks (some hrKey.issuer)).keys =
        [hrKeyNext.publicJwk, hrKey.publicJwk] := by
  have h₀ : ofKeys [hrKey, eduKey] = .ok ⟨[hrKey, eduKey], []⟩ := rfl
  have hrun : (⟨[hrKey, eduKey], []⟩ : KeyStore).rotateAll [hrKeyNext, hrKeyReused, globexKey] =
      ([.ok hrKey, .error (.duplicateKeyId "acme-hr" "hr-1"), .error (.unknownIssuer "globex")],
        ⟨[hrKeyNext, eduKey], [hrKey]⟩) := rfl
  refine ⟨h₀, hrun, ?_⟩
  rw [((rotation_history h₀ hrun).2.2.2.2.1 hrKey.issuer).1]
  rfl

end KeyStore

end Attest
