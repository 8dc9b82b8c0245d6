import Attest.Proofs.ClaimConstruction

/-!
# The payload of a claim set

The payload is one object: the registered claims `iss`, `sub`, `iat`, `nbf`, `exp` (with a
validity window), `jti` and `vct`, and under the first name of the namespace the custom claims,
nested one object per further name.  A template refuses a namespace whose first name is a
registered claim, so no custom claim can take the place of a registered one.

`Json.atPath?` follows a path of names through nested objects.  The main theorem,
`payload_layout`, says that the payload of every built claim set has exactly the seven or
eight names, each with its own value, and that the namespace leads through objects of one
member each to the custom claims.
-/

namespace Attest

namespace Json

/-- The value at a path of names through nested objects. -/
def atPath? (j : Json) : List String → Option Json
  | [] => some j
  | name :: rest => (j.get? name).bind (·.atPath? rest)

@[simp] theorem atPath?_nil (j : Json) : j.atPath? [] = some j := rfl

@[simp] theorem atPath?_cons (j : Json) (name : String) (rest : List String) :
    j.atPath? (name :: rest) = (j.get? name).bind (·.atPath? rest) := rfl

namespace Members

/-- Merging a list of distinct names keeps its names, in name order. -/
theorem names_ofList_perm {ms : Members} (hnd : ms.names.Nodup) : (ofList ms).names.Perm ms.names :=
  (List.perm_ext_iff_of_nodup (sorted_ofList ms).nodup hnd).mpr fun k => mem_names_ofList ms k

end Members

end Json

namespace ClaimSet

/-- The namespace leads through the nested objects to the custom claims. -/
theorem atPath?_nest (custom : Json) (ns : List String) :
    (nest custom ns).atPath? ns = some custom := by
  induction ns with
  | nil => rfl
  | cons n rest ih => simp [nest, Json.get?, ih]

/-- Every proper prefix of the namespace leads to an object with the next name alone. -/
theorem atPath?_nest_prefix (custom : Json) (pre : List String) (name : String)
    (post : List String) :
    (nest custom (pre ++ name :: post)).atPath? pre = some (.obj [(name, nest custom post)]) := by
  induction pre with
  | nil => rfl
  | cons n rest ih => simp [nest, Json.get?, ih]

/-- The registered claims of a claim set, in the order the payload lists them. -/
def registered (cs : ClaimSet) : Json.Members :=
  [("iss", .str cs.issuer.val), ("sub", .str cs.subject),
    ("iat", Json.ofInt cs.issuedAt.seconds), ("nbf", Json.ofInt cs.issuedAt.seconds)] ++
  (cs.expiresAt.map fun e => ("exp", Json.ofInt e.seconds)).toList ++
  [("jti", .str cs.credentialId.urn), ("vct", .str cs.credentialType)]

theorem names_registered (cs : ClaimSet) :
    cs.registered.names =
      ["iss", "sub", "iat", "nbf"] ++ (cs.expiresAt.map fun _ => "exp").toList ++
        ["jti", "vct"] := by
  cases hexp : cs.expiresAt <;> simp [registered, Json.Members.names, hexp]

theorem names_registered_nodup (cs : ClaimSet) : cs.registered.names.Nodup := by
  rw [names_registered]
  cases cs.expiresAt <;> simp

/-- The registered part of a payload uses registered claim names only. -/
theorem names_registered_subset (cs : ClaimSet) : cs.registered.names ⊆ registeredClaims := by
  rw [names_registered]
  cases cs.expiresAt <;> simp [registeredClaims]

/-- The members of a payload, for a namespace that starts with `first`. -/
theorem payload_eq_obj {cs : ClaimSet} {first : String} {rest : List String}
    (hpath : cs.claimPath = first :: rest) :
    cs.payload =
      .obj (Json.Members.ofList (cs.registered ++ [(first, nest (.obj cs.custom) rest)])) := by
  unfold payload Json.object registered
  rw [hpath]
  cases cs.expiresAt <;> rfl

/-- The names of a payload are distinct when the namespace's first name is no registered
claim. -/
theorem names_payloadMembers_nodup (cs : ClaimSet) {first : String}
    (hfirst : first ∉ registeredClaims) (nested : Json) :
    (cs.registered ++ [(first, nested)]).names.Nodup := by
  rw [Json.Members.names_append, List.nodup_append]
  refine ⟨cs.names_registered_nodup, by simp, ?_⟩
  rintro a ha b hb rfl
  simp only [Json.Members.names_cons, Json.Members.names_nil, List.mem_singleton] at hb
  exact hfirst (hb ▸ cs.names_registered_subset ha)

/-- The payload's members looked up by name: a registered claim, or the namespace's first name.
The two never meet when that name is no registered claim. -/
theorem get?_payloadMembers (cs : ClaimSet) {first : String} (hfirst : first ∉ registeredClaims)
    (nested : Json) (k : String) :
    (Json.Members.ofList (cs.registered ++ [(first, nested)])).get? k =
      (Json.Members.get? cs.registered k).or (if first = k then some nested else none) := by
  rw [Json.Members.get?_ofList_of_nodup (cs.names_payloadMembers_nodup hfirst nested),
    Json.Members.get?_append]
  simp

/-- The registered claims of a payload, each under its own name. -/
theorem get?_registered (cs : ClaimSet) :
    Json.Members.get? cs.registered "iss" = some (.str cs.issuer.val) ∧
      Json.Members.get? cs.registered "sub" = some (.str cs.subject) ∧
      Json.Members.get? cs.registered "iat" = some (Json.ofInt cs.issuedAt.seconds) ∧
      Json.Members.get? cs.registered "nbf" = some (Json.ofInt cs.issuedAt.seconds) ∧
      Json.Members.get? cs.registered "exp" = cs.expiresAt.map (fun e => Json.ofInt e.seconds) ∧
      Json.Members.get? cs.registered "jti" = some (.str cs.credentialId.urn) ∧
      Json.Members.get? cs.registered "vct" = some (.str cs.credentialType) := by
  cases hexp : cs.expiresAt <;> simp [registered, hexp]

end ClaimSet

/-- The payload of a claim set built under a valid template is an object with exactly the
registered names `iss`, `sub`, `iat`, `nbf`, `jti`, `vct`, `exp` (with an expiry) and the
namespace's first name, all distinct, each with its own value; and the namespace leads through
objects of one member each to the custom claims. -/
theorem payload_layout {t : Template} {r : SubjectRecord} {issuer : IssuerId} {now : Timestamp}
    {fresh : CredentialId} {cs : ClaimSet} (ht : t.Valid)
    (h : buildClaims t r issuer now fresh = .ok cs) :
    ∃ (ms : Json.Members) (first : String) (rest : List String),
      cs.payload = .obj ms ∧ cs.claimPath = first :: rest ∧
      ms.names.Perm (["iss", "sub", "iat", "nbf"] ++ (cs.expiresAt.map fun _ => "exp").toList ++
        ["jti", "vct", first]) ∧ ms.names.Nodup ∧
      ms.get? "iss" = some (.str cs.issuer.val) ∧ ms.get? "sub" = some (.str cs.subject) ∧
      ms.get? "iat" = some (Json.ofInt cs.issuedAt.seconds) ∧
      ms.get? "nbf" = some (Json.ofInt cs.issuedAt.seconds) ∧
      ms.get? "exp" = cs.expiresAt.map (fun e => Json.ofInt e.seconds) ∧
      ms.get? "jti" = some (.str cs.credentialId.urn) ∧
      ms.get? "vct" = some (.str cs.credentialType) ∧
      cs.payload.atPath? cs.claimPath = some (.obj cs.custom) ∧
      ∀ pre name post, cs.claimPath = pre ++ name :: post → pre ≠ [] →
        ∃ w, cs.payload.atPath? pre = some (.obj [(name, w)]) := by
  obtain ⟨first, rest, hpath, hfirst⟩ := ht.pathHead
  have hcp : cs.claimPath = first :: rest := by
    obtain ⟨_, _, _, _, _, _, _, _, _, _, _, hcs⟩ := buildClaims_eq_ok h
    rw [hcs]
    exact hpath
  have hget := cs.get?_payloadMembers hfirst (ClaimSet.nest (.obj cs.custom) rest)
  obtain ⟨hiss, hsub, hiat, hnbf, hexp, hjti, hvct⟩ := cs.get?_registered
  have hpay := ClaimSet.payload_eq_obj hcp
  -- the namespace's first name leads to the nested custom claims
  have hroot : cs.payload.get? first = some (ClaimSet.nest (.obj cs.custom) rest) := by
    rw [hpay]
    simp only [Json.get?]
    rw [hget, Json.Members.get?_eq_none_of_not_mem fun hm => hfirst (cs.names_registered_subset hm),
      if_pos rfl]
    rfl
  refine ⟨_, first, rest, hpay, hcp, ?_, (Json.Members.sorted_ofList _).nodup,
    ?_, ?_, ?_, ?_, ?_, ?_, ?_, ?_, ?_⟩
  · refine (Json.Members.names_ofList_perm (cs.names_payloadMembers_nodup hfirst _)).trans ?_
    rw [Json.Members.names_append, ClaimSet.names_registered]
    simp
  · rw [hget, hiss]; rfl
  · rw [hget, hsub]; rfl
  · rw [hget, hiat]; rfl
  · rw [hget, hnbf]; rfl
  · -- the first name is no registered claim, so it is not `exp`
    have hne : first ≠ "exp" := fun he => hfirst (by simp [registeredClaims, he])
    rw [hget, hexp, if_neg hne, Option.or_none]
  · rw [hget, hjti]; rfl
  · rw [hget, hvct]; rfl
  · rw [hcp, Json.atPath?_cons, hroot, Option.bind_some, ClaimSet.atPath?_nest]
  · intro pre name post hsplit hpre
    obtain ⟨a, pre', rfl⟩ := List.exists_cons_of_ne_nil hpre
    rw [hcp, List.cons_append, List.cons.injEq] at hsplit
    obtain ⟨rfl, hrest⟩ := hsplit
    refine ⟨ClaimSet.nest (.obj cs.custom) post, ?_⟩
    rw [Json.atPath?_cons, hroot, Option.bind_some, hrest, ClaimSet.atPath?_nest_prefix]

theorem payload_layout_anaBadge :
    badge.Valid ∧
      buildClaims badge anaRecord badgeIssuer ⟨100, 0⟩ ⟨⟨7⟩⟩ = .ok anaBadge ∧
      anaBadge.payload.atPath? anaBadge.claimPath = some (.obj anaBadge.custom) := by
  obtain ⟨_, _, _, _, _, _, _, _, _, _, _, _, _, _, hcustom, -⟩ :=
    payload_layout badge_valid buildClaims_anaBadge
  exact ⟨badge_valid, buildClaims_anaBadge, hcustom⟩

/-- Ana's badge as a payload: the namespace's one name holds her claims. -/
example : anaBadge.payload = .obj
    [("employee", .obj [("name", .str "Ana"), ("team", .str "core")]),
     ("exp", .num (.int 3700)), ("iat", .num (.int 100)), ("iss", .str "issuer"),
     ("jti", .str (CredentialId.urn ⟨⟨7⟩⟩)), ("nbf", .num (.int 100)), ("sub", .str "Ana"),
     ("vct", .str "EmployeeBadge")] := by
  rfl

end Attest
