import Attest.Proofs.TemplateChecks

/-!
# Building a claim set

`buildClaims` makes its checks in a fixed order and stops at the first that fails.  Each of its
three loops is one `List.findSome?` over a fault: the loop fails with the first fault in its
list, and otherwise gives the claim of every member.  A valid template's lists and a record's
fields are sorted by name, so the first fault is the fault of the least name
(`findSome?_eq_some_iff_least`).

`Template.claimOf` says which custom claim a template gives a field of a record, and
`buildClaims_complete` says what a built claim set holds: exactly the declared fields and the
passed-through ones, each with its `claimOf` value; the subject of the subject field; the
record's own credential id when it names one; and the registered parts from the issuer, the
time and the template.
-/

namespace Attest

/-! ## The first fault of a sorted list -/

/-- In a list sorted by a key, the first member with a fault is the one of least key. -/
theorem findSome?_eq_some_iff_least {α ε : Type} {key : α → String} {xs : List α}
    (hs : (xs.map key).Pairwise (· < ·)) {fault : α → Option ε} {e : ε} :
    xs.findSome? fault = some e ↔
      ∃ x ∈ xs, fault x = some e ∧ ∀ y ∈ xs, key y < key x → fault y = none := by
  induction xs with
  | nil => simp
  | cons x rest ih =>
      simp only [List.map_cons, List.pairwise_cons, List.mem_map] at hs
      have hlt : ∀ y ∈ rest, key x < key y := fun y hy => hs.1 _ ⟨y, hy, rfl⟩
      rw [List.findSome?_cons]
      cases hx : fault x with
      | some e' =>
          simp only [Option.some.injEq]
          constructor
          · rintro rfl
            refine ⟨x, List.mem_cons_self, hx, fun y hy hyx => ?_⟩
            rcases List.mem_cons.mp hy with rfl | hy
            · exact absurd hyx (lt_irrefl _)
            · exact absurd (hlt y hy) (lt_asymm hyx)
          · rintro ⟨z, hz, hze, hless⟩
            rcases List.mem_cons.mp hz with rfl | hz
            · rw [hx] at hze
              exact Option.some.inj hze
            · rw [hless x List.mem_cons_self (hlt z hz)] at hx
              cases hx
      | none =>
          rw [ih hs.2]
          constructor
          · rintro ⟨z, hz, hze, hless⟩
            refine ⟨z, List.mem_cons_of_mem _ hz, hze, fun y hy hyz => ?_⟩
            rcases List.mem_cons.mp hy with rfl | hy
            · exact hx
            · exact hless y hy hyz
          · rintro ⟨z, hz, hze, hless⟩
            rcases List.mem_cons.mp hz with rfl | hz
            · rw [hx] at hze
              cases hze
            · exact ⟨z, hz, hze, fun y hy hyz => hless y (List.mem_cons_of_mem _ hy) hyz⟩

/-! ## Faults of the record's fields -/

namespace SubjectRecord

/-- The fault of a record's own credential id: a `jti` that is not a string read as one. -/
def idFault? (r : SubjectRecord) : Option IssuanceError :=
  match r.get? credentialIdField with
  | none => none
  | some (.str s) =>
    match CredentialId.parse s with
    | .ok _ => none
    | .error _ => some (.typeMismatch credentialIdField "urn:uuid or UUID" (Json.str s).compact)
  | some v => some (.typeMismatch credentialIdField "urn:uuid or UUID" v.compact)

end SubjectRecord

namespace Template

/-- What is wrong with a required field of a record: no value (or `null`), or a value its
type refuses. -/
def requiredFault? (t : Template) (r : SubjectRecord) (field : String) (ty : FieldType) :
    Option IssuanceError :=
  match r.get? field with
  | none => some (.missingRequiredField field t.typeName)
  | some v => if (ty.coerce? v).isSome then none else some (.typeMismatch field ty.name v.compact)

/-- The claim of an optional field: its value coerced, or the default when it has none. -/
def optionalClaim? (r : SubjectRecord) (field : String) (o : OptionalField) : Option Json :=
  match r.get? field with
  | some v => o.fieldType.coerce? v
  | none => some o.default

/-- What is wrong with an optional field of a record: a value its type refuses. -/
def optionalFault? (r : SubjectRecord) (field : String) (o : OptionalField) :
    Option IssuanceError :=
  match r.get? field with
  | none => none
  | some v =>
    if (o.fieldType.coerce? v).isSome then none
    else some (.typeMismatch field o.fieldType.name v.compact)

/-- Whether a record member is an undeclared field: a non-null value under a name that the
template does not declare and that is not `jti`. -/
def undeclared (t : Template) (k : String) (v : Json) : Bool :=
  !t.declares k && k != credentialIdField && !v.isNull

/-- What is wrong with an undeclared field: any, unless undeclared fields pass through, and
then a double anywhere in it. -/
def undeclaredFault? (t : Template) (k : String) (v : Json) : Option IssuanceError :=
  if t.undeclared k v then
    if !t.allowUnknownFields then some (.unknownField k t.typeName)
    else if (Json.firstFloat? v).isSome then some (.typeMismatch k "integer-only JSON" v.compact)
    else none
  else none

/-- The custom claim a template gives a field of a record: a required field's value coerced
to its type, an optional field's value coerced or else its default, and the value of an
undeclared field when undeclared fields pass through. -/
def claimOf (t : Template) (r : SubjectRecord) (k : String) : Option Json :=
  match t.required.lookup k with
  | some ty => (r.get? k).bind ty.coerce?
  | none =>
    match t.optional.lookup k with
    | some o => optionalClaim? r k o
    | none => if t.allowUnknownFields && k != credentialIdField then r.get? k else none

end Template

/-! ## The loops as searches for the first fault -/

theorem recordCredentialId_eq (r : SubjectRecord) :
    recordCredentialId r =
      match r.idFault? with
      | some e => .error e
      | none =>
        .ok (match r.get? credentialIdField with
          | some (.str s) => (CredentialId.parse s).toOption
          | _ => none) := by
  unfold recordCredentialId SubjectRecord.idFault?
  cases hv : r.get? credentialIdField with
  | none => rfl
  | some v =>
      cases v with
      | str s => cases hp : CredentialId.parse s <;> simp [hp, Except.toOption]
      | _ => rfl

theorem requiredClaims_eq (t : Template) (r : SubjectRecord) (xs : List (String × FieldType)) :
    requiredClaims t r xs =
      match xs.findSome? (fun p => t.requiredFault? r p.1 p.2) with
      | some e => .error e
      | none => .ok (xs.filterMap fun p => ((r.get? p.1).bind p.2.coerce?).map (p.1, ·)) := by
  induction xs with
  | nil => rfl
  | cons p rest ih =>
      obtain ⟨field, ty⟩ := p
      rw [List.findSome?_cons]
      cases hget : r.get? field with
      | none => simp [requiredClaims, Template.requiredFault?, hget, bind, Except.bind]
      | some v =>
          cases hco : ty.coerce? v with
          | none =>
              simp [requiredClaims, Template.requiredFault?, hget, hco, FieldType.coerce, bind,
                Except.bind]
          | some c =>
              have hf : t.requiredFault? r field ty = none := by
                simp [Template.requiredFault?, hget, hco]
              simp only [requiredClaims, hget, hco, FieldType.coerce, hf, bind, Except.bind, ih]
              cases rest.findSome? (fun p => t.requiredFault? r p.1 p.2) <;> simp [hget, hco]

theorem optionalClaims_eq (r : SubjectRecord) (xs : List (String × OptionalField)) :
    optionalClaims r xs =
      match xs.findSome? (fun p => Template.optionalFault? r p.1 p.2) with
      | some e => .error e
      | none => .ok (xs.filterMap fun p => (Template.optionalClaim? r p.1 p.2).map (p.1, ·)) := by
  induction xs with
  | nil => rfl
  | cons p rest ih =>
      obtain ⟨field, o⟩ := p
      rw [List.findSome?_cons]
      cases hget : r.get? field with
      | none =>
          have hf : Template.optionalFault? r field o = none := by
            simp [Template.optionalFault?, hget]
          simp only [optionalClaims, hget, hf, bind, Except.bind, ih]
          cases rest.findSome? (fun p => Template.optionalFault? r p.1 p.2) <;>
            simp [Template.optionalClaim?, hget]
      | some v =>
          cases hco : o.fieldType.coerce? v with
          | none =>
              simp [optionalClaims, Template.optionalFault?, hget, hco, FieldType.coerce, bind,
                Except.bind]
          | some c =>
              have hf : Template.optionalFault? r field o = none := by
                simp [Template.optionalFault?, hget, hco]
              simp only [optionalClaims, hget, hco, FieldType.coerce, hf, bind, Except.bind, ih]
              cases rest.findSome? (fun p => Template.optionalFault? r p.1 p.2) <;>
                simp [Template.optionalClaim?, hget, hco]

theorem undeclaredClaims_eq (t : Template) (ms : Json.Members) :
    undeclaredClaims t ms =
      match ms.findSome? (fun m => t.undeclaredFault? m.1 m.2) with
      | some e => .error e
      | none => .ok (ms.filter fun m => t.undeclared m.1 m.2) := by
  induction ms with
  | nil => rfl
  | cons m rest ih =>
      obtain ⟨k, v⟩ := m
      rw [List.findSome?_cons]
      -- the loop skips exactly the members that are not undeclared fields
      have hskip : (t.declares k || k == credentialIdField || v.isNull) = !t.undeclared k v := by
        simp [Template.undeclared, bne, Bool.or_assoc]
      cases hund : t.undeclared k v with
      | false =>
          have hf : t.undeclaredFault? k v = none := by simp [Template.undeclaredFault?, hund]
          simp only [undeclaredClaims, hskip, hund, hf, Bool.not_false, if_true, ih]
          cases rest.findSome? (fun m => t.undeclaredFault? m.1 m.2) <;> simp [hund]
      | true =>
          cases hallow : t.allowUnknownFields with
          | false =>
              simp [undeclaredClaims, Template.undeclaredFault?, hskip, hund, hallow]
          | true =>
              cases hfl : Json.firstFloat? v with
              | some x =>
                  simp [undeclaredClaims, Template.undeclaredFault?, hskip, hund, hallow, hfl]
              | none =>
                  have hf : t.undeclaredFault? k v = none := by
                    simp [Template.undeclaredFault?, hund, hallow, hfl]
                  simp only [undeclaredClaims, hskip, hund, hallow, hfl, hf, Bool.not_true,
                    Bool.false_eq_true, if_false, bind, Except.bind, ih]
                  cases rest.findSome? (fun m => t.undeclaredFault? m.1 m.2) <;> simp [hund]

/-! ## What the loops give when they pass -/

namespace Template

variable {t : Template} {r : SubjectRecord}

theorem mem_of_lookup_eq_some {α : Type} {xs : List (String × α)} {k : String} {a : α}
    (h : xs.lookup k = some a) : (k, a) ∈ xs := by
  obtain ⟨l₁, l₂, rfl, _⟩ := List.lookup_eq_some_iff.mp h
  simp

theorem requiredFault?_eq_none_iff {field : String} {ty : FieldType} :
    t.requiredFault? r field ty = none ↔ ((r.get? field).bind ty.coerce?).isSome := by
  unfold requiredFault?
  cases r.get? field with
  | none => simp
  | some v => by_cases hc : (ty.coerce? v).isSome <;> simp [hc]

theorem optionalFault?_eq_none_iff {field : String} {o : OptionalField} :
    optionalFault? r field o = none ↔ (optionalClaim? r field o).isSome := by
  unfold optionalFault? optionalClaim?
  cases r.get? field with
  | none => simp
  | some v => by_cases hc : (o.fieldType.coerce? v).isSome <;> simp [hc]

theorem undeclaredFault?_eq_none_iff {k : String} {v : Json} :
    t.undeclaredFault? k v = none ↔
      (t.undeclared k v = true → t.allowUnknownFields = true ∧ Json.firstFloat? v = none) := by
  unfold undeclaredFault?
  cases t.undeclared k v <;> cases t.allowUnknownFields <;> cases Json.firstFloat? v <;> simp

theorem requiredClaims_eq_ok {xs : List (String × FieldType)} {req : Json.Members}
    (h : requiredClaims t r xs = .ok req) :
    (∀ p ∈ xs, ((r.get? p.1).bind p.2.coerce?).isSome) ∧
      req = xs.filterMap fun p => ((r.get? p.1).bind p.2.coerce?).map (p.1, ·) := by
  rw [requiredClaims_eq] at h
  split at h
  · cases h
  · rename_i hnone
    cases h
    exact ⟨fun p hp => requiredFault?_eq_none_iff.mp (List.findSome?_eq_none_iff.mp hnone p hp),
      rfl⟩

theorem optionalClaims_eq_ok {xs : List (String × OptionalField)} {opt : Json.Members}
    (h : optionalClaims r xs = .ok opt) :
    (∀ p ∈ xs, (optionalClaim? r p.1 p.2).isSome) ∧
      opt = xs.filterMap fun p => (optionalClaim? r p.1 p.2).map (p.1, ·) := by
  rw [optionalClaims_eq] at h
  split at h
  · cases h
  · rename_i hnone
    cases h
    exact ⟨fun p hp => optionalFault?_eq_none_iff.mp (List.findSome?_eq_none_iff.mp hnone p hp),
      rfl⟩

theorem undeclaredClaims_eq_ok {ms und : Json.Members} (h : undeclaredClaims t ms = .ok und) :
    (∀ m ∈ ms, t.undeclared m.1 m.2 = true →
        t.allowUnknownFields = true ∧ Json.firstFloat? m.2 = none) ∧
      und = ms.filter fun m => t.undeclared m.1 m.2 := by
  rw [undeclaredClaims_eq] at h
  split at h
  · cases h
  · rename_i hnone
    cases h
    exact ⟨fun m hm => undeclaredFault?_eq_none_iff.mp (List.findSome?_eq_none_iff.mp hnone m hm),
      rfl⟩

end Template

/-! ## Looking up the custom claims -/

namespace Json.Members

theorem names_filterMap_pair {α : Type} {xs : List (String × α)} (g : String → α → Option Json)
    (hall : ∀ p ∈ xs, (g p.1 p.2).isSome) :
    names (xs.filterMap fun p => (g p.1 p.2).map (p.1, ·)) = xs.map (·.1) := by
  induction xs with
  | nil => rfl
  | cons p rest ih =>
      obtain ⟨j, hj⟩ := Option.isSome_iff_exists.mp (hall p List.mem_cons_self)
      simp [hj, ih fun q hq => hall q (List.mem_cons_of_mem _ hq)]

theorem get?_filterMap_pair {α : Type} {xs : List (String × α)} (g : String → α → Option Json)
    (hnd : (xs.map (·.1)).Nodup) (k : String) :
    Members.get? (xs.filterMap fun p => (g p.1 p.2).map (p.1, ·)) k = (xs.lookup k).bind (g k) := by
  induction xs with
  | nil => rfl
  | cons p rest ih =>
      obtain ⟨f, a⟩ := p
      rw [List.map_cons, List.nodup_cons] at hnd
      by_cases hfk : f = k
      · subst hfk
        -- the rest does not name the head's field
        have hrest : rest.lookup f = none := by
          rw [← Option.not_isSome_iff_eq_none, Template.lookup_isSome_iff]
          exact hnd.1
        cases hg : g f a <;> simp [hg, ih hnd.2, hrest]
      · have hkf : (k == f) = false := beq_false_of_ne (Ne.symm hfk)
        cases hg : g f a <;> simp [hg, ih hnd.2, List.lookup_cons, hkf, hfk]

theorem get?_filter {ms : Members} (hnd : ms.names.Nodup) (p : String → Json → Bool)
    (k : String) :
    Members.get? (ms.filter fun m => p m.1 m.2) k = (ms.get? k).filter (p k) := by
  induction ms with
  | nil => rfl
  | cons m rest ih =>
      obtain ⟨f, v⟩ := m
      rw [names_cons, List.nodup_cons] at hnd
      by_cases hfk : f = k
      · subst hfk
        have hrest : Members.get? rest f = none := get?_eq_none_of_not_mem hnd.1
        cases hp : p f v <;> simp [hp, ih hnd.2, hrest, Option.filter_some]
      · cases hp : p f v <;> simp [hp, ih hnd.2, hfk]

theorem get?_filterMap_names (ns : List String) (f : String → Option Json) (k : String) :
    Members.get? (ns.filterMap fun n => (f n).map (n, ·)) k = if k ∈ ns then f k else none := by
  induction ns with
  | nil => simp
  | cons n rest ih =>
      by_cases hnk : n = k
      · subst hnk
        cases hf : f n <;> simp [hf, ih]
      · cases hf : f n <;> simp [hf, ih, hnk, Ne.symm hnk]

theorem get?_ofList_of_nodup {ms : Members} (hnd : ms.names.Nodup) (k : String) :
    (ofList ms).get? k = ms.get? k := by
  rw [get?_ofList]
  exact get?_eq_of_perm (List.reverse_perm ms)
    (((List.reverse_perm ms).map Prod.fst).nodup_iff.mpr hnd) k

end Json.Members

namespace Template

variable {t : Template} {r : SubjectRecord} {req opt und : Json.Members}

theorem get?_undeclared (hund : undeclaredClaims t r.fields = .ok und)
    (k : String) :
    Json.Members.get? und k =
      if t.allowUnknownFields && !t.declares k && k != credentialIdField then r.get? k
      else none := by
  obtain ⟨hok, rfl⟩ := undeclaredClaims_eq_ok hund
  rw [Json.Members.get?_filter r.sorted.nodup]
  cases hv : Json.Members.get? r.fields k with
  | none => simp [SubjectRecord.get?, hv, Json.present?]
  | some v =>
      cases hallow : t.allowUnknownFields with
      | false =>
          -- without pass-through, a record passes only when it has no undeclared field
          have hskip : t.undeclared k v = false := by
            cases hu : t.undeclared k v
            · rfl
            · simpa [hallow] using (hok (k, v) (r.sorted.get?_eq_some_iff_mem.mp hv) hu).1
          simp [hskip]
      | true =>
          cases v <;>
            simp [SubjectRecord.get?, hv, Json.present?, Option.filter_some, undeclared,
              Json.isNull]

/-- The custom claims of the three loops, before the merge, looked up by name. -/
theorem get?_loops (ht : t.Valid)
    (hreq : requiredClaims t r t.required = .ok req) (hopt : optionalClaims r t.optional = .ok opt)
    (hund : undeclaredClaims t r.fields = .ok und) (k : String) :
    Json.Members.get? (req ++ opt ++ und) k = t.claimOf r k := by
  obtain ⟨-, rfl⟩ := requiredClaims_eq_ok hreq
  obtain ⟨-, rfl⟩ := optionalClaims_eq_ok hopt
  rw [Json.Members.get?_append, Json.Members.get?_append,
    Json.Members.get?_filterMap_pair (fun f ty => (r.get? f).bind ty.coerce?)
      ht.requiredNodup,
    Json.Members.get?_filterMap_pair (optionalClaim? r) ht.optionalNodup,
    get?_undeclared hund]
  unfold claimOf
  cases hreqk : t.required.lookup k with
  | some ty =>
      -- a required field is declared, and not optional
      have hmem : k ∈ t.required.map (·.1) := (lookup_isSome_iff _ k).mp (by simp [hreqk])
      have hoptk : t.optional.lookup k = none := by
        rw [← Option.not_isSome_iff_eq_none, lookup_isSome_iff]
        exact ht.disjoint k hmem
      simp [hoptk, declares, hreqk]
  | none =>
      cases hoptk : t.optional.lookup k with
      | some o => simp [declares, hoptk]
      | none => simp [declares, hreqk, hoptk]

/-- The names of the three loops' claims are distinct. -/
theorem names_loops_nodup (ht : t.Valid)
    (hreq : requiredClaims t r t.required = .ok req) (hopt : optionalClaims r t.optional = .ok opt)
    (hund : undeclaredClaims t r.fields = .ok und) :
    (req ++ opt ++ und).names.Nodup := by
  obtain ⟨hreqall, rfl⟩ := requiredClaims_eq_ok hreq
  obtain ⟨hoptall, rfl⟩ := optionalClaims_eq_ok hopt
  obtain ⟨-, rfl⟩ := undeclaredClaims_eq_ok hund
  rw [Json.Members.names_append, Json.Members.names_append,
    Json.Members.names_filterMap_pair
      (fun (f : String) (ty : FieldType) => (r.get? f).bind ty.coerce?) hreqall,
    Json.Members.names_filterMap_pair (optionalClaim? r) hoptall]
  -- an undeclared field is neither required nor optional
  have hfree : ∀ k ∈ Json.Members.names (r.fields.filter fun m => t.undeclared m.1 m.2),
      t.declares k = false := by
    intro k hk
    obtain ⟨⟨k', v⟩, hm, rfl⟩ := List.mem_map.mp hk
    have hu := (List.mem_filter.mp hm).2
    simp only [undeclared, Bool.and_eq_true, Bool.not_eq_true'] at hu
    exact hu.1.1
  refine List.nodup_append.mpr ⟨List.nodup_append.mpr ⟨ht.requiredNodup, ht.optionalNodup, ?_⟩,
    r.sorted.nodup.sublist (List.filter_sublist.map _), ?_⟩
  · rintro a ha b hb rfl
    exact ht.disjoint a ha hb
  · rintro a ha b hb rfl
    have hd : t.declares a = true := (declares_iff t a).mpr (List.mem_append.mp ha)
    simp [hfree a hb] at hd

/-- Under the passes of the required and optional loops, a field has a claim exactly when it
is declared or passes through. -/
theorem claimOf_isSome_iff (hreq : requiredClaims t r t.required = .ok req)
    (hopt : optionalClaims r t.optional = .ok opt) (k : String) :
    (t.claimOf r k).isSome ↔ t.declares k = true ∨
      (t.allowUnknownFields = true ∧ k ≠ credentialIdField ∧ (r.get? k).isSome) := by
  obtain ⟨hreqall, -⟩ := requiredClaims_eq_ok hreq
  obtain ⟨hoptall, -⟩ := optionalClaims_eq_ok hopt
  unfold claimOf
  cases hreqk : t.required.lookup k with
  | some ty => simpa [declares, hreqk] using hreqall (k, ty) (mem_of_lookup_eq_some hreqk)
  | none =>
      cases hoptk : t.optional.lookup k with
      | some o => simpa [declares, hoptk] using hoptall (k, o) (mem_of_lookup_eq_some hoptk)
      | none =>
          have hdecl : t.declares k = false := by simp [declares, hreqk, hoptk]
          by_cases hk : k = credentialIdField
          · subst hk
            simp [hdecl]
          · cases t.allowUnknownFields <;> simp [hdecl, hk]

/-- The custom claims a template gives a record, as a map: the claim of every field that has
one. -/
def claims (t : Template) (r : SubjectRecord) : Json.Members :=
  Json.Members.ofList ((t.required.map (·.1) ++ t.optional.map (·.1) ++ r.fields.names).filterMap
    fun k => (t.claimOf r k).map (k, ·))

theorem get?_claims (k : String) : (t.claims r).get? k = t.claimOf r k := by
  rw [claims, Json.Members.get?_ofList, ← List.filterMap_reverse,
    Json.Members.get?_filterMap_names]
  split_ifs with hk
  · rfl
  · -- a name that neither the template nor the record has gets no claim
    simp only [List.mem_reverse, List.mem_append, not_or] at hk
    have hreqk : t.required.lookup k = none := by
      rw [← Option.not_isSome_iff_eq_none, lookup_isSome_iff]
      exact hk.1.1
    have hoptk : t.optional.lookup k = none := by
      rw [← Option.not_isSome_iff_eq_none, lookup_isSome_iff]
      exact hk.1.2
    have hget : r.get? k = none := by
      simp [SubjectRecord.get?, Json.Members.get?_eq_none_of_not_mem hk.2, Json.present?]
    simp [claimOf, hreqk, hoptk, hget]

/-- When the three loops pass, their claims merge into the template's claims of the record. -/
theorem ofList_loops (ht : t.Valid)
    (hreq : requiredClaims t r t.required = .ok req) (hopt : optionalClaims r t.optional = .ok opt)
    (hund : undeclaredClaims t r.fields = .ok und) :
    Json.Members.ofList (req ++ opt ++ und) = t.claims r :=
  (Json.Members.sorted_ofList _).ext (Json.Members.sorted_ofList _) fun k => by
    rw [Json.Members.get?_ofList_of_nodup (names_loops_nodup ht hreq hopt hund),
      get?_loops ht hreq hopt hund, get?_claims]

end Template

/-! ## A built claim set -/

section Build

variable {t : Template} {r : SubjectRecord} {issuer : IssuerId} {now : Timestamp}
  {fresh : CredentialId}

/-- The subject text of a subject claim: a string as it is, any other value as compact JSON. -/
def subjectText : Json → String
  | .str s => s
  | other => other.compact

/-- What a built claim set is made of. -/
theorem buildClaims_eq_ok {cs : ClaimSet} (h : buildClaims t r issuer now fresh = .ok cs) :
    ∃ given req opt und, recordCredentialId r = .ok given ∧
      requiredClaims t r t.required = .ok req ∧ optionalClaims r t.optional = .ok opt ∧
      undeclaredClaims t r.fields = .ok und ∧
      t.violations (.obj (Json.Members.ofList (req ++ opt ++ und))) = [] ∧
      ∃ j, Json.Members.get? (Json.Members.ofList (req ++ opt ++ und)) t.subjectField = some j ∧
        cs = ⟨issuer, subjectText j, now, t.validitySecs.map now.plusSeconds, given.getD fresh,
          t.typeName, t.claimPath, Json.Members.ofList (req ++ opt ++ und)⟩ := by
  unfold buildClaims at h
  simp only [Except.bind_eq_ok] at h
  obtain ⟨given, hg, req, hreq, opt, hopt, und, hund, h⟩ := h
  refine ⟨given, req, opt, und, hg, hreq, hopt, hund, ?_⟩
  by_cases hb : t.violations (.obj (Json.Members.ofList (req ++ opt ++ und))) = []
  · rw [if_neg (by rw [hb]; decide)] at h
    refine ⟨hb, ?_⟩
    cases hs : Json.Members.get? (Json.Members.ofList (req ++ opt ++ und)) t.subjectField with
    | none =>
        rw [hs] at h
        simp [bind, Except.bind] at h
    | some j =>
        refine ⟨j, rfl, ?_⟩
        rw [hs] at h
        cases j <;> simpa [bind, Except.bind, subjectText] using h.symm
  · have hb' :
        (!(t.violations (.obj (Json.Members.ofList (req ++ opt ++ und)))).isEmpty) = true := by
      simpa [List.isEmpty_iff] using hb
    rw [if_pos hb'] at h
    simp [throw, throwThe, MonadExceptOf.throw, bind, Except.bind] at h

/-- A record's own credential id, when the id check passes: none without a `jti`, and else
the id its string reads as. -/
theorem recordCredentialId_eq_ok {given : Option CredentialId}
    (h : recordCredentialId r = .ok given) :
    match r.get? credentialIdField with
    | none => given = none
    | some v => ∃ s id, v = .str s ∧ CredentialId.parse s = .ok id ∧ given = some id := by
  unfold recordCredentialId at h
  cases hv : r.get? credentialIdField with
  | none =>
      rw [hv] at h
      exact (Except.ok.inj h).symm
  | some v =>
      rw [hv] at h
      cases v with
      | str s =>
          cases hp : CredentialId.parse s with
          | ok id =>
              simp only [hp] at h
              exact ⟨s, id, rfl, hp, (Except.ok.inj h).symm⟩
          | error _ => simp [hp] at h
      | _ => simp at h

/-- A claim set that is built holds exactly the declared fields and the fields that pass
through, each with the claim the template gives it, and its other parts come from the record,
the issuer, the time and the template. -/
theorem buildClaims_complete {cs : ClaimSet} (ht : t.Valid)
    (h : buildClaims t r issuer now fresh = .ok cs) :
    cs.custom.Sorted ∧
      (∀ k, k ∈ cs.custom.names ↔ t.declares k = true ∨
        (t.allowUnknownFields = true ∧ k ≠ credentialIdField ∧ (r.get? k).isSome)) ∧
      credentialIdField ∉ cs.custom.names ∧
      (∀ k, cs.customClaim? k = t.claimOf r k) ∧
      (∃ j, t.claimOf r t.subjectField = some j ∧ cs.subject = subjectText j) ∧
      (match r.get? credentialIdField with
        | none => cs.credentialId = fresh
        | some v => ∃ s, v = .str s ∧ CredentialId.parse s = .ok cs.credentialId) ∧
      cs.issuer = issuer ∧ cs.issuedAt = now ∧
      cs.expiresAt = t.validitySecs.map now.plusSeconds ∧
      cs.credentialType = t.typeName ∧ cs.claimPath = t.claimPath := by
  obtain ⟨given, req, opt, und, hg, hreq, hopt, hund, -, j, hj, rfl⟩ := buildClaims_eq_ok h
  have hget : ∀ k, Json.Members.get? (Json.Members.ofList (req ++ opt ++ und)) k = t.claimOf r k :=
    fun k => (Json.Members.get?_ofList_of_nodup
      (Template.names_loops_nodup ht hreq hopt hund) k).trans
        (Template.get?_loops ht hreq hopt hund k)
  have hnames : ∀ k, k ∈ (Json.Members.ofList (req ++ opt ++ und)).names ↔
      t.declares k = true ∨
        (t.allowUnknownFields = true ∧ k ≠ credentialIdField ∧ (r.get? k).isSome) := by
    intro k
    rw [Json.Members.mem_names_iff_get?_isSome, hget, Template.claimOf_isSome_iff hreq hopt]
  refine ⟨Json.Members.sorted_ofList _, hnames, ?_, hget, ⟨j, (hget _).symm.trans hj, rfl⟩, ?_,
    rfl, rfl, rfl, rfl, rfl⟩
  · -- the template does not declare `jti`, and it never passes through
    intro hm
    rcases (hnames _).mp hm with hd | ⟨-, hne, -⟩
    · simp [ht.idUndeclared] at hd
    · exact hne rfl
  · have hid := recordCredentialId_eq_ok hg
    cases hv : r.get? credentialIdField with
    | none =>
        rw [hv] at hid
        simp [hid]
    | some v =>
        rw [hv] at hid
        obtain ⟨s, id, rfl, hp, rfl⟩ := hid
        exact ⟨s, rfl, hp⟩

/-- An employee badge: a required name, and an optional team that defaults to `core`. -/
def badge : Template :=
  ⟨"EmployeeBadge", [("name", .string)], [("team", ⟨.string, .str "core"⟩)], "name", ["employee"],
    some 3600, false, none⟩

def badgeIssuer : IssuerId := ⟨"issuer", by decide⟩

theorem badge_valid : badge.Valid :=
  ⟨by decide, by decide, by decide, rfl, rfl, ⟨"employee", [], rfl, by decide⟩,
    fun f o h => ⟨.str "core", trivial, by simp [badge] at h; obtain ⟨rfl, rfl⟩ := h; rfl⟩⟩

/-- A record with only Ana's name. -/
def anaRecord : SubjectRecord := ⟨[("name", .str "Ana")], by decide⟩

/-- Ana's badge: her name, and the default team. -/
def anaBadge : ClaimSet :=
  ⟨badgeIssuer, "Ana", ⟨100, 0⟩, some ⟨3700, 0⟩, ⟨⟨7⟩⟩, "EmployeeBadge", ["employee"],
    [("name", .str "Ana"), ("team", .str "core")]⟩

theorem buildClaims_anaBadge :
    buildClaims badge anaRecord badgeIssuer ⟨100, 0⟩ ⟨⟨7⟩⟩ = .ok anaBadge := by
  rfl

theorem buildClaims_complete_anaBadge :
    badge.Valid ∧ buildClaims badge anaRecord badgeIssuer ⟨100, 0⟩ ⟨⟨7⟩⟩ = .ok anaBadge ∧
      anaBadge.customClaim? "team" = badge.claimOf anaRecord "team" :=
  ⟨badge_valid, buildClaims_anaBadge,
    (buildClaims_complete badge_valid buildClaims_anaBadge).2.2.2.1 "team"⟩

end Build

end Attest
