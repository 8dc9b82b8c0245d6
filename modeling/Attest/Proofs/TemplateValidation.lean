import Attest.Proofs.ClaimConstruction
import Attest.Proofs.Coercion
import Mathlib.Data.List.Forall2
import Mathlib.Data.List.Nodup

/-!
# Checking template configurations

`Template.ofConfig` makes seven checks in a fixed order and refuses a configuration at the
first that fails.  `TemplateConfig.Accepts` names the seven and `TemplateConfig.Refusal` the
error of the first that fails; on a configuration whose maps are maps (names in strictly
ascending order, as configuration documents give them) the overlapping field reported is the
least one and the default reported the one of the least field (`ofConfig_eq_error_iff`).

A template that is built keeps what the checks found (`Template.Checked`): required and
optional fields apart, `jti` undeclared, the subject field declared, the namespace a dotted
path of trimmed non-empty names whose first is no registered claim, and every stored default a
value that coercion to its type gives back unchanged.  The last needs coercion to be
idempotent, dates included.

A catalogue checks every configuration before it looks for a type name given twice, so a
configuration that fails wins over a duplicate later in the list (`ofConfigs_eq_error_iff`).
The main statement is `template_checks`.
-/

namespace Attest

/-- In a list sorted by a key, the first member that passes a test is the one of least key. -/
theorem find?_eq_some_iff_least {α : Type} {key : α → String} {xs : List α}
    (hs : (xs.map key).Pairwise (· < ·)) {p : α → Bool} {x : α} :
    xs.find? p = some x ↔ x ∈ xs ∧ p x = true ∧ ∀ y ∈ xs, key y < key x → p y = false := by
  rw [← List.findSome?_guard, findSome?_eq_some_iff_least hs]
  constructor
  · rintro ⟨y, hy, hguard, hless⟩
    obtain ⟨rfl, hp⟩ := Option.guard_eq_some_iff.mp hguard
    exact ⟨hy, hp, fun z hz hzy => by simpa [Option.guard_eq_none_iff] using hless z hz hzy⟩
  · rintro ⟨hx, hp, hless⟩
    exact ⟨x, hx, Option.guard_eq_some_iff.mpr ⟨rfl, hp⟩,
      fun z hz hzx => by simpa [Option.guard_eq_none_iff] using hless z hz hzx⟩

namespace TemplateConfig

/-! ## The checks -/

/-- The names of the declared fields, the required ones first. -/
def fieldNames (c : TemplateConfig) : List String := c.required.map (·.1) ++ c.optional.map (·.1)

/-- At least one field is declared. -/
def NonEmpty (c : TemplateConfig) : Prop := c.required ≠ [] ∨ c.optional ≠ []

/-- No field is both required and optional. -/
def Disjoint (c : TemplateConfig) : Prop :=
  ∀ f ∈ c.required.map (·.1), f ∉ c.optional.map (·.1)

/-- No field is named `jti`. -/
def IdFree (c : TemplateConfig) : Prop := credentialIdField ∉ c.fieldNames

/-- The subject field is declared. -/
def SubjectDeclared (c : TemplateConfig) : Prop := c.subjectField ∈ c.fieldNames

/-- A name of a namespace: not empty once trimmed, and without blanks around it. -/
def SegmentOk (seg : String) : Prop := (Text.trim seg).isEmpty = false ∧ Text.trim seg = seg

/-- Every name of the namespace, split at its dots, is a proper name. -/
def SegmentsOk (c : TemplateConfig) : Prop := ∀ seg ∈ c.claimNamespace.splitOn ".", SegmentOk seg

/-- The first name of the namespace is no registered claim. -/
def Unregistered (c : TemplateConfig) : Prop :=
  ∀ first ∈ (c.claimNamespace.splitOn ".").head?, first ∉ registeredClaims

/-- Every default coerces to its field's type. -/
def DefaultsCoerce (c : TemplateConfig) : Prop :=
  ∀ f o, (f, o) ∈ c.optional → (o.fieldType.coerce? o.default).isSome

/-- The rules, when there are any, compile. -/
def RulesCompile (c : TemplateConfig) : Prop :=
  ∀ schema, c.rules = some schema → Schema.compileError? schema = none

/-- A configuration passes every check of `Template.ofConfig`. -/
structure Accepts (c : TemplateConfig) : Prop where
  nonEmpty : c.NonEmpty
  disjoint : c.Disjoint
  idFree : c.IdFree
  subjectDeclared : c.SubjectDeclared
  segments : c.SegmentsOk
  unregistered : c.Unregistered
  defaults : c.DefaultsCoerce
  rules : c.RulesCompile

/-- The error a configuration is refused with: that of the first check it fails.  The
overlapping field named is the least one, and the default named the one of the least field
whose default does not coerce. -/
inductive Refusal (c : TemplateConfig) : ConfigError → Prop
  | degenerate : ¬ c.NonEmpty → Refusal c (.degenerateTemplate c.typeName)
  | overlapping {f : String} : c.NonEmpty → f ∈ c.required.map (·.1) → f ∈ c.optional.map (·.1) →
      (∀ f' ∈ c.required.map (·.1), f' < f → f' ∉ c.optional.map (·.1)) →
      Refusal c (.overlappingField c.typeName f)
  | reserved : c.NonEmpty → c.Disjoint → ¬ c.IdFree →
      Refusal c (.reservedField c.typeName credentialIdField)
  | subject : c.NonEmpty → c.Disjoint → c.IdFree → ¬ c.SubjectDeclared →
      Refusal c (.invalidSubjectField c.typeName c.subjectField)
  | segments : c.NonEmpty → c.Disjoint → c.IdFree → c.SubjectDeclared → ¬ c.SegmentsOk →
      Refusal c (.invalidNamespace c.typeName
        (Text.quoted c.claimNamespace ++ " must be a dotted path of non-empty names"))
  | registered {first : String} {rest : List String} : c.NonEmpty → c.Disjoint → c.IdFree →
      c.SubjectDeclared → c.SegmentsOk → c.claimNamespace.splitOn "." = first :: rest →
      first ∈ registeredClaims →
      Refusal c (.invalidNamespace c.typeName (Text.quoted first ++ " is a registered claim name"))
  | default {f : String} {o : OptionalFieldConfig} : c.NonEmpty → c.Disjoint → c.IdFree →
      c.SubjectDeclared → c.SegmentsOk → c.Unregistered → (f, o) ∈ c.optional →
      o.fieldType.coerce? o.default = none →
      (∀ f' o', (f', o') ∈ c.optional → f' < f → (o'.fieldType.coerce? o'.default).isSome) →
      Refusal c (.invalidDefault c.typeName f
        (IssuanceError.typeMismatch f o.fieldType.name o.default.compact).message)
  | rules {schema : Json} {reason : String} : c.NonEmpty → c.Disjoint → c.IdFree →
      c.SubjectDeclared → c.SegmentsOk → c.Unregistered → c.DefaultsCoerce →
      c.rules = some schema → Schema.compileError? schema = some reason →
      Refusal c (.invalidRules c.typeName reason)

/-! ## Each check on its own -/

variable {c : TemplateConfig}

theorem isEmpty_and_isEmpty_iff :
    (c.required.isEmpty && c.optional.isEmpty) = true ↔ ¬ c.NonEmpty := by
  simp [NonEmpty, List.isEmpty_iff]

theorem find?_overlap_eq_none_iff :
    c.required.find? (fun (f, _) => (c.optional.lookup f).isSome) = none ↔ c.Disjoint := by
  rw [List.find?_eq_none]
  constructor
  · intro h f hf hopt
    obtain ⟨⟨f', ty⟩, hmem, rfl⟩ := List.mem_map.mp hf
    exact h _ hmem ((Template.lookup_isSome_iff _ _).mpr hopt)
  · rintro h ⟨f, ty⟩ hmem hopt
    exact h f (List.mem_map_of_mem (f := (·.1)) hmem) ((Template.lookup_isSome_iff _ _).mp hopt)

/-- On sorted required fields, the overlap check finds the least overlapping field. -/
theorem find?_overlap_eq_some_iff (hs : (c.required.map (·.1)).Pairwise (· < ·))
    {f : String} {ty : FieldType} :
    c.required.find? (fun (f, _) => (c.optional.lookup f).isSome) = some (f, ty) ↔
      (f, ty) ∈ c.required ∧ f ∈ c.optional.map (·.1) ∧
        ∀ f' ∈ c.required.map (·.1), f' < f → f' ∉ c.optional.map (·.1) := by
  rw [find?_eq_some_iff_least hs]
  constructor
  · rintro ⟨hmem, hopt, hless⟩
    refine ⟨hmem, (Template.lookup_isSome_iff _ _).mp hopt, fun f' hf' hlt hopt' => ?_⟩
    obtain ⟨⟨f', ty'⟩, hmem', rfl⟩ := List.mem_map.mp hf'
    have := hless _ hmem' hlt
    simp only at this
    rw [(Template.lookup_isSome_iff _ _).mpr hopt'] at this
    cases this
  · rintro ⟨hmem, hopt, hless⟩
    refine ⟨hmem, (Template.lookup_isSome_iff _ _).mpr hopt, fun ⟨f', ty'⟩ hmem' hlt => ?_⟩
    simp only at hlt ⊢
    rw [Bool.eq_false_iff, ne_eq, Template.lookup_isSome_iff]
    exact hless f' (List.mem_map_of_mem (f := (·.1)) hmem') hlt

theorem find?_reserved_eq_none_iff :
    (c.required.map (·.1) ++ c.optional.map (·.1)).find? (· == credentialIdField) = none ↔
      c.IdFree := by
  rw [List.find?_eq_none, IdFree, fieldNames]
  simp only [beq_iff_eq]
  exact ⟨fun h hm => h _ hm rfl, fun h x hx hxe => h (hxe ▸ hx)⟩

theorem find?_reserved_eq_some {f : String}
    (h : (c.required.map (·.1) ++ c.optional.map (·.1)).find? (· == credentialIdField) = some f) :
    f = credentialIdField := by
  simpa using List.find?_some h

theorem subjectMissing_iff :
    ((c.required.lookup c.subjectField).isNone && (c.optional.lookup c.subjectField).isNone) = true ↔
      ¬ c.SubjectDeclared := by
  simp only [Bool.and_eq_true, Option.isNone_iff_eq_none, SubjectDeclared, fieldNames,
    List.mem_append, not_or, ← Template.lookup_isSome_iff, Option.not_isSome_iff_eq_none]

theorem isEmpty_and_isEmpty_eq_false_iff :
    (c.required.isEmpty && c.optional.isEmpty) = false ↔ c.NonEmpty := by
  rw [← Bool.not_eq_true, isEmpty_and_isEmpty_iff, not_not]

theorem subjectMissing_eq_false_iff :
    ((c.required.lookup c.subjectField).isNone &&
      (c.optional.lookup c.subjectField).isNone) = false ↔ c.SubjectDeclared := by
  rw [← Bool.not_eq_true, subjectMissing_iff, not_not]

end TemplateConfig

namespace Template

open TemplateConfig

/-! ## The namespace and the defaults -/

theorem badSegment_iff (seg : String) :
    ((Text.trim seg).isEmpty || Text.trim seg != seg) = true ↔ ¬ SegmentOk seg := by
  unfold SegmentOk
  cases (Text.trim seg).isEmpty <;> by_cases h : Text.trim seg = seg <;> simp [h]

theorem any_badSegment_iff (segs : List String) :
    segs.any (fun seg => (Text.trim seg).isEmpty || Text.trim seg != seg) = true ↔
      ¬ ∀ seg ∈ segs, SegmentOk seg := by
  rw [List.any_eq_true]
  simp only [badSegment_iff, not_forall, exists_prop]

variable {tn ns : String}

theorem parseNamespace_of_not_segmentsOk (h : ¬ ∀ seg ∈ ns.splitOn ".", SegmentOk seg) :
    parseNamespace tn ns =
      .error (.invalidNamespace tn (Text.quoted ns ++ " must be a dotted path of non-empty names")) := by
  unfold parseNamespace
  dsimp only
  rw [if_pos ((any_badSegment_iff _).mpr h)]

theorem parseNamespace_of_segmentsOk (h : ∀ seg ∈ ns.splitOn ".", SegmentOk seg) {first : String}
    {rest : List String} (hsplit : ns.splitOn "." = first :: rest) :
    parseNamespace tn ns =
      if first ∈ registeredClaims then
        .error (.invalidNamespace tn (Text.quoted first ++ " is a registered claim name"))
      else .ok (first :: rest) := by
  unfold parseNamespace
  dsimp only
  rw [if_neg (fun hbad => (any_badSegment_iff _).mp hbad h), hsplit]
  by_cases hreg : first ∈ registeredClaims <;> simp [hreg]

theorem parseNamespace_eq_ok_iff {path : List String} :
    parseNamespace tn ns = .ok path ↔
      (∀ seg ∈ ns.splitOn ".", SegmentOk seg) ∧
        (∀ first ∈ (ns.splitOn ".").head?, first ∉ registeredClaims) ∧ path = ns.splitOn "." := by
  obtain ⟨first, rest, hsplit⟩ := List.exists_cons_of_ne_nil (splitOn_ne_nil ns ".")
  by_cases h : ∀ seg ∈ ns.splitOn ".", SegmentOk seg
  · rw [parseNamespace_of_segmentsOk h hsplit, hsplit]
    by_cases hreg : first ∈ registeredClaims
    · simp [hreg]
    · rw [if_neg hreg]
      constructor
      · intro hp
        cases hp
        exact ⟨hsplit ▸ h, by simp [hreg], rfl⟩
      · rintro ⟨-, -, rfl⟩
        rfl
  · rw [parseNamespace_of_not_segmentsOk h]
    simp [h]

/-- The fault of a configured default: one that does not coerce to its field's type. -/
def defaultFault? (template field : String) (cfg : OptionalFieldConfig) : Option ConfigError :=
  match cfg.fieldType.coerce? cfg.default with
  | some _ => none
  | none => some (.invalidDefault template field
      (IssuanceError.typeMismatch field cfg.fieldType.name cfg.default.compact).message)

theorem defaultFault?_eq_none {field : String} {cfg : OptionalFieldConfig} {d : Json}
    (h : cfg.fieldType.coerce? cfg.default = some d) : defaultFault? tn field cfg = none := by
  simp [defaultFault?, h]

theorem defaultFault?_eq_some {field : String} {cfg : OptionalFieldConfig}
    (h : cfg.fieldType.coerce? cfg.default = none) :
    defaultFault? tn field cfg = some (.invalidDefault tn field
      (IssuanceError.typeMismatch field cfg.fieldType.name cfg.default.compact).message) := by
  simp [defaultFault?, h]

/-- Coercing the defaults is a search for the first default that does not coerce. -/
theorem coerceDefaults_eq_error_iff_findSome {xs : List (String × OptionalFieldConfig)}
    {e : ConfigError} :
    coerceDefaults tn xs = .error e ↔ xs.findSome? (fun p => defaultFault? tn p.1 p.2) = some e := by
  induction xs with
  | nil => simp [coerceDefaults]
  | cons p rest ih =>
    obtain ⟨f, cfg⟩ := p
    rw [coerceDefaults, List.findSome?_cons]
    unfold FieldType.coerce
    cases hco : cfg.fieldType.coerce? cfg.default with
    | none => simp [defaultFault?_eq_some hco, Except.mapError, bind, Except.bind, eq_comm]
    | some d =>
      simp only [defaultFault?_eq_none hco, Except.mapError, bind, Except.bind]
      rw [← ih]
      cases coerceDefaults tn rest <;> simp

theorem coerceDefaults_isOk_iff {xs : List (String × OptionalFieldConfig)} :
    (∃ os, coerceDefaults tn xs = .ok os) ↔
      ∀ f o, (f, o) ∈ xs → (o.fieldType.coerce? o.default).isSome := by
  induction xs with
  | nil => simp [coerceDefaults]
  | cons p rest ih =>
    obtain ⟨f, cfg⟩ := p
    simp only [coerceDefaults, FieldType.coerce, List.mem_cons, Prod.mk.injEq]
    cases hco : cfg.fieldType.coerce? cfg.default with
    | none =>
      simp only [Except.mapError, bind, Except.bind, reduceCtorEq, exists_false, false_iff]
      intro h
      simpa [hco] using h f cfg (.inl ⟨rfl, rfl⟩)
    | some d =>
      simp only [Except.mapError, bind, Except.bind]
      constructor
      · rintro ⟨os, hos⟩
        cases hrest : coerceDefaults tn rest with
        | error e => rw [hrest] at hos; cases hos
        | ok more =>
          have hmore := ih.mp ⟨more, hrest⟩
          rintro f' o' (⟨rfl, rfl⟩ | hmem)
          · simp [hco]
          · exact hmore f' o' hmem
      · intro h
        obtain ⟨more, hmore⟩ := ih.mpr fun f' o' hmem => h f' o' (.inr hmem)
        rw [hmore]
        exact ⟨_, rfl⟩

/-- On sorted optional fields, the default refused is the one of the least field whose default
does not coerce. -/
theorem coerceDefaults_eq_error_iff {xs : List (String × OptionalFieldConfig)}
    (hs : (xs.map (·.1)).Pairwise (· < ·)) {e : ConfigError} :
    coerceDefaults tn xs = .error e ↔
      ∃ f o, (f, o) ∈ xs ∧ o.fieldType.coerce? o.default = none ∧
        (∀ f' o', (f', o') ∈ xs → f' < f → (o'.fieldType.coerce? o'.default).isSome) ∧
        e = .invalidDefault tn f
          (IssuanceError.typeMismatch f o.fieldType.name o.default.compact).message := by
  rw [coerceDefaults_eq_error_iff_findSome, findSome?_eq_some_iff_least hs]
  have hfault : ∀ f o, defaultFault? tn f o = none ↔ (o.fieldType.coerce? o.default).isSome := by
    intro f o
    unfold defaultFault?
    cases o.fieldType.coerce? o.default <;> simp
  constructor
  · rintro ⟨⟨f, o⟩, hmem, he, hless⟩
    unfold defaultFault? at he
    cases hco : o.fieldType.coerce? o.default with
    | some d => rw [hco] at he; cases he
    | none =>
      rw [hco] at he
      refine ⟨f, o, hmem, hco, fun f' o' hmem' hlt => (hfault f' o').mp (hless _ hmem' hlt), ?_⟩
      exact (Option.some.inj he).symm
  · rintro ⟨f, o, hmem, hco, hless, rfl⟩
    refine ⟨(f, o), hmem, by simp [defaultFault?, hco], fun ⟨f', o'⟩ hmem' hlt => ?_⟩
    exact (hfault f' o').mpr (hless f' o' hmem' hlt)

/-! ## The checks in their order -/

variable {c : TemplateConfig}

theorem ofConfig_of_degenerate (hne : ¬ c.NonEmpty) :
    ofConfig c = .error (.degenerateTemplate c.typeName) := by
  unfold ofConfig
  simp [isEmpty_and_isEmpty_iff.mpr hne, throw, throwThe, MonadExceptOf.throw, bind, Except.bind]

theorem ofConfig_of_overlap (hne : c.NonEmpty) {f : String} {ty : FieldType}
    (hov : c.required.find? (fun (f, _) => (c.optional.lookup f).isSome) = some (f, ty)) :
    ofConfig c = .error (.overlappingField c.typeName f) := by
  unfold ofConfig
  simp [isEmpty_and_isEmpty_eq_false_iff.mpr hne, hov, throw, throwThe, MonadExceptOf.throw, bind,
    Except.bind]

theorem ofConfig_of_reserved (hne : c.NonEmpty) (hdis : c.Disjoint) {f : String}
    (hres : (c.required.map (·.1) ++ c.optional.map (·.1)).find? (· == credentialIdField) = some f) :
    ofConfig c = .error (.reservedField c.typeName f) := by
  unfold ofConfig
  simp [isEmpty_and_isEmpty_eq_false_iff.mpr hne, find?_overlap_eq_none_iff.mpr hdis, hres, throw,
    throwThe, MonadExceptOf.throw, bind, Except.bind]

theorem ofConfig_of_subject (hne : c.NonEmpty) (hdis : c.Disjoint) (hid : c.IdFree)
    (hsub : ¬ c.SubjectDeclared) :
    ofConfig c = .error (.invalidSubjectField c.typeName c.subjectField) := by
  unfold ofConfig
  simp [isEmpty_and_isEmpty_eq_false_iff.mpr hne, find?_overlap_eq_none_iff.mpr hdis,
    find?_reserved_eq_none_iff.mpr hid, subjectMissing_iff.mpr hsub, throw, throwThe,
    MonadExceptOf.throw, bind, Except.bind]

/-- Past the four checks on the fields, the namespace is read. -/
theorem ofConfig_of_fields (hne : c.NonEmpty) (hdis : c.Disjoint) (hid : c.IdFree)
    (hsub : c.SubjectDeclared) :
    ofConfig c = (parseNamespace c.typeName c.claimNamespace >>= fun path =>
      coerceDefaults c.typeName c.optional >>= fun opt =>
        match c.rules.bind Schema.compileError? with
        | some reason => .error (.invalidRules c.typeName reason)
        | none => .ok ⟨c.typeName, c.required, opt, c.subjectField, path, c.validitySecs,
            c.allowUnknownFields, c.rules⟩) := by
  unfold ofConfig
  simp only [isEmpty_and_isEmpty_eq_false_iff.mpr hne, find?_overlap_eq_none_iff.mpr hdis,
    find?_reserved_eq_none_iff.mpr hid, subjectMissing_eq_false_iff.mpr hsub, Bool.false_eq_true,
    if_false, bind, Except.bind]
  cases parseNamespace c.typeName c.claimNamespace with
  | error e => rfl
  | ok path =>
    cases coerceDefaults c.typeName c.optional with
    | error e => rfl
    | ok opt =>
      cases hr : c.rules with
      | none => rfl
      | some schema =>
        cases hce : Schema.compileError? schema with
        | none => simp [hce]
        | some reason => simp [hce, throw, throwThe, MonadExceptOf.throw]

/-- Past the first six checks only the rules are left. -/
theorem ofConfig_of_checks (hne : c.NonEmpty) (hdis : c.Disjoint) (hid : c.IdFree)
    (hsub : c.SubjectDeclared) {path : List String}
    (hns : parseNamespace c.typeName c.claimNamespace = .ok path)
    {opt : List (String × OptionalField)} (hdef : coerceDefaults c.typeName c.optional = .ok opt) :
    ofConfig c =
      match c.rules.bind Schema.compileError? with
      | some reason => .error (.invalidRules c.typeName reason)
      | none => .ok ⟨c.typeName, c.required, opt, c.subjectField, path, c.validitySecs,
          c.allowUnknownFields, c.rules⟩ := by
  rw [ofConfig_of_fields hne hdis hid hsub, hns, hdef]
  rfl

/-! ## What the checks decide -/

/-- A configuration passes the checks exactly when a template is built from it. -/
theorem ofConfig_isOk_iff : (∃ t, ofConfig c = .ok t) ↔ c.Accepts := by
  constructor
  · rintro ⟨t, h⟩
    obtain ⟨hov, hres, hsub, path, opt, hns, hdef, rfl⟩ := ofConfig_eq_ok h
    obtain ⟨hseg, hunreg, rfl⟩ := parseNamespace_eq_ok_iff.mp hns
    have hdis := find?_overlap_eq_none_iff.mp hov
    have hid := find?_reserved_eq_none_iff.mp hres
    have hsub := subjectMissing_eq_false_iff.mp (Bool.eq_false_iff.mpr hsub)
    -- the first and the last check are not in `ofConfig_eq_ok`: each would have refused
    have hne : c.NonEmpty := by
      by_contra hne
      rw [ofConfig_of_degenerate hne] at h
      cases h
    have hrules : c.RulesCompile := by
      intro schema hr
      rw [ofConfig_of_checks hne hdis hid hsub hns hdef, hr] at h
      simp only [Option.bind_some] at h
      split at h
      · cases h
      · assumption
    exact ⟨hne, hdis, hid, hsub, hseg, hunreg,
      fun f o hmem => coerceDefaults_isOk_iff.mp ⟨opt, hdef⟩ f o hmem, hrules⟩
  · intro ha
    obtain ⟨opt, hdef⟩ := coerceDefaults_isOk_iff.mpr ha.defaults
    rw [ofConfig_of_checks ha.nonEmpty ha.disjoint ha.idFree ha.subjectDeclared
      (parseNamespace_eq_ok_iff.mpr ⟨ha.segments, ha.unregistered, rfl⟩) hdef]
    cases hr : c.rules with
    | none => exact ⟨_, rfl⟩
    | some schema => simp [ha.rules schema hr]

/-- What the first failing check refuses with is what building the template fails with. -/
theorem ofConfig_eq_error_of_refusal (hc : c.WellFormed) {e : ConfigError} (h : c.Refusal e) :
    ofConfig c = .error e := by
  obtain ⟨hreq, hopt, -⟩ := hc
  cases h with
  | degenerate hne => exact ofConfig_of_degenerate hne
  | overlapping hne hf hov hless =>
    obtain ⟨⟨f, ty⟩, hmem, rfl⟩ := List.mem_map.mp hf
    exact ofConfig_of_overlap hne ((find?_overlap_eq_some_iff hreq).mpr ⟨hmem, hov, hless⟩)
  | reserved hne hdis hid =>
    obtain ⟨f, hf⟩ := Option.ne_none_iff_exists'.mp (mt find?_reserved_eq_none_iff.mp hid)
    rw [ofConfig_of_reserved hne hdis hf, find?_reserved_eq_some hf]
  | subject hne hdis hid hsub => exact ofConfig_of_subject hne hdis hid hsub
  | segments hne hdis hid hsub hseg =>
    rw [ofConfig_of_fields hne hdis hid hsub, parseNamespace_of_not_segmentsOk hseg]
    rfl
  | registered hne hdis hid hsub hseg hsplit hreg =>
    rw [ofConfig_of_fields hne hdis hid hsub, parseNamespace_of_segmentsOk hseg hsplit, if_pos hreg]
    rfl
  | default hne hdis hid hsub hseg hunreg hmem hco hless =>
    rw [ofConfig_of_fields hne hdis hid hsub,
      parseNamespace_eq_ok_iff.mpr ⟨hseg, hunreg, rfl⟩,
      (coerceDefaults_eq_error_iff hopt).mpr ⟨_, _, hmem, hco, hless, rfl⟩]
    rfl
  | rules hne hdis hid hsub hseg hunreg hdefs hr hce =>
    obtain ⟨opt, hdef⟩ := coerceDefaults_isOk_iff.mpr hdefs
    rw [ofConfig_of_checks hne hdis hid hsub (parseNamespace_eq_ok_iff.mpr ⟨hseg, hunreg, rfl⟩) hdef,
      hr]
    simp [hce]

/-- A configuration that fails a check is refused by the first check it fails. -/
theorem exists_refusal (hc : c.WellFormed) (hna : ¬ c.Accepts) : ∃ e, c.Refusal e := by
  obtain ⟨hreq, hopt, -⟩ := hc
  by_cases hne : c.NonEmpty
  swap
  · exact ⟨_, .degenerate hne⟩
  by_cases hdis : c.Disjoint
  swap
  · -- the overlap check finds the least overlapping field
    obtain ⟨⟨f, ty⟩, hfind⟩ := Option.ne_none_iff_exists'.mp (mt find?_overlap_eq_none_iff.mp hdis)
    obtain ⟨hmem, hov, hless⟩ := (find?_overlap_eq_some_iff hreq).mp hfind
    exact ⟨_, .overlapping hne (List.mem_map_of_mem (f := (·.1)) hmem) hov hless⟩
  by_cases hid : c.IdFree
  swap
  · exact ⟨_, .reserved hne hdis hid⟩
  by_cases hsub : c.SubjectDeclared
  swap
  · exact ⟨_, .subject hne hdis hid hsub⟩
  by_cases hseg : c.SegmentsOk
  swap
  · exact ⟨_, .segments hne hdis hid hsub hseg⟩
  by_cases hunreg : c.Unregistered
  swap
  · obtain ⟨first, rest, hsplit⟩ := List.exists_cons_of_ne_nil (splitOn_ne_nil c.claimNamespace ".")
    have hreg : first ∈ registeredClaims := by
      by_contra hreg
      exact hunreg (by simpa [Unregistered, hsplit] using hreg)
    exact ⟨_, .registered hne hdis hid hsub hseg hsplit hreg⟩
  by_cases hdefs : c.DefaultsCoerce
  swap
  · -- coercing the defaults stops at the least field whose default does not coerce
    obtain ⟨e, he⟩ : ∃ e, coerceDefaults c.typeName c.optional = .error e := by
      cases hcd : coerceDefaults c.typeName c.optional with
      | error e => exact ⟨e, rfl⟩
      | ok os => exact absurd (coerceDefaults_isOk_iff.mp ⟨os, hcd⟩) hdefs
    obtain ⟨f, o, hmem, hco, hless, rfl⟩ := (coerceDefaults_eq_error_iff hopt).mp he
    exact ⟨_, .default hne hdis hid hsub hseg hunreg hmem hco hless⟩
  by_cases hrules : c.RulesCompile
  · exact absurd ⟨hne, hdis, hid, hsub, hseg, hunreg, hdefs, hrules⟩ hna
  · obtain ⟨schema, hr, hce⟩ : ∃ schema, c.rules = some schema ∧ Schema.compileError? schema ≠ none := by
      simpa [RulesCompile] using hrules
    obtain ⟨reason, hreason⟩ := Option.ne_none_iff_exists'.mp hce
    exact ⟨_, .rules hne hdis hid hsub hseg hunreg hdefs hr hreason⟩

/-- A configuration whose maps are maps is refused exactly with the error of the first check
it fails. -/
theorem ofConfig_eq_error_iff (hc : c.WellFormed) {e : ConfigError} :
    ofConfig c = .error e ↔ c.Refusal e := by
  constructor
  · intro h
    have hna : ¬ c.Accepts := fun ha => by
      obtain ⟨t, ht⟩ := ofConfig_isOk_iff.mpr ha
      rw [ht] at h
      cases h
    obtain ⟨e', he'⟩ := exists_refusal hc hna
    rw [ofConfig_eq_error_of_refusal hc he'] at h
    cases h
    exact he'
  · exact ofConfig_eq_error_of_refusal hc

/-! ## What a built template keeps -/

/-- What issuance relies on of a template: the facts the checks found, kept by the template
itself, and stored defaults that coercion leaves as they are. -/
structure Checked (t : Template) : Prop where
  disjoint : ∀ f ∈ t.required.map (·.1), f ∉ t.optional.map (·.1)
  idUndeclared : t.declares credentialIdField = false
  subjectDeclared : t.declares t.subjectField = true
  segments : ∀ seg ∈ t.claimPath, SegmentOk seg
  pathHead : ∃ first rest, t.claimPath = first :: rest ∧ first ∉ registeredClaims
  defaultsFixed : ∀ f o, (f, o) ∈ t.optional → o.fieldType.coerce f o.default = .ok o.default

theorem typeName_of_ofConfig {t : Template} (h : ofConfig c = .ok t) : t.typeName = c.typeName := by
  obtain ⟨-, -, -, path, opt, -, -, rfl⟩ := ofConfig_eq_ok h
  rfl

/-- Every template built keeps what its checks found; a stored default is a coerced value, and
coercing it again gives it back. -/
theorem checked_of_ofConfig {t : Template} (h : ofConfig c = .ok t) : t.Checked := by
  have ha := ofConfig_isOk_iff.mp ⟨t, h⟩
  obtain ⟨-, -, -, path, opt, hns, hdef, rfl⟩ := ofConfig_eq_ok h
  obtain ⟨hnames, hcoerced⟩ := coerceDefaults_eq_ok hdef
  refine ⟨?_, ?_, ?_, ?_, parseNamespace_eq_ok hns, ?_⟩
  · rw [hnames]
    exact ha.disjoint
  · rw [Bool.eq_false_iff, ne_eq, declares_iff, hnames, ← List.mem_append]
    exact ha.idFree
  · rw [declares_iff, hnames, ← List.mem_append]
    exact ha.subjectDeclared
  · obtain ⟨-, -, rfl⟩ := parseNamespace_eq_ok_iff.mp hns
    exact ha.segments
  · intro f o hmem
    obtain ⟨cfg, -, hty, hco⟩ := hcoerced f o hmem
    exact FieldType.coerce_eq_ok.mpr (FieldType.coerce?_idempotent (hty ▸ hco))

end Template

/-! ## Catalogues -/

theorem Except.mapM_eq_ok_iff {α β ε : Type} {f : α → Except ε β} {xs : List α} {ys : List β} :
    xs.mapM f = .ok ys ↔ List.Forall₂ (fun x y => f x = .ok y) xs ys := by
  induction xs generalizing ys with
  | nil => simp [pure, Except.pure, List.forall₂_nil_left_iff, eq_comm]
  | cons x xs ih =>
    simp only [List.mapM_cons, Except.bind_eq_ok, pure, Except.pure, Except.ok.injEq]
    cases ys with
    | nil => simp [List.forall₂_nil_right_iff]
    | cons y ys =>
      rw [List.forall₂_cons, ← ih]
      constructor
      · rintro ⟨b, hb, bs, hbs, hys⟩
        obtain ⟨rfl, rfl⟩ := List.cons.inj hys
        exact ⟨hb, hbs⟩
      · rintro ⟨hy, hys⟩
        exact ⟨y, hy, ys, hys, rfl⟩

/-- `mapM` fails with the error of the first item that fails. -/
theorem Except.mapM_eq_error_iff {α β ε : Type} {f : α → Except ε β} {xs : List α} {e : ε} :
    xs.mapM f = .error e ↔
      ∃ pre x post, xs = pre ++ x :: post ∧ (∀ y ∈ pre, ∃ b, f y = .ok b) ∧ f x = .error e := by
  induction xs with
  | nil => simp [pure, Except.pure]
  | cons x xs ih =>
    simp only [List.mapM_cons, Except.bind_eq_error, pure, Except.pure, reduceCtorEq, and_false,
      exists_false, or_false]
    constructor
    · rintro (hx | ⟨b, hb, h⟩)
      · exact ⟨[], x, xs, rfl, by simp, hx⟩
      · obtain ⟨pre, y, post, rfl, hpre, hy⟩ := ih.mp h
        exact ⟨x :: pre, y, post, rfl, List.forall_mem_cons.mpr ⟨⟨b, hb⟩, hpre⟩, hy⟩
    · rintro ⟨pre, y, post, hxs, hpre, hy⟩
      cases pre with
      | nil =>
        obtain ⟨rfl, rfl⟩ := List.cons.inj hxs
        exact .inl hy
      | cons z pre =>
        obtain ⟨rfl, rfl⟩ := List.cons.inj hxs
        obtain ⟨b, hb⟩ := hpre x List.mem_cons_self
        exact .inr ⟨b, hb, ih.mpr ⟨pre, y, post, rfl, fun w hw => hpre w (.tail _ hw), hy⟩⟩

/-- `mapM` succeeds exactly when every item does. -/
theorem Except.mapM_isOk_iff {α β ε : Type} {f : α → Except ε β} {xs : List α} :
    (∃ ys, xs.mapM f = .ok ys) ↔ ∀ x ∈ xs, ∃ y, f x = .ok y := by
  constructor
  · rintro ⟨ys, h⟩
    replace h := Except.mapM_eq_ok_iff.mp h
    induction h with
    | nil => simp
    | cons hxy _ ih => exact List.forall_mem_cons.mpr ⟨⟨_, hxy⟩, ih⟩
  · intro h
    cases hm : xs.mapM f with
    | ok ys => exact ⟨ys, rfl⟩
    | error e =>
      obtain ⟨pre, x, post, rfl, -, hx⟩ := Except.mapM_eq_error_iff.mp hm
      obtain ⟨y, hy⟩ := h x (by simp)
      rw [hy] at hx
      cases hx

/-- `x` is the first member of `xs` that repeats an earlier one. -/
def FirstRepeat {α : Type} (xs : List α) (x : α) : Prop :=
  ∃ pre post, xs = pre ++ x :: post ∧ pre.Nodup ∧ x ∈ pre

theorem FirstRepeat.not_nodup {α : Type} {xs : List α} {x : α} (h : FirstRepeat xs x) :
    ¬ xs.Nodup := by
  obtain ⟨pre, post, rfl, -, hx⟩ := h
  rw [List.nodup_append]
  rintro ⟨-, -, hdis⟩
  exact hdis x hx x List.mem_cons_self rfl

/-- A list has at most one first repeat: the shorter of two prefixes ending in a repeat lies in
the other, whose members are distinct. -/
theorem FirstRepeat.unique {α : Type} {xs : List α} {x y : α} (hx : FirstRepeat xs x)
    (hy : FirstRepeat xs y) : x = y := by
  obtain ⟨p, s, hxs, hp, hxp⟩ := hx
  obtain ⟨q, t, hys, hq, hyq⟩ := hy
  have hrepeat : ∀ {r : List α} {z : α}, z ∈ r → ¬ (r ++ [z]).Nodup := fun hz hnd =>
    (List.nodup_append.mp hnd).2.2 _ hz _ List.mem_cons_self rfl
  have hpx : p ++ [x] <+: xs := ⟨s, by simp [hxs]⟩
  have hqy : q ++ [y] <+: xs := ⟨t, by simp [hys]⟩
  rcases List.prefix_or_prefix_of_prefix hpx hqy with h | h
  · rcases List.prefix_concat_iff.mp h with h | h
    · simpa using (List.append_inj' h rfl).2
    · exact absurd (hq.sublist h.sublist) (hrepeat hxp)
  · rcases List.prefix_concat_iff.mp h with h | h
    · simpa using (List.append_inj' h rfl).2.symm
    · exact absurd (hp.sublist h.sublist) (hrepeat hyq)

namespace Catalogue

theorem any_typeName_iff (acc : List Template) (t : Template) :
    acc.any (·.typeName == t.typeName) = true ↔ t.typeName ∈ acc.map (·.typeName) := by
  simp [List.any_eq_true]

/-- Gathering succeeds on distinct type names, keeping the templates in order. -/
theorem ofTemplates_go_eq_ok_iff {acc ts : List Template}
    (hacc : (acc.map (·.typeName)).Nodup) {cat : Catalogue} :
    ofTemplates.go acc ts = .ok cat ↔
      ((acc.reverse ++ ts).map (·.typeName)).Nodup ∧ cat.templates = acc.reverse ++ ts := by
  induction ts generalizing acc with
  | nil =>
    obtain ⟨templates⟩ := cat
    simp [ofTemplates.go, List.map_reverse, List.nodup_reverse, hacc, eq_comm]
  | cons t rest ih =>
    rw [ofTemplates.go]
    by_cases hdup : acc.any (·.typeName == t.typeName) = true
    · -- the repeated name is in the gathered templates and again at `t`
      rw [if_pos hdup]
      have hmem := (any_typeName_iff acc t).mp hdup
      simp only [reduceCtorEq, false_iff, not_and, List.map_append, List.map_reverse, List.map_cons,
        List.nodup_append, List.nodup_reverse, List.mem_reverse]
      intro hnd
      exact absurd (hnd.2.2 _ hmem _ List.mem_cons_self) (not_not.mpr rfl)
    · rw [if_neg hdup, ih]
      · simp
      · exact List.nodup_cons.mpr ⟨mt (any_typeName_iff acc t).mpr hdup, hacc⟩

/-- Gathering fails on the first type name that repeats an earlier one. -/
theorem ofTemplates_go_eq_error_iff {acc ts : List Template}
    (hacc : (acc.map (·.typeName)).Nodup) {e : ConfigError} :
    ofTemplates.go acc ts = .error e ↔
      ∃ n, FirstRepeat ((acc.reverse ++ ts).map (·.typeName)) n ∧ e = .duplicateTemplate n := by
  induction ts generalizing acc with
  | nil =>
    simp only [ofTemplates.go, reduceCtorEq, false_iff, not_exists, not_and, List.append_nil]
    intro n hn
    exact absurd (by simpa [List.map_reverse, List.nodup_reverse] using hacc) hn.not_nodup
  | cons t rest ih =>
    rw [ofTemplates.go]
    by_cases hdup : acc.any (·.typeName == t.typeName) = true
    · rw [if_pos hdup]
      -- `t` is the first repeat: the names before it are those of `acc`, all distinct
      have hfirst : FirstRepeat ((acc.reverse ++ t :: rest).map (·.typeName)) t.typeName :=
        ⟨(acc.map (·.typeName)).reverse, rest.map (·.typeName), by simp,
          List.nodup_reverse.mpr hacc, List.mem_reverse.mpr ((any_typeName_iff acc t).mp hdup)⟩
      constructor
      · rintro ⟨⟩
        exact ⟨_, hfirst, rfl⟩
      · rintro ⟨n, hn, rfl⟩
        rw [hn.unique hfirst]
    · rw [if_neg hdup, ih]
      · simp
      · exact List.nodup_cons.mpr ⟨mt (any_typeName_iff acc t).mpr hdup, hacc⟩

theorem ofTemplates_eq_ok_iff {ts : List Template} {cat : Catalogue} :
    ofTemplates ts = .ok cat ↔ (ts.map (·.typeName)).Nodup ∧ cat.templates = ts := by
  rw [ofTemplates, @ofTemplates_go_eq_ok_iff [] ts List.nodup_nil cat]
  simp

theorem ofTemplates_eq_error_iff {ts : List Template} {e : ConfigError} :
    ofTemplates ts = .error e ↔
      ∃ n, FirstRepeat (ts.map (·.typeName)) n ∧ e = .duplicateTemplate n := by
  rw [ofTemplates, @ofTemplates_go_eq_error_iff [] ts List.nodup_nil e]
  simp

theorem typeNames_of_forall₂ {cs : List TemplateConfig} {ts : List Template}
    (h : List.Forall₂ (fun c t => Template.ofConfig c = .ok t) cs ts) :
    ts.map (·.typeName) = cs.map (·.typeName) := by
  induction h with
  | nil => rfl
  | cons hct _ ih => simp [Template.typeName_of_ofConfig hct, ih]

/-- A catalogue is built when every configuration is accepted and no type name is given twice;
it holds their templates in order. -/
theorem ofConfigs_eq_ok_iff {cs : List TemplateConfig} {cat : Catalogue} :
    ofConfigs cs = .ok cat ↔
      List.Forall₂ (fun c t => Template.ofConfig c = .ok t) cs cat.templates ∧
        (cs.map (·.typeName)).Nodup := by
  rw [ofConfigs, Except.bind_eq_ok]
  constructor
  · rintro ⟨ts, hts, hcat⟩
    have hts := Except.mapM_eq_ok_iff.mp hts
    obtain ⟨hnd, hcat⟩ := ofTemplates_eq_ok_iff.mp hcat
    rw [hcat, ← typeNames_of_forall₂ hts]
    exact ⟨hts, hnd⟩
  · rintro ⟨hts, hnd⟩
    refine ⟨cat.templates, Except.mapM_eq_ok_iff.mpr hts, ?_⟩
    rw [← typeNames_of_forall₂ hts] at hnd
    exact ofTemplates_eq_ok_iff.mpr ⟨hnd, rfl⟩

/-- A catalogue is refused with the error of the first configuration refused; only when every
configuration is accepted, with a duplicate for the first type name given twice. -/
theorem ofConfigs_eq_error_iff {cs : List TemplateConfig} {e : ConfigError} :
    ofConfigs cs = .error e ↔
      (∃ pre c post, cs = pre ++ c :: post ∧ (∀ c' ∈ pre, c'.Accepts) ∧
        Template.ofConfig c = .error e) ∨
      ((∀ c ∈ cs, c.Accepts) ∧
        ∃ n, FirstRepeat (cs.map (·.typeName)) n ∧ e = .duplicateTemplate n) := by
  rw [ofConfigs, Except.bind_eq_error, Except.mapM_eq_error_iff]
  simp only [Template.ofConfig_isOk_iff]
  apply or_congr Iff.rfl
  constructor
  · rintro ⟨ts, hts, hcat⟩
    obtain ⟨n, hn, rfl⟩ := ofTemplates_eq_error_iff.mp hcat
    rw [typeNames_of_forall₂ (Except.mapM_eq_ok_iff.mp hts)] at hn
    -- every configuration has its template
    have hall : ∀ c ∈ cs, c.Accepts := fun c hc =>
      Template.ofConfig_isOk_iff.mp (Except.mapM_isOk_iff.mp ⟨ts, hts⟩ c hc)
    exact ⟨hall, n, hn, rfl⟩
  · rintro ⟨hall, n, hn, rfl⟩
    obtain ⟨ts, hts⟩ := Except.mapM_isOk_iff.mpr fun c hc => Template.ofConfig_isOk_iff.mpr (hall c hc)
    refine ⟨ts, hts, ofTemplates_eq_error_iff.mpr ⟨n, ?_, rfl⟩⟩
    rwa [typeNames_of_forall₂ (Except.mapM_eq_ok_iff.mp hts)]

end Catalogue

/-- The checks of template configurations.  A configuration gives a template exactly when it
passes the seven checks, and one whose maps are maps is otherwise refused with the error of the
first check it fails.  Every template built keeps what the checks found, its stored defaults
fixed by coercion.  A catalogue holds the templates of its configurations in order when all are
accepted under distinct type names; otherwise it is refused with the error of the first
configuration refused, or, when all are accepted, for the first type name given twice. -/
theorem template_checks :
    (∀ c : TemplateConfig, (∃ t, Template.ofConfig c = .ok t) ↔ c.Accepts) ∧
    (∀ c : TemplateConfig, c.WellFormed → ∀ e, Template.ofConfig c = .error e ↔ c.Refusal e) ∧
    (∀ c t, Template.ofConfig c = .ok t → t.Checked) ∧
    (∀ cs cat, Catalogue.ofConfigs cs = .ok cat ↔
      List.Forall₂ (fun c t => Template.ofConfig c = .ok t) cs cat.templates ∧
        (cs.map (·.typeName)).Nodup) ∧
    (∀ cs e, Catalogue.ofConfigs cs = .error e ↔
      (∃ pre c post, cs = pre ++ c :: post ∧ (∀ c' ∈ pre, c'.Accepts) ∧
        Template.ofConfig c = .error e) ∨
      ((∀ c ∈ cs, c.Accepts) ∧
        ∃ n, FirstRepeat (cs.map (·.typeName)) n ∧ e = .duplicateTemplate n)) :=
  ⟨fun _ => Template.ofConfig_isOk_iff, fun _ hc _ => Template.ofConfig_eq_error_iff hc,
    fun _ _ h => Template.checked_of_ofConfig h, fun _ _ => Catalogue.ofConfigs_eq_ok_iff,
    fun _ _ => Catalogue.ofConfigs_eq_error_iff⟩

/-- A badge configuration that declares `name` both required and optional. -/
def overlappingBadge : TemplateConfig :=
  ⟨"EmployeeBadge", [("name", .string)], [("name", ⟨.string, .str "Ana"⟩)], "name", "employee",
    some 3600, false, none⟩

/-- The badge configuration is refused, and the refusal the checks give it is the overlap of
`name`. -/
theorem template_checks_overlappingBadge :
    overlappingBadge.WellFormed ∧
      Template.ofConfig overlappingBadge = .error (.overlappingField "EmployeeBadge" "name") ∧
      overlappingBadge.Refusal (.overlappingField "EmployeeBadge" "name") := by
  have hw : overlappingBadge.WellFormed :=
    ⟨by decide, by decide, by simp [overlappingBadge, Json.WellFormed]⟩
  have hof : Template.ofConfig overlappingBadge =
      .error (.overlappingField "EmployeeBadge" "name") := by
    rfl
  exact ⟨hw, hof, (template_checks.2.1 overlappingBadge hw _).mp hof⟩

end Attest
