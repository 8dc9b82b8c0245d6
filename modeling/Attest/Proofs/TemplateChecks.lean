import Attest.Credential.Vault
import Attest.Proofs.Objects

/-!
# What the template checks establish

`Template.ofConfig` refuses a configuration at the first check it fails, so a template that
exists has passed all of them.  `Template.Valid` names what issuance relies on:

* the field maps are maps: names in strictly ascending order, as configuration maps are;
* no field is both required and optional, and none is named `jti`;
* the subject field is declared;
* the namespace has a first name, and it is no registered claim;
* every default is the coercion of a well-formed value to its field's type.

`Template.valid_of_ofConfig` proves it of every checked template whose configuration maps
are maps, and `Vault.valid_of_ofConfig` of every template of a vault that was built.
Coercion never gives a double and keeps values well formed, which is why a default can
always be written in a canonical payload.
-/

namespace Attest

/-! ## Inverting `Except` computations -/

theorem Except.bind_eq_ok {ε α β : Type} {x : Except ε α} {f : α → Except ε β} {b : β} :
    x >>= f = .ok b ↔ ∃ a, x = .ok a ∧ f a = .ok b := by
  cases x <;> simp [bind, Except.bind]

theorem Except.bind_eq_error {ε α β : Type} {x : Except ε α} {f : α → Except ε β} {e : ε} :
    x >>= f = .error e ↔ x = .error e ∨ ∃ a, x = .ok a ∧ f a = .error e := by
  cases x <;> simp [bind, Except.bind]

theorem Except.mapError_eq_ok {ε ε' α : Type} {x : Except ε α} {g : ε → ε'} {a : α} :
    x.mapError g = .ok a ↔ x = .ok a := by
  cases x <;> simp [Except.mapError]

/-! ## Coercion -/

namespace FieldType

theorem coerce_eq_ok {t : FieldType} {field : String} {v j : Json} :
    t.coerce field v = .ok j ↔ t.coerce? v = some j := by
  unfold coerce
  cases t.coerce? v <;> simp

theorem coerce_eq_error {t : FieldType} {field : String} {v : Json} {e : IssuanceError} :
    t.coerce field v = .error e ↔
      t.coerce? v = none ∧ e = .typeMismatch field t.name v.compact := by
  unfold coerce
  cases t.coerce? v <;> simp [eq_comm]

/-- Text read as an integer lies in the 64-bit range. -/
theorem integerOfText?_bounds {s : String} {i : Int} (h : integerOfText? s = some i) :
    Json.intMin ≤ i ∧ i ≤ Json.intMax := by
  unfold integerOfText? at h
  simp only at h
  split at h
  · have hmax : Int.pow 2 63 ≤ Json.intMax := by decide
    split_ifs at h with h1 h2 <;> cases h
    · exact ⟨h1.1, by omega⟩
    · exact ⟨le_trans (by decide) h2.1, h2.2⟩
  · cases h

/-- What coercion gives: a string, a boolean, or an integer that is the value itself or lies
in the 64-bit range. -/
theorem coerce?_eq_some_cases {t : FieldType} {v j : Json} (h : t.coerce? v = some j) :
    (∃ s, j = .str s) ∨ (∃ b, j = .bool b) ∨
      ∃ i, j = .num (.int i) ∧ (v = .num (.int i) ∨ Json.intMin ≤ i ∧ i ≤ Json.intMax) := by
  unfold coerce? at h
  split at h
  · cases h
    exact .inl ⟨_, rfl⟩
  · cases h
    exact .inl ⟨_, rfl⟩
  · cases h
    exact .inl ⟨_, rfl⟩
  · cases h
    exact .inr (.inr ⟨_, rfl, .inl rfl⟩)
  · obtain ⟨i, hi, rfl⟩ := Option.map_eq_some_iff.mp h
    exact .inr (.inr ⟨i, rfl, .inr (integerOfText?_bounds hi)⟩)
  · cases h
    exact .inr (.inl ⟨_, rfl⟩)
  · simp only at h
    split_ifs at h <;> cases h <;> exact .inr (.inl ⟨_, rfl⟩)
  · obtain ⟨d, -, rfl⟩ := Option.map_eq_some_iff.mp h
    exact .inl ⟨_, rfl⟩
  · cases h

/-- Coercion never gives a double. -/
theorem firstFloat?_of_coerce? {t : FieldType} {v j : Json} (h : t.coerce? v = some j) :
    Json.firstFloat? j = none := by
  rcases coerce?_eq_some_cases h with ⟨s, rfl⟩ | ⟨b, rfl⟩ | ⟨i, rfl, -⟩ <;> rfl

/-- Coercion of a well-formed value gives a well-formed value. -/
theorem wellFormed_of_coerce? {t : FieldType} {v j : Json} (hv : v.WellFormed)
    (h : t.coerce? v = some j) : j.WellFormed := by
  rcases coerce?_eq_some_cases h with ⟨s, rfl⟩ | ⟨b, rfl⟩ | ⟨i, rfl, rfl | hi⟩
  · trivial
  · trivial
  · exact hv
  · exact hi

end FieldType

/-! ## Valid templates -/

/-- A configuration whose field maps are maps (names strictly ascending, as a configuration
document's maps are read) and whose defaults are well-formed values. -/
def TemplateConfig.WellFormed (c : TemplateConfig) : Prop :=
  (c.required.map (·.1)).Pairwise (· < ·) ∧ (c.optional.map (·.1)).Pairwise (· < ·) ∧
    ∀ f o, (f, o) ∈ c.optional → o.default.WellFormed

/-- What the checks of a template establish, and issuance relies on. -/
structure Template.Valid (t : Template) : Prop where
  requiredSorted : (t.required.map (·.1)).Pairwise (· < ·)
  optionalSorted : (t.optional.map (·.1)).Pairwise (· < ·)
  disjoint : ∀ f ∈ t.required.map (·.1), f ∉ t.optional.map (·.1)
  idUndeclared : t.declares credentialIdField = false
  subjectDeclared : t.declares t.subjectField = true
  pathHead : ∃ first rest, t.claimPath = first :: rest ∧ first ∉ registeredClaims
  defaultsCoerced : ∀ f o, (f, o) ∈ t.optional →
    ∃ raw : Json, raw.WellFormed ∧ o.fieldType.coerce? raw = some o.default

namespace Template

theorem Valid.requiredNodup {t : Template} (ht : t.Valid) : (t.required.map (·.1)).Nodup :=
  ht.requiredSorted.imp ne_of_lt

theorem Valid.optionalNodup {t : Template} (ht : t.Valid) : (t.optional.map (·.1)).Nodup :=
  ht.optionalSorted.imp ne_of_lt

theorem splitOnAux_ne_nil (s sep : String) (b i j : String.Pos.Raw) (r : List String) :
    String.splitOnAux s sep b i j r ≠ [] := by
  fun_induction String.splitOnAux s sep b i j r <;> simp_all

theorem splitOn_ne_nil (s sep : String) : s.splitOn sep ≠ [] := by
  unfold String.splitOn
  split
  · simp
  · exact splitOnAux_ne_nil _ _ _ _ _ _

/-- A namespace that is accepted has a first name, and it is no registered claim. -/
theorem parseNamespace_eq_ok {template ns : String} {path : List String}
    (h : parseNamespace template ns = .ok path) :
    ∃ first rest, path = first :: rest ∧ first ∉ registeredClaims := by
  unfold parseNamespace at h
  simp only at h
  split at h
  · cases h
  · split at h
    · rename_i first rest hsplit
      split at h
      · cases h
      · rename_i hreg
        cases h
        exact ⟨first, rest, hsplit, fun hm => hreg (List.elem_iff.mpr hm)⟩
    · exact absurd ‹_› (splitOn_ne_nil ns ".")

/-- Coercing the defaults keeps the names, and each default is its configured value coerced
to its type. -/
theorem coerceDefaults_eq_ok {template : String} {cs : List (String × OptionalFieldConfig)}
    {os : List (String × OptionalField)} (h : coerceDefaults template cs = .ok os) :
    os.map (·.1) = cs.map (·.1) ∧
      ∀ f o, (f, o) ∈ os → ∃ cfg, (f, cfg) ∈ cs ∧ o.fieldType = cfg.fieldType ∧
        cfg.fieldType.coerce? cfg.default = some o.default := by
  induction cs generalizing os with
  | nil =>
      cases h
      simp
  | cons p rest ih =>
      obtain ⟨field, cfg⟩ := p
      simp only [coerceDefaults, Except.bind_eq_ok, Except.mapError_eq_ok,
        FieldType.coerce_eq_ok] at h
      obtain ⟨d, hd, more, hmore, hos⟩ := h
      cases hos
      obtain ⟨hnames, hdefs⟩ := ih hmore
      refine ⟨by simp [hnames], ?_⟩
      intro f o hmem
      rcases List.mem_cons.mp hmem with heq | hmem
      · cases heq
        exact ⟨cfg, List.mem_cons_self, rfl, hd⟩
      · obtain ⟨c', hc', hty, hco⟩ := hdefs f o hmem
        exact ⟨c', List.mem_cons_of_mem _ hc', hty, hco⟩

/-- What a checked template is made of. -/
theorem ofConfig_eq_ok {c : TemplateConfig} {t : Template} (h : ofConfig c = .ok t) :
    c.required.find? (fun (f, _) => (c.optional.lookup f).isSome) = none ∧
      (c.required.map (·.1) ++ c.optional.map (·.1)).find? (· == credentialIdField) = none ∧
      ¬((c.required.lookup c.subjectField).isNone &&
        (c.optional.lookup c.subjectField).isNone) = true ∧
      ∃ path opt, parseNamespace c.typeName c.claimNamespace = .ok path ∧
        coerceDefaults c.typeName c.optional = .ok opt ∧
        t = ⟨c.typeName, c.required, opt, c.subjectField, path, c.validitySecs,
          c.allowUnknownFields, c.rules⟩ := by
  unfold ofConfig at h
  by_cases hdeg : (c.required.isEmpty && c.optional.isEmpty) = true
  · simp [hdeg, throw, throwThe, MonadExceptOf.throw, bind, Except.bind] at h
  cases hov : c.required.find? (fun (f, _) => (c.optional.lookup f).isSome) with
  | some p => simp [hdeg, hov, throw, throwThe, MonadExceptOf.throw, bind, Except.bind] at h
  | none =>
  cases hres : (c.required.map (·.1) ++ c.optional.map (·.1)).find? (· == credentialIdField) with
  | some f => simp [hdeg, hov, hres, throw, throwThe, MonadExceptOf.throw, bind, Except.bind] at h
  | none =>
  by_cases hsub : ((c.required.lookup c.subjectField).isNone &&
      (c.optional.lookup c.subjectField).isNone) = true
  · simp [hdeg, hov, hres, hsub, throw, throwThe, MonadExceptOf.throw, bind, Except.bind] at h
  cases hns : parseNamespace c.typeName c.claimNamespace with
  | error e => simp [hdeg, hov, hres, hsub, hns, bind, Except.bind] at h
  | ok path =>
  cases hdef : coerceDefaults c.typeName c.optional with
  | error e => simp [hdeg, hov, hres, hsub, hns, hdef, bind, Except.bind] at h
  | ok opt =>
  simp only [hdeg, hov, hres, hsub, hns, hdef, Bool.false_eq_true, if_false, bind,
    Except.bind] at h
  refine ⟨rfl, rfl, hsub, path, opt, rfl, rfl, ?_⟩
  -- only the rules remain: a schema that does not compile is refused
  split at h
  · split at h
    · simp [throw, throwThe, MonadExceptOf.throw] at h
    · cases h; rfl
  · cases h; rfl

theorem lookup_isSome_iff {α : Type} (xs : List (String × α)) (k : String) :
    (xs.lookup k).isSome ↔ k ∈ xs.map (·.1) := by
  rw [List.lookup_isSome_iff, List.mem_map]
  simp only [beq_iff_eq]
  constructor <;> rintro ⟨p, hp, rfl⟩ <;> exact ⟨p, hp, rfl⟩

theorem declares_iff (t : Template) (k : String) :
    t.declares k = true ↔ k ∈ t.required.map (·.1) ∨ k ∈ t.optional.map (·.1) := by
  simp [declares, ← lookup_isSome_iff]

/-- Every template that the checks accept, from a configuration whose maps are maps, is
valid. -/
theorem valid_of_ofConfig {c : TemplateConfig} {t : Template} (hc : c.WellFormed)
    (h : ofConfig c = .ok t) : t.Valid := by
  obtain ⟨hov, hres, hsub, path, opt, hns, hdef, rfl⟩ := ofConfig_eq_ok h
  obtain ⟨hreqSorted, hoptSorted, hdefaults⟩ := hc
  obtain ⟨hnames, hcoerced⟩ := coerceDefaults_eq_ok hdef
  -- the three refusals, read as facts about the field names
  have hdisj : ∀ f ∈ c.required.map (·.1), f ∉ c.optional.map (·.1) := by
    intro f hf hopt
    obtain ⟨⟨f', ty⟩, hmem, rfl⟩ := List.mem_map.mp hf
    have hnone := List.find?_eq_none.mp hov (f', ty) hmem
    rw [← lookup_isSome_iff] at hopt
    exact hnone hopt
  have hid : credentialIdField ∉ c.required.map (·.1) ++ c.optional.map (·.1) := by
    intro hm
    have hnone := List.find?_eq_none.mp hres _ hm
    simp at hnone
  have hsubj : c.subjectField ∈ c.required.map (·.1) ∨ c.subjectField ∈ c.optional.map (·.1) := by
    rw [← lookup_isSome_iff, ← lookup_isSome_iff]
    cases hr : c.required.lookup c.subjectField <;> cases ho : c.optional.lookup c.subjectField <;>
      simp [hr, ho] at hsub ⊢
  refine ⟨hreqSorted, by rw [hnames]; exact hoptSorted, ?_, ?_, ?_, parseNamespace_eq_ok hns, ?_⟩
  · rw [hnames]
    exact hdisj
  · rw [Bool.eq_false_iff, ne_eq, declares_iff]
    simpa [hnames] using hid
  · rw [declares_iff]
    simpa [hnames] using hsubj
  · intro f o hmem
    obtain ⟨cfg, hcfg, hty, hco⟩ := hcoerced f o hmem
    exact ⟨cfg.default, hdefaults f cfg hcfg, hty ▸ hco⟩

end Template

/-! ## Catalogues and vaults -/

namespace Catalogue

theorem mem_of_ofTemplates_go {acc ts : List Template} {cat : Catalogue}
    (h : ofTemplates.go acc ts = .ok cat) {t : Template} (ht : t ∈ cat.templates) :
    t ∈ acc ∨ t ∈ ts := by
  induction ts generalizing acc with
  | nil =>
      cases h
      exact Or.inl (List.mem_reverse.mp ht)
  | cons t' rest ih =>
      unfold ofTemplates.go at h
      split at h
      · cases h
      · rcases ih h with hm | hm
        · rcases List.mem_cons.mp hm with rfl | hm
          · exact Or.inr List.mem_cons_self
          · exact Or.inl hm
        · exact Or.inr (List.mem_cons_of_mem _ hm)

/-- Every template of a built catalogue is the checked form of one of its configurations. -/
theorem mem_of_ofConfigs {cs : List TemplateConfig} {cat : Catalogue} (h : ofConfigs cs = .ok cat)
    {t : Template} (ht : t ∈ cat.templates) : ∃ c ∈ cs, Template.ofConfig c = .ok t := by
  simp only [ofConfigs, Except.bind_eq_ok] at h
  obtain ⟨ts, hts, hcat⟩ := h
  have hmem : t ∈ ts := by
    rcases mem_of_ofTemplates_go hcat ht with hm | hm
    · cases hm
    · exact hm
  clear hcat ht
  induction cs generalizing ts with
  | nil =>
      simp only [List.mapM_nil, pure, Except.pure, Except.ok.injEq] at hts
      subst hts
      cases hmem
  | cons c rest ih =>
      simp only [List.mapM_cons, Except.bind_eq_ok, pure, Except.pure, Except.ok.injEq] at hts
      obtain ⟨t', ht', ts', hts', rfl⟩ := hts
      rcases List.mem_cons.mp hmem with rfl | hm
      · exact ⟨c, List.mem_cons_self, ht'⟩
      · obtain ⟨c', hc', hok⟩ := ih ts' hts' hm
        exact ⟨c', List.mem_cons_of_mem _ hc', hok⟩

theorem mem_of_resolve {cat : Catalogue} {name : String} {t : Template}
    (h : cat.resolve name = some t) : t ∈ cat.templates :=
  List.mem_of_find?_eq_some h

end Catalogue

/-- A vault configuration whose template configurations all have maps for field maps and
well-formed defaults. -/
def VaultConfig.WellFormed (c : VaultConfig) : Prop := ∀ t ∈ c.templates, t.WellFormed

/-- Every template of the vault passed its checks. -/
def Vault.Valid (v : Vault) : Prop := ∀ t ∈ v.catalogue.templates, t.Valid

/-- A vault that is built holds only valid templates. -/
theorem Vault.valid_of_ofConfig {c : VaultConfig} {env : String → Option String} {v : Vault}
    {events : List LogEvent} (hc : c.WellFormed) (h : Vault.ofConfig c env = .ok (v, events)) :
    v.Valid := by
  simp only [Vault.ofConfig, Except.bind_eq_ok] at h
  obtain ⟨keys, -, store, -, cat, hcat, hv⟩ := h
  cases hv
  intro t ht
  obtain ⟨tc, htc, hok⟩ := Catalogue.mem_of_ofConfigs hcat ht
  exact Template.valid_of_ofConfig (hc tc htc) hok

theorem Vault.Valid.resolve {v : Vault} (hv : v.Valid) {name : String} {t : Template}
    (h : v.catalogue.resolve name = some t) : t.Valid :=
  hv t (Catalogue.mem_of_resolve h)

end Attest
