import Attest.Proofs.CanonicalRead

/-!
# The canonical form of a value

`Json.canonical` gives a well-formed value without doubles its canonical text, and refuses any
other value with the first double of a depth-first walk.  This module says what the text is and
that it determines the value:

* arrays are written item by item, and objects member by member in strictly ascending order of
  the members' *written* names, the quoted and escaped texts (`canonicalText_obj_written`),
  which is the order of the names exactly when quoting keeps it
  (`Members.WrittenSorted.sorted_iff`);
* a JSON reader given the text gives the value back, so two values with one canonical text are
  equal (`canonical_injective`);
* the double reported is the first met walking items in order and members in name order
  (`canonical_eq_error_iff`).

The order of written names is not the order of the names: the closing quote of `"a"` sorts
after the `!` of `"a!"`, and every escaped character sorts as its backslash, so the space comes
before U+0000.  `canonical_orders_by_written_name` shows the first case.  The main statement is
`canonical_form`.
-/

namespace Attest

namespace Json

/-! ## Written names -/

/-- A written name determines the name: the reader takes the quotes and escapes off again. -/
theorem quote_injective : Function.Injective quote := by
  intro a b h
  have hchars : a.toList.flatMap escapeChar = b.toList.flatMap escapeChar := by
    simpa [toList_quote] using congrArg String.toList h
  have ha := readString_escaped a []
  rw [hchars, readString_escaped b []] at ha
  exact (Prod.mk.inj (Except.ok.inj ha)).1.symm

/-- Members in strictly ascending order of their written names, the order of canonical
objects. -/
def Members.WrittenSorted (ws : Members) : Prop :=
  (ws.map fun m => quote m.1).Pairwise (· < ·)

/-- A reordering of members with distinct names whose written names ascend weakly ascends
strictly: distinct names have distinct written names. -/
theorem Members.writtenSorted_of_perm {ws ms : Members} (hnd : ms.names.Nodup) (hp : ws.Perm ms)
    (hle : (ws.map fun m => quote m.1).Pairwise (· ≤ ·)) : ws.WrittenSorted := by
  have hnd' : (ws.map fun m => quote m.1).Nodup := by
    have hquoted : ((ws.map Prod.fst).map quote).Nodup :=
      List.Pairwise.map quote (fun _ _ hne heq => hne (quote_injective heq))
        ((hp.map Prod.fst).nodup_iff.mpr hnd)
    simpa only [List.map_map, Function.comp_def] using hquoted
  exact (hle.and hnd').imp fun h => lt_of_le_of_ne h.1 h.2

/-- Sorting members by their written names, as canonical text does, orders them strictly when
no name occurs twice. -/
theorem writtenSorted_mergeSort {ms : Members} (hnd : ms.names.Nodup) :
    Members.WrittenSorted (ms.mergeSort fun a b => decide (quote a.1 ≤ quote b.1)) := by
  have hsorted := @List.pairwise_mergeSort (String × Json)
    (fun a b => decide (quote a.1 ≤ quote b.1))
    (fun a b c hab hbc => by
      simp only [decide_eq_true_eq] at hab hbc ⊢
      exact le_trans hab hbc)
    (fun a b => by
      simpa only [Bool.or_eq_true, decide_eq_true_eq] using le_total (quote a.1) (quote b.1))
    ms
  exact Members.writtenSorted_of_perm hnd (List.mergeSort_perm _ _)
    (List.pairwise_map.mpr (hsorted.imp fun h => by simpa using h))

/-- An object is written as its members in strictly ascending order of their written names,
each as its written name, a colon and the canonical text of its value. -/
theorem canonicalText_obj_written {ms : Members} (hnd : ms.names.Nodup) :
    ∃ ws : Members, ws.Perm ms ∧ ws.WrittenSorted ∧ canonicalText (.obj ms) =
      "\x7b" ++ joinCommas (ws.map fun m => quote m.1 ++ ":" ++ canonicalText m.2) ++ "\x7d" :=
  ⟨_, List.mergeSort_perm _ _, writtenSorted_mergeSort hnd, canonicalText_obj_eq ms⟩

/-- Members in strictly ascending order of written names are in ascending order of names
exactly when quoting keeps the order of their names. -/
theorem Members.WrittenSorted.sorted_iff {ws : Members} (h : ws.WrittenSorted) :
    ws.Sorted ↔ ∀ a ∈ ws.names, ∀ b ∈ ws.names, a < b → quote a < quote b := by
  unfold Members.WrittenSorted at h
  unfold Members.Sorted Members.names
  rw [List.pairwise_map] at h ⊢
  constructor
  · intro hs
    -- along the list each order puts the earlier member first, so the two agree on any pair
    have hwritten : ws.Pairwise fun x y => x.1 < y.1 → quote x.1 < quote y.1 :=
      h.imp fun {x y} hq => fun (_ : x.1 < y.1) => hq
    have hagree : ∀ x ∈ ws, ∀ y ∈ ws, x.1 < y.1 → quote x.1 < quote y.1 :=
      List.Pairwise.forall_of_forall_of_flip (fun _ _ hxx => absurd hxx (lt_irrefl _)) hwritten
        (hs.imp fun hlt hgt => absurd hgt (lt_asymm hlt))
    intro a ha b hb hab
    obtain ⟨x, hx, rfl⟩ := List.mem_map.mp ha
    obtain ⟨y, hy, rfl⟩ := List.mem_map.mp hb
    exact hagree x hx y hy hab
  · intro hmono
    refine h.imp_of_mem fun {x y} hx hy hq => ?_
    rcases lt_trichotomy x.1 y.1 with hlt | heq | hgt
    · exact hlt
    · rw [heq] at hq
      exact absurd hq (lt_irrefl _)
    · exact absurd (hmono _ (List.mem_map_of_mem hy) _ (List.mem_map_of_mem hx) hgt) (lt_asymm hq)

/-- An array is written as its items in order, each as its canonical text. -/
theorem canonicalText_arr (xs : List Json) :
    canonicalText (.arr xs) = "[" ++ joinCommas (xs.map canonicalText) ++ "]" := by
  rw [canonicalText, canonicalItems_eq_map]

/-- The canonical form does not follow the order of the names: `"a!"` is written before
`"a"`. -/
theorem canonical_orders_by_written_name :
    canonical (.obj [("a", .num (.int 1)), ("a!", .num (.int 2))]) =
      .ok "\x7b\"a!\":2,\"a\":1\x7d" := by
  have hw : WellFormed (.obj [("a", .num (.int 1)), ("a!", .num (.int 2))]) :=
    (wellFormed_obj_iff _).mpr ⟨by decide, by simp [WellFormed, intMin, intMax]⟩
  rw [canonical_eq_ok_iff hw]
  refine ⟨rfl, ?_⟩
  -- the two written names compare at their third character, a quote against `!`
  rw [canonicalText_obj_eq]
  simp [List.mergeSort, quote, escapeChar]
  simp only [joinCommas, canonicalText_int]
  decide

/-! ## The text determines the value -/

/-- Two well-formed values with one canonical form are equal. -/
theorem canonical_injective {j j' : Json} (hw : j.WellFormed) (hw' : j'.WellFormed)
    {text : String} (h : canonical j = .ok text) (h' : canonical j' = .ok text) : j = j' := by
  obtain ⟨hf, rfl⟩ := (canonical_eq_ok_iff hw).mp h
  obtain ⟨hf', htext⟩ := (canonical_eq_ok_iff hw').mp h'
  -- read the one text with room for both values
  have hread := readCharsWithin_canonicalText hw hf
    (Nat.lt_succ_of_le (le_max_left j.nesting j'.nesting))
  have hread' := readCharsWithin_canonicalText hw' hf'
    (Nat.lt_succ_of_le (le_max_right j.nesting j'.nesting))
  rw [← htext, hread] at hread'
  exact Except.ok.inj hread'

/-- A well-formed value is refused exactly for its first double, items in order and members in
name order. -/
theorem canonical_eq_error_iff {j : Json} (hw : j.WellFormed) {e : CanonicalError} :
    canonical j = .error e ↔ ∃ x, firstFloat? j = some x ∧ e = .floatRejected x := by
  rw [canonical, sorted_eq_self j hw]
  cases firstFloat? j with
  | none => simp
  | some x => simp [eq_comm]

/-- The canonical form of a well-formed value.  Without doubles its canonical form is its
canonical text, and a JSON reader allowed to open more arrays and objects than the value nests
reads the value back from it, so no other value shares it.  An array is written item by item;
an object member by member in strictly ascending order of written names, which is the order of
the names exactly when quoting keeps the order of the object's names.  A value with a double is
refused with the first double of the depth-first walk. -/
theorem canonical_form (j : Json) (hw : j.WellFormed) :
    (firstFloat? j = none →
      canonical j = .ok (canonicalText j) ∧
        ∀ limit, j.nesting < limit → readCharsWithin limit (canonicalText j).toList = .ok j) ∧
    (∀ j' : Json, j'.WellFormed → ∀ text, canonical j = .ok text → canonical j' = .ok text →
      j = j') ∧
    (∀ xs, j = .arr xs → canonicalText j = "[" ++ joinCommas (xs.map canonicalText) ++ "]") ∧
    (∀ ms : Members, j = .obj ms → ∃ ws : Members, ws.Perm ms ∧ ws.WrittenSorted ∧
      canonicalText j =
        "\x7b" ++ joinCommas (ws.map fun m => quote m.1 ++ ":" ++ canonicalText m.2) ++ "\x7d" ∧
      (ws.Sorted ↔ ∀ a ∈ ms.names, ∀ b ∈ ms.names, a < b → quote a < quote b)) ∧
    (∀ x, firstFloat? j = some x → canonical j = .error (.floatRejected x)) := by
  refine ⟨fun hf => ⟨(canonical_eq_ok_iff hw).mpr ⟨hf, rfl⟩,
      fun _ hl => readCharsWithin_canonicalText hw hf hl⟩,
    fun j' hw' _ h h' => canonical_injective hw hw' h h', ?_, ?_,
    fun x hx => (canonical_eq_error_iff hw).mpr ⟨x, hx, rfl⟩⟩
  · rintro xs rfl
    exact canonicalText_arr xs
  · rintro ms rfl
    obtain ⟨ws, hperm, hws, htext⟩ := canonicalText_obj_written ((wellFormed_obj_iff ms).mp hw).1.nodup
    have hnames : ∀ a, a ∈ ws.names ↔ a ∈ ms.names := fun a => (hperm.map Prod.fst).mem_iff
    refine ⟨ws, hperm, hws, htext, ?_⟩
    rw [Members.WrittenSorted.sorted_iff hws]
    simp only [hnames]

/-- An object whose names keep their order when quoted is written in the order of its names. -/
theorem canonical_form_in_name_order :
    WellFormed (.obj [("a", .num (.int 1)), ("b", .num (.int 2))]) ∧
      canonical (.obj [("a", .num (.int 1)), ("b", .num (.int 2))]) =
        .ok (canonicalText (.obj [("a", .num (.int 1)), ("b", .num (.int 2))])) := by
  have hw : WellFormed (.obj [("a", .num (.int 1)), ("b", .num (.int 2))]) :=
    (wellFormed_obj_iff _).mpr ⟨by decide, by simp [WellFormed, intMin, intMax]⟩
  exact ⟨hw, ((canonical_form _ hw).1 rfl).1⟩

end Json

end Attest
