import Attest.Canonical
import Mathlib.Data.String.Basic

/-!
# JSON objects as sorted maps

An object that a reader builds, or that `Json.Members.insert` and `Json.Members.ofList` build,
lists its members in strictly ascending name order.  Such a member list is a map: a name
occurs once, `get?` finds its value, and two sorted lists with the same lookups are equal.

The shape of every value a JSON reader can give is `Json.WellFormed`: integers in the
64-bit range and every object sorted, at every depth.  Doubles are allowed; the facts about
values without doubles (`firstFloat? j = none`) are gathered at the end.
-/

namespace Attest
namespace Json
namespace Members

@[simp] theorem names_nil : names [] = [] := rfl

@[simp] theorem names_cons (k : String) (v : Json) (ms : Members) :
    names ((k, v) :: ms) = k :: ms.names := rfl

@[simp] theorem names_append (ms ns : Members) : names (ms ++ ns) = ms.names ++ ns.names := by
  simp [names]

@[simp] theorem get?_nil (k : String) : Members.get? [] k = none := rfl

@[simp] theorem get?_cons (k' k : String) (w : Json) (ms : Members) :
    Members.get? ((k', w) :: ms) k = if k' = k then some w else ms.get? k := by
  by_cases h : k' = k <;> simp [Members.get?, h]

theorem get?_append (ms ns : Members) (k : String) :
    Members.get? (ms ++ ns) k = (ms.get? k).or (ns.get? k) := by
  induction ms with
  | nil => simp
  | cons m rest ih =>
      obtain ⟨k', w⟩ := m
      by_cases h : k' = k <;> simp [h, ih]

@[simp] theorem sorted_nil : Sorted [] := List.Pairwise.nil

@[simp] theorem sorted_cons_iff (k : String) (v : Json) (ms : Members) :
    Sorted ((k, v) :: ms) ↔ (∀ n ∈ ms.names, k < n) ∧ Sorted ms := by
  simp only [Sorted, names_cons, List.pairwise_cons]

theorem mem_names_iff_get?_isSome (ms : Members) (k : String) :
    k ∈ ms.names ↔ (ms.get? k).isSome := by
  induction ms with
  | nil => simp
  | cons m rest ih =>
      obtain ⟨k', w⟩ := m
      by_cases h : k' = k
      · subst h
        simp
      · simp [h, Ne.symm h, ih]

theorem get?_eq_none_of_not_mem {ms : Members} {k : String} (h : k ∉ ms.names) :
    ms.get? k = none := by
  simpa [mem_names_iff_get?_isSome] using h

theorem mem_names_of_mem {ms : Members} {k : String} {v : Json} (h : (k, v) ∈ ms) :
    k ∈ ms.names :=
  List.mem_map.mpr ⟨(k, v), h, rfl⟩

/-- In a member list with no name twice, a lookup finds exactly the members. -/
theorem get?_eq_some_iff_mem {ms : Members} (hnd : ms.names.Nodup) {k : String} {v : Json} :
    ms.get? k = some v ↔ (k, v) ∈ ms := by
  induction ms with
  | nil => simp
  | cons m rest ih =>
      obtain ⟨k', w⟩ := m
      simp only [names_cons, List.nodup_cons] at hnd
      by_cases h : k' = k
      · subst h
        have hrest : (k', v) ∉ rest := fun hm => hnd.1 (mem_names_of_mem hm)
        simp [hrest, eq_comm]
      · simp [h, ih hnd.2, Ne.symm h]

theorem Sorted.nodup {ms : Members} (h : ms.Sorted) : ms.names.Nodup :=
  h.imp ne_of_lt

theorem Sorted.get?_eq_some_iff_mem {ms : Members} (h : ms.Sorted) {k : String} {v : Json} :
    ms.get? k = some v ↔ (k, v) ∈ ms :=
  Members.get?_eq_some_iff_mem h.nodup

/-- Lookups do not see the order of a member list with no name twice. -/
theorem get?_eq_of_perm {ms ns : Members} (hp : ms.Perm ns) (hnd : ms.names.Nodup) (k : String) :
    ms.get? k = ns.get? k := by
  have hnd' : ns.names.Nodup := (hp.map Prod.fst).nodup_iff.mp hnd
  cases hm : ms.get? k with
  | none =>
      have hk : k ∉ ms.names := by simpa [mem_names_iff_get?_isSome] using hm
      have hk' : k ∉ ns.names := fun hn => hk ((hp.map Prod.fst).mem_iff.mpr hn)
      exact (get?_eq_none_of_not_mem hk').symm
  | some v =>
      have hmem : (k, v) ∈ ms := (get?_eq_some_iff_mem hnd).mp hm
      exact ((get?_eq_some_iff_mem hnd').mpr (hp.mem_iff.mp hmem)).symm

/-! ## Insertion -/

@[simp] theorem get?_insert (name k : String) (v : Json) (ms : Members) :
    (insert name v ms).get? k = if name = k then some v else ms.get? k := by
  induction ms with
  | nil => simp [insert]
  | cons m rest ih =>
      obtain ⟨k', w⟩ := m
      simp only [insert]
      by_cases hlt : name < k'
      · simp [hlt]
      · by_cases heq : name = k'
        · subst heq
          by_cases h : name = k <;> simp [h]
        · by_cases h : k' = k
          · subst h
            simp [hlt, heq]
          · simp [hlt, heq, h, ih]

theorem mem_insert {name : String} {v : Json} {ms : Members} {m : String × Json}
    (h : m ∈ insert name v ms) : m = (name, v) ∨ m ∈ ms := by
  induction ms with
  | nil => simpa [insert] using h
  | cons x rest ih =>
      obtain ⟨k', w⟩ := x
      simp only [insert] at h
      split_ifs at h <;> grind

theorem mem_names_insert (name k : String) (v : Json) (ms : Members) :
    k ∈ (insert name v ms).names ↔ k = name ∨ k ∈ ms.names := by
  simp only [mem_names_iff_get?_isSome, get?_insert]
  by_cases h : name = k
  · subst h
    simp
  · simp [h, Ne.symm h]

/-! ## Building a map from a list -/

theorem get?_foldl_insert (ms acc : Members) (k : String) :
    (ms.foldl (fun acc m => Members.insert m.1 m.2 acc) acc).get? k =
      (Members.get? ms.reverse k).or (acc.get? k) := by
  induction ms generalizing acc with
  | nil => simp
  | cons m rest ih =>
      obtain ⟨k', w⟩ := m
      rw [List.foldl_cons, ih, List.reverse_cons, get?_append]
      by_cases h : k' = k <;> simp [h]

/-- Of two members with one name, the later wins. -/
theorem get?_ofList (ms : Members) (k : String) :
    (ofList ms).get? k = Members.get? ms.reverse k := by
  simpa [ofList] using get?_foldl_insert ms [] k

theorem mem_names_ofList (ms : Members) (k : String) : k ∈ (ofList ms).names ↔ k ∈ ms.names := by
  rw [mem_names_iff_get?_isSome, get?_ofList, ← mem_names_iff_get?_isSome]
  simp [names]

theorem mem_foldl_insert {ms acc : Members} {m : String × Json}
    (h : m ∈ ms.foldl (fun acc m => Members.insert m.1 m.2 acc) acc) : m ∈ acc ∨ m ∈ ms := by
  induction ms generalizing acc with
  | nil => exact Or.inl h
  | cons x rest ih =>
      rcases ih h with hm | hm
      · rcases mem_insert hm with rfl | hm
        · exact Or.inr List.mem_cons_self
        · exact Or.inl hm
      · exact Or.inr (List.mem_cons_of_mem _ hm)

theorem mem_ofList {ms : Members} {m : String × Json} (h : m ∈ ofList ms) : m ∈ ms := by
  simpa using mem_foldl_insert h

/-! ## Sorted member lists are determined by their lookups -/

theorem Sorted.get?_head_lt {k : String} {v : Json} {ms : Members} (h : Sorted ((k, v) :: ms))
    {n : String} (hn : n ≤ k) : ms.get? n = none :=
  get?_eq_none_of_not_mem fun hm => absurd ((sorted_cons_iff k v ms).mp h |>.1 n hm) (not_lt.mpr hn)

/-- Two sorted member lists with the same lookups are the same list. -/
theorem Sorted.ext {ms ns : Members} (hm : ms.Sorted) (hn : ns.Sorted)
    (h : ∀ k, ms.get? k = ns.get? k) : ms = ns := by
  induction ms generalizing ns with
  | nil =>
      cases ns with
      | nil => rfl
      | cons n rest =>
          obtain ⟨k, v⟩ := n
          simpa using h k
  | cons m rest ih =>
      obtain ⟨k, v⟩ := m
      cases ns with
      | nil => simpa using (h k).symm
      | cons n rest' =>
          obtain ⟨k', v'⟩ := n
          -- the smaller head name is found in one list and not in the other
          have hkk : k = k' := by
            rcases lt_trichotomy k k' with hlt | heq | hgt
            · have := h k
              simp [hn.get?_head_lt hlt.le, hlt.ne'] at this
            · exact heq
            · have := h k'
              simp [hm.get?_head_lt hgt.le, hgt.ne'] at this
          subst hkk
          have hvv : v = v' := by simpa using h k
          subst hvv
          have hrest : ∀ n, Members.get? rest n = Members.get? rest' n := by
            intro n
            by_cases hnk : k = n
            · subst hnk
              rw [hm.get?_head_lt le_rfl, hn.get?_head_lt le_rfl]
            · simpa [hnk] using h n
          rw [ih ((sorted_cons_iff _ _ _).mp hm).2 ((sorted_cons_iff _ _ _).mp hn).2 hrest]

/-- Inserting the members of a sorted list, in any order, rebuilds that list. -/
theorem ofList_eq_of_perm {ms ns : Members} (hns : ns.Sorted) (hp : ms.Perm ns) :
    ofList ms = ns := by
  refine (sorted_ofList ms).ext hns fun k => ?_
  rw [get?_ofList]
  exact get?_eq_of_perm (List.reverse_perm ms |>.trans hp)
    ((List.reverse_perm ms |>.trans hp).symm.map Prod.fst |>.nodup_iff.mp hns.nodup) k

theorem ofList_eq_self {ms : Members} (h : ms.Sorted) : ofList ms = ms :=
  ofList_eq_of_perm h (List.Perm.refl ms)

end Members

/-! ## Well-formed values -/

mutual

/-- A value a JSON reader can give: integers in the 64-bit range, and every object with its
members in strictly ascending name order. -/
def WellFormed : Json → Prop
  | .num (.int i) => intMin ≤ i ∧ i ≤ intMax
  | .arr xs => ItemsWellFormed xs
  | .obj ms => Members.Sorted ms ∧ MembersWellFormed ms
  | _ => True

/-- Every item is well formed. -/
def ItemsWellFormed : List Json → Prop
  | [] => True
  | x :: rest => WellFormed x ∧ ItemsWellFormed rest

/-- Every member value is well formed. -/
def MembersWellFormed : Members → Prop
  | [] => True
  | (_, v) :: rest => WellFormed v ∧ MembersWellFormed rest

end

theorem membersWellFormed_iff (ms : Members) :
    MembersWellFormed ms ↔ ∀ m ∈ ms, WellFormed m.2 := by
  induction ms with
  | nil => simp [MembersWellFormed]
  | cons m rest ih =>
      obtain ⟨k, v⟩ := m
      simp [MembersWellFormed, ih]

@[simp] theorem wellFormed_obj_iff (ms : Members) :
    WellFormed (.obj ms) ↔ ms.Sorted ∧ ∀ m ∈ ms, WellFormed m.2 := by
  rw [WellFormed, membersWellFormed_iff]

@[simp] theorem wellFormed_str (s : String) : WellFormed (.str s) := trivial

@[simp] theorem wellFormed_bool (b : Bool) : WellFormed (.bool b) := trivial

@[simp] theorem wellFormed_ofInt (i : Int) : WellFormed (ofInt i) ↔ intMin ≤ i ∧ i ≤ intMax :=
  Iff.rfl

/-! ## Values without doubles -/

theorem firstFloatMembers?_eq_none_iff (ms : Members) :
    firstFloatMembers? ms = none ↔ ∀ m ∈ ms, firstFloat? m.2 = none := by
  induction ms with
  | nil => simp [firstFloatMembers?]
  | cons m rest ih =>
      obtain ⟨k, v⟩ := m
      simp [firstFloatMembers?, ih]

theorem firstFloatItems?_eq_none_iff (xs : List Json) :
    firstFloatItems? xs = none ↔ ∀ x ∈ xs, firstFloat? x = none := by
  induction xs with
  | nil => simp [firstFloatItems?]
  | cons x rest ih => simp [firstFloatItems?, ih]

theorem firstFloat?_obj_eq_none_iff (ms : Members) :
    firstFloat? (.obj ms) = none ↔ ∀ m ∈ ms, firstFloat? m.2 = none := by
  rw [firstFloat?, firstFloatMembers?_eq_none_iff]

/-- Keeping the later of two members of one name keeps a value free of doubles. -/
theorem firstFloat?_obj_ofList {ms : Members} (h : ∀ m ∈ ms, firstFloat? m.2 = none) :
    firstFloat? (.obj (Members.ofList ms)) = none :=
  (firstFloat?_obj_eq_none_iff _).mpr fun m hm => h m (Members.mem_ofList hm)

mutual

/-- Sorting the objects of a value without doubles leaves it without doubles. -/
theorem firstFloat?_sorted : (j : Json) → firstFloat? j = none → firstFloat? (sorted j) = none
  | .null, h | .bool _, h | .num _, h | .str _, h => by simpa [sorted] using h
  | .arr xs, h => by
      simp only [sorted, firstFloat?] at h ⊢
      exact firstFloatItems?_sortedItems xs h
  | .obj ms, h => by
      simp only [sorted]
      apply firstFloat?_obj_ofList
      rw [← firstFloatMembers?_eq_none_iff]
      exact firstFloatMembers?_sortedMembers ms h

theorem firstFloatItems?_sortedItems :
    (xs : List Json) → firstFloatItems? xs = none → firstFloatItems? (sortedItems xs) = none
  | [], _ => rfl
  | x :: rest, h => by
      simp only [firstFloatItems?, Option.or_eq_none_iff, sortedItems] at h ⊢
      exact ⟨firstFloat?_sorted x h.1, firstFloatItems?_sortedItems rest h.2⟩

theorem firstFloatMembers?_sortedMembers :
    (ms : Members) → firstFloatMembers? ms = none → firstFloatMembers? (sortedMembers ms) = none
  | [], _ => rfl
  | (_, v) :: rest, h => by
      simp only [firstFloatMembers?, Option.or_eq_none_iff, sortedMembers] at h ⊢
      exact ⟨firstFloat?_sorted v h.1, firstFloatMembers?_sortedMembers rest h.2⟩

end

mutual

/-- A well-formed value is already sorted. -/
theorem sorted_eq_self : (j : Json) → WellFormed j → sorted j = j
  | .null, _ | .bool _, _ | .num _, _ | .str _, _ => rfl
  | .arr xs, h => by
      rw [sorted, sortedItems_eq_self xs h]
  | .obj ms, h => by
      rw [sorted, sortedMembers_eq_self ms h.2, Members.ofList_eq_self h.1]

theorem sortedItems_eq_self : (xs : List Json) → ItemsWellFormed xs → sortedItems xs = xs
  | [], _ => rfl
  | x :: rest, h => by
      rw [sortedItems, sorted_eq_self x h.1, sortedItems_eq_self rest h.2]

theorem sortedMembers_eq_self : (ms : Members) → MembersWellFormed ms → sortedMembers ms = ms
  | [], _ => rfl
  | (k, v) :: rest, h => by
      rw [sortedMembers, sorted_eq_self v h.1, sortedMembers_eq_self rest h.2]

end

end Json
end Attest
