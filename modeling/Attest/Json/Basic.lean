import Attest.Binary64.Basic

/-!
# JSON values

A `Json` value is what a JSON document denotes.  Numbers keep the distinction
that JSON readers make in practice: a literal without fraction or exponent
whose value fits in `[-2 ^ 63, 2 ^ 64 - 1]` is an integer, every other
literal is a double.  An object is a list of members; objects that are read
from text, or built with `Json.Members.insert`, keep their names sorted by
code point with no name twice, and a serialised record lists its fields in
the order the record declares them.
-/

namespace Attest

/-- A JSON number: an integer in the 64-bit range, or a double. -/
inductive Json.Number where
  | int (i : Int)
  | float (x : Binary64)
  deriving DecidableEq, Inhabited

/-- A JSON value. -/
inductive Json where
  | null
  | bool (b : Bool)
  | num (n : Json.Number)
  | str (s : String)
  | arr (items : List Json)
  | obj (members : List (String × Json))
  deriving Inhabited

namespace Json

mutual

/-- Structural equality of values. -/
def decEq : (a b : Json) → Decidable (a = b)
  | .null, .null => isTrue rfl
  | .bool a, .bool b => if h : a = b then isTrue (h ▸ rfl) else isFalse (fun e => h (Json.bool.inj e))
  | .num a, .num b => if h : a = b then isTrue (h ▸ rfl) else isFalse (fun e => h (Json.num.inj e))
  | .str a, .str b => if h : a = b then isTrue (h ▸ rfl) else isFalse (fun e => h (Json.str.inj e))
  | .arr a, .arr b =>
    match decEqItems a b with
    | isTrue h => isTrue (h ▸ rfl)
    | isFalse h => isFalse (fun e => h (Json.arr.inj e))
  | .obj a, .obj b =>
    match decEqMembers a b with
    | isTrue h => isTrue (h ▸ rfl)
    | isFalse h => isFalse (fun e => h (Json.obj.inj e))
  | .null, .bool _ | .null, .num _ | .null, .str _ | .null, .arr _ | .null, .obj _ => isFalse nofun
  | .bool _, .null | .bool _, .num _ | .bool _, .str _ | .bool _, .arr _ | .bool _, .obj _ => isFalse nofun
  | .num _, .null | .num _, .bool _ | .num _, .str _ | .num _, .arr _ | .num _, .obj _ => isFalse nofun
  | .str _, .null | .str _, .bool _ | .str _, .num _ | .str _, .arr _ | .str _, .obj _ => isFalse nofun
  | .arr _, .null | .arr _, .bool _ | .arr _, .num _ | .arr _, .str _ | .arr _, .obj _ => isFalse nofun
  | .obj _, .null | .obj _, .bool _ | .obj _, .num _ | .obj _, .str _ | .obj _, .arr _ => isFalse nofun

/-- Equality of item lists. -/
def decEqItems : (a b : List Json) → Decidable (a = b)
  | [], [] => isTrue rfl
  | [], _ :: _ => isFalse nofun
  | _ :: _, [] => isFalse nofun
  | x :: xs, y :: ys =>
    match decEq x y, decEqItems xs ys with
    | isTrue h1, isTrue h2 => isTrue (h1 ▸ h2 ▸ rfl)
    | isFalse h, _ => isFalse (fun e => h (List.cons.inj e).1)
    | _, isFalse h => isFalse (fun e => h (List.cons.inj e).2)

/-- Equality of member lists. -/
def decEqMembers : (a b : List (String × Json)) → Decidable (a = b)
  | [], [] => isTrue rfl
  | [], _ :: _ => isFalse nofun
  | _ :: _, [] => isFalse nofun
  | (k, x) :: xs, (l, y) :: ys =>
    if hk : k = l then
      match decEq x y, decEqMembers xs ys with
      | isTrue h1, isTrue h2 => isTrue (hk ▸ h1 ▸ h2 ▸ rfl)
      | isFalse h, _ => isFalse (fun e => h (Prod.mk.inj (List.cons.inj e).1).2)
      | _, isFalse h => isFalse (fun e => h (List.cons.inj e).2)
    else isFalse (fun e => hk (Prod.mk.inj (List.cons.inj e).1).1)

end

instance : DecidableEq Json := decEq

/-- The members of an object. -/
abbrev Members := List (String × Json)

/-- Smallest integer a JSON integer can hold. -/
def intMin : Int := -(Int.pow 2 63)

/-- Largest integer a JSON integer can hold. -/
def intMax : Int := Int.pow 2 64 - 1

/-- The JSON integer `n`. -/
def ofNat (n : Nat) : Json := .num (.int n)

/-- The JSON integer `i`. -/
def ofInt (i : Int) : Json := .num (.int i)

/-- The members of an object, `none` for other values. -/
def members? : Json → Option Members
  | .obj ms => some ms
  | _ => none

/-- The items of an array, `none` for other values. -/
def items? : Json → Option (List Json)
  | .arr xs => some xs
  | _ => none

/-- The text of a string, `none` for other values. -/
def str? : Json → Option String
  | .str s => some s
  | _ => none

/-- The value of a boolean, `none` for other values. -/
def bool? : Json → Option Bool
  | .bool b => some b
  | _ => none

/-- The value of an integer, `none` for other values (doubles included). -/
def int? : Json → Option Int
  | .num (.int i) => some i
  | _ => none

/-- Whether the value is `null`. -/
def isNull : Json → Bool
  | .null => true
  | _ => false

/-- The value under `name` in a member list: the first member of that name. -/
def Members.get? (ms : Members) (name : String) : Option Json :=
  (ms.find? (fun m => m.1 == name)).map (·.2)

/-- Insert a member into a sorted member list; a member of the same name is
replaced, so the last write wins. -/
def Members.insert (name : String) (v : Json) : Members → Members
  | [] => [(name, v)]
  | (k, w) :: rest =>
    if name < k then (name, v) :: (k, w) :: rest
    else if name = k then (name, v) :: rest
    else (k, w) :: Members.insert name v rest

/-- Remove every member of a name. -/
def Members.erase (name : String) (ms : Members) : Members :=
  ms.filter (fun m => m.1 != name)

/-- A sorted member list from members in any order; of two members with one
name the later wins. -/
def Members.ofList (ms : List (String × Json)) : Members :=
  ms.foldl (fun acc m => Members.insert m.1 m.2 acc) []

/-- The names of a member list. -/
def Members.names (ms : Members) : List String := ms.map (·.1)

/-- Member names in strictly ascending order, so that no name occurs twice: the members of a
map. -/
def Members.Sorted (ms : Members) : Prop := ms.names.Pairwise (· < ·)

instance (ms : Members) : Decidable ms.Sorted :=
  inferInstanceAs (Decidable (ms.names.Pairwise (· < ·)))

/-- Inserting a member brings in no name but its own. -/
theorem Members.mem_names_insert_of {name k : String} {v : Json} :
    ∀ {ms : Members}, k ∈ (Members.insert name v ms).names → k = name ∨ k ∈ ms.names
  | [], h => by simpa [Members.insert, Members.names] using h
  | (k', w) :: rest, h => by
    unfold Members.insert at h
    split at h
    · simpa [Members.names] using h
    · split at h
      · rename_i heq
        subst heq
        simp only [Members.names, List.map_cons, List.mem_cons] at h ⊢
        rcases h with h | h
        · exact .inl h
        · exact .inr (.inr h)
      · simp only [Members.names, List.map_cons, List.mem_cons] at h ⊢
        rcases h with h | h
        · exact .inr (.inl h)
        · rcases Members.mem_names_insert_of h with h | h
          · exact .inl h
          · exact .inr (.inr h)

theorem Members.Sorted.insert {ms : Members} (h : ms.Sorted) (name : String) (v : Json) :
    (Members.insert name v ms).Sorted := by
  induction ms with
  | nil => simp [Members.Sorted, Members.insert, Members.names]
  | cons m rest ih =>
    obtain ⟨k', w⟩ := m
    unfold Members.Sorted Members.names at h
    rw [List.map_cons, List.pairwise_cons] at h
    unfold Members.insert
    by_cases hlt : name < k'
    · -- the new name comes first, below every name after it
      rw [if_pos hlt]
      unfold Members.Sorted Members.names
      rw [List.map_cons, List.map_cons, List.pairwise_cons, List.pairwise_cons]
      refine ⟨fun n hn => ?_, h.1, h.2⟩
      rcases List.mem_cons.mp hn with rfl | hn
      · exact hlt
      · exact String.lt_trans hlt (h.1 n hn)
    · by_cases heq : name = k'
      · subst heq
        rw [if_neg hlt, if_pos rfl]
        unfold Members.Sorted Members.names
        rw [List.map_cons, List.pairwise_cons]
        exact h
      · rw [if_neg hlt, if_neg heq]
        have hgt : k' < name := Std.lt_of_le_of_ne hlt (Ne.symm heq)
        unfold Members.Sorted Members.names
        rw [List.map_cons, List.pairwise_cons]
        refine ⟨fun n hn => ?_, ih h.2⟩
        rcases Members.mem_names_insert_of hn with rfl | hn
        · exact hgt
        · exact h.1 n hn

/-- A member list made a map is sorted. -/
theorem Members.sorted_ofList (ms : List (String × Json)) : (Members.ofList ms).Sorted := by
  have step : ∀ acc : Members, acc.Sorted →
      (ms.foldl (fun acc m => Members.insert m.1 m.2 acc) acc).Sorted := by
    induction ms with
    | nil => exact fun _ h => h
    | cons m rest ih => exact fun acc h => ih _ (h.insert m.1 m.2)
  exact step [] List.Pairwise.nil

/-- The value under `name` of an object, `none` for a missing member or a
value that is no object. -/
def get? (j : Json) (name : String) : Option Json :=
  match j with
  | .obj ms => Members.get? ms name
  | _ => none

/-- An object with its members sorted by name. -/
def object (ms : List (String × Json)) : Json := .obj (Members.ofList ms)

/-- A value that is present and not `null`. -/
def present? (j : Option Json) : Option Json :=
  match j with
  | some .null => none
  | other => other

end Json

end Attest
