import Attest.Proofs.Objects
import Attest.Json.Read
import Mathlib.Tactic.SplitIfs

/-!
# Canonical text reads back

A JSON reader given the canonical text of a value gives the value back, provided the value is
one a reader can give (`Json.WellFormed`: integers in the 64-bit range, objects sorted), holds
no double (the canonical form refuses them), and nests fewer arrays and objects than the
reader's depth allowance (`Json.nesting`).

The proof follows the value.  `ReadsBack j` says that `readValue` reads the text of `j`
followed by anything that may end a value (`EndsValue`: nothing, a comma, a closing bracket or
a closing brace) and stops right after it.  Scalars are read by one step each (integers digit
by digit, strings escape by escape); an array's items are read one after another behind commas,
and an object's members are read in written order and inserted one by one, which sorts them
back into the object they came from.  The main statements are `readCharsWithin_canonicalText`
and `canonical_eq_ok_iff`.
-/

namespace Attest

namespace Json

/-! ## Nesting -/

mutual

/-- How many arrays and objects are open at once at the deepest point of a value. -/
def nesting : Json → Nat
  | .arr xs => itemsNesting xs + 1
  | .obj ms => membersNesting ms + 1
  | _ => 0

/-- The deepest nesting among items. -/
def itemsNesting : List Json → Nat
  | [] => 0
  | x :: rest => max x.nesting (itemsNesting rest)

/-- The deepest nesting among member values. -/
def membersNesting : Members → Nat
  | [] => 0
  | (_, v) :: rest => max v.nesting (membersNesting rest)

end

theorem nesting_lt_of_mem_items {x : Json} {xs : List Json} {d : Nat} (hx : x ∈ xs)
    (h : itemsNesting xs < d) : x.nesting < d := by
  induction xs with
  | nil => simp at hx
  | cons y rest ih =>
    simp only [itemsNesting, Nat.max_lt] at h
    rcases List.mem_cons.mp hx with rfl | hx
    · exact h.1
    · exact ih hx h.2

theorem nesting_lt_of_mem_members {m : String × Json} {ms : Members} {d : Nat} (hm : m ∈ ms)
    (h : membersNesting ms < d) : m.2.nesting < d := by
  induction ms with
  | nil => simp at hm
  | cons n rest ih =>
    obtain ⟨k, v⟩ := n
    simp only [membersNesting, Nat.max_lt] at h
    rcases List.mem_cons.mp hm with rfl | hm
    · exact h.1
    · exact ih hm h.2

/-! ## Where a value's text starts and ends -/

/-- The characters a value's text can start with. -/
def StartsValue (c : Char) : Prop :=
  c = 'n' ∨ c = 't' ∨ c = 'f' ∨ c = '-' ∨ c = '"' ∨ c = '[' ∨ c = '{' ∨ c.isDigit

/-- What may follow a value in canonical text: nothing, a comma, or a closing bracket or
brace. -/
def EndsValue (rest : List Char) : Prop :=
  ∀ c ∈ rest.head?, c = ',' ∨ c = ']' ∨ c = '}'

theorem skipBlanks_cons {c : Char} (hc : ¬ (c = ' ' ∨ c = '\n' ∨ c = '\t' ∨ c = '\r'))
    (r : List Char) : skipBlanks (c :: r) = c :: r := by
  simp [skipBlanks, hc]

theorem skipBlanks_of_isDigit {c : Char} (hc : c.isDigit) (r : List Char) :
    skipBlanks (c :: r) = c :: r :=
  skipBlanks_cons (by rintro (rfl | rfl | rfl | rfl) <;> simp at hc) r

theorem StartsValue.skipBlanks {c : Char} (hc : StartsValue c) (r : List Char) :
    skipBlanks (c :: r) = c :: r := by
  rcases hc with rfl | rfl | rfl | rfl | rfl | rfl | rfl | hc <;>
    first | exact skipBlanks_of_isDigit hc r | exact skipBlanks_cons (by decide) r

theorem StartsValue.ne_bracket {c : Char} (hc : StartsValue c) : c ≠ ']' := by
  rintro rfl
  simp [StartsValue] at hc

theorem EndsValue.cases {rest : List Char} (h : EndsValue rest) :
    rest = [] ∨ ∃ r, rest = ',' :: r ∨ rest = ']' :: r ∨ rest = '}' :: r := by
  cases rest with
  | nil => exact .inl rfl
  | cons c r =>
    rcases h c rfl with rfl | rfl | rfl <;> simp

theorem endsValue_nil : EndsValue [] := by
  simp [EndsValue]

/-! ## Integers -/

theorem digitValue?_of_isDigit {c : Char} (h : c.isDigit) :
    digitValue? c = some (c.toNat - 48) := by
  rw [Char.isDigit_iff_toNat] at h
  have hc : '0' ≤ c ∧ c ≤ '9' := by
    simp only [Char.le_def, UInt32.le_iff_toNat_le, Char.toNat_val]
    exact h
  simp [digitValue?, hc]

theorem numberTail_of_endsValue (neg : Bool) (sig : Nat) {rest : List Char} (h : EndsValue rest) :
    numberTail neg sig rest =
      if !neg then .ok (.int sig, rest)
      else if sig = 0 ∨ sig > Nat.pow 2 63 then .ok (.float (Binary64.ofNat sig).neg, rest)
      else .ok (.int (-(sig : Int)), rest) := by
  rcases h.cases with rfl | ⟨r, rfl | rfl | rfl⟩ <;> simp [numberTail]

theorem integerDigits_of_endsValue (neg : Bool) (sig : Nat) {rest : List Char}
    (h : EndsValue rest) : integerDigits neg sig rest = numberTail neg sig rest := by
  rcases h.cases with rfl | ⟨r, rfl | rfl | rfl⟩ <;> simp [integerDigits, digitValue?]

theorem le_ofDigitChars (ds : List Char) (sig : Nat) : sig ≤ Nat.ofDigitChars 10 ds sig := by
  rw [Nat.ofDigitChars_eq_ofDigitChars_zero]
  have : 1 ≤ 10 ^ ds.length := Nat.one_le_pow _ _ (by decide)
  calc sig ≤ 10 ^ ds.length * sig := Nat.le_mul_of_pos_left sig this
    _ ≤ _ := Nat.le_add_right _ _

-- the reader's overflow test is exactly "one more digit passes 2 ^ 64 - 1"
theorem overflowsU64_eq_false {sig d : Nat} (hd : d < 10) (h : sig * 10 + d < 2 ^ 64) :
    overflowsU64 sig d = false := by
  simp only [overflowsU64, Bool.or_eq_false_iff, decide_eq_false_iff_not, Bool.and_eq_false_iff,
    beq_eq_false_iff_ne]
  omega

/-- Decimal digits whose value fits in 64 bits are read as that value. -/
theorem integerDigits_digits (neg : Bool) {ds : List Char} (hds : ∀ d ∈ ds, d.isDigit)
    (sig : Nat) {rest : List Char} (hrest : EndsValue rest)
    (hb : Nat.ofDigitChars 10 ds sig < 2 ^ 64) :
    integerDigits neg sig (ds ++ rest) = numberTail neg (Nat.ofDigitChars 10 ds sig) rest := by
  induction ds generalizing sig with
  | nil => simpa using integerDigits_of_endsValue neg sig hrest
  | cons d ds ih =>
    have hd : d.isDigit := hds d (by simp)
    have hv : d.toNat - 48 < 10 := by
      rw [Char.isDigit_iff_toNat] at hd
      simp only [Char.reduceToNat] at hd
      omega
    rw [Nat.ofDigitChars_cons] at hb ⊢
    have hle := le_ofDigitChars ds (10 * sig + (d.toNat - '0'.toNat))
    simp only [Char.reduceToNat] at hb hle ⊢
    rw [List.cons_append, integerDigits, digitValue?_of_isDigit hd]
    simp only
    rw [overflowsU64_eq_false hv (by omega), if_neg (by simp), Nat.mul_comm sig 10]
    exact ih (fun d hd => hds d (by simp [hd])) _ hb

theorem toDigits_head_ne_zero {n : Nat} (hn : 0 < n) :
    ∃ d ds, Nat.toDigits 10 n = d :: ds ∧ d ≠ '0' := by
  induction n using Nat.base_induction 10 (by decide) with
  | single m hm =>
    exact ⟨_, [], Nat.toDigits_of_lt_base hm, by simpa using Nat.pos_iff_ne_zero.mp hn⟩
  | digit m k hk hm ih =>
    obtain ⟨d, ds, hds, hd⟩ := ih hm
    refine ⟨d, ds ++ Nat.toDigits 10 k, ?_, hd⟩
    rw [← Nat.toDigits_append_toDigits (by decide) hm hk, hds, List.cons_append]

/-- The decimal text of a number below `2 ^ 64` reads as that number. -/
theorem readNumber_toDigits (neg : Bool) {n : Nat} (hn : n < 2 ^ 64) {rest : List Char}
    (hrest : EndsValue rest) :
    readNumber neg (Nat.toDigits 10 n ++ rest) = numberTail neg n rest := by
  rcases Nat.eq_zero_or_pos n with rfl | hpos
  · -- a lone zero: the reader refuses a digit after it, and none follows
    rcases hrest.cases with rfl | ⟨r, rfl | rfl | rfl⟩ <;> simp [readNumber, digitValue?]
  · obtain ⟨d, ds, hds, hd⟩ := toDigits_head_ne_zero hpos
    have hdig : ∀ c ∈ d :: ds, c.isDigit := by
      rw [← hds]
      exact fun c hc => Nat.isDigit_of_mem_toDigits (by decide) (by decide) hc
    have hval : Nat.ofDigitChars 10 ds (d.toNat - 48) = n := by
      have := Nat.ofDigitChars_ten_toDigits (n := n)
      simpa [hds, Nat.ofDigitChars_cons] using this
    rw [hds, List.cons_append]
    simp only [readNumber, digitValue?_of_isDigit (hdig d (by simp))]
    rw [integerDigits_digits neg (fun c hc => hdig c (by simp [hc])) _ hrest (by omega), hval]

theorem readValue_digit (f depth : Nat) {c : Char} (hc : c.isDigit) (r : List Char) :
    readValue (f + 1) depth (c :: r) =
      (readNumber false (c :: r)).map fun (n, r) => (.num n, r) := by
  rw [readValue, skipBlanks_of_isDigit hc]
  split <;> rename_i heq <;> simp only [List.cons.injEq, reduceCtorEq] at heq
  case h_9 =>
    obtain ⟨rfl, rfl⟩ := heq
    simp [digitValue?_of_isDigit hc]
  all_goals obtain ⟨rfl, -⟩ := heq; simp at hc

theorem canonicalText_int (i : Int) : canonicalText (.num (.int i)) = i.repr := by
  simp [canonicalText, compact, Number.text]

theorem readValue_int {i : Int} (hi : intMin ≤ i ∧ i ≤ intMax) (f depth : Nat) {rest : List Char}
    (hrest : EndsValue rest) :
    readValue (f + 1) depth ((canonicalText (.num (.int i))).toList ++ rest) =
      .ok (.num (.int i), rest) := by
  have hmin : intMin = -2 ^ 63 := rfl
  have hmax : intMax = 2 ^ 64 - 1 := rfl
  rw [canonicalText_int, Int.repr_eq_if]
  split_ifs with h0
  · obtain ⟨d, ds, hds⟩ := List.exists_cons_of_ne_nil (Nat.toDigits_ne_nil (n := i.toNat) (b := 10))
    have hd : d.isDigit :=
      Nat.isDigit_of_mem_toDigits (by decide) (by decide) (hds ▸ List.mem_cons_self)
    rw [Nat.toList_repr, hds, List.cons_append, readValue_digit f depth hd, ← List.cons_append,
      ← hds, readNumber_toDigits false (by omega) hrest, numberTail_of_endsValue false _ hrest]
    simp [Except.map, Int.toNat_of_nonneg h0]
  · have hm : 0 < (-i).toNat ∧ (-i).toNat ≤ 2 ^ 63 := by omega
    simp only [String.toList_append, Nat.toList_repr, List.append_assoc]
    simp only [show "-".toList = ['-'] by rfl, List.cons_append, List.nil_append]
    rw [readValue, skipBlanks_cons (by decide)]
    simp only
    rw [readNumber_toDigits true (by omega) hrest, numberTail_of_endsValue true _ hrest]
    simp only [Bool.not_true, Bool.false_eq_true, if_false]
    rw [if_neg (by simp only [Nat.pow_eq]; omega)]
    simp [Except.map]
    omega


/-! ## Strings -/

theorem hexValue?_hexDigit : ∀ k, k < 16 → hexValue? (hexDigit k) = some k := by
  decide

/-- A control character written as `\u00xy` reads back. -/
theorem unicodeEscape_control {c : Char} (h : c.toNat < 0x20) (rest : List Char) :
    unicodeEscape (['0', '0', hexDigit (c.toNat / 16), hexDigit (c.toNat % 16)] ++ rest) =
      .ok (c, rest) := by
  have hq : hexQuad (['0', '0', hexDigit (c.toNat / 16), hexDigit (c.toNat % 16)] ++ rest) =
      .ok (c.toNat, rest) := by
    simp only [List.cons_append, List.nil_append, hexQuad]
    rw [hexValue?_hexDigit _ (by omega), hexValue?_hexDigit _ (by omega)]
    simp only [show hexValue? '0' = some 0 by decide]
    congr 2
    omega
  rw [unicodeEscape, hq]
  simp only
  rw [if_neg (by omega), if_pos (by omega), Char.ofNat_toNat]

/-- What escaping does to a character: a short escape, a `\u00xy` escape of a control
character, or the character itself. -/
theorem escapeChar_cases (c : Char) :
    (∃ e, escapeChar c = ['\\', e] ∧ simpleEscape? e = some c ∧ e ≠ 'u') ∨
      (c.toNat < 0x20 ∧
        escapeChar c = ['\\', 'u', '0', '0', hexDigit (c.toNat / 16), hexDigit (c.toNat % 16)]) ∨
      (escapeChar c = [c] ∧ c ≠ '"' ∧ c ≠ '\\' ∧ 0x20 ≤ c.toNat) := by
  unfold escapeChar
  by_cases h1 : c = '"'
  · subst h1; exact .inl ⟨'"', rfl, rfl, by decide⟩
  rw [if_neg h1]
  by_cases h2 : c = '\\'
  · subst h2; exact .inl ⟨'\\', rfl, rfl, by decide⟩
  rw [if_neg h2]
  by_cases h3 : c = '\n'
  · subst h3; exact .inl ⟨'n', rfl, rfl, by decide⟩
  rw [if_neg h3]
  by_cases h4 : c = '\r'
  · subst h4; exact .inl ⟨'r', rfl, rfl, by decide⟩
  rw [if_neg h4]
  by_cases h5 : c = '\t'
  · subst h5; exact .inl ⟨'t', rfl, rfl, by decide⟩
  rw [if_neg h5]
  by_cases h6 : c = '\x08'
  · subst h6; exact .inl ⟨'b', rfl, rfl, by decide⟩
  rw [if_neg h6]
  by_cases h7 : c = '\x0c'
  · subst h7; exact .inl ⟨'f', rfl, rfl, by decide⟩
  rw [if_neg h7]
  by_cases h8 : c.toNat < 0x20
  · rw [if_pos h8]
    exact .inr (.inl ⟨h8, rfl⟩)
  · rw [if_neg h8]
    exact .inr (.inr ⟨rfl, h1, h2, by omega⟩)

/-- Reading the escaped form of a character gives the character, one step of fuel each. -/
theorem stringBody_escapeChar (fuel : Nat) (c : Char) (acc s : List Char) :
    stringBody (fuel + 1) acc (escapeChar c ++ s) = stringBody fuel (c :: acc) s := by
  rcases escapeChar_cases c with ⟨e, he, hs, hu⟩ | ⟨h, he⟩ | ⟨he, h1, h2, h3⟩
  · rw [he]
    simp [stringBody, hs]
  · have hu := unicodeEscape_control h s
    simp only [List.cons_append, List.nil_append] at hu
    rw [he]
    simp [stringBody, hu]
  · have h4 : ¬ c.toNat < 0x20 := by omega
    rw [he]
    simp [stringBody, h4]

theorem escapeChar_ne_nil (c : Char) : escapeChar c ≠ [] := by
  rcases escapeChar_cases c with ⟨e, he, -, -⟩ | ⟨-, he⟩ | ⟨he, -⟩ <;> simp [he]

theorem stringBody_escaped (cs : List Char) (fuel : Nat) (acc rest : List Char)
    (h : (cs.flatMap escapeChar).length < fuel) :
    stringBody fuel acc (cs.flatMap escapeChar ++ '"' :: rest) =
      .ok (String.ofList (acc.reverse ++ cs), rest) := by
  induction cs generalizing fuel acc with
  | nil =>
    obtain ⟨f, rfl⟩ : ∃ f, fuel = f + 1 := ⟨fuel - 1, by omega⟩
    simp [stringBody]
  | cons c cs ih =>
    obtain ⟨f, rfl⟩ : ∃ f, fuel = f + 1 := ⟨fuel - 1, by omega⟩
    have hc := List.length_pos_iff.mpr (escapeChar_ne_nil c)
    simp only [List.flatMap_cons, List.length_append] at h
    rw [List.flatMap_cons, List.append_assoc, stringBody_escapeChar, ih f (c :: acc) (by omega)]
    simp

theorem readString_escaped (s : String) (rest : List Char) :
    readString (s.toList.flatMap escapeChar ++ '"' :: rest) = .ok (s, rest) := by
  rw [readString, stringBody_escaped _ _ _ _ (by simp only [List.length_append]; omega)]
  simp

theorem toList_quote (s : String) :
    (quote s).toList = '"' :: (s.toList.flatMap escapeChar ++ ['"']) := by
  simp [quote]

theorem readValue_str (s : String) (f depth : Nat) (rest : List Char) :
    readValue (f + 1) depth ((canonicalText (.str s)).toList ++ rest) = .ok (.str s, rest) := by
  simp only [canonicalText, compact, toList_quote, List.cons_append, List.append_assoc]
  rw [readValue, skipBlanks_cons (by decide)]
  simp [readString_escaped, Except.map]

/-! ## Literals and the first character -/

theorem readValue_null (f depth : Nat) (rest : List Char) :
    readValue (f + 1) depth ((canonicalText .null).toList ++ rest) = .ok (.null, rest) := by
  simp [canonicalText, compact, readValue, skipBlanks, expectWord, Except.map]

theorem readValue_bool (b : Bool) (f depth : Nat) (rest : List Char) :
    readValue (f + 1) depth ((canonicalText (.bool b)).toList ++ rest) = .ok (.bool b, rest) := by
  cases b <;> simp [canonicalText, compact, readValue, skipBlanks, expectWord, Except.map]

theorem canonicalText_startsValue {j : Json} (hf : firstFloat? j = none) :
    ∃ c, (canonicalText j).toList.head? = some c ∧ StartsValue c := by
  cases j with
  | null => exact ⟨'n', by simp [canonicalText, compact], by simp [StartsValue]⟩
  | bool b =>
    cases b
    · exact ⟨'f', by simp [canonicalText, compact], by simp [StartsValue]⟩
    · exact ⟨'t', by simp [canonicalText, compact], by simp [StartsValue]⟩
  | num n =>
    cases n with
    | int i =>
      rw [canonicalText_int, Int.repr_eq_if]
      split_ifs
      · obtain ⟨d, ds, hds⟩ :=
          List.exists_cons_of_ne_nil (Nat.toDigits_ne_nil (n := i.toNat) (b := 10))
        have hd : d.isDigit :=
          Nat.isDigit_of_mem_toDigits (by decide) (by decide) (hds ▸ List.mem_cons_self)
        exact ⟨d, by rw [Nat.toList_repr, hds]; rfl, by simp [StartsValue, hd]⟩
      · exact ⟨'-', by simp [show "-".toList = ['-'] by rfl], by simp [StartsValue]⟩
    | float x => simp [firstFloat?] at hf
  | str s => exact ⟨'"', by simp [canonicalText, compact, toList_quote], by simp [StartsValue]⟩
  | arr xs => exact ⟨'[', by simp [canonicalText], by simp [StartsValue]⟩
  | obj ms => exact ⟨'\x7b', by simp [canonicalText], by simp [StartsValue]⟩

/-! ## Separated texts -/

theorem toList_joinCommas_cons (t : String) (ts : List String) :
    (joinCommas (t :: ts)).toList = t.toList ++ (ts.map fun u => ',' :: u.toList).flatten := by
  induction ts generalizing t with
  | nil => simp [joinCommas]
  | cons u us ih =>
    simp only [joinCommas, String.toList_append, ih]
    simp

theorem endsValue_commas {α : Type} (g : α → List Char) (xs : List α) {c : Char}
    (hc : c = ']' ∨ c = '\x7d') (rest : List Char) :
    EndsValue ((xs.map fun x => ',' :: g x).flatten ++ c :: rest) := by
  cases xs with
  | nil => rcases hc with rfl | rfl <;> simp [EndsValue]
  | cons x xs => simp [EndsValue]

theorem canonicalItems_eq_map (xs : List Json) : canonicalItems xs = xs.map canonicalText := by
  induction xs with
  | nil => rfl
  | cons x rest ih => rw [canonicalItems, ih, List.map_cons]

theorem canonicalMembers_eq_map (ms : Members) :
    canonicalMembers ms = ms.map fun m => (quote m.1, canonicalText m.2) := by
  induction ms with
  | nil => rfl
  | cons m rest ih => rw [canonicalMembers, ih, List.map_cons]

/-- Members are written sorted by their written names. -/
theorem canonicalText_obj_eq (ms : Members) :
    canonicalText (.obj ms) = "\x7b" ++ joinCommas
      ((ms.mergeSort fun a b => decide (quote a.1 ≤ quote b.1)).map
        fun m => quote m.1 ++ ":" ++ canonicalText m.2) ++ "\x7d" := by
  have hsort := List.map_mergeSort (l := ms) (f := fun m => (quote m.1, canonicalText m.2))
    (r := fun a b => decide (quote a.1 ≤ quote b.1)) (s := fun a b => decide (a.1 ≤ b.1))
    (fun _ _ _ _ => by dsimp only)
  rw [canonicalText, orderMembers, canonicalMembers_eq_map, ← hsort, List.map_map]
  rfl

/-- Members are written in some order of the members themselves. -/
theorem canonicalText_obj (ms : Members) :
    ∃ ws : Members, ws.Perm ms ∧ canonicalText (.obj ms) =
      "\x7b" ++ joinCommas (ws.map fun m => quote m.1 ++ ":" ++ canonicalText m.2) ++ "\x7d" :=
  ⟨_, List.mergeSort_perm _ _, canonicalText_obj_eq ms⟩

/-! ## Reading one item or member -/

theorem readItems_close (f depth : Nat) (acc : List Json) (first : Bool) (rest : List Char) :
    readItems (f + 1) depth acc first (']' :: rest) = .ok (.arr acc.reverse, rest) := by
  simp [readItems, skipBlanks]

theorem readItems_first {f depth : Nat} {acc : List Json} {c : Char} {cs r : List Char}
    (hc : StartsValue c) {v : Json} (hv : readValue f depth (c :: cs) = .ok (v, r)) :
    readItems (f + 1) depth acc true (c :: cs) = readItems f depth (v :: acc) false r := by
  rw [readItems, hc.skipBlanks]
  simp [hc.ne_bracket, hv]

theorem readItems_comma {f depth : Nat} {acc : List Json} {c : Char} {cs r : List Char}
    (hc : StartsValue c) {v : Json} (hv : readValue f depth (c :: cs) = .ok (v, r)) :
    readItems (f + 1) depth acc false (',' :: c :: cs) = readItems f depth (v :: acc) false r := by
  rw [readItems, skipBlanks_cons (by decide)]
  simp [hc.skipBlanks, hc.ne_bracket, hv]

theorem readMembers_close (f depth : Nat) (acc : Members) (first : Bool) (rest : List Char) :
    readMembers (f + 1) depth acc first ('\x7d' :: rest) = .ok (.obj acc, rest) := by
  simp [readMembers, skipBlanks]

theorem readMembers_first {f depth : Nat} {acc : Members} {k : String} {ws r : List Char} {v : Json}
    (hv : readValue f depth ws = .ok (v, r)) :
    readMembers (f + 1) depth acc true ((quote k ++ ":").toList ++ ws) =
      readMembers f depth (Members.insert k v acc) false r := by
  simp only [String.toList_append, toList_quote, List.cons_append, List.append_assoc]
  simp [readMembers, skipBlanks, readString_escaped, hv]

theorem readMembers_comma {f depth : Nat} {acc : Members} {k : String} {ws r : List Char} {v : Json}
    (hv : readValue f depth ws = .ok (v, r)) :
    readMembers (f + 1) depth acc false (',' :: ((quote k ++ ":").toList ++ ws)) =
      readMembers f depth (Members.insert k v acc) false r := by
  simp only [String.toList_append, toList_quote, List.cons_append, List.append_assoc]
  simp [readMembers, skipBlanks, readString_escaped, hv]

/-! ## Whole values -/

/-- Reading the canonical text of `j` gives `j` back, with any fuel above the text's length,
any depth allowance above `j`'s nesting, and whatever may follow a value. -/
def ReadsBack (j : Json) : Prop :=
  ∀ fuel depth rest, (canonicalText j).toList.length < fuel → j.nesting < depth →
    EndsValue rest → readValue fuel depth ((canonicalText j).toList ++ rest) = .ok (j, rest)

/-- The first step of reading a value that reads back, from the first character of its text. -/
theorem ReadsBack.head {j : Json} (hj : ReadsBack j) (hf : firstFloat? j = none) (fuel : Nat)
    {depth : Nat} {rest : List Char} (hfuel : (canonicalText j).toList.length < fuel)
    (hd : j.nesting < depth) (hrest : EndsValue rest) :
    ∃ c cs, (canonicalText j).toList ++ rest = c :: cs ∧ StartsValue c ∧
      readValue fuel depth (c :: cs) = .ok (j, rest) := by
  obtain ⟨c, hc, hs⟩ := canonicalText_startsValue hf
  obtain ⟨cs, hcs⟩ := List.head?_eq_some_iff.mp hc
  refine ⟨c, cs ++ rest, by rw [hcs, List.cons_append], hs, ?_⟩
  rw [← List.cons_append, ← hcs]
  exact hj fuel depth rest hfuel hd hrest

/-- The items after the first, each after a comma, up to the closing bracket. -/
theorem readItems_commas {depth : Nat} {xs : List Json}
    (hxs : ∀ x ∈ xs, ReadsBack x ∧ firstFloat? x = none ∧ x.nesting < depth)
    (fuel : Nat) (acc : List Json) (rest : List Char)
    (hfuel : ((xs.map fun x => ',' :: (canonicalText x).toList).flatten).length < fuel) :
    readItems fuel depth acc false
        ((xs.map fun x => ',' :: (canonicalText x).toList).flatten ++ ']' :: rest) =
      .ok (.arr (acc.reverse ++ xs), rest) := by
  induction xs generalizing fuel acc with
  | nil =>
    obtain ⟨f, rfl⟩ : ∃ f, fuel = f + 1 := ⟨fuel - 1, by omega⟩
    simp [readItems_close]
  | cons x xs ih =>
    obtain ⟨f, rfl⟩ : ∃ f, fuel = f + 1 := ⟨fuel - 1, by omega⟩
    obtain ⟨hx, hfx, hdx⟩ := hxs x List.mem_cons_self
    simp only [List.map_cons, List.flatten_cons, List.length_append, List.length_cons] at hfuel
    obtain ⟨c, cs, hcs, hc, hv⟩ := hx.head hfx f (by omega) hdx
      (endsValue_commas _ xs (.inl rfl) rest)
    simp only [List.map_cons, List.flatten_cons, List.cons_append, List.append_assoc]
    rw [hcs, readItems_comma hc hv, ih (fun y hy => hxs y (List.mem_cons_of_mem x hy)) f _
      (by omega)]
    simp

/-- The members after the first, each after a comma, up to the closing brace: each is
inserted into the members read so far. -/
theorem readMembers_commas {depth : Nat} {ws : Members}
    (hws : ∀ m ∈ ws, ReadsBack m.2 ∧ m.2.nesting < depth)
    (fuel : Nat) (acc : Members) (rest : List Char)
    (hfuel :
      ((ws.map fun m => ',' :: (quote m.1 ++ ":" ++ canonicalText m.2).toList).flatten).length <
        fuel) :
    readMembers fuel depth acc false
        ((ws.map fun m => ',' :: (quote m.1 ++ ":" ++ canonicalText m.2).toList).flatten ++
          '\x7d' :: rest) =
      .ok (.obj (ws.foldl (fun acc m => Members.insert m.1 m.2 acc) acc), rest) := by
  induction ws generalizing fuel acc with
  | nil =>
    obtain ⟨f, rfl⟩ : ∃ f, fuel = f + 1 := ⟨fuel - 1, by omega⟩
    simp [readMembers_close]
  | cons m ws ih =>
    obtain ⟨f, rfl⟩ : ∃ f, fuel = f + 1 := ⟨fuel - 1, by omega⟩
    obtain ⟨hm, hdm⟩ := hws m List.mem_cons_self
    simp only [List.map_cons, List.flatten_cons, List.length_append, List.length_cons] at hfuel
    have hlen : (canonicalText m.2).toList.length ≤
        (quote m.1 ++ ":" ++ canonicalText m.2).toList.length := by
      simp only [String.toList_append, List.length_append]
      omega
    have hv := hm f depth _ (by omega) hdm
      (endsValue_commas (fun m => (quote m.1 ++ ":" ++ canonicalText m.2).toList) ws (.inr rfl)
        rest)
    simp only [List.map_cons, List.flatten_cons, List.cons_append, List.append_assoc]
    rw [String.toList_append, List.append_assoc, readMembers_comma hv,
      ih (fun n hn => hws n (List.mem_cons_of_mem m hn)) f _ (by omega)]
    simp

theorem readValue_bracket (f : Nat) {depth : Nat} (hd : 1 < depth) (r : List Char) :
    readValue (f + 1) depth ('[' :: r) = readItems f (depth - 1) [] true r := by
  rw [readValue, skipBlanks_cons (by decide)]
  simp [show ¬ depth ≤ 1 by omega]

theorem readValue_brace (f : Nat) {depth : Nat} (hd : 1 < depth) (r : List Char) :
    readValue (f + 1) depth ('\x7b' :: r) = readMembers f (depth - 1) [] true r := by
  rw [readValue, skipBlanks_cons (by decide)]
  simp [show ¬ depth ≤ 1 by omega]

/-- A value whose text reads back with any fuel at all reads back. -/
theorem readsBack_of_scalar {j : Json}
    (h : ∀ f depth rest, EndsValue rest →
      readValue (f + 1) depth ((canonicalText j).toList ++ rest) = .ok (j, rest)) :
    ReadsBack j := by
  intro fuel depth rest hfuel _ hrest
  obtain ⟨f, rfl⟩ : ∃ f, fuel = f + 1 := ⟨fuel - 1, by omega⟩
  exact h f depth rest hrest

theorem readsBack_arr {xs : List Json} (hxs : ∀ x ∈ xs, ReadsBack x ∧ firstFloat? x = none) :
    ReadsBack (.arr xs) := by
  intro fuel depth rest hfuel hd hrest
  simp only [nesting] at hd
  have hitems : ∀ x ∈ xs, ReadsBack x ∧ firstFloat? x = none ∧ x.nesting < depth - 1 :=
    fun x hx => ⟨(hxs x hx).1, (hxs x hx).2, nesting_lt_of_mem_items hx (by omega)⟩
  have htext : (canonicalText (.arr xs)).toList =
      '[' :: ((joinCommas (xs.map canonicalText)).toList ++ [']']) := by
    simp [canonicalText, canonicalItems_eq_map]
  rw [htext] at hfuel ⊢
  obtain ⟨f, rfl⟩ : ∃ f, fuel = f + 1 := ⟨fuel - 1, by omega⟩
  rw [List.cons_append, readValue_bracket f (by omega), List.append_assoc, List.singleton_append]
  cases xs with
  | nil =>
    obtain ⟨f, rfl⟩ : ∃ f', f = f' + 1 := ⟨f - 1, by simp at hfuel; omega⟩
    simp [joinCommas, readItems_close]
  | cons x xs =>
    obtain ⟨hx, hfx, hdx⟩ := hitems x List.mem_cons_self
    simp only [List.map_cons, toList_joinCommas_cons, List.length_cons, List.length_append,
      List.map_map, Function.comp_def, List.length_nil] at hfuel ⊢
    obtain ⟨f, rfl⟩ : ∃ f', f = f' + 1 := ⟨f - 1, by omega⟩
    obtain ⟨c, cs, hcs, hc, hv⟩ := hx.head hfx f (by omega) hdx
      (endsValue_commas (fun x => (canonicalText x).toList) xs (.inl rfl) rest)
    rw [List.append_assoc, hcs, readItems_first hc hv, readItems_commas
      (fun y hy => hitems y (List.mem_cons_of_mem x hy)) f _ rest (by omega)]
    simp

theorem readsBack_obj {ms : Members} (hms : ms.Sorted) (hm : ∀ m ∈ ms, ReadsBack m.2) :
    ReadsBack (.obj ms) := by
  intro fuel depth rest hfuel hd hrest
  simp only [nesting] at hd
  obtain ⟨ws, hperm, htext⟩ := canonicalText_obj ms
  have hmembers : ∀ m ∈ ws, ReadsBack m.2 ∧ m.2.nesting < depth - 1 := fun m hmw =>
    ⟨hm m (hperm.mem_iff.mp hmw), nesting_lt_of_mem_members (hperm.mem_iff.mp hmw) (by omega)⟩
  -- the members are read in written order and inserted one by one: that sorts them back
  suffices h : ∀ f, (canonicalText (.obj ms)).toList.length < f + 1 →
      readMembers f (depth - 1) [] true
          ((joinCommas (ws.map fun m => quote m.1 ++ ":" ++ canonicalText m.2)).toList ++
            '\x7d' :: rest) = .ok (.obj (Members.ofList ws), rest) by
    obtain ⟨f, rfl⟩ : ∃ f, fuel = f + 1 := ⟨fuel - 1, by omega⟩
    have hf := h f hfuel
    rw [htext] at hfuel ⊢
    simp only [String.toList_append, List.append_assoc] at hf ⊢
    rw [show "\x7b".toList = ['\x7b'] by rfl, List.singleton_append, readValue_brace f (by omega),
      show "\x7d".toList = ['\x7d'] by rfl, List.singleton_append, hf,
      Members.ofList_eq_of_perm hms hperm]
  intro f hfuel
  rw [htext] at hfuel
  cases ws with
  | nil =>
    obtain ⟨f, rfl⟩ : ∃ f', f = f' + 1 := ⟨f - 1, by simp at hfuel; omega⟩
    simp [joinCommas, readMembers_close, Members.ofList]
  | cons w ws =>
    obtain ⟨hw, hdw⟩ := hmembers w List.mem_cons_self
    have hlen : (quote w.1 ++ ":" ++ canonicalText w.2).toList.length +
        ((ws.map fun m => ',' :: (quote m.1 ++ ":" ++ canonicalText m.2).toList).flatten).length + 2
          < f + 1 := by
      rw [String.toList_append, String.toList_append, List.map_cons, toList_joinCommas_cons,
        List.map_map] at hfuel
      simp only [List.length_append, Function.comp_def] at hfuel
      have h1 : "\x7b".toList.length = 1 := rfl
      have h2 : "\x7d".toList.length = 1 := rfl
      omega
    have hwlen : (canonicalText w.2).toList.length ≤
        (quote w.1 ++ ":" ++ canonicalText w.2).toList.length := by
      simp only [String.toList_append, List.length_append]
      omega
    rw [List.map_cons, toList_joinCommas_cons, List.map_map]
    simp only [Function.comp_def]
    obtain ⟨f, rfl⟩ : ∃ f', f = f' + 1 := ⟨f - 1, by omega⟩
    have hv := hw f (depth - 1) _ (by omega) hdw
      (endsValue_commas (fun m => (quote m.1 ++ ":" ++ canonicalText m.2).toList) ws (.inr rfl)
        rest)
    rw [String.toList_append (s := quote w.1 ++ ":"), List.append_assoc, List.append_assoc,
      readMembers_first hv,
      readMembers_commas (fun m hmw => hmembers m (List.mem_cons_of_mem w hmw)) f _ rest (by omega)]
    simp [Members.ofList]

mutual

/-- Every well-formed value without doubles reads back from its canonical text. -/
theorem readsBack : (j : Json) → WellFormed j → firstFloat? j = none → ReadsBack j
  | .null, _, _ => readsBack_of_scalar fun f depth rest _ => readValue_null f depth rest
  | .bool b, _, _ => readsBack_of_scalar fun f depth rest _ => readValue_bool b f depth rest
  | .num (.int _), hw, _ =>
    readsBack_of_scalar fun f depth _ hrest => readValue_int hw f depth hrest
  | .num (.float _), _, hf => by simp [firstFloat?] at hf
  | .str s, _, _ => readsBack_of_scalar fun f depth rest _ => readValue_str s f depth rest
  | .arr xs, hw, hf => readsBack_arr (itemsReadBack xs hw hf)
  | .obj ms, hw, hf => readsBack_obj hw.1 (membersReadBack ms hw.2 hf)

theorem itemsReadBack : (xs : List Json) → ItemsWellFormed xs → firstFloatItems? xs = none →
    ∀ x ∈ xs, ReadsBack x ∧ firstFloat? x = none
  | [], _, _ => by simp
  | x :: rest, hw, hf => by
    simp only [firstFloatItems?, Option.or_eq_none_iff] at hf
    have hx := readsBack x hw.1 hf.1
    have hrest := itemsReadBack rest hw.2 hf.2
    intro y hy
    rcases List.mem_cons.mp hy with rfl | hy
    · exact ⟨hx, hf.1⟩
    · exact hrest y hy

theorem membersReadBack : (ms : Members) → MembersWellFormed ms → firstFloatMembers? ms = none →
    ∀ m ∈ ms, ReadsBack m.2
  | [], _, _ => by simp
  | (_, v) :: rest, hw, hf => by
    simp only [firstFloatMembers?, Option.or_eq_none_iff] at hf
    have hv := readsBack v hw.1 hf.1
    have hrest := membersReadBack rest hw.2 hf.2
    intro m hm
    rcases List.mem_cons.mp hm with rfl | hm
    · exact hv
    · exact hrest m hm

end

/-- Reading the canonical text of a well-formed value without doubles gives the value back,
when the reader may open more arrays and objects at once than the value nests. -/
theorem readCharsWithin_canonicalText {j : Json} (hw : j.WellFormed) (hf : j.firstFloat? = none)
    {limit : Nat} (hl : j.nesting < limit) :
    readCharsWithin limit (canonicalText j).toList = .ok j := by
  have h := readsBack j hw hf (3 * (canonicalText j).toList.length + 8) limit [] (by omega) hl
    endsValue_nil
  rw [List.append_nil] at h
  rw [readCharsWithin, h]
  rfl

/-- A well-formed value has a canonical form exactly when it holds no double, and the form is
its canonical text. -/
theorem canonical_eq_ok_iff {j : Json} (hw : j.WellFormed) {text : String} :
    canonical j = .ok text ↔ firstFloat? j = none ∧ text = canonicalText j := by
  rw [canonical, sorted_eq_self j hw]
  cases firstFloat? j with
  | none => simp [eq_comm]
  | some x => simp

end Json

end Attest
