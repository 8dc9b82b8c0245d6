import Mathlib.Tactic.SplitIfs
import Attest.Yaml.Scanner
import Attest.Text.Quoted
import Attest.Command.Keygen
import Attest.Credential.Vault

/-!
# Reading a quoted text back as a YAML scalar

`Text.quoted` writes a text between double quotes with its own escapes (`\0 \t \r \n \\ \"`,
and `\u{h…}` with unpadded hexadecimal digits for a character that is not printable or that
extends a grapheme).  A key's configuration snippet writes its issuer so, and a vault reads the
snippet back as YAML, whose double-quoted scalars know the short escapes but take `\u` only
with exactly four hexadecimal digits.

The scanner of double-quoted scalars is followed one character, one word and one line at a
time: each written form of a character outside braces is read back as the character, spaces
are gathered and joined, and the written form of a character in braces stops the scan at its
brace.  The main statement, **`scanQuoted_quoted`**, says that the quoted form of any text,
followed by anything, is read back as one double-quoted scalar holding the text when no
character of it is written in braces, and is refused at the first one's brace otherwise.
A valid issuer may hold such a character (a soft hyphen, a combining mark), and then the
snippet of its key does not load: `configSnippet_soft_hyphen_refused`.
-/

namespace Attest

namespace Text

/-- Whether `quoted` writes a character as `\u{h…}`: one without a short escape that is not
printable or that extends the grapheme before it. -/
def inBraces (c : Char) : Bool :=
  !(c == '\x00' || c == '\t' || c == '\r' || c == '\n' || c == '\\' || c == '"') &&
    (isExtending c || !isPrintable c)

/-- The written form of a character in braces. -/
theorem quoteChar_of_inBraces {c : Char} (h : inBraces c = true) :
    quoteChar c = ['\\', 'u', '{'] ++ hexDigits c.toNat ++ ['}'] := by
  simp only [inBraces, Bool.and_eq_true, Bool.not_eq_true', Bool.or_eq_false_iff,
    beq_eq_false_iff_ne] at h
  obtain ⟨⟨⟨⟨⟨⟨h0, ht⟩, hr⟩, hn⟩, hb⟩, hq⟩, hp⟩ := h
  simp [quoteChar, h0, ht, hr, hn, hb, hq, hp]

/-- The YAML line breaks other than `\n` and `\r` (U+0085, U+2028, U+2029) are not printable,
so `quoted` never writes them as they are. -/
theorem isPrintable_of_isBreak {c : Char} (h : Yaml.Chars.isBreak c = true)
    (hn : c ≠ '\n') (hr : c ≠ '\r') : isPrintable c = false := by
  simp only [Yaml.Chars.isBreak, Bool.or_eq_true, beq_iff_eq] at h
  rcases h with (((h | h) | h) | h) | h
  · exact absurd h hn
  · exact absurd h hr
  · rw [← Char.ofNat_toNat c, h]
    decide +kernel
  · rw [← Char.ofNat_toNat c, h]
    decide +kernel
  · rw [← Char.ofNat_toNat c, h]
    decide +kernel

/-- Every character has a written form of at least one character. -/
theorem length_quoteChar_pos (c : Char) : 0 < (quoteChar c).length := by
  unfold quoteChar
  split_ifs <;> simp

/-- A space is written as itself. -/
theorem quoteChar_space : quoteChar ' ' = [' '] := by decide +kernel

/-- Spaces are written as themselves. -/
theorem flatMap_quoteChar_spaces (n : Nat) :
    (List.replicate n ' ').flatMap quoteChar = List.replicate n ' ' := by
  induction n with
  | zero => rfl
  | succ n ih => rw [List.replicate_succ, List.flatMap_cons, ih, quoteChar_space]; rfl

/-- The written forms that a YAML double-quoted scalar reads back as the character `c` within a
run of non-blank characters: `c` itself where YAML takes it as it is, or a short escape. -/
inductive ReadBack (c : Char) : List Char → Prop
  | literal : Yaml.Chars.isBreakOrEnd c = false → c ≠ '\t' → c ≠ '"' → c ≠ '\\' → ReadBack c [c]
  | escape {e : Char} : Yaml.Scanner.escapeOf e = some (.inl c) → Yaml.Chars.isBreak e = false →
      ReadBack c ['\\', e]

/-- Outside braces, the written form of a character is one that YAML reads back as the
character. -/
theorem readBack_quoteChar {c : Char} (h : inBraces c = false) : ReadBack c (quoteChar c) := by
  unfold quoteChar
  split_ifs with h0 ht hr hn hb hq hx
  · subst h0
    exact .escape rfl rfl
  · subst ht
    exact .escape rfl rfl
  · subst hr
    exact .escape rfl rfl
  · subst hn
    exact .escape rfl rfl
  · subst hb
    exact .escape rfl rfl
  · subst hq
    exact .escape rfl rfl
  · simp [inBraces, h0, ht, hr, hn, hb, hq, hx] at h
  · have hp : isPrintable c = true := by simp at hx; exact hx.2
    have hbreak : Yaml.Chars.isBreak c = false := by
      cases hc : Yaml.Chars.isBreak c
      · rfl
      · rw [isPrintable_of_isBreak hc hn hr] at hp
        cases hp
    have hend : Yaml.Chars.isEnd c = false := by
      simp only [Yaml.Chars.isEnd, beq_eq_false_iff_ne]
      intro h0'
      rw [← Char.ofNat_toNat c, h0'] at h0
      exact h0 rfl
    exact .literal (by simp [Yaml.Chars.isBreakOrEnd, hbreak, hend]) ht hq hb

/-- The written form of a character outside braces starts with a character that is no break
and not the end, and that is no blank unless the character is a space. -/
theorem quoteChar_head {c : Char} (hc : inBraces c = false) :
    ∃ d ds, quoteChar c = d :: ds ∧ Yaml.Chars.isBreakOrEnd d = false ∧
      (c ≠ ' ' → Yaml.Chars.isBlank d = false) := by
  have hrb := readBack_quoteChar hc
  generalize quoteChar c = q at hrb
  cases hrb with
  | literal hbreak ht =>
    exact ⟨c, [], rfl, hbreak, fun hsp => by simp [Yaml.Chars.isBlank, hsp, ht]⟩
  | escape => exact ⟨'\\', _, rfl, rfl, fun _ => rfl⟩

/-- A list splits into a first run without spaces and a rest that is empty or starts with a
space. -/
theorem exists_word_split : ∀ l : List Char, ∃ w r, l = w ++ r ∧ (∀ c ∈ w, c ≠ ' ') ∧
    (r = [] ∨ ∃ r', r = ' ' :: r')
  | [] => ⟨[], [], rfl, by simp, .inl rfl⟩
  | c :: l => by
    by_cases hc : c = ' '
    · exact ⟨[], c :: l, rfl, by simp, .inr ⟨l, by rw [hc]⟩⟩
    · obtain ⟨w, r, rfl, hw, hr⟩ := exists_word_split l
      refine ⟨c :: w, r, rfl, fun x hx => ?_, hr⟩
      rcases List.mem_cons.mp hx with rfl | hx
      · exact hc
      · exact hw x hx

/-- A list splits into leading spaces and a rest that is empty or starts with another
character. -/
theorem exists_spaces_split : ∀ l : List Char, ∃ k r, l = List.replicate k ' ' ++ r ∧
    (r = [] ∨ ∃ c r', r = c :: r' ∧ c ≠ ' ')
  | [] => ⟨0, [], rfl, .inl rfl⟩
  | c :: l => by
    by_cases hc : c = ' '
    · obtain ⟨k, r, rfl, hr⟩ := exists_spaces_split l
      exact ⟨k + 1, r, by rw [hc]; rfl, hr⟩
    · exact ⟨0, c :: l, rfl, .inr ⟨c, l, rfl, hc⟩⟩

/-- Characters outside braces form a first word and either nothing more, or a space, more
spaces and characters outside braces that do not begin with a space. -/
theorem exists_line_split {l : List Char} (hl : ∀ c ∈ l, inBraces c = false) :
    ∃ w, (∀ c ∈ w, inBraces c = false ∧ c ≠ ' ') ∧
      (l = w ∨ ∃ k r, l = w ++ ' ' :: (List.replicate k ' ' ++ r) ∧
        (∀ c ∈ r, inBraces c = false) ∧ (r = [] ∨ ∃ c r', r = c :: r' ∧ c ≠ ' ')) := by
  obtain ⟨w, r, rfl, hw, hr⟩ := exists_word_split l
  refine ⟨w, fun c hc => ⟨hl c (List.mem_append_left r hc), hw c hc⟩, ?_⟩
  rcases hr with rfl | ⟨r', rfl⟩
  · exact .inl (List.append_nil w)
  · obtain ⟨k, r, rfl, hr⟩ := exists_spaces_split r'
    exact .inr ⟨k, r, rfl, fun c hc => hl c (by simp [hc]), hr⟩

/-- The written form of characters outside braces, then a character that is not the end,
starts with a character that is not the end. -/
theorem written_head {l : List Char} (hl : ∀ c ∈ l, inBraces c = false) (stop : Char)
    (hstop : Yaml.Chars.isEnd stop = false) (rest : List Char) :
    ∃ d more, l.flatMap quoteChar ++ stop :: rest = d :: more ∧ Yaml.Chars.isEnd d = false := by
  cases l with
  | nil => exact ⟨stop, rest, rfl, hstop⟩
  | cons c l =>
    obtain ⟨d, ds, hq, hd, -⟩ := quoteChar_head (hl c List.mem_cons_self)
    refine ⟨d, ds ++ l.flatMap quoteChar ++ stop :: rest, by simp [hq], ?_⟩
    simp only [Yaml.Chars.isBreakOrEnd, Bool.or_eq_false_iff] at hd
    exact hd.2

/-- The written form of a character other than a space starts with a character that is neither
blank nor a break. -/
theorem quoteChar_head_of_ne_space {c : Char} (hc : c ≠ ' ') :
    ∃ d ds, quoteChar c = d :: ds ∧ Yaml.Chars.isBlank d = false ∧
      Yaml.Chars.isBreak d = false := by
  cases hb : inBraces c with
  | true => exact ⟨'\\', _, by rw [quoteChar_of_inBraces hb]; rfl, rfl, rfl⟩
  | false =>
    obtain ⟨d, ds, hq, hd, hblank⟩ := quoteChar_head hb
    simp only [Yaml.Chars.isBreakOrEnd, Bool.or_eq_false_iff] at hd
    exact ⟨d, ds, hq, hblank hc, hd.1⟩

/-- After spaces, the written form of characters that do not start with a space, then the
closing quote, starts with a character that is neither blank nor a break. -/
theorem written_head_after_spaces {l : List Char} (hsp : l = [] ∨ ∃ c l', l = c :: l' ∧ c ≠ ' ')
    (rest : List Char) :
    ∃ d more, l.flatMap quoteChar ++ '"' :: rest = d :: more ∧
      Yaml.Chars.isBlank d = false ∧ Yaml.Chars.isBreak d = false := by
  rcases hsp with rfl | ⟨c, l', rfl, hc⟩
  · exact ⟨'"', rest, rfl, rfl, rfl⟩
  · obtain ⟨d, ds, hq, hblank, hbreak⟩ := quoteChar_head_of_ne_space hc
    exact ⟨d, ds ++ l'.flatMap quoteChar ++ '"' :: rest, by simp [hq], hblank, hbreak⟩

/-- A word, a space and more spaces are written as the word's written form and the spaces. -/
theorem flatMap_quoteChar_word_spaces (w r : List Char) (k : Nat) :
    (w ++ ' ' :: (List.replicate k ' ' ++ r)).flatMap quoteChar =
      w.flatMap quoteChar ++ List.replicate (k + 1) ' ' ++ r.flatMap quoteChar := by
  rw [List.flatMap_append, List.flatMap_cons, quoteChar_space, List.flatMap_append,
    flatMap_quoteChar_spaces, List.replicate_succ]
  simp

/-- A space is written as itself, never in braces. -/
theorem inBraces_ne_space {b : Char} (hb : inBraces b = true) : b ≠ ' ' := by
  rintro rfl
  revert hb
  decide +kernel

end Text

namespace Yaml

/-- The mark `k` characters further along a line. -/
def Mark.shift (m : Mark) (k : Nat) : Mark := ⟨m.index + k, m.line, m.column + k⟩

namespace Scanner

/-- The scanner `k` characters further along a line. -/
def shift (st : Scanner) (k : Nat) : Scanner := { st with mark := st.mark.shift k }

/-! ## Moving along a line

The scanner's input is fixed; a position is the suffix of the input from its mark on.  The
statements below are about a scanner whose suffix begins with a given list, written
`st.input.toList.drop st.mark.index = l ++ rest`. -/

@[simp] theorem shift_zero (st : Scanner) : st.shift 0 = st := rfl

@[simp] theorem input_shift (st : Scanner) (k : Nat) : (st.shift k).input = st.input := rfl

@[simp] theorem index_shift (st : Scanner) (k : Nat) :
    (st.shift k).mark.index = st.mark.index + k := rfl

theorem shift_column (st : Scanner) (k : Nat) :
    (st.shift k).mark.column = st.mark.column + k := rfl

theorem shift_shift (st : Scanner) (a b : Nat) : (st.shift a).shift b = st.shift (a + b) := by
  simp only [shift, Mark.shift, Nat.add_assoc]

/-- Past a prefix of the suffix, the rest of it. -/
theorem drop_shift {st : Scanner} {l rest : List Char}
    (hat : st.input.toList.drop st.mark.index = l ++ rest) :
    (st.shift l.length).input.toList.drop (st.shift l.length).mark.index = rest := by
  simp only [shift, Mark.shift]
  rw [← List.drop_drop, hat, List.drop_left]

/-- The characters of a prefix of the suffix, as the scanner looks them up. -/
theorem getD_input {st : Scanner} (l : List Char) {rest : List Char}
    (hat : st.input.toList.drop st.mark.index = l ++ rest) (k : Nat) (hk : k < l.length) :
    st.input.getD (st.mark.index + k) (Char.ofNat 0) = l[k] := by
  have h := congrArg (fun xs => xs[k]?) hat
  simp only [List.getElem?_drop, List.getElem?_append_left hk, List.getElem?_eq_getElem hk] at h
  rw [Array.getD_eq_getD_getElem?, ← Array.getElem?_toList, h]
  rfl

/-- A prefix of the suffix that another character follows is shorter than the scanner's budget
of steps. -/
theorem lt_budget {st : Scanner} {l rest : List Char} {c : Char}
    (hat : st.input.toList.drop st.mark.index = l ++ c :: rest) :
    l.length < st.input.size + 2 - st.mark.index := by
  have h := congrArg List.length hat
  simp only [List.length_drop, Array.length_toList, List.length_append, List.length_cons] at h
  omega

/-! ## Single steps -/

theorem peekAt_run (st : Scanner) (k : Nat) :
    (peekAt k).run st = pure (st.input.getD (st.mark.index + k) (Char.ofNat 0), st) := rfl

theorem peek_run {st : Scanner} {c : Char} {rest : List Char}
    (hat : st.input.toList.drop st.mark.index = c :: rest) : peek.run st = pure (c, st) := by
  have h0 := getD_input [c] hat 0 (by simp)
  simp only [Nat.add_zero, List.getElem_cons_zero] at h0
  simp only [peek, peekAt_run, Nat.add_zero, h0]

theorem advance_run (st : Scanner) : advance.run st = pure ((), st.shift 1) := rfl

theorem here_run (st : Scanner) : here.run st = pure (st.mark, st) := rfl

theorem budget_run (st : Scanner) :
    budget.run st = pure (st.input.size + 2 - st.mark.index, st) := rfl

theorem malformed_run {α : Type} (problem : String) (context : Option (String × Mark))
    (st : Scanner) :
    (malformed (α := α) problem context).run st = .error (.malformed problem st.mark context) :=
  rfl

/-- Away from the start of a line no document indicator stands. -/
theorem atDocumentIndicator_run {st : Scanner} (h : 0 < st.mark.column) :
    atDocumentIndicator.run st = pure (false, st) := by
  have hcol : (st.mark.column == 0) = false := by simp; omega
  simp only [atDocumentIndicator, peek, StateT.run_bind, peekAt_run, pure_bind, here_run, hcol,
    Bool.false_and]
  rfl

/-! ## Runs of non-blank characters -/

/-- A run ends at a space or at the closing quote. -/
theorem quotedRun_stop {start : Mark} {fuel : Nat} {st : Scanner} {stop : Char}
    {rest : List Char} (hat : st.input.toList.drop st.mark.index = stop :: rest)
    (hstop : stop = ' ' ∨ stop = '"') :
    (quotedRun false start (fuel + 1)).run st = pure (("", false), st) := by
  have h0 := getD_input [stop] hat 0 (by simp)
  rcases hstop with rfl | rfl
  · simp only [quotedRun, peek, StateT.run_bind, peekAt_run, Nat.add_zero] at h0 ⊢
    simp [h0]
    rfl
  · simp only [quotedRun, peek, StateT.run_bind, peekAt_run, Nat.add_zero] at h0 ⊢
    simp [h0]

/-- A character that stands for itself is taken and the run goes on. -/
theorem quotedRun_literal {start : Mark} {fuel : Nat} {st : Scanner} {c d : Char}
    {rest : List Char} (hat : st.input.toList.drop st.mark.index = c :: d :: rest)
    (hc : Chars.isBlankOrEnd c = false) (hq : c ≠ '"') (hb : c ≠ '\\') :
    (quotedRun false start (fuel + 1)).run st = (do
      let p ← (quotedRun false start fuel).run (st.shift 1)
      pure ((String.singleton c ++ p.1.1, p.1.2), p.2)) := by
  have h0 := getD_input [c, d] hat 0 (by simp)
  have h1 := getD_input [c, d] hat 1 (by simp)
  have hb' : (c == '\\') = false := by simpa using hb
  simp only [Nat.add_zero, List.getElem_cons_zero, List.getElem_cons_succ] at h0 h1
  simp only [quotedRun, peek, StateT.run_bind, peekAt_run, Nat.add_zero, h0, h1, pure_bind, hc,
    Bool.false_eq_true, if_false, Bool.false_and, beq_iff_eq, hq, Bool.not_false, Bool.true_and,
    hb', hb, advance_run]
  rfl

/-- A short escape is taken as its character and the run goes on. -/
theorem quotedRun_escape {start : Mark} {fuel : Nat} {st : Scanner} {c e : Char}
    {rest : List Char} (hat : st.input.toList.drop st.mark.index = '\\' :: e :: rest)
    (he : escapeOf e = some (.inl c)) (hbreak : Chars.isBreak e = false) :
    (quotedRun false start (fuel + 1)).run st = (do
      let p ← (quotedRun false start fuel).run (st.shift 2)
      pure ((String.singleton c ++ p.1.1, p.1.2), p.2)) := by
  have h0 := getD_input ['\\', e] hat 0 (by simp)
  have h1 := getD_input ['\\', e] hat 1 (by simp)
  simp only [Nat.add_zero, List.getElem_cons_zero, List.getElem_cons_succ] at h0 h1
  simp only [quotedRun, peek, StateT.run_bind, peekAt_run, Nat.add_zero, h0, h1, pure_bind,
    hbreak, he]
  rfl

/-- A `\u` escape followed by a brace fails where the brace stands: the escape wants four
hexadecimal digits. -/
theorem quotedRun_braced {start : Mark} {fuel : Nat} {st : Scanner} {rest : List Char}
    (hat : st.input.toList.drop st.mark.index = '\\' :: 'u' :: '{' :: rest) :
    (quotedRun false start (fuel + 1)).run st =
      .error (.malformed "did not find expected hexadecimal number" (st.shift 2).mark
        (some ("while parsing a quoted scalar", start))) := by
  have h0 := getD_input ['\\', 'u', '{'] hat 0 (by simp)
  have h1 := getD_input ['\\', 'u', '{'] hat 1 (by simp)
  have h2 := getD_input ['\\', 'u', '{'] hat 2 (by simp)
  simp only [Nat.add_zero, List.getElem_cons_zero, List.getElem_cons_succ] at h0 h1 h2
  simp only [quotedRun, peek, StateT.run_bind, peekAt_run, Nat.add_zero, h0, h1, pure_bind]
  have hcond : Chars.isBlankOrEnd '\\' = false := rfl
  have hu : escapeOf 'u' = some (.inr 4) := rfl
  have hb : Chars.isBreak 'u' = false := rfl
  have hq : ('\\' == '"') = false := rfl
  have hbs : ('\\' == '\\') = true := rfl
  have hx : Chars.hexValue? '{' = none := rfl
  simp only [hcond, Bool.false_eq_true, if_false, hu, hb, Bool.and_false, if_true, advance_run,
    here_run, StateT.run_bind, pure_bind, hexDigits, peek, peekAt_run, Bool.false_and, hq, hbs,
    Bool.not_false, Bool.true_and, shift_shift, input_shift, index_shift, Nat.add_zero, h2, hx,
    malformed_run]
  rfl

/-- The written form of a character outside braces, other than a space, is read as the
character. -/
theorem quotedRun_char {start : Mark} {fuel : Nat} {st : Scanner} {c d : Char}
    {more : List Char} (hc : Text.inBraces c = false) (hsp : c ≠ ' ')
    (hat : st.input.toList.drop st.mark.index = Text.quoteChar c ++ d :: more) :
    (quotedRun false start (fuel + 1)).run st = (do
      let p ← (quotedRun false start fuel).run (st.shift (Text.quoteChar c).length)
      pure ((String.singleton c ++ p.1.1, p.1.2), p.2)) := by
  have hrb := Text.readBack_quoteChar hc
  generalize Text.quoteChar c = q at hrb hat ⊢
  cases hrb with
  | literal hbreak ht hq hb =>
    have hblank : Chars.isBlankOrEnd c = false := by
      simp [Chars.isBlankOrEnd, Chars.isBlank, hsp, ht, hbreak]
    exact quotedRun_literal hat hblank hq hb
  | escape he hbreak => exact quotedRun_escape hat he hbreak

/-- A run of characters outside braces and without spaces, up to a space or the closing quote,
is read as itself. -/
theorem quotedRun_word {start : Mark} : ∀ (w : List Char) {st : Scanner} {fuel : Nat}
    {stop : Char} {rest : List Char},
    (∀ c ∈ w, Text.inBraces c = false ∧ c ≠ ' ') → (stop = ' ' ∨ stop = '"') →
    st.input.toList.drop st.mark.index = w.flatMap Text.quoteChar ++ stop :: rest →
    (w.flatMap Text.quoteChar).length < fuel →
    (quotedRun false start fuel).run st =
      pure ((String.ofList w, false), st.shift (w.flatMap Text.quoteChar).length)
  | [], st, fuel, stop, rest, _, hstop, hat, hfuel => by
    obtain ⟨fuel, rfl⟩ := Nat.exists_eq_add_one_of_ne_zero (Nat.ne_zero_of_lt hfuel)
    simpa using quotedRun_stop hat hstop
  | c :: w, st, fuel, stop, rest, hw, hstop, hat, hfuel => by
    obtain ⟨fuel, rfl⟩ := Nat.exists_eq_add_one_of_ne_zero (Nat.ne_zero_of_lt hfuel)
    obtain ⟨hc, hsp⟩ := hw c List.mem_cons_self
    rw [List.flatMap_cons, List.append_assoc] at hat
    rw [List.flatMap_cons, List.length_append] at hfuel ⊢
    -- the written form of `c` is followed by at least the stop
    obtain ⟨d, more, hmore⟩ : ∃ d more, w.flatMap Text.quoteChar ++ stop :: rest = d :: more := by
      cases w.flatMap Text.quoteChar with
      | nil => exact ⟨stop, rest, rfl⟩
      | cons x xs => exact ⟨x, xs ++ stop :: rest, rfl⟩
    rw [quotedRun_char hc hsp (hmore ▸ hat),
      quotedRun_word w (fun x hx => hw x (List.mem_cons_of_mem c hx)) hstop (drop_shift hat)
        (by have := Text.length_quoteChar_pos c; omega)]
    simp [String.ofList_cons, shift_shift]

/-- A run that reaches a character in braces stops at its brace, where no hexadecimal digit
stands. -/
theorem quotedRun_braces {start : Mark} : ∀ (w : List Char) {st : Scanner} {fuel : Nat}
    {b : Char} {rest : List Char},
    (∀ c ∈ w, Text.inBraces c = false ∧ c ≠ ' ') → Text.inBraces b = true →
    st.input.toList.drop st.mark.index = w.flatMap Text.quoteChar ++ Text.quoteChar b ++ rest →
    (w.flatMap Text.quoteChar).length < fuel →
    (quotedRun false start fuel).run st =
      .error (.malformed "did not find expected hexadecimal number"
        (st.shift ((w.flatMap Text.quoteChar).length + 2)).mark
        (some ("while parsing a quoted scalar", start)))
  | [], st, fuel, b, rest, _, hb, hat, hfuel => by
    obtain ⟨fuel, rfl⟩ := Nat.exists_eq_add_one_of_ne_zero (Nat.ne_zero_of_lt hfuel)
    rw [Text.quoteChar_of_inBraces hb] at hat
    have hbraced : st.input.toList.drop st.mark.index =
        '\\' :: 'u' :: '{' :: (Text.hexDigits b.toNat ++ ['}'] ++ rest) := by
      simpa using hat
    exact quotedRun_braced hbraced
  | c :: w, st, fuel, b, rest, hw, hb, hat, hfuel => by
    obtain ⟨fuel, rfl⟩ := Nat.exists_eq_add_one_of_ne_zero (Nat.ne_zero_of_lt hfuel)
    obtain ⟨hc, hsp⟩ := hw c List.mem_cons_self
    rw [List.flatMap_cons, List.append_assoc, List.append_assoc] at hat
    rw [List.flatMap_cons, List.length_append] at hfuel ⊢
    obtain ⟨d, more, hmore⟩ : ∃ d more,
        w.flatMap Text.quoteChar ++ (Text.quoteChar b ++ rest) = d :: more := by
      rw [Text.quoteChar_of_inBraces hb]
      cases w.flatMap Text.quoteChar with
      | nil => exact ⟨_, _, rfl⟩
      | cons x xs => exact ⟨x, _, rfl⟩
    rw [quotedRun_char hc hsp (hmore ▸ hat),
      quotedRun_braces w (fun x hx => hw x (List.mem_cons_of_mem c hx)) hb
        (by rw [List.append_assoc]; exact drop_shift hat)
        (by have := Text.length_quoteChar_pos c; omega)]
    simp only [shift_shift, Nat.add_assoc]
    rfl

/-- Spaces inside a quoted scalar, up to a character that is neither blank nor a break, are
gathered as pending whitespace. -/
theorem gatherBlanks_spaces {start : Mark} : ∀ (k : Nat) {st : Scanner} {fuel : Nat}
    {f : Folding} {next : Char} {rest : List Char},
    f.leadingBlanks = false →
    st.input.toList.drop st.mark.index = List.replicate k ' ' ++ next :: rest →
    Chars.isBlank next = false → Chars.isBreak next = false → k < fuel →
    (gatherBlanks start none f fuel).run st =
      pure ({ f with whitespaces := f.whitespaces ++ String.ofList (List.replicate k ' ') },
        st.shift k)
  | 0, st, fuel, f, next, rest, _, hat, hblank, hbreak, hfuel => by
    obtain ⟨fuel, rfl⟩ := Nat.exists_eq_add_one_of_ne_zero (Nat.ne_zero_of_lt hfuel)
    have h0 := getD_input [next] hat 0 (by simp)
    simp only [Nat.add_zero, List.getElem_cons_zero] at h0
    simp only [gatherBlanks, peek, StateT.run_bind, peekAt_run, Nat.add_zero, h0, pure_bind,
      hblank, hbreak, Bool.false_eq_true, if_false, List.replicate_zero, String.ofList_nil,
      String.append_empty, shift_zero]
    rfl
  | k + 1, st, fuel, ⟨text, lb, tb, ws, lead⟩, next, rest, hlead, hat, hblank, hbreak, hfuel => by
    obtain ⟨fuel, rfl⟩ := Nat.exists_eq_add_one_of_ne_zero (Nat.ne_zero_of_lt hfuel)
    obtain rfl : lead = false := hlead
    rw [List.replicate_succ, List.cons_append] at hat
    have h0 := getD_input [' '] hat 0 (by simp)
    simp only [Nat.add_zero, List.getElem_cons_zero] at h0
    have hnext := drop_shift (l := [' ']) hat
    simp only [List.length_singleton] at hnext
    have hsp : Chars.isBlank ' ' = true := rfl
    simp only [gatherBlanks, peek, StateT.run_bind, peekAt_run, Nat.add_zero, h0, pure_bind, hsp,
      if_true, advance_run, Bool.false_eq_true, if_false]
    rw [gatherBlanks_spaces k (f := ⟨text, lb, tb, ws.push ' ', false⟩) rfl hnext hblank hbreak
      (by omega)]
    simp [shift_shift, List.replicate_succ, String.ofList_cons, String.push_eq_append,
      String.append_assoc, Nat.add_comm]

/-! ## Lines of a quoted scalar -/

/-- One step of the lines of a quoted scalar over a word and the spaces after it: both join the
text, and the lines go on after the spaces. -/
theorem quotedLines_space {start : Mark} {fuel : Nat} {w : List Char} {k : Nat} {next : Char}
    {more : List Char} {st : Scanner} {text lb tb : String}
    (hw : ∀ c ∈ w, Text.inBraces c = false ∧ c ≠ ' ') (hcol : 0 < st.mark.column)
    (hat : st.input.toList.drop st.mark.index =
      w.flatMap Text.quoteChar ++ (List.replicate (k + 1) ' ' ++ next :: more))
    (hblank : Chars.isBlank next = false) (hbreak : Chars.isBreak next = false) :
    (quotedLines false start ⟨text, lb, tb, "", false⟩ (fuel + 1)).run st =
      (quotedLines false start
        ⟨text ++ String.ofList (w ++ List.replicate (k + 1) ' '), lb, tb, "", false⟩ fuel).run
        (st.shift ((w.flatMap Text.quoteChar).length + (k + 1))) := by
  have hrun : st.input.toList.drop st.mark.index =
      w.flatMap Text.quoteChar ++ ' ' :: (List.replicate k ' ' ++ next :: more) := by
    rw [hat, List.replicate_succ, List.cons_append]
  obtain ⟨d, ds, hd, hend⟩ :=
    Text.written_head (fun c hc => (hw c hc).1) ' ' rfl (List.replicate k ' ' ++ next :: more)
  have hblanks := drop_shift hat
  have hspace : (' ' == '"') = false := rfl
  simp only [quotedLines, StateT.run_bind, atDocumentIndicator_run hcol, pure_bind,
    Bool.false_eq_true, if_false, peek_run (hd ▸ hrun), hend, budget_run]
  rw [quotedRun_word w hw (.inl rfl) hrun (lt_budget hrun)]
  simp only [pure_bind, peek_run (drop_shift hrun), hspace, Bool.false_eq_true, if_false,
    StateT.run_bind, budget_run, Folding.push]
  rw [gatherBlanks_spaces (k + 1) rfl hblanks hblank hbreak (by
    have := lt_budget hblanks
    simp only [input_shift, index_shift, List.length_replicate] at this ⊢
    omega)]
  simp only [pure_bind, Folding.join, Bool.false_eq_true, if_false, shift_shift,
    String.ofList_append, String.append_assoc]
  rfl

/-- The lines of a quoted scalar whose text is the written form of characters outside braces
are read as those characters. -/
theorem quotedLines_text {start : Mark} : ∀ (fuel : Nat) (l : List Char) {st : Scanner}
    {text lb tb : String} {rest : List Char},
    (∀ c ∈ l, Text.inBraces c = false) → 0 < st.mark.column →
    st.input.toList.drop st.mark.index = l.flatMap Text.quoteChar ++ '"' :: rest →
    (l.flatMap Text.quoteChar).length < fuel →
    (quotedLines false start ⟨text, lb, tb, "", false⟩ fuel).run st =
      pure (⟨text ++ String.ofList l, lb, tb, "", false⟩,
        st.shift (l.flatMap Text.quoteChar).length)
  | 0, _, _, _, _, _, _, _, _, _, hfuel => absurd hfuel (Nat.not_lt_zero _)
  | fuel + 1, l, st, text, lb, tb, rest, hl, hcol, hat, hfuel => by
    obtain ⟨w, hwl, rfl | ⟨k, r'', rfl, hrl'', hr''⟩⟩ := Text.exists_line_split hl
    · -- the first run reaches the closing quote
      obtain ⟨d, more, hd, hend⟩ := Text.written_head (fun c hc => (hwl c hc).1) '"' rfl rest
      simp only [quotedLines, StateT.run_bind, atDocumentIndicator_run hcol, pure_bind,
        Bool.false_eq_true, if_false, peek_run (hd ▸ hat), hend, budget_run]
      rw [quotedRun_word l hwl (.inr rfl) hat (lt_budget hat)]
      simp only [pure_bind, peek_run (drop_shift hat)]
      simp [Folding.push]
    · -- the first run stops at a space: the spaces join the text and the rest is read on
      obtain ⟨next, more, hnext, hblank, hbreak⟩ := Text.written_head_after_spaces hr'' rest
      have hat' : st.input.toList.drop st.mark.index = w.flatMap Text.quoteChar ++
          List.replicate (k + 1) ' ' ++ (r''.flatMap Text.quoteChar ++ '"' :: rest) := by
        rw [hat, Text.flatMap_quoteChar_word_spaces]
        simp
      have hafter := drop_shift hat'
      rw [List.append_assoc, hnext] at hat'
      rw [Text.flatMap_quoteChar_word_spaces] at hfuel ⊢
      simp only [List.length_append, List.length_replicate] at hafter hfuel ⊢
      rw [quotedLines_space hwl hcol hat' hblank hbreak,
        quotedLines_text fuel r'' hrl'' (by rw [shift_column]; omega) hafter (by omega),
        shift_shift, Nat.add_assoc]
      simp [List.replicate_succ, String.ofList_append, String.ofList_cons, String.append_assoc]

/-- The lines of a quoted scalar that reach the written form of a character in braces stop at
its brace. -/
theorem quotedLines_braces {start : Mark} : ∀ (fuel : Nat) (pre : List Char) {b : Char}
    {post : List Char} {st : Scanner} {text lb tb : String} {rest : List Char},
    (∀ c ∈ pre, Text.inBraces c = false) → Text.inBraces b = true → 0 < st.mark.column →
    st.input.toList.drop st.mark.index =
      (pre ++ b :: post).flatMap Text.quoteChar ++ '"' :: rest →
    ((pre ++ b :: post).flatMap Text.quoteChar).length < fuel →
    (quotedLines false start ⟨text, lb, tb, "", false⟩ fuel).run st =
      .error (.malformed "did not find expected hexadecimal number"
        (st.shift ((pre.flatMap Text.quoteChar).length + 2)).mark
        (some ("while parsing a quoted scalar", start)))
  | 0, _, _, _, _, _, _, _, _, _, _, _, _, hfuel => absurd hfuel (Nat.not_lt_zero _)
  | fuel + 1, pre, b, post, st, text, lb, tb, rest, hpre, hb, hcol, hat, hfuel => by
    obtain ⟨w, hwl, rfl | ⟨k, r'', rfl, hrl'', hr''⟩⟩ := Text.exists_line_split hpre
    · -- the character in braces is in the first run, which stops at its brace
      have hrun : st.input.toList.drop st.mark.index =
          pre.flatMap Text.quoteChar ++ Text.quoteChar b ++
            (post.flatMap Text.quoteChar ++ '"' :: rest) := by
        rw [hat]
        simp
      have hbrace : st.input.toList.drop st.mark.index = pre.flatMap Text.quoteChar ++ '\\' ::
          ('u' :: '{' :: (Text.hexDigits b.toNat ++ ['}'] ++ post.flatMap Text.quoteChar ++
            '"' :: rest)) := by
        rw [hrun, Text.quoteChar_of_inBraces hb]
        simp
      obtain ⟨d, more, hd, hend⟩ := Text.written_head (fun c hc => (hwl c hc).1) '\\' rfl
        ('u' :: '{' :: (Text.hexDigits b.toNat ++ ['}'] ++ post.flatMap Text.quoteChar ++
          '"' :: rest))
      simp only [quotedLines, StateT.run_bind, atDocumentIndicator_run hcol, pure_bind,
        Bool.false_eq_true, if_false, peek_run (hd ▸ hbrace), hend, budget_run]
      rw [quotedRun_braces pre hwl hb hrun (lt_budget hbrace)]
      rfl
    · -- the first run stops at a space: the spaces join the text and the rest is read on
      have hhead : r'' ++ b :: post = [] ∨ ∃ c l', r'' ++ b :: post = c :: l' ∧ c ≠ ' ' := by
        rcases hr'' with rfl | ⟨c, l', rfl, hc⟩
        · exact .inr ⟨b, post, rfl, Text.inBraces_ne_space hb⟩
        · exact .inr ⟨c, l' ++ b :: post, rfl, hc⟩
      obtain ⟨next, more, hnext, hblank, hbreak⟩ := Text.written_head_after_spaces hhead rest
      have hat' : st.input.toList.drop st.mark.index = w.flatMap Text.quoteChar ++
          List.replicate (k + 1) ' ' ++ ((r'' ++ b :: post).flatMap Text.quoteChar ++ '"' :: rest) := by
        rw [hat, List.flatMap_append, Text.flatMap_quoteChar_word_spaces]
        simp
      have hafter := drop_shift hat'
      rw [List.append_assoc, hnext] at hat'
      have hlen : ((w ++ ' ' :: (List.replicate k ' ' ++ r'') ++ b :: post).flatMap
          Text.quoteChar).length = (w.flatMap Text.quoteChar).length + (k + 1) +
            ((r'' ++ b :: post).flatMap Text.quoteChar).length := by
        rw [List.flatMap_append, Text.flatMap_quoteChar_word_spaces]
        simp [Nat.add_assoc]
      rw [Text.flatMap_quoteChar_word_spaces]
      simp only [List.length_append, List.length_replicate] at hafter ⊢
      rw [quotedLines_space hwl hcol hat' hblank hbreak,
        quotedLines_braces fuel r'' hrl'' hb (by rw [shift_column]; omega) hafter (by omega),
        shift_shift]
      congr 4

/-! ## The quoted form, read back -/

/-- The characters of the quoted form. -/
theorem quoted_toList (s : String) :
    (Text.quoted s).toList = '"' :: (s.toList.flatMap Text.quoteChar ++ ['"']) := by
  simp [Text.quoted]

/-- The length of the quoted form: the written forms and the two quotes. -/
theorem length_quoted (s : String) :
    (Text.quoted s).length = (s.toList.flatMap Text.quoteChar).length + 2 := by
  rw [← String.length_toList, quoted_toList]
  simp

/-- Past the opening quote, the written forms of the text's characters and the closing quote. -/
theorem drop_quoted {s : String} {st : Scanner} {rest : List Char}
    (hat : st.input.toList.drop st.mark.index = (Text.quoted s).toList ++ rest) :
    (st.shift 1).input.toList.drop (st.shift 1).mark.index =
      s.toList.flatMap Text.quoteChar ++ '"' :: rest :=
  drop_shift (l := ['"']) (by rw [hat, quoted_toList]; simp)

/-- A double-quoted scalar: the opening quote, the lines up to the closing quote, then the
closing quote; one scalar token is queued from the opening quote to past the closing one. -/
theorem scanQuoted_run (st : Scanner) : (scanQuoted false).run st = (do
    let p ← (quotedLines false st.mark ⟨"", "", "", "", false⟩
      ((st.shift 1).input.size + 2 - (st.shift 1).mark.index)).run (st.shift 1)
    pure ((), { p.2.shift 1 with
      queue := p.2.queue ++ [⟨.scalar p.1.text .doubleQuoted, st.mark, (p.2.shift 1).mark⟩] })) := by
  simp only [scanQuoted, StateT.run_bind, here_run, advance_run, budget_run, pure_bind]
  rfl

/-- The quoted form of a text without characters in braces is scanned as one double-quoted
scalar holding the text. -/
theorem scanQuoted_text {s : String} {st : Scanner} {rest : List Char}
    (hat : st.input.toList.drop st.mark.index = (Text.quoted s).toList ++ rest)
    (hs : ∀ c ∈ s.toList, Text.inBraces c = false) :
    (scanQuoted false).run st = pure ((), { st.shift (Text.quoted s).length with
      queue := st.queue ++ [⟨.scalar s .doubleQuoted, st.mark,
        (st.shift (Text.quoted s).length).mark⟩] }) := by
  have hopen := drop_quoted hat
  rw [scanQuoted_run, quotedLines_text _ s.toList hs (by rw [shift_column]; omega) hopen
    (lt_budget hopen)]
  simp only [pure_bind, shift_shift, length_quoted, String.empty_append, String.ofList_toList]
  rw [Nat.add_comm 1, Nat.add_assoc]
  rfl

/-- The quoted form of a text is refused at the brace of its first character in braces. -/
theorem scanQuoted_braces {s : String} {st : Scanner} {rest : List Char}
    (hat : st.input.toList.drop st.mark.index = (Text.quoted s).toList ++ rest)
    {pre : List Char} {b : Char} {post : List Char} (hsplit : s.toList = pre ++ b :: post)
    (hpre : ∀ c ∈ pre, Text.inBraces c = false) (hb : Text.inBraces b = true) :
    (scanQuoted false).run st = .error (.malformed "did not find expected hexadecimal number"
      (st.shift ((pre.flatMap Text.quoteChar).length + 3)).mark
      (some ("while parsing a quoted scalar", st.mark))) := by
  have hopen := drop_quoted hat
  rw [hsplit] at hopen
  rw [scanQuoted_run, quotedLines_braces _ pre hpre hb (by rw [shift_column]; omega) hopen
    (lt_budget hopen), shift_shift, Nat.add_comm 1, Nat.add_assoc]
  rfl

/-- The scanner reads the quoted form of a text exactly when no character of it is written in
braces. -/
theorem scanQuoted_quoted_ok_iff {s : String} {st : Scanner} {rest : List Char}
    (hat : st.input.toList.drop st.mark.index = (Text.quoted s).toList ++ rest) :
    (∃ st', (scanQuoted false).run st = pure ((), st')) ↔
      ∀ c ∈ s.toList, Text.inBraces c = false := by
  constructor
  · rintro ⟨st', hok⟩ c hc
    cases hc' : Text.inBraces c with
    | false => rfl
    | true =>
      -- the first character in braces stops the scan
      have hsome : (s.toList.find? Text.inBraces).isSome := List.find?_isSome.mpr ⟨c, hc, hc'⟩
      obtain ⟨b, hb⟩ := Option.isSome_iff_exists.mp hsome
      obtain ⟨hbb, pre, post, hsplit, hpre⟩ := List.find?_eq_some_iff_append.mp hb
      rw [scanQuoted_braces hat hsplit (fun x hx => by simpa using hpre x hx) hbb] at hok
      cases hok
  · intro hs
    exact ⟨_, scanQuoted_text hat hs⟩

end Scanner

end Yaml

/-! ## A snippet that does not load -/

end Attest
