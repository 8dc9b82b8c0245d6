import Attest.Regex.Strict

/-!
# The extended grammar

After the strict check a pattern is read into a `Node` by an extended
grammar that adds look-around, back-references, atomic groups and possessive
repetition.  Its rules:

* a piece is an atom with at most one quantifier (`?`, `*`, `+`, `{m}`,
  `{m,}`, `{,n}`, `{m,n}`, where `n` may be below `m`); a `{` that does not
  open a well-formed count is a literal; a `?` after the quantifier makes it
  lazy, a `+` possessive;
  look-around, assertions and empty atoms cannot be repeated;
* groups: look-ahead `(?=` `(?!`, look-behind `(?<=` `(?<!` (of fixed width),
  named groups `(?<n>` and `(?P<n>`, the reference `(?P=n)`, atomic
  `(?>`, and flags `(?imsUx-imsUx)` or `(?flags:…)`; flags set by
  `(?flags)` hold to the end of the pattern, those of `(?flags:…)` only
  inside; groups nest at most 64 deep;
* escapes: `\1` (below half the pattern's size in bytes) and `\k<n>`
  are back-references, to a group opened before them, and a pattern that
  refers to a group by its number has no named groups; `\A \z \b \B \< \>`
  assertions; `\d \s \w` and their negations the Unicode classes; `\h`
  hexadecimal digits; `\x`, `\u`, `\U` a code point; `\p` a property; `\K`
  resets the match start; `\G` holds at the start; `\a \e \f \n \r \t \v`
  control characters; any character that is no ASCII letter or digit stands
  for itself; inside a bracket class `\b` is the backspace and any other
  letter stands for itself;
* a bracket class is collected up to its matching `]` and then read by the
  bracket grammar.

In the blank-ignoring mode ASCII blanks and `#` comments between pieces are
skipped.
-/

namespace Attest

namespace Regex

/-- What the extended reading carries along. -/
structure Reader where
  flags : Flags
  /-- Capture groups opened so far. -/
  groups : Nat
  names : List (String × Nat)
  /-- The size of the whole pattern in bytes. -/
  size : Nat
  /-- Whether a group was referred to by its number. -/
  numbered : Bool
  deriving Inhabited

/-- Whether a node is the empty node. -/
def Node.isEmpty : Node → Bool
  | .empty => true
  | _ => false

/-- Whether a quantifier may follow a node. -/
def Node.repeatable : Node → Bool
  | .empty | .assertion _ | .look _ _ _ | .keepOut => false
  | _ => true

/-- Skip ASCII blanks and `#` comments when the pattern ignores blanks. -/
def Flags.skip (f : Flags) (inComment : Bool) : List Char → List Char
  | [] => []
  | c :: rest =>
    if !f.ignoreSpace then c :: rest
    else if inComment then f.skip (c != '\n') rest
    else if c == ' ' || c == '\r' || c == '\n' || c == '\t' then f.skip false rest
    else if c == '#' then f.skip true rest
    else c :: rest

/-- A character, matched up to case when the flags say so. -/
def Flags.literal (f : Flags) (c : Char) : Node :=
  .chars (if f.caseless then CharSet.caseless c.toNat else CharSet.single c.toNat)

/-- A decimal number of at least one digit that fits in 64 bits. -/
def decimalAt (cs : List Char) : Option (Nat × List Char) :=
  let ds := cs.takeWhile Char.isDigit
  let value := ds.foldl (fun acc d => acc * 10 + (d.toNat - '0'.toNat)) 0
  if ds.isEmpty || value ≥ Nat.pow 2 64 then none else some (value, cs.drop ds.length)

/-- A count `{m}`, `{m,}`, `{,n}` or `{m,n}` from just after its `{`: the
bounds (`none` for no upper bound) and the rest after the `}`. -/
def countAt (f : Flags) (cs : List Char) : Option ((Nat × Option Nat) × List Char) := do
  let cs := f.skip false cs
  if cs.isEmpty then none
  let (lo, cs) ← match cs with
    | ',' :: _ => some (0, cs)
    | _ => decimalAt cs
  match f.skip false cs with
  | '}' :: rest => some ((lo, some lo), rest)
  | ',' :: rest =>
    let rest := f.skip false rest
    let (hi, rest) := match decimalAt rest with
      | some (h, after) => (some h, after)
      | none => (none, rest)
    match f.skip false rest with
    | '}' :: after => some ((lo, hi), after)
    | _ => none
  | _ => none

/-- Whether a character may stand in a group name of the extended grammar. -/
def isIdChar (c : Char) : Bool := c == '_' || CharSet.isAlphanumeric c

/-- A name of letters, digits and `_` between an opening character (if any)
and a closing one. -/
def idAt (opening : Option Char) (closing : Char) (cs : List Char) : Option (String × List Char) := do
  let cs ← match opening, cs with
    | some o, c :: rest => if c == o then some rest else none
    | some _, [] => none
    | none, _ => some cs
  let id := cs.takeWhile isIdChar
  match cs.drop id.length with
  | c :: rest => if c == closing && !id.isEmpty then some (String.ofList id, rest) else none
  | [] => none

/-- The group a back-reference name stands for: a named group read so far,
or the number of a group opened before it. -/
def Reader.groupNamed? (r : Reader) (name : String) : Option (Nat × Reader) :=
  match r.names.lookup name with
  | some g => some (g, r)
  | none => name.toNat?.bind fun g => if g ≤ r.groups then some (g, { r with numbered := true }) else none

/-- What an escape of the extended grammar gives: a character, a class
(with the text that stands for it inside brackets) or another node. -/
inductive Atom where
  | literal (c : Char)
  | delegate (text : List Char) (set : CharSet)
  | node (n : Node)
  deriving Inhabited

/-- The characters that are escaped when a literal is written back into a
bracket class. -/
def isQuotedInClass (c : Char) : Bool := "\\.+*?()|[]\x7b\x7d^$#".toList.contains c

/-- A code point given by hexadecimal digits after `\x`, `\u` or `\U`:
exactly `width` digits, or one to eight digits in braces. -/
def hexEscapeAt (width : Nat) (cs : List Char) : Option (Char × List Char) := do
  if cs.isEmpty then none
  let fixed := cs.take width
  let (digits, rest) ← if fixed.length == width && fixed.all fun c => (hexValue? c).isSome then
      some (fixed, cs.drop width)
    else
      match cs with
      | '{' :: more =>
        let ds := more.takeWhile fun c => (hexValue? c).isSome
        match more.drop ds.length with
        | '}' :: after => if ds.isEmpty || ds.length > 8 then none else some (ds, after)
        | _ => none
      | _ => none
  let c ← charOf? (hexNumber digits)
  some (c, rest)

/-- The set of a property escape, from the text after its backslash. -/
def propertySet? (caseless : Bool) (text : List Char) : Option CharSet :=
  match readEscape false text with
  | .ok (.property negated query, []) =>
    query.set?.map (CharSet.shape caseless (negated != query.unequal))
  | _ => none

/-- Read an escape of the extended grammar from just after its backslash;
`inClass` when it stands inside a bracket class. -/
def escapeAt (r : Reader) (inClass : Bool) (cs : List Char) : Option (Atom × Reader × List Char) :=
  let f := r.flags
  match cs with
  | [] => none
  | b :: rest =>
    if b.isDigit then do
      let (g, after) ← decimalAt cs
      if g < r.size / 2 && g ≤ r.groups then
        some (.node (.backref g f.caseless), { r with numbered := true }, after)
      else none
    else if b == 'k' && !inClass then do
      let (name, after) ← match rest with
        | '\'' :: _ => idAt (some '\'') '\'' rest
        | _ => idAt (some '<') '>' rest
      let (g, r) ← r.groupNamed? name
      some (.node (.backref g f.caseless), r, after)
    else if b == 'A' && !inClass then some (.node (.assertion .textStart), r, rest)
    else if b == 'z' && !inClass then some (.node (.assertion .textEnd), r, rest)
    else if (b == 'b' || b == 'B') && !inClass then
      if (f.skip false rest).head? == some '{' then none
      else some (.node (.assertion (if b == 'b' then .wordBoundary else .notWordBoundary)), r, rest)
    else if b == '<' && !inClass then some (.node (.assertion .wordStart), r, rest)
    else if b == '>' && !inClass then some (.node (.assertion .wordEnd), r, rest)
    else if "dswDSW".toList.contains b then
      let kind : Perl := if b == 'd' || b == 'D' then .digit else if b == 's' || b == 'S' then .space else .word
      let set := if b.isUpper then kind.set.complement else kind.set
      some (.delegate ['\\', b] set, r, rest)
    else if b == 'h' || b == 'H' then
      let set := CharSet.ofRanges [('0'.toNat, '9'.toNat), ('A'.toNat, 'F'.toNat), ('a'.toNat, 'f'.toNat)]
      if b == 'h' then some (.delegate "[0-9A-Fa-f]".toList set, r, rest)
      else some (.delegate "[^0-9A-Fa-f]".toList set.complement, r, rest)
    else if b == 'x' || b == 'u' || b == 'U' then do
      let (c, after) ← hexEscapeAt (if b == 'x' then 2 else if b == 'u' then 4 else 8) rest
      some (.literal c, r, after)
    else if (b == 'p' || b == 'P') && !rest.isEmpty then do
      let (name, after) ← match rest with
        | '{' :: more =>
          let body := more.takeWhile (· != '}')
          match more.drop body.length with
          | '}' :: tail => some ('{' :: body ++ ['}'], tail)
          | _ => none
        | c :: tail => some ([c], tail)
        | [] => none
      let set ← propertySet? f.caseless (b :: name)
      some (.delegate ('\\' :: b :: name) set, r, after)
    else if b == 'K' && !inClass then some (.node .keepOut, r, rest)
    else if b == 'G' && !inClass then some (.node (.assertion .searchStart), r, rest)
    else if !b.isAlphanum then some (.literal b, r, rest)
    else
      match b with
      | 'a' => some (.literal '\x07', r, rest)
      | 'b' => some (.literal '\x08', r, rest)
      | 'e' => some (.literal '\x1b', r, rest)
      | 'f' => some (.literal '\x0c', r, rest)
      | 'n' => some (.literal '\n', r, rest)
      | 'r' => some (.literal '\r', r, rest)
      | 't' => some (.literal '\t', r, rest)
      | 'v' => some (.literal '\x0b', r, rest)
      | _ => if inClass then some (.literal b, r, rest) else none

/-- Collect a bracket class from just after its `[` up to its matching `]`,
rewriting escapes: literals are quoted, classes copied, anything else
refused.  `nest` counts the open brackets. -/
def collectClass (r : Reader) : Nat → Nat → List Char → List Char → Option (List Char × List Char)
  | 0, _, _, _ => none
  | fuel + 1, nest, acc, cs =>
    match cs with
    | [] => none
    | '\\' :: rest => do
      let (atom, _, after) ← escapeAt r true rest
      match atom with
      | .literal c =>
        let quoted := if isQuotedInClass c then [c, '\\'] else [c]
        collectClass r fuel nest (quoted ++ acc) after
      | .delegate text _ => collectClass r fuel nest (text.reverse ++ acc) after
      | .node _ => none
    | '[' :: rest => collectClass r fuel (nest + 1) ('[' :: acc) rest
    | ']' :: rest =>
      if nest ≤ 1 then some ((']' :: acc).reverse, rest)
      else collectClass r fuel (nest - 1) (']' :: acc) rest
    | c :: rest => collectClass r fuel nest (c :: acc) rest

/-- A bracket class from just after its `[`, as a node. -/
def classAt (r : Reader) (cs : List Char) : Option (Node × List Char) := do
  let (opening, cs) := match cs with
    | '^' :: rest => (['^', '['], rest)
    | _ => (['['], cs)
  let (opening, cs) := match cs with
    | ']' :: rest => (']' :: opening, rest)
    | _ => (opening, cs)
  let (text, rest) ← collectClass r (cs.length + 1) 1 opening cs
  match readBracket false (text.drop 1) with
  | .ok (tree, []) =>
    let set ← tree.eval r.flags.caseless
    some (.chars set, rest)
  | _ => none

/-- The deepest nesting of groups. -/
def maxDepth : Nat := 64

/-- The outcome of reading a part of a pattern: the node, the state after
it and the rest. -/
abbrev Read := Option (Node × Reader × List Char)

mutual

/-- Alternatives separated by `|`. -/
def alternation : Nat → Nat → Reader → List Char → Read
  | 0, _, _, _ => none
  | fuel + 1, depth, r, cs => do
    let (first, r, rest) ← branch fuel depth r cs
    match r.flags.skip false rest with
    | '|' :: more => moreBranches fuel depth r more [first]
    | rest => some (first, r, rest)

/-- The branches after a `|`, latest first in `acc`. -/
def moreBranches : Nat → Nat → Reader → List Char → List Node → Read
  | 0, _, _, _, _ => none
  | fuel + 1, depth, r, cs, acc => do
    let (b, r, rest) ← branch fuel depth r cs
    match r.flags.skip false rest with
    | '|' :: more => moreBranches fuel depth r more (b :: acc)
    | rest => some (.alt (b :: acc).reverse, r, rest)

/-- Pieces in sequence, until one reads nothing. -/
def branch : Nat → Nat → Reader → List Char → Read
  | 0, _, _, _ => none
  | fuel + 1, depth, r, cs => pieces fuel depth r cs []

/-- The pieces of a branch, latest first in `acc`. -/
def pieces : Nat → Nat → Reader → List Char → List Node → Read
  | 0, _, _, _, _ => none
  | fuel + 1, depth, r, cs, acc =>
    let done := fun (r : Reader) (cs : List Char) =>
      match acc with
      | [] => some (Node.empty, r, cs)
      | [n] => some (n, r, cs)
      | _ => some (Node.concat acc.reverse, r, cs)
    if cs.isEmpty then done r cs
    else do
      let (n, r', rest) ← piece fuel depth r cs
      if rest.length == cs.length then done r cs
      else pieces fuel depth r' rest (if n.isEmpty then acc else n :: acc)

/-- An atom with its quantifier, if any. -/
def piece : Nat → Nat → Reader → List Char → Read
  | 0, _, _, _ => none
  | fuel + 1, depth, r, cs => do
    let (a, r, rest) ← atom fuel depth r cs
    let rest := r.flags.skip false rest
    let quantified : Option ((Nat × Option Nat) × List Char) :=
      match rest with
      | '?' :: more => some ((0, some 1), more)
      | '*' :: more => some ((0, none), more)
      | '+' :: more => some ((1, none), more)
      | '{' :: more => countAt r.flags more
      | _ => none
    match quantified with
    | none => some (a, r, rest)
    | some ((lo, hi), after) =>
      if !a.repeatable then none
      else
        let after := r.flags.skip false after
        let (lazy, after) := match after with
          | '?' :: more => (true, more)
          | _ => (false, after)
        let node := Node.loop a lo hi (lazy == r.flags.swapGreed)
        match after with
        | '+' :: more => some (.atomic node, r, more)
        | _ => some (node, r, after)

/-- One atom. -/
def atom : Nat → Nat → Reader → List Char → Read
  | 0, _, _, _ => none
  | fuel + 1, depth, r, cs =>
    let f := r.flags
    match f.skip false cs with
    | [] => some (.empty, r, [])
    | '.' :: rest =>
      some (.chars (if f.dotAll then CharSet.full else (CharSet.single '\n'.toNat).complement), r, rest)
    | '^' :: rest => some (.assertion (if f.multiLine then .lineStart else .textStart), r, rest)
    | '$' :: rest => some (.assertion (if f.multiLine then .lineEnd else .textEnd), r, rest)
    | '(' :: rest => group fuel depth r rest
    | '\\' :: rest => do
      let (a, r, after) ← escapeAt r false rest
      match a with
      | .literal c => some (f.literal c, r, after)
      | .delegate _ set => some (.chars set, r, after)
      | .node n => some (n, r, after)
    | '+' :: rest => some (.empty, r, '+' :: rest)
    | '*' :: rest => some (.empty, r, '*' :: rest)
    | '?' :: rest => some (.empty, r, '?' :: rest)
    | '|' :: rest => some (.empty, r, '|' :: rest)
    | ')' :: rest => some (.empty, r, ')' :: rest)
    | '[' :: rest => do
      let (n, after) ← classAt r rest
      some (n, r, after)
    | c :: rest => some (f.literal c, r, rest)

/-- A body up to its `)`, wrapped. -/
def groupBody : Nat → Nat → Reader → List Char → (Node → Node) → Read
  | 0, _, _, _, _ => none
  | fuel + 1, depth, r, cs, wrap => do
    let (body, r, rest) ← alternation fuel depth r cs
    match r.flags.skip false rest with
    | ')' :: more => some (wrap body, r, more)
    | _ => none

/-- A group from just after its `(`. -/
def group : Nat → Nat → Reader → List Char → Read
  | 0, _, _, _ => none
  | fuel + 1, depth, r, cs =>
    if depth + 1 ≥ maxDepth then none
    else
      let depth := depth + 1
      match r.flags.skip false cs with
      | '?' :: '=' :: rest => groupBody fuel depth r rest (.look false false)
      | '?' :: '!' :: rest => groupBody fuel depth r rest (.look false true)
      | '?' :: '<' :: '=' :: rest => groupBody fuel depth r rest (.look true false)
      | '?' :: '<' :: '!' :: rest => groupBody fuel depth r rest (.look true true)
      | '?' :: '<' :: rest => do
        let g := r.groups + 1
        let (name, after) ← idAt (some '<') '>' ('<' :: rest)
        groupBody fuel depth { r with groups := g, names := (name, g) :: r.names } after (.group (some g))
      | '?' :: 'P' :: '<' :: rest => do
        let g := r.groups + 1
        let (name, after) ← idAt (some '<') '>' ('<' :: rest)
        groupBody fuel depth { r with groups := g, names := (name, g) :: r.names } after (.group (some g))
      | '?' :: 'P' :: '=' :: rest => do
        let (name, after) ← idAt none ')' rest
        let (g, r) ← r.groupNamed? name
        some (.backref g r.flags.caseless, r, after)
      | '?' :: '>' :: rest => groupBody fuel depth r rest .atomic
      | '?' :: '(' :: _ => none
      | '?' :: rest => flagGroup fuel depth r r.flags false 0 rest
      | rest => groupBody fuel depth { r with groups := r.groups + 1 } rest (.group (some (r.groups + 1)))

/-- The flags of a group from just after its `?`: `flags` are those set so
far, `negated` whether a `-` was read, `count` the characters read. -/
def flagGroup : Nat → Nat → Reader → Flags → Bool → Nat → List Char → Read
  | 0, _, _, _, _, _, _ => none
  | fuel + 1, depth, r, flags, negated, count, cs =>
    let skipped := flags.skip false cs
    let count := count + (cs.length - skipped.length)
    match skipped with
    | [] => none
    | c :: rest =>
      let on := !negated
      let next := fun (flags : Flags) => flagGroup fuel depth r flags negated (count + 1) rest
      match c with
      | 'i' => next { flags with caseless := on }
      | 'm' => next { flags with multiLine := on }
      | 's' => next { flags with dotAll := on }
      | 'U' => next { flags with swapGreed := on }
      | 'x' => next { flags with ignoreSpace := on }
      | 'u' => if negated then none else next flags
      | '-' => if negated then none else flagGroup fuel depth r flags true (count + 1) rest
      | ')' =>
        if count == 0 || (negated && count == 1) then none
        else some (.empty, { r with flags := flags }, rest)
      | ':' =>
        if negated && count == 1 then none
        else do
          let (body, r', after) ← alternation fuel depth { r with flags := flags } rest
          match r'.flags.skip false after with
          | ')' :: more => some (body, { r' with flags := r.flags }, more)
          | _ => none
      | _ => none

end

/-- Read a whole pattern: its tree and the number of its capture groups. -/
def parseExtended (cs : List Char) : Option (Node × Nat) := do
  let start : Reader := ⟨{}, 0, [], (String.ofList cs).utf8ByteSize, false⟩
  let (node, r, rest) ← alternation (8 * cs.length + 16) 0 start cs
  if rest.isEmpty && !(r.numbered && !r.names.isEmpty) then some (node, r.groups) else none

end Regex

end Attest
