import Attest.Regex.Syntax

/-!
# Escapes and bracket classes

The grammar of escapes and of bracket classes that every pattern's classes
are finally read with.  A bracket class is a union of items (characters,
ranges, ASCII classes such as `[:alpha:]`, the shorthands `\d`, `\s`, `\w`,
Unicode properties and nested brackets) combined left to right by `&&`
(intersection), `--` (difference) and `~~` (symmetric difference).  Reading
gives a `ClassTree`; `ClassTree.eval` turns it into a set, folding case
where the pattern ignores it and then negating.

In the blank-ignoring mode blanks and `#` comments between the parts of a
class are skipped.
-/

namespace Attest

namespace Regex

/-- Why the strict grammar refuses a pattern. -/
inductive Fault where
  /-- Look-around or a back-reference: left to the extended grammar. -/
  | unsupported
  | malformed
  deriving Inhabited, BEq, Repr

/-- The value of a hexadecimal digit. -/
def hexValue? (c : Char) : Option Nat :=
  if '0' ≤ c ∧ c ≤ '9' then some (c.toNat - '0'.toNat)
  else if 'a' ≤ c ∧ c ≤ 'f' then some (c.toNat - 'a'.toNat + 10)
  else if 'A' ≤ c ∧ c ≤ 'F' then some (c.toNat - 'A'.toNat + 10)
  else none

/-- The value of a list of hexadecimal digits. -/
def hexNumber (ds : List Char) : Nat :=
  ds.foldl (fun acc d => acc * 16 + (hexValue? d).getD 0) 0

/-- The character of a code point, when it is one: no surrogate and nothing
beyond the last code point. -/
def charOf? (n : Nat) : Option Char :=
  if n ≤ maxCodePoint && !(0xD800 ≤ n && n ≤ 0xDFFF) then some (Char.ofNat n) else none

/-- Skip blanks and `#` comments (up to the end of their line) when `space`
is set; `inComment` says a comment is open. -/
def skipBlanks (space inComment : Bool) : List Char → List Char
  | [] => []
  | c :: rest =>
    if !space then c :: rest
    else if inComment then skipBlanks space (c != '\n') rest
    else if Text.isWhiteSpace c then skipBlanks space false rest
    else if c == '#' then skipBlanks space true rest
    else c :: rest

/-- The characters that an escape turns into themselves because they mean
something unescaped. -/
def isMetaChar (c : Char) : Bool := "\\.+*?()|[]\x7b\x7d^$#&-~".toList.contains c

/-- The characters that may be escaped to stand for themselves: the
metacharacters and every other ASCII character that is neither a letter, a
digit, `<` nor `>`. -/
def isEscapable (c : Char) : Bool :=
  isMetaChar c ||
    (c.toNat < 0x80 && !c.isAlphanum && c != '<' && c != '>')

/-- A shorthand class: digits, blanks or word characters. -/
inductive Perl where
  | digit
  | space
  | word
  deriving Inhabited, BEq

/-- The Unicode set of a shorthand class. -/
def Perl.set : Perl → CharSet
  | .digit => CharSet.digits
  | .space => CharSet.spaces
  | .word => CharSet.words

/-- How a Unicode property is named: one letter, a name, or a name with a
value (`unequal` for the form with `!=`). -/
inductive PropertyQuery where
  | letter (c : Char)
  | named (name : String)
  | valued (name value : String) (unequal : Bool)
  deriving Inhabited

/-- The set a property query names. -/
def PropertyQuery.set? : PropertyQuery → Option CharSet
  | .letter c => CharSet.ofPropertyName? (String.singleton c)
  | .named name => CharSet.ofPropertyName? name
  | .valued name value _ => CharSet.ofPropertyValue? name value

/-- Whether a property query asks for the complement. -/
def PropertyQuery.unequal : PropertyQuery → Bool
  | .valued _ _ u => u
  | _ => false

/-- What an escape stands for. -/
inductive Escape where
  | literal (c : Char)
  | assertion
  | perl (kind : Perl) (negated : Bool)
  | property (negated : Bool) (query : PropertyQuery)
  deriving Inhabited

/-- Exactly `n` hexadecimal digits, blanks allowed after each. -/
def fixedHex (space : Bool) : Nat → List Char → List Char → Except Fault (List Char × List Char)
  | 0, acc, cs => .ok (acc.reverse, cs)
  | n + 1, acc, c :: rest =>
    if (hexValue? c).isSome then fixedHex space n (c :: acc) (skipBlanks space false rest)
    else .error .malformed
  | _ + 1, _, [] => .error .malformed

/-- Hexadecimal digits up to a closing brace, blanks allowed after each. -/
def bracedHex (space : Bool) : Nat → List Char → List Char → Except Fault (List Char × List Char)
  | 0, _, _ => .error .malformed
  | fuel + 1, acc, cs =>
    match cs with
    | [] => .error .malformed
    | '}' :: rest => .ok (acc.reverse, skipBlanks space false rest)
    | c :: rest =>
      if (hexValue? c).isSome then bracedHex space fuel (c :: acc) (skipBlanks space false rest)
      else .error .malformed

/-- The characters of a braced property name, blanks skipped, up to the
closing brace. -/
def bracedName (space : Bool) : Nat → List Char → List Char → Except Fault (List Char × List Char)
  | 0, _, _ => .error .malformed
  | fuel + 1, acc, cs =>
    match cs with
    | [] => .error .malformed
    | '}' :: rest => .ok (acc.reverse, rest)
    | c :: rest => bracedName space fuel (c :: acc) (skipBlanks space false rest)

/-- A braced property name split into a query: `name!=value`, then
`name=value` or `name:value`, else a name alone. -/
def PropertyQuery.ofBraced (body : List Char) : PropertyQuery :=
  let rec unequalAt : List Char → List Char → Option (List Char × List Char)
    | acc, '!' :: '=' :: rest => some (acc.reverse, rest)
    | acc, c :: rest => unequalAt (c :: acc) rest
    | _, [] => none
  match unequalAt [] body with
  | some (name, value) => .valued (String.ofList name) (String.ofList value) true
  | none =>
    match body.findIdx? (fun c => c == ':' || c == '=') with
    | some i => .valued (String.ofList (body.take i)) (String.ofList (body.drop (i + 1))) false
    | none => .named (String.ofList body)

/-- The letters of a special word boundary name (`start`, `end-half`), blanks
skipped. -/
def boundaryName (space : Bool) : Nat → List Char → List Char → List Char × List Char
  | 0, acc, cs => (acc.reverse, cs)
  | fuel + 1, acc, c :: rest =>
    if c.isAlpha || c == '-' then boundaryName space fuel (c :: acc) (skipBlanks space false rest)
    else (acc.reverse, c :: rest)
  | _ + 1, acc, [] => (acc.reverse, [])

/-- A code point from its hexadecimal digits, refused when it is no
character. -/
def hexChar (digits : List Char) : Except Fault Char :=
  match charOf? (hexNumber digits) with
  | some c => .ok c
  | none => .error .malformed

/-- Read an escape, given what follows its backslash.  A digit is a
back-reference, which this grammar leaves to the extended one; the bell
escape `\a` is refused. -/
def readEscape (space : Bool) : List Char → Except Fault (Escape × List Char)
  | [] => .error .malformed
  | c :: rest =>
    if c.isDigit then .error .unsupported
    else if c == 'x' || c == 'u' || c == 'U' then
      let width := if c == 'x' then 2 else if c == 'u' then 4 else 8
      match skipBlanks space false rest with
      | [] => .error .malformed
      | '{' :: more => do
        let (digits, after) ← bracedHex space (more.length + 1) [] (skipBlanks space false more)
        if digits.isEmpty then .error .malformed
        else return (.literal (← hexChar digits), after)
      | cs => do
        let (digits, after) ← fixedHex space width [] cs
        return (.literal (← hexChar digits), after)
    else if c == 'p' || c == 'P' then
      let negated := c == 'P'
      match skipBlanks space false rest with
      | [] => .error .malformed
      | '{' :: more => do
        let (body, after) ← bracedName space (more.length + 1) [] (skipBlanks space false more)
        return (.property negated (PropertyQuery.ofBraced body), after)
      | '\\' :: _ => .error .malformed
      | l :: more => .ok (.property negated (.letter l), skipBlanks space false more)
    else if c == 'd' then .ok (.perl .digit false, rest)
    else if c == 'D' then .ok (.perl .digit true, rest)
    else if c == 's' then .ok (.perl .space false, rest)
    else if c == 'S' then .ok (.perl .space true, rest)
    else if c == 'w' then .ok (.perl .word false, rest)
    else if c == 'W' then .ok (.perl .word true, rest)
    else if isEscapable c then .ok (.literal c, rest)
    else
      match c with
      | 'f' => .ok (.literal '\x0c', rest)
      | 't' => .ok (.literal '\t', rest)
      | 'n' => .ok (.literal '\n', rest)
      | 'r' => .ok (.literal '\r', rest)
      | 'v' => .ok (.literal '\x0b', rest)
      | 'A' | 'z' | 'B' | '<' | '>' => .ok (.assertion, rest)
      | 'b' =>
        match rest with
        | '{' :: more =>
          match skipBlanks space false more with
          | [] => .error .malformed
          | d :: ds =>
            if !(d.isAlpha || d == '-') then .ok (.assertion, rest)
            else
              let (name, after) := boundaryName space (ds.length + 1) [] (d :: ds)
              match after with
              | '}' :: tail =>
                if ["start", "end", "start-half", "end-half"].contains (String.ofList name) then
                  .ok (.assertion, tail)
                else .error .malformed
              | _ => .error .malformed
        | _ => .ok (.assertion, rest)
      | _ => .error .malformed

/-- The operations that join the parts of a bracket class. -/
inductive SetOp where
  | inter
  | diff
  | symmDiff
  deriving Inhabited, BEq

/-- Apply a set operation. -/
def SetOp.apply : SetOp → CharSet → CharSet → CharSet
  | .inter, a, b => a.inter b
  | .diff, a, b => a.diff b
  | .symmDiff, a, b => a.symmDiff b

/-- The tree of a bracket class. -/
inductive ClassTree where
  | char (c : Char)
  | range (lo hi : Char)
  | ascii (set : CharSet) (negated : Bool)
  | perl (kind : Perl) (negated : Bool)
  | property (negated : Bool) (query : PropertyQuery)
  | union (items : List ClassTree)
  | op (kind : SetOp) (lhs rhs : ClassTree)
  | bracket (negated : Bool) (body : ClassTree)
  deriving Inhabited

/-- Fold case when asked, then negate when asked. -/
def CharSet.shape (caseless negated : Bool) (s : CharSet) : CharSet :=
  let s := if caseless then s.foldClosure else s
  if negated then s.complement else s

/-- The set of a class tree; `none` when it names an unknown property. -/
def ClassTree.eval (caseless : Bool) : ClassTree → Option CharSet
  | .char c => some (CharSet.single c.toNat)
  | .range lo hi => some (CharSet.ofRanges [(lo.toNat, hi.toNat)])
  | .ascii s negated => some (s.shape caseless negated)
  | .perl kind negated => some (if negated then kind.set.complement else kind.set)
  | .property negated query =>
    (query.set?).map (CharSet.shape caseless (negated != query.unequal))
  | .union items =>
    items.attach.foldlM (fun acc ⟨t, _⟩ => (acc.union ·) <$> t.eval caseless) CharSet.empty
  | .op kind lhs rhs => do
    let a ← lhs.eval caseless
    let b ← rhs.eval caseless
    let fold := fun (s : CharSet) => if caseless then s.foldClosure else s
    return kind.apply (fold a) (fold b)
  | .bracket negated body => (body.eval caseless).map (CharSet.shape caseless negated)

/-- An ASCII class `[:name:]` or `[:^name:]` at the front of the text, with
the text after it. -/
def asciiClassAt? : List Char → Option (CharSet × Bool × List Char)
  | '[' :: ':' :: rest =>
    let (negated, body) := match rest with
      | '^' :: more => (true, more)
      | _ => (false, rest)
    let name := body.takeWhile (· != ':')
    match body.dropWhile (· != ':') with
    | ':' :: ']' :: more => (CharSet.asciiClass? (String.ofList name)).map fun s => (s, negated, more)
    | _ => none
  | _ => none

/-- One item of a class before a possible `-`: an escape or a character. -/
def classPrimitive (space : Bool) : List Char → Except Fault (Escape × List Char)
  | '\\' :: rest => readEscape space rest
  | c :: rest => .ok (.literal c, rest)
  | [] => .error .malformed

/-- The class item of an escape; assertions are no class items. -/
def Escape.toItem : Escape → Except Fault ClassTree
  | .literal c => .ok (.char c)
  | .perl kind negated => .ok (.perl kind negated)
  | .property negated query => .ok (.property negated query)
  | .assertion => .error .malformed

/-- An item or a range `a-z`.  A `-` before `]` or before another `-` is no
range; both ends of a range must be characters, in order. -/
def classRange (space : Bool) (cs : List Char) : Except Fault (ClassTree × List Char) := do
  let (first, rest) ← classPrimitive space cs
  match skipBlanks space false rest with
  | [] => .error .malformed
  | c :: more =>
    let peek := (skipBlanks space false more).head?
    if c != '-' || peek == some ']' || peek == some '-' then
      return (← first.toItem, c :: more)
    else
      match skipBlanks space false more with
      | [] => .error .malformed
      | after => do
        let (second, tail) ← classPrimitive space after
        match first, second with
        | .literal lo, .literal hi =>
          if lo ≤ hi then return (.range lo hi, tail) else .error .malformed
        | _, _ => .error .malformed

/-- The `-` characters at the front of a class, each one a literal. -/
def leadingDashes (space : Bool) : Nat → List Char → List ClassTree → Except Fault (List ClassTree × List Char)
  | 0, cs, acc => .ok (acc, cs)
  | fuel + 1, cs, acc =>
    match cs with
    | '-' :: rest =>
      match skipBlanks space false rest with
      | [] => .error .malformed
      | more => leadingDashes space fuel more (.char '-' :: acc)
    | _ => .ok (acc, cs)

mutual

/-- The body of a class from just after its opening `[` (and its `^`), up to
and past the closing `]`.  `items` are the items of the current union, latest
first; `pending` is the left side of an operation still waiting for its right
side. -/
def classBody (space : Bool) : Nat → List Char → List ClassTree → Option (SetOp × ClassTree) →
    Except Fault (ClassTree × List Char)
  | 0, _, _, _ => .error .malformed
  | fuel + 1, cs, items, pending =>
    let current := fun (items : List ClassTree) =>
      match pending with
      | some (op, lhs) => ClassTree.op op lhs (.union items.reverse)
      | none => ClassTree.union items.reverse
    match skipBlanks space false cs with
    | [] => .error .malformed
    | '[' :: rest =>
      match asciiClassAt? ('[' :: rest) with
      | some (set, negated, after) => classBody space fuel after (.ascii set negated :: items) pending
      | none => do
        let (inner, after) ← bracketClass space fuel rest
        classBody space fuel after (inner :: items) pending
    | ']' :: rest => .ok (current items, rest)
    | '&' :: '&' :: rest => classBody space fuel rest [] (some (.inter, current items))
    | '-' :: '-' :: rest => classBody space fuel rest [] (some (.diff, current items))
    | '~' :: '~' :: rest => classBody space fuel rest [] (some (.symmDiff, current items))
    | more => do
      let (item, after) ← classRange space more
      classBody space fuel after (item :: items) pending

/-- A bracket class from just after its `[`: a `^` negates it, `-` at the
front and then a `]` first of all are literal. -/
def bracketClass (space : Bool) : Nat → List Char → Except Fault (ClassTree × List Char)
  | 0, _ => .error .malformed
  | fuel + 1, cs =>
    match skipBlanks space false cs with
    | [] => .error .malformed
    | start => do
      let (negated, body) ← match start with
        | '^' :: rest =>
          match skipBlanks space false rest with
          | [] => Except.error Fault.malformed
          | more => pure (true, more)
        | _ => pure (false, start)
      let (dashes, body) ← leadingDashes space (body.length + 1) body []
      let (initial, body) ← match dashes, body with
        | [], ']' :: rest =>
          match skipBlanks space false rest with
          | [] => Except.error Fault.malformed
          | more => pure ([ClassTree.char ']'], more)
        | _, _ => pure (dashes, body)
      let (tree, after) ← classBody space fuel body initial none
      return (.bracket negated tree, after)

end

/-- Read a bracket class from just after its `[`. -/
def readBracket (space : Bool) (cs : List Char) : Except Fault (ClassTree × List Char) :=
  bracketClass space (2 * cs.length + 2) cs

end Regex

end Attest
