import Attest.Regex.Bracket

/-!
# The strict grammar

A pattern is first checked against a strict grammar without look-around and
back-references.  A pattern it accepts has its shorthand classes replaced by
their ASCII meaning (`\d` is `[0-9]`, `\w` is `[a-zA-Z0-9_]`, `\s` the blanks
listed in `blankClass`); a pattern that fails only because it uses
look-around or a back-reference is kept as it is, its shorthands then
meaning their Unicode sets; any other failure refuses the pattern.

What the strict grammar asks:

* a repetition (`*`, `+`, `?`, `{m}`, `{m,}`, `{m,n}` with `m ≤ n`, counts
  below `2^32`) follows an item, which may itself be a repetition;
* groups are closed and never closed before they open; group names start
  with a letter or `_`, go on with letters, digits, `_`, `.`, `[`, `]`, and
  are not used twice;
* flag groups use the flags `i m s U u x R`, each at most once, at most one
  `-`, never ending in `-`, and are never empty;
* escapes and bracket classes are those of `Attest.Regex.Bracket`.
-/

namespace Attest

namespace Regex

/-- What the strict reading carries along: whether blanks are skipped, and
the group names used so far. -/
structure StrictState where
  space : Bool
  names : List String
  deriving Inhabited

/-- Whether a character may stand in a group name (`first` for its first
character). -/
def isNameChar (c : Char) (first : Bool) : Bool :=
  if first then c == '_' || CharSet.isAlphabetic c
  else c == '_' || c == '.' || c == '[' || c == ']' || CharSet.isAlphanumeric c

/-- A group name up to its `>`. -/
def groupName : List Char → List Char → Except Fault (String × List Char)
  | _, [] => .error .malformed
  | acc, '>' :: rest =>
    if acc.isEmpty then .error .malformed else .ok (String.ofList acc.reverse, rest)
  | acc, c :: rest => if isNameChar c acc.isEmpty then groupName (c :: acc) rest else .error .malformed

/-- The flags of a flag group, up to its `:` or `)`: the value the `x` flag
gets, if any, whether any item was read, the terminator and the rest. -/
def flagItems : List Char → List Char → Bool → Bool → Option Bool →
    Except Fault (Option Bool × Bool × Char × List Char)
  | _, [], _, _, _ => .error .malformed
  | seen, c :: rest, negated, lastNegation, spaceFlag =>
    if c == ':' || c == ')' then
      if lastNegation then .error .malformed
      else .ok (spaceFlag, !seen.isEmpty || negated, c, rest)
    else if c == '-' then
      if negated then .error .malformed
      else flagItems seen rest true true spaceFlag
    else if "imsUuxR".toList.contains c then
      if seen.contains c then .error .malformed
      else flagItems (c :: seen) rest negated false (if c == 'x' then some !negated else spaceFlag)
    else .error .malformed

/-- A decimal count: blanks around it are skipped in every mode; its value,
if it has digits and fits in 32 bits, and the rest. -/
def strictDecimal (space : Bool) (cs : List Char) : Option Nat × List Char :=
  let cs := cs.dropWhile Text.isWhiteSpace
  let rec digits : Nat → List Char → List Char → List Char × List Char
    | 0, acc, cs => (acc.reverse, cs)
    | fuel + 1, acc, c :: rest =>
      if c.isDigit then digits fuel (c :: acc) (skipBlanks space false rest) else (acc.reverse, c :: rest)
    | _ + 1, acc, [] => (acc.reverse, [])
  let (ds, rest) := digits (cs.length + 1) [] cs
  let rest := rest.dropWhile Text.isWhiteSpace
  let value := ds.foldl (fun acc d => acc * 10 + (d.toNat - '0'.toNat)) 0
  (if ds.isEmpty || value ≥ Nat.pow 2 32 then none else some value, rest)

/-- A counted repetition from just after its `{`, with the rest after its
`}` and an optional lazy `?`. -/
def countedRepetition (space : Bool) (cs : List Char) : Except Fault (List Char) := do
  let cs := skipBlanks space false cs
  if cs.isEmpty then throw .malformed
  let (lo, cs) := strictDecimal space cs
  let cs ← match cs with
    | [] => throw .malformed
    | ',' :: rest =>
      match skipBlanks space false rest with
      | [] => throw .malformed
      | '}' :: more => if lo.isSome then pure ('}' :: more) else throw .malformed
      | more =>
        match lo, strictDecimal space more with
        | some l, (some h, after) => if l ≤ h then pure after else throw .malformed
        | _, _ => throw .malformed
    | rest => if lo.isSome then pure rest else throw .malformed
  match cs with
  | '}' :: rest =>
    match skipBlanks space false rest with
    | '?' :: more => pure more
    | more => pure more
  | _ => throw .malformed

/-- How a group opens: a flag group that ends at once, setting the blank
mode for what follows, or a group whose body follows in the given blank
mode. -/
inductive GroupHead where
  | flags (space : Bool)
  | body (space : Bool)

/-- The head of a group from just after its `(`. -/
def groupHead (st : StrictState) (cs : List Char) :
    Except Fault (StrictState × GroupHead × List Char) :=
  match skipBlanks st.space false cs with
  | '?' :: '=' :: _ | '?' :: '!' :: _ | '?' :: '<' :: '=' :: _ | '?' :: '<' :: '!' :: _ =>
    .error .unsupported
  | '?' :: 'P' :: '<' :: rest | '?' :: '<' :: rest => do
    let (name, after) ← groupName [] rest
    if st.names.contains name then throw .malformed
    return ({ st with names := name :: st.names }, .body st.space, after)
  | '?' :: rest => do
    if rest.isEmpty then throw .malformed
    let (spaceFlag, nonEmpty, stop, after) ← flagItems [] rest false false none
    let space := spaceFlag.getD st.space
    if stop == ')' then
      if nonEmpty then return (st, .flags space, after) else throw .malformed
    else return (st, .body space, after)
  | rest => .ok (st, .body st.space, rest)

/-- Read a sequence of items and alternatives up to a `)` or the end;
`canRepeat` says whether the item before may take a repetition.  The rest
starts at the `)` that ends the sequence, or is empty. -/
def strictSequence : Nat → StrictState → Bool → List Char → Except Fault (StrictState × List Char)
  | 0, _, _, _ => .error .malformed
  | fuel + 1, st, canRepeat, cs =>
    match skipBlanks st.space false cs with
    | [] => .ok (st, [])
    | ')' :: rest => .ok (st, ')' :: rest)
    | '|' :: rest => strictSequence fuel st false rest
    | '(' :: rest => do
      let (st', head, after) ← groupHead st rest
      match head with
      | .flags space => strictSequence fuel { st' with space := space } false after
      | .body space =>
        let (inner, close) ← strictSequence fuel { st' with space := space } false after
        match close with
        | ')' :: more => strictSequence fuel { inner with space := st.space } true more
        | _ => .error .malformed
    | '[' :: rest => do
      let (_, after) ← readBracket st.space rest
      strictSequence fuel st true after
    | '?' :: rest | '*' :: rest | '+' :: rest =>
      if !canRepeat then .error .malformed
      else
        match rest with
        | '?' :: more => strictSequence fuel st true more
        | _ => strictSequence fuel st true rest
    | '{' :: rest =>
      if !canRepeat then .error .malformed
      else do
        let after ← countedRepetition st.space rest
        strictSequence fuel st true after
    | '\\' :: rest => do
      let (_, after) ← readEscape st.space rest
      strictSequence fuel st true after
    | _ :: rest => strictSequence fuel st true rest

/-- Check a whole pattern against the strict grammar. -/
def strictCheck (cs : List Char) : Except Fault Unit := do
  let (_, rest) ← strictSequence (cs.length + 1) ⟨false, []⟩ false cs
  if rest.isEmpty then return () else throw .malformed

/-- The blanks that `\s` stands for in a pattern the strict grammar
accepts. -/
def blankClass : String := "\\t\\n\\x0B\\x0C\\r \\xA0\\x\x7b2003\x7d\\x\x7b2029\x7d\\x\x7bFEFF\x7d"

/-- Replace the shorthand classes by their ASCII meaning. -/
def expandShorthands : List Char → List Char
  | '\\' :: c :: rest =>
    let bracketed := fun (negated : Bool) (body : String) =>
      ("[" ++ (if negated then "^" else "") ++ body ++ "]").toList
    match c with
    | 'd' => bracketed false "0-9" ++ expandShorthands rest
    | 'D' => bracketed true "0-9" ++ expandShorthands rest
    | 'w' => bracketed false "a-zA-Z0-9_" ++ expandShorthands rest
    | 'W' => bracketed true "a-zA-Z0-9_" ++ expandShorthands rest
    | 's' => bracketed false blankClass ++ expandShorthands rest
    | 'S' => bracketed true blankClass ++ expandShorthands rest
    | _ => '\\' :: c :: expandShorthands rest
  | c :: rest => c :: expandShorthands rest
  | [] => []

/-- The text a pattern is read from after the strict check: its shorthands
expanded when the strict grammar accepts it, itself when it only needs
look-around or back-references, nothing when it is malformed. -/
def prepare (cs : List Char) : Option (List Char) :=
  match strictCheck cs with
  | .ok () => some (expandShorthands cs)
  | .error .unsupported => some cs
  | .error .malformed => none

end Regex

end Attest
