import Attest.Yaml.Token

/-!
# Scanning YAML text into tokens

The scanner reads characters and queues tokens.  Two pieces of state make
YAML's layout rules work:

* **Indentation.** In block context a stack of indentation columns is kept.
  A collection that starts further right pushes a column and queues a
  block-sequence or block-mapping start; a line that starts further left pops
  columns, queueing a block end for each.
* **Simple keys.** A scalar, alias, anchor, tag or flow collection may turn
  out to be a mapping key, which is only known when a `:` follows it on the
  same line.  Its position is remembered as a *possible simple key*; when the
  `:` arrives, a key token (and, in block context, a block-mapping start) is
  inserted in the queue in front of it.  A possible key goes stale at the end
  of its line, or 1024 characters on; a key that the indentation requires is
  then an error.

Because of simple keys a queued token is handed out only when no possible
simple key could still be inserted in front of it: `Scanner.peekToken` keeps
scanning until that holds.  An error therefore surfaces exactly when the
token after the last safe one is asked for.

Every loop here is bounded by a fuel argument of at least the number of
characters left, and each round of a loop consumes a character.
-/

namespace Attest

namespace Yaml

/-- A place where a simple key may start. -/
structure SimpleKey where
  possible : Bool
  required : Bool
  tokenNumber : Nat
  mark : Mark
  deriving DecidableEq, Repr

/-- The state of the scanner. -/
structure Scanner where
  /-- The text, without a leading byte-order mark. -/
  input : Array Char
  /-- The position of the next character. -/
  mark : Mark
  /-- Tokens scanned but not yet taken, the next one first. -/
  queue : List Token
  /-- The number of tokens taken so far. -/
  taken : Nat
  streamStarted : Bool
  /-- The current indentation column; `-1` before any block collection. -/
  indent : Int
  /-- Enclosing indentation columns, the innermost first. -/
  indents : List Int
  /-- Whether a simple key may start here. -/
  keyAllowed : Bool
  /-- Possible simple keys, one per flow level, the innermost first. -/
  keys : List SimpleKey
  flowLevel : Nat

/-- Scanning steps: they change the scanner and may fail. -/
abbrev Scan := StateT Scanner (Except SyntaxError)

namespace Scanner

/-- The byte length of a character in UTF-8. -/
def utf8Width (c : Char) : Nat :=
  if c.toNat < 0x80 then 1 else if c.toNat < 0x800 then 2 else if c.toNat < 0x10000 then 3 else 4

/-- The byte offset of the first character that YAML text may not hold. -/
def firstForbidden? (cs : List Char) : Option Nat :=
  go 0 cs
where
  /-- Search from a byte offset. -/
  go : Nat → List Char → Option Nat
    | _, [] => none
    | offset, c :: rest =>
      if Chars.isAllowed c then go (offset + utf8Width c) rest else some offset

/-- A scanner at the start of a text.  A leading byte-order mark is dropped;
a character that YAML text may not hold is an error before anything is read. -/
def start (text : String) : Except SyntaxError Scanner :=
  let chars := text.toList
  let (chars, skipped) := match chars with
    | c :: rest => if c.toNat == 0xFEFF then (rest, 3) else (chars, 0)
    | [] => ([], 0)
  match firstForbidden? chars with
  | some offset => .error (.forbidden (offset + skipped))
  | none => .ok ⟨chars.toArray, ⟨0, 0, 0⟩, [], 0, false, -1, [], false, [], 0⟩

/-- The character `k` places ahead; past the end, NUL. -/
def peekAt (k : Nat) : Scan Char := do
  let s ← get
  pure (s.input.getD (s.mark.index + k) (Char.ofNat 0))

/-- The next character. -/
def peek : Scan Char := peekAt 0

/-- The current mark. -/
def here : Scan Mark := do pure (← get).mark

/-- Fail at the current mark. -/
def malformed {α : Type} (problem : String) (context : Option (String × Mark)) : Scan α := do
  throw (.malformed problem (← here) context)

/-- Step over a character that is not a line break. -/
def advance : Scan Unit :=
  modify fun s => { s with mark := { s.mark with index := s.mark.index + 1, column := s.mark.column + 1 } }

/-- Take a character that is not a line break. -/
def takeChar : Scan Char := do
  let c ← peek
  advance
  pure c

/-- Move to the next line past a break of `width` characters. -/
def newLine (width : Nat) : Scan Unit :=
  modify fun s => { s with mark := ⟨s.mark.index + width, s.mark.line + 1, 0⟩ }

/-- Step over a line break, a carriage return and line feed counting as one. -/
def skipLine : Scan Unit := do
  let c ← peek
  let d ← peekAt 1
  if c == '\r' && d == '\n' then newLine 2
  else if Chars.isBreak c then newLine 1
  else pure ()

/-- Take a line break as the text it stands for: a line feed, except that
line and paragraph separators stay themselves. -/
def readLine : Scan String := do
  let c ← peek
  let d ← peekAt 1
  if c == '\r' && d == '\n' then
    newLine 2
    pure "\n"
  else if c == '\r' || c == '\n' || c.toNat == 0x85 then
    newLine 1
    pure "\n"
  else if Chars.isBreak c then
    newLine 1
    pure (String.singleton c)
  else pure ""

/-- The fuel for a loop over the rest of the text. -/
def budget : Scan Nat := do
  let s ← get
  pure (s.input.size + 2 - s.mark.index)

/-- Step over characters while `p` holds. -/
def skipWhile (p : Char → Bool) : Nat → Scan Unit
  | 0 => pure ()
  | fuel + 1 => do
    if p (← peek) then
      advance
      skipWhile p fuel
    else pure ()

/-- Take characters while `p` holds. -/
def takeWhile (p : Char → Bool) : Nat → Scan String
  | 0 => pure ""
  | fuel + 1 => do
    let c ← peek
    if p c then
      advance
      pure (String.singleton c ++ (← takeWhile p fuel))
    else pure ""

/-- Queue a token. -/
def emit (kind : TokenKind) (start stop : Mark) : Scan Unit :=
  modify fun s => { s with queue := s.queue ++ [⟨kind, start, stop⟩] }

/-! ## Simple keys and indentation -/

/-- The error of a required key without its `:`. -/
def keyWithoutValue {α : Type} (k : SimpleKey) : Scan α :=
  malformed "could not find expected ':'" (some ("while scanning a simple key", k.mark))

/-- Drop the possible keys that went stale: those on an earlier line or more
than 1024 characters back.  A stale key that was required is an error. -/
def staleKeys : Scan Unit := do
  let s ← get
  let m := s.mark
  let stale (k : SimpleKey) : Bool :=
    k.possible && (k.mark.line < m.line || k.mark.index + 1024 < m.index)
  match (s.keys.reverse.filter stale).find? (·.required) with
  | some k => keyWithoutValue k
  | none => set { s with keys := s.keys.map fun k => if stale k then { k with possible := false } else k }

/-- Drop the possible key of the current flow level; a required one is an
error. -/
def removeKey : Scan Unit := do
  let s ← get
  match s.keys with
  | k :: rest =>
    if k.possible && k.required then keyWithoutValue k
    else set { s with keys := { k with possible := false } :: rest }
  | [] => pure ()

/-- Remember that a simple key may start here, if one may. -/
def saveKey : Scan Unit := do
  let s ← get
  if s.keyAllowed then
    let required := s.flowLevel == 0 && s.indent == (s.mark.column : Int)
    let k : SimpleKey := ⟨true, required, s.taken + s.queue.length, s.mark⟩
    removeKey
    modify fun s => { s with keys := k :: s.keys.drop 1 }
  else pure ()

/-- Enter a flow collection. -/
def increaseFlow : Scan Unit :=
  modify fun s => { s with keys := ⟨false, false, 0, ⟨0, 0, 0⟩⟩ :: s.keys, flowLevel := s.flowLevel + 1 }

/-- Leave a flow collection. -/
def decreaseFlow : Scan Unit :=
  modify fun s =>
    if s.flowLevel > 0 then { s with keys := s.keys.drop 1, flowLevel := s.flowLevel - 1 } else s

/-- In block context, open a collection at `column` if it lies right of the
current indentation: push the column and queue `kind`, at the end of the
queue or as token number `number`. -/
def rollIndent (column : Nat) (number : Option Nat) (kind : TokenKind) (mark : Mark) : Scan Unit :=
  modify fun s =>
    if s.flowLevel == 0 && s.indent < (column : Int) then
      let t : Token := ⟨kind, mark, mark⟩
      let queue := match number with
        | none => s.queue ++ [t]
        | some n => s.queue.take (n - s.taken) ++ [t] ++ s.queue.drop (n - s.taken)
      { s with indents := s.indent :: s.indents, indent := column, queue := queue }
    else s

/-- In block context, close every collection indented further than `column`,
queueing a block end for each. -/
def unrollIndent (column : Int) : Scan Unit :=
  modify fun s =>
    if s.flowLevel == 0 then go s (s.indents.length + 1) else s
where
  /-- Close collections one by one. -/
  go (s : Scanner) : Nat → Scanner
    | 0 => s
    | fuel + 1 =>
      if s.indent > column then
        let s := { s with
          queue := s.queue ++ [⟨.blockEnd, s.mark, s.mark⟩]
          indent := s.indents.headD (-1)
          indents := s.indents.drop 1 }
        go s fuel
      else s

/-! ## Between tokens -/

/-- Step over blanks, comments and line breaks up to the next token.  Tabs
are skipped only in flow context or where no simple key may start. -/
def scanToNextToken : Nat → Scan Unit
  | 0 => pure ()
  | fuel + 1 => do
    if (← here).column == 0 && (← peek).toNat == 0xFEFF then advance
    let s ← get
    skipWhile (fun c => c == ' ' || ((s.flowLevel > 0 || !s.keyAllowed) && c == '\t')) (← budget)
    if (← peek) == '#' then skipWhile (fun c => !Chars.isBreakOrEnd c) (← budget)
    if Chars.isBreak (← peek) then
      skipLine
      modify fun s => if s.flowLevel == 0 then { s with keyAllowed := true } else s
      scanToNextToken fuel
    else pure ()

/-! ## Directives -/

/-- Read the digits of a version number. -/
def versionNumber (start : Mark) : Scan Nat := do
  let digits ← takeWhile Chars.isDigit (← budget)
  if digits.length > 9 then
    malformed "found extremely long version number" (some ("while scanning a %YAML directive", start))
  else if digits.isEmpty then
    malformed "did not find expected version number" (some ("while scanning a %YAML directive", start))
  else pure (digits.foldl (fun n c => 10 * n + (c.toNat - '0'.toNat)) 0)

/-- Check that a `%` escape in a tag URI is followed by two hexadecimal
digits, and take it. -/
def uriEscape (directive : Bool) (start : Mark) : Scan String := do
  let c1 ← peekAt 1
  let c2 ← peekAt 2
  if (Chars.hexValue? c1).isNone || (Chars.hexValue? c2).isNone then
    malformed "did not find URI escaped octet"
      (some (if directive then "while parsing a %TAG directive" else "while parsing a tag", start))
  else
    advance
    advance
    advance
    pure (String.ofList ['%', c1, c2])

/-- Read the characters of a tag URI. -/
def uriChars (verbatim directive : Bool) (start : Mark) : Nat → Scan String
  | 0 => pure ""
  | fuel + 1 => do
    let c ← peek
    if Chars.isUriChar verbatim c then
      let piece ← if c == '%' then uriEscape directive start else do
        advance
        pure (String.singleton c)
      pure (piece ++ (← uriChars verbatim directive start fuel))
    else pure ""

/-- Read a tag URI after `head`, whose first character is not kept. -/
def tagUri (verbatim directive : Bool) (head : String) (start : Mark) : Scan String := do
  let uri ← uriChars verbatim directive start (← budget)
  if head.length + uri.length == 0 then
    malformed "did not find expected tag URI"
      (some (if directive then "while parsing a %TAG directive" else "while parsing a tag", start))
  else pure (String.ofList (head.toList.drop 1) ++ uri)

/-- Read a tag handle: `!`, `!!` or `!word!`; outside a directive, a `!`
followed by a word that does not end in `!` is returned as it is. -/
def tagHandle (directive : Bool) (start : Mark) : Scan String := do
  if (← peek) != '!' then
    malformed "did not find expected '!'"
      (some (if directive then "while scanning a tag directive" else "while scanning a tag", start))
  else
    advance
    let word ← takeWhile Chars.isWord (← budget)
    if (← peek) == '!' then
      advance
      pure ("!" ++ word ++ "!")
    else if directive && !word.isEmpty then
      malformed "did not find expected '!'" (some ("while parsing a tag directive", start))
    else pure ("!" ++ word)

/-- Read a directive line: `%YAML major.minor` or `%TAG handle prefix`,
then blanks, an optional comment and the line break. -/
def scanDirective : Scan Unit := do
  let start ← here
  advance
  let name ← takeWhile Chars.isWord (← budget)
  if name.isEmpty then
    malformed "could not find expected directive name" (some ("while scanning a directive", start))
  if !Chars.isBlankOrEnd (← peek) then
    malformed "found unexpected non-alphabetical character" (some ("while scanning a directive", start))
  if name == "YAML" then
    skipWhile Chars.isBlank (← budget)
    let major ← versionNumber start
    if (← peek) != '.' then
      malformed "did not find expected digit or '.' character"
        (some ("while scanning a %YAML directive", start))
    advance
    let minor ← versionNumber start
    emit (.versionDirective major minor) start (← here)
  else if name == "TAG" then
    skipWhile Chars.isBlank (← budget)
    let handle ← tagHandle true start
    if !Chars.isBlank (← peek) then
      malformed "did not find expected whitespace" (some ("while scanning a %TAG directive", start))
    skipWhile Chars.isBlank (← budget)
    let tagPrefix ← tagUri true true "" start
    if !Chars.isBlankOrEnd (← peek) then
      malformed "did not find expected whitespace or line break"
        (some ("while scanning a %TAG directive", start))
    emit (.tagDirective handle tagPrefix) start (← here)
  else
    malformed "found unknown directive name" (some ("while scanning a directive", start))
  skipWhile Chars.isBlank (← budget)
  if (← peek) == '#' then skipWhile (fun c => !Chars.isBreakOrEnd c) (← budget)
  if !Chars.isBreakOrEnd (← peek) then
    malformed "did not find expected comment or line break" (some ("while scanning a directive", start))
  skipLine

/-! ## Anchors, aliases and tags -/

/-- Read an anchor or, when `isAlias`, an alias. -/
def scanAnchor (isAlias : Bool) : Scan Unit := do
  let start ← here
  advance
  let name ← takeWhile Chars.isWord (← budget)
  let c ← peek
  if name.isEmpty || !(Chars.isBlankOrEnd c || "?:,]\x7d%@".toList.contains c || c.toNat == 96) then
    malformed "did not find expected alphabetic or numeric character"
      (some (if isAlias then "while scanning an alias" else "while scanning an anchor", start))
  emit (if isAlias then .alias name else .anchor name) start (← here)

/-- Read a tag: verbatim `!<uri>`, or a handle and a suffix. -/
def scanTag : Scan Unit := do
  let start ← here
  let (handle, suffix) ← if (← peekAt 1) == '<' then do
      advance
      advance
      let suffix ← tagUri true false "" start
      if (← peek) != '>' then
        malformed "did not find the expected '>'" (some ("while scanning a tag", start))
      advance
      pure ("", suffix)
    else do
      let handle ← tagHandle false start
      if handle.length > 1 && handle.endsWith "!" then
        pure (handle, ← tagUri false false "" start)
      else
        let suffix ← tagUri false false handle start
        if suffix.isEmpty then pure ("", "!") else pure ("!", suffix)
  let c ← peek
  if !Chars.isBlankOrEnd c && !((← get).flowLevel > 0 && c == ',') then
    malformed "did not find expected whitespace or line break" (some ("while scanning a tag", start))
  emit (.tag handle suffix) start (← here)

/-! ## Scalars -/

/-- Text gathered for a scalar, with the blanks and breaks met since the last
character, not yet joined to it. -/
structure Folding where
  text : String := ""
  leadingBreak : String := ""
  trailingBreaks : String := ""
  whitespaces : String := ""
  leadingBlanks : Bool := false

namespace Folding

/-- Join the pending blanks to the text: within a line they stay as
written; a single line break becomes a space, and further breaks stay. -/
def join (f : Folding) : Folding :=
  if f.leadingBlanks then
    if f.leadingBreak == "\n" then
      if f.trailingBreaks.isEmpty then
        { f with text := f.text ++ " ", leadingBreak := "", leadingBlanks := false }
      else
        { f with
          text := f.text ++ f.trailingBreaks
          trailingBreaks := ""
          leadingBreak := ""
          leadingBlanks := false }
    else
      { f with
        text := f.text ++ f.leadingBreak ++ f.trailingBreaks
        leadingBreak := ""
        trailingBreaks := ""
        leadingBlanks := false }
  else { f with text := f.text ++ f.whitespaces, whitespaces := "" }

/-- Append text. -/
def push (f : Folding) (s : String) : Folding := { f with text := f.text ++ s }

end Folding

/-- Whether the next three characters are `---` or `...` at the start of a
line, followed by a blank, a break or the end. -/
def atDocumentIndicator : Scan Bool := do
  let c0 ← peek
  let c1 ← peekAt 1
  let c2 ← peekAt 2
  let c3 ← peekAt 3
  pure ((← here).column == 0 && ((c0 == '-' && c1 == '-' && c2 == '-') ||
    (c0 == '.' && c1 == '.' && c2 == '.')) && Chars.isBlankOrEnd c3)

/-- Step over spaces left of the indentation `indent`, or all spaces while
it is not settled (zero). -/
def indentSpaces (indent : Nat) : Nat → Scan Unit
  | 0 => pure ()
  | fuel + 1 => do
    if (indent == 0 || (← here).column < indent) && (← peek) == ' ' then
      advance
      indentSpaces indent fuel
    else pure ()

/-- Read blank lines of a block scalar, from the loop of `blockBreaks`. -/
def blankLines (indent : Nat) (start : Mark) :
    Mark → String → Nat → Nat → Scan (Nat × String × Mark)
  | stop, breaks, _, 0 => pure (indent, breaks, stop)
  | stop, breaks, maxIndent, fuel + 1 => do
    indentSpaces indent (← budget)
    let col := (← here).column
    let maxIndent := max maxIndent col
    if (indent == 0 || col < indent) && (← peek) == '\t' then
      malformed "found a tab character where an indentation space is expected"
        (some ("while scanning a block scalar", start))
    if Chars.isBreak (← peek) then
      let b ← readLine
      blankLines indent start (← here) (breaks ++ b) maxIndent fuel
    else if indent == 0 then
      let parentIndent := (← get).indent
      pure (max (max maxIndent (parentIndent + 1).toNat) 1, breaks, stop)
    else pure (indent, breaks, stop)

/-- Read the blank lines before a line of a block scalar's content, and
settle the indentation if no indicator gave it (zero): the deepest of those
lines, at least one more than the enclosing indentation.  Gives the
indentation, the breaks and the mark after the last break. -/
def blockBreaks (indent : Nat) (start : Mark) : Scan (Nat × String × Mark) := do
  blankLines indent start (← here) "" 0 (← budget)

/-- Read the content lines of a block scalar at indentation `indent`. -/
def blockLines (literal : Bool) (indent : Nat) (start : Mark) :
    Folding → Bool → Mark → Nat → Scan (Folding × Mark)
  | f, _, stop, 0 => pure (f, stop)
  | f, leadingBlank, stop, fuel + 1 => do
    if (← here).column == indent && !Chars.isEnd (← peek) then
      let trailingBlank := Chars.isBlank (← peek)
      let f :=
        if !literal && f.leadingBreak.startsWith "\n" && !leadingBlank && !trailingBlank then
          { f with
            text := f.text ++ (if f.trailingBreaks.isEmpty then " " else "")
            leadingBreak := "" }
        else { f with text := f.text ++ f.leadingBreak, leadingBreak := "" }
      let f := { f with text := f.text ++ f.trailingBreaks, trailingBreaks := "" }
      let leadingBlank := Chars.isBlank (← peek)
      let line ← takeWhile (fun c => !Chars.isBreakOrEnd c) (← budget)
      let br ← readLine
      let f := { f.push line with leadingBreak := br }
      let (indent', breaks, stop) ← blockBreaks indent start
      blockLines literal indent' start { f with trailingBreaks := breaks } leadingBlank stop fuel
    else pure (f, stop)

/-- Read a literal (`|`) or folded (`>`) block scalar. -/
def scanBlockScalar (literal : Bool) : Scan Unit := do
  let start ← here
  advance
  let chompOf (c : Char) : Int := if c == '+' then 1 else -1
  let badIndent {α : Type} : Scan α :=
    malformed "found an indentation indicator equal to 0" (some ("while scanning a block scalar", start))
  let c ← peek
  let (chomping, increment) ← if c == '+' || c == '-' then do
      advance
      let d ← peek
      if Chars.isDigit d then
        if d == '0' then badIndent
        advance
        pure (chompOf c, d.toNat - '0'.toNat)
      else pure (chompOf c, 0)
    else if Chars.isDigit c then do
      if c == '0' then badIndent
      advance
      let d ← peek
      if d == '+' || d == '-' then
        advance
        pure (chompOf d, c.toNat - '0'.toNat)
      else pure (0, c.toNat - '0'.toNat)
    else pure (0, 0)
  skipWhile Chars.isBlank (← budget)
  if (← peek) == '#' then skipWhile (fun c => !Chars.isBreakOrEnd c) (← budget)
  if !Chars.isBreakOrEnd (← peek) then
    malformed "did not find expected comment or line break" (some ("while scanning a block scalar", start))
  if Chars.isBreak (← peek) then skipLine
  let parentIndent := (← get).indent
  let indent := if increment > 0 then
      (if parentIndent >= 0 then (parentIndent + increment).toNat else increment)
    else 0
  let (indent, breaks, stop) ← blockBreaks indent start
  let (f, stop) ← blockLines literal indent start { trailingBreaks := breaks } false stop (← budget)
  let text := f.text ++ (if chomping != -1 then f.leadingBreak else "") ++
    (if chomping == 1 then f.trailingBreaks else "")
  emit (.scalar text (if literal then .literal else .folded)) start stop

/-- The character a double-quoted escape letter stands for, or the number of
hexadecimal digits that follow it. -/
def escapeOf (c : Char) : Option (Sum Char Nat) :=
  match c with
  | '0' => some (.inl (Char.ofNat 0))
  | 'a' => some (.inl (Char.ofNat 7))
  | 'b' => some (.inl (Char.ofNat 8))
  | 't' => some (.inl '\t')
  | '\t' => some (.inl '\t')
  | 'n' => some (.inl '\n')
  | 'v' => some (.inl (Char.ofNat 11))
  | 'f' => some (.inl (Char.ofNat 12))
  | 'r' => some (.inl '\r')
  | 'e' => some (.inl (Char.ofNat 27))
  | ' ' => some (.inl ' ')
  | '"' => some (.inl '"')
  | '/' => some (.inl '/')
  | '\\' => some (.inl '\\')
  | 'N' => some (.inl (Char.ofNat 0x85))
  | '_' => some (.inl (Char.ofNat 0xA0))
  | 'L' => some (.inl (Char.ofNat 0x2028))
  | 'P' => some (.inl (Char.ofNat 0x2029))
  | 'x' => some (.inr 2)
  | 'u' => some (.inr 4)
  | 'U' => some (.inr 8)
  | other => if other.toNat == 39 then some (.inl other) else none

/-- Read `n` hexadecimal digits of an escape. -/
def hexDigits (start : Mark) : Nat → Nat → Scan Nat
  | 0, acc => pure acc
  | n + 1, acc => do
    match Chars.hexValue? (← peek) with
    | some v =>
      advance
      hexDigits start n (16 * acc + v)
    | none =>
      malformed "did not find expected hexadecimal number" (some ("while parsing a quoted scalar", start))

/-- Read the non-blank characters of a quoted scalar up to a blank, a break or
the closing quote.  Gives the text and whether an escaped line break ended
the run. -/
def quotedRun (single : Bool) (start : Mark) : Nat → Scan (String × Bool)
  | 0 => pure ("", false)
  | fuel + 1 => do
    let c ← peek
    let d ← peekAt 1
    if Chars.isBlankOrEnd c then pure ("", false)
    else if single && c.toNat == 39 && d.toNat == 39 then
      advance
      advance
      let (rest, escaped) ← quotedRun single start fuel
      pure (String.singleton c ++ rest, escaped)
    else if c == (if single then Char.ofNat 39 else '"') then pure ("", false)
    else if !single && c == '\\' && Chars.isBreak d then
      advance
      skipLine
      pure ("", true)
    else if !single && c == '\\' then
      match escapeOf d with
      | none =>
        malformed "found unknown escape character" (some ("while parsing a quoted scalar", start))
      | some (.inl e) =>
        advance
        advance
        let (rest, escaped) ← quotedRun single start fuel
        pure (String.singleton e ++ rest, escaped)
      | some (.inr n) =>
        advance
        advance
        -- a code that is no character is reported where its digits begin
        let digitsAt ← here
        let v ← hexDigits start n 0
        if (0xD800 ≤ v && v ≤ 0xDFFF) || v > 0x10FFFF then
          throw (.malformed "found invalid Unicode character escape code" digitsAt
            (some ("while parsing a quoted scalar", start)))
        let (rest, escaped) ← quotedRun single start fuel
        pure (String.singleton (Char.ofNat v) ++ rest, escaped)
    else
      advance
      let (rest, escaped) ← quotedRun single start fuel
      pure (String.singleton c ++ rest, escaped)

/-- Read blanks and breaks inside a quoted or plain scalar into `f`.  With
`indent` given (plain scalars), a tab left of it after a break is an error. -/
def gatherBlanks (start : Mark) (indent : Option Int) : Folding → Nat → Scan Folding
  | f, 0 => pure f
  | f, fuel + 1 => do
    let c ← peek
    if Chars.isBlank c then
      match indent with
      | some i =>
        if f.leadingBlanks && ((← here).column : Int) < i && c == '\t' then
          malformed "found a tab character that violates indentation"
            (some ("while scanning a plain scalar", start))
      | none => pure ()
      advance
      let f := if f.leadingBlanks then f else { f with whitespaces := f.whitespaces.push c }
      gatherBlanks start indent f fuel
    else if Chars.isBreak c then
      let br ← readLine
      let f := if f.leadingBlanks then { f with trailingBreaks := f.trailingBreaks ++ br }
        else { f with whitespaces := "", leadingBreak := br, leadingBlanks := true }
      gatherBlanks start indent f fuel
    else pure f

/-- Read the lines of a quoted scalar up to its closing quote. -/
def quotedLines (single : Bool) (start : Mark) : Folding → Nat → Scan Folding
  | f, 0 => pure f
  | f, fuel + 1 => do
    if ← atDocumentIndicator then
      malformed "found unexpected document indicator" (some ("while scanning a quoted scalar", start))
    if Chars.isEnd (← peek) then
      malformed "found unexpected end of stream" (some ("while scanning a quoted scalar", start))
    let (run, escapedBreak) ← quotedRun single start (← budget)
    let f := { f.push run with leadingBlanks := escapedBreak }
    if (← peek) == (if single then Char.ofNat 39 else '"') then pure f
    else
      let f ← gatherBlanks start none f (← budget)
      quotedLines single start f.join fuel

/-- Read a single- or double-quoted scalar. -/
def scanQuoted (single : Bool) : Scan Unit := do
  let start ← here
  advance
  let f ← quotedLines single start {} (← budget)
  advance
  emit (.scalar f.text (if single then .singleQuoted else .doubleQuoted)) start (← here)

/-- Whether a character ends a plain scalar's run of characters. -/
def endsPlainRun (flow : Bool) (c d : Char) : Bool :=
  (c == ':' && Chars.isBlankOrEnd d) || (flow && ",[]\x7b\x7d".toList.contains c)

/-- Read the characters of one line of a plain scalar into `f`. -/
def plainRun (start : Mark) (flow : Bool) : Folding → Mark → Nat → Scan (Folding × Mark)
  | f, stop, 0 => pure (f, stop)
  | f, stop, fuel + 1 => do
    let c ← peek
    let d ← peekAt 1
    if Chars.isBlankOrEnd c then pure (f, stop)
    else if flow && c == ':' && ",?[]\x7b\x7d".toList.contains d then
      malformed "found unexpected ':'" (some ("while scanning a plain scalar", start))
    else if endsPlainRun flow c d then pure (f, stop)
    else
      let f := if f.leadingBlanks || !f.whitespaces.isEmpty then f.join else f
      advance
      plainRun start flow (f.push (String.singleton c)) (← here) fuel

/-- Read the lines of a plain scalar. -/
def plainLines (start : Mark) (indent : Int) : Folding → Mark → Nat → Scan (Folding × Mark)
  | f, stop, 0 => pure (f, stop)
  | f, stop, fuel + 1 => do
    if (← atDocumentIndicator) || (← peek) == '#' then pure (f, stop)
    else
      let flow := (← get).flowLevel > 0
      let (f, stop) ← plainRun start flow f stop (← budget)
      let c ← peek
      if !(Chars.isBlank c || Chars.isBreak c) then pure (f, stop)
      else
        let f ← gatherBlanks start (some indent) f (← budget)
        if !flow && ((← here).column : Int) < indent then pure (f, stop)
        else plainLines start indent f stop fuel

/-- Read a plain scalar.  One that ran over a line break lets a simple key
start after it. -/
def scanPlain : Scan Unit := do
  let start ← here
  let indent := (← get).indent + 1
  let (f, stop) ← plainLines start indent {} start (← budget)
  emit (.scalar f.text .plain) start stop
  if f.leadingBlanks then modify fun s => { s with keyAllowed := true }

/-! ## Fetching tokens -/

/-- Queue the stream start. -/
def fetchStreamStart : Scan Unit := do
  modify fun s => { s with
    indent := -1
    keys := [⟨false, false, 0, ⟨0, 0, 0⟩⟩]
    keyAllowed := true
    streamStarted := true }
  emit .streamStart (← here) (← here)

/-- Queue the stream end, closing every block collection. -/
def fetchStreamEnd : Scan Unit := do
  modify fun s =>
    if s.mark.column != 0 then { s with mark := { s.mark with column := 0, line := s.mark.line + 1 } }
    else s
  unrollIndent (-1)
  removeKey
  modify fun s => { s with keyAllowed := false }
  emit .streamEnd (← here) (← here)

/-- Queue a document start or end marker. -/
def fetchDocumentIndicator (kind : TokenKind) : Scan Unit := do
  unrollIndent (-1)
  removeKey
  modify fun s => { s with keyAllowed := false }
  let start ← here
  advance
  advance
  advance
  emit kind start (← here)

/-- Queue the start of a flow collection. -/
def fetchFlowStart (kind : TokenKind) : Scan Unit := do
  saveKey
  increaseFlow
  modify fun s => { s with keyAllowed := true }
  let start ← here
  advance
  emit kind start (← here)

/-- Queue the end of a flow collection. -/
def fetchFlowEnd (kind : TokenKind) : Scan Unit := do
  removeKey
  decreaseFlow
  modify fun s => { s with keyAllowed := false }
  let start ← here
  advance
  emit kind start (← here)

/-- Queue a `,` between flow entries. -/
def fetchFlowEntry : Scan Unit := do
  removeKey
  modify fun s => { s with keyAllowed := true }
  let start ← here
  advance
  emit .flowEntry start (← here)

/-- Queue a `-` block entry, opening a block sequence if it is indented
further. -/
def fetchBlockEntry : Scan Unit := do
  let s ← get
  if s.flowLevel == 0 then
    if !s.keyAllowed then
      malformed "block sequence entries are not allowed in this context" none
    rollIndent s.mark.column none .blockSequenceStart s.mark
  removeKey
  modify fun s => { s with keyAllowed := true }
  let start ← here
  advance
  emit .blockEntry start (← here)

/-- Queue a `?` key indicator. -/
def fetchKey : Scan Unit := do
  let s ← get
  if s.flowLevel == 0 then
    if !s.keyAllowed then
      malformed "mapping keys are not allowed in this context" none
    rollIndent s.mark.column none .blockMappingStart s.mark
  removeKey
  modify fun s => { s with keyAllowed := s.flowLevel == 0 }
  let start ← here
  advance
  emit .key start (← here)

/-- Queue a `:` value indicator.  If a simple key is possible, a key token
goes in front of it, and in block context a mapping may open there. -/
def fetchValue : Scan Unit := do
  let s ← get
  match s.keys with
  | k :: rest =>
    if k.possible then
      let t : Token := ⟨.key, k.mark, k.mark⟩
      let n := k.tokenNumber - s.taken
      set { s with
        queue := s.queue.take n ++ [t] ++ s.queue.drop n
        keys := { k with possible := false } :: rest }
      rollIndent k.mark.column (some k.tokenNumber) .blockMappingStart k.mark
      modify fun s => { s with keyAllowed := false }
    else
      if s.flowLevel == 0 then
        if !s.keyAllowed then
          malformed "mapping values are not allowed in this context" none
        rollIndent s.mark.column none .blockMappingStart s.mark
      modify fun s => { s with keyAllowed := s.flowLevel == 0 }
  | [] => pure ()
  let start ← here
  advance
  emit .value start (← here)

/-- Scan the next token or tokens. -/
def fetchNext : Scan Unit := do
  if !(← get).streamStarted then fetchStreamStart
  else
    scanToNextToken (← budget)
    staleKeys
    unrollIndent (← here).column
    let c ← peek
    let d ← peekAt 1
    let s ← get
    let flow := s.flowLevel > 0
    let column := s.mark.column
    if Chars.isEnd c then fetchStreamEnd
    else if column == 0 && c == '%' then
      unrollIndent (-1)
      removeKey
      modify fun s => { s with keyAllowed := false }
      scanDirective
    else if (← atDocumentIndicator) && c == '-' then fetchDocumentIndicator .documentStart
    else if (← atDocumentIndicator) && c == '.' then fetchDocumentIndicator .documentEnd
    else if c == '[' then fetchFlowStart .flowSequenceStart
    else if c == '{' then fetchFlowStart .flowMappingStart
    else if c == ']' then fetchFlowEnd .flowSequenceEnd
    else if c == '}' then fetchFlowEnd .flowMappingEnd
    else if c == ',' then fetchFlowEntry
    else if c == '-' && Chars.isBlankOrEnd d then fetchBlockEntry
    else if c == '?' && (flow || Chars.isBlankOrEnd d) then fetchKey
    else if c == ':' && (flow || Chars.isBlankOrEnd d) then fetchValue
    else if c == '*' || c == '&' then
      saveKey
      modify fun s => { s with keyAllowed := false }
      scanAnchor (c == '*')
    else if c == '!' then
      saveKey
      modify fun s => { s with keyAllowed := false }
      scanTag
    else if (c == '|' || c == '>') && !flow then
      removeKey
      modify fun s => { s with keyAllowed := true }
      scanBlockScalar (c == '|')
    else if c.toNat == 39 || c == '"' then
      saveKey
      modify fun s => { s with keyAllowed := false }
      scanQuoted (c.toNat == 39)
    else if !(Chars.isBlankOrEnd c || "-?:,[]\x7b\x7d#&*!|>\"%@".toList.contains c || c.toNat == 39 ||
          c.toNat == 96) ||
        (c == '-' && !Chars.isBlank d) || (!flow && (c == '?' || c == ':') && !Chars.isBlankOrEnd d) then
      saveKey
      modify fun s => { s with keyAllowed := false }
      scanPlain
    else
      malformed "found character that cannot start any token"
        (some ("while scanning for the next token", s.mark))

/-- Whether the next queued token may still get a key token in front of it. -/
def headUnsettled (s : Scanner) : Bool :=
  s.keys.any fun k => k.possible && k.tokenNumber == s.taken

/-- Scan until the next queued token is settled. -/
def fetchMore : Nat → Scan Unit
  | 0 => pure ()
  | fuel + 1 => do
    if (← get).queue.isEmpty then
      fetchNext
      fetchMore fuel
    else
      staleKeys
      if headUnsettled (← get) then
        fetchNext
        fetchMore fuel
      else pure ()

/-- The next token, scanning as far as needed to settle it. -/
def peekToken (s : Scanner) : Except SyntaxError (Token × Scanner) := do
  let ((), s) ← (fetchMore (s.input.size + 4 - s.mark.index)).run s
  match s.queue with
  | t :: _ => .ok (t, s)
  | [] => .ok (⟨.streamEnd, s.mark, s.mark⟩, s)

/-- Take the next token, which `peekToken` has settled. -/
def skipToken (s : Scanner) : Scanner :=
  { s with queue := s.queue.drop 1, taken := s.taken + 1 }

end Scanner

end Yaml

end Attest
