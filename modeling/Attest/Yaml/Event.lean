import Attest.Yaml.Scanner

/-!
# Parsing YAML tokens into events

The second stage turns tokens into a stream of events: stream and document
boundaries, scalars, aliases, and the starts and ends of sequences and
mappings.  The parser is a state machine with a stack of states to return
to, as YAML's grammar nests: each call of `Parser.next` gives one event.

Where the grammar leaves a node out (a key without a value, an entry
without content, a `-` with nothing after it) an empty plain scalar stands
in for it, at the mark where it would have been.

Tags are resolved against the document's `%TAG` directives and the two
standard handles `!` and `!!`.
-/

namespace Attest

namespace Yaml

/-- The kinds of event. -/
inductive EventKind where
  | streamStart
  | streamEnd
  | documentStart (implicit : Bool)
  | documentEnd (implicit : Bool)
  | alias (name : String)
  | scalar (anchor tag : Option String) (text : String) (style : ScalarStyle)
  | sequenceStart (anchor tag : Option String) (flow : Bool)
  | sequenceEnd
  | mappingStart (anchor tag : Option String) (flow : Bool)
  | mappingEnd
  deriving DecidableEq, Repr

/-- An event with the marks where it starts and ends. -/
structure Event where
  kind : EventKind
  start : Mark
  stop : Mark
  deriving DecidableEq, Repr

/-- What the parser expects next. -/
inductive ParseState where
  | streamStart
  | implicitDocumentStart
  | documentStart
  | documentContent
  | documentEnd
  | blockNode
  | blockNodeOrIndentlessSequence
  | flowNode
  | blockSequenceFirstEntry
  | blockSequenceEntry
  | indentlessSequenceEntry
  | blockMappingFirstKey
  | blockMappingKey
  | blockMappingValue
  | flowSequenceFirstEntry
  | flowSequenceEntry
  | flowSequenceEntryMappingKey
  | flowSequenceEntryMappingValue
  | flowSequenceEntryMappingEnd
  | flowMappingFirstKey
  | flowMappingKey
  | flowMappingValue
  | flowMappingEmptyValue
  | finished
  deriving DecidableEq, Repr

/-- The state of the parser. -/
structure Parser where
  scanner : Scanner
  state : ParseState
  /-- States to return to, the innermost first. -/
  states : List ParseState
  /-- Start marks of the open collections, the innermost first. -/
  marks : List Mark
  /-- The tag handles of the current document with their prefixes. -/
  tagDirectives : List (String × String)

/-- Parsing steps: they change the parser and may fail. -/
abbrev Parse := StateT Parser (Except SyntaxError)

namespace Parser

/-- A parser at the start of a text. -/
def start (text : String) : Except SyntaxError Parser :=
  (Scanner.start text).map fun s => ⟨s, .streamStart, [], [], []⟩

/-- The next token. -/
def peekToken : Parse Token := do
  let p ← get
  match p.scanner.peekToken with
  | .ok (t, s) =>
    set { p with scanner := s }
    pure t
  | .error e => throw e

/-- Take the next token. -/
def skipToken : Parse Unit := modify fun p => { p with scanner := p.scanner.skipToken }

/-- Fail with a problem at a mark, while reading something that began at
another. -/
def failAt {α : Type} (problem : String) (problemMark : Mark) (context : Option (String × Mark)) :
    Parse α :=
  throw (.malformed problem problemMark context)

/-- Go on in state `s`. -/
def goTo (s : ParseState) : Parse Unit := modify fun p => { p with state := s }

/-- Remember the state to return to after a node. -/
def pushState (s : ParseState) : Parse Unit := modify fun p => { p with states := s :: p.states }

/-- Return to the state remembered last. -/
def popState : Parse Unit :=
  modify fun p => { p with state := p.states.headD .finished, states := p.states.drop 1 }

/-- Remember the start of a collection. -/
def pushMark (m : Mark) : Parse Unit := modify fun p => { p with marks := m :: p.marks }

/-- Forget the start of the innermost collection, giving it. -/
def popMark : Parse Mark := do
  let p ← get
  set { p with marks := p.marks.drop 1 }
  pure (p.marks.headD ⟨0, 0, 0⟩)

/-- An empty plain scalar at a mark. -/
def emptyScalar (m : Mark) : Event := ⟨.scalar none none "" .plain, m, m⟩

/-- The standard tag handles. -/
def defaultTagDirectives : List (String × String) := [("!", "!"), ("!!", "tag:yaml.org,2002:")]

/-- Read the directives before a document. -/
def directives (seenVersion : Bool) (found : List (String × String)) :
    Nat → Parse (List (String × String))
  | 0 => pure found
  | fuel + 1 => do
    let t ← peekToken
    match t.kind with
    | .versionDirective major minor =>
      if seenVersion then failAt "found duplicate %YAML directive" t.start none
      if major != 1 || (minor != 1 && minor != 2) then
        failAt "found incompatible YAML document" t.start none
      skipToken
      directives true found fuel
    | .tagDirective handle tagPrefix =>
      if found.any (·.1 == handle) then failAt "found duplicate %TAG directive" t.start none
      skipToken
      directives seenVersion (found ++ [(handle, tagPrefix)]) fuel
    | _ =>
      let all := found ++ defaultTagDirectives.filter fun (h, _) => !found.any (·.1 == h)
      modify fun p => { p with tagDirectives := all }
      pure all

/-- The fuel for reading directives. -/
def directiveBudget : Parse Nat := do
  let p ← get
  pure (p.scanner.input.size + 2)

/-- The start of the stream. -/
def streamStart : Parse Event := do
  let t ← peekToken
  if t.kind != .streamStart then failAt "did not find expected <stream-start>" t.start none
  goTo .implicitDocumentStart
  skipToken
  pure ⟨.streamStart, t.start, t.stop⟩

/-- Whether a token begins or ends a document rather than holding content. -/
def isDocumentBoundary : TokenKind → Bool
  | .versionDirective .. | .tagDirective .. | .documentStart | .documentEnd | .streamEnd => true
  | _ => false

/-- Drop document end markers after a document. -/
def skipDocumentEnds : Nat → Parse Unit
  | 0 => pure ()
  | fuel + 1 => do
    if (← peekToken).kind == .documentEnd then
      skipToken
      skipDocumentEnds fuel
    else pure ()

/-- The start of a document, implicit or after `---`, or the stream end. -/
def documentStart (implicit : Bool) : Parse Event := do
  if !implicit then skipDocumentEnds (← directiveBudget)
  let t ← peekToken
  match t.kind with
  | .streamEnd =>
    goTo .finished
    skipToken
    pure ⟨.streamEnd, t.start, t.stop⟩
  | kind =>
    if implicit && !(match kind with
        | .versionDirective .. | .tagDirective .. | .documentStart => true
        | _ => false) then
      let _ ← directives false [] (← directiveBudget)
      pushState .documentEnd
      goTo .blockNode
      pure ⟨.documentStart true, t.start, t.start⟩
    else
      let _ ← directives false [] (← directiveBudget)
      let t' ← peekToken
      if t'.kind != .documentStart then
        failAt "did not find expected <document start>" t'.start none
      pushState .documentEnd
      goTo .documentContent
      skipToken
      pure ⟨.documentStart false, t.start, t'.stop⟩

/-- The content of an explicit document, or an empty scalar if it has none. -/
def documentContent (node : Parse Event) : Parse Event := do
  let t ← peekToken
  if isDocumentBoundary t.kind then
    popState
    pure (emptyScalar t.start)
  else node

/-- The end of a document, with or without `...`. -/
def documentEnd : Parse Event := do
  let t ← peekToken
  let (stop, implicit) ← if t.kind == .documentEnd then do
      skipToken
      pure (t.stop, false)
    else pure (t.start, true)
  modify fun p => { p with tagDirectives := [] }
  goTo .documentStart
  pure ⟨.documentEnd implicit, t.start, stop⟩

/-- A node: an alias, or a scalar or collection with an optional anchor and
tag.  In block context (`block`) block collections may start here, and with
`indentless` a `-` at the mapping's own indentation starts a sequence. -/
def node (block indentless : Bool) : Parse Event := do
  let t ← peekToken
  match t.kind with
  | .alias name =>
    popState
    skipToken
    pure ⟨.alias name, t.start, t.stop⟩
  | _ =>
    let startMark := t.start
    -- an anchor and a tag, in either order
    let (anchor, tagToken, stop) ← match t.kind with
      | .anchor a => do
        skipToken
        let t2 ← peekToken
        match t2.kind with
        | .tag h s =>
          skipToken
          pure (some a, some (h, s, t2.start), t2.stop)
        | _ => pure (some a, none, t.stop)
      | .tag h s => do
        skipToken
        let t2 ← peekToken
        match t2.kind with
        | .anchor a =>
          skipToken
          pure (some a, some (h, s, t.start), t2.stop)
        | _ => pure (none, some (h, s, t.start), t.stop)
      | _ => pure (none, none, t.start)
    let tag ← match tagToken with
      | none => pure none
      | some (handle, suffix, tagMark) =>
        if handle.isEmpty then pure (some suffix)
        else
          match (← get).tagDirectives.lookup handle with
          | some tagPrefix => pure (some (tagPrefix ++ suffix))
          | none =>
            failAt "found undefined tag handle" tagMark (some ("while parsing a node", startMark))
    let t ← peekToken
    match t.kind with
    | .blockEntry =>
      if indentless then
        goTo .indentlessSequenceEntry
        pure ⟨.sequenceStart anchor tag false, startMark, t.stop⟩
      else
        if anchor.isSome || tag.isSome then
          popState
          pure ⟨.scalar anchor tag "" .plain, startMark, stop⟩
        else
          failAt "did not find expected node content" t.start
            (some (if block then "while parsing a block node" else "while parsing a flow node", startMark))
    | .scalar text style =>
      popState
      skipToken
      pure ⟨.scalar anchor tag text style, startMark, t.stop⟩
    | .flowSequenceStart =>
      goTo .flowSequenceFirstEntry
      pure ⟨.sequenceStart anchor tag true, startMark, t.stop⟩
    | .flowMappingStart =>
      goTo .flowMappingFirstKey
      pure ⟨.mappingStart anchor tag true, startMark, t.stop⟩
    | .blockSequenceStart =>
      if block then
        goTo .blockSequenceFirstEntry
        pure ⟨.sequenceStart anchor tag false, startMark, t.stop⟩
      else if anchor.isSome || tag.isSome then
        popState
        pure ⟨.scalar anchor tag "" .plain, startMark, stop⟩
      else
        failAt "did not find expected node content" t.start (some ("while parsing a flow node", startMark))
    | .blockMappingStart =>
      if block then
        goTo .blockMappingFirstKey
        pure ⟨.mappingStart anchor tag false, startMark, t.stop⟩
      else if anchor.isSome || tag.isSome then
        popState
        pure ⟨.scalar anchor tag "" .plain, startMark, stop⟩
      else
        failAt "did not find expected node content" t.start (some ("while parsing a flow node", startMark))
    | _ =>
      if anchor.isSome || tag.isSome then
        popState
        pure ⟨.scalar anchor tag "" .plain, startMark, stop⟩
      else
        failAt "did not find expected node content" t.start
          (some (if block then "while parsing a block node" else "while parsing a flow node", startMark))

/-- An entry of a block sequence, or its end. -/
def blockSequenceEntry (first : Bool) : Parse Event := do
  if first then
    pushMark (← peekToken).start
    skipToken
  let t ← peekToken
  match t.kind with
  | .blockEntry =>
    skipToken
    let t2 ← peekToken
    if t2.kind != .blockEntry && t2.kind != .blockEnd then
      pushState .blockSequenceEntry
      node true false
    else
      goTo .blockSequenceEntry
      pure (emptyScalar t.stop)
  | .blockEnd =>
    popState
    let _ ← popMark
    skipToken
    pure ⟨.sequenceEnd, t.start, t.stop⟩
  | _ =>
    failAt "did not find expected '-' indicator" t.start
      (some ("while parsing a block collection", ← popMark))

/-- An entry of a sequence written without indentation under a mapping key,
or its end. -/
def indentlessSequenceEntry : Parse Event := do
  let t ← peekToken
  if t.kind == .blockEntry then
    skipToken
    let t2 ← peekToken
    if t2.kind != .blockEntry && t2.kind != .key && t2.kind != .value && t2.kind != .blockEnd then
      pushState .indentlessSequenceEntry
      node true false
    else
      goTo .indentlessSequenceEntry
      pure (emptyScalar t.stop)
  else
    popState
    pure ⟨.sequenceEnd, t.start, t.start⟩

/-- A key of a block mapping, or its end. -/
def blockMappingKey (first : Bool) : Parse Event := do
  if first then
    pushMark (← peekToken).start
    skipToken
  let t ← peekToken
  match t.kind with
  | .key =>
    skipToken
    let t2 ← peekToken
    if t2.kind != .key && t2.kind != .value && t2.kind != .blockEnd then
      pushState .blockMappingValue
      node true true
    else
      goTo .blockMappingValue
      pure (emptyScalar t.stop)
  | .blockEnd =>
    popState
    let _ ← popMark
    skipToken
    pure ⟨.mappingEnd, t.start, t.stop⟩
  | _ =>
    failAt "did not find expected key" t.start (some ("while parsing a block mapping", ← popMark))

/-- A value of a block mapping, or an empty one. -/
def blockMappingValue : Parse Event := do
  let t ← peekToken
  if t.kind == .value then
    skipToken
    let t2 ← peekToken
    if t2.kind != .key && t2.kind != .value && t2.kind != .blockEnd then
      pushState .blockMappingKey
      node true true
    else
      goTo .blockMappingKey
      pure (emptyScalar t.stop)
  else
    goTo .blockMappingKey
    pure (emptyScalar t.start)

/-- Past the first entry of a flow collection, the `,` before the next entry
or the closing bracket; gives the token after it. -/
def separator (first : Bool) (closing : TokenKind) (problem context : String) (t : Token) :
    Parse Token := do
  if t.kind != closing && !first then
    if t.kind == .flowEntry then
      skipToken
      peekToken
    else
      let m ← popMark
      failAt problem t.start (some (context, m))
  else pure t

/-- An entry of a flow sequence, or its end. -/
def flowSequenceEntry (first : Bool) : Parse Event := do
  if first then
    pushMark (← peekToken).start
    skipToken
  let t ← separator first .flowSequenceEnd "did not find expected ',' or ']'"
    "while parsing a flow sequence" (← peekToken)
  if t.kind == .key then
    goTo .flowSequenceEntryMappingKey
    skipToken
    pure ⟨.mappingStart none none true, t.start, t.stop⟩
  else if t.kind != .flowSequenceEnd then
    pushState .flowSequenceEntry
    node false false
  else
    popState
    let _ ← popMark
    skipToken
    pure ⟨.sequenceEnd, t.start, t.stop⟩

/-- The key of a single-pair mapping inside a flow sequence. -/
def flowSequenceEntryMappingKey : Parse Event := do
  let t ← peekToken
  if t.kind != .value && t.kind != .flowEntry && t.kind != .flowSequenceEnd then
    pushState .flowSequenceEntryMappingValue
    node false false
  else
    goTo .flowSequenceEntryMappingValue
    pure (emptyScalar t.start)

/-- The value of a single-pair mapping inside a flow sequence. -/
def flowSequenceEntryMappingValue : Parse Event := do
  let t ← peekToken
  if t.kind == .value then
    skipToken
    let t2 ← peekToken
    if t2.kind != .flowEntry && t2.kind != .flowSequenceEnd then
      pushState .flowSequenceEntryMappingEnd
      node false false
    else
      goTo .flowSequenceEntryMappingEnd
      pure (emptyScalar t2.start)
  else
    goTo .flowSequenceEntryMappingEnd
    pure (emptyScalar t.start)

/-- The end of a single-pair mapping inside a flow sequence. -/
def flowSequenceEntryMappingEnd : Parse Event := do
  let t ← peekToken
  goTo .flowSequenceEntry
  pure ⟨.mappingEnd, t.start, t.start⟩

/-- A key of a flow mapping, or its end. -/
def flowMappingKey (first : Bool) : Parse Event := do
  if first then
    pushMark (← peekToken).start
    skipToken
  let t ← separator first .flowMappingEnd "did not find expected ',' or '\x7d'"
    "while parsing a flow mapping" (← peekToken)
  if t.kind == .key then
    skipToken
    let t2 ← peekToken
    if t2.kind != .value && t2.kind != .flowEntry && t2.kind != .flowMappingEnd then
      pushState .flowMappingValue
      node false false
    else
      goTo .flowMappingValue
      pure (emptyScalar t2.start)
  else if t.kind != .flowMappingEnd then
    pushState .flowMappingEmptyValue
    node false false
  else
    popState
    let _ ← popMark
    skipToken
    pure ⟨.mappingEnd, t.start, t.stop⟩

/-- A value of a flow mapping, or an empty one (always, with `empty`). -/
def flowMappingValue (empty : Bool) : Parse Event := do
  let t ← peekToken
  if empty then
    goTo .flowMappingKey
    pure (emptyScalar t.start)
  else if t.kind == .value then
    skipToken
    let t2 ← peekToken
    if t2.kind != .flowEntry && t2.kind != .flowMappingEnd then
      pushState .flowMappingKey
      node false false
    else
      goTo .flowMappingKey
      pure (emptyScalar t2.start)
  else
    goTo .flowMappingKey
    pure (emptyScalar t.start)

/-- The next event; none after the stream end. -/
def next : Parse (Option Event) := do
  match (← get).state with
  | .streamStart => some <$> streamStart
  | .implicitDocumentStart => some <$> documentStart true
  | .documentStart => some <$> documentStart false
  | .documentContent => some <$> documentContent (node true false)
  | .documentEnd => some <$> documentEnd
  | .blockNode => some <$> node true false
  | .blockNodeOrIndentlessSequence => some <$> node true true
  | .flowNode => some <$> node false false
  | .blockSequenceFirstEntry => some <$> blockSequenceEntry true
  | .blockSequenceEntry => some <$> blockSequenceEntry false
  | .indentlessSequenceEntry => some <$> indentlessSequenceEntry
  | .blockMappingFirstKey => some <$> blockMappingKey true
  | .blockMappingKey => some <$> blockMappingKey false
  | .blockMappingValue => some <$> blockMappingValue
  | .flowSequenceFirstEntry => some <$> flowSequenceEntry true
  | .flowSequenceEntry => some <$> flowSequenceEntry false
  | .flowSequenceEntryMappingKey => some <$> flowSequenceEntryMappingKey
  | .flowSequenceEntryMappingValue => some <$> flowSequenceEntryMappingValue
  | .flowSequenceEntryMappingEnd => some <$> flowSequenceEntryMappingEnd
  | .flowMappingFirstKey => some <$> flowMappingKey true
  | .flowMappingKey => some <$> flowMappingKey false
  | .flowMappingValue => some <$> flowMappingValue false
  | .flowMappingEmptyValue => some <$> flowMappingValue true
  | .finished => pure none

end Parser

end Yaml

end Attest
