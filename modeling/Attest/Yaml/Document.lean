import Attest.Yaml.Event

/-!
# YAML documents as nodes to decode

A text is read as one document.  Its events are gathered up to the end of
the first document; an alias stands for a copy of the node its anchor
named, so the node tree has no aliases left; an alias inside the very
collection its anchor names is a cycle of a knot (`Decode.Doc.knot`).

A syntax error does not discard what came before it: the events read so far
still form a tree, and the error stands at the first place the tree breaks
off (`Decode.Doc.failed`).  Decoding thus reports whichever comes first in
reading order: a value of the wrong kind before the break, or the syntax
error itself.  A text that decodes but has a syntax error further on, or a
second document, is still refused.
-/

namespace Attest

namespace Yaml

/-- The message of a document that ends where a value was expected. -/
def endOfStream : String := "EOF while parsing a value"

/-- The message of a text with more than one document. -/
def severalDocuments : String := "deserializing from YAML containing more than one document is not supported"

/-- The node events of the first document, the error that cut them short if
any, and whether another document follows. -/
structure Gathered where
  events : List Event
  failure : Option SyntaxError
  more : Bool

/-- Whether an event starts, ends or stands for a node. -/
def EventKind.isNode : EventKind → Bool
  | .streamStart | .streamEnd | .documentStart _ | .documentEnd _ => false
  | _ => true

/-- The anchor an event defines. -/
def EventKind.anchor? : EventKind → Option String
  | .scalar a .. => a
  | .sequenceStart a .. => a
  | .mappingStart a .. => a
  | _ => none

/-- Whether the parser, after the first document, goes on to another. -/
def anotherDocument (p : Parser) : Bool :=
  match Parser.next p with
  | .ok (some e, _) => e.kind != .streamEnd
  | .ok (none, _) => false
  | .error _ => true

/-- Gather events up to the end of the first document.  `anchors` are the
anchor names defined so far; an alias of another name ends the document
with an error. -/
def gather (anchors : List String) (acc : List Event) : Nat → Parser → Gathered
  | 0, _ => ⟨acc.reverse, none, false⟩
  | fuel + 1, p =>
    match Parser.next p with
    | .error e => ⟨acc.reverse, some e, false⟩
    | .ok (none, _) => ⟨acc.reverse, none, false⟩
    | .ok (some e, p) =>
      match e.kind with
      | .streamEnd => ⟨acc.reverse, none, false⟩
      | .documentEnd _ => ⟨acc.reverse, none, anotherDocument p⟩
      | .alias name =>
        if anchors.contains name then gather anchors (e :: acc) fuel p
        else ⟨acc.reverse, some (.unknownAnchor e.start), false⟩
      | kind =>
        if kind.isNode then
          let anchors := match kind.anchor? with
            | some a => a :: anchors
            | none => anchors
          gather anchors (e :: acc) fuel p
        else gather anchors acc fuel p

/-- Anchors by name, the latest first: a finished node, or none while its
node is still open. -/
abbrev Anchors := List (String × Option Decode.Doc)

/-- Record an anchor's state. -/
def Anchors.note (a : Anchors) (name : Option String) (d : Option Decode.Doc) : Anchors :=
  match name with
  | some n => (n, d) :: a
  | none => a

mutual

/-- The node that the events start with; `broken` stands where they run
out. -/
def node (broken : Decode.Doc) : Nat → Anchors → List Event → Decode.Doc × Anchors × List Event
  | 0, a, evs => (broken, a, evs)
  | _ + 1, a, [] => (broken, a, [])
  | fuel + 1, a, e :: rest =>
    let m := e.start.toDecode
    match e.kind with
    | .scalar anchor tag text style =>
      let d := .scalar text style ⟨m, tag, anchor⟩
      (d, a.note anchor (some d), rest)
    | .alias name =>
      match a.lookup name with
      | some (some d) => (d, a, rest)
      | some none => (.cycle name, a, rest)
      | none => (.failed (SyntaxError.unknownAnchor e.start).text, a, rest)
    | .sequenceStart anchor tag _ =>
      let (items, a, rest) := sequenceItems broken fuel (a.note anchor none) rest
      let d := Decode.Doc.knotted anchor (.seq items ⟨m, tag, anchor⟩)
      (d, a.note anchor (some d), rest)
    | .mappingStart anchor tag _ =>
      let (entries, a, rest) := mappingEntries broken fuel (a.note anchor none) rest
      let d := Decode.Doc.knotted anchor (.map entries ⟨m, tag, anchor⟩)
      (d, a.note anchor (some d), rest)
    | _ => (broken, a, rest)

/-- The items of a sequence, up to its end. -/
def sequenceItems (broken : Decode.Doc) : Nat → Anchors → List Event →
    List Decode.Doc × Anchors × List Event
  | 0, a, evs => ([broken], a, evs)
  | _ + 1, a, [] => ([broken], a, [])
  | fuel + 1, a, e :: rest =>
    if e.kind == .sequenceEnd then ([], a, rest)
    else
      let (d, a, rest) := node broken fuel a (e :: rest)
      let (ds, a, rest) := sequenceItems broken fuel a rest
      (d :: ds, a, rest)

/-- The entries of a mapping, up to its end. -/
def mappingEntries (broken : Decode.Doc) : Nat → Anchors → List Event →
    List (Decode.Doc × Decode.Doc) × Anchors × List Event
  | 0, a, evs => ([(broken, .empty)], a, evs)
  | _ + 1, a, [] => ([(broken, .empty)], a, [])
  | fuel + 1, a, e :: rest =>
    if e.kind == .mappingEnd then ([], a, rest)
    else
      let (k, a, rest) := node broken fuel a (e :: rest)
      let (v, a, rest) := node broken fuel a rest
      let (es, a, rest) := mappingEntries broken fuel a rest
      ((k, v) :: es, a, rest)

end

/-- A YAML text read as a document. -/
structure Document where
  /-- The root node: empty for a text without content. -/
  root : Decode.Doc
  /-- The syntax error the text has, if any. -/
  failure : Option SyntaxError
  /-- Whether a second document follows the first. -/
  more : Bool

/-- Read the first document of a text. -/
def Document.read (text : String) : Document :=
  match Parser.start text with
  | .error e => ⟨.failed e.text, some e, false⟩
  | .ok p =>
    let g := gather [] [] (4 * text.length + 16) p
    let broken : Decode.Doc := .failed ((g.failure.map SyntaxError.text).getD endOfStream)
    let root := match g.events, g.failure with
      | [], none => .empty
      | evs, _ => (node broken (evs.length + 1) [] evs).1
    ⟨root, g.failure, g.more⟩

/-- Decode a document's root.  A syntax error or a second document refuses a
text even where the root decoded. -/
def Document.decode {α : Type} (d : Document)
    (decoder : List Decode.PathStep → Decode.Doc → Decode.Result α) : Decode.Result α :=
  match decoder [] d.root with
  | .error e => .error e
  | .ok v =>
    match d.failure with
    | some f => .error (.final f.text)
    | none => if d.more then .error (.final severalDocuments) else .ok v

end Yaml

end Attest
