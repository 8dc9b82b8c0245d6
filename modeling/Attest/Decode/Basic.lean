import Attest.Json.Describe
import Attest.Binary64.Decimal

/-!
# Typed decoding of documents

Configuration and requests arrive as JSON values or YAML documents, and are
read into typed records.  A `Doc` is either a JSON value or a node of a YAML
document; the decoders of this module read both, so that every record has one
decoder.

The two formats differ where their data models differ:

* a YAML scalar is text that each decoder reads in its own way: a string
  field takes the text as it is, a flag accepts `true`/`false` in three
  spellings, an integer field accepts decimal, hexadecimal (`0x`) and octal
  (`0o`) digits; a JSON scalar has a fixed type;
* a YAML error names the path to the failing node and its line and column; a
  JSON error names neither.

An error keeps the first position it is given: the innermost node that
reported it, or, for a rule of a record (an unknown, missing or repeated
field, or a field value that was read but then refused), the record itself.
-/

namespace Attest

namespace Decode

/-- A position in a text: line and column, both counted from zero. -/
structure Mark where
  line : Nat
  column : Nat
  deriving DecidableEq, Repr, Inhabited

/-- How a YAML scalar was written. -/
inductive ScalarStyle where
  | plain
  | singleQuoted
  | doubleQuoted
  | literal
  | folded
  deriving DecidableEq, Repr

/-- Where a YAML node starts, and the properties written before it: its tag,
resolved to a full name, and its anchor. -/
structure Props where
  mark : Mark
  tag : Option String
  anchor : Option String
  deriving Inhabited

/-- A document node: a JSON value, or a YAML scalar, sequence or mapping with
its properties, or an empty YAML document. -/
inductive Doc where
  | json (v : Json)
  | scalar (text : String) (style : ScalarStyle) (props : Props)
  | seq (items : List Doc) (props : Props)
  | map (entries : List (Doc × Doc)) (props : Props)
  /-- A collection with aliases back to itself inside: each `cycle` of its
  anchor in `body` stands for the whole knot again, so the document it
  writes is an infinite tree. -/
  | knot (anchor : String) (body : Doc)
  /-- An alias inside the collection that its anchor names, bound by the
  `knot` around it. -/
  | cycle (anchor : String)
  | empty
  /-- The place of a node that the text broke off before: decoding it fails
  with the syntax error's message. -/
  | failed (message : String)
  deriving Inhabited

/-- One step of the path from a document's root. -/
inductive PathStep where
  | key (name : String)
  | index (i : Nat)
  | unknown
  deriving DecidableEq, Repr

/-- The text of a path: `.` for the root, `a.b[0].c` below it, `?` for a
step under a key that is not text. -/
def pathText (path : List PathStep) : String :=
  go path
where
  /-- Steps from the root. -/
  go : List PathStep → String
    | [] => "."
    | steps =>
      steps.foldl (fun acc s =>
        match s with
        | .key k => (if acc = "" then "" else acc ++ ".") ++ k
        | .index i => (if acc = "" then "." else acc) ++ "[" ++ toString i ++ "]"
        | .unknown => (if acc = "" then "" else acc ++ ".") ++ "?") ""

/-- A decoding error: the message and, for YAML, the path and position. -/
structure Error where
  message : String
  position : Option (List PathStep × Mark)

/-- The text of a decoding error: `path: message at line L column C`, the path
left out at the root and the position left out at the very start. -/
def Error.text (e : Error) : String :=
  match e.position with
  | none => e.message
  | some (path, mark) =>
    let prefixText := if path.isEmpty then "" else pathText path ++ ": "
    let location := if mark.line = 0 ∧ mark.column = 0 then ""
      else s!" at line {mark.line + 1} column {mark.column + 1}"
    prefixText ++ e.message ++ location

/-- An error without position. -/
def Error.plain (message : String) : Error := ⟨message, none⟩

/-- An error whose message already says where it arose, such as a syntax
error of the text: no path or position is added to it. -/
def Error.final (message : String) : Error := ⟨message, some ([], ⟨0, 0⟩)⟩

/-- The result of decoding. -/
abbrev Result (α : Type) := Except Error α

/-- The position of a YAML node. -/
def Doc.mark? : Doc → Option Mark
  | .scalar _ _ p => some p.mark
  | .seq _ p => some p.mark
  | .map _ p => some p.mark
  | .knot _ body => body.mark?
  | _ => none

/-- The message of the first node, in reading order, that the text broke off
before. -/
def Doc.failure? : Doc → Option String
  | .failed m => some m
  | .seq xs _ => itemsFailure? xs
  | .map es _ => entriesFailure? es
  | .knot _ body => body.failure?
  | _ => none
where
  /-- The first failure among items. -/
  itemsFailure? : List Doc → Option String
    | [] => none
    | x :: rest => x.failure? <|> itemsFailure? rest
  /-- The first failure among entries. -/
  entriesFailure? : List (Doc × Doc) → Option String
    | [] => none
    | (k, v) :: rest => k.failure? <|> v.failure? <|> entriesFailure? rest

/-- Whether a node has a cycle back to an anchor that no knot inside it
binds. -/
def Doc.mentions (name : String) : Doc → Bool
  | .cycle n => n == name
  | .seq xs _ => itemsMention xs
  | .map es _ => entriesMention es
  | .knot n body => n != name && body.mentions name
  | _ => false
where
  /-- Whether an item mentions the anchor. -/
  itemsMention : List Doc → Bool
    | [] => false
    | x :: rest => x.mentions name || itemsMention rest
  /-- Whether a key or value mentions the anchor. -/
  entriesMention : List (Doc × Doc) → Bool
    | [] => false
    | (k, v) :: rest => k.mentions name || v.mentions name || entriesMention rest

/-- Put `d` for every cycle back to `name` that no knot inside binds. -/
def Doc.fill (name : String) (d : Doc) : Doc → Doc
  | .cycle n => if n == name then d else .cycle n
  | .seq xs p => .seq (fillItems xs) p
  | .map es p => .map (fillEntries es) p
  | .knot n body => if n == name then .knot n body else .knot n (Doc.fill name d body)
  | other => other
where
  /-- Fill items. -/
  fillItems : List Doc → List Doc
    | [] => []
    | x :: rest => Doc.fill name d x :: fillItems rest
  /-- Fill keys and values. -/
  fillEntries : List (Doc × Doc) → List (Doc × Doc)
    | [] => []
    | (k, v) :: rest => (Doc.fill name d k, Doc.fill name d v) :: fillEntries rest

/-- A node with a knot at its top unfolded once: the knotted collection,
with the knot itself in place of its cycles. -/
def Doc.unfold : Doc → Doc
  | .knot n body => Doc.fill n (.knot n body) body
  | node => node

/-- An anchored collection, knotted if it has cycles back to its anchor. -/
def Doc.knotted (anchor : Option String) (node : Doc) : Doc :=
  match anchor with
  | some a => if node.mentions a then .knot a node else node
  | none => node

/-- Give an error without position the position of a node at a path. -/
def place (path : List PathStep) (node : Doc) (e : Error) : Error :=
  match e.position, node with
  | none, .json _ => e
  | none, .empty => { e with position := some (path, ⟨0, 0⟩) }
  | none, n => { e with position := n.mark?.map fun m => (path, m) }
  | some _, _ => e

/-- Run a decoder of a node, placing its errors at the node. -/
def atNode {α : Type} (path : List PathStep) (node : Doc) (r : Result α) : Result α :=
  r.mapError (place path node)

/-- Whether a plain scalar means null. -/
def isNullText (s : String) : Bool :=
  s.isEmpty || s == "null" || s == "Null" || s == "NULL" || s == "~"

/-- The boolean of a plain scalar. -/
def boolOfText? (s : String) : Option Bool :=
  match s with
  | "true" | "True" | "TRUE" => some true
  | "false" | "False" | "FALSE" => some false
  | _ => none

/-- Digits in a base, all of them, at least one. -/
def digitsInBase? (base : Nat) (s : String) : Option Nat :=
  if s.isEmpty then none
  else s.toList.foldl (fun acc c => acc.bind fun v =>
    let d := if '0' ≤ c ∧ c ≤ '9' then c.toNat - '0'.toNat
      else if 'a' ≤ c ∧ c ≤ 'z' then c.toNat - 'a'.toNat + 10
      else if 'A' ≤ c ∧ c ≤ 'Z' then c.toNat - 'A'.toNat + 10
      else 99
    if d < base then some (v * base + d) else none) (some 0)

/-- An unsigned number in a base, with an optional `+` sign in front. -/
def unsignedInBase? (base : Nat) (s : String) : Option Nat :=
  match s.toList with
  | '+' :: rest => digitsInBase? base (String.ofList rest)
  | _ => digitsInBase? base s

/-- A leading zero followed only by digits: text, not a number, in YAML. -/
def zeroPaddedDigits (s : String) : Bool :=
  let cs := match s.toList with
    | '-' :: r => r
    | '+' :: r => r
    | r => r
  cs.length > 1 && cs.head? == some '0' && cs.all Char.isDigit

/-- Strip a prefix. -/
def stripPrefix? (p s : String) : Option String :=
  if s.startsWith p then some (String.ofList (s.toList.drop p.length)) else none

/-- The non-negative integer of a YAML plain scalar: decimal, or hexadecimal,
octal or binary after `0x`, `0o` or `0b`, with an optional `+`. -/
def unsignedOfText? (s : String) : Option Nat :=
  let body := (stripPrefix? "+" s).getD s
  let radix (p : String) (base : Nat) : Option Nat :=
    (stripPrefix? p body).bind fun rest =>
      if rest.startsWith "+" || rest.startsWith "-" then none else unsignedInBase? base rest
  match radix "0x" 16 with
  | some v => some v
  | none =>
    match radix "0o" 8 with
    | some v => some v
    | none =>
      match radix "0b" 2 with
      | some v => some v
      | none =>
        if body.startsWith "+" || body.startsWith "-" || zeroPaddedDigits s then none
        else digitsInBase? 10 body

/-- The negative integer of a YAML plain scalar. -/
def negativeOfText? (s : String) : Option Int :=
  let radix (p : String) (base : Nat) : Option Int :=
    (stripPrefix? p s).bind fun rest => (digitsInBase? base rest).map fun v => -(v : Int)
  match radix "-0x" 16 with
  | some v => some v
  | none =>
    match radix "-0o" 8 with
    | some v => some v
    | none =>
      match radix "-0b" 2 with
      | some v => some v
      | none =>
        if zeroPaddedDigits s then none
        else (stripPrefix? "-" s).bind fun rest =>
          if rest.startsWith "+" || rest.startsWith "-" then none
          else (digitsInBase? 10 rest).map fun v => -(v : Int)

/-- A decimal floating-point literal `[digits][.digits][e[±]digits]` with at
least one digit before the exponent. -/
def decimalLiteral? (s : String) : Option (Bool × Nat × Int) :=
  let (negative, cs) := match s.toList with
    | '-' :: r => (true, r)
    | '+' :: r => (false, r)
    | r => (false, r)
  let intPart := cs.takeWhile Char.isDigit
  let rest := cs.dropWhile Char.isDigit
  let (fracPart, rest) := match rest with
    | '.' :: r => (r.takeWhile Char.isDigit, r.dropWhile Char.isDigit)
    | r => ([], r)
  if intPart.isEmpty && fracPart.isEmpty then none
  else
    let expPart : Option Int := match rest with
      | [] => some 0
      | c :: r =>
        if c = 'e' ∨ c = 'E' then
          let (eneg, ds) := match r with
            | '-' :: d => (true, d)
            | '+' :: d => (false, d)
            | d => (false, d)
          if ds.isEmpty || !ds.all Char.isDigit then none
          else
            let v := (digitsInBase? 10 (String.ofList ds)).getD 0
            some (if eneg then -(v : Int) else v)
        else none
    expPart.map fun e =>
      let digits := (digitsInBase? 10 (String.ofList (intPart ++ fracPart))).getD 0
      (negative, digits, e - fracPart.length)

/-- The finite double of a YAML plain scalar, correctly rounded; infinities
are written `.inf`, and NaN `.nan`. -/
def floatOfText? (s : String) : Option Binary64 :=
  let body := match stripPrefix? "+" s with
    | some rest => if rest.startsWith "+" || rest.startsWith "-" then none else some rest
    | none => some s
  body.bind fun body =>
    if body == ".inf" || body == ".Inf" || body == ".INF" then some Binary64.infinity
    else if s == "-.inf" || s == "-.Inf" || s == "-.INF" then some Binary64.infinity.neg
    else if s == ".nan" || s == ".NaN" || s == ".NAN" then some Binary64.nan
    else
      (decimalLiteral? body).bind fun (neg, d, e) =>
        let x := Binary64.ofDecimal neg d e
        if x.isFinite then some x else none

/-- The full name of a tag of the YAML core schema, as `!!name` abbreviates it. -/
def coreTag (name : String) : String := "tag:yaml.org,2002:" ++ name

/-- Whether a node carries a local tag, one written `!name` or `!`. -/
def isLocalTag : Option String → Bool
  | some t => t.startsWith "!"
  | none => false

/-- What a YAML scalar denotes when it is read as a primitive value. -/
inductive Reading where
  | unit
  | bool (b : Bool)
  /-- An integer within 128 bits: from `-2 ^ 127` up to below `2 ^ 128`. -/
  | integer (i : Int)
  | float (x : Binary64)
  | text (s : String)

/-- The integer of a plain scalar, if it fits in 128 bits. -/
def integerOfText? (s : String) : Option Int :=
  match unsignedOfText? s with
  | some n => if n < Nat.pow 2 128 then some n else none
  | none =>
    match negativeOfText? s with
    | some i => if i ≥ -(Int.pow 2 127) then some i else none
    | none => none

/-- The reading of an untagged plain scalar under the core schema: null, a
boolean, an integer within 128 bits, a double (never for digits with a
leading zero, which stay text), or else text. -/
def plainReading (s : String) : Reading :=
  if isNullText s then .unit
  else match boolOfText? s with
    | some b => .bool b
    | none =>
      match integerOfText? s with
      | some i => .integer i
      | none =>
        if zeroPaddedDigits s then .text s
        else match floatOfText? s with
          | some x => .float x
          | none => .text s

/-- The reading of a tagged scalar: a tag of the core schema for booleans,
integers, doubles or null insists on that type and refuses text of another;
a local tag leaves a plain scalar to be read as if untagged; any other tag,
and a local tag on a quoted or block scalar, makes text. -/
def taggedReading (tag text : String) (style : ScalarStyle) : Result Reading :=
  let refuse (expected : String) : Result Reading :=
    .error (.plain ("invalid value: " ++ Json.kindText (.str text) ++ ", expected " ++ expected))
  if tag == coreTag "bool" then
    match boolOfText? text with
    | some b => .ok (.bool b)
    | none => refuse "a boolean"
  else if tag == coreTag "int" then
    match integerOfText? text with
    | some i => .ok (.integer i)
    | none => refuse "an integer"
  else if tag == coreTag "float" then
    match floatOfText? text with
    | some x => .ok (.float x)
    | none => refuse "a float"
  else if tag == coreTag "null" then
    if !text.isEmpty && isNullText text then .ok .unit else refuse "null"
  else if tag.startsWith "!" && style == .plain then .ok (plainReading text)
  else .ok (.text text)

/-- The reading of a scalar as if it had no tag: a quoted or block scalar is
text. -/
def untaggedReading (text : String) (style : ScalarStyle) : Reading :=
  if style == .plain then plainReading text else .text text

/-- The reading of a scalar with its style and tag. -/
def scalarReading (text : String) (style : ScalarStyle) : Option String → Result Reading
  | some tag => taggedReading tag text style
  | none => .ok (untaggedReading text style)

/-- The kind of a reading, as named in type errors: null is the unit value, a
double keeps `.0` when whole, and an integer beyond 64 bits is named with its
width. -/
def Reading.kindText : Reading → String
  | .unit => "unit value"
  | .bool b => Json.kindText (.bool b)
  | .integer i =>
    if i ≥ Nat.pow 2 64 then s!"integer `{i}` as u128"
    else if i < -(Int.pow 2 63) then s!"integer `{i}` as i128"
    else Json.kindText (.num (.int i))
  | .float x => s!"floating point `{Json.pointedText x}`"
  | .text s => Json.kindText (.str s)

/-- The JSON value of a reading: a JSON number holds 64-bit integers only,
and an infinite or NaN double becomes null. -/
def Reading.toJson : Reading → Result Json
  | .unit => .ok .null
  | .bool b => .ok (.bool b)
  | .integer i =>
    if -(Int.pow 2 63) ≤ i ∧ i < Nat.pow 2 64 then .ok (.num (.int i))
    else .error (.plain "JSON number out of range")
  | .float x => .ok (if x.isFinite then .num (.float x) else .null)
  | .text s => .ok (.str s)

/-- The kind of a node, as named in type errors. -/
def Doc.kindText : Doc → String
  | .json v => v.kindText
  | .scalar t style p =>
    match scalarReading t style p.tag with
    | .ok r => r.kindText
    | .error _ => Json.kindText (.str t)
  | .seq .. => "sequence"
  | .map .. => "map"
  | .knot _ body => body.kindText
  | .cycle _ => "unit value"
  | .empty => "unit value"
  | .failed _ => "unit value"

/-- Whether a node is an empty untagged plain scalar, which a sequence or
mapping decoder reads as empty. -/
def Doc.isBlank : Doc → Bool
  | .scalar t .plain p => t.isEmpty && p.tag.isNone
  | _ => false

/-- An error for a node of the wrong kind; at a node the text broke off
before, the syntax error. -/
def invalidType (node : Doc) (expected : String) : Error :=
  match node with
  | .failed m => .final m
  | _ => .plain ("invalid type: " ++ node.kindText ++ ", expected " ++ expected)

/-- A string. -/
def string (path : List PathStep) (node : Doc) : Result String :=
  atNode path node <|
    match node with
    | .json (.str s) => .ok s
    | .scalar t _ _ => .ok t
    | n => .error (invalidType n "a string")

/-- A boolean.  A scalar's tag is not consulted: the flag is read from the
scalar as if untagged. -/
def bool (path : List PathStep) (node : Doc) : Result Bool :=
  atNode path node <|
    match node with
    | .json (.bool b) => .ok b
    | .scalar t style _ =>
      match untaggedReading t style with
      | .bool b => .ok b
      | r => .error (.plain ("invalid type: " ++ r.kindText ++ ", expected a boolean"))
    | n => .error (invalidType n "a boolean")

/-- A 64-bit unsigned integer, read from a scalar as if untagged. -/
def u64 (path : List PathStep) (node : Doc) : Result Nat :=
  atNode path node <|
    match node with
    | .json (.num (.int i)) =>
      if i < 0 then .error (.plain s!"invalid value: integer `{i}`, expected u64") else .ok i.toNat
    | .scalar t style _ => do
      let r := untaggedReading t style
      let refuse : Result Nat := .error (.plain ("invalid type: " ++ r.kindText ++ ", expected u64"))
      match r with
      | .integer i => if 0 ≤ i ∧ i < Nat.pow 2 64 then .ok i.toNat else refuse
      | _ => refuse
    | n => .error (invalidType n "u64")

/-- Whether a node stands for an absent optional value: null, or a plain
scalar that reads as null.  A plain scalar tagged as null must be null text. -/
def isAbsent (path : List PathStep) (node : Doc) : Result Bool :=
  match node with
  | .json .null => .ok true
  | .scalar t .plain p =>
    match p.tag with
    | none => .ok (isNullText t)
    | some tag =>
      if tag == coreTag "null" then
        if !t.isEmpty && isNullText t then .ok true
        else atNode path node (.error (.plain
          ("invalid value: " ++ Json.kindText (.str t) ++ ", expected null")))
      else .ok false
  | .empty => .ok true
  | _ => .ok false

/-- An optional value: absent for null. -/
def optional {α : Type} (path : List PathStep) (decode : Doc → Result α) (node : Doc) :
    Result (Option α) := do
  if ← isAbsent path node then .ok none else (decode node).map some

/-- The items of a sequence. -/
def items (path : List PathStep) (node : Doc) : Result (List Doc) :=
  atNode path node <|
    match node.unfold with
    | .json (.arr xs) => .ok (xs.map .json)
    | .seq xs _ => .ok xs
    | .empty => .ok []
    | n => if n.isBlank then .ok [] else .error (invalidType n "a sequence")

/-- Decode each item of a sequence, stopping at the first failure. -/
def eachItem {α : Type} (path : List PathStep) (decode : List PathStep → Doc → Result α)
    (xs : List Doc) : Result (List α) :=
  go 0 xs
where
  /-- Items from index `i` on. -/
  go : Nat → List Doc → Result (List α)
    | _, [] => .ok []
    | i, x :: rest => do
      let v ← decode (path ++ [.index i]) x
      let vs ← go (i + 1) rest
      .ok (v :: vs)

/-- A list. -/
def list {α : Type} (path : List PathStep) (decode : List PathStep → Doc → Result α)
    (node : Doc) : Result (List α) := do
  let xs ← items path node
  atNode path node (eachItem path decode xs)

/-- The entries of a mapping, in the order they are read: sorted by key for
JSON objects, as written for YAML. -/
def entries (path : List PathStep) (node : Doc) (expected : String) : Result (List (Doc × Doc)) :=
  atNode path node <|
    match node.unfold with
    | .json (.obj ms) => .ok (ms.map fun (k, v) => (.json (.str k), .json v))
    | .map es _ => .ok es
    | .empty => .ok []
    | n => if n.isBlank then .ok [] else .error (invalidType n expected)

/-- The path step of a mapping key. -/
def keyStep (key : Doc) : PathStep :=
  match key with
  | .json (.str s) => .key s
  | .scalar t _ _ => .key t
  | _ => .unknown

/-- A map with text keys; of two entries with one key the later wins. -/
def stringMap {α : Type} (path : List PathStep) (decode : List PathStep → Doc → Result α)
    (node : Doc) : Result (List (String × α)) := do
  let es ← entries path node "a map"
  let pairs ← atNode path node (es.mapM fun (k, v) => do
    let key ← string path k
    let value ← decode (path ++ [keyStep k]) v
    .ok (key, value))
  .ok (pairs.foldl (fun acc (k, v) => (acc.filter (·.1 != k)) ++ [(k, v)]) [] |>.mergeSort
    (fun a b => decide (a.1 ≤ b.1)))

/-- The error for a node with a local tag, which names a variant of an enum
where any JSON value is expected. -/
def enumTagged : Error := .plain "invalid type: enum, expected any valid JSON value"

/-- How deep collections may nest in a YAML document read as JSON values;
the root collection is at depth one. -/
def depthLimit : Nat := 128

/-- The error for a collection nested deeper than `depthLimit`, at the
collection's start and without a path. -/
def tooDeep (m : Mark) : Error :=
  .final s!"recursion limit exceeded at line {m.line + 1} column {m.column + 1}"

/-- The JSON value of a node with room for `room` more levels of
collections: a YAML scalar as its reading, a node with a local tag refused,
and of two entries with one key the later kept. -/
def valueWithin (room : Nat) (path : List PathStep) (node : Doc) : Result Json :=
  match node.unfold with
  | .json v => .ok v
  | node@(.scalar t style p) =>
    atNode path node <|
      if isLocalTag p.tag then .error enumTagged
      else do (← scalarReading t style p.tag).toJson
  | node@(.seq xs p) =>
    if isLocalTag p.tag then atNode path node (.error enumTagged)
    else
      match room with
      | 0 => .error (tooDeep p.mark)
      | room + 1 => do
        let vs ← xs.zipIdx.mapM fun (x, i) => valueWithin room (path ++ [.index i]) x
        .ok (.arr vs)
  | node@(.map es p) =>
    if isLocalTag p.tag then atNode path node (.error enumTagged)
    else
      match room with
      | 0 => .error (tooDeep p.mark)
      | room + 1 => do
        let ms ← es.foldlM (fun ms (k, v) => do
          let key ← string path k
          let value ← valueWithin room (path ++ [keyStep k]) v
          .ok (Json.Members.insert key value ms)) []
        .ok (.obj ms)
  | .failed m => .error (.final m)
  | _ => .ok .null

/-- The JSON value of a node at a path, within the depth left below it. -/
def anyValue (path : List PathStep) (node : Doc) : Result Json :=
  valueWithin (depthLimit - path.length) path node

end Decode

end Attest
