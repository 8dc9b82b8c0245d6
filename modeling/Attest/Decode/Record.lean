import Attest.Decode.Basic

/-!
# Records and variants

A record is read from a mapping, entry by entry in reading order: each key
must name a field (unless the record keeps unknown keys), no field may come
twice, and each value must decode.  Only then are missing fields looked for,
in declaration order.  A JSON array may stand for a record too, its items
taken as the fields in declaration order.

A variant without data is read from its name.
-/

namespace Attest

namespace Decode

/-- A list of names in a message: `` `a` ``, `` `a` or `b` ``, or
`` one of `a`, `b`, `c` ``. -/
def oneOf (names : List String) : String :=
  match names with
  | [a] => s!"`{a}`"
  | [a, b] => s!"`{a}` or `{b}`"
  | _ => "one of " ++ ", ".intercalate (names.map fun n => s!"`{n}`")

/-- The error for a key that names no field. -/
def unknownField (name : String) (fields : List String) : Error :=
  if fields.isEmpty then .plain s!"unknown field `{name}`, there are no fields"
  else .plain s!"unknown field `{name}`, expected {oneOf fields}"

/-- The error for a name that names no variant. -/
def unknownVariant (name : String) (variants : List String) : Error :=
  if variants.isEmpty then .plain s!"unknown variant `{name}`, there are no variants"
  else .plain s!"unknown variant `{name}`, expected {oneOf variants}"

/-- A field of a record. -/
structure Field where
  /-- The field's name. -/
  name : String
  /-- Whether a mapping may leave the field out. -/
  optional : Bool
  /-- Whether a sequence may leave the field out at its end. -/
  defaulted : Bool
  /-- Decode a value of the field, only to see whether it decodes. -/
  check : List PathStep → Doc → Result Unit

/-- A field that must be present. -/
def Field.required {α : Type} (name : String) (decode : List PathStep → Doc → Result α) : Field :=
  ⟨name, false, false, fun p d => (decode p d).map fun _ => ()⟩

/-- A field that may be absent from a mapping, but not from a sequence. -/
def Field.maybe {α : Type} (name : String) (decode : List PathStep → Doc → Result α) : Field :=
  ⟨name, true, false, fun p d => (decode p d).map fun _ => ()⟩

/-- A field with a default. -/
def Field.withDefault {α : Type} (name : String) (decode : List PathStep → Doc → Result α) :
    Field :=
  ⟨name, true, true, fun p d => (decode p d).map fun _ => ()⟩

/-- The values found for the fields of a record. -/
structure Found where
  /-- The record's path. -/
  path : List PathStep
  /-- The record's node. -/
  node : Doc
  /-- Field names with their value nodes. -/
  values : List (String × Doc)

/-- The name of a key of a record's mapping. -/
def fieldName (path : List PathStep) (key : Doc) : Result String :=
  atNode path key <|
    match key with
    | .json (.str s) => .ok s
    | .scalar t _ _ => .ok t
    | n => .error (invalidType n "field identifier")

/-- Read the entries of a record's mapping in order. -/
def scanEntries (path : List PathStep) (fields : List Field) (keepUnknown : Bool) :
    List (String × Doc) → List (Doc × Doc) → Result (List (String × Doc))
  | seen, [] => .ok seen.reverse
  | seen, (k, v) :: rest => do
    let name ← fieldName path k
    match fields.find? (·.name == name) with
    | none =>
      if keepUnknown then
        match v.failure? with
        | some m => .error (.final m)
        | none => scanEntries path fields keepUnknown seen rest
      else .error (place path k (unknownField name (fields.map (·.name))))
    | some f =>
      if seen.any (·.1 == name) then .error (.plain s!"duplicate field `{name}`")
      else do
        f.check (path ++ [keyStep k]) v
        scanEntries path fields keepUnknown ((name, v) :: seen) rest

/-- Read the items of a JSON array standing for a record. -/
def scanItems (recordName : String) (fields : List Field) (total : Nat) :
    Nat → List Field → List Json → Result (List (String × Doc))
  | _, [], [] => .ok []
  | _, [], _ :: _ =>
    .error (.plain s!"invalid length {total}, expected fewer elements in array")
  | i, f :: fs, [] =>
    if f.defaulted then scanItems recordName fields total (i + 1) fs []
    else .error (.plain
      s!"invalid length {i}, expected struct {recordName} with {fields.length} elements")
  | i, f :: fs, x :: xs => do
    f.check [] (.json x)
    let rest ← scanItems recordName fields total (i + 1) fs xs
    .ok ((f.name, .json x) :: rest)

/-- Read a record's fields, checking every value. -/
def record (recordName : String) (fields : List Field) (keepUnknown : Bool)
    (path : List PathStep) (node : Doc) : Result Found :=
  atNode path node <|
    match node.unfold with
    | .json (.arr xs) => do
      let values ← scanItems recordName fields xs.length 0 fields xs
      .ok ⟨path, node, values⟩
    | .json (.obj ms) => do
      let values ← scanEntries path fields keepUnknown []
        (ms.map fun (k, v) => (.json (.str k), .json v))
      .ok ⟨path, node, values⟩
    | .map es _ => do
      let values ← scanEntries path fields keepUnknown [] es
      .ok ⟨path, node, values⟩
    | .empty => .ok ⟨path, node, []⟩
    | n => if n.isBlank then .ok ⟨path, node, []⟩ else .error (invalidType n s!"struct {recordName}")

/-- The value of a field that must be present. -/
def Found.need {α : Type} (found : Found) (name : String)
    (decode : List PathStep → Doc → Result α) : Result α :=
  match found.values.lookup name with
  | some v => atNode found.path found.node (decode (found.path ++ [.key name]) v)
  | none => .error (place found.path found.node (.plain s!"missing field `{name}`"))

/-- The value of a field that may be absent. -/
def Found.get {α : Type} (found : Found) (name : String)
    (decode : List PathStep → Doc → Result α) : Result (Option α) :=
  match found.values.lookup name with
  | some v => (atNode found.path found.node (decode (found.path ++ [.key name]) v)).map some
  | none => .ok none

/-- The value of a field, or a default when it is absent. -/
def Found.getD {α : Type} (found : Found) (name : String)
    (decode : List PathStep → Doc → Result α) (default : α) : Result α :=
  (found.get name decode).map (·.getD default)

/-- The variant name that a local tag gives: the tag without its `!`, or `!`
itself for the bare tag. -/
def localTagName? : Option String → Option String
  | some t =>
    if t.startsWith "!" then some (if t.length == 1 then t else String.ofList (t.toList.drop 1))
    else none
  | none => none

/-- A variant without data.  JSON names it by a string, or by an object with
its name as the one key and null as the value.  YAML names it by a scalar, or
by a local tag (`!Name`) on a null plain scalar; an untagged collection names
none.  A name that a tag gives and that is no variant is reported at the
enclosing record. -/
def variant {α : Type} (names : List (String × α)) (path : List PathStep) (node : Doc) :
    Result α :=
  let byName (n : String) : Result α :=
    match names.lookup n with
    | some v => .ok v
    | none => .error (unknownVariant n (names.map (·.1)))
  let refuse (kind expected : String) : Error := .plain ("invalid type: " ++ kind ++ ", expected " ++ expected)
  let collection (p : Props) (kind : String) : Result α :=
    match localTagName? p.tag with
    | some n => do
      let _ ← byName n
      atNode path node (.error (refuse kind "unit"))
    | none => atNode path node (.error (refuse kind "a YAML tag starting with '!'"))
  match node.unfold with
  | .json (.str s) => atNode path node (byName s)
  | .json (.obj [(k, v)]) =>
    atNode path node <|
      match byName k with
      | .ok r => if v = .null then .ok r else .error (invalidType (.json v) "unit variant")
      | .error e => .error e
  | .json (.obj _) => atNode path node (.error (.plain "invalid value: map, expected map with a single key"))
  | .json v => atNode path node (.error (invalidType (.json v) "string or map"))
  | .scalar t style p =>
    match localTagName? p.tag with
    | some n => do
      let r ← byName n
      atNode path node <|
        if style == .plain && isNullText t then .ok r
        else .error (.plain ("invalid value: " ++ Json.kindText (.str t) ++ ", expected null"))
    | none => atNode path node (byName t)
  | .seq _ p => collection p "sequence"
  | .map _ p => collection p "map"
  | .empty => .error (.plain "EOF while parsing a value")
  | .failed m => .error (.final m)
  | n => atNode path node (.error (invalidType n "a YAML tag starting with '!'"))

end Decode

end Attest
