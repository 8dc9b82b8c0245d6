import Attest.Regex.Bracket

/-!
# URI references

Schemas name each other by URI references (RFC 3986).  A reference is read
into its five parts (scheme, authority, path, query, fragment), refused at
the first character the grammar does not allow there, and resolved against
the URI of the schema it stands in (RFC 3986, section 5.2).

What the reading allows, part by part: unreserved characters, sub-delimiters
and percent-escapes everywhere; `:` and `@` in the authority, the path, the
query and the fragment; `/` in the path, query and fragment; `?` in the
query and fragment; `[` and `]` in the authority.  A reference without a
scheme and without an authority has no `:` in its first path segment.
-/

namespace Attest

namespace Schema

/-- A URI reference split into its parts. -/
structure Uri where
  scheme : Option String
  authority : Option String
  path : String
  query : Option String
  fragment : Option String
  deriving Inhabited, BEq

/-- Why a text is not a URI reference, with the index of the character at
fault. -/
inductive UriFault where
  | unexpected (index : Nat)
  | badOctet (index : Nat)
  deriving Inhabited, BEq

/-- The text of a fault. -/
def UriFault.message : UriFault → String
  | .unexpected i => s!"unexpected character at index {i}"
  | .badOctet i => s!"invalid percent-encoded octet at index {i}"

/-- Letters, digits and `-._~`. -/
def isUnreserved (c : Char) : Bool :=
  c.isAlphanum || c == '-' || c == '.' || c == '_' || c == '~'

/-- The sub-delimiters `!$&'()*+,;=`. -/
def isSubDelim (c : Char) : Bool := "!$&()*+,;=".toList.contains c || c == Char.ofNat 39

/-- The characters of a path segment. -/
def isSegmentChar (c : Char) : Bool := isUnreserved c || isSubDelim c || c == ':' || c == '@'

/-- The characters of a query or a fragment. -/
def isQueryChar (c : Char) : Bool := isSegmentChar c || c == '/' || c == '?'

/-- The characters of an authority. -/
def isAuthorityChar (c : Char) : Bool :=
  isUnreserved c || isSubDelim c || c == ':' || c == '@' || c == '[' || c == ']'

/-- The characters of a scheme after its first letter. -/
def isSchemeChar (c : Char) : Bool := c.isAlphanum || c == '+' || c == '-' || c == '.'

/-- Read a part up to one of the stop characters: the part, the index after
it and the rest.  `i` is the index of the first character. -/
def scanPart (allowed : Char → Bool) (stops : List Char) : List Char → Nat → List Char →
    Except UriFault (List Char × Nat × List Char)
  | [], i, acc => .ok (acc.reverse, i, [])
  | c :: rest, i, acc =>
    if stops.contains c then .ok (acc.reverse, i, c :: rest)
    else if c == '%' then
      match rest with
      | a :: b :: more =>
        if (Regex.hexValue? a).isSome && (Regex.hexValue? b).isSome then
          scanPart allowed stops more (i + 3) (b :: a :: c :: acc)
        else .error (.badOctet i)
      | _ => .error (.badOctet i)
    else if allowed c then scanPart allowed stops rest (i + 1) (c :: acc)
    else .error (.unexpected i)

/-- Read a URI reference. -/
def Uri.parse (text : String) : Except UriFault Uri := do
  let cs := text.toList
  let schemeChars := cs.takeWhile isSchemeChar
  let (scheme, i, rest) := match cs.head?, cs.drop schemeChars.length with
    | some c, ':' :: more =>
      if c.isAlpha then (some (String.ofList schemeChars).toLower, schemeChars.length + 1, more)
      else (none, 0, cs)
    | _, _ => (none, 0, cs)
  let (authority, i, rest) ← match rest with
    | '/' :: '/' :: more => do
      let (a, j, after) ← scanPart isAuthorityChar ['/', '?', '#'] more (i + 2) []
      pure (some (String.ofList a), j, after)
    | _ => pure (none, i, rest)
  let pathStart := i
  let (path, i, rest) ← scanPart (fun c => isSegmentChar c || c == '/') ['?', '#'] rest i []
  if scheme.isNone && authority.isNone then
    match (path.takeWhile (· != '/')).findIdx? (· == ':') with
    | some k => throw (.unexpected (pathStart + k))
    | none => pure ()
  let (query, i, rest) ← match rest with
    | '?' :: more => do
      let (q, j, after) ← scanPart isQueryChar ['#'] more (i + 1) []
      pure (some (String.ofList q), j, after)
    | _ => pure (none, i, rest)
  let fragment ← match rest with
    | '#' :: more => do
      let (f, _, _) ← scanPart isQueryChar [] more (i + 1) []
      pure (some (String.ofList f))
    | _ => pure none
  return ⟨scheme, authority, String.ofList path, query, fragment⟩

/-- The text of a URI reference. -/
def Uri.render (u : Uri) : String :=
  (u.scheme.map (· ++ ":")).getD "" ++ (u.authority.map ("//" ++ ·)).getD "" ++ u.path ++
    (u.query.map ("?" ++ ·)).getD "" ++ (u.fragment.map ("#" ++ ·)).getD ""

/-- The same reference without its fragment. -/
def Uri.withoutFragment (u : Uri) : Uri := { u with fragment := none }

/-- Drop the last segment of a path written so far, with the `/` before
it. -/
def dropLastSegment (out : List Char) : List Char :=
  -- `out` is reversed: drop up to and including the first `/`
  match out.dropWhile (· != '/') with
  | '/' :: rest => rest
  | _ => []

/-- Remove the `.` and `..` segments of a path (RFC 3986, section 5.2.4);
`out` is the output so far, reversed. -/
def removeDots : Nat → List Char → List Char → List Char
  | 0, _, out => out.reverse
  | fuel + 1, input, out =>
    match input with
    | [] => out.reverse
    | '.' :: '.' :: '/' :: rest => removeDots fuel rest out
    | '.' :: '/' :: rest => removeDots fuel rest out
    | '/' :: '.' :: '/' :: rest => removeDots fuel ('/' :: rest) out
    | ['/', '.'] => removeDots fuel ['/'] out
    | '/' :: '.' :: '.' :: '/' :: rest => removeDots fuel ('/' :: rest) (dropLastSegment out)
    | ['/', '.', '.'] => removeDots fuel ['/'] (dropLastSegment out)
    | ['.'] => out.reverse
    | ['.', '.'] => out.reverse
    | c :: rest =>
      -- move the first segment, with its leading slash
      let segment := rest.takeWhile (· != '/')
      removeDots fuel (rest.drop segment.length) ((c :: segment).reverse ++ out)

/-- A path without its dot segments. -/
def removeDotSegments (path : String) : String :=
  String.ofList (removeDots (path.length + 1) path.toList [])

/-- The path of a relative reference merged onto a base (RFC 3986,
section 5.2.3). -/
def mergePaths (base : Uri) (path : String) : String :=
  if base.authority.isSome && base.path.isEmpty then "/" ++ path
  else
    let cs := base.path.toList
    match cs.reverse.dropWhile (· != '/') with
    | [] => path
    | kept => String.ofList kept.reverse ++ path

/-- Resolve a reference against a base URI (RFC 3986, section 5.2.2). -/
def Uri.resolve (base r : Uri) : Uri :=
  if r.scheme.isSome then { r with path := removeDotSegments r.path }
  else if r.authority.isSome then
    { r with scheme := base.scheme, path := removeDotSegments r.path }
  else if r.path.isEmpty then
    { base with query := if r.query.isSome then r.query else base.query, fragment := r.fragment }
  else
    let path := if r.path.startsWith "/" then r.path else mergePaths base r.path
    { base with path := removeDotSegments path, query := r.query, fragment := r.fragment }

end Schema

end Attest
