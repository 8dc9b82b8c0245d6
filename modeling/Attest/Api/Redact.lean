import Attest.Key.SigningKey
import Attest.Canonical
import Attest.Encoding.Base64Url
import Attest.Uuid
import Attest.Json.Read
import Attest.Timestamp
import Attest.Text.Blank
import Attest.Text.Category

/-!
# Redacting a transcript

A command run writes fresh keys, the current time and fresh identifiers.  To
compare runs, its output texts (standard output, standard error and the
files it wrote) are redacted in four passes:

1. **Keys.**  Each new `X.key` file holds a hexadecimal secret.  It is loaded
   as an EdDSA key, then as an ES256 key, until its public key equals the new
   `X.pub` file.  Every occurrence of the secret becomes `<secret:X.key>`;
   when a public key matched, the public key becomes `<public:X.key>` and the
   key id `<kid:X.key>`.
2. **Terminal escapes and time stamps.**  Colour and cursor sequences
   (escape, `[`, digits and semicolons, one letter) are dropped; then a time
   stamp `YYYY-MM-DDTHH:MM:SS[.frac]Z` that starts a line is dropped with the
   blanks after it on that line (digits and blanks of any script).
3. **JSON lines.**  A line that is a JSON object is written again, compact,
   with sorted names and without `timestamp`.  An issued-credential line
   (with `token` and `claims`) shows its token by its decoded header, the
   number of segments, whether the payload is the canonical text of the
   claims, and the signature length; when the issue time is an integer, the
   times are written relative to it.
4. **Identifiers.**  A `urn:uuid:` URN whose UUID is not written in the
   input files becomes `urn:uuid:<generated>` (`<bad-generated>` if it is
   not a random UUID).
-/

namespace Attest

namespace Redact

/-- A time claim of an issued payload, written relative to the issue time
`iat`: `<iat>` for the issue time itself, `<nbf!=iat>` for a different or
missing start, `<iat+N>` for an expiry `N` seconds later (left as it is at the
latest time that can be written).  Other claims are left as they are. -/
def timeClaim (iat : Int) (name : String) (v : Json) : Json :=
  match name with
  | "iat" => .str "<iat>"
  | "nbf" => if v.int? == some iat then .str "<iat>" else .str "<nbf!=iat>"
  | "exp" =>
    match v.int? with
    | some e => if e == Timestamp.latestSeconds then v else .str ("<iat+" ++ toString (e - iat) ++ ">")
    | none => v
  | _ => v

/-- The claims of a payload with their times written relative to the issue
time, when that is an integer; the start is always shown. -/
def timeClaims (claims : Json) : Json :=
  match claims with
  | .obj ms =>
    match (Json.Members.get? ms "iat").bind Json.int? with
    | some iat =>
      let ms := if (Json.Members.get? ms "nbf").isSome then ms else Json.Members.insert "nbf" .null ms
      .obj (ms.map fun (k, v) => (k, timeClaim iat k v))
    | none => claims
  | other => other

/-- What a compact token shows: its decoded header, the number of segments,
whether its payload is the canonical text of `claims`, and the length of its
signature (`null` when there is no third segment or it is no base64url). -/
def tokenView (token : String) (claims : Json) : Json :=
  let segments := token.splitOn "."
  let segment (i : Nat) : String := segments.getD i ""
  let header := match Base64Url.decode (segment 0) with
    | some bytes => Json.str ((String.fromUTF8? (ByteArray.mk bytes.toArray)).getD "")
    | none => .null
  let signature := if segments.length < 3 then none else Base64Url.decode (segment 2)
  Json.object
    [("header", header), ("segments", Json.ofNat segments.length),
     ("payload_matches", .bool (segment 1 == Base64Url.encode (Json.canonicalText claims).toUTF8.toList)),
     ("signature_len", match signature with
        | some bytes => Json.ofNat bytes.length
        | none => .null)]

/-- A JSON object line written again: compact, sorted, without `timestamp`,
and an issued credential shown by its token view and relative times.  A
token that is not a string reads as the empty text. -/
def jsonLine (ms : Json.Members) : String :=
  let ms := Json.Members.erase "timestamp" ms
  let ms := match Json.Members.get? ms "token", Json.Members.get? ms "claims" with
    | some token, some claims =>
      let text := match token with
        | .str t => t
        | _ => ""
      (Json.Members.insert "claims" (timeClaims claims)
        (Json.Members.insert "token" (tokenView text claims) ms))
    | _, _ => ms
  Json.compact (Json.object ms)

/-- Where a scan for terminal escapes stands: in plain text, just after an
escape character, or inside an escape whose characters so far are held (in
reverse). -/
inductive EscapeScan where
  | text
  | escape
  | sequence (held : List Char)

/-- Drop the terminal escapes of a text.  An escape is an escape character,
`[`, digits and semicolons, and a letter; anything else is kept as text. -/
def stripEscapesFrom : EscapeScan → List Char → List Char
  | .text, [] => []
  | .escape, [] => ['\x1b']
  | .sequence held, [] => held.reverse
  | .text, c :: rest =>
    if c = '\x1b' then stripEscapesFrom .escape rest else c :: stripEscapesFrom .text rest
  | .escape, c :: rest =>
    if c = '[' then stripEscapesFrom (.sequence ['[', '\x1b']) rest
    else if c = '\x1b' then '\x1b' :: stripEscapesFrom .escape rest
    else '\x1b' :: c :: stripEscapesFrom .text rest
  | .sequence held, c :: rest =>
    if c.isDigit || c = ';' then stripEscapesFrom (.sequence (c :: held)) rest
    else if c.isAlpha then stripEscapesFrom .text rest
    else held.reverse ++
      (if c = '\x1b' then stripEscapesFrom .escape rest else c :: stripEscapesFrom .text rest)

/-- A text without its terminal escapes. -/
def stripEscapes (text : String) : String := String.ofList (stripEscapesFrom .text text.toList)

/-- Whether a character is a decimal digit of any script (category `Nd`). -/
def isDecimalDigit (c : Char) : Bool := Text.GeneralCategory.of c.toNat == .nd

/-- The shape of a time stamp up to its seconds: `none` stands for a decimal
digit. -/
def stampShape : List (Option Char) :=
  [none, none, none, none, some '-', none, none, some '-', none, none, some 'T',
   none, none, some ':', none, none, some ':', none, none]

/-- The characters after a prefix of the given shape. -/
def afterShape : List (Option Char) → List Char → Option (List Char)
  | [], cs => some cs
  | _ :: _, [] => none
  | p :: ps, c :: cs =>
    let fits := match p with
      | some d => c == d
      | none => isDecimalDigit c
    if fits then afterShape ps cs else none

/-- Whether a character is a blank within a line. -/
def isLineBlank (c : Char) : Bool := Text.isBlank c && c != '\n'

/-- The characters after a time stamp `YYYY-MM-DDTHH:MM:SS[.frac]Z` and at
least one blank of the same line that start a text. -/
def afterStamp? (cs : List Char) : Option (List Char) := do
  let rest ← afterShape stampShape cs
  let rest := match rest with
    | '.' :: d :: more => if isDecimalDigit d then more.dropWhile isDecimalDigit else rest
    | _ => rest
  match rest with
  | 'Z' :: b :: more => if isLineBlank b then some (more.dropWhile isLineBlank) else none
  | _ => none

/-- How many characters a time stamp with its blanks takes at the start of a
text (zero when none starts it). -/
def stampLength (cs : List Char) : Nat :=
  match afterStamp? cs with
  | some rest => cs.length - rest.length
  | none => 0

/-- Drop the time stamps that start lines, with the blanks after them;
`lineStart` says whether the text starts a line. -/
def stripStampsFrom (lineStart : Bool) (cs : List Char) : List Char :=
  match cs with
  | [] => []
  | c :: rest =>
    let n := if lineStart then stampLength (c :: rest) else 0
    if 0 < n then stripStampsFrom false ((c :: rest).drop n)
    else c :: stripStampsFrom (c == '\n') rest
termination_by cs.length
decreasing_by
  · simp only [List.length_drop, List.length_cons]
    omega
  · simp only [List.length_cons]
    omega

/-- A text without the time stamps that start its lines. -/
def stripStamps (text : String) : String := String.ofList (stripStampsFrom true text.toList)

/-- Every line of a text that is a JSON object written again. -/
def jsonLines (text : String) : String :=
  "\n".intercalate ((text.splitOn "\n").map fun line =>
    match Json.read line with
    | .ok (.obj ms) => jsonLine ms
    | _ => line)

/-- Whether characters are a hexadecimal digit (either case, or lower case
only). -/
def isHexDigit (lowerOnly : Bool) (c : Char) : Bool :=
  ('0' ≤ c && c ≤ '9') || ('a' ≤ c && c ≤ 'f') || (!lowerOnly && 'A' ≤ c && c ≤ 'F')

/-- Whether 36 characters are a hyphenated UUID. -/
def isHyphenatedUuid (lowerOnly : Bool) (cs : List Char) : Bool :=
  cs.length == 36 &&
    (List.range 36).all fun i =>
      let c := cs.getD i ' '
      if i == 8 || i == 13 || i == 18 || i == 23 then c == '-' else isHexDigit lowerOnly c

/-- The hyphenated UUIDs written in a text, in lower case. -/
def uuidsIn : List Char → List String
  | [] => []
  | c :: rest =>
    if isHyphenatedUuid false ((c :: rest).take 36) then
      String.ofList (((c :: rest).take 36).map Char.toLower) :: uuidsIn ((c :: rest).drop 36)
    else uuidsIn rest
termination_by cs => cs.length
decreasing_by
  · simp only [List.length_drop, List.length_cons]
    omega
  · simp only [List.length_cons]
    omega

/-- The marker of a UUID that no input wrote. -/
def idMarker (cs : List Char) : String :=
  match Uuid.parse (String.ofList cs) with
  | .ok u => if u.isRandom then "<generated>" else "<bad-generated>"
  | .error _ => "<bad-generated>"

/-- The URN prefix of credential identifiers. -/
def urnPrefix : List Char := "urn:uuid:".toList

/-- Replace the UUIDs of URNs that no input wrote by markers. -/
def markIds (known : List String) : List Char → List Char
  | [] => []
  | c :: rest =>
    let uuid := ((c :: rest).drop 9).take 36
    if urnPrefix.isPrefixOf (c :: rest) && isHyphenatedUuid true uuid then
      let shown := if known.contains (String.ofList uuid) then uuid else (idMarker uuid).toList
      urnPrefix ++ shown ++ markIds known ((c :: rest).drop 45)
    else c :: markIds known rest
termination_by cs => cs.length
decreasing_by
  · simp only [List.length_drop, List.length_cons]
    omega
  · simp only [List.length_cons]
    omega

/-- Replace every occurrence of a non-empty text. -/
def replaceAll (text target replacement : String) : String :=
  if target.isEmpty then text else text.replace target replacement

/-- What the key pass found for one key file. -/
structure KeyFinding where
  keyFile : String
  secret : String
  /-- The algorithm whose public key matched, with that public key and the
  key id. -/
  matched : Option (Algorithm × String × String)

/-- The public key and key id of a secret under an algorithm. -/
def derive (alg : Algorithm) (secret : String) : Option (String × String) :=
  match IssuerId.ofString "redaction" with
  | .ok issuer =>
    match SigningKey.ofSecretHex issuer alg secret none with
    | .ok k => some (k.publicKeyHex, k.kid.val)
    | .error _ => none
  | .error _ => none

/-- Examine a new key file against the new files beside it. -/
def findKey (written : List (String × String)) (keyFile secret : String) : KeyFinding :=
  let pubFile := String.ofList ((keyFile.toList.take (keyFile.length - 4)) ++ ".pub".toList)
  let pub := written.lookup pubFile
  let matching := [Algorithm.edDsa, Algorithm.es256].findSome? fun alg =>
    match derive alg secret, pub with
    | some (p, kid), some q => if p == q then some (alg, p, kid) else none
    | _, _ => none
  ⟨keyFile, secret, matching⟩

/-- The JSON report of a key finding. -/
def KeyFinding.toJson (f : KeyFinding) : Json :=
  Json.object
    [("key_file", .str f.keyFile), ("secret_hex_len", Json.ofNat f.secret.length),
     ("algorithm", match f.matched with
        | some (alg, _, _) => .str alg.name
        | none => .null),
     ("pub_matches", .bool f.matched.isSome)]

/-- Redact one text by a key finding. -/
def KeyFinding.redact (f : KeyFinding) (text : String) : String :=
  let text := replaceAll text f.secret ("<secret:" ++ f.keyFile ++ ">")
  match f.matched with
  | some (_, pub, kid) =>
    replaceAll (replaceAll text pub ("<public:" ++ f.keyFile ++ ">")) kid ("<kid:" ++ f.keyFile ++ ">")
  | none => text

/-- The key findings of the files a run wrote, in path order. -/
def keyFindings (written : List (String × String)) : List KeyFinding :=
  let sorted := written.mergeSort fun a b => decide (a.1 ≤ b.1)
  sorted.filterMap fun (path, text) =>
    if path.endsWith ".key" then some (findKey written path text) else none

/-- All passes on one text, after the key pass. -/
def redactText (known : List String) (text : String) : String :=
  String.ofList (markIds known (jsonLines (stripStamps (stripEscapes text))).toList)

end Redact

/-- A run's outputs, redacted: standard output, standard error, the files it
wrote, and the key findings. -/
structure RedactedRun where
  stdout : String
  stderr : String
  files : List (String × String)
  keys : List Redact.KeyFinding

/-- Redact the outputs of a run; `inputs` are the texts of the input files. -/
def redactRun (inputs : List String) (stdout stderr : String) (written : List (String × String)) :
    RedactedRun :=
  let known := inputs.flatMap fun t => Redact.uuidsIn t.toList
  let findings := Redact.keyFindings written
  let byKeys := fun (text : String) => findings.foldl (fun t f => f.redact t) text
  let pass := fun (text : String) => Redact.redactText known (byKeys text)
  ⟨pass stdout, pass stderr, written.map (fun (p, t) => (p, pass t)), findings⟩

end Attest
