/-!
# What a stream that is not a terminal shows

A program that styles its messages writes them to a stream that is not a
terminal with every terminal control removed.  `Text.Terminal.plain` computes
that text:

* escape sequences (control sequences, device-control, operating-system and
  privacy strings) are dropped;
* of the control characters only the ASCII blanks stay (tab, line feed, form
  feed, carriage return); delete is dropped too;
* every other character stays.

The text is read byte by byte (UTF-8) by the DEC terminal parser, a fixed
table of phases: plain text, escape, the parts of a control sequence, of a
device-control string, and the strings that run until a terminator.  Two
rules cut the reading into pieces:

* a byte that is kept ends any sequence in progress, and reading goes on in
  plain text;
* after a kept byte, each following byte is judged on its own as plain text
  (continuation bytes of a character included) until one would not be kept.
-/

namespace Attest

namespace Text

namespace Terminal

/-- Where the terminal parser stands. -/
inductive Phase where
  | ground
  | escape
  | escapeIntermediate
  | csiEntry
  | csiParam
  | csiIntermediate
  | csiIgnore
  | dcsEntry
  | dcsParam
  | dcsIntermediate
  | dcsPassthrough
  | dcsIgnore
  | oscString
  | sosPmApcString
  | utf8
  deriving DecidableEq, Repr

/-- What reading a byte does, as far as keeping it goes: print it, begin a
multi-byte character, execute it as a control, or nothing visible. -/
inductive Effect where
  | print
  | beginChar
  | execute
  | silent
  deriving DecidableEq, Repr

/-- Whether a byte is a C0 control other than cancel, substitute and escape. -/
def isC0 (b : Nat) : Bool := b ≤ 0x17 || b == 0x19 || (0x1C ≤ b && b ≤ 0x1F)

/-- Whether a byte lies in a closed range. -/
def within (lo hi b : Nat) : Bool := lo ≤ b && b ≤ hi

/-- The phase a byte moves to (`none` for the same phase) and its effect.
Cancel and substitute return to plain text and escape starts an escape
sequence from any phase. -/
def transition (p : Phase) (b : Nat) : Option Phase × Effect :=
  if b == 0x18 || b == 0x1A then (some .ground, .execute)
  else if b == 0x1B then (some .escape, .silent)
  else match p with
  | .ground =>
    if isC0 b then (none, .execute)
    else if within 0x20 0x7F b then (none, .print)
    else if within 0x80 0x8F b || within 0x91 0x9A b || b == 0x9C then (none, .execute)
    else if within 0xC2 0xF4 b then (some .utf8, .beginChar)
    else (none, .silent)
  | .escape =>
    if isC0 b then (none, .execute)
    else if within 0x20 0x2F b then (some .escapeIntermediate, .silent)
    else if b == 0x5B then (some .csiEntry, .silent)
    else if b == 0x5D then (some .oscString, .silent)
    else if b == 0x50 then (some .dcsEntry, .silent)
    else if b == 0x58 || b == 0x5E || b == 0x5F then (some .sosPmApcString, .silent)
    else if within 0x30 0x7E b then (some .ground, .silent)
    else (none, .silent)
  | .escapeIntermediate =>
    if isC0 b then (none, .execute)
    else if within 0x30 0x7E b then (some .ground, .silent)
    else (none, .silent)
  | .csiEntry =>
    if isC0 b then (none, .execute)
    else if within 0x20 0x2F b then (some .csiIntermediate, .silent)
    else if within 0x30 0x3F b then (some .csiParam, .silent)
    else if within 0x40 0x7E b then (some .ground, .silent)
    else (none, .silent)
  | .csiParam =>
    if isC0 b then (none, .execute)
    else if within 0x3C 0x3F b then (some .csiIgnore, .silent)
    else if within 0x20 0x2F b then (some .csiIntermediate, .silent)
    else if within 0x40 0x7E b then (some .ground, .silent)
    else (none, .silent)
  | .csiIntermediate =>
    if isC0 b then (none, .execute)
    else if within 0x30 0x3F b then (some .csiIgnore, .silent)
    else if within 0x40 0x7E b then (some .ground, .silent)
    else (none, .silent)
  | .csiIgnore =>
    if isC0 b then (none, .execute)
    else if within 0x40 0x7E b then (some .ground, .silent)
    else (none, .silent)
  | .dcsEntry =>
    if within 0x20 0x2F b then (some .dcsIntermediate, .silent)
    else if within 0x30 0x3F b then (some .dcsParam, .silent)
    else if within 0x40 0x7E b then (some .dcsPassthrough, .silent)
    else (none, .silent)
  | .dcsParam =>
    if within 0x3C 0x3F b then (some .dcsIgnore, .silent)
    else if within 0x20 0x2F b then (some .dcsIntermediate, .silent)
    else if within 0x40 0x7E b then (some .dcsPassthrough, .silent)
    else (none, .silent)
  | .dcsIntermediate =>
    if within 0x30 0x3F b then (some .dcsIgnore, .silent)
    else if within 0x40 0x7E b then (some .dcsPassthrough, .silent)
    else (none, .silent)
  | .dcsPassthrough | .dcsIgnore | .sosPmApcString =>
    if b == 0x9C then (some .ground, .silent) else (none, .silent)
  | .oscString =>
    if b == 0x07 then (some .ground, .silent) else (none, .silent)
  | .utf8 => (none, .silent)

/-- Whether a byte with an effect is kept: printed bytes other than delete,
the first byte of a multi-byte character, and the ASCII blanks among the
executed controls. -/
def keeps (e : Effect) (b : Nat) : Bool :=
  match e with
  | .print => b != 0x7F
  | .beginChar => true
  | .execute => b == 0x09 || b == 0x0A || b == 0x0C || b == 0x0D
  | .silent => false

/-- Whether a byte continues a multi-byte character. -/
def isContinuation (b : Nat) : Bool := within 0x80 0xBF b

/-- How the bytes are being read: looking for the next byte to keep, from a
phase, or inside a run of kept bytes. -/
inductive Mode where
  | seeking (p : Phase)
  | running
  deriving DecidableEq, Repr

/-- The bytes kept of a byte string read from a mode. -/
def keptFrom : Mode → List UInt8 → List UInt8
  | _, [] => []
  | .seeking p, b :: rest =>
    let (next, e) := transition p b.toNat
    if keeps e b.toNat then b :: keptFrom .running rest
    else keptFrom (.seeking (next.getD p)) rest
  | .running, b :: rest =>
    let (next, e) := transition .ground b.toNat
    if keeps e b.toNat || isContinuation b.toNat then b :: keptFrom .running rest
    else keptFrom (.seeking (next.getD .ground)) rest

/-- The text a stream that is not a terminal shows of `text`. -/
def plain (text : String) : String :=
  (String.fromUTF8? (ByteArray.mk (keptFrom (.seeking .ground) text.toUTF8.toList).toArray)).getD ""

end Terminal

end Text

end Attest
