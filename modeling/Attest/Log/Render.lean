import Attest.Log
import Attest.Text.Quoted
import Attest.Json.Write

/-!
# Log lines

A sink shows the events at or above a threshold level, one line each, as
text or as JSON.

* A text line is the level, the message, then ` name=value` for each field in
  order; a quoted field is written with quotes and escapes, a shown field bare.
  Controls in the message that could drive a terminal are written as escapes.
* A JSON line is an object with the level and the fields, the message among
  them under `message`.
-/

namespace Attest

/-- How a sink shows events. -/
structure LogStyle where
  /-- The least severe level shown. -/
  threshold : Level
  /-- Whether lines are JSON objects rather than text. -/
  json : Bool
  deriving DecidableEq, Repr

namespace LogStyle

/-- The style chosen by a count of verbosity flags: warnings and errors by
default, then info, debug, and everything from three flags on. -/
def ofVerbosity (count : Nat) (json : Bool) : LogStyle :=
  let threshold := match count with
    | 0 => .warn
    | 1 => .info
    | 2 => .debug
    | _ => .trace
  ⟨threshold, json⟩

/-- Whether a sink of this style shows an event. -/
def shows (s : LogStyle) (e : LogEvent) : Bool := s.threshold.rank ≤ e.level.rank

end LogStyle

/-- A field value as a text line writes it. -/
def FieldValue.text : FieldValue → String
  | .quoted s => Text.quoted s
  | .shown s => s
  | .count n => toString n
  | .flag b => if b then "true" else "false"

/-- A character of a message as a text line writes it: the controls that
drive a terminal (escape, bell, backspace, form feed, delete) become `\xNN`, the
eight-bit controls `\u{NN}`; everything else stays. -/
def terminalSafe (c : Char) : String :=
  let n := c.toNat
  let hex := String.ofList (Text.hexDigits n)
  if n == 0x1B || n == 0x07 || n == 0x08 || n == 0x0C || n == 0x7F then
    "\\x" ++ (if hex.length < 2 then "0" ++ hex else hex)
  else if 0x80 ≤ n && n ≤ 0x9F then "\\u\x7b" ++ hex ++ "\x7d"
  else c.toString

/-- A message with the terminal controls written out. -/
def escapeTerminal (s : String) : String := String.join (s.toList.map terminalSafe)

namespace LogEvent

/-- The text line of an event, without a time stamp; the message has its
terminal controls written out. -/
def textLine (e : LogEvent) : String :=
  e.level.name ++ " " ++ escapeTerminal e.message ++
    String.join (e.fields.map fun (k, v) => " " ++ k ++ "=" ++ v.text)

/-- The JSON line of an event. -/
def jsonLine (e : LogEvent) : String :=
  Json.compact (Json.object [("level", .str e.level.name), ("fields", e.fieldsJson)])

/-- The line of an event in a style. -/
def line (s : LogStyle) (e : LogEvent) : String :=
  if s.json then e.jsonLine else e.textLine

end LogEvent

end Attest
