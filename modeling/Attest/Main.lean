import Attest.Command.Program
import Attest.Text.Terminal
import Std.Time.Format

/-!
# The `credvault` command

Reads the command line, then runs the program against the real machine:
the files below the working directory, the environment, the system clock
and the system's random bytes.  Log lines go to standard error in the style
the options chose.
-/

namespace Attest

/-- The real machine, with the log style in force. -/
abbrev Live := ReaderT LogStyle IO

/-- The file error that a system error stands for. -/
def fileErrorOf (e : IO.Error) : IoError :=
  match e with
  | .alreadyExists _ _ _ => .alreadyExists
  | .inappropriateType _ code _ => if code == 20 then .notDirectory else .isDirectory
  | _ => .notFound

/-- Run a file operation, keeping its error. -/
def attempt {α : Type} (act : IO α) : Live (Except IoError α) := do
  try
    let v ← act
    pure (.ok v)
  catch e => pure (.error (fileErrorOf e))

instance : Host Live where
  readFile path := attempt (IO.FS.readFile path)
  createDirAll path := if path.isEmpty then pure (.ok ()) else attempt (IO.FS.createDirAll path)
  writeFile path text := attempt (IO.FS.writeFile path text)
  lookupEnv name := IO.getEnv name
  now := do
    let t ← Std.Time.Timestamp.now
    pure (Timestamp.ofSeconds t.toSecondsSinceUnixEpoch.val)
  freshEntropy := do
    let bytes ← IO.getRandomBytes 32
    pure (Entropy.ofSeed bytes.toList)
  emit o := do
    match o with
    | .out t => IO.print t
    | .err t => IO.eprint t
    | .log e | .workerLog e =>
      let style ← read
      if style.shows e then IO.eprintln (e.line style)

end Attest

/-- Run the program on its command line; the exit status is the program's. -/
def main (args : List String) : IO UInt32 := do
  match Attest.readCommandLine args with
  | .error (.shown text) =>
    IO.print (Attest.Text.Terminal.plain text)
    pure 0
  | .error halt =>
    IO.eprint (Attest.Text.Terminal.plain halt.text)
    pure 2
  | .ok inv =>
    let code ← (inv.execute : Attest.Live Nat).run inv.logStyle
    pure code.toUInt32
