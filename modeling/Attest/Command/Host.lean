import Attest.Command.FileTree
import Attest.Log
import Attest.Entropy
import Attest.Timestamp

/-!
# What a command asks of its machine

A command reads and writes files, looks up environment variables, reads the
clock, draws random bytes, and writes text and log events.  `Host` names
these effects, so one definition of a command runs against the real machine
and, purely, against a `Machine` value: a file tree, an environment, a fixed
clock, a seeded source of random bytes, and the list of everything written.
-/

namespace Attest

/-- Something a command writes. -/
inductive Output where
  /-- Text on standard output. -/
  | out (text : String)
  /-- Text on standard error. -/
  | err (text : String)
  /-- A log event. -/
  | log (event : LogEvent)
  /-- A log event emitted on a worker thread of a concurrent run. -/
  | workerLog (event : LogEvent)
  deriving DecidableEq, Repr

/-- The effects a command may use. -/
class Host (m : Type → Type) where
  /-- The text of a file. -/
  readFile : String → m (Except IoError String)
  /-- Create a directory and the missing ones above it. -/
  createDirAll : String → m (Except IoError Unit)
  /-- Create or replace a file. -/
  writeFile : String → String → m (Except IoError Unit)
  /-- The value of an environment variable. -/
  lookupEnv : String → m (Option String)
  /-- The current time. -/
  now : m Timestamp
  /-- A fresh source of random bytes. -/
  freshEntropy : m Entropy
  /-- Write text or a log event. -/
  emit : Output → m Unit

/-- A command that may fail uses the effects of the machine it runs on. -/
instance {m : Type → Type} {ε : Type} [Monad m] [Host m] : Host (ExceptT ε m) where
  readFile path := ExceptT.lift (Host.readFile path)
  createDirAll path := ExceptT.lift (Host.createDirAll path)
  writeFile path text := ExceptT.lift (Host.writeFile path text)
  lookupEnv name := ExceptT.lift (Host.lookupEnv name)
  now := ExceptT.lift Host.now
  freshEntropy := ExceptT.lift Host.freshEntropy
  emit o := ExceptT.lift (Host.emit o)

/-- A machine as a value. -/
structure Machine where
  /-- The working directory. -/
  files : FileTree
  /-- The environment variables. -/
  env : List (String × String)
  /-- The time the clock shows throughout. -/
  clock : Timestamp
  /-- The source of random bytes. -/
  entropy : Entropy
  /-- Everything written so far, in order. -/
  written : List Output

namespace Machine

/-- Apply a file operation that may change the tree. -/
def update (f : FileTree → Except IoError FileTree) : StateM Machine (Except IoError Unit) :=
  modifyGet fun m =>
    match f m.files with
    | .ok t => (.ok (), { m with files := t })
    | .error e => (.error e, m)

/-- Draw a seed for a fresh source of random bytes. -/
def draw : StateM Machine Entropy :=
  modifyGet fun m =>
    let (seed, e) := m.entropy.take 32
    (Entropy.ofSeed seed, { m with entropy := e })

end Machine

instance : Host (StateM Machine) where
  readFile path := do return (← get).files.read path
  createDirAll path := Machine.update fun t => t.createDirAll path
  writeFile path text := Machine.update fun t => t.write path text
  lookupEnv name := do return (← get).env.lookup name
  now := do return (← get).clock
  freshEntropy := Machine.draw
  emit o := modify fun m => { m with written := m.written ++ [o] }

end Attest
