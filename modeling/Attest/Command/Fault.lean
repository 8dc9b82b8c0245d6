import Attest.Command.FileTree
import Attest.Credential.Error
import Attest.Key.Error

/-!
# Why a command failed

A failed command reports a chain of messages: what it was doing, from the
outermost step inward, down to the first cause.  An error that wraps another
error lists its own message and then the wrapped one's, so a wrapped message
can appear twice in the joined text.  The chain is shown joined by `": "`.
-/

namespace Attest

/-- The chain of messages of a failed command, outermost first. -/
structure Fault where
  chain : List String
  deriving DecidableEq, Repr

namespace Fault

/-- The text of a fault: its messages joined by `": "`. -/
def text (f : Fault) : String := ": ".intercalate f.chain

/-- The fault seen from an enclosing step. -/
def within (context : String) (f : Fault) : Fault := ⟨context :: f.chain⟩

/-- A failed file operation. -/
def ofIo (e : IoError) : Fault := ⟨[e.message]⟩

/-- A key error and the errors it wraps. -/
def ofKey (e : KeyError) : Fault :=
  match e with
  | .encoding c => ⟨[e.message, c.message]⟩
  | _ => ⟨[e.message]⟩

/-- A configuration error and the errors it wraps: the reader's message of a
text that does not parse, the key error of a key that does not load. -/
def ofConfig (e : ConfigError) : Fault :=
  match e with
  | .parse text => ⟨[e.message, text]⟩
  | .key k => ⟨e.message :: (ofKey k).chain⟩
  | _ => ⟨[e.message]⟩

end Fault

end Attest
