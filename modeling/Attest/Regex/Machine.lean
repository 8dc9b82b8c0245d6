import Attest.Regex.Program

/-!
# The matching machine

A program runs on a text held as an array of characters.  The machine keeps
a place in the program and in the text, the slots, and a stack of entries:
*choices* to come back to on failure and *undo* entries that put a slot back
as it was.  One step does one of three things:

* running, it carries out the instruction at its place;
* failing, it pops one entry: an undo entry is applied and failing goes on, a
  choice is taken up and counted as one backtrack;
* refuting, after the body of a negative look-around matched, it pops entries
  without counting them until it removes the choice that resumes after the
  look-around, and then fails.

When the program can be decided by places alone (`Program.memo`) the machine
remembers every place of program and text it has run from and fails on a
second visit, so the work is bounded by their product.  Otherwise the number
of backtracks is limited, and a run that passes the limit ends as
`Outcome.overrun`.
-/

namespace Attest

namespace Regex

/-- An entry of the backtracking stack. -/
inductive Frame where
  | choice (pc pos : Nat)
  | undo (slot : Nat) (old : Option Nat)
  deriving Inhabited

/-- What the machine is doing. -/
inductive Mode where
  | running
  | failing
  | refuting (resume : Nat)
  deriving Inhabited, BEq

/-- The state of the machine. -/
structure Machine where
  pc : Nat
  pos : Nat
  mode : Mode
  slots : Array (Option Nat)
  stack : List Frame
  backtracks : Nat
  /-- The places of program and text already run from, when remembered. -/
  seen : Array Bool
  deriving Inhabited

/-- How a search ends. -/
inductive Outcome where
  | found
  | absent
  /-- The limit of backtracks was passed. -/
  | overrun
  deriving Inhabited, BEq, Repr

/-- Whether a character is a word character, for word boundaries. -/
def wordAt (text : Array Char) (i : Option Nat) : Bool :=
  match i with
  | some i => (text[i]?.map Text.isWordChar).getD false
  | none => false

/-- Whether an assertion holds at a place of the text. -/
def Assertion.holds (a : Assertion) (text : Array Char) (pos : Nat) : Bool :=
  let before := if pos == 0 then none else some (pos - 1)
  let wordBefore := wordAt text before
  let wordAfter := wordAt text (some pos)
  match a with
  | .textStart | .searchStart => pos == 0
  | .textEnd => pos == text.size
  | .lineStart => pos == 0 || text[pos - 1]? == some '\n'
  | .lineEnd => pos == text.size || text[pos]? == some '\n'
  | .wordBoundary => wordBefore != wordAfter
  | .notWordBoundary => wordBefore == wordAfter
  | .wordStart => !wordBefore && wordAfter
  | .wordEnd => wordBefore && !wordAfter

/-- Whether the text at `pos` repeats the `len` characters at `start`, up
to case when `caseless`. -/
def repeatsAt (text : Array Char) (caseless : Bool) (start pos : Nat) : Nat → Bool
  | 0 => true
  | len + 1 =>
    match text[start]?, text[pos]? with
    | some a, some b =>
      (a == b || (caseless && CharSet.foldOf a.toNat == CharSet.foldOf b.toNat)) &&
        repeatsAt text caseless (start + 1) (pos + 1) len
    | _, _ => false

/-- Drop the choices above the first `depth` entries of the stack (counted
from the bottom), keeping the undo entries. -/
def cutStack (stack : List Frame) (depth : Nat) : List Frame :=
  let above := stack.take (stack.length - depth)
  let kept := above.filter fun f => match f with
    | .undo _ _ => true
    | .choice _ _ => false
  kept ++ stack.drop (stack.length - depth)

namespace Machine

/-- Fail from here. -/
def fail (m : Machine) : Machine := { m with mode := .failing }

/-- Go on with the next instruction. -/
def next (m : Machine) : Machine := { m with pc := m.pc + 1 }

/-- Set a slot, remembering its old value on the stack. -/
def setSlot (m : Machine) (slot value : Nat) : Machine :=
  { m with
    slots := m.slots.setIfInBounds slot (some value)
    stack := .undo slot (m.slots[slot]?.getD none) :: m.stack }

/-- Carry out the instruction at the current place. -/
def execute (p : Program) (text : Array Char) (m : Machine) : Except Outcome Machine :=
  match p.code[m.pc]? with
  | none => .error .absent
  | some inst =>
    match inst with
    | .char s =>
      match text[m.pos]? with
      | some c => .ok (if s.contains c then { m with pc := m.pc + 1, pos := m.pos + 1 } else m.fail)
      | none => .ok m.fail
    | .assert a => .ok (if a.holds text m.pos then m.next else m.fail)
    | .split first second => .ok { m with pc := first, stack := .choice second m.pos :: m.stack }
    | .jump target => .ok { m with pc := target }
    | .save slot => .ok (m.setSlot slot m.pos).next
    | .restore slot =>
      match m.slots[slot]? with
      | some (some q) => .ok { m with pc := m.pc + 1, pos := q }
      | _ => .ok m.fail
    | .progress slot =>
      match m.slots[slot]? with
      | some (some q) => .ok (if q == m.pos then m.fail else m.next)
      | _ => .ok m.next
    | .back count => .ok (if count ≤ m.pos then { m with pc := m.pc + 1, pos := m.pos - count } else m.fail)
    | .backref g caseless =>
      match m.slots[2 * g]?, m.slots[2 * g + 1]? with
      | some (some start), some (some stop) =>
        let len := stop - start
        if m.pos + len ≤ text.size && repeatsAt text caseless start m.pos len then
          .ok { m with pc := m.pc + 1, pos := m.pos + len }
        else .ok m.fail
      | _, _ => .ok m.fail
    | .cutMark slot => .ok (m.setSlot slot m.stack.length).next
    | .cut slot =>
      match m.slots[slot]? with
      | some (some depth) => .ok { m with pc := m.pc + 1, stack := cutStack m.stack depth }
      | _ => .ok m.next
    | .refute resume => .ok { m with mode := .refuting resume }
    | .zero slot => .ok (m.setSlot slot 0).next
    | .count slot lo hi check exit greedy =>
      let taken := (m.slots[slot]?.getD none).getD 0
      let stalled := match check with
        | some c => lo < taken && m.slots[c]? == some (some m.pos)
        | none => false
      if hi == some taken then .ok { m with pc := exit }
      else if stalled then .ok m.fail
      else
        let m := m.setSlot slot (taken + 1)
        if taken < lo then .ok m.next
        else
          let m := match check with
            | some c => m.setSlot c m.pos
            | none => m
          if greedy then .ok { m with pc := m.pc + 1, stack := .choice exit m.pos :: m.stack }
          else .ok { m with pc := exit, stack := .choice (m.pc + 1) m.pos :: m.stack }
    | .accept => .error .found

/-- One step of the machine; `limit` bounds the backtracks when given. -/
def step (p : Program) (text : Array Char) (limit : Option Nat) (m : Machine) :
    Except Outcome Machine :=
  match m.mode with
  | .running =>
    if p.memo then
      let here := m.pc * (text.size + 1) + m.pos
      if m.seen[here]?.getD false then .ok m.fail
      else execute p text { m with seen := m.seen.setIfInBounds here true }
    else execute p text m
  | .failing =>
    match m.stack with
    | [] => .error .absent
    | .undo slot old :: rest => .ok { m with slots := m.slots.setIfInBounds slot old, stack := rest }
    | .choice pc pos :: rest =>
      let count := m.backtracks + 1
      if limit.any (count > ·) then .error .overrun
      else .ok { m with mode := .running, pc := pc, pos := pos, stack := rest, backtracks := count }
  | .refuting resume =>
    match m.stack with
    | [] => .error .absent
    | .undo slot old :: rest => .ok { m with slots := m.slots.setIfInBounds slot old, stack := rest }
    | .choice pc _ :: rest =>
      .ok { m with stack := rest, mode := if pc == resume then .failing else .refuting resume }

/-- Run for at most `fuel` steps; a run that is still going at the end
counts as passing the limit. -/
def run (p : Program) (text : Array Char) (limit : Option Nat) : Nat → Machine → Outcome
  | 0, _ => .overrun
  | fuel + 1, m =>
    match step p text limit m with
    | .ok m' => run p text limit fuel m'
    | .error o => o

end Machine

/-- The backtracks a search may take before it gives up. -/
def backtrackLimit : Nat := 1000000

/-- Search a text for a match of a program anywhere in it. -/
def Program.search (p : Program) (text : String) : Outcome :=
  let chars := text.toList.toArray
  let places := p.code.size * (chars.size + 1)
  let start : Machine :=
    { pc := 0, pos := 0, mode := .running
      slots := Array.replicate p.slots none
      stack := []
      backtracks := 0
      seen := if p.memo then Array.replicate places false else #[] }
  if p.memo then Machine.run p chars none (8 * places + 16) start
  else Machine.run p chars (some backtrackLimit) (Nat.pow 2 27) start

end Regex

end Attest
