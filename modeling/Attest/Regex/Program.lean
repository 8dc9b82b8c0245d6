import Attest.Regex.Parse

/-!
# Programs

A pattern's tree is compiled into a flat program for the matching machine.
Instructions name slots: slots `2g` and `2g+1` hold where group `g` starts
and ends, the slots after them serve atomic groups, look-around and the
progress checks of repetitions whose body can match the empty text.

Repetition is unrolled: `m` copies of the body, then `n - m` optional
copies (each one skipping all the rest when not taken), or a loop when
there is no upper bound.  Where the machine keeps a history anyway and the
unrolled code would be longer than `unrollLimit`, the body is laid out once
behind a counter instead, which counts the copies taken in a slot.
-/

namespace Attest

namespace Regex

/-- An instruction of the matching machine. -/
inductive Inst where
  /-- Consume one character of the set. -/
  | char (set : CharSet)
  | assert (a : Assertion)
  /-- Go on at `first`; come back to `second` at the same place on failure. -/
  | split (first second : Nat)
  | jump (target : Nat)
  /-- Record the place in a slot. -/
  | save (slot : Nat)
  /-- Go back to the place recorded in a slot. -/
  | restore (slot : Nat)
  /-- Fail unless the place moved on from the one recorded in a slot. -/
  | progress (slot : Nat)
  /-- Step back over some characters. -/
  | back (count : Nat)
  | backref (group : Nat) (caseless : Bool)
  /-- Record how many entries the backtracking stack holds. -/
  | cutMark (slot : Nat)
  /-- Drop the choices pushed since the matching `cutMark`. -/
  | cut (slot : Nat)
  /-- Set a counter slot to zero. -/
  | zero (slot : Nat)
  /-- Count one more copy of a repetition between `lo` and `hi` copies: at
  `hi` go on at `exit`; from `lo` on, also offer to go on at `exit` (first
  when not `greedy`).  With `check`, a copy beyond `lo` that took no
  character fails, and the place is recorded in that slot. -/
  | count (slot lo : Nat) (hi : Option Nat) (check : Option Nat) (exit : Nat) (greedy : Bool)
  /-- The body of a negative look-around matched: drop the choices down to
  the one that resumes at `resume`, and fail. -/
  | refute (resume : Nat)
  | accept
  deriving Inhabited

/-- A compiled pattern. -/
structure Program where
  code : Array Inst
  slots : Nat
  /-- Whether the pattern can be decided by places alone, so that a place
  of the program and the text never needs to be tried twice. -/
  memo : Bool
  deriving Inhabited

/-- The longest unrolled repetition; a longer one runs behind a counter
when the machine keeps a history. -/
def unrollLimit : Nat := 100000

/-- The length of the unrolled code of a repetition whose body's code has
`len` instructions. -/
def unrolledLength (len : Nat) (nullable guard : Bool) (lo : Nat) (hi : Option Nat) : Nat :=
  match hi with
  | some h => lo * len + (h - lo) * (len + 1)
  | none => lo * len + (if nullable && guard then len + 4 else len + 2)

/-- The number of instructions of a node's code.  `guard` as for
`Node.code`. -/
def Node.codeLength (guard : Bool) : Node → Nat
  | .empty | .keepOut => 0
  | .chars _ | .assertion _ | .backref _ _ => 1
  | .concat items => items.attach.foldl (fun acc ⟨n, _⟩ => acc + n.codeLength guard) 0
  | .alt branches =>
    branches.attach.foldl (fun acc ⟨n, _⟩ => acc + n.codeLength guard + 2) 0 - 2
  | .group (some _) body | .atomic body => body.codeLength guard + 2
  | .group none body => body.codeLength guard
  | .look behind _ body => body.codeLength guard + 2 + (if behind then 1 else 0)
  | .loop body lo hi _ =>
    let len := body.codeLength guard
    let unrolled := unrolledLength len body.nullable guard lo hi
    if guard && unrolled > unrollLimit then len + 3 else unrolled

/-- Optional copies of a body after `acc`, each one skipping to `finish`
when not taken (first when `greedy`, last otherwise). -/
def optionalCopies (bodyAt : Nat → Nat → List Inst × Nat) (greedy : Bool) (finish : Nat) :
    Nat → Nat → Nat → Array Inst → Array Inst × Nat
  | 0, _, k, acc => (acc, k)
  | n + 1, pc, k, acc =>
    let (body, k) := bodyAt (pc + 1) k
    let entry := if greedy then Inst.split (pc + 1) finish else Inst.split finish (pc + 1)
    optionalCopies bodyAt greedy finish n (pc + 1 + body.length) k ((acc.push entry) ++ body.toArray)

/-- Plain copies of a body after `acc`. -/
def plainCopies (bodyAt : Nat → Nat → List Inst × Nat) :
    Nat → Nat → Nat → Array Inst → Array Inst × Nat
  | 0, _, k, acc => (acc, k)
  | n + 1, pc, k, acc =>
    let (body, k) := bodyAt pc k
    plainCopies bodyAt n (pc + body.length) k (acc ++ body.toArray)

/-- The code of a repetition placed at `pc`, with `k` the first free slot;
`bodyLength` is the length of the body's code.  `guard` adds progress
checks to unbounded loops over bodies that can match the empty text. -/
def repetitionCode (bodyAt : Nat → Nat → List Inst × Nat) (bodyLength : Nat) (nullable guard : Bool)
    (lo : Nat) (hi : Option Nat) (greedy : Bool) (pc k : Nat) : List Inst × Nat :=
  let (required, k) := plainCopies bodyAt lo pc k #[]
  let start := pc + required.size
  match hi with
  | some h =>
    let finish := start + (h - lo) * (bodyLength + 1)
    let (all, k) := optionalCopies bodyAt greedy finish (h - lo) start k required
    (all.toList, k)
  | none =>
    if nullable && guard then
      let (body, k') := bodyAt (start + 2) (k + 1)
      let finish := start + 2 + body.length + 2
      let entry := if greedy then Inst.split (start + 1) finish else Inst.split finish (start + 1)
      (required.toList ++ [entry, .save k] ++ body ++ [.progress k, .jump start], k')
    else
      let (body, k') := bodyAt (start + 1) k
      let finish := start + 1 + body.length + 1
      let entry := if greedy then Inst.split (start + 1) finish else Inst.split finish (start + 1)
      (required.toList ++ [entry] ++ body ++ [.jump start], k')

/-- The code of a node placed at `pc`, with `k` the first free slot, and
the first slot free after it. -/
def Node.code (guard : Bool) : Node → Nat → Nat → List Inst × Nat
  | .empty, _, k => ([], k)
  | .keepOut, _, k => ([], k)
  | .chars s, _, k => ([.char s], k)
  | .assertion a, _, k => ([.assert a], k)
  | .backref g c, _, k => ([.backref g c], k)
  | .concat items, pc, k =>
    items.attach.foldl (fun (acc : List Inst × Nat) ⟨n, _⟩ =>
      let (c, k') := n.code guard (pc + acc.1.length) acc.2
      (acc.1 ++ c, k')) ([], k)
  | .alt branches, pc, k =>
    -- each branch but the last: split to it or to the next, then jump to the end
    let count := branches.length
    let laid := branches.attach.foldl (fun (acc : List (List Inst) × Nat × Nat) ⟨n, _⟩ =>
      let (codes, here, k) := acc
      let last := codes.length + 1 == count
      let (c, k') := n.code guard (if last then here else here + 1) k
      (codes ++ [c], here + c.length + 2, k')) ([], pc, k)
    let (codes, _, k') := laid
    let total := codes.foldl (fun acc c => acc + c.length + 2) 0
    let finish := pc + total - 2
    let rec assemble : List (List Inst) → Nat → List Inst
      | [], _ => []
      | [c], _ => c
      | c :: cs, here =>
        [Inst.split (here + 1) (here + c.length + 2)] ++ c ++ [Inst.jump finish] ++
          assemble cs (here + c.length + 2)
    (assemble codes pc, k')
  | .group (some g) body, pc, k =>
    let (c, k') := body.code guard (pc + 1) k
    ([.save (2 * g)] ++ c ++ [.save (2 * g + 1)], k')
  | .group none body, pc, k => body.code guard pc k
  | .atomic body, pc, k =>
    let (c, k') := body.code guard (pc + 1) (k + 1)
    ([.cutMark k] ++ c ++ [.cut k], k')
  | .look behind negated body, pc, k =>
    let width := body.fixedWidth?.getD 0
    let stepBack := if behind then [Inst.back width] else []
    if negated then
      let (c, k') := body.code guard (pc + 1 + stepBack.length) k
      let resume := pc + 1 + stepBack.length + c.length + 1
      ([.split (pc + 1) resume] ++ stepBack ++ c ++ [.refute resume], k')
    else
      let (c, k') := body.code guard (pc + 1 + stepBack.length) (k + 1)
      ([.save k] ++ stepBack ++ c ++ [.restore k], k')
  | .loop body lo hi greedy, pc, k =>
    let len := body.codeLength guard
    if guard && unrolledLength len body.nullable guard lo hi > unrollLimit then
      -- the counter in slot `k`, the place of the last copy in slot `k + 1`
      let check := if body.nullable && hi.isNone then some (k + 1) else none
      let (c, k') := body.code guard (pc + 2) (k + 2)
      let exit := pc + 2 + c.length + 1
      ([.zero k, .count k lo hi check exit greedy] ++ c ++ [.jump (pc + 1)], k')
    else
      repetitionCode (fun pc k => body.code guard pc k) len body.nullable guard lo hi greedy pc k

/-- Compile a tree with its number of capture groups.  The program first
tries the pattern at the current place and on failure moves one character
on, so that a match anywhere in the text is found. -/
def Program.ofNode (node : Node) (groups : Nat) : Program :=
  let memo := !node.needsHistory
  let (body, slots) := node.forMachine.code (!memo) 3 (2 * (groups + 1))
  ⟨(#[Inst.split 3 1, .char CharSet.full, .jump 0] ++ body.toArray).push .accept, slots, memo⟩

end Regex

end Attest
