import Attest.Regex.CharSet

/-!
# The tree of a pattern

A pattern is read into a `Node`: sets of characters, assertions about the
place between two characters, sequences, alternatives, groups, repetition,
atomic groups, look-around and back-references.  Case-insensitivity is
already applied to the sets when the tree is built, so matching never asks
for flags again.
-/

namespace Attest

namespace Regex

/-- A test on the place between two characters. -/
inductive Assertion where
  | textStart
  | textEnd
  | lineStart
  | lineEnd
  | wordBoundary
  | notWordBoundary
  | wordStart
  | wordEnd
  | searchStart
  deriving Inhabited, BEq, Repr

/-- The tree of a pattern. -/
inductive Node where
  | empty
  | chars (set : CharSet)
  | assertion (a : Assertion)
  | concat (items : List Node)
  | alt (branches : List Node)
  /-- A group, capturing when it has a number. -/
  | group (index : Option Nat) (body : Node)
  /-- Between `lo` and `hi` repetitions (no bound when `hi` is `none`). -/
  | loop (body : Node) (lo : Nat) (hi : Option Nat) (greedy : Bool)
  /-- A group that keeps its first way of matching and never backtracks
  into it. -/
  | atomic (body : Node)
  /-- Look-around: ahead, or behind when `behind`; it must fail to match when
  `negated`. -/
  | look (behind negated : Bool) (body : Node)
  | backref (group : Nat) (caseless : Bool)
  /-- Resets the start of the reported match; it matches the empty text. -/
  | keepOut
  deriving Inhabited

/-- The flags that a pattern switches on and off as it goes. -/
structure Flags where
  caseless : Bool := false
  multiLine : Bool := false
  dotAll : Bool := false
  swapGreed : Bool := false
  ignoreSpace : Bool := false
  deriving Inhabited

namespace Node

/-- Whether a node needs backtracking with its history: look-around,
back-references, atomic groups and the match-start reset cannot be decided
from the place in the pattern and the text alone. -/
def needsHistory : Node → Bool
  | .empty | .chars _ | .assertion _ => false
  | .concat items => items.attach.any fun ⟨n, _⟩ => n.needsHistory
  | .alt branches => branches.attach.any fun ⟨n, _⟩ => n.needsHistory
  | .group _ body => body.needsHistory
  | .loop body _ _ _ => body.needsHistory
  | .atomic _ | .look _ _ _ | .backref _ _ | .keepOut => true

/-- Whether a node can match the empty text (back-references are counted as
able to). -/
def nullable : Node → Bool
  | .empty | .assertion _ | .look _ _ _ | .backref _ _ | .keepOut => true
  | .chars _ => false
  | .concat items => items.attach.all fun ⟨n, _⟩ => n.nullable
  | .alt branches => branches.attach.any fun ⟨n, _⟩ => n.nullable
  | .group _ body | .atomic body => body.nullable
  | .loop body lo _ _ => lo == 0 || body.nullable

/-- The number of characters every match of a node spans, when that number
is fixed. -/
def fixedWidth? : Node → Option Nat
  | .empty | .assertion _ | .look _ _ _ | .keepOut => some 0
  | .chars _ => some 1
  | .backref _ _ => none
  | .concat items => items.attach.foldlM (fun acc ⟨n, _⟩ => (acc + ·) <$> n.fixedWidth?) 0
  | .alt branches =>
    match branches.attach.mapM fun ⟨n, _⟩ => n.fixedWidth? with
    | some (w :: ws) => if ws.all (· == w) then some w else none
    | some [] => some 0
    | none => none
  | .group _ body | .atomic body => body.fixedWidth?
  | .loop body lo hi _ =>
    match body.fixedWidth?, hi with
    | some w, some h => if lo == h then some (w * lo) else none
    | _, _ => none

/-- The largest group number a back-reference of the node names. -/
def maxBackref : Node → Nat
  | .empty | .chars _ | .assertion _ | .keepOut => 0
  | .backref g _ => g
  | .concat items => items.attach.foldl (fun acc ⟨n, _⟩ => max acc n.maxBackref) 0
  | .alt branches => branches.attach.foldl (fun acc ⟨n, _⟩ => max acc n.maxBackref) 0
  | .group _ body | .atomic body | .look _ _ body => body.maxBackref
  | .loop body _ _ _ => body.maxBackref

/-- Whether each alternative of a node has a fixed width (a node that is no
alternation is its only alternative). -/
def alternativesFixed : Node → Bool
  | .alt branches => branches.all fun n => n.fixedWidth?.isSome
  | n => n.fixedWidth?.isSome

/-- Whether every look-behind of the node has alternatives of fixed width. -/
def lookBehindsFixed : Node → Bool
  | .empty | .chars _ | .assertion _ | .keepOut | .backref _ _ => true
  | .concat items => items.attach.all fun ⟨n, _⟩ => n.lookBehindsFixed
  | .alt branches => branches.attach.all fun ⟨n, _⟩ => n.lookBehindsFixed
  | .group _ body | .atomic body | .loop body _ _ _ => body.lookBehindsFixed
  | .look behind _ body => (!behind || body.alternativesFixed) && body.lookBehindsFixed

/-- Whether a node matches only the empty text. -/
def zeroWidth : Node → Bool
  | .empty | .assertion _ | .look _ _ _ | .keepOut => true
  | .chars _ | .backref _ _ => false
  | .concat items => items.attach.all fun ⟨n, _⟩ => n.zeroWidth
  | .alt branches => branches.attach.all fun ⟨n, _⟩ => n.zeroWidth
  | .group _ body | .atomic body => body.zeroWidth
  | .loop body _ hi _ => hi == some 0 || body.zeroWidth

/-- The tree as the matching machine runs it: a look-behind at alternatives
of different widths becomes one look-behind for each alternative (any of
them, or none of them when negated); a repetition whose upper bound is below
its lower one takes exactly the upper bound's copies; a repetition of what
matches only the empty text takes at most one copy, as more would change
nothing. -/
def forMachine : Node → Node
  | .concat items => .concat (items.attach.map fun ⟨n, _⟩ => n.forMachine)
  | .alt branches => .alt (branches.attach.map fun ⟨n, _⟩ => n.forMachine)
  | .group index body => .group index body.forMachine
  | .atomic body => .atomic body.forMachine
  | .look true negated (.alt branches) =>
    if (Node.alt branches).fixedWidth?.isNone then
      let parts := branches.attach.map fun ⟨n, _⟩ => Node.look true negated n.forMachine
      if negated then .concat parts else .alt parts
    else .look true negated (Node.alt branches).forMachine
  | .look behind negated body => .look behind negated body.forMachine
  | .loop body lo hi greedy =>
    let inner := body.forMachine
    let lo := match hi with
      | some h => min lo h
      | none => lo
    if inner.zeroWidth then .loop inner (min lo 1) (some (min (hi.getD 1) 1)) greedy
    else .loop inner lo hi greedy
  | n => n

end Node

end Regex

end Attest
