import Attest.Regex.Syntax

/-!
# The automata a pattern needs

A pattern is refused when the automata built for it would be too large.
Two automata are built for every pattern the automaton engine runs: one that
reads the text forwards and one that reads it backwards.  Each may take at
most `nfaLimit` bytes: `stateBytes` for every state, eight more for every
byte range of a state with several ranges, and four more for every way out
of a state that chooses between several.

`Shape` is the form of a pattern the builder reads, after the simplifications
of the syntax: adjacent literals merged, empty items dropped, alternatives of
single characters or classes made one class, a common first part of all
alternatives taken out, and repetition of what only matches the empty text
cut to at most one copy.  `Shape.fits` runs the builder and counts; since the
count only grows, it stops at the first excess.  The builder:

* reads the text as UTF-8 bytes, so a literal is a chain of byte states and a
  class beyond ASCII an automaton over bytes: forwards, equal states are
  shared through a table of 10000 places (a state already seen is found only
  if no other state took its place since); backwards, common ends are shared
  through a table of 1000 places;
* unrolls counted repetition into copies;
* compiles an alternative of two or more literals as a tree of their bytes;
* starts with a loop over any byte unless the pattern is anchored at the
  start (at the end, for the backward automaton), and keeps capture states
  only in the forward automaton.

Patterns with look-around, back-references or atomic groups are run by the
backtracking machine instead; the parts of them it hands to the automaton
engine (`Node.delegatesFit`) are checked the same way, each as a pattern
anchored at its start.
-/

namespace Attest

namespace Regex

/-- A pattern as the automaton builder reads it. -/
inductive Shape where
  | empty
  /-- Code points matched in order. -/
  | literal (chars : List Nat)
  /-- A class of code points as sorted, disjoint ranges. -/
  | cls (ranges : List (Nat × Nat))
  | look (a : Assertion)
  | rep (sub : Shape) (lo : Nat) (hi : Option Nat) (greedy : Bool)
  | capture (index : Nat) (sub : Shape)
  | concat (items : List Shape)
  | alt (branches : List Shape)
  deriving Inhabited

/-- A number for each assertion. -/
def Assertion.rank : Assertion → Nat
  | .textStart => 0
  | .textEnd => 1
  | .lineStart => 2
  | .lineEnd => 3
  | .wordBoundary => 4
  | .notWordBoundary => 5
  | .wordStart => 6
  | .wordEnd => 7
  | .searchStart => 8

/-- The number of bytes of a code point in UTF-8. -/
def utf8Width (n : Nat) : Nat :=
  if n < 0x80 then 1 else if n < 0x800 then 2 else if n < 0x10000 then 3 else 4

/-- The UTF-8 bytes of a code point. -/
def utf8Bytes (n : Nat) : List Nat :=
  if n < 0x80 then [n]
  else if n < 0x800 then [0xC0 + n / 64, 0x80 + n % 64]
  else if n < 0x10000 then [0xE0 + n / 4096, 0x80 + n / 64 % 64, 0x80 + n % 64]
  else [0xF0 + n / 262144, 0x80 + n / 4096 % 64, 0x80 + n / 64 % 64, 0x80 + n % 64]

namespace Shape

/-- A list of numbers that determines the shape: two shapes are the same
exactly when their codes are. -/
def code : Shape → List Nat
  | .empty => [0]
  | .literal cs => 1 :: cs.length :: cs
  | .cls rs => 2 :: rs.length :: rs.flatMap fun r => [r.1, r.2]
  | .look a => [3, a.rank]
  | .rep sub lo hi greedy =>
    [4, lo, (match hi with
      | some h => h + 1
      | none => 0), if greedy then 1 else 0] ++ sub.code
  | .capture i sub => [5, i] ++ sub.code
  | .concat items => 6 :: items.length :: items.attach.flatMap fun ⟨x, _⟩ => x.code
  | .alt bs => 7 :: bs.length :: bs.attach.flatMap fun ⟨x, _⟩ => x.code

/-- Whether two shapes are the same. -/
def same (a b : Shape) : Bool := a.code == b.code

mutual

/-- The fewest bytes a match takes; `none` when nothing matches. -/
def minLen? : Shape → Option Nat
  | .empty | .look _ => some 0
  | .literal cs => some (cs.foldl (fun acc c => acc + utf8Width c) 0)
  | .cls rs => rs.head?.map fun r => utf8Width r.1
  | .rep sub lo _ _ => sub.minLen?.map (· * lo)
  | .capture _ sub => sub.minLen?
  | .concat items => (minLens items).map List.sum
  | .alt bs => (minLens bs).bind List.min?

/-- The fewest bytes of each shape of a list; `none` when one of them
matches nothing. -/
def minLens : List Shape → Option (List Nat)
  | [] => some []
  | x :: xs => do
    let n ← x.minLen?
    let ns ← minLens xs
    pure (n :: ns)

end

mutual

/-- The most bytes a match takes; `none` when unbounded or when nothing
matches. -/
def maxLen? : Shape → Option Nat
  | .empty | .look _ => some 0
  | .literal cs => some (cs.foldl (fun acc c => acc + utf8Width c) 0)
  | .cls rs => rs.getLast?.map fun r => utf8Width r.2
  | .rep sub _ hi _ => hi.bind fun h => sub.maxLen?.map (· * h)
  | .capture _ sub => sub.maxLen?
  | .concat items => (maxLens items).map List.sum
  | .alt bs => (maxLens bs).bind List.max?

/-- The most bytes of each shape of a list; `none` when one of them is
unbounded or matches nothing. -/
def maxLens : List Shape → Option (List Nat)
  | [] => some []
  | x :: xs => do
    let n ← x.maxLen?
    let ns ← maxLens xs
    pure (n :: ns)

end

/-- Whether an anchor stands in a run of items, each given as whether it is
anchored and whether it matches only the empty text: the run is read up to
and including its first item that can take a character. -/
def anchoredRun : List (Bool × Bool) → Bool
  | [] => false
  | (anchored, zeroWidth) :: rest => anchored || (zeroWidth && anchoredRun rest)

/-- Whether every match starts with the start-of-text assertion. -/
def startAnchored : Shape → Bool
  | .look a => a == .textStart
  | .rep sub lo _ _ => 0 < lo && sub.startAnchored
  | .capture _ sub => sub.startAnchored
  | .concat items => anchoredRun (items.attach.map fun ⟨x, _⟩ => (x.startAnchored, x.maxLen? == some 0))
  | .alt bs => !bs.isEmpty && bs.attach.all fun ⟨x, _⟩ => x.startAnchored
  | _ => false

/-- Whether every match ends with the end-of-text assertion. -/
def endAnchored : Shape → Bool
  | .look a => a == .textEnd
  | .rep sub lo _ _ => 0 < lo && sub.endAnchored
  | .capture _ sub => sub.endAnchored
  | .concat items =>
    anchoredRun (items.attach.reverse.map fun ⟨x, _⟩ => (x.endAnchored, x.maxLen? == some 0))
  | .alt bs => !bs.isEmpty && bs.attach.all fun ⟨x, _⟩ => x.endAnchored
  | _ => false

/-- The shape of a set of characters: a class, or a literal when it holds
one character. -/
def ofSet (s : CharSet) : Shape :=
  match s.ranges.toList with
  | [(a, b)] => if a == b then .literal [a] else .cls [(a, b)]
  | rs => .cls rs

/-- A sequence: nested sequences flattened, adjacent literals merged, empty
items dropped. -/
def concatOf (items : List Shape) : Shape :=
  let flat := items.flatMap fun x => match x with
    | .concat ys => ys
    | y => [y]
  let (done, pending) := flat.foldl (fun (st : List Shape × List Nat) x =>
    match x with
    | .literal cs => (st.1, st.2 ++ cs)
    | .empty => st
    | other => (other :: (if st.2.isEmpty then st.1 else .literal st.2 :: st.1), [])) ([], [])
  match (if pending.isEmpty then done else .literal pending :: done).reverse with
  | [] => .empty
  | [x] => x
  | xs => .concat xs

/-- The longest common beginning of two sequences. -/
def commonStart : List Shape → List Shape → List Shape
  | x :: xs, y :: ys => if same x y then x :: commonStart xs ys else []
  | _, _ => []

/-- Alternatives with nested alternatives flattened; single characters or
classes only become one class, and a beginning shared by all alternatives
that are sequences is taken out (`fuel` bounds how often). -/
def altWith : Nat → List Shape → Shape
  | fuel, branches =>
    let flat := branches.flatMap fun x => match x with
      | .alt ys => ys
      | y => [y]
    match flat with
    | [] => .cls []
    | [x] => x
    | _ =>
      let singles := flat.filterMap fun x => match x with
        | .literal [c] => some c
        | _ => none
      let classes := flat.filterMap fun x => match x with
        | .cls rs => some rs
        | _ => none
      let sequences := flat.filterMap fun x => match x with
        | .concat ys => some ys
        | _ => none
      if singles.length == flat.length then ofSet (CharSet.ofRanges (singles.map fun c => (c, c)))
      else if classes.length == flat.length then ofSet (CharSet.ofRanges classes.flatten)
      else
        match fuel, sequences with
        | fuel + 1, first :: rest =>
          let shared := rest.foldl commonStart first
          if sequences.length == flat.length && !shared.isEmpty then
            concatOf (shared ++
              [altWith fuel (sequences.map fun ys => concatOf (ys.drop shared.length))])
          else .alt flat
        | _, _ => .alt flat

/-- Alternatives, simplified. -/
def altOf (branches : List Shape) : Shape := altWith 2 branches

/-- A repetition: of what matches only the empty text at most one copy, no
copy at all is the empty shape and exactly one copy the body itself. -/
def repOf (sub : Shape) (lo : Nat) (hi : Option Nat) (greedy : Bool) : Shape :=
  let (lo, hi) := if sub.maxLen? == some 0 then (min lo 1, some (min (hi.getD 1) 1)) else (lo, hi)
  if lo == 0 && hi == some 0 then .empty
  else if lo == 1 && hi == some 1 then sub
  else .rep sub lo hi greedy

end Shape

/-- The shape of a pattern tree that uses no look-around, back-reference or
atomic group. -/
def Node.shape : Node → Shape
  | .empty => .empty
  | .chars s => Shape.ofSet s
  | .assertion a => .look a
  | .concat items => Shape.concatOf (items.attach.map fun ⟨n, _⟩ => n.shape)
  | .alt bs => Shape.altOf (bs.attach.map fun ⟨n, _⟩ => n.shape)
  | .group (some i) body => .capture i body.shape
  | .group none body => body.shape
  | .loop body lo hi greedy => Shape.repOf body.shape lo hi greedy
  | .atomic body => body.shape
  | .look _ _ _ | .backref _ _ | .keepOut => .empty

/-! ## Byte sequences of code point ranges -/

/-- Split ranges of code points into ranges of UTF-8 byte sequences of
equal length whose bytes vary independently; `fuel` bounds the splits. -/
def byteRangesAux : Nat → List (Nat × Nat) → List (List (Nat × Nat))
  | 0, _ => []
  | _, [] => []
  | fuel + 1, (s, e) :: stack =>
    if s < 0xE000 && 0xD7FF < e then byteRangesAux fuel ((s, 0xD7FF) :: (0xE000, e) :: stack)
    else if e < s then byteRangesAux fuel stack
    else
      match [0x7F, 0x7FF, 0xFFFF].find? (fun m => s ≤ m && m < e) with
      | some m => byteRangesAux fuel ((s, m) :: (m + 1, e) :: stack)
      | none =>
        if e ≤ 0x7F then [(s, e)] :: byteRangesAux fuel stack
        else
          let cut := [6, 12, 18].findSome? fun bits =>
            let block := Nat.pow 2 bits
            if s / block != e / block then
              if s % block != 0 then some ((s, s - s % block + block - 1), (s - s % block + block, e))
              else if e % block != block - 1 then some ((s, e - e % block - 1), (e - e % block, e))
              else none
            else none
          match cut with
          | some (r1, r2) => byteRangesAux fuel (r1 :: r2 :: stack)
          | none => (List.zip (utf8Bytes s) (utf8Bytes e)) :: byteRangesAux fuel stack

/-- The UTF-8 byte sequences of a range of code points, in order. -/
def byteRanges (s e : Nat) : List (List (Nat × Nat)) := byteRangesAux 64 [(s, e)]

/-! ## Counting states -/

/-- The largest automaton allowed, in bytes. -/
def nfaLimit : Nat := 10 * 1024 * 1024

/-- The bytes of one state. -/
def stateBytes : Nat := 32

/-- What the builder has spent: states, and bytes besides them. -/
structure Spent where
  states : Nat
  extra : Nat

/-- A building step; it fails as soon as the limit is passed. -/
abbrev Build := StateT Spent (Except Unit)

/-- Add a state holding `extra` bytes besides itself; gives its number. -/
def addState (extra : Nat) : Build Nat := do
  let b ← get
  if (b.states + 1) * stateBytes + b.extra + extra > nfaLimit then throw ()
  set ({ states := b.states + 1, extra := b.extra + extra } : Spent)
  pure b.states

/-- Add a state holding `extra` bytes besides itself. -/
def newState (extra : Nat) : Build Unit := discard (addState extra)

/-- Spend bytes besides the states. -/
def charge (extra : Nat) : Build Unit := do
  let b ← get
  if b.states * stateBytes + b.extra + extra > nfaLimit then throw ()
  set ({ b with extra := b.extra + extra } : Spent)

/-- A link out of the end of a part: four bytes when that end is a state
that chooses between ways out. -/
def link (endChooses : Bool) : Build Unit := if endChooses then charge 4 else pure ()

/-- The FNV-1a hash of numbers. -/
def fnv (xs : List Nat) : UInt64 :=
  xs.foldl (fun h x => (h ^^^ x.toUInt64) * 1099511628211) 14695981039346656037

/-- A state of a class automaton under construction: its finished
transitions `(low, high, target)` and the byte range of the transition still
open. -/
structure Pending where
  done : List (Nat × Nat × Nat)
  last : Option (Nat × Nat)

/-- The transitions of a pending state, its open one now leading to `next`. -/
def Pending.close (p : Pending) (next : Nat) : List (Nat × Nat × Nat) :=
  match p.last with
  | some (a, b) => p.done ++ [(a, b, next)]
  | none => p.done

/-- The table of states built for the current class, by hash place. -/
abbrev Built := Array (Option (List (Nat × Nat × Nat) × Nat))

/-- The state with these transitions: the one in the table, or a new one. -/
def stateFor (built : Built) (trans : List (Nat × Nat × Nat)) : Build (Nat × Built) := do
  let place := (fnv (trans.flatMap fun t => [t.1, t.2.1, t.2.2]) % 10000).toNat
  match built[place]? with
  | some (some (key, id)) =>
    if key == trans then pure (id, built)
    else do
      let id ← addState (8 * trans.length)
      pure (id, built.setIfInBounds place (some (trans, id)))
  | _ =>
    let id ← addState (8 * trans.length)
    pure (id, built.setIfInBounds place (some (trans, id)))

/-- Build the pending states above the first `keep` ones, deepest first,
each leading to the one built before it; gives the last one built. -/
def settle (keep : Nat) : Nat → Nat → List Pending → Built → Build (Nat × List Pending × Built)
  | 0, next, pending, built => pure (next, pending, built)
  | fuel + 1, next, pending, built =>
    match pending.getLast? with
    | some p =>
      if keep < pending.length then do
        let (id, built) ← stateFor built (p.close next)
        settle keep fuel id pending.dropLast built
      else pure (next, pending, built)
    | none => pure (next, pending, built)

/-- Close the open transition of the deepest pending state. -/
def closeLast (next : Nat) (pending : List Pending) : List Pending :=
  match pending.getLast? with
  | some p => pending.dropLast ++ [⟨p.close next, none⟩]
  | none => pending

/-- Add one byte sequence to the forward class automaton: the pending states
it shares with the sequence before stay, the others are built. -/
def addSequence (target : Nat) (pending : List Pending) (built : Built) (seq : List (Nat × Nat)) :
    Build (List Pending × Built) := do
  let shared := ((seq.zip pending).takeWhile fun (r, p) => p.last == some r).length
  let (next, pending, built) ← settle (shared + 1) pending.length target pending built
  let pending := closeLast next pending
  match seq.drop shared with
  | [] => pure (pending, built)
  | r :: rs =>
    let pending := match pending.getLast? with
      | some p => pending.dropLast ++ [{ p with last := some r }]
      | none => pending
    pure (pending ++ rs.map fun r => ⟨[], some r⟩, built)

/-- The forward automaton of a class beyond ASCII. -/
def forwardClass (ranges : List (Nat × Nat)) : Build Unit := do
  let target ← addState 0
  let sequences := ranges.flatMap fun r => byteRanges r.1 r.2
  let start : List Pending × Built := ([⟨[], none⟩], Array.replicate 10000 none)
  let (pending, built) ← sequences.foldlM (fun acc seq => addSequence target acc.1 acc.2 seq) start
  let (next, pending, built) ← settle 1 pending.length target pending built
  let root := ((closeLast next pending).head?.map (·.done)).getD []
  discard (stateFor built root)

/-- The ends already built for the current class, by hash place. -/
abbrev Ends := Array (Option ((Nat × Nat × Nat) × Nat))

/-- The backward automaton of a class beyond ASCII: each byte sequence read
from its last byte, sequences sharing the states of equal beginnings. -/
def reverseClass (ranges : List (Nat × Nat)) : Build Unit := do
  newState 0
  let finish ← addState 0
  let sequences := ranges.flatMap fun r => byteRanges r.1 r.2
  let step : Nat × Ends → Nat × Nat → Build (Nat × Ends) := fun acc r => do
    let key := (acc.1, r.1, r.2)
    let place := (fnv [acc.1, r.1, r.2] % 1000).toNat
    match acc.2[place]? with
    | some (some (k, id)) =>
      if k == key then pure (id, acc.2)
      else do
        let id ← addState 0
        pure (id, acc.2.setIfInBounds place (some (key, id)))
    | _ =>
      let id ← addState 0
      pure (id, acc.2.setIfInBounds place (some (key, id)))
  let _ ← sequences.foldlM (fun (ends : Ends) seq => do
    let (_, ends) ← seq.foldlM step (finish, ends)
    charge 4
    pure ends) (Array.replicate 1000 none)

/-- A class: one state over its ranges when it is ASCII, an automaton over
bytes otherwise. -/
def classStates (reverse : Bool) (ranges : List (Nat × Nat)) : Build Unit :=
  if ranges.all (·.2 ≤ 0x7F) then do
    newState 0
    newState (8 * ranges.length)
  else if reverse then reverseClass ranges
  else forwardClass ranges

/-- A state of a tree of literals: its transitions `(byte, next)` and the
parts of them that end where a literal ends. -/
structure TrieNode where
  trans : List (Nat × Nat)
  chunks : List (Nat × Nat)

/-- Where the transitions added since the last literal end start. -/
def TrieNode.activeStart (t : TrieNode) : Nat := (t.chunks.getLast?.map (·.2)).getD 0

/-- Follow or add the transition on a byte from a state. -/
def trieStep (trie : Array TrieNode) (src byte : Nat) : Array TrieNode × Nat :=
  let t := trie.getD src ⟨[], []⟩
  let start := t.activeStart
  let active := t.trans.drop start
  match active.find? (·.1 == byte) with
  | some (_, next) => (trie, next)
  | none =>
    let next := trie.size
    let pos := start + (active.filter (·.1 < byte)).length
    let t := { t with trans := t.trans.take pos ++ [(byte, next)] ++ t.trans.drop pos }
    ((trie.setIfInBounds src t).push ⟨[], []⟩, next)

/-- Mark a state as the end of a literal. -/
def TrieNode.markEnd (t : TrieNode) : TrieNode :=
  if t.trans.isEmpty && !t.chunks.isEmpty then t
  else { t with chunks := t.chunks ++ [(t.activeStart, t.trans.length)] }

/-- Add a literal, given by its bytes, to a tree. -/
def trieAdd (trie : Array TrieNode) (bytes : List Nat) : Array TrieNode :=
  let (trie, last) := bytes.foldl (fun (acc : Array TrieNode × Nat) b => trieStep acc.1 acc.2 b) (trie, 0)
  trie.setIfInBounds last (trie.getD last ⟨[], []⟩).markEnd

/-- The parts of a state's transitions, the open part last. -/
def TrieNode.parts (t : TrieNode) : List (List (Nat × Nat)) :=
  t.chunks.map (fun c => (t.trans.drop c.1).take (c.2 - c.1)) ++ [t.trans.drop t.activeStart]

/-- Build the states of a tree of literals below a state, deepest first. -/
def trieStates (trie : Array TrieNode) : Nat → Nat → Build Unit
  | 0, _ => pure ()
  | fuel + 1, id => do
    let t := trie.getD id ⟨[], []⟩
    let ways ← t.parts.zipIdx.foldlM (fun (ways : Nat) (part, i) => do
      let ways := if 0 < i then ways + 1 else ways
      for (_, next) in part do
        if !(trie.getD next ⟨[], []⟩).trans.isEmpty then trieStates trie fuel next
      if part.isEmpty then pure ways
      else do
        newState (if part.length == 1 then 0 else 8 * part.length)
        pure (ways + 1)) 0
    newState (4 * ways)

/-- An alternative of literals, as a tree of their bytes (read backwards
for the backward automaton). -/
def literalTree (reverse : Bool) (literals : List (List Nat)) : Build Unit := do
  newState 0
  let bytes := literals.map fun cs => cs.flatMap utf8Bytes
  let trie := bytes.foldl (fun trie bs => trieAdd trie (if reverse then bs.reverse else bs)) #[⟨[], []⟩]
  trieStates trie (bytes.foldl (fun acc bs => acc + bs.length) 1) 0

/-- Exactly `n` copies of a part, one after the other; gives whether the
end of the last copy chooses between ways out. -/
def exactStates (part : Build Bool) (n : Nat) : Build Bool := do
  if n == 0 then
    newState 0
    return false
  let mut prev ← part
  for _ in [1:n] do
    let chooses ← part
    link prev
    prev := chooses
  return prev

/-- The optional copies of a bounded repetition, each one after a choice to
take it or to finish. -/
def optionalStates (part : Build Bool) (n : Nat) (prev : Bool) : Build Bool := do
  let mut prev := prev
  for _ in [0:n] do
    newState 8
    let chooses ← part
    link prev
    prev := chooses
  return prev

namespace Shape

mutual

/-- Build the states of a shape; gives whether its end is a state that
chooses between ways out. -/
def states (reverse : Bool) : Shape → Build Bool
  | .empty => do
    newState 0
    pure false
  | .literal cs => do
    for _ in cs.flatMap utf8Bytes do
      newState 0
    pure false
  | .cls rs => do
    classStates reverse rs
    pure false
  | .look _ => do
    newState 0
    pure false
  | .capture _ sub =>
    if reverse then sub.states reverse
    else do
      newState 0
      let chooses ← sub.states reverse
      newState 0
      link chooses
      pure false
  | .concat items => do
    let last ← if reverse then statesBackward items
      else match items with
        | [] => pure none
        | first :: rest => do
          let firstChooses ← first.states reverse
          some <$> statesAfter reverse firstChooses rest
    match last with
    | some chooses => pure chooses
    | none => do
      newState 0
      pure false
  | .alt bs =>
    let literals := bs.filterMap fun b => match b with
      | .literal cs => some cs
      | _ => none
    if literals.length == bs.length && 2 ≤ bs.length then do
      literalTree reverse literals
      pure false
    else
      match bs with
      | [] => do
        newState 0
        pure false
      | [b] => b.states reverse
      | b1 :: b2 :: rest => do
        let c1 ← b1.states reverse
        let c2 ← b2.states reverse
        newState (4 * (rest.length + 2))
        newState 0
        link c1
        link c2
        statesLinked reverse rest
        pure false
  | .rep sub lo hi _ =>
    if lo == 0 && hi == some 1 then do
      newState 8
      let chooses ← sub.states reverse
      newState 0
      link chooses
      pure false
    else
      match hi with
      | none =>
        if lo == 0 then
          if sub.minLen?.any (0 < ·) then do
            newState 4
            let chooses ← sub.states reverse
            link chooses
            pure true
          else do
            let chooses ← sub.states reverse
            link chooses
            newState 8
            newState 8
            newState 0
            pure false
        else if lo == 1 then do
          let chooses ← sub.states reverse
          newState 4
          link chooses
          pure true
        else do
          let prefixChooses ← exactStates (sub.states reverse) (lo - 1)
          let lastChooses ← sub.states reverse
          link prefixChooses
          newState 4
          link lastChooses
          pure true
      | some h =>
        if lo == h then exactStates (sub.states reverse) lo
        else do
          let prefixChooses ← exactStates (sub.states reverse) lo
          newState 0
          let lastChooses ← optionalStates (sub.states reverse) (h - lo) prefixChooses
          link lastChooses
          pure false

/-- Build the states of shapes one after the other, after a part whose end
chooses as `prev` says; gives whether the last end chooses. -/
def statesAfter (reverse prev : Bool) : List Shape → Build Bool
  | [] => pure prev
  | x :: xs => do
    let chooses ← x.states reverse
    link prev
    statesAfter reverse chooses xs

/-- Build the states of a sequence of shapes as the backward automaton reads
it, last shape first; gives whether the end of the first shape chooses, or
`none` for no shapes. -/
def statesBackward : List Shape → Build (Option Bool)
  | [] => pure none
  | x :: xs => do
    let later ← statesBackward xs
    let chooses ← x.states true
    match later with
    | some p => link p
    | none => pure ()
    pure (some chooses)

/-- Build the states of further alternatives, each linked to the common
end. -/
def statesLinked (reverse : Bool) : List Shape → Build Unit
  | [] => pure ()
  | x :: xs => do
    let chooses ← x.states reverse
    link chooses
    statesLinked reverse xs

end

/-- Whether the automaton of a shape, forward or backward, stays within the
limit. -/
def fits (s : Shape) (reverse : Bool) : Bool :=
  let anchored := if reverse then s.endAnchored else s.startAnchored
  let build : Build Unit := do
    if anchored then
      newState 0
    else
      newState 8
      newState 0
      newState 8
    if reverse then
      let chooses ← s.states true
      newState 0
      link chooses
    else
      newState 0
      let chooses ← s.states false
      newState 0
      link chooses
      newState 0
  match build.run ⟨0, 0⟩ with
  | .ok _ => true
  | .error _ => false

/-- Whether both automata of a shape stay within the limit. -/
def fitsBoth (s : Shape) : Bool := s.fits false && s.fits true

end Shape

/-! ## What the backtracking machine hands over -/

/-- Whether a node needs the backtracking machine: look-around,
back-references, atomic groups, the match-start reset and the search-start
assertion. -/
def Node.hard : Node → Bool
  | .assertion a => a == .searchStart
  | .atomic _ | .look _ _ _ | .backref _ _ | .keepOut => true
  | .concat items => items.attach.any fun ⟨n, _⟩ => n.hard
  | .alt bs => bs.attach.any fun ⟨n, _⟩ => n.hard
  | .group _ body | .loop body _ _ _ => body.hard
  | _ => false

/-- Whether a node holds a repetition whose upper bound is below its lower
one. -/
def Node.hasInvertedLoop : Node → Bool
  | .loop body lo hi _ => hi.any (· < lo) || body.hasInvertedLoop
  | .concat items => items.attach.any fun ⟨n, _⟩ => n.hasInvertedLoop
  | .alt bs => bs.attach.any fun ⟨n, _⟩ => n.hasInvertedLoop
  | .group _ body | .atomic body | .look _ _ body => body.hasInvertedLoop
  | _ => false

/-- Whether a run of items handed to the automaton engine as one pattern,
anchored at its start, is accepted: no inverted repetition, and automata
within the limit. -/
def runFits (items : List Node) : Bool :=
  items.isEmpty || (!items.any Node.hasInvertedLoop &&
    (Shape.concatOf (.look .textStart :: items.map Node.shape)).fitsBoth)

/-- Whether the parts of a node that the backtracking machine hands to the
automaton engine are accepted.  `hard` says whether the node's own context
is run by the machine.  A part without look-around in an automaton context
is handed over whole; a sequence hands over its longest beginning and end of
fixed-width parts without look-around (in an automaton context the whole
end after its last such part); look-around and atomic bodies are automaton
contexts again; a repetition other than `?` runs its body on the machine. -/
def Node.delegatesFit (hard : Bool) (n : Node) : Bool :=
  if !hard && !n.hard then runFits [n]
  else
    match n with
    | .concat items =>
      let easy := fun (m : Node) => m.fixedWidth?.isSome && !m.hard
      let front := (items.takeWhile easy).length
      let rest := items.drop front
      let back := (if hard then rest.reverse.takeWhile easy
        else rest.reverse.takeWhile fun m => !m.hard).length
      runFits (items.take front) && runFits (rest.drop (rest.length - back)) &&
        ((items.attach.drop front).take (rest.length - back)).all fun ⟨m, _⟩ => m.delegatesFit true
    | .alt bs => bs.attach.all fun ⟨m, _⟩ => m.delegatesFit hard
    | .group _ body => body.delegatesFit hard
    | .loop body lo hi _ => body.delegatesFit (!(lo == 0 && hi == some 1) || hard)
    | .look true _ (.alt bs) =>
      if (Node.alt bs).fixedWidth?.isNone then bs.attach.all fun ⟨m, _⟩ => m.delegatesFit false
      else (Node.alt bs).delegatesFit false
    | .look _ _ body => body.delegatesFit false
    | .atomic body => body.delegatesFit false
    | _ => true

/-- Whether a pattern tree is within the limits of the engines: a pattern
without look-around, back-references or atomic groups goes whole to the
automaton engine, unanchored unless it is anchored; any other is run by the
backtracking machine, which hands parts over. -/
def Node.fitsEngines (n : Node) : Bool :=
  if n.hard then n.delegatesFit true
  else !n.hasInvertedLoop && n.shape.fitsBoth

end Regex

end Attest
