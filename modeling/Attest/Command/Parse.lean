import Attest.Command.Options
import Attest.Command.Similarity

/-!
# Reading a command line

The words of a command line are read left to right.

* `--name` and `--name=value` name an option by its long name; `-abc` is a
  cluster of short names, and the first one that takes a value takes the
  rest of the cluster, after an optional `=`, as its value.
* An option that takes a value and was not given one in its own word takes
  the next plain word.  It is settled, its value checked, when the next
  option occurs or the words end.
* After `--` every word is plain.
* At the top, a subcommand's name ends the program's own words; the rest
  belong to the subcommand, and `help` shows the help of the subcommands
  named after it.

Asking for help or the version, and breaking a rule, stop the reading with a
`Halt`.
-/

namespace Attest

/-- What the command line gave an option. -/
inductive Given where
  /-- The option's value. -/
  | value (v : String)
  /-- A switch that was given. -/
  | flag
  /-- How often a counted option was given. -/
  | count (n : Nat)
  deriving DecidableEq, Repr

/-- The options given to one command, by long name, in the order they were
last given. -/
abbrev Matches := List (String × Given)

namespace Matches

/-- Whether an option was given. -/
def has (g : Matches) (name : String) : Bool := g.any (·.1 == name)

/-- Record an occurrence, moving the option to the end. -/
def record (g : Matches) (name : String) (v : Given) : Matches :=
  g.filter (·.1 != name) ++ [(name, v)]

/-- The value given to an option. -/
def value? (g : Matches) (name : String) : Option String :=
  match g.lookup name with
  | some (.value v) => some v
  | _ => none

/-- How often a counted option was given. -/
def count (g : Matches) (name : String) : Nat :=
  match g.lookup name with
  | some (.count n) => n
  | _ => 0

end Matches

/-- A command line that runs nothing. -/
inductive Halt where
  /-- Help or the version was asked for: the text goes to standard output. -/
  | shown (text : String)
  /-- The command line was empty: the help text goes to standard error. -/
  | prompted (text : String)
  /-- The command line breaks a rule. -/
  | refused (e : UsageError)
  deriving DecidableEq, Repr

/-- The text a halt writes. -/
def Halt.text : Halt → String
  | .shown t => t
  | .prompted t => t
  | .refused e => e.text

/-- The state of reading the words of one command. -/
structure Reading where
  given : Matches
  /-- An option waiting for its value, and the value once read. -/
  pending : Option (OptionSpec × Option String)
  /-- Whether `--` was read. -/
  escaped : Bool

namespace Reading

/-- Nothing read yet. -/
def start : Reading := ⟨[], none, false⟩

/-- Give an option one occurrence with the values written with it. -/
def apply (c : CommandSpec) (o : OptionSpec) (values : List String) (r : Reading) :
    Except Halt Reading :=
  match o.action with
  | .value _ =>
    match values with
    | [] => throw (.refused (.noValue o.display))
    | v :: _ =>
      if r.given.has o.long then throw (.refused (.repeated o.display c.usage))
      else
        match o.check v with
        | some .empty => throw (.refused (.noValue o.display))
        | some (.invalid reason) => throw (.refused (.invalidValue o.display v reason))
        | none => pure { r with given := r.given.record o.long (.value v) }
  | .flag =>
    if r.given.has o.long then throw (.refused (.repeated o.display c.usage))
    else pure { r with given := r.given.record o.long .flag }
  | .count => pure { r with given := r.given.record o.long (.count (min 255 (r.given.count o.long + 1))) }
  | .help => throw (.shown c.helpText)
  | .version => throw (.shown (c.name ++ " " ++ programVersion ++ "\n"))

/-- Settle the option waiting for its value. -/
def settle (c : CommandSpec) (r : Reading) : Except Halt Reading :=
  match r.pending with
  | none => pure r
  | some (o, v) => apply c o v.toList { r with pending := none }

/-- Settle the waiting option on the way to reporting another error: an
option without a value is dropped, a repeated one is forgotten, and one with
a refused value still counts as given. -/
def settleQuietly (c : CommandSpec) (r : Reading) : Reading :=
  match r.pending with
  | none => r
  | some (o, v) =>
    let r := { r with pending := none }
    match apply c o v.toList r, v with
    | .ok r', _ => r'
    | .error _, none => r
    | .error _, some _ =>
      if r.given.has o.long then { r with given := r.given.filter (·.1 != o.long) }
      else { r with given := r.given.record o.long (.value "") }

/-- The names of the options given. -/
def used (r : Reading) : List String := r.given.map (·.1)

end Reading

namespace CommandSpec

/-- The long names of a command's options. -/
def longNames (c : CommandSpec) : List String := c.options.map (·.long)

/-- The error for an unknown long option: a similar option of this command,
or else of the subcommand that comes first among the words after it. -/
def unknownLong (c : CommandSpec) (subs : List (String × CommandSpec)) (name : String)
    (r : Reading) (rest : List String) : UsageError :=
  match Similarity.closest? name c.longNames with
  | some s =>
    let used := if r.used.contains s then r.used else r.used ++ [s]
    .unexpected ("--" ++ name) (some ("--" ++ s)) none (c.usageWith used)
  | none =>
    let inSub := subs.filterMap fun (subName, spec) =>
      match Similarity.closest? name spec.longNames, rest.idxOf? subName with
      | some s, some i => some (i, s, subName)
      | _, _ => none
    let best := inSub.foldl (fun acc x =>
      match acc with
      | some y => if x.1 < y.1 then some x else some y
      | none => some x) none
    match best with
    | some (_, s, subName) => .unexpected ("--" ++ name) (some ("--" ++ s)) (some subName) (c.usageWith r.used)
    | none => .unexpected ("--" ++ name) none none (c.usageWith r.used)

/-- The error for a plain word that no option takes. -/
def strayWord (c : CommandSpec) (w : String) (escaped : Bool) : UsageError :=
  if c.subcommands.isEmpty then .unexpected w none none c.usage
  else
    let names := c.subcommands.map (·.1)
    if escaped && names.contains w then .escapedSubcommand w c.usage
    else .unknownSubcommand w (Similarity.close w names) c.usage

/-- The text after the first `=` of a word, and the part before it. -/
def splitAttached (body : String) : String × Option String :=
  match body.splitOn "=" with
  | n :: v :: more => (n, some ("=".intercalate (v :: more)))
  | _ => (body, none)

/-- Read a cluster of short names. -/
def readCluster (c : CommandSpec) : List Char → Reading → Except Halt Reading
  | [], r => pure r
  | ch :: more, r =>
    match c.findShort? ch with
    | none => throw (.refused (.unexpected ("-" ++ ch.toString) none none c.usage))
    | some o =>
      if !o.takesValue then do
        let r ← r.settle c
        let r ← r.apply c o []
        readCluster c more r
      else if more.isEmpty then do
        let r ← r.settle c
        pure { r with pending := some (o, none) }
      else
        let v := match more with
          | '=' :: vs => vs
          | vs => vs
        do
          let r ← r.settle c
          r.apply c o [String.ofList v]

/-- Read the words of a command.  Gives the reading and, when a subcommand's
name came, that name and the words after it. -/
def readWords (c : CommandSpec) (subs : List (String × CommandSpec)) :
    List String → Reading → Except Halt (Reading × Option (String × List String))
  | [], r => do return (← r.settle c, none)
  | w :: rest, r =>
    if !r.escaped && c.subcommands.any (·.1 == w) then pure (r, some (w, rest))
    else if !r.escaped && w == "--" then readWords c subs rest { r with escaped := true }
    else if !r.escaped && w.startsWith "--" then
      let (name, attached) := splitAttached (String.ofList (w.toList.drop 2))
      match c.findLong? name with
      | none => throw (.refused (c.unknownLong subs name (r.settleQuietly c) rest))
      | some o =>
        if o.takesValue then
          match attached with
          | some v => do
            let r ← r.settle c
            let r ← r.apply c o [v]
            readWords c subs rest r
          | none => do
            let r ← r.settle c
            readWords c subs rest { r with pending := some (o, none) }
        else
          match attached with
          | some v => throw (.refused (.extraValue v o.display (c.usageWith (r.used ++ [o.long]))))
          | none => do
            let r ← r.settle c
            let r ← r.apply c o []
            readWords c subs rest r
    else if !r.escaped && w.startsWith "-" && w.length > 1 then do
      let r ← readCluster c (w.toList.drop 1) r
      readWords c subs rest r
    else
      match r.pending with
      | some (o, none) =>
        if r.escaped then throw (.refused (c.strayWord w r.escaped))
        else readWords c subs rest { r with pending := some (o, some w) }
      | _ => throw (.refused (c.strayWord w r.escaped))

/-- Check that every required option was given. -/
def checkRequired (c : CommandSpec) (r : Reading) : Except Halt Matches :=
  let missing := c.requiredOptions.filter fun o => !r.given.has o.long
  if missing.isEmpty then pure r.given
  else throw (.refused (.missing (missing.map (·.display)) (c.usageWith (r.used ++ missing.map (·.long)))))

/-- Read the words of a command without subcommands. -/
def readLeaf (c : CommandSpec) (words : List String) : Except Halt Matches := do
  let (r, _) ← c.readWords [] words Reading.start
  c.checkRequired r

end CommandSpec

end Attest
