import BrainfuckCompiler.Automaton

/-!
# Drafts of automata

An automaton is drafted state by state. The states have a size, and the draft is
given up as soon as they are larger together than the limit, so that no pattern
makes for more work than a limited automaton does. Parts of an automaton have one
way in and one way out; a part is finished when its way out is connected.
-/
namespace BrainfuckCompiler

/-- The size in bytes that every state has. -/
def State.baseSize : Nat := 32

/-- The size of one more way out of a state that reads. -/
def State.exitSize : Nat := 8

/-- The size of one more way out of a fork. -/
def State.targetSize : Nat := 4

def State.size : State → Nat
  | .fork targets => baseSize + targets.size * targetSize
  | .select exits => baseSize + exits.length * exitSize
  | _ => baseSize

/-- The states so far, and their size. -/
structure Draft where
  states : Array State := #[]
  size : Nat := 0

/-- A step of a draft, which fails when the limit is exceeded. -/
abbrev Drafting := StateT Draft Option

/-- A part of an automaton. -/
structure Part where
  entry : Nat
  exit : Nat
  deriving DecidableEq, Repr

namespace Drafting

/-- One more state; it has the next number. -/
def add (state : State) : Drafting Nat := fun draft =>
  let size := draft.size + state.size
  if size ≤ Automaton.sizeLimit then some (draft.states.size, { states := draft.states.push state, size })
  else none

/-- One more way out. -/
def connectState (target : Nat) : State → State
  | .pass _ => .pass target
  | .when place _ => .when place target
  | .fork targets => .fork (targets.push target)
  | .read exit => .read { exit with next := target }
  | state => state

def isFork : State → Bool
  | .fork _ => true
  | _ => false

/-- The size of a draft after one more way out of a state. Only a fork grows. -/
def grownSize (draft : Draft) (source : Nat) : Nat :=
  if (draft.states[source]?).any isFork then draft.size + State.targetSize else draft.size

/-- Leads the way out of one state to another. -/
def connect (source target : Nat) : Drafting Unit := fun draft =>
  let size := grownSize draft source
  if size ≤ Automaton.sizeLimit then
    some ((), { states := draft.states.modify source (connectState target), size })
  else none

/-- A state as a part. -/
def single (state : State) : Drafting Part := do
  let number ← add state
  return ⟨number, number⟩

def pass : Drafting Part := single (.pass 0)

def fork : Drafting Nat := add (.fork #[])

/-- A state that reads one byte. -/
def read (b : UInt8) : Drafting Part := single (.read ⟨b, b, 0⟩)

/-- The parts after the first of a chain, whose way out is `exit`. -/
def chainFrom (entry : Nat) : Nat → List (Drafting Part) → Drafting Part
  | exit, [] => return ⟨entry, exit⟩
  | exit, part :: rest => do
      let next ← part
      connect exit next.entry
      chainFrom entry next.exit rest

/-- Parts one after the other. -/
def chain : List (Drafting Part) → Drafting Part
  | [] => pass
  | part :: rest => do
      let first ← part
      chainFrom first.entry first.exit rest

/-- As many more times, after a part whose way out is `exit`. -/
def repeatFrom (part : Drafting Part) (entry : Nat) : Nat → Nat → Drafting Part
  | exit, 0 => return ⟨entry, exit⟩
  | exit, count + 1 => do
      let next ← part
      connect exit next.entry
      repeatFrom part entry next.exit count

/-- The part a number of times. -/
def exactly (part : Drafting Part) : Nat → Drafting Part
  | 0 => pass
  | count + 1 => do
      let first ← part
      repeatFrom part first.entry first.exit count

/-- The part or nothing. -/
def optional (part : Drafting Part) : Drafting Part := do
  let choice ← fork
  let inner ← part
  let exit ← add (.pass 0)
  connect choice inner.entry
  connect choice exit
  connect inner.exit exit
  return ⟨choice, exit⟩

/-- The part any number of times. A part that can be passed without reading is
either left out, or entered and repeated. -/
def anyTimes (part : Drafting Part) (alwaysReads : Bool) : Drafting Part := do
  if alwaysReads then
    let loop ← fork
    let inner ← part
    connect loop inner.entry
    connect inner.exit loop
    return ⟨loop, loop⟩
  else
    let inner ← part
    let again ← fork
    connect inner.exit again
    connect again inner.entry
    let choice ← fork
    let exit ← add (.pass 0)
    connect choice inner.entry
    connect choice exit
    connect again exit
    return ⟨choice, exit⟩

/-- The part once or more. -/
def oneOrMore (part : Drafting Part) : Drafting Part := do
  let inner ← part
  let again ← fork
  connect inner.exit again
  connect again inner.entry
  return ⟨inner.entry, again⟩

/-- The part at least a number of times. -/
def atLeast (part : Drafting Part) (alwaysReads : Bool) : Nat → Drafting Part
  | 0 => anyTimes part alwaysReads
  | 1 => oneOrMore part
  | count + 1 => do
      let first ← exactly part count
      let last ← oneOrMore part
      connect first.exit last.entry
      return ⟨first.entry, last.exit⟩

/-- As many more times or fewer, after a part whose way out is `source`. -/
def upTo (part : Drafting Part) (exit : Nat) : Nat → Nat → Drafting Unit
  | source, 0 => connect source exit
  | source, count + 1 => do
      let choice ← fork
      let inner ← part
      connect source choice
      connect choice inner.entry
      connect choice exit
      upTo part exit inner.exit count

/-- The part a number of times within bounds. -/
def between (part : Drafting Part) (least most : Nat) : Drafting Part := do
  let first ← exactly part least
  let exit ← add (.pass 0)
  upTo part exit first.exit (most - least)
  return ⟨first.entry, exit⟩

/-- More alternatives of a choice. -/
def alternatives (choice exit : Nat) : List (Drafting Part) → Drafting Part
  | [] => return ⟨choice, exit⟩
  | part :: rest => do
      let inner ← part
      connect choice inner.entry
      connect inner.exit exit
      alternatives choice exit rest

/-- One of several parts. -/
def either : List (Drafting Part) → Drafting Part
  | [] => pass
  | [part] => part
  | first :: second :: rest => do
      let one ← first
      let other ← second
      let choice ← fork
      let exit ← add (.pass 0)
      connect choice one.entry
      connect one.exit exit
      connect choice other.entry
      connect other.exit exit
      alternatives choice exit rest

end Drafting

end BrainfuckCompiler
