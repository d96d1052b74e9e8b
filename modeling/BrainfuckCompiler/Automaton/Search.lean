import Std.Data.HashMap
import BrainfuckCompiler.Automaton

/-!
# Searching with an automaton

A search goes through a text once and keeps the states that can be reached at each
position; it succeeds as soon as a match ends. What the states at a position lead
to depends on the states, the byte before and the byte after only, and the same
often comes again: the moves that have been worked out are remembered, up to a
limit, after which they are forgotten together.
-/
namespace BrainfuckCompiler.Automaton

/-- What a search knows before it looks at the next byte. -/
structure Configuration where
  /-- The byte before, if the automaton asks for places. -/
  before : Option UInt8
  /-- The states that the last byte led to. -/
  entered : List Nat
  deriving DecidableEq, Repr

/-- A number for a list of states, after `sum`. -/
def fingerprintFrom (sum : UInt64) : List Nat → UInt64
  | [] => sum
  | number :: rest => fingerprintFrom (sum * 1000003 + number.toUInt64) rest

/-- A number by which a configuration is found again. -/
def Configuration.fingerprint (configuration : Configuration) : UInt64 :=
  match configuration.before with
  | none => fingerprintFrom 1 configuration.entered
  | some b => fingerprintFrom (b.toUInt64 + 2) configuration.entered

/-- The configurations by number, and the moves between them that are known. -/
structure Memory where
  configurations : Array Configuration
  /-- The numbers of the configurations by their fingerprints. -/
  numbers : Std.HashMap UInt64 Nat
  moves : Std.HashMap (Nat × UInt8) Nat
  /-- How many states the configurations have together. -/
  weight : Nat

namespace Memory

/-- How many states are remembered. -/
def capacity : Nat := 1000000

/-- A memory of one configuration, with the number zero. -/
def fresh (configuration : Configuration) : Memory where
  configurations := #[configuration]
  numbers := Std.HashMap.ofList [(configuration.fingerprint, 0)]
  moves := ∅
  weight := configuration.entered.length

/-- The number of a configuration that is remembered. -/
def number? (memory : Memory) (fingerprint : UInt64) (configuration : Configuration) :
    Option Nat :=
  match memory.numbers[fingerprint]? with
  | some number => if memory.configurations[number]? = some configuration then some number else none
  | none => none

/-- Remembers that a byte leads from one configuration to another; gives the number
of the other. -/
def learn (memory : Memory) (number : Nat) (b : UInt8) (next : Configuration) : Nat × Memory :=
  let fingerprint := next.fingerprint
  match memory.number? fingerprint next with
  | some known => (known, { memory with moves := memory.moves.insert (number, b) known })
  | none =>
      let weight := memory.weight + next.entered.length
      if capacity < weight then (0, fresh next)
      else
        let added := memory.configurations.size
        (added,
          { configurations := memory.configurations.push next
            numbers := memory.numbers.insert fingerprint added
            moves := memory.moves.insert (number, b) added
            weight })

/-- The configuration with a number. -/
def configuration (memory : Memory) (number : Nat) : Configuration :=
  memory.configurations.getD number ⟨none, []⟩

end Memory

/-- Follows the states of a configuration at a position before `after`. -/
def reached (automaton : Automaton) (ways : Nat) (configuration : Configuration)
    (after : Option UInt8) (round : Nat) (visits : Array Nat) : Reached :=
  automaton.follow ⟨configuration.before, after⟩ round
    (ways + configuration.entered.length + 1) configuration.entered [] visits

/-- Searches what is left of a text from the configuration with a number. -/
def searchFrom (automaton : Automaton) (ways : Nat) (asksPlaces : Bool) (number : Nat)
    (memory : Memory) (round : Nat) (visits : Array Nat) : Bytes → Bool
  | [] => (automaton.reached ways (memory.configuration number) none round visits).finished
  | b :: rest =>
      match memory.moves[(number, b)]? with
      | some next => searchFrom automaton ways asksPlaces next memory round visits rest
      | none =>
          let found := automaton.reached ways (memory.configuration number) (some b) round visits
          found.finished
            || (let next : Configuration :=
                  ⟨if asksPlaces then some b else none, automaton.step b found.readers⟩
                let (nextNumber, memory) := memory.learn number b next
                searchFrom automaton ways asksPlaces nextNumber memory (round + 1) found.visits
                  rest)

/-- Whether a match is found in the text. -/
def searches (automaton : Automaton) (text : Bytes) : Bool :=
  automaton.searchFrom automaton.ways automaton.asksPlaces 0
    (Memory.fresh ⟨none, [automaton.start]⟩) 1 (Array.replicate automaton.states.size 0) text

end BrainfuckCompiler.Automaton
