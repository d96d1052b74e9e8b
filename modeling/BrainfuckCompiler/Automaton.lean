import BrainfuckCompiler.Place

/-!
# Automata that read bytes

An automaton has numbered states. A state reads a byte, or goes on without
reading, or finishes a match. Matches begin and end between characters, and so do
the places that a state can ask for.
-/
namespace BrainfuckCompiler

/-- A way out of a state that reads: one of the bytes from `first` to `last` leads
to the state `next`. -/
structure Exit where
  first : UInt8
  last : UInt8
  next : Nat
  deriving DecidableEq, Repr

def Exit.takes (exit : Exit) (b : UInt8) : Bool := exit.first ≤ b && b ≤ exit.last

inductive State where
  /-- Goes on. -/
  | pass (next : Nat)
  /-- Goes on at a place only. -/
  | when (place : Place) (next : Nat)
  /-- Goes on in several ways. -/
  | fork (targets : Array Nat)
  /-- Reads a byte out of one range. -/
  | read (exit : Exit)
  /-- Reads a byte out of one of several ranges. -/
  | select (exits : List Exit)
  | finish
  deriving DecidableEq, Repr

structure Automaton where
  states : Array State
  start : Nat
  deriving DecidableEq, Repr

namespace State

/-- How many states can follow without reading. -/
def forkCount : State → Nat
  | .pass _ => 1
  | .when _ _ => 1
  | .fork targets => targets.size
  | _ => 0

/-- The state to which a byte leads, if there is one, before the states `entered`. -/
def onto (b : UInt8) (entered : List Nat) : List Exit → List Nat
  | [] => entered
  | exit :: rest => if exit.takes b then exit.next :: entered else onto b entered rest

end State

namespace Automaton

/-- How large an automaton may become, in bytes. -/
def sizeLimit : Nat := 10485760

/-- The state that a way to `number` leads to, past some states that only go on. -/
def past (states : Array State) : Nat → Nat → Nat
  | 0, number => number
  | hops + 1, number =>
      match states[number]? with
      | some (.pass next) => past states hops next
      | _ => number

/-- The same automaton with shorter ways: where a way leads to a state that only
goes on, it leads to where that goes. -/
def shortened (automaton : Automaton) : Automaton :=
  let target := past automaton.states 8
  let shorten : State → State
    | .pass next => .pass (target next)
    | .when place next => .when place (target next)
    | .fork targets => .fork (targets.map target)
    | .read exit => .read { exit with next := target exit.next }
    | .select exits => .select (exits.map fun exit => { exit with next := target exit.next })
    | .finish => .finish
  { automaton with states := automaton.states.map shorten }

/-- How many states can follow without reading, over all states. -/
def ways (automaton : Automaton) : Nat :=
  automaton.states.foldl (fun sum state => sum + state.forkCount) 0

/-- Whether a state asks for a place. -/
def asksPlaces (automaton : Automaton) : Bool :=
  automaton.states.any fun
    | .when _ _ => true
    | _ => false

/-- What follows from some states without reading. -/
structure Reached where
  /-- The states that read what comes next, latest first. -/
  readers : List Nat
  /-- For each state in which round it was last reached. -/
  visits : Array Nat
  /-- A match ends here. -/
  finished : Bool := false

/-- Follows the states on the stack without reading. Every state is followed once
in a round, so the number of ways out of all states bounds the number of steps. -/
def follow (automaton : Automaton) (around : Surroundings) (round : Nat) :
    Nat → List Nat → List Nat → Array Nat → Reached
  | 0, _, readers, visits => { readers, visits }
  | _, [], readers, visits => { readers, visits }
  | fuel + 1, number :: stack, readers, visits =>
      if visits.getD number 0 = round then
        follow automaton around round fuel stack readers visits
      else
        let visits := visits.setIfInBounds number round
        match automaton.states.getD number (.fork #[]) with
        | .pass next => follow automaton around round fuel (next :: stack) readers visits
        | .when place next =>
            if place.holds around && !around.insideCharacter then
              follow automaton around round fuel (next :: stack) readers visits
            else follow automaton around round fuel stack readers visits
        | .fork targets =>
            follow automaton around round fuel (targets.foldr List.cons stack) readers visits
        | .read _ => follow automaton around round fuel stack (number :: readers) visits
        | .select _ => follow automaton around round fuel stack (number :: readers) visits
        | .finish =>
            if around.insideCharacter then follow automaton around round fuel stack readers visits
            else { readers, visits, finished := true }

/-- The states after reading a byte, in the order in which they were reached. -/
def step (automaton : Automaton) (b : UInt8) (readers : List Nat) : List Nat :=
  readers.foldl
    (fun entered number =>
      match automaton.states.getD number .finish with
      | .read exit => if exit.takes b then exit.next :: entered else entered
      | .select exits => State.onto b entered exits
      | _ => entered)
    []

end Automaton

end BrainfuckCompiler
