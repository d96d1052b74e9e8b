import BrainfuckCompiler.Proofs.Machine
import BrainfuckCompiler.Settings
import Mathlib.Algebra.Group.Nat.Defs

/-!
# What a source means

The reference for the meaning of a source. A position stands between two operators
of the source, comments being left out. An opening bracket on a zero cell jumps
behind its partner, a closing bracket on a nonzero cell jumps back behind its own;
the partner is found by counting brackets, to the right or to the left, and nothing
is known about loops beyond that.

Cells hold numbers below two to the number of bits. The head may leave the tape;
only the use of a cell there has no meaning.
-/
namespace BrainfuckCompiler.Reference
open Machine

/-- All of a running program but its position. -/
structure State where
  cells : List Nat
  head : Int := 0
  input : Bytes
  output : Bytes := []

namespace State

/-- The cell under the head; none off the tape. -/
def cell? (state : State) : Option Nat :=
  if state.head < 0 then none else state.cells[state.head.toNat]?

/-- The state with another number under the head. -/
def write (state : State) (value : Nat) : State :=
  { state with cells := state.cells.set state.head.toNat value }

/-- Fetches a byte of input. At the end of the input the policy decides; a cell that
is kept is not used. -/
def fetch (settings : Settings) (state : State) : Option State :=
  match state.input, settings.endOfInput with
  | b :: rest, _ => state.cell?.map fun _ => { state.write b.toNat with input := rest }
  | [], .storeZero => state.cell?.map fun _ => state.write 0
  | [], .storeMinusOne => state.cell?.map fun _ => state.write (2 ^ settings.width.bits - 1)
  | [], .keepCell => some state

/-- The effect of an operator that is not a bracket. Brackets change nothing. -/
def apply (settings : Settings) (state : State) : Operator → Option State
  | .right => some { state with head := state.head + 1 }
  | .left => some { state with head := state.head - 1 }
  | .increment => state.cell?.map fun value => state.write ((value + 1) % 2 ^ settings.width.bits)
  | .decrement => state.cell?.map fun value =>
      state.write ((value + 2 ^ settings.width.bits - 1) % 2 ^ settings.width.bits)
  | .put => state.cell?.map fun value =>
      { state with output := state.output ++ [UInt8.ofNat (value % 256)] }
  | .get => state.fetch settings
  | .openLoop => some state
  | .closeLoop => some state

end State

/-- A place in the source: the operators behind it, nearest first, and those ahead. -/
structure Position where
  behind : List Operator
  ahead : List Operator

/-- Goes right, behind the bracket that closes the current loop, `depth` further
loops being open on the way. -/
def seekEnd : Nat → List Operator → List Operator → Option Position
  | _, _, [] => none
  | depth, behind, .openLoop :: ahead => seekEnd (depth + 1) (.openLoop :: behind) ahead
  | 0, behind, .closeLoop :: ahead => some ⟨.closeLoop :: behind, ahead⟩
  | depth + 1, behind, .closeLoop :: ahead => seekEnd depth (.closeLoop :: behind) ahead
  | depth, behind, operator :: ahead => seekEnd depth (operator :: behind) ahead

/-- Goes left, back to right behind the bracket that opens the current loop. -/
def seekStart : Nat → List Operator → List Operator → Option Position
  | _, [], _ => none
  | depth, .closeLoop :: behind, ahead => seekStart (depth + 1) behind (.closeLoop :: ahead)
  | 0, .openLoop :: behind, ahead => some ⟨.openLoop :: behind, ahead⟩
  | depth + 1, .openLoop :: behind, ahead => seekStart depth behind (.openLoop :: ahead)
  | depth, operator :: behind, ahead => seekStart depth behind (operator :: ahead)

structure Config where
  position : Position
  state : State

/-- One operator of the source. -/
def move (settings : Settings) : Config → Move Config
  | ⟨⟨_, []⟩, _⟩ => .finished
  | ⟨⟨behind, .openLoop :: ahead⟩, state⟩ => .ofOption <| state.cell?.bind fun value =>
      (if value = 0 then seekEnd 0 (.openLoop :: behind) ahead
        else some ⟨.openLoop :: behind, ahead⟩).map (⟨·, state⟩)
  | ⟨⟨behind, .closeLoop :: ahead⟩, state⟩ => .ofOption <| state.cell?.bind fun value =>
      (if value = 0 then some ⟨.closeLoop :: behind, ahead⟩
        else seekStart 0 behind (.closeLoop :: ahead)).map (⟨·, state⟩)
  | ⟨⟨behind, operator :: ahead⟩, state⟩ =>
      .ofOption ((state.apply settings operator).map (⟨⟨operator :: behind, ahead⟩, ·⟩))

/-- A source before its first operator, on a tape of zeros. -/
def start (settings : Settings) (source input : Bytes) : Config :=
  ⟨⟨[], operators source⟩, { cells := List.replicate settings.cells.toNat 0, input := input }⟩

end BrainfuckCompiler.Reference
