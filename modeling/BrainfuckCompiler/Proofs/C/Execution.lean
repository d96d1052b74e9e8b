import BrainfuckCompiler.Proofs.C.Syntax
import BrainfuckCompiler.Proofs.Machine
import Mathlib.Algebra.Group.Nat.Defs

/-!
# A fragment of C: execution

The plain meaning of the fragment. The cells are unsigned numbers of `w` bits, the
pointer is an index into them, and the character fetched last is an integer: a byte
of the input, or minus one at its end. A cell is used only inside the array;
elsewhere the behaviour is undefined. A loop tests the cell under the pointer before
each round.
-/
namespace BrainfuckCompiler.C
open Machine

structure Store (w : Nat) where
  cells : List (BitVec w)
  pointer : Int := 0
  ch : Int
  input : Bytes
  output : Bytes := []

/-- What fetching a character gives at the end of the input. -/
def endOfFile : Int := -1

namespace Store
variable {w : Nat}

/-- The cell under the pointer; none outside the array. -/
def cell? (store : Store w) : Option (BitVec w) :=
  if store.pointer < 0 then none else store.cells[store.pointer.toNat]?

def write (store : Store w) (value : BitVec w) : Store w :=
  { store with cells := store.cells.set store.pointer.toNat value }

/-- The store after a character has been fetched. -/
def fetch (store : Store w) : Store w :=
  match store.input with
  | [] => { store with ch := endOfFile }
  | b :: rest => { store with ch := b.toNat, input := rest }

end Store

/-- The effect of a statement. A cast keeps the lower bits, and output is a byte. -/
def Action.run {w : Nat} (store : Store w) : Action → Option (Store w)
  | .increment => store.cell?.map fun value => store.write (value + 1)
  | .decrement => store.cell?.map fun value => store.write (value - 1)
  | .advance => some { store with pointer := store.pointer + 1 }
  | .retreat => some { store with pointer := store.pointer - 1 }
  | .fetch => some store.fetch
  | .clear => some { store with ch := 0 }
  | .store => store.cell?.map fun _ => store.write (BitVec.ofInt w store.ch)
  | .put => store.cell?.map fun value =>
      { store with output := store.output ++ [UInt8.ofNat (value.toNat % 256)] }
  | .flush => some store

def Condition.holds (ch : Int) : Condition → Bool
  | .always => true
  | .atEnd => ch = endOfFile
  | .notAtEnd => ch ≠ endOfFile

/-- The statements that are still to be executed, and the store. -/
structure Config (w : Nat) where
  todo : List Code
  store : Store w

/-- One statement, or one test of a loop. -/
def move {w : Nat} : Config w → Move (Config w)
  | ⟨[], _⟩ => .finished
  | ⟨.act condition action :: rest, store⟩ =>
      if condition.holds store.ch then .ofOption ((action.run store).map (⟨rest, ·⟩))
      else .next ⟨rest, store⟩
  | ⟨.loop body :: rest, store⟩ =>
      .ofOption (store.cell?.map fun value =>
        ⟨if value = 0 then rest else body ++ .loop body :: rest, store⟩)

/-- Code on an array of zeros; the character is not set yet. -/
def start (w count : Nat) (code : List Code) (input : Bytes) (ch : Int) : Config w :=
  ⟨code, { cells := List.replicate count 0, ch := ch, input := input }⟩

end BrainfuckCompiler.C
