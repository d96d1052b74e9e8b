import BrainfuckCompiler.Bytes

/-!
# Brainfuck operators

The language has eight operators of one byte each. Every other byte of a
source is a comment.
-/
namespace BrainfuckCompiler

inductive Operator where
  | right
  | left
  | increment
  | decrement
  | put
  | get
  | openLoop
  | closeLoop
  deriving DecidableEq, Repr

namespace Operator

/-- The byte that spells the operator. -/
def byte : Operator → UInt8
  | .right => 0x3e
  | .left => 0x3c
  | .increment => 0x2b
  | .decrement => 0x2d
  | .put => 0x2e
  | .get => 0x2c
  | .openLoop => 0x5b
  | .closeLoop => 0x5d

/-- The operator a source byte spells; none for a comment byte. -/
def ofByte? : UInt8 → Option Operator
  | 0x3e => some .right
  | 0x3c => some .left
  | 0x2b => some .increment
  | 0x2d => some .decrement
  | 0x2e => some .put
  | 0x2c => some .get
  | 0x5b => some .openLoop
  | 0x5d => some .closeLoop
  | _ => none

/-- Each operator is spelled by its byte and by no other. -/
theorem ofByte?_eq_some_iff (b : UInt8) (operator : Operator) :
    ofByte? b = some operator ↔ b = operator.byte := by
  constructor
  · intro h
    unfold ofByte? at h
    split at h <;> simp at h <;> subst h <;> rfl
  · rintro rfl
    cases operator <;> rfl

end Operator

/-- The operators of a source in order, comments left out. -/
def operators (source : Bytes) : List Operator := source.filterMap Operator.ofByte?

/-- Which kinds of stream a program touches: whether it reads input and
whether it writes output. -/
structure Usage where
  reads : Bool := false
  writes : Bool := false
  deriving DecidableEq, Repr

namespace Usage

/-- The usage after one more operator. -/
def add (usage : Usage) : Operator → Usage
  | .get => { usage with reads := true }
  | .put => { usage with writes := true }
  | _ => usage

/-- The usage of a whole source. -/
def ofSource (source : Bytes) : Usage := (operators source).foldl add {}

end Usage

end BrainfuckCompiler
