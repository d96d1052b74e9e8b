import BrainfuckCompiler.Operator

/-!
# Matching brackets

A check of a whole source before anything is generated. It reports the first
closing bracket that closes nothing or, when there is none, the innermost
opening bracket that is never closed. Positions are byte offsets, comments
included.
-/
namespace BrainfuckCompiler.Brackets

inductive Imbalance where
  | unclosed (position : Nat)
  | unopened (position : Nat)
  deriving DecidableEq, Repr

/-- The check from offset `position` on, with the offsets of the brackets that
are open there, innermost first. -/
def checkFrom : Nat → List Nat → Bytes → Except Imbalance Unit
  | _, [], [] => .ok ()
  | _, innermost :: _, [] => .error (.unclosed innermost)
  | position, opened, b :: rest =>
      match Operator.ofByte? b, opened with
      | some .openLoop, _ => checkFrom (position + 1) (position :: opened) rest
      | some .closeLoop, [] => .error (.unopened position)
      | some .closeLoop, _ :: outer => checkFrom (position + 1) outer rest
      | _, _ => checkFrom (position + 1) opened rest

/-- Whether every bracket of the source has its partner. -/
def check (source : Bytes) : Except Imbalance Unit := checkFrom 0 [] source

end BrainfuckCompiler.Brackets
