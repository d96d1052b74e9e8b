import BrainfuckCompiler.Automaton.OfPattern
import BrainfuckCompiler.Pattern.Meaning

/-!
# The automaton of a written pattern

A written pattern is refused if it cannot be read, if its automaton becomes too
large, or if it needs tables of scripts, in this order. The limit holds for the
automaton that reads backward as well.
-/
namespace BrainfuckCompiler.Automaton

/-- The automaton that searches for a written pattern. -/
def ofText (text : List Char) : Except Pattern.Complaint Automaton := do
  let pattern ← Pattern.read text
  match ofPattern? false pattern with
  | none => throw .tooLarge
  | some automaton =>
      if pattern.needsScripts then throw .unavailable
      if (ofPattern? true pattern).isNone then throw .tooLarge
      return automaton.shortened

end BrainfuckCompiler.Automaton
