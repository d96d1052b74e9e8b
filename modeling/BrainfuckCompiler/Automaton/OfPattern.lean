import BrainfuckCompiler.Automaton.CharacterSet
import BrainfuckCompiler.Automaton.Words
import BrainfuckCompiler.Pattern
import BrainfuckCompiler.Utf8.Ranges

/-!
# The automaton of a pattern

Patterns become parts of an automaton, and repetitions with bounds are written out.
A pattern can be read forward or backward. Forward, the states before and after a
recorded group mark its ends; backward, groups are not recorded. An automaton
begins with states that pass over any text, unless the pattern only fits at the
edge of the text from which it is read.
-/
namespace BrainfuckCompiler.Drafting

/-- A fixed text. -/
def literal (backward : Bool) (text : List Char) : Drafting Part :=
  let bytes := text.flatMap fun c => Utf8.encode c.toNat
  chain ((if backward then bytes.reverse else bytes).map read)

/-- A part between two states that mark its ends. -/
def marked (part : Drafting Part) : Drafting Part := do
  let entry ← add (.pass 0)
  let inner ← part
  let exit ← add (.pass 0)
  connect entry inner.entry
  connect inner.exit exit
  return ⟨entry, exit⟩

/-- The bytes of parts that are all fixed texts, in the order of reading. -/
def texts? (backward : Bool) (parts : List Pattern) : Option (List Bytes) :=
  parts.mapM fun
    | .literal text =>
        let bytes := text.flatMap fun c => Utf8.encode c.toNat
        some (if backward then bytes.reverse else bytes)
    | _ => none

mutual

def ofPattern (backward : Bool) : Pattern → Drafting Part
  | .empty => pass
  | .literal text => literal backward text
  | .one set _ => characterSet backward set
  | .at place => single (.when place 0)
  | .repeated body least none _ =>
      atLeast (ofPattern backward body) (body.leastLength?.any (0 < ·)) least
  | .repeated body 0 (some 1) _ => optional (ofPattern backward body)
  | .repeated body least (some most) _ =>
      if least = most then exactly (ofPattern backward body) least
      else between (ofPattern backward body) least most
  | .recorded _ body =>
      if backward then ofPattern backward body else marked (ofPattern backward body)
  | .sequence parts =>
      let reversed := partsOnto backward [] parts
      chain (if backward then reversed else reversed.reverse)
  | .choice parts =>
      match texts? backward parts with
      | some texts => words texts
      | none => either (partsOnto backward [] parts).reverse

/-- The parts for several patterns, the last one first. -/
def partsOnto (backward : Bool) (drafted : List (Drafting Part)) :
    List Pattern → List (Drafting Part)
  | [] => drafted
  | pattern :: rest => partsOnto backward (ofPattern backward pattern :: drafted) rest

end

/-- The states that pass over any text. -/
def anyText : Drafting Part := anyTimes (byteSet [(0x00, 0xff)]) true

/-- The pattern from its start to a finished match, with what may come before. -/
def whole (backward : Bool) (pattern : Pattern) : Drafting Nat := do
  let edge : Place := if backward then .textEnd else .textStart
  let lead ← if pattern.binds edge backward then pass else anyText
  let body ←
    if backward then ofPattern backward pattern else marked (ofPattern backward pattern)
  let finish ← add .finish
  connect body.exit finish
  connect lead.exit body.entry
  return lead.entry

end BrainfuckCompiler.Drafting

namespace BrainfuckCompiler

/-- The automaton that reads a pattern, if it is not too large. -/
def Automaton.ofPattern? (backward : Bool) (pattern : Pattern) : Option Automaton :=
  match (Drafting.whole backward pattern).run {} with
  | some (start, draft) => some ⟨draft.states, start⟩
  | none => none

end BrainfuckCompiler
