import BrainfuckCompiler.Character.Runs

/-!
# The members of a class

While a class is put together, its set of characters carries along whether it is
known to be the same in both cases. Of a set that was written down this is not
known; it is known of the empty set, of the set of all characters that is made
from it, and of what set operations make of such sets.
-/
namespace BrainfuckCompiler.Pattern

open Character (Runs)

structure Members where
  runs : Runs
  /-- Known to be the same in both cases. -/
  caseless : Bool
  deriving DecidableEq, Repr

namespace Members

def none : Members := ⟨[], true⟩

/-- The members of a set that was written down. -/
def ofRuns (runs : Runs) : Members := ⟨runs, runs = []⟩

def union (left right : Members) : Members :=
  if right.runs = [] ∨ left.runs = right.runs then left
  else ⟨left.runs.union right.runs, left.caseless && right.caseless⟩

def intersection (left right : Members) : Members :=
  if left.runs = [] then left
  else if right.runs = [] then none
  else ⟨left.runs.intersection right.runs, left.caseless && right.caseless⟩

def difference (left right : Members) : Members :=
  if left.runs = [] ∨ right.runs = [] then left
  else ⟨left.runs.difference right.runs, left.caseless && right.caseless⟩

def symmetricDifference (left right : Members) : Members :=
  (left.union right).difference (left.intersection right)

def complement (members : Members) : Members :=
  if members.runs = [] then ⟨Runs.complement [], true⟩
  else ⟨members.runs.complement, members.caseless⟩

/-- The members with some more runs, which were written down. -/
def add (runs : List (Nat × Nat)) (members : Members) : Members :=
  if runs = [] then members else ⟨Runs.ofList (runs ++ members.runs), false⟩

end Members

end BrainfuckCompiler.Pattern
