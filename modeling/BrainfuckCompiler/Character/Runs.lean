/-!
# Sets of code points

A set of code points is kept as its runs: the first and the last member of each
stretch of neighbours, in increasing order. Joining two sets sorts their runs and
melts those that touch, so that a set has one form only.
-/
namespace BrainfuckCompiler.Character

/-- First and last code point of each run, in increasing order. -/
abbrev Runs := List (Nat × Nat)

namespace Runs

/-- The largest code point. -/
def top : Nat := 0x10ffff

def contains (runs : Runs) (code : Nat) : Bool :=
  runs.any fun (first, last) => first ≤ code && code ≤ last

/-- Melts runs that touch; they come in the order of their first members. -/
def melt : Runs → Runs
  | [] => []
  | [run] => [run]
  | (first, last) :: (low, high) :: rest =>
      if last + 1 < low then (first, last) :: melt ((low, high) :: rest)
      else melt ((first, max last high) :: rest)
termination_by runs => runs.length

/-- The set of the members of some runs in any order. -/
def ofList (runs : List (Nat × Nat)) : Runs :=
  melt (runs.mergeSort fun left right => left.1 ≤ right.1)

def union (left right : Runs) : Runs := ofList (left ++ right)

/-- The character before another one. There is none from U+D800 to U+DFFF. -/
def before (code : Nat) : Nat := if code = 0xe000 then 0xd7ff else code - 1

/-- The character after another one. -/
def after (code : Nat) : Nat := if code = 0xd7ff then 0xe000 else code + 1

/-- The run between two characters, whichever comes first. -/
def between (first last : Nat) : Nat × Nat := (min first last, max first last)

/-- What lies outside the runs and after `last`. A gap goes from the character
after one run to the character before the next. -/
def gapsAfter (last : Nat) : Runs → Runs
  | [] => if last < top then [(after last, top)] else []
  | (low, high) :: rest => between (after last) (before low) :: gapsAfter high rest

def complement : Runs → Runs
  | [] => [(0, top)]
  | (first, last) :: rest =>
      (if 0 < first then [(0, before first)] else []) ++ gapsAfter last rest

def intersection : Runs → Runs → Runs
  | [], _ => []
  | _, [] => []
  | (first, last) :: left, (low, high) :: right =>
      (if max first low ≤ min last high then [(max first low, min last high)] else [])
        ++ if last < high then intersection left ((low, high) :: right)
          else intersection ((first, last) :: left) right
termination_by left right => left.length + right.length

/-- The members of the first set that are not in the second. -/
def difference : Runs → Runs → Runs
  | [], _ => []
  | left, [] => left
  | (first, last) :: left, (low, high) :: right =>
      if last < low then (first, last) :: difference left ((low, high) :: right)
      else if high < first then difference ((first, last) :: left) right
      else
        (if first < low then [(first, before low)] else [])
          ++ if high < last then difference ((after high, last) :: left) right
            else difference left ((low, high) :: right)
termination_by left right => left.length + right.length

end Runs

end BrainfuckCompiler.Character
