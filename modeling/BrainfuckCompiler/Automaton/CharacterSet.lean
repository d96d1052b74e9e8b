import Std.Data.HashMap
import BrainfuckCompiler.Automaton.Draft
import BrainfuckCompiler.Character.Runs
import BrainfuckCompiler.Utf8.Ranges

/-!
# Parts that read one character

A set of ASCII characters is read by one state. For other sets the byte ranges of
their characters are arranged in a tree. Parts of the tree that lead the same way
are shared: forward, nodes with the same ways out, and backward, states that read
the same range from the same state. What can be shared is kept in a table with a
fixed number of slots, where a newer entry takes the slot of an older one.
-/
namespace BrainfuckCompiler.Drafting

open Character (Runs)

/-- One state for a set of bytes. -/
def byteSet (set : Runs) : Drafting Part := do
  let exit ← add (.pass 0)
  let exits := set.map fun (first, last) => Exit.mk first.toUInt8 last.toUInt8 exit
  let entry ← add (.select exits)
  return ⟨entry, exit⟩

/-- The byte ranges of all characters of a set. -/
def sequences (set : Runs) : List (List ByteRange) :=
  set.flatMap fun (first, last) => Utf8.ranges first last

/-- The slot of a key of several numbers. -/
def slot (slots : UInt64) (key : List Nat) : UInt64 :=
  key.foldl (fun hash number => (hash ^^^ number.toUInt64) * 1099511628211) 14695981039346656037
    % slots

/-- The entries by their slots: each has a key and the number of a state. -/
abbrev Table := Std.HashMap UInt64 (List Nat × Nat)

/-- The state under a key, unless its slot was taken by another one. -/
def stateOf? (table : Table) (place : UInt64) (key : List Nat) : Option Nat :=
  match table[place]? with
  | some (held, state) => if held = key then some state else none
  | none => none

/-- The state with these ways out, which is only added if it is not in the table. -/
def sharedNode (table : Table) (exits : List Exit) : Drafting (Nat × Table) := do
  let key := exits.flatMap fun exit => [exit.first.toNat, exit.last.toNat, exit.next]
  let place := slot 10000 key
  match stateOf? table place key with
  | some state => return (state, table)
  | none => do
      let state ← add (.select exits)
      return (state, table.insert place (key, state))

/-- The ways out for groups of sequences that begin with the same range; `node`
makes the node for what is left of them. -/
def treeExits (node : List (List ByteRange) → Table → Drafting (Nat × Table)) (exit : Nat) :
    List (List (List ByteRange)) → List Exit → Table → Drafting (List Exit × Table)
  | [], exits, table => return (exits.reverse, table)
  | group :: rest, exits, table =>
      match group.head?.bind List.head? with
      | none => treeExits node exit rest exits table
      | some range => do
          let tails := group.map List.tail
          let (next, table) ←
            if tails.all List.isEmpty then pure (exit, table) else node tails table
          treeExits node exit rest (⟨range.first, range.last, next⟩ :: exits) table

/-- The node for some sequences, of at most `depth` ranges, that end at `exit`. -/
def treeNode (exit : Nat) : Nat → List (List ByteRange) → Table → Drafting (Nat × Table)
  | 0, _, table => return (exit, table)
  | depth + 1, sequences, table => do
      let groups := sequences.splitBy fun left right => left.head? == right.head?
      let (exits, table) ← treeExits (treeNode exit depth) exit groups [] table
      sharedNode table exits

/-- A tree for a set of characters, from the first byte to the last. -/
def forwardSet (set : Runs) : Drafting Part := do
  let exit ← add (.pass 0)
  let (entry, _) ← treeNode exit 4 (sequences set) ∅
  return ⟨entry, exit⟩

/-- The states that read a sequence from its last byte to its first and then go
on to `next`. -/
def backwardSequence : Nat → List ByteRange → Table → Drafting (Nat × Table)
  | next, [], table => return (next, table)
  | next, range :: rest, table => do
      let key := [next, range.first.toNat, range.last.toNat]
      let place := slot 1000 key
      match stateOf? table place key with
      | some state => backwardSequence state rest table
      | none => do
          let state ← add (.read ⟨range.first, range.last, next⟩)
          backwardSequence state rest (table.insert place (key, state))

/-- The sequences as alternatives of a fork. -/
def backwardSequences (choice exit : Nat) :
    List (List ByteRange) → Table → Drafting Unit
  | [], _ => return ()
  | sequence :: rest, table => do
      let (entry, table) ← backwardSequence exit sequence table
      connect choice entry
      backwardSequences choice exit rest table

/-- A choice between the byte sequences of a set, from the last byte to the first. -/
def backwardSet (set : Runs) : Drafting Part := do
  let choice ← fork
  let exit ← add (.pass 0)
  backwardSequences choice exit (sequences set) ∅
  return ⟨choice, exit⟩

def isAscii (set : Runs) : Bool := set.all fun run => run.2 < 0x80

/-- A part that reads one character of a set. -/
def characterSet (backward : Bool) (set : Runs) : Drafting Part :=
  if isAscii set then byteSet set
  else if backward then backwardSet set
  else forwardSet set

end BrainfuckCompiler.Drafting
