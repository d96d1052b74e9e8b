import BrainfuckCompiler.Automaton.Draft

/-!
# Parts that read one of several words

Words are read along a tree, so that words with the same beginning share states.
A word that ends inside of the tree divides the words after it from those before
it: they begin a tree of their own at this node, since the earlier of two words
that fit is preferred.
-/
namespace BrainfuckCompiler.Drafting

/-- The bytes with which all words begin, latest first and before `shared`, and
what is left of the words. The words have at most `depth` bytes. -/
def commonStart (shared : Bytes) : Nat → List Bytes → Bytes × List Bytes
  | 0, words => (shared, words)
  | depth + 1, words =>
      match words with
      | (b :: _) :: _ =>
          if words.all fun word => word.head? == some b then
            commonStart (b :: shared) depth (words.map List.tail)
          else (shared, words)
      | _ => (shared, words)

/-- The words up to the next end of a word, and so on; `current` are those since
the last one, latest first. -/
def sectionsFrom (current : List Bytes) : List Bytes → List (List Bytes)
  | [] => [current.reverse]
  | [] :: rest => current.reverse :: sectionsFrom [] rest
  | word :: rest => sectionsFrom (word :: current) rest

/-- The words at a node, divided where one of them ends. Ends before the first
word count once. -/
def sections : List Bytes → List (List Bytes)
  | [] :: rest => [] :: sectionsFrom [] (rest.dropWhile List.isEmpty)
  | words => sectionsFrom [] words

/-- The words with their first bytes, in the order of these bytes. -/
def byFirstByte (words : List Bytes) : List (UInt8 × List Bytes) :=
  let sorted := words.mergeSort fun left right => left.head?.getD 0 ≤ right.head?.getD 0
  (sorted.splitBy fun left right => left.head? == right.head?).filterMap fun group =>
    (group.head?.bind List.head?).map fun first => (first, group.map List.tail)

/-- A state that reads one of several bytes. -/
def branch : List Exit → Drafting Nat
  | [exit] => add (.read exit)
  | exits => add (.select exits)

/-- The states that read the bytes and then go on to `next`; the bytes come latest
first. -/
def path : Nat → Bytes → Drafting Nat
  | next, [] => return next
  | next, b :: earlier => do
      let state ← add (.read ⟨b, b, next⟩)
      let node ← add (.fork #[state])
      path node earlier

/-- The ways out for words by their first bytes; `node` makes the node for what
is left of them. -/
def wordExits (node : List Bytes → Drafting Nat) (exit : Nat) :
    List (UInt8 × List Bytes) → List Exit → Drafting (List Exit)
  | [], exits => return exits.reverse
  | (first, tails) :: rest, exits => do
      let next ← if tails.all List.isEmpty then pure exit else node tails
      wordExits node exit rest (⟨first, first, next⟩ :: exits)

/-- The ways on from a node, section by section, with an end of a word between
two sections. -/
def wordTargets (node : List Bytes → Drafting Nat) (exit : Nat) :
    List (List Bytes) → Array Nat → Drafting (Array Nat)
  | [], targets => return targets
  | words :: rest, targets => do
      let exits ← wordExits node exit (byFirstByte words) []
      let targets ← if exits.isEmpty then pure targets else targets.push <$> branch exits
      if rest.isEmpty then return targets else wordTargets node exit rest (targets.push exit)

/-- The node for some words, of at most `depth` bytes, that end at `exit`. What
the words have in common at their start is a path to it. -/
def wordNode (exit : Nat) : Nat → List Bytes → Drafting Nat
  | 0, _ => return exit
  | depth + 1, words => do
      let (shared, tails) := commonStart [] (depth + 1) words
      let node ←
        if tails.all List.isEmpty then pure exit
        else do
          let targets ← wordTargets (wordNode exit depth) exit (sections tails) #[]
          add (.fork targets)
      path node shared

/-- A part that reads one of several words, none of which is empty. -/
def words (list : List Bytes) : Drafting Part := do
  let exit ← add (.pass 0)
  let entry ← wordNode exit (list.foldl (fun most word => max most word.length) 0) list
  return ⟨entry, exit⟩

end BrainfuckCompiler.Drafting
