import BrainfuckCompiler.Pattern.Members
import BrainfuckCompiler.Pattern.Reading

/-!
# The meaning of written patterns

A written pattern becomes a pattern under flags, which a group keeps for itself
and which hold from where they stand to the end of their group. There are no
tables of scripts: outside of ASCII, letters have no cases, and the classes that
would need tables are refused.
-/
namespace BrainfuckCompiler.Pattern

/-- The flags that matter for the meaning. -/
structure Flags where
  caseless : Bool := false
  multiLine : Bool := false
  dotMatchesAll : Bool := false
  /-- Eager repetitions are lazy, and lazy ones eager. -/
  swapGreed : Bool := false
  unicode : Bool := true
  anyLineEnding : Bool := false
  deriving DecidableEq, Repr

def Flags.set (flags : Flags) (switch : Switch) : Flags :=
  match switch.flag with
  | .caseless => { flags with caseless := switch.on }
  | .multiLine => { flags with multiLine := switch.on }
  | .dotMatchesAll => { flags with dotMatchesAll := switch.on }
  | .unicode => { flags with unicode := switch.on }
  | .anyLineEnding => { flags with anyLineEnding := switch.on }
  | .swapGreed => { flags with swapGreed := switch.on }
  | .ignoreBlanks => flags

def Flags.setAll (flags : Flags) (switches : List Switch) : Flags := switches.foldl Flags.set flags

open Character (Runs)

def single (c : Char) : Runs := [(c.toNat, c.toNat)]

def AsciiClass.runs : AsciiClass → Runs
  | .alnum => [(0x30, 0x39), (0x41, 0x5a), (0x61, 0x7a)]
  | .alpha => [(0x41, 0x5a), (0x61, 0x7a)]
  | .ascii => [(0x00, 0x7f)]
  | .blank => [(0x09, 0x09), (0x20, 0x20)]
  | .cntrl => [(0x00, 0x1f), (0x7f, 0x7f)]
  | .digit => [(0x30, 0x39)]
  | .graph => [(0x21, 0x7e)]
  | .lower => [(0x61, 0x7a)]
  | .print => [(0x20, 0x7e)]
  | .punct => [(0x21, 0x2f), (0x3a, 0x40), (0x5b, 0x60), (0x7b, 0x7e)]
  | .space => [(0x09, 0x0d), (0x20, 0x20)]
  | .upper => [(0x41, 0x5a)]
  | .word => [(0x30, 0x39), (0x41, 0x5a), (0x5f, 0x5f), (0x61, 0x7a)]
  | .xdigit => [(0x30, 0x39), (0x41, 0x46), (0x61, 0x66)]

/-- The ASCII letters of a set in both cases, and its other members. -/
def bothCases (runs : Runs) : Runs :=
  let raised : Runs :=
    (runs.intersection AsciiClass.lower.runs).map fun run => (run.1 - 0x20, run.2 - 0x20)
  let lowered : Runs :=
    (runs.intersection AsciiClass.upper.runs).map fun run => (run.1 + 0x20, run.2 + 0x20)
  runs.union (raised.union lowered)

def refuse {α : Type} (reason : Reason) (span : Span) : Except Complaint α :=
  .error (.wrong reason span none)

/-- A set without regard to case, if the flags ask for that. In classes of
characters this needs tables, unless nothing is to be done. -/
def Members.folded (flags : Flags) (span : Span) (members : Members) : Except Complaint Members :=
  if !flags.caseless || members.caseless then .ok members
  else if !flags.unicode then .ok ⟨bothCases members.runs, true⟩
  else if members.runs = [] then .ok .none
  else refuse .caseUnavailable span

/-- A set or what lies outside of it. Outside of a set of bytes there are bytes
that are no text. -/
def Members.negatedIf (flags : Flags) (span : Span) (negated : Bool) (members : Members) :
    Except Complaint Members :=
  if !negated then .ok members
  else if flags.unicode then .ok members.complement
  else refuse .invalidText span

/-- A name of a property without case, blanks and the word `is` before it. -/
def propertyName (name : List Char) : List Char :=
  let lower := name.map Char.toLower
  let bare := if ['i', 's'].isPrefixOf lower then lower.drop 2 else lower
  bare.filter fun c => c.toNat < 0x80 && c ≠ ' ' && c ≠ '_' && c ≠ '-'

/-- The names that belong to categories before they belong to properties. -/
def categoryNames : List (List Char) := [['c', 'f'], ['s', 'c'], ['l', 'c']]

/-- The members of a class that is written with a backslash. -/
def EscapedClass.members (flags : Flags) (span : Span) (negated : Bool) :
    EscapedClass → Except Complaint Members
  | .digit => simple .digit
  | .space => simple .space
  | .word => simple .word
  | .property name =>
      if !flags.unicode then refuse .scriptsNotAllowed span
      else if propertyName name ∈ categoryNames then refuse .propertyValueUnknown span
      else refuse .propertyUnknown span
  | .propertyValue => refuse (if flags.unicode then .propertyUnknown else .scriptsNotAllowed) span
where
  simple (name : AsciiClass) : Except Complaint Members :=
    if flags.unicode then refuse .classUnavailable span
    else (Members.ofRuns name.runs).negatedIf flags span negated

/-- The members that a character adds to a class. A class of bytes takes ASCII
characters only. -/
def Literal.member (flags : Flags) (written : Literal) : Except Complaint Nat :=
  if flags.unicode ∨ written.character.toNat < 0x80 then .ok written.character.toNat
  else if written.twoDigits then refuse .invalidText written.span
  else refuse .scriptsNotAllowed written.span

def SetOperation.apply : SetOperation → Members → Members → Members
  | .intersection => Members.intersection
  | .difference => Members.difference
  | .symmetricDifference => Members.symmetricDifference

/-- What has been found between brackets: the union of sets, and characters and
ranges in any order. -/
structure Gathered where
  loose : List (Nat × Nat) := []
  sets : Members := .none

def Gathered.members (gathered : Gathered) : Members := gathered.sets.add gathered.loose

def Gathered.run (gathered : Gathered) (first last : Nat) : Gathered :=
  { gathered with loose := (first, last) :: gathered.loose }

/-- One more set. Once the sets are not known to be the same in both cases, only
the characters matter. -/
def Gathered.set (gathered : Gathered) (members : Members) : Gathered :=
  if gathered.loose.isEmpty && gathered.sets.caseless then
    { gathered with sets := gathered.sets.union members }
  else { gathered with loose := members.runs ++ gathered.loose }

/-- The set of what stands between brackets. -/
def Gathered.close (flags : Flags) (span : Span) (negated : Bool) (gathered : Gathered) :
    Except Complaint Members := do
  let members ← gathered.members.folded flags span
  members.negatedIf flags span negated

mutual

/-- Adds what a part of a class holds. -/
def ClassSet.gather (flags : Flags) : ClassSet → Gathered → Except Complaint Gathered
  | .nothing _, gathered => .ok gathered
  | .literal written, gathered => do
      let code ← written.member flags
      return gathered.run code code
  | .range first last, gathered => do
      let low ← first.member flags
      let high ← last.member flags
      return gathered.run low high
  | .ascii span negated name, gathered => do
      let members ← (Members.ofRuns name.runs).folded flags span
      return gathered.set (← members.negatedIf flags span negated)
  | .escaped span negated name, gathered =>
      return gathered.set (← name.members flags span negated)
  | .bracketed span negated inner, gathered => do
      let found ← inner.gather flags {}
      return gathered.set (← found.close flags span negated)
  | .union _ items, gathered => ClassSet.gatherAll flags items gathered
  | .combined operation left right, gathered => do
      let leftFound ← left.gather flags {}
      let rightFound ← right.gather flags {}
      let rightMembers ← rightFound.members.folded flags right.span
      let leftMembers ← leftFound.members.folded flags left.span
      return gathered.set (operation.apply leftMembers rightMembers)

def ClassSet.gatherAll (flags : Flags) : List ClassSet → Gathered → Except Complaint Gathered
  | [], gathered => .ok gathered
  | item :: rest, gathered => do
      ClassSet.gatherAll flags rest (← item.gather flags gathered)

end

/-- One character out of a set. -/
def Members.pattern (flags : Flags) (members : Members) : Pattern :=
  oneOf (!flags.unicode) members.runs

/-- A single character. -/
def Literal.meaning (flags : Flags) (written : Literal) : Except Complaint Pattern :=
  if !flags.unicode && written.twoDigits && 0x80 ≤ written.character.toNat then
    refuse .invalidText written.span
  else do
    let members ← (Members.ofRuns (single written.character)).folded flags written.span
    return members.pattern flags

/-- Any character, or any but the ends of lines. -/
def dotMeaning (flags : Flags) (span : Span) : Except Complaint Pattern :=
  if !flags.unicode then refuse .invalidText span
  else if flags.dotMatchesAll then .ok (oneOf false (Runs.complement []))
  else if flags.anyLineEnding then
    .ok (oneOf false (Runs.complement [(0x0a, 0x0a), (0x0d, 0x0d)]))
  else .ok (oneOf false (Runs.complement [(0x0a, 0x0a)]))

def AssertionKind.place (flags : Flags) : AssertionKind → Place
  | .caret =>
      if !flags.multiLine then .textStart
      else if flags.anyLineEnding then .anyLineStart
      else .lineStart
  | .dollar =>
      if !flags.multiLine then .textEnd
      else if flags.anyLineEnding then .anyLineEnd
      else .lineEnd
  | .textStart => .textStart
  | .textEnd => .textEnd
  | .word edge => .word edge flags.unicode

mutual

/-- The pattern of an expression, and the flags that hold after it. -/
def Expression.meaning : Expression → Flags → Except Complaint (Pattern × Flags)
  | .nothing _, flags => .ok (.empty, flags)
  | .switches _ list, flags => .ok (.empty, flags.setAll list)
  | .literal written, flags => return (← written.meaning flags, flags)
  | .anyCharacter span, flags => return (← dotMeaning flags span, flags)
  | .assertion _ kind, flags => .ok (.at (kind.place flags), flags)
  | .escaped span negated name, flags =>
      return ((← name.members flags span negated).pattern flags, flags)
  | .bracketed span negated inner, flags => do
      let found ← inner.gather flags {}
      return ((← found.close flags span negated).pattern flags, flags)
  | .repeated _ body least most eager, flags => do
      let (pattern, _) ← body.meaning flags
      return (pattern.times least most (eager != flags.swapGreed), flags)
  | .group _ number list body, flags => do
      let (pattern, _) ← body.meaning (flags.setAll list)
      match number with
      | none => return (pattern, flags)
      | some number => return (.recorded number pattern, flags)
  | .alternatives _ choices, flags => do
      let (patterns, after) ← Expression.meanings [] choices flags
      return (anyOf patterns, after)
  | .sequence _ parts, flags => do
      let (patterns, after) ← Expression.meanings [] parts flags
      return (inSequence patterns, after)

/-- The patterns of several expressions, after the patterns in `found`, which
come latest first. Flags hold from one expression to the next. -/
def Expression.meanings (found : List Pattern) :
    List Expression → Flags → Except Complaint (List Pattern × Flags)
  | [], flags => .ok (found.reverse, flags)
  | part :: rest, flags => do
      let (pattern, after) ← part.meaning flags
      Expression.meanings (pattern :: found) rest after

end

/-- Reads a pattern. -/
def read (text : List Char) : Except Complaint Pattern := do
  let expression ← Expression.read text
  let (pattern, _) ← expression.meaning {}
  return pattern

end BrainfuckCompiler.Pattern
