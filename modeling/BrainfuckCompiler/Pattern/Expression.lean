import BrainfuckCompiler.Pattern

/-!
# Written patterns

What a pattern is written with: characters, classes in brackets, assertions,
repetitions, groups and flags, each with the stretch of text it was read from.
What they mean depends on the flags around them.
-/
namespace BrainfuckCompiler.Pattern

/-- A stretch of a written pattern, by the numbers of characters before its
two ends. -/
structure Span where
  start : Nat
  stop : Nat
  deriving DecidableEq, Repr

/-- From the start of one stretch to the end of another. -/
def Span.through (first last : Span) : Span := ⟨first.start, last.stop⟩

inductive Flag where
  | caseless
  | multiLine
  | dotMatchesAll
  | swapGreed
  | unicode
  | anyLineEnding
  | ignoreBlanks
  deriving DecidableEq, Repr

/-- A flag turned on or off. -/
structure Switch where
  flag : Flag
  on : Bool
  deriving DecidableEq, Repr

/-- A written character. -/
structure Literal where
  span : Span
  character : Char
  /-- Written as `\x` with two digits, which may mean a byte. -/
  twoDigits : Bool := false
  deriving DecidableEq, Repr

inductive AssertionKind where
  | caret
  | dollar
  | textStart
  | textEnd
  | word (edge : WordEdge)
  deriving DecidableEq, Repr

/-- The classes that have a name of ASCII letters between colons. -/
inductive AsciiClass where
  | alnum
  | alpha
  | ascii
  | blank
  | cntrl
  | digit
  | graph
  | lower
  | print
  | punct
  | space
  | upper
  | word
  | xdigit
  deriving DecidableEq, Repr

/-- The classes that are written with a backslash. -/
inductive EscapedClass where
  | digit
  | space
  | word
  /-- The characters with a property. -/
  | property (name : List Char)
  /-- The characters with a value of a property. -/
  | propertyValue
  deriving DecidableEq, Repr

inductive SetOperation where
  | intersection
  | difference
  | symmetricDifference
  deriving DecidableEq, Repr

/-- What stands between brackets. -/
inductive ClassSet where
  | nothing (span : Span)
  | literal (literal : Literal)
  | range (first last : Literal)
  | ascii (span : Span) (negated : Bool) (name : AsciiClass)
  | escaped (span : Span) (negated : Bool) (name : EscapedClass)
  | bracketed (span : Span) (negated : Bool) (inner : ClassSet)
  | union (span : Span) (items : List ClassSet)
  | combined (operation : SetOperation) (left right : ClassSet)
  deriving Repr

def ClassSet.span : ClassSet → Span
  | .nothing span => span
  | .literal character => character.span
  | .range first last => first.span.through last.span
  | .ascii span _ _ => span
  | .escaped span _ _ => span
  | .bracketed span _ _ => span
  | .union span _ => span
  | .combined _ left right => left.span.through right.span

inductive Expression where
  | nothing (span : Span)
  | switches (span : Span) (switches : List Switch)
  | literal (literal : Literal)
  | anyCharacter (span : Span)
  | assertion (span : Span) (kind : AssertionKind)
  | escaped (span : Span) (negated : Bool) (name : EscapedClass)
  | bracketed (span : Span) (negated : Bool) (inner : ClassSet)
  | repeated (span : Span) (body : Expression) (least : Nat) (most : Option Nat) (eager : Bool)
  /-- Groups with a number are recorded. -/
  | group (span : Span) (number : Option Nat) (switches : List Switch) (body : Expression)
  | alternatives (span : Span) (choices : List Expression)
  | sequence (span : Span) (parts : List Expression)
  deriving Repr

def Expression.span : Expression → Span
  | .nothing span => span
  | .switches span _ => span
  | .literal character => character.span
  | .anyCharacter span => span
  | .assertion span _ => span
  | .escaped span _ _ => span
  | .bracketed span _ _ => span
  | .repeated span _ _ _ _ => span
  | .group span _ _ _ => span
  | .alternatives span _ => span
  | .sequence span _ => span

/-- A list of parts as one expression. -/
def Expression.ofParts (span : Span) : List Expression → Expression
  | [] => .nothing span
  | [part] => part
  | parts => .sequence span parts

/-- A list of items as one set. Without items it is an empty stretch at `start`. -/
def ClassSet.ofItems (start : Nat) : List ClassSet → ClassSet
  | [] => .nothing ⟨start, start⟩
  | [item] => item
  | first :: rest => .union (first.span.through ((first :: rest).getLast (by simp)).span) (first :: rest)

mutual

/-- The first stretch, from left to right, that lies deeper than `limit` nested
operators. -/
def ClassSet.tooDeep (limit : Nat) : ClassSet → Option Span
  | .bracketed span _ inner =>
      match limit with
      | 0 => some span
      | limit + 1 => inner.tooDeep limit
  | .union span items =>
      match limit with
      | 0 => some span
      | limit + 1 => ClassSet.anyTooDeep limit items
  | .combined _ left right =>
      match limit with
      | 0 => some (left.span.through right.span)
      | limit + 1 => (left.tooDeep limit).or (right.tooDeep limit)
  | _ => none

def ClassSet.anyTooDeep (limit : Nat) : List ClassSet → Option Span
  | [] => none
  | item :: rest => (item.tooDeep limit).or (ClassSet.anyTooDeep limit rest)

end

mutual

/-- The first stretch, from left to right, that lies deeper than `limit` nested
operators. -/
def Expression.tooDeep (limit : Nat) : Expression → Option Span
  | .bracketed span _ inner =>
      match limit with
      | 0 => some span
      | limit + 1 => inner.tooDeep limit
  | .repeated span body _ _ _ =>
      match limit with
      | 0 => some span
      | limit + 1 => body.tooDeep limit
  | .group span _ _ body =>
      match limit with
      | 0 => some span
      | limit + 1 => body.tooDeep limit
  | .alternatives span choices =>
      match limit with
      | 0 => some span
      | limit + 1 => Expression.anyTooDeep limit choices
  | .sequence span parts =>
      match limit with
      | 0 => some span
      | limit + 1 => Expression.anyTooDeep limit parts
  | _ => none

def Expression.anyTooDeep (limit : Nat) : List Expression → Option Span
  | [] => none
  | part :: rest => (part.tooDeep limit).or (Expression.anyTooDeep limit rest)

end

end BrainfuckCompiler.Pattern
