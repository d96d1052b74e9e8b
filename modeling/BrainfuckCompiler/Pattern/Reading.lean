import Std.Data.HashMap
import BrainfuckCompiler.Character.Alphanumeric
import BrainfuckCompiler.Character.Blank
import BrainfuckCompiler.Pattern.Complaint

/-!
# Reading written patterns

A pattern is read from left to right, with a stack of the groups that are open;
a class in brackets is read in the same way, with a stack of the brackets and
operations that are open. Reading stops at the first thing that is wrong. Under
the flag for it, white space and comments between the parts are passed over.
-/
namespace BrainfuckCompiler.Pattern

/-- Where a reader stands. -/
structure Cursor where
  /-- How many characters have been passed. -/
  offset : Nat := 0
  rest : List Char
  /-- How many characters the pattern has. -/
  length : Nat
  ignoresBlanks : Bool := false
  /-- How many groups with a number have been opened. -/
  numbered : Nat := 0
  /-- The names of groups so far, with their stretches. -/
  names : Std.HashMap String Span := ∅

/-- Some characters further, or to the end. -/
def Cursor.advance (count : Nat) (cursor : Cursor) : Cursor :=
  { cursor with
    offset := cursor.offset + (cursor.rest.take count).length
    rest := cursor.rest.drop count }

abbrev Reading := StateT Cursor (Except Complaint)

namespace Reading

def complain {α : Type} (reason : Reason) (span : Span) : Reading α :=
  throw (.wrong reason span none)

def position : Reading Nat := return (← get).offset

/-- How many characters have not been passed. -/
def left : Reading Nat := do
  let cursor ← get
  return cursor.length - cursor.offset

/-- The empty stretch at the cursor. -/
def here : Reading Span := do
  let offset ← position
  return ⟨offset, offset⟩

/-- The stretch of the next character. -/
def hereCharacter : Reading Span := do
  let offset ← position
  return ⟨offset, offset + 1⟩

/-- From an earlier position up to the cursor. -/
def since (start : Nat) : Reading Span := return ⟨start, ← position⟩

def next? : Reading (Option Char) := return (← get).rest.head?

def bump : Reading Unit := modify (Cursor.advance 1)

/-- Passes over a word if it comes next. -/
def bumpIf (word : String) : Reading Bool := do
  if word.toList.isPrefixOf (← get).rest then
    modify (Cursor.advance word.length)
    return true
  else return false

def isBlank (c : Char) : Bool := Character.isBlank c.toNat

/-- How many characters of white space and comments come next. -/
def blanks (inComment : Bool) : List Char → Nat
  | [] => 0
  | c :: rest =>
      if inComment then blanks (c ≠ '\n') rest + 1
      else if isBlank c then blanks false rest + 1
      else if c = '#' then blanks true rest + 1
      else 0

/-- Passes over white space and comments, if they do not count. -/
def skipBlanks : Reading Unit := do
  let cursor ← get
  if cursor.ignoresBlanks then modify (Cursor.advance (blanks false cursor.rest))

/-- One character further, and over what does not count. -/
def bumpSkip : Reading (Option Char) := do
  bump
  skipBlanks
  next?

/-- The character after the next one, looking over what does not count. -/
def second? : Reading (Option Char) := do
  let cursor ← get
  let after := cursor.rest.drop 1
  if cursor.ignoresBlanks then
    match after.dropWhile isBlank with
    | '#' :: rest => return (rest.dropWhile isBlank).head?
    | rest => return rest.head?
  else return after.head?

/-- Reads characters as long as they are wanted, `step` leading to the next. -/
def takeFrom (wanted : Char → Bool) (step : Reading Unit) : Nat → Reading (List Char)
  | 0 => return []
  | fuel + 1 => do
      match ← next? with
      | none => return []
      | some c =>
          if wanted c then
            step
            return c :: (← takeFrom wanted step fuel)
          else return []

def takeWhile (wanted : Char → Bool) (step : Reading Unit) : Reading (List Char) := do
  takeFrom wanted step (← left)

/-! ## Numbers -/

/-- The value of a run of digits. All that does not fit in 32 bits counts as the
first such number. -/
def digitsValue (base : Nat) (digit : Char → Nat) (digits : List Char) : Nat :=
  digits.foldl (fun value c => min UInt32.size (base * value + digit c)) 0

def hexadecimalDigit (c : Char) : Nat :=
  if c.isDigit then c.toNat - '0'.toNat else c.toLower.toNat - 'a'.toNat + 10

def isHexadecimal (c : Char) : Bool :=
  c.isDigit || ('a' ≤ c && c ≤ 'f') || ('A' ≤ c && c ≤ 'F')

/-- A number of repetitions, which has 32 bits. White space around it never
counts. The cursor moves on even if there is no number. -/
def count : Reading (Except Complaint Nat) := do
  let _ ← takeWhile isBlank bump
  let start ← position
  let digits ← takeWhile Char.isDigit (discard bumpSkip)
  let span ← since start
  let _ ← takeWhile isBlank (discard bumpSkip)
  let value := digitsValue 10 (fun c => c.toNat - '0'.toNat) digits
  if digits = [] then return .error (.wrong .numberMissing span none)
  else if UInt32.size ≤ value then return .error (.wrong .numberTooLarge span none)
  else return .ok value

/-- The character with a number, as far as there is one. -/
def characterOf? (value : Nat) : Option Char :=
  if value.isValidChar then some (Char.ofNat value) else none

/-! ## Escapes -/

def hexadecimalDigits : Nat → Reading (List Char)
  | 0 => return []
  | left + 1 => do
      match ← next? with
      | none => complain .escapeUnfinished (← here)
      | some c =>
          if !isHexadecimal c then complain .hexadecimalDigit (← hereCharacter)
          let _ ← bumpSkip
          return c :: (← hexadecimalDigits left)

/-- A character by a fixed number of digits. -/
def fixedHexadecimal (start width : Nat) : Reading Literal := do
  let first ← position
  let digits ← hexadecimalDigits width
  match characterOf? (digitsValue 16 hexadecimalDigit digits) with
  | some c => return ⟨← since start, c, width = 2⟩
  | none => complain .hexadecimalNoCharacter (← since first)

/-- A character by digits between braces. -/
def bracedHexadecimal (start : Nat) : Reading Literal := do
  let brace ← position
  let _ ← bumpSkip
  let digits ← takeWhile isHexadecimal (discard bumpSkip)
  match ← next? with
  | none => complain .escapeUnfinished (← since brace)
  | some '\x7d' => do
      let stop ← position
      let _ ← bumpSkip
      if digits = [] then complain .hexadecimalMissing (← since brace)
      match characterOf? (digitsValue 16 hexadecimalDigit digits) with
      | some c => return ⟨← since start, c, false⟩
      | none => complain .hexadecimalNoCharacter ⟨brace + 1, stop⟩
  | some _ => complain .hexadecimalDigit (← hereCharacter)

def hexadecimal (start width : Nat) : Reading Expression := do
  match ← bumpSkip with
  | none => complain .escapeUnfinished (← here)
  | some '\x7b' => return .literal (← bracedHexadecimal start)
  | some _ => return .literal (← fixedHexadecimal start width)

/-- A class by a property of its characters. -/
def property (start : Nat) (negated : Bool) : Reading Expression := do
  match ← bumpSkip with
  | none => complain .escapeUnfinished (← here)
  | some '\x7b' => do
      let _ ← bumpSkip
      let name ← takeWhile (· ≠ '\x7d') (discard bumpSkip)
      if (← next?) = none then complain .escapeUnfinished (← here)
      bump
      let named : EscapedClass := if ':' ∈ name ∨ '=' ∈ name then .propertyValue else .property name
      return .escaped (← since start) negated named
  | some '\\' => complain .propertyClassInvalid (← hereCharacter)
  | some c => do
      let _ ← bumpSkip
      return .escaped (← since start) negated (.property [c])

/-- Which edge of a word stands between braces; nothing if the braces hold the
number of a repetition instead. -/
def bracedWordEdge (start : Nat) : Reading (Option WordEdge) := do
  let begun ← get
  let brace ← position
  let isLetter (c : Char) : Bool := c.isAlpha || c = '-'
  match ← bumpSkip with
  | none => complain .wordEdgeUnfinished (← since start)
  | some c =>
      if !isLetter c then
        set begun
        return none
      let first ← position
      let name ← takeWhile isLetter (discard bumpSkip)
      if (← next?) ≠ some '\x7d' then complain .wordEdgeUnclosed (← since brace)
      let span ← since first
      bump
      match String.ofList name with
      | "start" => return some .start
      | "end" => return some .finish
      | "start-half" => return some .startHalf
      | "end-half" => return some .finishHalf
      | _ => complain .wordEdgeUnknown span

def wordEdge (start : Nat) : Reading Expression := do
  let edge ← if (← next?) = some '\x7b' then bracedWordEdge start else pure none
  return .assertion (← since start) (.word (edge.getD .either))

/-- The control characters that have a letter. -/
def control? : Char → Option Char
  | 'a' => some '\x07'
  | 'f' => some '\x0c'
  | 't' => some '\t'
  | 'n' => some '\n'
  | 'r' => some '\r'
  | 'v' => some '\x0b'
  | _ => none

/-- The places that have a letter or sign. -/
def place? : Char → Option AssertionKind
  | 'A' => some .textStart
  | 'z' => some .textEnd
  | 'B' => some (.word .neither)
  | '<' => some (.word .start)
  | '>' => some (.word .finish)
  | _ => none

def class? : Char → Option (Bool × EscapedClass)
  | 'd' => some (false, .digit)
  | 's' => some (false, .space)
  | 'w' => some (false, .word)
  | 'D' => some (true, .digit)
  | 'S' => some (true, .space)
  | 'W' => some (true, .word)
  | _ => none

/-- Signs and controls that stand for themselves after a backslash. -/
def isEscapable (c : Char) : Bool := c.toNat < 0x80 && !c.isAlphanum && c ≠ '<' && c ≠ '>'

/-- An escape of one character, which has been passed. -/
def shortEscape (start : Nat) (c : Char) : Reading Expression := do
  let span ← since start
  if isEscapable c then return .literal ⟨span, c, false⟩
  match control? c, place? c with
  | some control, _ => return .literal ⟨span, control, false⟩
  | none, some place => return .assertion span place
  | none, none => if c = 'b' then wordEdge start else complain .escapeUnknown span

/-- What a backslash begins. -/
def escape : Reading Expression := do
  let start ← position
  bump
  match ← next? with
  | none => complain .escapeUnfinished (← since start)
  | some 'x' => hexadecimal start 2
  | some 'u' => hexadecimal start 4
  | some 'U' => hexadecimal start 8
  | some 'p' => property start false
  | some 'P' => property start true
  | some c =>
      bump
      let span ← since start
      if c.isDigit then complain .backreference span
      match class? c with
      | some (negated, name) => return .escaped span negated name
      | none => shortEscape start c

/-! ## Classes -/

def asciiClass? : String → Option AsciiClass
  | "alnum" => some .alnum
  | "alpha" => some .alpha
  | "ascii" => some .ascii
  | "blank" => some .blank
  | "cntrl" => some .cntrl
  | "digit" => some .digit
  | "graph" => some .graph
  | "lower" => some .lower
  | "print" => some .print
  | "punct" => some .punct
  | "space" => some .space
  | "upper" => some .upper
  | "word" => some .word
  | "xdigit" => some .xdigit
  | _ => none

/-- A class by its name between colons, if one comes next. -/
def asciiClass : Reading (Option ClassSet) := do
  let start ← position
  let begun ← get
  if !(← bumpIf "[:") then return none
  let negated ← bumpIf "^"
  let name ← takeWhile (· ≠ ':') bump
  if ← bumpIf ":]" then
    if let some known := asciiClass? (String.ofList name) then
      return some (.ascii (← since start) negated known)
  set begun
  return none

/-- What is open while a class is read. -/
inductive ClassFrame where
  /-- A bracket, and the items before it, latest first. -/
  | bracket (span : Span) (negated : Bool) (outer : List ClassSet)
  | operation (operation : SetOperation) (left : ClassSet)
  deriving Repr

/-- The innermost open bracket is never closed. -/
def unclosedClass {α : Type} (frames : List ClassFrame) : Reading α := do
  let span? := frames.findSome? fun
    | .bracket span _ _ => some span
    | .operation _ _ => none
  complain .classUnclosed (span?.getD (← here))

/-- Dashes at the start of a class are members of it. -/
def leadingDashes (start : Nat) : Nat → Reading (List ClassSet)
  | 0 => return []
  | fuel + 1 => do
      if (← next?) = some '-' then
        let dash : ClassSet := .literal ⟨← hereCharacter, '-', false⟩
        if (← bumpSkip) = none then complain .classUnclosed ⟨start, start⟩
        return (← leadingDashes start fuel) ++ [dash]
      else return []

/-- An opening bracket with what belongs to it: a caret, dashes, and a closing
bracket that comes too early to close anything. The items are latest first. -/
def openClass (outer : List ClassSet) : Reading (ClassFrame × List ClassSet) := do
  let start ← position
  let proceed : Reading Unit := do
    if (← bumpSkip) = none then complain .classUnclosed (← since start)
  proceed
  let negated := (← next?) = some '^'
  if negated then proceed
  let dashes ← leadingDashes start (← left)
  if dashes.isEmpty ∧ (← next?) = some ']' then
    let bracket : ClassSet := .literal ⟨← hereCharacter, ']', false⟩
    proceed
    return (.bracket (← since start) negated outer, [bracket])
  else return (.bracket (← since start) negated outer, dashes)

/-- An item of a class, or one end of a range. -/
def classPrimitive : Reading Expression := do
  match ← next? with
  | some '\\' => escape
  | some c => do
      let span ← hereCharacter
      bump
      return .literal ⟨span, c, false⟩
  | none => return .nothing (← here)

def classItem : Expression → Reading ClassSet
  | .literal character => return .literal character
  | .escaped span negated name => return .escaped span negated name
  | other => complain .assertionInClass other.span

def rangeEnd : Expression → Reading Literal
  | .literal character => return character
  | other => complain .classRangeBoundary other.span

/-- An item or a range. A dash before a closing bracket or another dash makes no
range. -/
def classRange (frames : List ClassFrame) : Reading ClassSet := do
  let first ← classPrimitive
  skipBlanks
  let following ← next?
  if following = none then unclosedClass frames
  let beyond ← second?
  if following ≠ some '-' ∨ beyond = some ']' ∨ beyond = some '-' then
    classItem first
  else
    if (← bumpSkip) = none then unclosedClass frames
    let last ← classPrimitive
    let low ← rangeEnd first
    let high ← rangeEnd last
    if high.character < low.character then
      complain .classRangeReversed (low.span.through high.span)
    return .range low high

def operation? : Reading (Option SetOperation) := do
  if ← bumpIf "&&" then return some .intersection
  else if ← bumpIf "--" then return some .difference
  else if ← bumpIf "~~" then return some .symmetricDifference
  else return none

/-- The operation on top of the stack, applied to its right side. -/
def applyOperation (right : ClassSet) : List ClassFrame → ClassSet × List ClassFrame
  | .operation operation left :: frames => (.combined operation left right, frames)
  | frames => (right, frames)

/-- Reads a class to its end. `items` are the members so far, latest first, and
`start` is where they may begin. -/
def classFrom : Nat → List ClassFrame → Nat → List ClassSet → Reading Expression
  | 0, frames, _, _ => unclosedClass frames
  | fuel + 1, frames, start, items => do
      skipBlanks
      match ← next? with
      | none => unclosedClass frames
      | some '[' => do
          match ← asciiClass with
          | some named => classFrom fuel frames start (named :: items)
          | none => do
              let (frame, inner) ← openClass items
              classFrom fuel (frame :: frames) (← position) inner
      | some ']' => do
          let members := ClassSet.ofItems start items.reverse
          let (inner, rest) := applyOperation members frames
          bump
          match rest with
          | .bracket span negated outer :: below => do
              let whole ← since span.start
              if below.isEmpty then return .bracketed whole negated inner
              classFrom fuel below (← position) (.bracketed whole negated inner :: outer)
          | _ => unclosedClass frames
      | some _ => do
          match ← operation? with
          | some operation => do
              let members := ClassSet.ofItems start items.reverse
              let (left, rest) := applyOperation members frames
              classFrom fuel (.operation operation left :: rest) (← position) []
          | none => do
              let item ← classRange frames
              classFrom fuel frames start (item :: items)

/-- A class in brackets. -/
def bracketClass : Reading Expression := do
  let (frame, items) ← openClass []
  classFrom ((← left) + 1) [frame] (← position) items

/-! ## Groups -/

def flag? : Char → Option Flag
  | 'i' => some .caseless
  | 'm' => some .multiLine
  | 's' => some .dotMatchesAll
  | 'U' => some .swapGreed
  | 'u' => some .unicode
  | 'R' => some .anyLineEnding
  | 'x' => some .ignoreBlanks
  | _ => none

/-- What has been read of a list of flags. -/
structure FlagList where
  /-- The flags in order, each with its stretch. -/
  flags : List (Switch × Span) := []
  /-- The stretch of the dash, after which flags are turned off. -/
  negation : Option Span := none
  /-- The dash came last. -/
  dangling : Bool := false

def FlagList.add (list : FlagList) (c : Char) (span : Span) : Reading FlagList :=
  if c = '-' then
    match list.negation with
    | some earlier => throw (.wrong .negationTwice span (some earlier))
    | none => return { list with negation := some span, dangling := true }
  else
    match flag? c with
    | none => complain .flagUnknown span
    | some flag =>
        match list.flags.find? fun (switch, _) => switch.flag = flag with
        | some (_, earlier) => throw (.wrong .flagTwice span (some earlier))
        | none =>
            let switch : Switch := ⟨flag, list.negation.isNone⟩
            return { list with flags := list.flags ++ [(switch, span)], dangling := false }

/-- Reads flags up to a colon or a closing parenthesis. -/
def flagsFrom : Nat → FlagList → Reading (List Switch)
  | 0, _ => return []
  | fuel + 1, list => do
      match ← next? with
      | none => complain .flagUnfinished (← here)
      | some c =>
          if c = ':' ∨ c = ')' then
            match list.dangling, list.negation with
            | true, some span => complain .negationDangling span
            | _, _ => return list.flags.map Prod.fst
          else do
            let longer ← list.add c (← hereCharacter)
            bump
            flagsFrom fuel longer

/-- Which characters the name of a group can have. -/
def isNameCharacter (first : Bool) (c : Char) : Bool :=
  if first then c = '_' || Character.isAlphabetic c.toNat
  else c = '_' || c = '.' || c = '[' || c = ']' || Character.isAlphanumeric c.toNat

/-- Reads the name of a group and the angle bracket after it. -/
def groupName : Reading Unit := do
  let start ← position
  let head ← match ← next? with
    | none => complain .nameUnclosed (← here)
    | some c => pure c
  if head ≠ '>' ∧ !isNameCharacter true head then complain .nameCharacter (← hereCharacter)
  let name ← takeWhile (isNameCharacter false) bump
  match ← next? with
  | none => complain .nameUnclosed (← here)
  | some '>' => do
      let span ← since start
      bump
      if name = [] then complain .nameEmpty ⟨start, start⟩
      let known := String.ofList name
      match (← get).names[known]? with
      | some earlier => throw (.wrong .nameTwice span (some earlier))
      | none => modify fun cursor => { cursor with names := cursor.names.insert known span }
  | some _ => complain .nameCharacter (← hereCharacter)

/-- What an opening parenthesis can begin. -/
inductive Opening where
  | switches (span : Span) (switches : List Switch)
  | group (span : Span) (number : Option Nat) (switches : List Switch)

/-- The number of the group that is being opened; the first has number one. -/
def nextNumber : Reading (Option Nat) := do
  modify fun cursor => { cursor with numbered := cursor.numbered + 1 }
  return some (← get).numbered

/-- Looking around is not supported. -/
def refuseLookAround (start : Nat) : List String → Reading Unit
  | [] => return ()
  | sign :: rest => do
      if ← bumpIf sign then complain .lookAround (← since start)
      refuseLookAround start rest

/-- An opening parenthesis with what belongs to it. -/
def opening : Reading Opening := do
  let span ← hereCharacter
  let _ ← bumpSkip
  refuseLookAround span.start ["?=", "?!", "?<=", "?<!"]
  let inner ← here
  if ← bumpIf "?P<" then
    groupName
    return .group span (← nextNumber) []
  else if ← bumpIf "?<" then
    groupName
    return .group span (← nextNumber) []
  else if ← bumpIf "?" then
    if (← next?) = none then complain .groupUnclosed span
    let switches ← flagsFrom ((← left) + 1) {}
    let closes := (← next?) = some ')'
    bump
    if closes then
      if switches = [] then complain .repeatsNothing inner
      return .switches (← since span.start) switches
    else return .group span none switches
  else return .group span (← nextNumber) []

/-! ## Sequences, alternatives and repetitions -/

/-- What has been read inside a group. -/
structure Level where
  /-- Where the first alternative starts. -/
  start : Nat
  /-- The alternatives that are complete, latest first. -/
  choices : List Expression := []
  /-- Where the present alternative starts. -/
  partStart : Nat
  /-- Its parts, latest first. -/
  parts : List Expression := []

def Level.fresh (start : Nat) : Level := { start := start, partStart := start }

/-- The present alternative as one expression. -/
def Level.choice (level : Level) (stop : Nat) : Expression :=
  .ofParts ⟨level.partStart, stop⟩ level.parts.reverse

def Level.expression (level : Level) (stop : Nat) : Expression :=
  match level.choices with
  | [] => level.choice stop
  | choices => .alternatives ⟨level.start, stop⟩ (choices.reverse ++ [level.choice stop])

def Level.push (level : Level) (part : Expression) : Level :=
  { level with parts := part :: level.parts }

/-- A group that is open, and what was read before it. -/
structure OpenGroup where
  span : Span
  number : Option Nat
  switches : List Switch
  ignoredBlanks : Bool
  outer : Level

/-- Takes the part that a repetition repeats. -/
def repeatable (level : Level) : Reading (Expression × Level) := do
  match level.parts with
  | [] => complain .repeatsNothing (← here)
  | .nothing _ :: _ => complain .repeatsNothing (← here)
  | .switches _ _ :: _ => complain .repeatsNothing (← here)
  | part :: rest => return (part, { level with parts := rest })

/-- Whether a repetition is eager; a question mark after it says that it is not. -/
def eagerness : Reading Bool := do
  if (← next?) = some '?' then
    bump
    return false
  else return true

/-- A repetition by a sign. -/
def signRepetition (level : Level) (least : Nat) (most : Option Nat) : Reading Level := do
  let (body, outer) ← repeatable level
  bump
  let eager ← eagerness
  return outer.push (.repeated ⟨body.span.start, ← position⟩ body least most eager)

/-- The numbers between the braces of a repetition, which begins at `start`. -/
def countRange (start : Nat) : Reading (Nat × Option Nat) := do
  if (← bumpSkip) = none then complain .countUnclosed (← since start)
  let least ← count
  match ← next? with
  | none => complain .countUnclosed (← since start)
  | some ',' => do
      match ← bumpSkip with
      | none => complain .countUnclosed (← since start)
      | some '\x7d' => return (← least, none)
      | some _ => do
          let least ← least
          let most ← count
          return (least, some (← most))
  | some _ => do
      let least ← least
      return (least, some least)

/-- A repetition by numbers between braces. -/
def countedRepetition (level : Level) : Reading Level := do
  let start ← position
  let (body, outer) ← repeatable level
  let (least, most) ← countRange start
  if (← next?) ≠ some '\x7d' then complain .countUnclosed (← since start)
  let _ ← bumpSkip
  let eager ← eagerness
  if most.any (· < least) then complain .countReversed (← since start)
  return outer.push (.repeated ⟨body.span.start, ← position⟩ body least most eager)

/-- A single character, or what a backslash begins. -/
def primitive (c : Char) : Reading Expression := do
  if c = '\\' then escape
  else
    let span ← hereCharacter
    bump
    match c with
    | '.' => return .anyCharacter span
    | '^' => return .assertion span .caret
    | '$' => return .assertion span .dollar
    | _ => return .literal ⟨span, c, false⟩

/-- Whether blanks are ignored after some switches. -/
def blanksAfter (switches : List Switch) (before : Bool) : Bool :=
  match switches.find? fun switch => switch.flag = .ignoreBlanks with
  | some switch => switch.on
  | none => before

def setIgnoresBlanks (value : Bool) : Reading Unit :=
  modify fun cursor => { cursor with ignoresBlanks := value }

/-- Opens a group, or turns flags on and off. -/
def openGroup (groups : List OpenGroup) (level : Level) : Reading (List OpenGroup × Level) := do
  let ignored := (← get).ignoresBlanks
  match ← opening with
  | .switches span switches => do
      setIgnoresBlanks (blanksAfter switches ignored)
      return (groups, level.push (.switches span switches))
  | .group span number switches => do
      setIgnoresBlanks (blanksAfter switches ignored)
      return (⟨span, number, switches, ignored, level⟩ :: groups, .fresh (← position))

/-- Closes the innermost group. -/
def closeGroup (groups : List OpenGroup) (level : Level) : Reading (List OpenGroup × Level) := do
  match groups with
  | [] => complain .groupUnopened (← hereCharacter)
  | group :: outer => do
      let body := level.expression (← position)
      setIgnoresBlanks group.ignoredBlanks
      bump
      let closed : Expression :=
        .group (← since group.span.start) group.number group.switches body
      return (outer, group.outer.push closed)

/-- Reads to the end of the pattern. -/
def expressionFrom : Nat → List OpenGroup → Level → Reading Expression
  | 0, _, _ => return .nothing (← here)
  | fuel + 1, groups, level => do
      skipBlanks
      match ← next? with
      | none =>
          match groups with
          | [] => return level.expression (← position)
          | group :: _ => complain .groupUnclosed group.span
      | some '(' => do
          let (opened, inner) ← openGroup groups level
          expressionFrom fuel opened inner
      | some ')' => do
          let (left, outer) ← closeGroup groups level
          expressionFrom fuel left outer
      | some '|' => do
          let choice := level.choice (← position)
          bump
          expressionFrom fuel groups
            { level with choices := choice :: level.choices, partStart := ← position, parts := [] }
      | some '[' => do
          let part ← bracketClass
          expressionFrom fuel groups (level.push part)
      | some '?' => do expressionFrom fuel groups (← signRepetition level 0 (some 1))
      | some '*' => do expressionFrom fuel groups (← signRepetition level 0 none)
      | some '+' => do expressionFrom fuel groups (← signRepetition level 1 none)
      | some '\x7b' => do expressionFrom fuel groups (← countedRepetition level)
      | some c => do
          let part ← primitive c
          expressionFrom fuel groups (level.push part)

end Reading

/-- Reads a written pattern. Every step but the last passes a character, so the
length of the text bounds their number. -/
def Expression.read (text : List Char) : Except Complaint Expression := do
  let (expression, _) ←
    (Reading.expressionFrom (text.length + 1) [] (.fresh 0)).run
      { rest := text, length := text.length }
  match expression.tooDeep nestingLimit with
  | some span => throw (.wrong .nestedTooDeep span none)
  | none => return expression

end BrainfuckCompiler.Pattern
