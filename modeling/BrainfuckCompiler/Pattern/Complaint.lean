import BrainfuckCompiler.Automaton
import BrainfuckCompiler.Bytes
import BrainfuckCompiler.Decimal
import BrainfuckCompiler.Pattern.Expression

/-!
# Complaints about written patterns

What can be wrong with a written pattern, and how it is told: the pattern is
shown with the stretch in question marked below it, and the reason follows.
-/
namespace BrainfuckCompiler.Pattern

/-- How deep operators may be nested. -/
def nestingLimit : Nat := 250

inductive Reason where
  | assertionInClass
  | classRangeReversed
  | classRangeBoundary
  | classUnclosed
  | numberMissing
  | numberTooLarge
  | hexadecimalMissing
  | hexadecimalNoCharacter
  | hexadecimalDigit
  | escapeUnfinished
  | escapeUnknown
  | negationDangling
  | flagTwice
  | negationTwice
  | flagUnfinished
  | flagUnknown
  | nameTwice
  | nameEmpty
  | nameCharacter
  | nameUnclosed
  | groupUnclosed
  | groupUnopened
  | nestedTooDeep
  | countReversed
  | countUnclosed
  | repeatsNothing
  | wordEdgeUnclosed
  | wordEdgeUnknown
  | wordEdgeUnfinished
  | propertyClassInvalid
  | backreference
  | lookAround
  | scriptsNotAllowed
  | invalidText
  | propertyUnknown
  | propertyValueUnknown
  | classUnavailable
  | caseUnavailable
  deriving DecidableEq, Repr

def Reason.message : Reason → String
  | .assertionInClass => "invalid escape sequence found in character class"
  | .classRangeReversed => "invalid character class range, the start must be <= the end"
  | .classRangeBoundary => "invalid range boundary, must be a literal"
  | .classUnclosed => "unclosed character class"
  | .numberMissing => "repetition quantifier expects a valid decimal"
  | .numberTooLarge => "decimal literal invalid"
  | .hexadecimalMissing => "hexadecimal literal empty"
  | .hexadecimalNoCharacter => "hexadecimal literal is not a Unicode scalar value"
  | .hexadecimalDigit => "invalid hexadecimal digit"
  | .escapeUnfinished => "incomplete escape sequence, reached end of pattern prematurely"
  | .escapeUnknown => "unrecognized escape sequence"
  | .negationDangling => "dangling flag negation operator"
  | .flagTwice => "duplicate flag"
  | .negationTwice => "flag negation operator repeated"
  | .flagUnfinished => "expected flag but got end of regex"
  | .flagUnknown => "unrecognized flag"
  | .nameTwice => "duplicate capture group name"
  | .nameEmpty => "empty capture group name"
  | .nameCharacter => "invalid capture group character"
  | .nameUnclosed => "unclosed capture group name"
  | .groupUnclosed => "unclosed group"
  | .groupUnopened => "unopened group"
  | .nestedTooDeep => "exceed the maximum number of nested parentheses/brackets (250)"
  | .countReversed => "invalid repetition count range, the start must be <= the end"
  | .countUnclosed => "unclosed counted repetition"
  | .repeatsNothing => "repetition operator missing expression"
  | .wordEdgeUnclosed =>
      "special word boundary assertion is either unclosed or contains an invalid character"
  | .wordEdgeUnknown =>
      "unrecognized special word boundary assertion, valid choices are: start, end, start-half or end-half"
  | .wordEdgeUnfinished =>
      "found either the beginning of a special word boundary or a bounded repetition on a \\b with an opening brace, but no closing brace"
  | .propertyClassInvalid => "invalid Unicode character class"
  | .backreference => "backreferences are not supported"
  | .lookAround => "look-around, including look-ahead and look-behind, is not supported"
  | .scriptsNotAllowed => "Unicode not allowed here"
  | .invalidText => "pattern can match invalid UTF-8"
  | .propertyUnknown => "Unicode property not found"
  | .propertyValueUnknown => "Unicode property value not found"
  | .classUnavailable =>
      "Unicode-aware Perl class not found (make sure the unicode-perl feature is enabled)"
  | .caseUnavailable =>
      "Unicode-aware case insensitivity matching is not available (make sure the unicode-case feature is enabled)"

inductive Complaint where
  /-- A stretch of the pattern is wrong; a second one may explain it. -/
  | wrong (reason : Reason) (span : Span) (earlier : Option Span)
  /-- There is no table for what the pattern looks for. -/
  | unavailable
  | tooLarge
  deriving DecidableEq, Repr

/-- A position in a text of several lines, both numbers counted from one. -/
structure LinePosition where
  line : Nat
  column : Nat
  deriving DecidableEq, Repr

namespace LinePosition

/-- The position after some characters. -/
def after (passed : List Char) : LinePosition :=
  passed.foldl (fun here c => if c = '\n' then ⟨here.line + 1, 1⟩ else ⟨here.line, here.column + 1⟩) ⟨1, 1⟩

end LinePosition

/-- Both ends of a stretch of a text. -/
def Span.positions (span : Span) (text : List Char) : LinePosition × LinePosition :=
  (.after (text.take span.start), .after (text.take span.stop))

/-- Marks under a line, from left to right: where each one starts and stops. -/
def marksFrom (column : Nat) : List (Nat × Nat) → String
  | [] => ""
  | (start, stop) :: rest =>
      let gap := start - column
      let width := max 1 (stop - start)
      String.ofList (List.replicate gap ' ' ++ List.replicate width '^')
        ++ marksFrom (column + gap + width) rest

/-- The lines of a text, without their ends. -/
def textLines (text : Bytes) : List Bytes :=
  let parts := Bytes.splitOn newline text
  let complete := if parts.getLast? = some [] then parts.dropLast else parts
  let isReturn (b : UInt8) : Bool := b = 0x0d
  (complete.zipIdx 1).map fun (line, number) =>
    if number < parts.length ∧ line.getLast?.any isReturn then line.dropLast else line

/-- The marks of one line, if it has any. -/
def marksOfLine (text : List Char) (spans : List Span) (line : Nat) : Option String :=
  let marked := spans.filterMap fun span =>
    let (first, last) := span.positions text
    if first.line = line ∧ last.line = line then some (first.column, last.column) else none
  if marked = [] then none else some (marksFrom 1 marked)

/-- The pattern with the stretches marked. A pattern of several lines has its
lines numbered. -/
def marked (written : Bytes) (text : List Char) (spans : List Span) : Bytes :=
  let count := (text.filter (· = '\n')).length + 1
  let width := if count ≤ 1 then 0 else (Decimal.digits count).length
  ((textLines written).zipIdx 1).flatMap fun (line, number) =>
    let digits := Decimal.digits number
    let margin :=
      if width = 0 then ascii "    "
      else List.replicate (width - digits.length) 0x20 ++ digits ++ ascii ": "
    let below := match marksOfLine text spans number with
      | none => []
      | some marks => List.replicate margin.length 0x20 ++ ascii marks ++ [newline]
    margin ++ line ++ [newline] ++ below

/-- Where a stretch of several lines starts and ends. -/
def farStretch (text : List Char) (span : Span) : Option Bytes :=
  let (first, last) := span.positions text
  if first.line = last.line then none
  else
    some (ascii "on line " ++ Decimal.digits first.line ++ ascii " (column "
      ++ Decimal.digits first.column ++ ascii ") through line " ++ Decimal.digits last.line
      ++ ascii " (column " ++ Decimal.digits (last.column - 1) ++ ascii ")" ++ [newline])

/-- The stretches in the order of the text. -/
def inOrder (span : Span) : Option Span → List Span
  | none => [span]
  | some earlier =>
      if earlier.start < span.start ∨ (earlier.start = span.start ∧ earlier.stop < span.stop) then
        [earlier, span]
      else [span, earlier]

/-- The complaint in words, about a pattern given in bytes and in characters. -/
def Complaint.message (written : Bytes) (text : List Char) : Complaint → Bytes
  | .unavailable => ascii "error building NFA"
  | .tooLarge =>
      ascii "Compiled regex exceeds size limit of " ++ Decimal.digits Automaton.sizeLimit ++ ascii " bytes."
  | .wrong reason span earlier =>
      let spans := inOrder span earlier
      let shown := marked written text spans
      let divider := List.replicate 79 0x7e ++ [newline]
      let body :=
        if '\n' ∈ text then
          divider ++ shown ++ divider ++ (spans.filterMap (farStretch text)).flatten
        else shown
      ascii "regex parse error:\n" ++ body ++ ascii "error: " ++ ascii reason.message

end BrainfuckCompiler.Pattern
