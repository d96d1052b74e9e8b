import BrainfuckCompiler.Bytes

/-!
# Places in a text

A pattern can ask for a place between two characters: an end of the text or of a
line, or the edge of a word. Whether a place is such a place depends on the bytes
on both sides of it only.
-/
namespace BrainfuckCompiler

/-- Where a word begins or ends. The halves look at one side only. -/
inductive WordEdge where
  | either
  | neither
  | start
  | finish
  | startHalf
  | finishHalf
  deriving DecidableEq, Repr

/-- A position between two characters. -/
inductive Place where
  | textStart
  | textEnd
  /-- After a line feed, or at the start of the text. -/
  | lineStart
  | lineEnd
  /-- Where a line ends with a carriage return, a line feed or both. -/
  | anyLineStart
  | anyLineEnd
  /-- The edge of a word of letters, digits and low lines: those of ASCII, or
  those of every script. -/
  | word (edge : WordEdge) (everyScript : Bool)
  deriving DecidableEq, Repr

/-- The bytes on both sides of a position. -/
structure Surroundings where
  before : Option UInt8
  after : Option UInt8
  deriving DecidableEq, Repr

/-- The byte after the position continues a character. -/
def Surroundings.insideCharacter (around : Surroundings) : Bool :=
  around.after.any fun b => 0x80 ≤ b && b < 0xc0

namespace Place

def lineFeed : UInt8 := 0x0a

def carriageReturn : UInt8 := 0x0d

/-- A letter, a digit or a low line of ASCII. -/
def isWordByte (b : UInt8) : Bool :=
  (0x30 ≤ b && b ≤ 0x39) || (0x41 ≤ b && b ≤ 0x5a) || b = 0x5f || (0x61 ≤ b && b ≤ 0x7a)

def wordEdge (around : Surroundings) : WordEdge → Bool :=
  let left := around.before.any isWordByte
  let right := around.after.any isWordByte
  fun
    | .either => left != right
    | .neither => left == right
    | .start => !left && right
    | .finish => left && !right
    | .startHalf => !left
    | .finishHalf => !right

def holds (around : Surroundings) : Place → Bool
  | .textStart => around.before = none
  | .textEnd => around.after = none
  | .lineStart => around.before = none || around.before = some lineFeed
  | .lineEnd => around.after = none || around.after = some lineFeed
  | .anyLineStart =>
      around.before = none || around.before = some lineFeed
        || (around.before = some carriageReturn && around.after ≠ some lineFeed)
  | .anyLineEnd =>
      around.after = none || around.after = some carriageReturn
        || (around.after = some lineFeed && around.before ≠ some carriageReturn)
  | .word edge _ => wordEdge around edge

end Place

end BrainfuckCompiler
