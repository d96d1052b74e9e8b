/-!
# Byte strings

Sources, paths, command-line words and generated text are plain byte strings:
none of them has to be valid in any encoding. Fixed text is written as a
character string and turned into bytes by `ascii`.
-/
namespace BrainfuckCompiler

abbrev Bytes := List UInt8

/-- One byte a character; meant for texts of ASCII characters. -/
def ascii (text : String) : Bytes := text.toList.map Char.toUInt8

def newline : UInt8 := 0x0a
def slash : UInt8 := 0x2f
def dot : UInt8 := 0x2e
def dash : UInt8 := 0x2d
def equals : UInt8 := 0x3d
def comma : UInt8 := 0x2c
def doubleQuote : UInt8 := 0x22
def backslash : UInt8 := 0x5c

/-- Each text followed by a line end. -/
def lines (texts : List String) : Bytes :=
  texts.flatMap fun text => ascii text ++ [newline]

namespace Bytes

/-- The parts between the occurrences of `separator`, at least one. -/
def splitOn (separator : UInt8) : Bytes → List Bytes
  | [] => [[]]
  | b :: rest =>
      if b = separator then [] :: splitOn separator rest
      else
        match splitOn separator rest with
        | part :: parts => (b :: part) :: parts
        | [] => [[b]]

/-- The text before the first `separator`, and what follows it if there is one. -/
def cutAt (separator : UInt8) : Bytes → Bytes × Option Bytes
  | [] => ([], none)
  | b :: rest =>
      if b = separator then ([], some rest)
      else
        let (before, after) := cutAt separator rest
        (b :: before, after)

/-- A truth value as the word `true` or `false`. -/
def ofBool : Bool → Bytes
  | true => ascii "true"
  | false => ascii "false"

end Bytes

end BrainfuckCompiler
