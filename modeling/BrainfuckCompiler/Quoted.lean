import BrainfuckCompiler.Character.Invisible
import BrainfuckCompiler.Utf8

/-!
# Quoted text in log lines

A path in a log line stands between double quotes. Double quotes, backslashes
and the common controls are escaped by a letter, other invisible characters by
their number in hexadecimal, and bytes that are no text by their value.
-/
namespace BrainfuckCompiler.Quoted

/-- The value of a byte as two hexadecimal capitals. -/
def byteNumber (b : UInt8) : Bytes :=
  let number := (Nat.toDigits 16 b.toNat).map fun c => c.toUpper.toUInt8
  ascii "\\x" ++ List.replicate (2 - number.length) 0x30 ++ number

/-- A character by its number. -/
def codeNumber (code : Nat) : Bytes :=
  ascii "\\u\x7b" ++ (Nat.toDigits 16 code).map Char.toUInt8 ++ ascii "\x7d"

def character (bytes : Bytes) : Bytes :=
  match Utf8.codePoint bytes with
  | 0x00 => ascii "\\0"
  | 0x09 => ascii "\\t"
  | 0x0a => ascii "\\n"
  | 0x0d => ascii "\\r"
  | 0x22 => ascii "\\\""
  | 0x5c => ascii "\\\\"
  | code => if Character.isInvisible code then codeNumber code else bytes

def piece : Utf8.Piece → Bytes
  | .character bytes => character bytes
  | .broken bytes => bytes.flatMap byteNumber

/-- The text between double quotes. -/
def quoted (text : Bytes) : Bytes :=
  ascii "\"" ++ (Utf8.pieces text).flatMap piece ++ ascii "\""

end BrainfuckCompiler.Quoted
