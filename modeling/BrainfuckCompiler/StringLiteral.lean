import BrainfuckCompiler.Bytes

/-!
# Bodies of C string literals

Text that goes between the double quotes of a C string literal. Newline, tab,
double quote and backslash are written as escapes; every other byte stands for
itself.
-/
namespace BrainfuckCompiler.StringLiteral

/-- One byte of the text as it is spelled in the literal. -/
def escapeByte : UInt8 → Bytes
  | 0x0a => ascii "\\n"
  | 0x09 => ascii "\\t"
  | 0x22 => ascii "\\\""
  | 0x5c => ascii "\\\\"
  | b => [b]

/-- The spelling of a whole text. -/
def escape (text : Bytes) : Bytes := text.flatMap escapeByte

end BrainfuckCompiler.StringLiteral
