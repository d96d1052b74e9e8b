import BrainfuckCompiler.Invocation.Options

/-!
# The help text

One line for each option: its letter, its long name, the name of its value and,
in a column of its own, what it is for.
-/
namespace BrainfuckCompiler.Invocation

def Valued.valueName : Valued → String
  | .output => "<FILE>"
  | .size => "<NUMBER>"
  | .copyright => "<STR>"
  | .versionString => "<STR>"

def Choice.description : Choice → String
  | .valued .output => "Output file for the C source (\"-\" for stdout, default: source with .c)"
  | .valued .size => "Number of cells [default: 30000]"
  | .valued .copyright => "Copyright / license message of the generated program"
  | .valued .versionString => "Version message of the generated program"
  | .flag .forceFlush => "Flush stdout after every `.`"
  | .flag .outputDefault => "Bare argument of the generated program is the output file"
  | .flag .inputDefault => "Bare argument of the generated program is the input file"
  | .flag .messageDefault => "Bare argument of the generated program is the input message"
  | .flag .cellChar => "8 bit cells (default)"
  | .flag .cellShort => "16 bit cells"
  | .flag .cellInt => "32 bit cells"
  | .flag .eofZero => "`,` stores 0 at end of input"
  | .flag .eofMinus => "`,` stores -1 at end of input (default)"
  | .flag .eofNoEffect => "`,` leaves the cell unchanged at end of input"
  | .flag .strict => "Reject unbalanced brackets before translating"
  | .flag .debug => "Enable debug logging"
  | .flag .version => "Display version information"
  | .help => "Print help"

namespace Help

/-- The letter and the long name, with the name of the value. -/
def names (choice : Choice) : Bytes :=
  let letter := match choice.letter? with
    | some letter => [dash, letter.toUInt8] ++ ascii ", "
    | none => ascii "    "
  let value := match choice with
    | .valued option => ascii " " ++ ascii option.valueName
    | _ => []
  letter ++ ascii "--" ++ ascii choice.name ++ value

/-- Two blanks stand between the longest names and the descriptions. -/
def line (choice : Choice) : Bytes :=
  let blanks := List.replicate (28 - (names choice).length) 0x20
  ascii "  " ++ names choice ++ blanks ++ ascii choice.description ++ [newline]

def text : Bytes :=
  lines [
    "Translate a Brainfuck program into a standalone C program",
    "",
    "Usage: bf2c [OPTIONS] [SOURCE]",
    "",
    "Arguments:",
    "  [SOURCE]  The Brainfuck source file to translate",
    "",
    "Options:"]
  ++ Choice.all.flatMap line

end Help

end BrainfuckCompiler.Invocation
