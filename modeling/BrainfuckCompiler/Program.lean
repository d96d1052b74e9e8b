import BrainfuckCompiler.Statement
import BrainfuckCompiler.Frame
import BrainfuckCompiler.Interface

/-!
# The text of the generated program

What the generated program is, as a function of the settings and the source
alone. `Emission` describes how this text is written out piece by piece while
the source is still being read, and what is left of it when a stream fails.
-/
namespace BrainfuckCompiler.Program

def preamble (settings : Settings) : Bytes := (Frame.preamble settings).flatten

/-- The lines of one source byte; none for a comment. -/
def group (settings : Settings) (b : UInt8) : Bytes :=
  match Operator.ofByte? b with
  | some operator => (operator.fragments settings).flatten
  | none => []

/-- The lines of all operators of the source. -/
def statements (settings : Settings) (source : Bytes) : Bytes :=
  source.flatMap (group settings)

def epilogue : Bytes := Frame.epilogue.flatten

def inputHelper : Bytes := Frame.inputHelper.flatten

def interface (usage : Usage) (settings : Settings) : Bytes :=
  (Interface.fragments usage settings).flatten

/-- The program without its command line. -/
def body (settings : Settings) (source : Bytes) : Bytes :=
  preamble settings ++ statements settings source ++ epilogue ++ inputHelper

/-- The complete program. -/
def text (settings : Settings) (source : Bytes) : Bytes :=
  body settings source ++ interface (Usage.ofSource source) settings

end BrainfuckCompiler.Program
