import BrainfuckCompiler.Error
import BrainfuckCompiler.Operator

/-!
# Settings of the generated program

How many cells there are and how wide they are, what the input operator does
at the end of the input, what a bare argument of the generated program means,
and the texts it carries. Settings are plain data; `Settings.sized` is the only
way to choose a number of cells, and it refuses zero. `Settings.Edit` lists the
ways to change settings one at a time.
-/
namespace BrainfuckCompiler

inductive CellWidth where
  | bits8
  | bits16
  | bits32
  deriving DecidableEq, Repr

def CellWidth.bits : CellWidth → Nat
  | .bits8 => 8
  | .bits16 => 16
  | .bits32 => 32

/-- The unsigned C type of one cell. -/
def CellWidth.typeName : CellWidth → String
  | .bits8 => "uint8_t"
  | .bits16 => "uint16_t"
  | .bits32 => "uint32_t"

/-- What the input operator does when the input is used up. -/
inductive EndOfInput where
  | storeZero
  | storeMinusOne
  | keepCell
  deriving DecidableEq, Repr

/-- What a bare argument of the generated program stands for. -/
inductive Positional where
  | nothing
  | outputFile
  | inputFile
  | message
  deriving DecidableEq, Repr

/-- What a bare argument means once the usage of the program is known. A stream
the program does not touch takes no argument, and a program that only writes
always takes the name of its output file. -/
def Positional.resolve (asked : Positional) (usage : Usage) : Positional :=
  match usage.reads, usage.writes, asked with
  | true, true, _ => asked
  | true, false, .outputFile => .nothing
  | true, false, _ => asked
  | false, true, _ => .outputFile
  | false, false, _ => .nothing

structure Settings where
  cells : UInt64 := 30000
  width : CellWidth := .bits8
  endOfInput : EndOfInput := .storeMinusOne
  positional : Positional := .nothing
  flushes : Bool := false
  version : Option Bytes := none
  copyright : Option Bytes := none
  deriving DecidableEq, Repr

namespace Settings

/-- The settings nobody has changed. -/
def standard : Settings := {}

/-- Standard settings with a chosen number of cells, at least one. -/
def sized (cells : UInt64) : Except Error Settings :=
  if cells = 0 then .error (.cellCount cells) else .ok { cells := cells }

/-- One change of the settings. The first two replace everything. -/
inductive Edit where
  | resize (cells : UInt64)
  | reset
  | width (bits : CellWidth)
  | endOfInput (policy : EndOfInput)
  | positional (meaning : Positional)
  | flushes (on : Bool)
  | version (text : Option Bytes)
  | copyright (text : Option Bytes)
  deriving DecidableEq, Repr

/-- The settings after a change, or the reason why it is refused. -/
def Edit.apply (settings : Settings) : Edit → Except Error Settings
  | .resize cells => sized cells
  | .reset => .ok standard
  | .width bits => .ok { settings with width := bits }
  | .endOfInput policy => .ok { settings with endOfInput := policy }
  | .positional meaning => .ok { settings with positional := meaning }
  | .flushes on => .ok { settings with flushes := on }
  | .version text => .ok { settings with version := text }
  | .copyright text => .ok { settings with copyright := text }

/-- The settings after a change; a refused one leaves them as they are. -/
def edit (settings : Settings) (change : Edit) : Settings :=
  match change.apply settings with
  | .ok changed => changed
  | .error _ => settings

end Settings

end BrainfuckCompiler
