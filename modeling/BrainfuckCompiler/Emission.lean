import BrainfuckCompiler.Program
import BrainfuckCompiler.Stream

/-!
# Writing the generated program

The program is written while the source is read, front to back and once: the
group of an operator is out before the next byte is read. Which switches the
command line offers is known only at the end, so it comes last.
-/
namespace BrainfuckCompiler.Emission
open Emit

/-- What has been seen of the source. -/
structure Tally where
  usage : Usage := {}
  operators : Nat := 0
  deriving DecidableEq, Repr

def Tally.add (tally : Tally) (operator : Operator) : Tally :=
  ⟨tally.usage.add operator, tally.operators + 1⟩

/-- Writes the groups of the delivered bytes. -/
def statements (settings : Settings) : Bytes → Tally → Emit Tally
  | [], tally => pure tally
  | b :: rest, tally =>
      match Operator.ofByte? b with
      | none => statements settings rest tally
      | some operator => do
          writeAll (operator.fragments settings)
          statements settings rest (tally.add operator)

/-- A reader that does not end stops the emission. -/
def finish (reader : Reader) : Emit Unit :=
  match reader.failure with
  | some fault => throw fault
  | none => pure ()

/-- Writes everything but the command line. -/
def body (settings : Settings) (reader : Reader) : Emit Usage := do
  writeAll (Frame.preamble settings)
  let tally ← statements settings reader.delivered {}
  finish reader
  record (.operatorsCounted tally.operators)
  writeAll Frame.epilogue
  writeAll Frame.inputHelper
  record (.bodyDone tally.usage)
  return tally.usage

/-- Writes the command line and tells what a bare argument means there. -/
def interface (usage : Usage) (settings : Settings) : Emit Positional := do
  let meaning := settings.positional.resolve usage
  if meaning ≠ settings.positional then
    record (.positionalChanged settings.positional meaning)
  writeAll (Interface.fragments usage settings)
  return meaning

/-- Writes the complete program. -/
def program (settings : Settings) (reader : Reader) : Emit Usage := do
  let usage ← body settings reader
  let _ ← interface usage settings
  return usage

/-- Writes the complete program and leaves nothing waiting. -/
def complete (settings : Settings) (reader : Reader) : Emit Usage := do
  let usage ← program settings reader
  flush
  return usage

/-- Writes a text as it is spelled in a string literal, byte by byte. -/
def literal (text : Bytes) : Emit Unit := writeAll (text.map StringLiteral.escapeByte)

end BrainfuckCompiler.Emission
