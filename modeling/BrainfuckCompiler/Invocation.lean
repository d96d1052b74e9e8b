import BrainfuckCompiler.Invocation.Options
import BrainfuckCompiler.Settings

/-!
# Invocations

What an accepted command line asks for, and the settings that follow from it.
-/
namespace BrainfuckCompiler

structure Invocation where
  /-- The flags that are set. -/
  has : Invocation.Flag → Bool := fun _ => false
  source : Option Bytes := none
  output : Option Bytes := none
  size : UInt64 := 30000
  copyright : Option Bytes := none
  versionString : Option Bytes := none

namespace Invocation

/-- The invocation with one more flag set. -/
def set (invocation : Invocation) (flag : Flag) : Invocation :=
  { invocation with has := fun other => decide (other = flag) || invocation.has other }

def width (invocation : Invocation) : CellWidth :=
  if invocation.has .cellInt then .bits32
  else if invocation.has .cellShort then .bits16
  else .bits8

def endOfInput (invocation : Invocation) : EndOfInput :=
  if invocation.has .eofZero then .storeZero
  else if invocation.has .eofNoEffect then .keepCell
  else .storeMinusOne

def positional (invocation : Invocation) : Positional :=
  if invocation.has .outputDefault then .outputFile
  else if invocation.has .inputDefault then .inputFile
  else if invocation.has .messageDefault then .message
  else .nothing

/-- The settings the invocation asks for; `defaultVersion` is carried when it
names no version text. -/
def settings (invocation : Invocation) (defaultVersion : Bytes) : Except Error Settings := do
  let standard ← Settings.sized invocation.size
  return { standard with
    width := invocation.width
    endOfInput := invocation.endOfInput
    positional := invocation.positional
    flushes := invocation.has .forceFlush
    version := some (invocation.versionString.getD defaultVersion)
    copyright := invocation.copyright }

end Invocation

end BrainfuckCompiler
