import BrainfuckCompiler.Bytes

/-!
# The options of the command line

An option is a flag, an option with a value, or the request for help. Most have
a letter; all have a long name.
-/
namespace BrainfuckCompiler.Invocation

inductive Flag where
  | forceFlush
  | outputDefault
  | inputDefault
  | messageDefault
  | cellChar
  | cellShort
  | cellInt
  | eofZero
  | eofMinus
  | eofNoEffect
  | strict
  | debug
  | version
  deriving DecidableEq, Repr

inductive Valued where
  | output
  | size
  | copyright
  | versionString
  deriving DecidableEq, Repr

inductive Choice where
  | flag (chosen : Flag)
  | valued (option : Valued)
  | help
  deriving DecidableEq, Repr

/-- All options, in the order in which the help lists them. -/
def Choice.all : List Choice := [
  .valued .output, .flag .forceFlush, .flag .outputDefault, .flag .inputDefault,
  .flag .messageDefault, .valued .size, .flag .cellChar, .flag .cellShort, .flag .cellInt,
  .flag .eofZero, .flag .eofMinus, .flag .eofNoEffect, .valued .copyright,
  .valued .versionString, .flag .strict, .flag .debug, .flag .version, .help]

def Flag.letter? : Flag → Option Char
  | .forceFlush => some 'F'
  | .outputDefault => some 'O'
  | .inputDefault => some 'I'
  | .messageDefault => some 'M'
  | .cellChar => some '1'
  | .cellShort => some '2'
  | .cellInt => some '4'
  | .eofZero => some 'z'
  | .eofMinus => some 'm'
  | .eofNoEffect => some 'n'
  | .strict => none
  | .debug => some 'd'
  | .version => some 'v'

def Flag.name : Flag → String
  | .forceFlush => "force-flush"
  | .outputDefault => "output-default"
  | .inputDefault => "input-default"
  | .messageDefault => "message-default"
  | .cellChar => "cell-char"
  | .cellShort => "cell-short"
  | .cellInt => "cell-int"
  | .eofZero => "eof-zero"
  | .eofMinus => "eof-minus"
  | .eofNoEffect => "eof-no-effect"
  | .strict => "strict"
  | .debug => "debug"
  | .version => "version"

def Valued.letter : Valued → Char
  | .output => 'o'
  | .size => 's'
  | .copyright => 'C'
  | .versionString => 'V'

def Valued.name : Valued → String
  | .output => "output"
  | .size => "size"
  | .copyright => "copyright"
  | .versionString => "version-string"

def Choice.letter? : Choice → Option Char
  | .flag chosen => chosen.letter?
  | .valued option => some option.letter
  | .help => some 'h'

def Choice.name : Choice → String
  | .flag chosen => chosen.name
  | .valued option => option.name
  | .help => "help"

/-- The option with a letter. -/
def Choice.ofLetter? (b : UInt8) : Option Choice :=
  all.find? fun choice => choice.letter?.map Char.toUInt8 = some b

/-- The option with a long name, which has to be complete. -/
def Choice.ofName? (name : Bytes) : Option Choice :=
  all.find? fun choice => ascii choice.name = name

/-- Flags that exclude each other. -/
def Flag.groups : List (List Flag) := [
  [.outputDefault, .inputDefault, .messageDefault],
  [.cellChar, .cellShort, .cellInt],
  [.eofZero, .eofMinus, .eofNoEffect]]

end BrainfuckCompiler.Invocation
