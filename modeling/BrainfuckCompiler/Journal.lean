import BrainfuckCompiler.Quoted
import BrainfuckCompiler.Settings

/-!
# The journal of a run

A run records what happens to it as a list of events. Nothing else in the
program looks at the journal: which events appear as log lines is decided only
when the lines are printed.
-/
namespace BrainfuckCompiler

namespace Journal

/-- How much an event matters, most important first. -/
inductive Level where
  | error
  | warn
  | info
  | debug
  | trace
  deriving DecidableEq, Repr

def Level.rank : Level → Nat
  | .error => 1
  | .warn => 2
  | .info => 3
  | .debug => 4
  | .trace => 5

/-- The name of a level, filled up to the longest one. -/
def Level.label : Level → String
  | .error => "ERROR"
  | .warn => "WARN "
  | .info => "INFO "
  | .debug => "DEBUG"
  | .trace => "TRACE"

/-- The part of the program an event comes from. -/
inductive Origin where
  | command
  | statements
  | interface
  deriving DecidableEq, Repr

def Origin.name : Origin → String
  | .command => "bf2c"
  | .statements => "bf2c::translator"
  | .interface => "bf2c::scaffold"

end Journal

/-- The name of a policy in log lines. -/
def EndOfInput.label : EndOfInput → String
  | .storeZero => "ZeroOnEof"
  | .storeMinusOne => "MinusOneOnEof"
  | .keepCell => "NoEffectOnEof"

/-- The name of a meaning in log lines. -/
def Positional.label : Positional → String
  | .nothing => "None"
  | .outputFile => "Output"
  | .inputFile => "Input"
  | .message => "Message"

inductive Event where
  | settingsChosen (settings : Settings)
  | pathsChosen (source output : Bytes)
  | operatorsCounted (count : Nat)
  | bodyDone (usage : Usage)
  | positionalChanged (asked given : Positional)
  | removalFailed (path : Bytes) (fault : Fault)
  | outputWritten (output : Bytes) (usage : Usage) (meaning : Positional)
  deriving DecidableEq, Repr

namespace Event
open Journal

def level : Event → Level
  | .settingsChosen _ => .debug
  | .pathsChosen _ _ => .debug
  | .operatorsCounted _ => .trace
  | .bodyDone _ => .debug
  | .positionalChanged _ _ => .debug
  | .removalFailed _ _ => .warn
  | .outputWritten _ _ _ => .info

def origin : Event → Origin
  | .operatorsCounted _ => .statements
  | .bodyDone _ => .statements
  | .positionalChanged _ _ => .interface
  | _ => .command

def message : Event → Bytes
  | .settingsChosen settings =>
      ascii "config: " ++ Decimal.digits settings.cells.toNat ++ ascii " cells of "
        ++ Decimal.digits settings.width.bits ++ ascii " bit, eof "
        ++ ascii settings.endOfInput.label ++ ascii ", default "
        ++ ascii settings.positional.label ++ ascii ", flush " ++ Bytes.ofBool settings.flushes
  | .pathsChosen source output => Quoted.quoted source ++ ascii " -> " ++ Quoted.quoted output
  | .operatorsCounted count => ascii "translated " ++ Decimal.digits count ++ ascii " operators"
  | .bodyDone usage =>
      ascii "body done: input=" ++ Bytes.ofBool usage.reads
        ++ ascii " output=" ++ Bytes.ofBool usage.writes
  | .positionalChanged asked given =>
      ascii "default parameter " ++ ascii asked.label ++ ascii " resolved to " ++ ascii given.label
  | .removalFailed path fault =>
      ascii "could not remove " ++ Quoted.quoted path ++ ascii ": " ++ fault.message
  | .outputWritten output usage meaning =>
      ascii "wrote " ++ Quoted.quoted output ++ ascii " (input: " ++ Bytes.ofBool usage.reads
        ++ ascii ", output: " ++ Bytes.ofBool usage.writes
        ++ ascii ", default parameter: " ++ ascii meaning.label ++ ascii ")"

/-- The event as a log line. -/
def line (event : Event) : Bytes :=
  ascii "[" ++ ascii event.level.label ++ ascii " " ++ ascii event.origin.name ++ ascii "] "
    ++ event.message ++ [newline]

end Event

end BrainfuckCompiler
