import BrainfuckCompiler.Invocation
import BrainfuckCompiler.Decimal
import BrainfuckCompiler.Utf8

/-!
# Reading a command line

Words are taken from left to right, and the first error is the one reported. A
word that starts with a dash and is longer than that is an option, or several
in one; `--` ends the options. Everything else is the value of an option that
still lacks one, or the source.

A value that follows its option, and the source, are not looked at when they
are met but when the next option or source is accepted, or at the end. So an
unknown option is reported before a bad value in front of it.
-/
namespace BrainfuckCompiler.Invocation

/-- Why a command line is rejected. -/
inductive Rejection where
  /-- An option nobody knows, or a second source. -/
  | unknownArgument
  /-- A value for an option that takes none. -/
  | tooManyValues
  /-- A missing or an empty value. -/
  | invalidValue
  /-- An option given twice, or options that exclude each other. -/
  | conflict
  /-- A number that is not even text. -/
  | invalidText
  /-- A number that cannot be read. -/
  | invalidNumber
  /-- There is no source. -/
  | missingSource
  deriving DecidableEq, Repr

/-- Why reading stops before the end. -/
inductive Stop where
  | helpRequested
  | rejected (reason : Rejection)
  deriving DecidableEq, Repr

/-- What was met but not looked at yet. -/
inductive Pending where
  | nothing
  | awaiting (option : Valued)
  | value (option : Valued) (text : Bytes)
  | source (path : Bytes)
  deriving DecidableEq, Repr

structure Progress where
  invocation : Invocation := {}
  /-- The options that were accepted. -/
  given : List Choice := []
  pending : Pending := .nothing
  sourceSeen : Bool := false
  /-- Whether `--` has ended the options. -/
  optionsEnded : Bool := false

namespace Progress

def reject {α : Type} (reason : Rejection) : Except Stop α := .error (.rejected reason)

/-- Notes that an option was given; none is given twice. -/
def note (progress : Progress) (choice : Choice) : Except Stop Progress :=
  if choice ∈ progress.given then reject .conflict
  else .ok { progress with given := choice :: progress.given }

/-- Takes over the value of an option. -/
def store (invocation : Invocation) (text : Bytes) : Valued → Except Stop Invocation
  | .output => if text = [] then reject .invalidValue else .ok { invocation with output := some text }
  | .size =>
      if Utf8.isValid text then
        match Decimal.read? text with
        | some size => .ok { invocation with size := size }
        | none => reject .invalidNumber
      else reject .invalidText
  | .copyright => .ok { invocation with copyright := some text }
  | .versionString => .ok { invocation with versionString := some text }

/-- Accepts an option together with its value. -/
def assign (progress : Progress) (option : Valued) (text : Bytes) : Except Stop Progress := do
  let noted ← progress.note (.valued option)
  let invocation ← store noted.invocation text option
  return { noted with invocation := invocation }

/-- Looks at what is pending. -/
def settle (progress : Progress) : Except Stop Progress :=
  let cleared := { progress with pending := .nothing }
  match progress.pending with
  | .nothing => .ok progress
  | .awaiting _ => reject .invalidValue
  | .value option text => cleared.assign option text
  | .source path =>
      if path = [] then reject .invalidValue
      else .ok { cleared with invocation := { cleared.invocation with source := some path } }

/-- Accepts a flag. -/
def acceptFlag (progress : Progress) (flag : Flag) : Except Stop Progress := do
  let settled ← progress.settle
  let noted ← settled.note (.flag flag)
  return { noted with invocation := noted.invocation.set flag }

/-- Accepts the request for help, which ends the reading. -/
def acceptHelp (progress : Progress) : Except Stop Progress := do
  let _ ← progress.settle
  .error .helpRequested

/-- Accepts an option whose value is attached to it. -/
def acceptAttached (progress : Progress) (option : Valued) (text : Bytes) : Except Stop Progress := do
  let settled ← progress.settle
  settled.assign option text

/-- Accepts an option whose value is still to come. -/
def acceptDetached (progress : Progress) (option : Valued) : Except Stop Progress := do
  let settled ← progress.settle
  return { settled with pending := .awaiting option }

/-- A long option, after its two dashes. -/
def long (progress : Progress) (text : Bytes) : Except Stop Progress :=
  let (name, value) := Bytes.cutAt equals text
  match Choice.ofName? name, value with
  | none, _ => reject .unknownArgument
  | some (.flag flag), none => progress.acceptFlag flag
  | some .help, none => progress.acceptHelp
  | some (.flag _), some _ => reject .tooManyValues
  | some .help, some _ => reject .tooManyValues
  | some (.valued option), some value => progress.acceptAttached option value
  | some (.valued option), none => progress.acceptDetached option

/-- A cluster of letters, after its dash. The first option with a value takes
the rest of the cluster, less one equals sign in front. -/
def cluster : Progress → Bytes → Except Stop Progress
  | progress, [] => .ok progress
  | progress, letter :: rest =>
      match Choice.ofLetter? letter with
      | none => reject .unknownArgument
      | some (.flag flag) => do
          let accepted ← progress.acceptFlag flag
          cluster accepted rest
      | some .help => progress.acceptHelp
      | some (.valued option) =>
          match rest with
          | [] => progress.acceptDetached option
          | b :: value => progress.acceptAttached option (if b = equals then value else rest)

/-- A word that is no option. -/
def plain (progress : Progress) (word : Bytes) : Except Stop Progress :=
  if progress.sourceSeen then reject .unknownArgument
  else do
    let settled ← progress.settle
    return { settled with pending := .source word, sourceSeen := true }

/-- One word of the command line. -/
def word (progress : Progress) (text : Bytes) : Except Stop Progress :=
  if progress.optionsEnded then progress.plain text
  else
    match text with
    | [0x2d, 0x2d] => .ok { progress with optionsEnded := true }
    | 0x2d :: 0x2d :: name => progress.long name
    | 0x2d :: letter :: letters => progress.cluster (letter :: letters)
    | _ =>
        match progress.pending with
        | .awaiting option => .ok { progress with pending := .value option text }
        | _ => progress.plain text

/-- No two flags of a group are set. -/
def compatible (invocation : Invocation) : Bool :=
  Flag.groups.all fun group => (group.filter invocation.has).length ≤ 1

/-- The checks after the last word. -/
def finish (progress : Progress) : Except Stop Invocation := do
  let settled ← progress.settle
  let invocation := settled.invocation
  if compatible invocation = false then reject .conflict
  else if invocation.source.isNone && !invocation.has .version then reject .missingSource
  else return invocation

end Progress

/-- Reads the words of a command line, the name of the program left out. -/
def read (words : List Bytes) : Except Stop Invocation := do
  let progress ← words.foldlM Progress.word {}
  progress.finish

end BrainfuckCompiler.Invocation
