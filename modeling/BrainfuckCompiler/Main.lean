import BrainfuckCompiler.Command

/-!
# The program on a real system

The outer layer. It looks at the files that a command line names, lets the
library say what has to happen, and does it. The system has the last word on
whether the output can be created: when it refuses, the library is asked again
with the refusal known. A source that can be read counts as a regular file.
-/
namespace BrainfuckCompiler.Host

def bytesOf (text : String) : Bytes := text.toUTF8.toList

def textOf (bytes : Bytes) : String := (String.fromUTF8? ⟨(Utf8.lossy bytes).toArray⟩).getD ""

def print (stream : IO.FS.Stream) (bytes : Bytes) : IO Unit := do
  stream.write ⟨bytes.toArray⟩
  stream.flush

def systemError (number : UInt32) (description : String) : SystemError :=
  match number with
  | 1 => .notPermitted
  | 2 => .noEntry
  | 5 => .inputOutput
  | 13 => .denied
  | 20 => .notDirectory
  | 21 => .isDirectory
  | 28 => .noSpace
  | 36 => .nameTooLong
  | other => .other other.toNat description

def ofIOError : IO.Error → SystemError
  | .noFileOrDirectory _ number details => systemError number details
  | .permissionDenied _ number details => systemError number details
  | .inappropriateType _ number details => systemError number details
  | .invalidArgument _ number details => systemError number details
  | .resourceExhausted _ number details => systemError number details
  | .noSuchThing _ number details => systemError number details
  | .alreadyExists _ number details => systemError number details
  | .hardwareFault number details => systemError number details
  | .otherError number details => systemError number details
  | error => .other 0 error.toString

/-- The variables the program looks at. -/
def environment : IO Environment :=
  (VersionText.userVariables ++ [Command.filterVariable]).filterMapM fun name => do
    return (← IO.getEnv name).map fun value => (name, bytesOf value)

/-- The number after a word at the start of a line. -/
def numberAfter (word text : String) : Option Nat :=
  (text.splitOn "\n").findSome? fun line =>
    match line.splitOn " " with
    | first :: number :: _ => if first = word then number.toNat? else none
    | _ => none

/-- The present moment in universal time: the time of the last start of the
system and the time since then. -/
def now : IO Moment := do
  try
    let started := (numberAfter "btime" (← IO.FS.readFile "/proc/stat")).getD 0
    let running := ((← IO.FS.readFile "/proc/uptime").splitOn ".").head?.bind String.toNat?
    return { seconds := started + running.getD 0 }
  catch _ => return { seconds := 0 }

/-- A stand-in for the place of the working directory. -/
def here : Location := [ascii "."]

/-- The locations a path passes, its own last. -/
def way (path : Bytes) : List Location :=
  let start : Location := if path.head? = some slash then [] else here
  ((FileStore.names path).foldl
    (fun (passed, location) name =>
      let next := FileStore.step location name
      (next :: passed, next))
    ([start], start)).1.reverse

/-- What is known about the files before anything is done. -/
structure Survey where
  files : FileStore
  faults : Faults := {}

/-- What an opened source holds, or how reading it fails. -/
def readSource (handle : IO.FS.Handle) : IO (Except SystemError Bytes) := do
  try
    return .ok (← handle.readBinToEnd).toList
  catch error => return .error (ofIOError error)

/-- Opens the source, if the system lets us. -/
def openSource (path : Bytes) : IO (Except SystemError IO.FS.Handle) := do
  try
    return .ok (← IO.FS.Handle.mk (textOf path) .read)
  catch error => return .error (ofIOError error)

/-- What the system says about the source. -/
def surveySource (path : Bytes) (directories : List (Location × Node)) : IO Survey := do
  let location := (way path).getLast?.getD here
  let files (node : Node) : FileStore := ⟨(location, node) :: directories, here⟩
  match ← openSource path with
  | .error refusal =>
      return { files := files .directory, faults := { examining := fun _ => some refusal } }
  | .ok handle =>
      match ← readSource handle with
      | .ok content => return { files := files (.regular content) }
      | .error .isDirectory => return { files := files .directory }
      | .error failure =>
          return { files := files (.regular []), faults := { reading := fun _ => some (0, failure) } }

/-- The files an invocation names. -/
def survey (source output : Bytes) : IO Survey :=
  let passed := [[], here] ++ (way source).dropLast ++ (way output).dropLast
  surveySource source (passed.map fun location => (location, .directory))

/-- Brings the output on the disk to what the outcome says; gives back the
refusal if the system does not create it. -/
def settleOutput (output : Bytes) (outcome : Command.Outcome) : IO (Option SystemError) := do
  if PathName.isStandardOutput output then return none
  let location := (way output).getLast?.getD here
  match outcome.ending, outcome.files.find? location with
  | .finished, some (.regular content) =>
      try
        IO.FS.writeBinFile (textOf output) ⟨content.toArray⟩
        return none
      catch error => return some (ofIOError error)
  | .failed (.stream _), _ =>
      try
        IO.FS.removeFile (textOf output)
        return none
      catch _ => return none
  | _, _ => return none

def rejectionText : Invocation.Rejection → String
  | .unknownArgument => "unexpected argument found"
  | .tooManyValues => "unexpected value for an option that takes none"
  | .invalidValue => "a value is required but none was supplied"
  | .conflict => "an argument cannot be used multiple times or with another one"
  | .invalidText => "invalid UTF-8 was detected in one or more arguments"
  | .invalidNumber => "invalid value for '--size <NUMBER>'"
  | .missingSource => "the following required arguments were not provided:\n  <SOURCE>"

/-- Prints what the outcome says and ends with its status. -/
def finish (outcome : Command.Outcome) : IO UInt32 := do
  print (← IO.getStdout) outcome.output
  let errors ← IO.getStderr
  print errors outcome.errorOutput
  if let .rejected reason := outcome.ending then
    print errors (lines ["error: " ++ rejectionText reason, "",
      "Usage: bf2c [OPTIONS] [SOURCE]", "", "For more information, try '--help'."])
  return outcome.ending.status.toUInt32

/-- Carries out an invocation that works on files. -/
def work (words : List Bytes) (source output : Bytes) : IO UInt32 := do
  let known ← survey source output
  let context : Context := { faults := known.faults, now := ← now, environment := ← environment }
  let outcome := Command.execute context words known.files
  match ← settleOutput output outcome with
  | none => finish outcome
  | some refusal =>
      let faults := { known.faults with creating := fun _ => some refusal }
      finish (Command.execute { context with faults := faults } words known.files)

end BrainfuckCompiler.Host

open BrainfuckCompiler in
def main (arguments : List String) : IO UInt32 := do
  let words := arguments.map Host.bytesOf
  let idle : IO UInt32 := do
    let context : Context := { now := ← Host.now, environment := ← Host.environment }
    Host.finish (Command.execute context words ⟨[], []⟩)
  match Invocation.read words with
  | .ok invocation =>
      match invocation.source, invocation.has .version with
      | some source, false => Host.work words source (invocation.outputPath source)
      | _, _ => idle
  | .error _ => idle
