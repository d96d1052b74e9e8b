import BrainfuckCompiler.Emission
import BrainfuckCompiler.FileStore
import BrainfuckCompiler.InPlace
import BrainfuckCompiler.Invocation
import BrainfuckCompiler.VersionText

/-!
# A run over the files

A run examines the source, creates the output, writes the program and, if that
fails midway, removes the output again. A strict run reads the whole source and
checks its brackets before it touches the output; any other run opens the
source, creates the output and reads only then.
-/
namespace BrainfuckCompiler

/-- What a run can change: the files, the standard output, and the journal. -/
structure World where
  files : FileStore
  output : Bytes := []
  /-- The events so far, latest first. -/
  events : List Event := []
  deriving DecidableEq, Repr

/-- What a run finds and cannot change. -/
structure Context where
  faults : Faults := {}
  now : Moment
  environment : Environment := []

abbrev Action := ExceptT Error (StateM World)

namespace Run

def record (event : Event) : Action Unit :=
  modify fun world => { world with events := event :: world.events }

/-- A failure that concerns a named file. -/
def named {α : Type} (path : Bytes) : Except Fault α → Action α
  | .ok result => pure result
  | .error fault => throw (.file path fault)

def setFiles (files : FileStore) : Action Unit := modify fun world => { world with files := files }

/-- Where the program goes. -/
inductive Target where
  | standardOutput
  | file (location : Location)
  deriving DecidableEq, Repr

/-- Opens the output; a file is created or emptied. -/
def openOutput (context : Context) (path : Bytes) : Action Target := do
  if PathName.isStandardOutput path then return .standardOutput
  let world ← get
  let (location, files) ← named path (world.files.create context.faults path)
  setFiles files
  return .file location

/-- The source of a run: read beforehand, or still to be read. -/
inductive Source where
  | loaded (content : Bytes)
  | opened (location : Location)
  deriving DecidableEq, Repr

/-- The reader of an opened file, which fails where the system does. -/
def readerAt (faults : Faults) (files : FileStore) (location : Location) : Reader :=
  let content := match files.find? location with
    | some (.regular content) => content
    | _ => []
  match faults.reading location with
  | some (count, error) => .failingAfter count (.system error) content
  | none => ⟨content, none⟩

/-- The reader of the source, once the output is open. -/
def readerOf (context : Context) (settings : Settings) (target : Target) (files : FileStore) :
    Source → Reader
  | .loaded content => ⟨content, none⟩
  | .opened location =>
      if target = .file location ∧ context.faults.reading location = none then
        InPlace.reader settings
      else readerAt context.faults files location

/-- The size of the buffer in front of a file. -/
def bufferSize : Nat := InPlace.capacity

/-- How many bytes for a target can wait. What is printed is handed over line by line, and
as nothing is read or noted within a line, that is as good as at once. -/
def bufferOf : Target → Nat
  | .standardOutput => 0
  | .file _ => bufferSize

/-- Where a target stops taking bytes, if it does. -/
def limitOf (faults : Faults) (target : Target) : Limit :=
  let refusal := match target with
    | .standardOutput => faults.printing
    | .file location => faults.writing location
  refusal.map fun (count, error) => (count, .system error)

def sinkOf (faults : Faults) (target : Target) : Sink :=
  .within (limitOf faults target) (bufferOf target)

/-- The world after some bytes have reached the target. -/
def deliver (world : World) (bytes : Bytes) : Target → World
  | .standardOutput => { world with output := world.output ++ bytes }
  | .file location =>
      match world.files.find? location with
      | some .standardOutput => { world with output := world.output ++ bytes }
      | some (.regular _) => { world with files := world.files.put location (.regular bytes) }
      | _ => world

/-- Takes the output away after a failure. A failure to do so is only noted. -/
def removeOutput (context : Context) (path : Bytes) : Action Unit := do
  let world ← get
  match world.files.remove context.faults path with
  | .ok files => setFiles files
  | .error fault => record (.removalFailed path fault)

/-- Writes the program to the output and cleans up if that fails. What waits when
it fails is still handed over if possible. -/
def writeProgram (context : Context) (settings : Settings) (source : Source) (path : Bytes) :
    Action Usage := do
  let target ← openOutput context path
  let world ← get
  let reader := readerOf context settings target world.files source
  let start : Channel := { sink := sinkOf context.faults target, events := world.events }
  let (result, channel) := (Emission.complete settings reader).run.run start
  let sink := channel.sink.flush.2
  set (deliver { world with events := channel.events } sink.content target)
  match result with
  | .ok usage => return usage
  | .error fault => do
      if target ≠ .standardOutput then removeOutput context path
      throw (.stream fault)

/-- Finds the source, which has to be a regular file. -/
def findSource (context : Context) (path : Bytes) : Action Location := do
  let world ← get
  match ← named path (world.files.examine context.faults path) with
  | (location, .regular _) => return location
  | _ => throw (.file path .notRegular)

/-- Reads the whole source. -/
def loadSource (context : Context) (path : Bytes) (location : Location) : Action Bytes := do
  let world ← get
  if let some error := context.faults.opening location then throw (.file path (.system error))
  let reader := readerAt context.faults world.files location
  match reader.failure with
  | some fault => throw (.file path fault)
  | none => return reader.delivered

/-- Reads the source and checks its brackets, or only opens it. -/
def prepareSource (context : Context) (strict : Bool) (path : Bytes) (location : Location) :
    Action Source := do
  if strict then
    let content ← loadSource context path location
    match Brackets.check content with
    | .ok _ => return .loaded content
    | .error imbalance => throw (.brackets imbalance)
  else
    if let some error := context.faults.opening location then throw (.file path (.system error))
    return .opened location

end Run

/-- The output path an invocation asks for. -/
def Invocation.outputPath (invocation : Invocation) (source : Bytes) : Bytes :=
  invocation.output.getD (PathName.defaultOutput source)

open Run in
/-- Carries out an invocation on a source. -/
def run (context : Context) (invocation : Invocation) (source : Bytes) : Action Unit := do
  let defaultVersion := VersionText.ofSource source context.now context.environment
  let settings ← invocation.settings defaultVersion
  record (.settingsChosen settings)
  let output := invocation.outputPath source
  record (.pathsChosen source output)
  let location ← findSource context source
  let prepared ← prepareSource context (invocation.has .strict) source location
  let usage ← writeProgram context settings prepared output
  record (.outputWritten output usage (settings.positional.resolve usage))

end BrainfuckCompiler
