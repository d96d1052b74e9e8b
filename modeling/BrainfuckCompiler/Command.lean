import BrainfuckCompiler.Invocation.Help
import BrainfuckCompiler.Invocation.Reading
import BrainfuckCompiler.Journal.Filter
import BrainfuckCompiler.Run

/-!
# The whole program

From the words of the command line to what the process leaves behind: its
status, what it printed, and the files. The journal is turned into log lines
here and nowhere else.
-/
namespace BrainfuckCompiler.Command

/-- How the program ends. -/
inductive Ending where
  | helpShown
  | rejected (reason : Invocation.Rejection)
  | versionShown
  /-- The version could not be printed. The runtime stops the program then and reports that in
  its own words, which are no part of the outcome. -/
  | aborted (fault : Fault)
  | finished
  | failed (error : Error)
  deriving DecidableEq, Repr

structure Outcome where
  ending : Ending
  files : FileStore
  output : Bytes := []
  errorOutput : Bytes := []
  deriving DecidableEq, Repr

def Ending.status : Ending → UInt8
  | .helpShown => 0
  | .rejected _ => 2
  | .versionShown => 0
  | .aborted _ => 101
  | .finished => 0
  | .failed _ => 1

/-- The variable that may hold a filter for log lines. -/
def filterVariable : String := "RUST_LOG"

/-- The written filter for log lines: from the environment, or by the debug
flag. -/
def filterText (environment : Environment) (debug : Bool) : Bytes :=
  let standard := ascii (if debug then "debug" else "warn")
  match environment.value? filterVariable with
  | some text => if Utf8.isValid text then text else standard
  | none => standard

/-- The last line of a run that failed. -/
def failureLine (error : Error) : Bytes := ascii "bf2c: " ++ error.message ++ [newline]

/-- What the standard output takes of a short text, and how that ends. -/
def printed (faults : Faults) (text : Bytes) : Except Fault Unit × Bytes :=
  let (result, sink) := (Run.sinkOf faults .standardOutput).write text
  (result, sink.content)

/-- The line that tells the version. -/
def versionLine : Bytes := ascii "bf2c " ++ ascii VersionText.packageVersion ++ [newline]

/-- Shows the version and does nothing else. -/
def showVersion (faults : Faults) (filter : Bytes) (files : FileStore) : Outcome :=
  let shown := printed faults versionLine
  let ending := match shown.1 with
    | .ok _ => .versionShown
    | .error fault => .aborted fault
  ⟨ending, files, shown.2, Journal.render filter []⟩

/-- Carries out an accepted command line. -/
def perform (context : Context) (invocation : Invocation) (files : FileStore) : Outcome :=
  let filter := filterText context.environment (invocation.has .debug)
  match invocation.source, invocation.has .version with
  | some source, false =>
      let (result, world) := (run context invocation source).run.run { files := files }
      let log := Journal.render filter world.events.reverse
      match result with
      | .ok _ => ⟨.finished, world.files, world.output, log⟩
      | .error error => ⟨.failed error, world.files, world.output, log ++ failureLine error⟩
  | _, _ => showVersion context.faults filter files

/-- The program on the words of its command line. That the help could not be printed is not
noticed. -/
def execute (context : Context) (words : List Bytes) (files : FileStore) : Outcome :=
  match Invocation.read words with
  | .error .helpRequested =>
      ⟨.helpShown, files, (printed context.faults Invocation.Help.text).2, []⟩
  | .error (.rejected reason) => ⟨.rejected reason, files, [], []⟩
  | .ok invocation => perform context invocation files

end BrainfuckCompiler.Command
