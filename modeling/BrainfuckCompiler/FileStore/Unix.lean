import BrainfuckCompiler.FileStore

/-!
# The special files of a Unix system

The files that every process finds: the null device, its own memory, which is a
regular file that cannot be read at the start, and its standard output under
the name of its descriptor. The directories of processes are closed.
-/
namespace BrainfuckCompiler.FileStore

namespace Unix

def processes : Location := [ascii "proc"]
def process : Location := processes ++ [ascii "self"]
def memory : Location := process ++ [ascii "mem"]
def descriptors : Location := process ++ [ascii "fd"]
def descriptorOne : Location := descriptors ++ [ascii "1"]
def devices : Location := [ascii "dev"]
def nullDevice : Location := devices ++ [ascii "null"]

/-- The location itself and all directories above it. -/
def ancestors : Location → List Location
  | [] => [[]]
  | name :: rest => [] :: (ancestors rest).map (name :: ·)

/-- A system whose only other files are the directories down to `here`. -/
def store (here : Location) : FileStore where
  nodes := [
      (devices, .directory), (nullDevice, .nullDevice), (processes, .closedDirectory),
      (process, .closedDirectory), (memory, .regular []), (descriptors, .closedDirectory),
      (descriptorOne, .standardOutput)]
    ++ (ancestors here).map fun location => (location, .directory)
  here := here

/-- The memory of a process cannot be read or written at its start. -/
def faults : Faults where
  reading location := if location = memory then some (0, .inputOutput) else none
  writing location := if location = memory then some (0, .inputOutput) else none

end Unix

end BrainfuckCompiler.FileStore
