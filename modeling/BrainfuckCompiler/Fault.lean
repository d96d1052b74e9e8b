import BrainfuckCompiler.Decimal

/-!
# Failures of streams and files

What a stream or the operating system reports when it refuses to go on. The
words are fixed by the reporter and only passed along in messages.
-/
namespace BrainfuckCompiler

/-- The error numbers of the operating system that files can meet here. -/
inductive SystemError where
  | notPermitted
  | noEntry
  | inputOutput
  | denied
  | notDirectory
  | isDirectory
  | noSpace
  | nameTooLong
  | other (number : Nat) (description : String)
  deriving DecidableEq, Repr

namespace SystemError

def number : SystemError → Nat
  | .notPermitted => 1
  | .noEntry => 2
  | .inputOutput => 5
  | .denied => 13
  | .notDirectory => 20
  | .isDirectory => 21
  | .noSpace => 28
  | .nameTooLong => 36
  | .other number _ => number

def description : SystemError → String
  | .notPermitted => "Operation not permitted"
  | .noEntry => "No such file or directory"
  | .inputOutput => "Input/output error"
  | .denied => "Permission denied"
  | .notDirectory => "Not a directory"
  | .isDirectory => "Is a directory"
  | .noSpace => "No space left on device"
  | .nameTooLong => "File name too long"
  | .other _ description => description

/-- The description followed by the number. -/
def message (error : SystemError) : Bytes :=
  ascii error.description ++ ascii " (os error " ++ Decimal.digits error.number ++ ascii ")"

end SystemError

/-- The reason why a file or stream operation failed. -/
inductive Fault where
  /-- The operating system refused. -/
  | system (error : SystemError)
  /-- A sink took none of the bytes offered to it. -/
  | nothingAccepted
  /-- A path with a zero byte in it cannot be handed to the system. -/
  | zeroInName
  /-- The source exists, but is not a regular file. -/
  | notRegular
  /-- A stream supplied by the caller failed in its own words. -/
  | reported (description : String)
  deriving DecidableEq, Repr

def Fault.message : Fault → Bytes
  | .system error => error.message
  | .nothingAccepted => ascii "failed to write whole buffer"
  | .zeroInName => ascii "file name contained an unexpected NUL byte"
  | .notRegular => ascii "not a regular file"
  | .reported description => ascii description

end BrainfuckCompiler
