import BrainfuckCompiler.Brackets
import BrainfuckCompiler.Fault
import BrainfuckCompiler.Utf8

/-!
# Errors of a run

The causes for which a run stops, and the message each one shows.
-/
namespace BrainfuckCompiler

inductive Error where
  /-- The cell array would have this many cells, which is not enough. -/
  | cellCount (cells : UInt64)
  /-- The brackets of the source do not match. -/
  | brackets (imbalance : Brackets.Imbalance)
  /-- A named file could not be opened or is of the wrong kind. -/
  | file (path : Bytes) (fault : Fault)
  /-- Reading or writing failed midway. -/
  | stream (fault : Fault)
  deriving DecidableEq, Repr

def Error.message : Error → Bytes
  | .cellCount cells =>
      ascii "invalid array size " ++ Decimal.digits cells.toNat ++ ascii ": must be at least 1"
  | .brackets (.unclosed position) => ascii "Unmatched '[' at position " ++ Decimal.digits position
  | .brackets (.unopened position) => ascii "Unmatched ']' at position " ++ Decimal.digits position
  | .file path fault => Utf8.lossy path ++ ascii ": " ++ fault.message
  | .stream fault => ascii "I/O error: " ++ fault.message

end BrainfuckCompiler
