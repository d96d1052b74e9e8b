import BrainfuckCompiler.Settings

/-!
# Statements of the generated program

Each operator of the source becomes a short group of C lines. A line is one of
twelve statements; loops appear as their opening and closing lines, which are
written as they come without regard to nesting.

The text of a line is a list of fragments, in the order in which they are
handed to the output.
-/
namespace BrainfuckCompiler

inductive Statement where
  | advance
  | retreat
  | increment
  | decrement
  | fetch
  | zeroAtEnd
  | store (width : CellWidth)
  | storeUnlessEnd (width : CellWidth)
  | put
  | flush
  | openLoop
  | closeLoop
  deriving DecidableEq, Repr

namespace Statement

/-- The line of a statement, cut where the cell type is filled in. -/
def fragments : Statement → List Bytes
  | .advance => [ascii "  ptr++;\n"]
  | .retreat => [ascii "  ptr--;\n"]
  | .increment => [ascii "  (*ptr)++;\n"]
  | .decrement => [ascii "  (*ptr)--;\n"]
  | .fetch => [ascii "  ch = getchar2();\n"]
  | .zeroAtEnd => [ascii "  if (ch == EOF) ch = 0;\n"]
  | .store width => [ascii "  *ptr = (", ascii width.typeName, ascii ") ch;\n"]
  | .storeUnlessEnd width => [ascii "  if (ch != EOF) *ptr = (", ascii width.typeName, ascii ") ch;\n"]
  | .put => [ascii "  putchar(*ptr);\n"]
  | .flush => [ascii "  fflush(stdout);\n"]
  | .openLoop => [ascii "  while (*ptr) \x7b\n"]
  | .closeLoop => [ascii "  \x7d\n"]

/-- The line of a statement, line end included. -/
def text (statement : Statement) : Bytes := statement.fragments.flatten

end Statement

/-- How a fetched character reaches the cell. -/
def EndOfInput.statements (width : CellWidth) : EndOfInput → List Statement
  | .storeZero => [.zeroAtEnd, .store width]
  | .storeMinusOne => [.store width]
  | .keepCell => [.storeUnlessEnd width]

/-- The group of statements an operator becomes. -/
def Operator.statements (settings : Settings) : Operator → List Statement
  | .right => [.advance]
  | .left => [.retreat]
  | .increment => [.increment]
  | .decrement => [.decrement]
  | .put => if settings.flushes then [.put, .flush] else [.put]
  | .get => .fetch :: settings.endOfInput.statements settings.width
  | .openLoop => [.openLoop]
  | .closeLoop => [.closeLoop]

/-- The fragments of the group of one operator. -/
def Operator.fragments (settings : Settings) (operator : Operator) : List Bytes :=
  (operator.statements settings).flatMap Statement.fragments

end BrainfuckCompiler
