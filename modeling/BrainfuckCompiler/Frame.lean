import BrainfuckCompiler.Settings
import BrainfuckCompiler.StringLiteral

/-!
# The fixed parts around the statements

The generated program opens with its includes, the texts it carries, its
forward declarations and the allocation of the cells. After the statements
come the end of the main function and the helper that fetches one character of
input, either from a message given on the command line or from standard input.
-/
namespace BrainfuckCompiler.Frame

def includes : Bytes := lines [
  "#include <stdio.h>",
  "#include <stdlib.h>",
  "#include <stdint.h>",
  "#include <string.h>",
  "#include <getopt.h>",
  "#include <unistd.h>",
  ""]

/-- A string variable, if there is a text for it. -/
def variableFragments (name : String) : Option Bytes → List Bytes
  | none => []
  | some text =>
      [ascii "static char* " ++ ascii name ++ ascii " = \""]
        ++ text.map StringLiteral.escapeByte ++ [ascii "\";\n"]

/-- Everything before the allocation names the cell type. -/
def mainHead : Bytes := lines [
  "int getchar2(void);",
  "int options(int argc, char** argv);",
  "",
  "int main(int argc, char** argv) \x7b",
  "  options(argc, argv);",
  "  int ch;"] ++ ascii "  "

def allocationCheck : Bytes := ascii ", sizeof *buff);\n" ++ lines [
  "  if (buff == NULL) \x7b",
  "    perror(\"calloc()\");",
  "    return 1;",
  "  \x7d"] ++ ascii "  "

/-- The main function up to the first statement. -/
def mainFragments (settings : Settings) : List Bytes := [
  mainHead,
  ascii settings.width.typeName,
  ascii "* buff = calloc(",
  Decimal.digits settings.cells.toNat,
  allocationCheck,
  ascii settings.width.typeName,
  ascii "* ptr = buff;\n"]

/-- All that stands before the first statement. -/
def preamble (settings : Settings) : List Bytes :=
  [includes]
    ++ variableFragments "VERSION" settings.version
    ++ variableFragments "COPYRIGHT" settings.copyright
    ++ mainFragments settings

/-- The end of the main function. -/
def epilogue : List Bytes := [lines [
  "  (void) ch;",
  "  free(buff);",
  "  return 0;",
  "\x7d",
  ""]]

/-- The helper that fetches a character: the message first, if there is one,
then the end of input for ever. -/
def inputHelper : List Bytes := [lines [
  "static char* message = NULL;",
  "",
  "int getchar2(void) \x7b",
  "  if (message == NULL) \x7b",
  "    return getchar();",
  "  \x7d else if (*message == '\\0') \x7b",
  "    return EOF;",
  "  \x7d else \x7b",
  "    return (unsigned char) *(message++);",
  "  \x7d",
  "\x7d",
  ""]]

end BrainfuckCompiler.Frame
