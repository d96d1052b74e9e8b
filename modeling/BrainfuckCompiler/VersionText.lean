import BrainfuckCompiler.Moment
import BrainfuckCompiler.PathName
import BrainfuckCompiler.Utf8

/-!
# The version text a program carries by default

The text names the source file, the version of this program, the time and the
user. It is always valid text: what is not text in the name of the source is
replaced, and a user name that is not text is passed over.
-/
namespace BrainfuckCompiler

/-- The variables of the environment with their values. -/
abbrev Environment := List (String × Bytes)

def Environment.value? (environment : Environment) (name : String) : Option Bytes :=
  List.lookup name environment

namespace VersionText

/-- The version of this program. -/
def packageVersion : String := "0.1.2"

/-- The variables that may name the user, in order of preference. -/
def userVariables : List String := ["LOGNAME", "USER", "LNAME", "USERNAME"]

/-- The first variable with a name that is text decides. -/
def userName (environment : Environment) : Bytes :=
  let names := userVariables.filterMap environment.value?
  (names.find? fun name => name ≠ [] ∧ Utf8.isValid name = true).getD (ascii "noname")

/-- The name of the source as text; a path without a file name is shown whole. -/
def sourceName (path : Bytes) : Bytes := Utf8.lossy ((PathName.fileName? path).getD path)

/-- The version text of a source. -/
def ofSource (path : Bytes) (now : Moment) (environment : Environment) : Bytes :=
  ascii "@(#) $Id: " ++ sourceName path ++ ascii " " ++ ascii packageVersion ++ ascii " "
    ++ now.text ++ ascii " " ++ userName environment ++ ascii " Exp $"

end VersionText

end BrainfuckCompiler
