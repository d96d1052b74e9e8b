import BrainfuckCompiler.Bytes

/-!
# Path names

A path is a byte string of names between slashes. Empty names and single dots
name nothing. The file name of a path is its last name, unless that is the
parent directory. The extension of a file name follows its last dot; a dot in
front of the whole name does not count.
-/
namespace BrainfuckCompiler.PathName

/-- An empty name or a single dot. -/
def isVoid (name : Bytes) : Bool := name = [] || name = [dot]

/-- The way up, two dots. -/
def parent : Bytes := [dot, dot]

/-- The file name of a path and the bytes in front of it. What follows the file
name, slashes and single dots, belongs to neither. -/
def split? (path : Bytes) : Option (Bytes × Bytes) :=
  match (Bytes.splitOn slash path).reverse.dropWhile isVoid with
  | [] => none
  | name :: before =>
      if name = parent then none else some (before.reverse.flatMap (· ++ [slash]), name)

def fileName? (path : Bytes) : Option Bytes := (split? path).map Prod.snd

/-- The part of a file name before its extension, and the extension. -/
def splitName (name : Bytes) : Bytes × Option Bytes :=
  match Bytes.cutAt dot name.reverse with
  | (_, none) => (name, none)
  | (_, some []) => (name, none)
  | (extension, some stem) => (stem.reverse, some extension.reverse)

def stem (name : Bytes) : Bytes := (splitName name).1

def extension? (path : Bytes) : Option Bytes := (fileName? path).bind fun name => (splitName name).2

/-- Cuts a path after the stem of its file name and appends `.c`; a path
without a file name stays as it is. -/
def appendC (path : Bytes) : Bytes :=
  match split? path with
  | some (before, name) => before ++ stem name ++ ascii ".c"
  | none => path

/-- Where the generated program goes when no output is named: next to the
source, with the extension `c`. The bytes of the old extension are first taken
off the end of the path, and the new one goes to the file name of what is
left. -/
def defaultOutput (path : Bytes) : Bytes :=
  match extension? path with
  | some extension => appendC (path.take (path.length - extension.length))
  | none => appendC path

/-- Whether the path is a single dash, which stands for the standard output.
Slashes and single dots behind it change nothing. -/
def isStandardOutput (path : Bytes) : Bool :=
  match Bytes.splitOn slash path with
  | first :: rest => first = [dash] && rest.all isVoid
  | [] => false

end BrainfuckCompiler.PathName
