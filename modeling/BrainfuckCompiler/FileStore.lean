import BrainfuckCompiler.Fault
import BrainfuckCompiler.PathName

/-!
# Files and directories

A file store says what stands at each location, a location being the names on
the way down from the root. Paths are followed name by name: every name but the
last has to be a directory. There are no links, symbolic or hard: a file stands
at one location, and two paths denote the same file only as two spellings of
it. `Faults` says where the system fails for reasons of its own; an operation
that fails changes nothing.
-/
namespace BrainfuckCompiler

abbrev Location := List Bytes

inductive Node where
  | directory
  /-- A directory whose names are given once and for all: none is added or
  removed, and any other name, however long, is just missing. -/
  | closedDirectory
  | regular (content : Bytes)
  /-- Takes everything and holds nothing. -/
  | nullDevice
  /-- The standard output of the process under a name of its own. -/
  | standardOutput
  deriving DecidableEq, Repr

structure FileStore where
  nodes : List (Location × Node)
  /-- The directory from which relative paths start. -/
  here : Location
  deriving DecidableEq, Repr

/-- Where the system fails. A number tells how many bytes pass before. -/
structure Faults where
  examining : Location → Option SystemError := fun _ => none
  opening : Location → Option SystemError := fun _ => none
  creating : Location → Option SystemError := fun _ => none
  removing : Location → Option SystemError := fun _ => none
  reading : Location → Option (Nat × SystemError) := fun _ => none
  writing : Location → Option (Nat × SystemError) := fun _ => none
  /-- The standard output. One that is closed does not fail: it drops everything. -/
  printing : Option (Nat × SystemError) := none

namespace FileStore

def find? (store : FileStore) (location : Location) : Option Node :=
  List.lookup location store.nodes

/-- Puts a node at a location, in the place of any other. -/
def put (store : FileStore) (location : Location) (node : Node) : FileStore :=
  { store with nodes := (location, node) :: store.nodes.filter (·.1 ≠ location) }

def erase (store : FileStore) (location : Location) : FileStore :=
  { store with nodes := store.nodes.filter (·.1 ≠ location) }

theorem lookup_filter_of_ne {location other : Location} (h : other ≠ location)
    (nodes : List (Location × Node)) :
    List.lookup other (nodes.filter (·.1 ≠ location)) = List.lookup other nodes := by
  induction nodes with
  | nil => rfl
  | cons entry rest ih =>
      obtain ⟨place, node⟩ := entry
      by_cases hp : place = location
      · subst hp
        have hne : (other == place) = false := by simpa using h
        simpa [List.lookup_cons, hne] using ih
      · simp only [ne_eq, decide_not] at ih
        simp [hp, List.lookup_cons, ih]

theorem lookup_filter_self (location : Location) (nodes : List (Location × Node)) :
    List.lookup location (nodes.filter (·.1 ≠ location)) = none := by
  induction nodes with
  | nil => rfl
  | cons entry rest ih =>
      obtain ⟨place, node⟩ := entry
      by_cases hp : place = location
      · simpa [hp] using ih
      · have hne : (location == place) = false := by simpa using Ne.symm hp
        simp only [ne_eq, decide_not] at ih
        simp [hp, List.lookup_cons, hne, ih]

@[simp] theorem find?_put_self (store : FileStore) (location : Location) (node : Node) :
    (store.put location node).find? location = some node := by
  simp [find?, put]

/-- Putting a node changes no other location. -/
theorem find?_put_of_ne (store : FileStore) {location other : Location} (node : Node)
    (h : other ≠ location) : (store.put location node).find? other = store.find? other := by
  have hne : (other == location) = false := by simpa using h
  simpa [find?, put, List.lookup_cons, hne] using lookup_filter_of_ne h store.nodes

@[simp] theorem find?_erase_self (store : FileStore) (location : Location) :
    (store.erase location).find? location = none :=
  lookup_filter_self location store.nodes

/-- Erasing a location changes no other one. -/
theorem find?_erase_of_ne (store : FileStore) {location other : Location}
    (h : other ≠ location) : (store.erase location).find? other = store.find? other :=
  lookup_filter_of_ne h store.nodes

/-- The longest name a directory can hold. -/
def longestName : Nat := 255

/-- The longest path the system takes. -/
def longestPath : Nat := 4095

/-- One name further: a single dot stays, two dots go up. -/
def step (location : Location) (name : Bytes) : Location :=
  if name = [dot] then location
  else if name = PathName.parent then location.dropLast
  else location ++ [name]

/-- Follows names from a location. What is left must be a directory at every
name; the last name may lead to anything, or nothing. -/
def walk (store : FileStore) : Location → List Bytes → Except SystemError Location
  | location, [] => .ok location
  | location, name :: rest =>
      match store.find? location with
      | none => .error .noEntry
      | some .directory =>
          if longestName < name.length then .error .nameTooLong
          else walk store (step location name) rest
      | some .closedDirectory => walk store (step location name) rest
      | some _ => .error .notDirectory

/-- Where a path starts. -/
def origin (store : FileStore) : Bytes → Location
  | 0x2f :: _ => []
  | _ => store.here

/-- The names of a path. -/
def names (path : Bytes) : List Bytes := (Bytes.splitOn slash path).filter (· ≠ [])

def endsInSlash (path : Bytes) : Bool := path.getLast? = some slash

/-- Paths the system does not even follow. -/
def admissible (path : Bytes) : Except Fault Unit :=
  if 0 ∈ path then .error .zeroInName
  else if path = [] then .error (.system .noEntry)
  else if longestPath < path.length then .error (.system .nameTooLong)
  else .ok ()

def system {α : Type} : Except SystemError α → Except Fault α
  | .ok result => .ok result
  | .error error => .error (.system error)

/-- The location a path denotes. A slash at the end asks for a directory. -/
def locate (store : FileStore) (path : Bytes) : Except Fault Location := do
  admissible path
  let wanted := names path ++ (if endsInSlash path then [[dot]] else [])
  system (store.walk (store.origin path) wanted)

/-- What a path denotes, which has to exist. -/
def examine (store : FileStore) (faults : Faults) (path : Bytes) :
    Except Fault (Location × Node) := do
  let location ← store.locate path
  match faults.examining location, store.find? location with
  | some error, _ => .error (.system error)
  | none, none => .error (.system .noEntry)
  | none, some node => .ok (location, node)

/-- The location at which a path asks for a file. A path that ends in a slash
or in dots asks for a directory instead. -/
def locateFile (store : FileStore) (path : Bytes) : Except Fault Location := do
  admissible path
  let start := store.origin path
  match (names path).reverse with
  | [] => .error (.system .isDirectory)
  | last :: before => do
      let parent ← system (store.walk start (before.reverse ++ [[dot]]))
      if endsInSlash path || last = [dot] || last = PathName.parent then .error (.system .isDirectory)
      else system (store.walk parent [last])

/-- Whether names can be added to and removed from the directory of a location. -/
def changeable (store : FileStore) (location : Location) : Bool :=
  store.find? location.dropLast ≠ some .closedDirectory

/-- Creates an empty file, or empties the file that is there. -/
def create (store : FileStore) (faults : Faults) (path : Bytes) :
    Except Fault (Location × FileStore) := do
  let location ← store.locateFile path
  match faults.creating location, store.find? location with
  | some error, _ => .error (.system error)
  | none, some .directory => .error (.system .isDirectory)
  | none, some .closedDirectory => .error (.system .isDirectory)
  | none, some .nullDevice => .ok (location, store)
  | none, some .standardOutput => .ok (location, store)
  | none, some (.regular _) => .ok (location, store.put location (.regular []))
  | none, none =>
      if store.changeable location then .ok (location, store.put location (.regular []))
      else .error (.system .noEntry)

/-- Removes a file. -/
def remove (store : FileStore) (faults : Faults) (path : Bytes) : Except Fault FileStore := do
  let location ← store.locate path
  match faults.removing location, store.find? location with
  | some error, _ => .error (.system error)
  | none, none => .error (.system .noEntry)
  | none, some .directory => .error (.system .isDirectory)
  | none, some .closedDirectory => .error (.system .isDirectory)
  | none, some _ =>
      if store.changeable location then .ok (store.erase location)
      else .error (.system .notPermitted)

end FileStore

end BrainfuckCompiler
