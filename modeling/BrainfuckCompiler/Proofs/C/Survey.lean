import Mathlib.Data.List.Infix
import BrainfuckCompiler.Proofs.C.Lexemes

/-!
# What a C program says about its command line

A program that reads its command line with `getopt_long` shows in several places which
options it takes: in the table of long names, in the string of letters, in the labels of
the switch and in the usage that it prints. The survey of a text finds these places, and
the places where variables are declared, mentioned, printed or bound to an argument. It
looks at every position of every clause and knows nothing of how the text was made.

Texts that end between two clauses are surveyed one after the other. `Shows` keeps both
facts of a text together: that it ends there, and what is found in it.
-/
namespace BrainfuckCompiler.C

/-- An option as the table or the usage describes it. -/
structure Entry where
  letter : Bytes
  name : Bytes
  valued : Bool
  deriving DecidableEq, Repr

inductive Finding where
  | table (name : Bytes)
  /-- A row of a table of options. -/
  | row (entry : Entry)
  /-- The call that reads the command line, with its string of letters and its table. -/
  | call (letters table : Bytes)
  | label (letter : Bytes)
  /-- A line of the usage. -/
  | listing (entry : Entry)
  | prints (name : Bytes)
  /-- The first line of the usage, with what it calls its bare arguments. -/
  | synopsis (arguments : List Bytes)
  /-- The variable takes the next bare argument. -/
  | binds (name : Bytes)
  | declares (name : Bytes)
  | mentions (name : Bytes)
  deriving DecidableEq, Repr

/-- The variables whose mentions are of interest. -/
def pathVariables : List Bytes := [ascii "input_path", ascii "output_path"]

/-- The lexemes of a piece of code, read from its bytes as they are stored. -/
def lexemesOf (code : String) : List Lexeme :=
  (Pending.nothing.read (code.toByteArray.data.toList ++ [0x20])).1

/-- What follows a piece of code, if the lexemes begin with it. -/
def behind? (code : String) (lexemes : List Lexeme) : Option (List Lexeme) :=
  (lexemesOf code).isPrefixOf? lexemes

/-- Adjacent string literals are one string. -/
def joined : List Lexeme → Bytes × List Lexeme
  | .string spelled :: rest => (spelled ++ (joined rest).1, (joined rest).2)
  | rest => ([], rest)

def table? : List Lexeme → Option Finding
  | .word name :: rest => (behind? "[] = \x7b" rest).map fun _ => .table name
  | _ => none

def call? (lexemes : List Lexeme) : Option Finding :=
  match joined lexemes with
  | (letters, .mark 0x2c :: .word table :: .mark 0x2c :: _) => some (.call letters table)
  | _ => none

def label? : List Lexeme → Option Finding
  | .character letter :: .mark 0x3a :: _ => some (.label letter)
  | _ => none

/-- A line of the usage: two blanks, both names, and the value if there is one. -/
def listing? (line : Bytes) : Option Entry :=
  match (ascii "  -").isPrefixOf? line with
  | some (letter :: rest) =>
      ((ascii ", --").isPrefixOf? rest).map fun rest =>
        let value := (rest.dropWhile (· ≠ 0x20)).dropWhile (· = 0x20)
        ⟨[letter], rest.takeWhile (· ≠ 0x20), value.head? = some 0x3c⟩
  | _ => none

def output? : List Lexeme → Option Finding
  | .string line :: _ => (listing? line).map .listing
  | .word name :: .mark 0x29 :: _ => some (.prints name)
  | _ => none

/-- The words in angle brackets. -/
def bracketed (text : Bytes) : List Bytes :=
  (Bytes.splitOn 0x3c text).tail.map fun part => part.takeWhile (· ≠ 0x3e)

def synopsis? (lexemes : List Lexeme) : Option Finding :=
  some (.synopsis (bracketed (joined lexemes).1))

def declaration? : List Lexeme → Option Finding
  | .word name :: .mark 0x3d :: _ => some (.declares name)
  | _ => none

/-- What can follow certain pieces of code. -/
def leads : List (String × (List Lexeme → Option Finding)) := [
  ("struct option", table?), ("getopt_long(argc, argv,", call?), ("case", label?),
  ("puts(", output?), ("printf(", synopsis?), ("char*", declaration?)]

/-- Whether a value follows the option, by the word in its row. -/
def valued? (kind : Bytes) : Option Bool :=
  [(ascii "required_argument", true), (ascii "no_argument", false)].lookup kind

def row? : List Lexeme → Option Finding
  | .string name :: .mark 0x2c :: .word kind :: rest =>
      match valued? kind, behind? ", NULL," rest with
      | some valued, some (.character letter :: .mark 0x7d :: _) =>
          some (.row ⟨letter, name, valued⟩)
      | _, _ => none
  | _ => none

def binding? : List Lexeme → Option Finding
  | .word name :: rest => (behind? "= argv[optind++]" rest).map fun _ => .binds name
  | _ => none

def mention? : List Lexeme → Option Finding
  | .word name :: _ => if pathVariables.contains name then some (.mentions name) else none
  | _ => none

/-- What is found where the lexemes begin. -/
def foundAt (lexemes : List Lexeme) : List Finding :=
  leads.filterMap (fun lead => (behind? lead.1 lexemes).bind lead.2)
    ++ [row?, binding?, mention?].filterMap fun recognise => recognise lexemes

/-- What is found anywhere in a clause. -/
def findings (clause : List Lexeme) : List Finding := clause.tails.flatMap foundAt

/-- What is found in a text, in the order of the text. -/
def survey (text : Bytes) : List Finding := (clausesOf text).flatMap findings

namespace Finding

def table? : Finding → Option Bytes
  | .table name => some name
  | _ => none

def row? : Finding → Option Entry
  | .row entry => some entry
  | _ => none

def call? : Finding → Option (Bytes × Bytes)
  | .call letters name => some (letters, name)
  | _ => none

def label? : Finding → Option Bytes
  | .label letter => some letter
  | _ => none

def listing? : Finding → Option Entry
  | .listing entry => some entry
  | _ => none

def synopsis? : Finding → Option (List Bytes)
  | .synopsis arguments => some arguments
  | _ => none

def binding? : Finding → Option Bytes
  | .binds name => some name
  | _ => none

end Finding

/-- The options in a string of letters; a colon follows those with a value. -/
def shortOptions : Bytes → List (Bytes × Bool)
  | letter :: 0x3a :: rest => ([letter], true) :: shortOptions rest
  | letter :: rest => ([letter], false) :: shortOptions rest
  | [] => []

/-- The options with these letters are offered, and all that is shown of them agrees. -/
structure Offering (found : List Finding) (letters : List Bytes) : Prop where
  /-- There is one table; the one call uses it, with its letters and kinds. -/
  call : ∃ table spelled, found.filterMap Finding.table? = [table] ∧
    found.filterMap Finding.call? = [(spelled, table)] ∧
    shortOptions spelled = (found.filterMap Finding.row?).map fun entry =>
      (entry.letter, entry.valued)
  rows : (found.filterMap Finding.row?).map Entry.letter = letters
  labels : found.filterMap Finding.label? = letters
  listings : (found.filterMap Finding.listing?).Perm (found.filterMap Finding.row?)

/-- Wherever the variable is mentioned, it has been declared, and it is declared once. -/
def DeclaredOnce (name : Bytes) (found : List Finding) : Prop :=
  ∀ before after, found = before ++ .mentions name :: after →
    before.count (.declares name) = 1 ∧ .declares name ∉ after

theorem declaredOnce_of_split {name : Bytes} {first rest : List Finding}
    (hdeclares : .declares name ∉ first) (hmentions : .mentions name ∉ first)
    (hrest : .declares name ∉ rest) : DeclaredOnce name (first ++ .declares name :: rest) := by
  intro before after heq
  rcases List.append_eq_append_iff.mp heq with ⟨more, rfl, htail⟩ | ⟨more, rfl, htail⟩
  · cases more with
    | nil => exact absurd (List.cons.inj htail).1 (by simp)
    | cons finding more =>
        rw [List.cons_append] at htail
        obtain ⟨rfl, rfl⟩ := List.cons.inj htail
        rw [List.mem_append, List.mem_cons, not_or, not_or] at hrest
        obtain ⟨hmore, -, hafter⟩ := hrest
        refine ⟨?_, hafter⟩
        rw [List.count_append, List.count_cons_self, List.count_eq_zero_of_not_mem hdeclares,
          List.count_eq_zero_of_not_mem hmore]
  · cases more with
    | nil => exact absurd (List.cons.inj htail).1 (by simp)
    | cons finding more =>
        obtain ⟨rfl, -⟩ := List.cons.inj htail
        exact absurd (by simp) hmentions

theorem declaredOnce_of_not_mentioned {name : Bytes} {found : List Finding}
    (h : .mentions name ∉ found) : DeclaredOnce name found := by
  rintro before after rfl
  exact absurd (by simp) h

theorem behind?_eq_none {code : String} {lexemes : List Lexeme} (n : Nat)
    (hn : n ≤ (lexemesOf code).length) (h : lexemes.take n ≠ (lexemesOf code).take n) :
    behind? code lexemes = none := by
  cases hrest : behind? code lexemes with
  | none => rfl
  | some rest =>
      have hsplit : lexemesOf code ++ rest = lexemes :=
        List.isPrefixOf?_eq_some_iff_append_eq.mp hrest
      rw [← hsplit, List.take_append_of_le_length hn] at h
      exact absurd rfl h

/-- The words with which a finding can begin; the names of variables are apart. -/
def keywords : List Bytes := [ascii "struct", ascii "getopt_long", ascii "case", ascii "puts",
  ascii "printf", ascii "char"]

theorem map_take_leads : leads.map (fun lead => (lexemesOf lead.1).take 1) =
    keywords.map fun keyword => [.word keyword] := by
  decide +kernel

theorem foundAt_of_not_keyword {lexeme : Lexeme} (rest : List Lexeme)
    (h : ∀ keyword ∈ keywords, lexeme ≠ .word keyword) :
    foundAt (lexeme :: rest) =
      [row?, binding?, mention?].filterMap fun recognise => recognise (lexeme :: rest) := by
  have hnone :
      leads.filterMap (fun lead => (behind? lead.1 (lexeme :: rest)).bind lead.2) = [] := by
    rw [List.filterMap_eq_nil_iff]
    intro lead hlead
    have hfirst := List.mem_map_of_mem (f := fun lead => (lexemesOf lead.1).take 1) hlead
    rw [map_take_leads, List.mem_map] at hfirst
    obtain ⟨keyword, hkeyword, heq⟩ := hfirst
    have hlength : 1 ≤ (lexemesOf lead.1).length := by
      have := congrArg List.length heq
      simp only [List.length_cons, List.length_nil, List.length_take] at this
      omega
    rw [behind?_eq_none 1 hlength]
    · rfl
    · rw [← heq]
      simpa using h keyword hkeyword
  rw [foundAt, hnone, List.nil_append]

theorem findings_cons (lexeme : Lexeme) (rest : List Lexeme) :
    findings (lexeme :: rest) = foundAt (lexeme :: rest) ++ findings rest := by
  rw [findings, List.tails_cons, List.flatMap_cons, findings]

theorem findings_mark (b : UInt8) (rest : List Lexeme) :
    findings (.mark b :: rest) = findings rest := by
  rw [findings_cons, foundAt_of_not_keyword rest fun keyword _ => by simp]
  rfl

/-- A word that is no keyword and no path is passed over, unless it takes an argument. -/
theorem findings_word {name : Bytes} {rest : List Lexeme} (h : name ∉ keywords ++ pathVariables)
    (hbind : binding? (.word name :: rest) = none) :
    findings (.word name :: rest) = findings rest := by
  rw [List.mem_append, not_or] at h
  have hkeyword : ∀ keyword ∈ keywords, Lexeme.word name ≠ .word keyword := by
    rintro keyword hmem heq
    exact h.1 (Lexeme.word.inj heq ▸ hmem)
  have hmention : mention? (.word name :: rest) = none := by
    simp [mention?, h.2]
  rw [findings_cons, foundAt_of_not_keyword rest hkeyword]
  simp [row?, hbind, hmention]

/-- The text ends between two clauses, and these are its findings. -/
structure Shows (text : Bytes) (found : List Finding) : Prop where
  closed : Closed text
  survey_eq : survey text = found

instance (text : Bytes) (found : List Finding) : Decidable (Shows text found) :=
  decidable_of_iff (Closed text ∧ survey text = found) ⟨fun h => ⟨h.1, h.2⟩, fun h => ⟨h.1, h.2⟩⟩

namespace Shows

theorem nil : Shows [] [] := ⟨⟨rfl, rfl⟩, rfl⟩

theorem append {first second : Bytes} {found more : List Finding} (h : Shows first found)
    (k : Shows second more) : Shows (first ++ second) (found ++ more) := by
  refine ⟨h.closed.append k.closed, ?_⟩
  rw [survey, clausesOf_append h.closed, List.flatMap_append]
  exact congrArg₂ (· ++ ·) h.survey_eq k.survey_eq

/-- Parts that are made alike show what each of them shows. -/
theorem flatMap {α : Type} {part : α → Bytes} {shown : α → List Finding}
    (h : ∀ a, Shows (part a) (shown a)) (list : List α) :
    Shows (list.flatMap part) (list.flatMap shown) := by
  induction list with
  | nil => exact nil
  | cons a rest ih =>
      rw [List.flatMap_cons, List.flatMap_cons]
      exact (h a).append ih

end Shows

end BrainfuckCompiler.C
