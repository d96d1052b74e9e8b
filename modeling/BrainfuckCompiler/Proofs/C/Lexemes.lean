import BrainfuckCompiler.Proofs.C.Syntax

/-!
# Lexemes and clauses of a C text

A whole C text is read here as far as its words, marks and literals. The reader is a
machine that takes one byte at a time and gives out the lexemes that are complete by then.
Directives and comments are skipped, and a backslash in a literal takes the next byte with
it. Marks are single bytes: an operator of two characters counts as two marks.

A clause ends with a semicolon or a brace. Texts that end between two clauses can be read
one after the other, which is how the parts of a program are put together.
-/
namespace BrainfuckCompiler.C

inductive Lexeme where
  /-- A name or a number. -/
  | word (text : Bytes)
  | mark (b : UInt8)
  /-- A string literal, as it is spelled between its quotes. -/
  | string (spelled : Bytes)
  | character (spelled : Bytes)
  deriving DecidableEq, Repr

def apostrophe : UInt8 := 0x27
def numberSign : UInt8 := 0x23
def star : UInt8 := 0x2a
def semicolon : UInt8 := 0x3b

/-- What the bytes so far have begun and not ended. Words and literals are held latest byte
first. -/
inductive Pending where
  | nothing
  | word (letters : Bytes)
  | string (spelled : Bytes) (escaped : Bool)
  | character (spelled : Bytes) (escaped : Bool)
  /-- A slash, which may yet begin a comment. -/
  | slash
  /-- A directive or a comment that ends with its line. -/
  | restOfLine
  | comment (afterStar : Bool)
  deriving DecidableEq, Repr

namespace Pending

/-- A byte that does not continue anything. -/
def start (b : UInt8) : List Lexeme × Pending :=
  if isWordByte b then ([], .word [b])
  else if isBlank b then ([], .nothing)
  else if b = doubleQuote then ([], .string [] false)
  else if b = apostrophe then ([], .character [] false)
  else if b = BrainfuckCompiler.slash then ([], .slash)
  else if b = numberSign then ([], .restOfLine)
  else ([.mark b], .nothing)

def step : Pending → UInt8 → List Lexeme × Pending
  | .nothing, b => start b
  | .word letters, b =>
      if isWordByte b then ([], .word (b :: letters))
      else (.word letters.reverse :: (start b).1, (start b).2)
  | .string spelled true, b => ([], .string (b :: spelled) false)
  | .string spelled false, b =>
      if b = doubleQuote then ([.string spelled.reverse], .nothing)
      else ([], .string (b :: spelled) (b == backslash))
  | .character spelled true, b => ([], .character (b :: spelled) false)
  | .character spelled false, b =>
      if b = apostrophe then ([.character spelled.reverse], .nothing)
      else ([], .character (b :: spelled) (b == backslash))
  | .slash, b =>
      if b = BrainfuckCompiler.slash then ([], .restOfLine)
      else if b = star then ([], .comment false)
      else (.mark BrainfuckCompiler.slash :: (start b).1, (start b).2)
  | .restOfLine, b => ([], if b = newline then .nothing else .restOfLine)
  | .comment afterStar, b =>
      ([], if afterStar && b == BrainfuckCompiler.slash then .nothing else .comment (b == star))

/-- The lexemes that a text completes, and what it leaves unfinished. -/
def read : Pending → Bytes → List Lexeme × Pending
  | pending, [] => ([], pending)
  | pending, b :: rest =>
      ((pending.step b).1 ++ (read (pending.step b).2 rest).1, (read (pending.step b).2 rest).2)

theorem read_append (pending : Pending) (first second : Bytes) :
    pending.read (first ++ second) =
      ((pending.read first).1 ++ ((pending.read first).2.read second).1,
        ((pending.read first).2.read second).2) := by
  induction first generalizing pending with
  | nil => rfl
  | cons b rest ih =>
      have hstep := ih (pending.step b).2
      simp only [List.cons_append, read, hstep, List.append_assoc]

theorem read_append_of_eq {pending next : Pending} {first : Bytes} {lexemes : List Lexeme}
    (h : pending.read first = (lexemes, next)) (second : Bytes) :
    pending.read (first ++ second) = (lexemes ++ (next.read second).1, (next.read second).2) := by
  rw [read_append, h]

/-- A word goes on as long as there are word bytes. -/
theorem read_word {text : Bytes} (h : ∀ b ∈ text, isWordByte b = true) (letters : Bytes) :
    read (.word letters) text = ([], .word (text.reverse ++ letters)) := by
  induction text generalizing letters with
  | nil => rfl
  | cons b rest ih =>
      have hb : step (.word letters) b = ([], .word (b :: letters)) := by
        rw [step, if_pos (h b List.mem_cons_self)]
      rw [read, hb]
      have hrest := ih (fun c hc => h c (List.mem_cons_of_mem _ hc)) (b :: letters)
      rw [hrest]
      simp

end Pending

/-- The lexemes after which a new clause begins. -/
def clauseEnds : List Lexeme := [.mark semicolon, .mark 0x7b, .mark 0x7d]

/-- Cuts lexemes after each end of a clause; only the last clause can lack its end. -/
def clauses : List Lexeme → List (List Lexeme)
  | [] => []
  | lexeme :: rest =>
      if lexeme ∈ clauseEnds then [lexeme] :: clauses rest
      else
        match clauses rest with
        | [] => [[lexeme]]
        | clause :: others => (lexeme :: clause) :: others

def endsClause (lexemes : List Lexeme) : Bool := lexemes.getLast?.all fun last => last ∈ clauseEnds

theorem clauses_ne_nil {lexemes : List Lexeme} (h : lexemes ≠ []) : clauses lexemes ≠ [] := by
  cases lexemes with
  | nil => exact absurd rfl h
  | cons lexeme rest =>
      rw [clauses]
      split
      · exact List.cons_ne_nil _ _
      · split
        · exact List.cons_ne_nil _ _
        · exact List.cons_ne_nil _ _

theorem clauses_append {first : List Lexeme} (h : endsClause first = true)
    (second : List Lexeme) : clauses (first ++ second) = clauses first ++ clauses second := by
  induction first with
  | nil => rfl
  | cons lexeme rest ih =>
      rw [List.cons_append, clauses, clauses]
      cases rest with
      | nil =>
          have hend : lexeme ∈ clauseEnds := by simpa [endsClause] using h
          rw [if_pos hend, if_pos hend]
          rfl
      | cons next more =>
          have hrest : endsClause (next :: more) = true := by
            simpa only [endsClause, List.getLast?_cons_cons] using h
          rw [ih hrest]
          split
          · rfl
          · obtain ⟨clause, others, heq⟩ :=
              List.exists_cons_of_ne_nil (clauses_ne_nil (List.cons_ne_nil next more))
            rw [heq]
            rfl

/-- The text ends between two clauses. -/
structure Closed (text : Bytes) : Prop where
  complete : (Pending.nothing.read text).2 = .nothing
  ends : endsClause (Pending.nothing.read text).1 = true

instance (text : Bytes) : Decidable (Closed text) :=
  decidable_of_iff ((Pending.nothing.read text).2 = .nothing ∧
      endsClause (Pending.nothing.read text).1 = true)
    ⟨fun h => ⟨h.1, h.2⟩, fun h => ⟨h.1, h.2⟩⟩

def clausesOf (text : Bytes) : List (List Lexeme) := clauses (Pending.nothing.read text).1

theorem clausesOf_append {first : Bytes} (h : Closed first) (second : Bytes) :
    clausesOf (first ++ second) = clausesOf first ++ clausesOf second := by
  unfold clausesOf
  rw [Pending.read_append, h.complete]
  exact clauses_append h.ends _

theorem Closed.append {first second : Bytes} (h : Closed first) (k : Closed second) :
    Closed (first ++ second) := by
  have hread := Pending.read_append .nothing first second
  rw [h.complete] at hread
  constructor
  · rw [hread]
    exact k.complete
  · rw [hread]
    have hfirst := h.ends
    have hsecond := k.ends
    unfold endsClause at hfirst hsecond ⊢
    rw [List.getLast?_append]
    cases hlast : (Pending.nothing.read second).1.getLast? with
    | none => exact hfirst
    | some last => rwa [hlast] at hsecond

end BrainfuckCompiler.C
