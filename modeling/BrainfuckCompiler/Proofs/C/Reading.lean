import BrainfuckCompiler.Proofs.Brackets
import BrainfuckCompiler.Proofs.C.Syntax
import BrainfuckCompiler.Proofs.Layout

/-!
# Reading the statements of a generated program

The lines of a program are written one after the other without regard to nesting.
They are read back here as C: each line is one phrase, and the phrases of a source
nest if its brackets match. `Translates` relates a stretch of operators to the code
that its lines amount to; it follows the brackets of the source and never mentions
the text.
-/
namespace BrainfuckCompiler

/-- What a line says when it is read as C. -/
def Statement.phrase : Statement → C.Phrase
  | .advance => .act .always .advance
  | .retreat => .act .always .retreat
  | .increment => .act .always .increment
  | .decrement => .act .always .decrement
  | .fetch => .act .always .fetch
  | .zeroAtEnd => .act .atEnd .clear
  | .store _ => .act .always .store
  | .storeUnlessEnd _ => .act .notAtEnd .store
  | .put => .act .always .put
  | .flush => .act .always .flush
  | .openLoop => .openLoop
  | .closeLoop => .closeLoop

/-- The statement casts to this type if it casts at all. -/
def Statement.CastsTo (width : CellWidth) : Statement → Prop
  | .store other => other = width
  | .storeUnlessEnd other => other = width
  | _ => True

namespace C

/-- The text ends between two tokens. -/
def Complete (text : Bytes) : Prop := (text.foldl Scanner.step {}).pending = []

instance (text : Bytes) : Decidable (Complete text) := inferInstanceAs (Decidable (_ = _))

theorem foldl_step_tokens (text : Bytes) (earlier : List Bytes) (scanner : Scanner) :
    text.foldl Scanner.step ⟨earlier ++ scanner.tokens, scanner.pending⟩ =
      ⟨earlier ++ (text.foldl Scanner.step scanner).tokens,
        (text.foldl Scanner.step scanner).pending⟩ := by
  induction text generalizing scanner with
  | nil => rfl
  | cons b rest ih =>
      rw [List.foldl_cons, List.foldl_cons, ← ih]
      congr 1
      unfold Scanner.step Scanner.close
      split
      · rfl
      · split <;> simp

theorem tokens_append {first : Bytes} (h : Complete first) (second : Bytes) :
    tokens (first ++ second) = tokens first ++ tokens second := by
  unfold tokens
  rw [List.foldl_append]
  rcases hs : first.foldl Scanner.step {} with ⟨earlier, pending⟩
  obtain rfl : pending = [] := by simpa [Complete, hs] using h
  have later := foldl_step_tokens second earlier {}
  rw [List.append_nil] at later
  rw [later]
  unfold Scanner.close
  split <;> simp_all

/-- The tokens make up one phrase. -/
def IsPhrase : List Bytes → Bool
  | [] => false
  | token :: rest => if terminators.contains token then rest.isEmpty else IsPhrase rest

theorem phrases_append {phrase : List Bytes} (h : IsPhrase phrase) (rest : List Bytes) :
    phrases (phrase ++ rest) = phrase :: phrases rest := by
  induction phrase with
  | nil => cases h
  | cons token more ih =>
      rw [IsPhrase] at h
      rw [List.cons_append, phrases]
      split at h
      · next ht =>
        obtain rfl := List.isEmpty_iff.mp h
        rw [if_pos (List.contains_iff_mem.mp ht), List.nil_append]
      · next ht => rw [if_neg (fun hm => ht (List.contains_iff_mem.mpr hm)), ih h]

end C

namespace Statement
open C

theorem complete_text (statement : Statement) : Complete statement.text := by
  cases statement with
  | store width => cases width <;> decide +kernel
  | storeUnlessEnd width => cases width <;> decide +kernel
  | _ => decide +kernel

theorem isPhrase_tokens (statement : Statement) : IsPhrase (tokens statement.text) := by
  cases statement with
  | store width => cases width <;> decide +kernel
  | storeUnlessEnd width => cases width <;> decide +kernel
  | _ => decide +kernel

theorem phrase?_tokens {width : CellWidth} {statement : Statement} (h : statement.CastsTo width) :
    phrase? (ascii width.typeName) (tokens statement.text) = some statement.phrase := by
  cases statement with
  | store other => obtain rfl : other = width := h; cases other <;> decide +kernel
  | storeUnlessEnd other => obtain rfl : other = width := h; cases other <;> decide +kernel
  | _ => cases width <;> decide +kernel

end Statement

theorem Operator.castsTo_width {settings : Settings} {operator : Operator} {statement : Statement}
    (h : statement ∈ operator.statements settings) : statement.CastsTo settings.width := by
  cases operator with
  | put =>
      simp only [statements] at h
      split at h <;> simp at h <;> rcases h with rfl | rfl <;> trivial
  | get =>
      rcases List.mem_cons.mp h with rfl | h
      · trivial
      · cases hp : settings.endOfInput <;> simp [hp, EndOfInput.statements] at h
        · rcases h with rfl | rfl <;> trivial
        · subst h; rfl
        · subst h; rfl
  | _ =>
      obtain rfl := List.mem_singleton.mp h
      trivial

/-- The code of a phrase that is no bracket of a loop. -/
def C.Phrase.code? : C.Phrase → Option C.Code
  | .act condition action => some (.act condition action)
  | .openLoop => none
  | .closeLoop => none

/-- The code of an operator that is not a bracket. -/
def Operator.code (settings : Settings) (operator : Operator) : List C.Code :=
  (operator.statements settings).filterMap fun statement => statement.phrase.code?

namespace C

/-- Each line of a list of statements is one phrase, with anything behind the lines. -/
theorem phrases_statements (list : List Statement) (rest : Bytes) :
    phrases (tokens (list.flatMap Statement.text ++ rest)) =
      (list.map fun statement => tokens statement.text) ++ phrases (tokens rest) := by
  induction list with
  | nil => rfl
  | cons statement more ih =>
      rw [List.flatMap_cons, List.append_assoc, tokens_append statement.complete_text,
        phrases_append statement.isPhrase_tokens, ih]
      rfl

/-- Each line is read as the phrase it stands for. -/
theorem mapM_phrase? {width : CellWidth} {list : List Statement}
    (h : ∀ statement ∈ list, statement.CastsTo width) :
    (list.map fun statement => tokens statement.text).mapM (phrase? (ascii width.typeName)) =
      some (list.map Statement.phrase) := by
  induction list with
  | nil => rfl
  | cons statement rest ih =>
      rw [List.map_cons, List.mapM_cons, Statement.phrase?_tokens (h statement List.mem_cons_self),
        ih fun other ho => h other (List.mem_cons_of_mem _ ho)]
      rfl

/-- The code of a stretch of operators whose brackets match. -/
inductive Translates (settings : Settings) : List Operator → List Code → Prop
  | nil : Translates settings [] []
  | plain {operator : Operator} {rest : List Operator} {code : List Code} :
      operator ≠ .openLoop → operator ≠ .closeLoop → Translates settings rest code →
      Translates settings (operator :: rest) (operator.code settings ++ code)
  | loop {body rest : List Operator} {inner code : List Code} :
      Translates settings body inner → Translates settings rest code →
      Translates settings (.openLoop :: body ++ .closeLoop :: rest) (.loop inner :: code)

theorem Translates.append {settings : Settings} {first second : List Operator}
    {before after : List Code} (h : Translates settings first before)
    (k : Translates settings second after) :
    Translates settings (first ++ second) (before ++ after) := by
  induction h with
  | nil => exact k
  | plain ho hc _ ih =>
      rw [List.cons_append, List.append_assoc]
      exact .plain ho hc ih
  | loop hbody _ _ ih =>
      have := Translates.loop hbody ih
      simpa only [List.cons_append, List.append_assoc] using this

theorem operators_append (first second : Bytes) :
    operators (first ++ second) = operators first ++ operators second :=
  List.filterMap_append

/-- A balanced source has a translation. -/
theorem exists_translates (settings : Settings) {source : Bytes} (h : Brackets.Balanced source) :
    ∃ code, Translates settings (operators source) code := by
  induction h with
  | nil => exact ⟨[], .nil⟩
  | @other b rest ho hc _ ih =>
      obtain ⟨code, hcode⟩ := ih
      cases hb : Operator.ofByte? b with
      | none => exact ⟨code, by rwa [operators, List.filterMap_cons_none hb]⟩
      | some operator =>
          rw [Operator.ofByte?_eq_some_iff] at hb
          subst hb
          refine ⟨operator.code settings ++ code, ?_⟩
          rw [operators, List.filterMap_cons_some ((Operator.ofByte?_eq_some_iff _ _).mpr rfl)]
          exact .plain (fun h => ho (congrArg _ h)) (fun h => hc (congrArg _ h)) hcode
  | loop _ _ ihbody ihrest =>
      obtain ⟨inner, hinner⟩ := ihbody
      obtain ⟨code, hcode⟩ := ihrest
      refine ⟨.loop inner :: code, ?_⟩
      rw [operators_append]
      exact .loop hinner hcode

/-- Plain lines go to the innermost open block. -/
theorem nest_plain (settings : Settings) {operator : Operator} (ho : operator ≠ .openLoop)
    (hc : operator ≠ .closeLoop) (rest : List Phrase) (block : List Code)
    (outer : List (List Code)) :
    nest ((operator.statements settings).map Statement.phrase ++ rest) block outer =
      nest rest ((operator.code settings).reverse ++ block) outer := by
  cases operator with
  | openLoop => exact absurd rfl ho
  | closeLoop => exact absurd rfl hc
  | put =>
      simp only [Operator.code, Operator.statements]
      split <;> rfl
  | get =>
      simp only [Operator.code, Operator.statements]
      cases settings.endOfInput <;> rfl
  | _ => rfl

/-- The lines of a stretch with matching brackets leave all open blocks open. -/
theorem nest_of_translates {settings : Settings} {list : List Operator} {code : List Code}
    (h : Translates settings list code) (rest : List Phrase) (block : List Code)
    (outer : List (List Code)) :
    nest ((list.flatMap (Operator.statements settings)).map Statement.phrase ++ rest) block outer =
      nest rest (code.reverse ++ block) outer := by
  induction h generalizing rest block outer with
  | nil => rfl
  | plain ho hc _ ih =>
      rw [List.flatMap_cons, List.map_append, List.append_assoc, nest_plain settings ho hc, ih,
        List.reverse_append, List.append_assoc]
  | @loop body more inner code _ _ ihbody ihrest =>
      have hopen (phrases : List Phrase) :
          nest (.openLoop :: phrases) block outer = nest phrases [] (block :: outer) := by
        cases outer <;> rfl
      simp only [List.cons_append, List.flatMap_cons, List.flatMap_append, List.map_append,
        List.append_assoc]
      change nest (.openLoop :: (_ ++ .closeLoop :: (_ ++ rest))) block outer = _
      rw [hopen, ihbody, nest, ihrest]
      simp

theorem castsTo_of_mem_statementList {settings : Settings} {source : Bytes}
    {statement : Statement} (h : statement ∈ Program.statementList settings source) :
    statement.CastsTo settings.width := by
  obtain ⟨operator, -, hs⟩ := List.mem_flatMap.mp h
  exact Operator.castsTo_width hs

/-- The text of a program whose brackets match is read as its translation. -/
theorem parse_statements {settings : Settings} {source : Bytes} {code : List Code}
    (h : Translates settings (operators source) code) :
    parse (ascii settings.width.typeName) (Program.statements settings source) = some code := by
  have lines := phrases_statements (Program.statementList settings source) []
  have read := mapM_phrase? fun _ hs => @castsTo_of_mem_statementList settings source _ hs
  have nested := nest_of_translates h [] [] []
  rw [List.append_nil, show phrases (tokens []) = [] from rfl, List.append_nil] at lines
  rw [parse, Program.statements_eq, lines, read, Option.bind_some, Program.statementList]
  simpa [nest] using nested

end C

end BrainfuckCompiler
