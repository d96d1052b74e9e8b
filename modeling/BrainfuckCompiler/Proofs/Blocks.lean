import BrainfuckCompiler.Proofs.Brackets
import BrainfuckCompiler.Proofs.C.Braces
import BrainfuckCompiler.Proofs.Decimal
import BrainfuckCompiler.Proofs.Delivery

/-!
# Blocks of the generated program

The check of a source keeps a stack of brackets, while the emission writes the braces
of the loops as they come. They agree: the brace that opens the main function is closed
by the last brace of the epilogue exactly if the check passes. Between the two braces
only the statements can do anything to the blocks. Everything else is well nested by
itself, whatever the settings are; in particular the texts the program carries are read
as string literals from their first byte to their last.
-/
namespace BrainfuckCompiler
open C

-- The fixed texts are read by evaluation, byte by byte.
set_option maxRecDepth 20000

theorem Statement.wellNested_text {statement : Statement} (ho : statement ≠ .openLoop)
    (hc : statement ≠ .closeLoop) : WellNested statement.text := by
  cases statement with
  | openLoop => exact absurd rfl ho
  | closeLoop => exact absurd rfl hc
  | store width => cases width <;> decide
  | storeUnlessEnd width => cases width <;> decide
  | _ => decide

/-- The lines of an operator do to the blocks what the operator does to the loops. -/
theorem Operator.after_statements (settings : Settings) (operator : Operator) (depth : Nat) :
    Reading.after ⟨.code, depth⟩ ((operator.statements settings).flatMap Statement.text) =
      (operator.nest depth).map (⟨.code, ·⟩) := by
  have plain (list : List Statement)
      (h : ∀ statement ∈ list, statement ≠ .openLoop ∧ statement ≠ .closeLoop) :
      Reading.after ⟨.code, depth⟩ (list.flatMap Statement.text) = some ⟨.code, depth⟩ := by
    rw [List.flatMap_def]
    refine WellNested.after_eq (.flatten fun text ht => ?_) depth
    obtain ⟨statement, hs, rfl⟩ := List.mem_map.mp ht
    exact Statement.wellNested_text (h statement hs).1 (h statement hs).2
  cases operator with
  | openLoop =>
      have h : Reading.after {} (Statement.text .openLoop) = some ⟨.code, 1⟩ := by decide
      have := Reading.after_deeper h depth
      simpa [statements, nest, Nat.add_comm] using this
  | closeLoop =>
      cases depth with
      | zero => rfl
      | succ depth =>
          have h : Reading.after ⟨.code, 1⟩ (Statement.text .closeLoop) = some {} := by decide
          have := Reading.after_deeper h depth
          simpa [statements, nest, Nat.add_comm] using this
  | put =>
      refine plain _ ?_
      simp only [statements]
      split <;> decide
  | get =>
      refine plain _ ?_
      simp only [statements]
      cases settings.endOfInput <;> simp [EndOfInput.statements]
  | _ =>
      refine plain _ ?_
      simp only [statements]
      decide

namespace Program

theorem after_statements (settings : Settings) (source : Bytes) (depth : Nat) :
    Reading.after ⟨.code, depth⟩ (statements settings source) =
      (Brackets.nesting depth source).map (⟨.code, ·⟩) := by
  induction source generalizing depth with
  | nil => rfl
  | cons b rest ih =>
      rw [statements_cons]
      cases h : Operator.ofByte? b with
      | none =>
          rw [Brackets.nesting_cons_of_none h, ← ih]
          simp [group, h]
      | some operator =>
          rw [Brackets.nesting_cons_of_some h, Reading.after_append]
          simp only [group, h, Operator.flatten_fragments, Operator.after_statements]
          cases operator.nest depth with
          | none => rfl
          | some next => exact ih next

end Program

namespace StringLiteral

theorem after_escapeByte (b : UInt8) :
    Reading.after ⟨.string, 0⟩ (escapeByte b) = some ⟨.string, 0⟩ := by
  unfold escapeByte
  split
  · rfl
  · rfl
  · rfl
  · rfl
  · next _ _ _ hq hb =>
    rw [Reading.after_cons, Reading.step_of_not_inCode rfl, Mode.step_string hq hb]
    rfl

/-- No text leaves the literal it is spelled in. -/
theorem after_escape (text : Bytes) :
    Reading.after ⟨.string, 0⟩ (escape text) = some ⟨.string, 0⟩ := by
  induction text with
  | nil => rfl
  | cons b rest ih =>
      rw [escape, List.flatMap_cons, Reading.after_append_of_eq (after_escapeByte b)]
      exact ih

end StringLiteral

namespace Frame

theorem wellNested_variable {name : String}
    (h : Reading.after {} (variableHead name) = some ⟨.string, 0⟩) (text : Option Bytes) :
    WellNested (variableFragments name text).flatten := by
  cases text with
  | none => exact .nil
  | some text =>
      rw [flatten_variableFragments, List.append_assoc, WellNested, Reading.after_append_of_eq h,
        Reading.after_append_of_eq (StringLiteral.after_escape text)]
      rfl

theorem wellNested_digits (n : Nat) : WellNested (Decimal.digits n) := by
  refine .of_plain fun b hb => ?_
  have digit := Decimal.isDigit_of_mem_digits hb
  refine ⟨?_, ?_, ?_⟩
  · unfold Mode.stepCode
    split
    · exact absurd digit (by decide)
    · exact absurd digit (by decide)
    · exact absurd digit (by decide)
    · rfl
  · rintro rfl
    exact absurd digit (by decide)
  · rintro rfl
    exact absurd digit (by decide)

theorem wellNested_typeName (width : CellWidth) : WellNested (ascii width.typeName) := by
  cases width <;> decide

end Frame

namespace Interface

theorem Switch.wellNested_row (switch : Switch) : WellNested switch.row := by
  cases switch <;> decide

theorem Switch.wellNested_arm (switch : Switch) : WellNested switch.arm := by
  cases switch <;> decide

theorem Switch.wellNested_usageLine (switch : Switch) : WellNested switch.usageLine := by
  cases switch <;> decide

/-- A table with a well-nested entry for each switch. -/
theorem wellNested_table {entry : Switch → Bytes} (h : ∀ switch, WellNested (entry switch))
    (switches : List Switch) : WellNested (switches.map entry).flatten := by
  refine .flatten fun piece hp => ?_
  obtain ⟨switch, -, rfl⟩ := List.mem_map.mp hp
  exact h switch

theorem wellNested_letters (usage : Usage) : WellNested (letters usage) := by
  rcases usage with ⟨_ | _, _ | _⟩ <;> decide

theorem wellNested_declarations (usage : Usage) : WellNested (declarations usage).flatten := by
  rcases usage with ⟨_ | _, _ | _⟩ <;> decide

theorem wellNested_optionTable (usage : Usage) : WellNested (optionTable usage).flatten := by
  simp only [optionTable, List.flatten_append, List.append_assoc]
  exact .block (by decide) (wellNested_table Switch.wellNested_row _) (by decide)

/-- The loop over the command line opens the function that it stands in. -/
theorem after_parseLoop (usage : Usage) :
    Reading.after {} (parseLoop usage).flatten = some ⟨.code, 1⟩ := by
  have opens : Reading.after {} (lines ["int options(int argc, char** argv) \x7b"]) =
      some ⟨.code, 1⟩ := by decide
  have asks : WellNested (ascii "  while ((opt = getopt_long(argc, argv, ") := by decide
  have loops : Reading.after ⟨.code, 1⟩ (ascii ", longopts, &longindex)) != -1) \x7b\n") =
      some ⟨.code, 2⟩ := by decide
  have switches : Reading.after ⟨.code, 2⟩ (lines ["    switch (opt) \x7b"]) =
      some ⟨.code, 3⟩ := by decide
  have arms := wellNested_table Switch.wellNested_arm (groups usage).flatten
  simp only [parseLoop, List.flatten_append, List.flatten_cons, List.flatten_nil, List.append_nil,
    List.append_assoc]
  rw [Reading.after_append_of_eq opens,
    Reading.after_append_of_eq ((wellNested_declarations usage).after_eq 1),
    Reading.after_append_of_eq (asks.after_eq 1),
    Reading.after_append_of_eq ((wellNested_letters usage).after_eq 1),
    Reading.after_append_of_eq loops, Reading.after_append_of_eq switches,
    Reading.after_append_of_eq (arms.after_eq 3)]
  decide

theorem wellNested_positionalCode (meaning : Positional) :
    WellNested (positionalCode meaning).flatten := by
  have binds : WellNested (binding meaning).flatten := by
    cases meaning <;> decide
  rw [positionalCode, List.flatten_append]
  exact binds.append (by decide)

theorem wellNested_printVariable (name : String)
    (h : WellNested (ascii "    puts(" ++ ascii name ++ ascii ");\n")) (text : Option Bytes) :
    WellNested (printVariable name text).flatten := by
  unfold printVariable
  split
  · simpa using h
  · exact .nil

/-- What the usage says of a bare argument. -/
def placeholderText (meaning : Positional) : Bytes :=
  ((placeholder? meaning).map fun word => ascii "\" [ " ++ ascii word ++ ascii " ]\"").getD []

/-- The printer of the usage is one block. -/
theorem flatten_usagePrinter (usage : Usage) (meaning : Positional) (settings : Settings) :
    (usagePrinter usage meaning settings).flatten = lines ["  if (show_help) \x7b"] ++
      (((printVariable "VERSION" settings.version).flatten ++
        ((printVariable "COPYRIGHT" settings.copyright).flatten ++
          (ascii "    printf(\"Usage:\\n  %s [options]\"" ++ (placeholderText meaning ++
            (ascii "\"\\n\", argv[0]);\n" ++ lines ["    puts(\"Options:\");"] ++
              ((listed usage).map Switch.usageLine).flatten))))) ++
        lines ["    exit(show_help == 1 ? 0 : 1);", "  \x7d"]) := by
  cases meaning <;> simp [usagePrinter, placeholderText, placeholder?]

theorem wellNested_usagePrinter (usage : Usage) (meaning : Positional) (settings : Settings) :
    WellNested (usagePrinter usage meaning settings).flatten := by
  have version := wellNested_printVariable "VERSION" (by decide) settings.version
  have copyright := wellNested_printVariable "COPYRIGHT" (by decide) settings.copyright
  have word : WellNested (placeholderText meaning) := by
    cases meaning <;> decide
  have table := wellNested_table Switch.wellNested_usageLine (listed usage)
  rw [flatten_usagePrinter]
  refine .block (by decide) ?_ (by decide)
  refine version.append (copyright.append (.append (by decide) (word.append ?_)))
  exact .append (by decide) table

theorem wellNested_redirects (usage : Usage) : WellNested (redirects usage).flatten := by
  rw [redirects, List.flatten_append]
  refine .append ?_ ?_
  · split <;> decide
  · split <;> decide

theorem wellNested_fragments (usage : Usage) (settings : Settings) :
    WellNested (fragments usage settings).flatten := by
  have table := wellNested_optionTable usage
  have inner := (wellNested_positionalCode (settings.positional.resolve usage)).append
    ((wellNested_usagePrinter usage (settings.positional.resolve usage) settings).append
      (wellNested_redirects usage))
  have leaves : Reading.after ⟨.code, 1⟩ (lines ["  return optind;", "\x7d"]) = some {} := by
    decide
  have function := WellNested.block (after_parseLoop usage) inner leaves
  simpa only [fragments, List.flatten_append, List.flatten_cons, List.flatten_nil, List.append_nil,
    List.append_assoc] using table.append function

end Interface

namespace Program

/-- All that stands before the brace that opens the main function. -/
def mainStart (settings : Settings) : Bytes :=
  Frame.includes ++
    ((Frame.variableFragments "VERSION" settings.version).flatten ++
      ((Frame.variableFragments "COPYRIGHT" settings.copyright).flatten ++
        (lines ["int getchar2(void);", "int options(int argc, char** argv);", ""] ++
          ascii "int main(int argc, char** argv) ")))

/-- What the main function does before the first statement. -/
def setup (settings : Settings) : Bytes :=
  newline :: lines ["  options(argc, argv);", "  int ch;"] ++ ascii "  " ++
    (Frame.mainFragments settings).tail.flatten

/-- What it does after the last statement. -/
def shutdown : Bytes := lines ["  (void) ch;", "  free(buff);", "  return 0;"]

/-- All that stands before the last brace of the epilogue. -/
def mainEnd (settings : Settings) (source : Bytes) : Bytes :=
  preamble settings ++ statements settings source ++ shutdown

theorem preamble_eq_main (settings : Settings) :
    preamble settings = mainStart settings ++ openBrace :: setup settings := by
  have head : Frame.mainHead =
      lines ["int getchar2(void);", "int options(int argc, char** argv);", ""] ++
        (ascii "int main(int argc, char** argv) " ++ openBrace ::
          (newline :: lines ["  options(argc, argv);", "  int ch;"] ++ ascii "  ")) := by
    decide
  rw [preamble_eq, mainStart, setup, Frame.mainFragments, List.flatten_cons, head]
  simp only [List.append_assoc, List.cons_append, List.tail_cons]

theorem wellNested_mainStart (settings : Settings) : WellNested (mainStart settings) := by
  refine .append (by decide) (.append ?_ (.append ?_ (by decide)))
  · exact Frame.wellNested_variable (by decide) _
  · exact Frame.wellNested_variable (by decide) _

theorem wellNested_setup (settings : Settings) : WellNested (setup settings) := by
  refine .append (by decide) (.flatten ?_)
  have type := Frame.wellNested_typeName settings.width
  have count := Frame.wellNested_digits settings.cells.toNat
  simp only [Frame.mainFragments, List.tail_cons, List.forall_mem_cons, List.not_mem_nil,
    false_implies, implies_true, and_true]
  exact ⟨type, by decide, count, by decide, type, by decide⟩

/-- The two braces of the main function and all that stands between and behind them. -/
theorem text_eq_main (settings : Settings) (source : Bytes) :
    text settings source = mainStart settings ++ openBrace ::
      ((setup settings ++ (statements settings source ++ shutdown)) ++ closeBrace ::
        ([newline, newline] ++ (inputHelper ++ interface (Usage.ofSource source) settings))) := by
  have ends : epilogue = shutdown ++ closeBrace :: [newline, newline] := by decide
  simp only [text, body, preamble_eq_main, ends, List.append_assoc, List.cons_append]

theorem wellNested_shutdown : WellNested shutdown := by decide

theorem mainEnd_eq (settings : Settings) (source : Bytes) :
    mainEnd settings source = mainStart settings ++ openBrace ::
      (setup settings ++ (statements settings source ++ shutdown)) := by
  simp only [mainEnd, preamble_eq_main, List.append_assoc, List.cons_append]

theorem wellNested_statements_iff (settings : Settings) (source : Bytes) :
    WellNested (statements settings source) ↔ Brackets.check source = .ok () := by
  rw [Brackets.check, Brackets.checkFrom_eq_ok_iff, WellNested, after_statements, List.length_nil]
  cases Brackets.nesting 0 source <;> simp

/-- The body of the main function leaves all its blocks exactly if the statements do. -/
theorem after_mainBody_iff (settings : Settings) (source : Bytes) :
    (∃ next, Reading.after {} (setup settings ++ (statements settings source ++ shutdown)) =
        some next ∧ next.mode.inCode = true ∧ next.depth = 0) ↔
      WellNested (statements settings source) := by
  rw [Reading.after_append_of_eq (wellNested_setup settings), Reading.after_append, WellNested,
    after_statements]
  cases Brackets.nesting 0 source with
  | none => simp
  | some depth =>
      rw [Option.map_some, Option.bind_some, wellNested_shutdown.after_eq]
      constructor
      · rintro ⟨next, h, -, hdepth⟩
        obtain rfl := Option.some.inj h
        obtain rfl : depth = 0 := hdepth
        rfl
      · intro h
        exact ⟨_, h, rfl, rfl⟩

theorem wellNested_text {settings : Settings} {source : Bytes}
    (h : WellNested (statements settings source)) : WellNested (text settings source) := by
  have inner := (wellNested_setup settings).append (h.append wellNested_shutdown)
  have opens : Reading.after {} [openBrace] = some ⟨.code, 1⟩ := rfl
  have leaves : Reading.after ⟨.code, 1⟩ [closeBrace] = some {} := rfl
  have main := WellNested.block opens inner leaves
  have rest : WellNested ([newline, newline] ++ (inputHelper ++
      interface (Usage.ofSource source) settings)) :=
    .append (by decide) (.append (by decide) (Interface.wellNested_fragments _ _))
  have := (wellNested_mainStart settings).append (main.append rest)
  simpa only [text_eq_main, List.append_assoc, List.cons_append, List.nil_append] using this

/-- The check of a source says how the blocks of its program nest. -/
theorem main_closed_iff_check (settings : Settings) (source : Bytes) :
    let written := (Emission.program settings ⟨source, none⟩).written
    mainStart settings ++ [openBrace] <+: written ∧
      mainEnd settings source ++ [closeBrace] <+: written ∧
      (partner? written (mainStart settings).length = some (mainEnd settings source).length ↔
        Brackets.check source = .ok ()) ∧
      (Brackets.check source = .ok () → WellNested written) := by
  intro written
  have layout : written = text settings source := (Emission.offers_program settings source).written
  have mode := Reading.mode_of_after (wellNested_mainStart settings)
  rw [layout, ← wellNested_statements_iff settings]
  refine ⟨?_, ?_, ?_, wellNested_text⟩
  · rw [text_eq_main]
    exact ⟨_, List.append_assoc _ _ _⟩
  · rw [text_eq_main, mainEnd_eq]
    simp only [List.append_assoc, List.cons_append, List.nil_append,
      List.prefix_append_right_inj, List.cons_prefix_cons, true_and]
    exact ⟨_, rfl⟩
  · rw [text_eq_main, mainEnd_eq, partner?_eq_some_iff (by rw [← mode]; rfl), after_mainBody_iff]

end Program

end BrainfuckCompiler
