import BrainfuckCompiler.Proofs.Blocks
import BrainfuckCompiler.Proofs.Run.Reproducibility
import BrainfuckCompiler.Proofs.Utf8.Characters

/-!
# The generated program is a text if the texts it carries are

All that is written into a generated program is ASCII but for the two texts it carries. They
stand between double quotes, and spelling them moves no border between two characters. So the
program is the encoding of characters exactly if both texts are, whatever the source is made of.

The version text that is carried by default is such a text in any case: what is not text in the
name of the source has been replaced, and a user name that is not text is passed over.
-/
namespace BrainfuckCompiler
open Utf8 (Ascii IsText)

-- The fixed texts are read by evaluation, byte by byte.
set_option maxRecDepth 20000

theorem Statement.ascii_text (statement : Statement) : Ascii statement.text := by
  cases statement with
  | store width => cases width <;> decide
  | storeUnlessEnd width => cases width <;> decide
  | _ => decide

namespace Interface

/-- A table with an entry for each switch. -/
theorem ascii_table {entry : Switch → Bytes} (h : ∀ switch, Ascii (entry switch))
    (switches : List Switch) : Ascii (switches.map entry).flatten := by
  refine Utf8.ascii_flatten fun piece hpiece => ?_
  obtain ⟨switch, -, rfl⟩ := List.mem_map.mp hpiece
  exact h switch

theorem Switch.ascii_entries (switch : Switch) :
    Ascii switch.row ∧ Ascii switch.arm ∧ Ascii switch.usageLine := by
  cases switch <;> decide

theorem ascii_optionTable (usage : Usage) : Ascii (optionTable usage).flatten := by
  simp only [optionTable, List.flatten_append]
  have rows := ascii_table (fun switch => switch.ascii_entries.1) (groups usage).flatten
  exact .append (.append (by decide) rows) (by decide)

theorem ascii_parseLoop (usage : Usage) : Ascii (parseLoop usage).flatten := by
  have arms := ascii_table (fun switch => switch.ascii_entries.2.1) (groups usage).flatten
  have begins : Ascii ([lines ["int options(int argc, char** argv) \x7b"]] ++ declarations usage ++
      [ascii "  while ((opt = getopt_long(argc, argv, ", letters usage,
        ascii ", longopts, &longindex)) != -1) \x7b\n",
        lines ["    switch (opt) \x7b"]]).flatten := by
    rcases usage with ⟨_ | _, _ | _⟩ <;> decide
  simp only [parseLoop]
  rw [List.flatten_append, List.flatten_append]
  exact .append (.append begins arms) (by decide)

theorem ascii_usagePrinter (usage : Usage) (meaning : Positional) (settings : Settings) :
    Ascii (usagePrinter usage meaning settings).flatten := by
  have printed (name : String) (h : Ascii (ascii "    puts(" ++ ascii name ++ ascii ");\n"))
      (text : Option Bytes) : Ascii (printVariable name text).flatten := by
    cases text with
    | none => exact fun b hb => nomatch hb
    | some text => simpa [printVariable] using h
  have word : Ascii (placeholderText meaning) := by
    cases meaning <;> decide
  have table := ascii_table (fun switch => switch.ascii_entries.2.2) (listed usage)
  rw [flatten_usagePrinter]
  refine .append (by decide) (.append ?_ (by decide))
  refine .append (printed "VERSION" (by decide) _) ?_
  refine .append (printed "COPYRIGHT" (by decide) _) ?_
  exact .append (by decide) (.append word (.append (by decide) table))

/-- The command line of a program shows nothing of the texts it carries but that they are
there. -/
theorem ascii_fragments (usage : Usage) (settings : Settings) :
    Ascii (fragments usage settings).flatten := by
  have takes (meaning : Positional) : Ascii (positionalCode meaning).flatten := by
    cases meaning <;> decide
  have redirected : Ascii (redirects usage).flatten := by
    rw [redirects, List.flatten_append]
    refine .append ?_ ?_
    · split <;> decide
    · split <;> decide
  simp only [fragments, List.flatten_append]
  refine .append (.append (.append (.append (.append ?_ ?_) ?_) ?_) redirected) (by decide)
  · exact ascii_optionTable usage
  · exact ascii_parseLoop usage
  · exact takes _
  · exact ascii_usagePrinter usage _ settings

end Interface

namespace StringLiteral

/-- A byte and its spelling lead a reader of characters to the same place: an escape takes the
place of one ASCII byte and consists of two. -/
theorem run_escapeByte (state : Utf8.State) (b : UInt8) :
    Utf8.run state (escapeByte b) = Utf8.step state b := by
  have pair (letter : UInt8) (hletter : letter ≤ 0x7f) (hb : b ≤ 0x7f) :
      Utf8.run state [backslash, letter] = Utf8.step state b := by
    have hbackslash : backslash ≤ 0x7f := by decide
    rw [Utf8.run_cons, Utf8.step_of_ascii hbackslash, Utf8.step_of_ascii hb]
    by_cases hstate : state = .start
    · rw [if_pos hstate, Option.bind_some, Utf8.run_cons, Utf8.step_of_ascii hletter]
      rfl
    · rw [if_neg hstate]
      rfl
  unfold escapeByte
  split
  · exact pair 0x6e (by decide) (by decide)
  · exact pair 0x74 (by decide) (by decide)
  · exact pair 0x22 (by decide) (by decide)
  · exact pair 0x5c (by decide) (by decide)
  · rw [Utf8.run_cons]
    exact Option.bind_fun_some (Utf8.step state b)

theorem run_escape (state : Utf8.State) (text : Bytes) :
    Utf8.run state (escape text) = Utf8.run state text := by
  induction text generalizing state with
  | nil => rfl
  | cons b rest ih =>
      have spelled : escape (b :: rest) = escapeByte b ++ escape rest := rfl
      rw [spelled, Utf8.run_append, run_escapeByte, Utf8.run_cons]
      exact congrArg _ (funext fun next => ih next)

/-- Spelling a text neither breaks a character nor mends one. -/
theorem isValid_escape (text : Bytes) : Utf8.isValid (escape text) = Utf8.isValid text := by
  rw [Bool.eq_iff_iff, Utf8.isValid_iff, Utf8.isValid_iff, run_escape]

end StringLiteral

/-- A variable is valid text if its value is, and what follows it is judged by itself. -/
theorem Frame.isValid_variable {name : String} (h : Ascii (variableHead name))
    (text : Option Bytes) (rest : Bytes) :
    Utf8.isValid ((variableFragments name text).flatten ++ rest) =
      (text.all Utf8.isValid && Utf8.isValid rest) := by
  cases text with
  | none => rfl
  | some text =>
      have ends : Ascii (ascii ";\n") := by decide
      rw [flatten_variableFragments]
      simp only [List.append_assoc, List.cons_append, List.nil_append]
      rw [Utf8.isValid_append h.isValid, Utf8.isValid_append_cons (b := doubleQuote) (by decide),
        StringLiteral.isValid_escape, Utf8.isValid_append ends.isValid]
      rfl

namespace Program

theorem ascii_statements (settings : Settings) (source : Bytes) :
    Ascii (statements settings source) := by
  rw [statements_eq, List.flatMap_def]
  refine Utf8.ascii_flatten fun line hline => ?_
  obtain ⟨statement, -, rfl⟩ := List.mem_map.mp hline
  exact statement.ascii_text

theorem ascii_mainFragments (settings : Settings) :
    Ascii (Frame.mainFragments settings).flatten := by
  have type : Ascii (ascii settings.width.typeName) := by
    cases settings.width <;> decide
  refine Utf8.ascii_flatten ?_
  simp only [Frame.mainFragments, List.forall_mem_cons, List.not_mem_nil, false_implies,
    implies_true, and_true]
  exact ⟨by decide, type, by decide, Utf8.ascii_digits _, by decide, type, by decide⟩

/-- Whether a program is valid text does not depend on its source. -/
theorem isValid_text (settings : Settings) (source : Bytes) :
    Utf8.isValid (text settings source) =
      (settings.version.all Utf8.isValid && settings.copyright.all Utf8.isValid) := by
  have includes : Ascii Frame.includes := by decide
  have rest : Ascii ((Frame.mainFragments settings).flatten ++ (statements settings source ++
      (epilogue ++ (inputHelper ++ interface (Usage.ofSource source) settings)))) :=
    (ascii_mainFragments settings).append ((ascii_statements settings source).append
      (.append (by decide) (.append (by decide) (Interface.ascii_fragments _ _))))
  rw [text, body, preamble_eq]
  simp only [List.append_assoc]
  rw [Utf8.isValid_append includes.isValid, Frame.isValid_variable (by decide),
    Frame.isValid_variable (by decide), rest.isValid, Bool.and_true]

theorem isText_text_iff (settings : Settings) (source : Bytes) :
    IsText (text settings source) ↔ (∀ carried ∈ settings.version, IsText carried) ∧
      ∀ carried ∈ settings.copyright, IsText carried := by
  simp only [← Utf8.isValid_iff_isText, isValid_text, Bool.and_eq_true, Option.all_eq_true,
    Option.mem_def]

end Program

namespace VersionText

theorem ascii_padded (width n : Nat) : Ascii (Decimal.padded width n) := by
  refine .append (fun b hb => ?_) (Utf8.ascii_digits n)
  rw [List.eq_of_mem_replicate hb]
  decide

theorem ascii_moment (now : Moment) : Ascii now.text := by
  have mark : Ascii (ascii (if now.offset < 0 then "-" else "+")) := by
    split <;> decide
  have number := ascii_padded
  unfold Moment.text
  refine .append (.append (.append ?_ mark) (number _ _)) (number _ _)
  refine .append (.append ?_ (by decide)) (number _ _)
  refine .append (.append ?_ (by decide)) (number _ _)
  refine .append (.append ?_ (by decide)) (number _ _)
  refine .append (.append ?_ (by decide)) (number _ _)
  exact .append (.append (number _ _) (by decide)) (number _ _)

/-- The user is named by a valid text, because all others are passed over. -/
theorem isValid_userName (environment : Environment) :
    Utf8.isValid (userName environment) = true := by
  unfold userName
  dsimp only
  cases hfound : (userVariables.filterMap environment.value?).find?
      (fun name => name ≠ [] ∧ Utf8.isValid name = true) with
  | none => decide
  | some name =>
      have hvalid := List.find?_some hfound
      simp only [Bool.decide_and, Bool.decide_eq_true, Bool.and_eq_true] at hvalid
      exact hvalid.2

theorem isText_ofSource (path : Bytes) (now : Moment) (environment : Environment) :
    IsText (ofSource path now environment) := by
  rw [← Utf8.isValid_iff_isText, ofSource, sourceName]
  simp only [List.append_assoc]
  have fixed {text : Bytes} (h : Ascii text) := Utf8.isValid_append h.isValid
  rw [fixed (by decide), Utf8.isValid_append (Utf8.isValid_lossy _), fixed (by decide),
    fixed (by decide), fixed (by decide), fixed (ascii_moment now), fixed (by decide),
    Utf8.isValid_append (isValid_userName environment)]
  decide

end VersionText

namespace Command

/-- The program that is written is a text exactly if the texts it carries are, for any source,
and the default version text is one. So without a version text of its own an invocation has
settings that make every source a text, unless it has no cells or a copyright text that is none,
and an execution that finishes has left a text at its output. -/
theorem written_isText_iff :
    (∀ (settings : Settings) (source : Bytes),
      IsText (Emission.program settings ⟨source, none⟩).written ↔
        (∀ carried, settings.version = some carried → IsText carried) ∧
          ∀ carried, settings.copyright = some carried → IsText carried) ∧
    (∀ (path : Bytes) (now : Moment) (environment : Environment),
      IsText (VersionText.ofSource path now environment)) ∧
    ∀ (context : Context) (words : List Bytes) (invocation : Invocation) (source : Bytes),
      Invocation.read words = .ok invocation → invocation.source = some source →
      invocation.versionString = none →
      (∀ carried, invocation.copyright = some carried → IsText carried) →
      (invocation.size ≠ 0 → ∃ settings, invocation.settings
          (VersionText.ofSource source context.now context.environment) = .ok settings ∧
        ∀ content, IsText (Emission.program settings ⟨content, none⟩).written) ∧
      ∀ files, Run.Keeps (invocation.outputPath source) files →
        let outcome := execute context words files
        outcome.ending = .finished → ∃ text,
          Run.product? (invocation.outputPath source) outcome.files outcome.output = some text ∧
            IsText text := by
  refine ⟨fun settings source => ?_, VersionText.isText_ofSource, ?_⟩
  · rw [(Emission.offers_program settings source).written]
    exact Program.isText_text_iff settings source
  · intro context words invocation source accepted named unversioned carried
    have isText {settings : Settings} (hsettings : invocation.settings
          (VersionText.ofSource source context.now context.environment) = .ok settings)
        (content : Bytes) : IsText (Program.text settings content) := by
      obtain rfl := Invocation.eq_of_settings hsettings
      refine (Program.isText_text_iff _ content).mpr ⟨fun text htext => ?_, carried⟩
      rw [unversioned, Option.getD_none] at htext
      rw [← Option.some.inj htext]
      exact VersionText.isText_ofSource source context.now context.environment
    constructor
    · intro hsize
      obtain ⟨settings, hsettings⟩ := Invocation.exists_settings hsize
        (VersionText.ofSource source context.now context.environment)
      refine ⟨settings, hsettings, fun content => ?_⟩
      rw [(Emission.offers_program settings content).written]
      exact isText hsettings content
    · intro files keeps outcome finished
      obtain ⟨settings, content, hsettings, hproduct⟩ :=
        exists_product?_of_finished accepted named keeps finished
      exact ⟨_, hproduct, isText hsettings content⟩

/-- A source whose name and content are no text, for a user whose name is none either, with a
copyright text that is not ASCII. -/
theorem misnamed_source_makes_text :
    let source : Bytes := ascii "a" ++ [0xff]
    let carried : Bytes := [0xc2, 0xa9]
    let words := [ascii "-C", carried, source]
    let content : Bytes := ascii ",[.,]" ++ [0xc3]
    let files : FileStore := ⟨[([], .directory), ([source], .regular content)], []⟩
    let context : Context := { now := { seconds := 0 }, environment := [("USER", [0x80])] }
    ¬ IsText source ∧ IsText carried ∧ (execute context words files).ending = .finished ∧
      ∃ text, Run.product? (source ++ ascii ".c") (execute context words files).files
          (execute context words files).output = some text ∧ IsText text := by
  intro source carried words content files context
  have broken : ¬ IsText source := by
    rw [← Utf8.isValid_iff_isText]
    decide
  have readable : IsText carried := (Utf8.isValid_iff_isText carried).mp (by decide)
  let invocation : Invocation := { source := some source, copyright := some carried }
  have accepted : Invocation.read words = .ok invocation := rfl
  have finished : (execute context words files).ending = .finished :=
    finished_of_readable accepted rfl rfl (by decide) ⟨rfl, rfl, rfl⟩ ⟨⟨rfl, _, rfl, rfl⟩, rfl⟩
      (by decide) rfl
  refine ⟨broken, readable, finished, ?_⟩
  refine (written_isText_iff.2.2 context words invocation source accepted rfl rfl ?_).2 files ?_
    finished
  · rintro _ ⟨⟩
    exact readable
  · rintro - _ ⟨⟩
    decide

end Command

end BrainfuckCompiler
