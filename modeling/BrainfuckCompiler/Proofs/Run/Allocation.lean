import BrainfuckCompiler.Proofs.Invocation.Exchange
import BrainfuckCompiler.Proofs.Run.Reproducibility

/-!
# From the command line to the allocation

The generated program allocates its cells in a line of its own, and the number in that line is
the one that the command line gives, without a plus sign or leading zeros. A number that is zero
is refused before anything is done to the files, and so is everything that is no number.
-/
namespace BrainfuckCompiler

/-- A line of the text, with a line end in front of it and one behind it. -/
def HasLine (text line : Bytes) : Prop :=
  newline ∉ line ∧ ∃ before after, text = before ++ newline :: (line ++ newline :: after)

/-- The line that allocates as many cells as the numeral says. -/
def Frame.allocation (width : CellWidth) (numeral : Bytes) : Bytes :=
  ascii "  " ++ ascii width.typeName ++ ascii "* buff = calloc(" ++ numeral ++
    ascii ", sizeof *buff);"

namespace Decimal

/-- The one way to write a number other than zero with digits alone and no more than it takes. -/
structure Shortest (numeral : Bytes) (n : UInt64) : Prop where
  digits : ∀ b ∈ numeral, isDigit b = true
  leading : numeral.head? ≠ some 0x30
  value : value numeral = n.toNat
  read : read? numeral = some n

theorem shortest_digits {n : UInt64} (h : n ≠ 0) : Shortest (digits n.toNat) n where
  digits _ hb := isDigit_of_mem_digits hb
  leading := head?_digits_ne_zero fun hzero => h (UInt64.toNat_inj.mp hzero)
  value := value_digits n.toNat
  read := (Invocation.numeral_digits n).read?

end Decimal

namespace Program

/-- The program begins with the preamble of the settings, in which that many cells are
allocated. -/
structure Allocates (settings : Settings) (numeral program : Bytes) : Prop where
  begins : preamble settings <+: program
  line : HasLine (preamble settings) (Frame.allocation settings.width numeral)

theorem hasLine_preamble (settings : Settings) : HasLine (preamble settings)
    (Frame.allocation settings.width (Decimal.digits settings.cells.toNat)) := by
  constructor
  · have type : newline ∉ ascii settings.width.typeName := by
      cases settings.width <;> decide
    have digits : newline ∉ Decimal.digits settings.cells.toNat := fun hmem =>
      absurd (Decimal.isDigit_of_mem_digits hmem) (by decide)
    simp only [Frame.allocation, List.mem_append, type, digits, or_false]
    decide
  · have head : Frame.mainHead = (lines ["int getchar2(void);",
        "int options(int argc, char** argv);", "", "int main(int argc, char** argv) \x7b",
        "  options(argc, argv);"] ++ ascii "  int ch;") ++ newline :: ascii "  " := by
      decide
    have check : Frame.allocationCheck = ascii ", sizeof *buff);" ++ newline :: (lines [
        "  if (buff == NULL) \x7b", "    perror(\"calloc()\");", "    return 1;", "  \x7d"] ++
        ascii "  ") := by
      decide
    simp only [preamble_eq, Frame.mainFragments, head, check, List.flatten_cons,
      List.append_assoc, List.cons_append]
    -- all that is in front of the line is gathered on one side of the line end, and the line too
    simp only [← List.append_assoc]
    exact ⟨_, _, rfl⟩

theorem allocates_text (settings : Settings) (source : Bytes) :
    Allocates settings (Decimal.digits settings.cells.toNat) (text settings source) where
  begins := by
    simp only [text, body, List.append_assoc]
    exact List.prefix_append _ _
  line := hasLine_preamble settings

end Program

namespace Command
open Invocation (Way Numeral read)
variable {words : List Bytes} {asked : Invocation} {source : Bytes} {n : UInt64}

/-- A number that is not zero is the one that is allocated. -/
theorem allocates_of_read (accepted : read words = .ok asked) (named : asked.source = some source)
    (hsize : asked.size ≠ 0) :
    (∀ version, ∃ settings, asked.settings version = .ok settings ∧ ∀ content,
      Program.Allocates settings (Decimal.digits asked.size.toNat)
        (Emission.program settings ⟨content, none⟩).written) ∧
    ∀ (context : Context) (files : FileStore), Run.Keeps (asked.outputPath source) files →
      let outcome := execute context words files
      outcome.ending = .finished → ∃ settings product, asked.settings
          (VersionText.ofSource source context.now context.environment) = .ok settings ∧
        Run.product? (asked.outputPath source) outcome.files outcome.output = some product ∧
          Program.Allocates settings (Decimal.digits asked.size.toNat) product := by
  have allocates {version : Bytes} {settings : Settings}
      (hsettings : asked.settings version = .ok settings) (content : Bytes) :
      Program.Allocates settings (Decimal.digits asked.size.toNat)
        (Program.text settings content) := by
    obtain rfl := Invocation.eq_of_settings hsettings
    exact Program.allocates_text _ content
  constructor
  · intro version
    obtain ⟨settings, hsettings⟩ := Invocation.exists_settings hsize version
    refine ⟨settings, hsettings, fun content => ?_⟩
    rw [(Emission.offers_program settings content).written]
    exact allocates hsettings content
  · intro context files keeps outcome finished
    obtain ⟨settings, content, hsettings, hproduct⟩ :=
      exists_product?_of_finished accepted named keeps finished
    exact ⟨settings, _, hsettings, hproduct, allocates hsettings content⟩

/-- With no cells at all nothing is done, except that the version is shown if it is asked for. -/
theorem execute_of_no_cells (accepted : read words = .ok asked)
    (named : asked.source = some source) (hsize : asked.size = 0) (context : Context)
    (files : FileStore) :
    let outcome := execute context words files
    outcome.files = files ∧ (asked.has .version = false →
      outcome.ending = .failed (.cellCount 0) ∧ outcome.output = []) := by
  rw [execute_of_read context accepted]
  cases hversion : asked.has .version with
  | true =>
      rw [perform_of_version context fun _ => hversion]
      exact ⟨rfl, nofun⟩
  | false =>
      have refused := (Invocation.settings_eq_error_iff asked
        (VersionText.ofSource source context.now context.environment)).mpr hsize
      rw [perform_of_source context named hversion, Run.run_eq, refused]
      exact ⟨rfl, fun _ => ⟨rfl, rfl⟩⟩

/-- The value of the option for the number of cells, given in any way in a command line with a
source that is accepted with some other value. A number that is not zero reaches the line that
allocates the cells, zero is refused with nothing done, and any other value is rejected. -/
theorem cells_reach_allocation (front back : List Bytes) (way : Way) (text other : Bytes)
    (one : Invocation) (source : Bytes) (unended : ascii "--" ∉ front) (fits : way.Fits text)
    (others : way.Fits other)
    (otherwise : read (front ++ (way.words .size other ++ back)) = .ok one)
    (named : one.source = some source) :
    let words := front ++ (way.words .size text ++ back)
    (∀ n, Numeral text n → n ≠ 0 →
      let asked := { one with size := n }
      let numeral := Decimal.digits n.toNat
      read words = .ok asked ∧ Decimal.Shortest numeral n ∧
        (∀ version, ∃ settings, asked.settings version = .ok settings ∧ ∀ content,
          Program.Allocates settings numeral (Emission.program settings ⟨content, none⟩).written) ∧
        ∀ (context : Context) (files : FileStore), Run.Keeps (one.outputPath source) files →
          let outcome := execute context words files
          outcome.ending = .finished → ∃ settings product, asked.settings
              (VersionText.ofSource source context.now context.environment) = .ok settings ∧
            Run.product? (one.outputPath source) outcome.files outcome.output = some product ∧
              Program.Allocates settings numeral product) ∧
    (Numeral text 0 →
      (∀ version, { one with size := 0 }.settings version = .error (.cellCount 0)) ∧
        read words = .ok { one with size := 0 } ∧
        ∀ (context : Context) (files : FileStore),
          let outcome := execute context words files
          outcome.files = files ∧ (one.has .version = false →
            outcome.ending = .failed (.cellCount 0) ∧ outcome.output = [])) ∧
    ((∀ n, ¬ Numeral text n) → ∃ reason, read words = .error (.rejected reason) ∧
      ∀ (context : Context) (files : FileStore),
        execute context words files = ⟨.rejected reason, files, [], []⟩) := by
  intro words
  obtain ⟨accepted, rejected⟩ := Invocation.read_exchanged unended fits others otherwise
  refine ⟨?_, ?_, ?_⟩
  · intro n numeral hn asked
    have allocates := @allocates_of_read words asked source (accepted n numeral) named hn
    exact ⟨accepted n numeral, Decimal.shortest_digits hn, allocates⟩
  · intro zero
    refine ⟨fun version => ?_, accepted 0 zero, fun context files => ?_⟩
    · exact (Invocation.settings_eq_error_iff _ version).mpr rfl
    · exact execute_of_no_cells (accepted 0 zero) named rfl context files
  · intro none
    obtain ⟨reason, hreason⟩ := rejected none
    refine ⟨reason, hreason, fun context files => ?_⟩
    rw [execute, hreason]

/-- Leading zeros behind a plus sign, zeros alone, and the least number that is too large, each
at the end of a cluster. -/
theorem seven_zero_and_too_many_cells :
    (∃ asked settings, read (["-I", "-4ds+007", "a.bf"].map ascii) = .ok asked ∧
      asked.settings [] = .ok settings ∧ ∀ content, Program.Allocates settings (ascii "7")
        (Emission.program settings ⟨content, none⟩).written) ∧
    (∀ context files, (execute context (["-I", "-4ds000", "a.bf"].map ascii) files).ending =
      .failed (.cellCount 0)) ∧
    ∃ reason, read (["-I", "-4ds18446744073709551616", "a.bf"].map ascii) =
      .error (.rejected reason) := by
  let front := ["-I"].map ascii
  let back := ["a.bf"].map ascii
  let way : Way := .letterAttached [.cellInt, .debug]
  obtain ⟨one, otherwise, named, silent⟩ : ∃ one,
      read (front ++ (way.words .size (ascii "1") ++ back)) = .ok one ∧
        one.source = some (ascii "a.bf") ∧ one.has .version = false := ⟨_, rfl, rfl, rfl⟩
  have exchanged (text : Bytes) (fits : way.Fits text) :=
    cells_reach_allocation front back way text (ascii "1") one (ascii "a.bf") (by decide) fits
      ⟨by decide, by decide⟩ otherwise named
  have seven : Numeral (ascii "+007") 7 :=
    ⟨ascii "+", ascii "007", rfl, .inr rfl, by decide, List.all_eq_true.mp (by decide), by decide⟩
  have zero : Numeral (ascii "000") 0 :=
    ⟨[], ascii "000", rfl, .inl rfl, by decide, List.all_eq_true.mp (by decide), by decide⟩
  have none (n : UInt64) : ¬ Numeral (ascii "18446744073709551616") n := by
    intro numeral
    have hread : Decimal.read? (ascii "18446744073709551616") = none := by decide
    cases hread.symm.trans numeral.read?
  refine ⟨?_, ?_, ?_⟩
  · obtain ⟨accepted, -, allocates, -⟩ :=
      (exchanged (ascii "+007") ⟨by decide, by decide⟩).1 7 seven (by decide)
    obtain ⟨settings, hsettings, written⟩ := allocates []
    exact ⟨_, settings, accepted, hsettings, written⟩
  · intro context files
    obtain ⟨-, -, nothing⟩ := (exchanged (ascii "000") ⟨by decide, by decide⟩).2.1 zero
    exact ((nothing context files).2 silent).1
  · obtain ⟨reason, rejected, -⟩ := (exchanged _ ⟨by decide, by decide⟩).2.2 none
    exact ⟨reason, rejected⟩

end Command

end BrainfuckCompiler
