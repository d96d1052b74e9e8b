import BrainfuckCompiler.InPlace
import BrainfuckCompiler.Proofs.Layout
import BrainfuckCompiler.Proofs.Streams

/-!
# What the emission of a program delivers

The emission writes the program while it reads the source. Here its parts are
brought together: the text that body and program offer to a sink, for a source
that ends and for one that fails midway, and the usage they report. The last
theorem says what is left when the sink, the reader or both fail: the two races
are settled by the length of the text that is due before the reader fails.
-/
namespace BrainfuckCompiler

/-- The reader of a source that fails after some bytes, or never. -/
def Reader.limited (source : Bytes) (fault : Fault) : Option Nat → Reader
  | none => ⟨source, none⟩
  | some count => .failingAfter count fault source

/-- How the emission of a program ends as far as the reader is concerned. -/
def Reader.outcome (reader : Reader) : Except Fault Usage :=
  match reader.failure with
  | none => .ok (Usage.ofSource reader.delivered)
  | some fault => .error fault

namespace Emission
open Emit
open InPlace (pieces)

theorem usage_foldl_add (list : List Operator) (tally : Tally) :
    (list.foldl Tally.add tally).usage = list.foldl Usage.add tally.usage := by
  induction list generalizing tally with
  | nil => rfl
  | cons operator rest ih => exact ih (tally.add operator)

theorem flatten_pieces (settings : Settings) (source : Bytes) :
    (pieces settings source).flatten = Program.statements settings source := by
  induction source with
  | nil => rfl
  | cons b rest ih =>
      rw [Program.statements_cons, ← ih]
      cases h : Operator.ofByte? b with
      | none => simp [pieces, operators, Program.group, h]
      | some operator => simp [pieces, operators, Program.group, h]

theorem writes_statements (settings : Settings) (source : Bytes) (tally : Tally) :
    Writes (statements settings source tally) (pieces settings source)
      (.ok ((operators source).foldl Tally.add tally)) := by
  induction source generalizing tally with
  | nil => exact writes_pure tally
  | cons b rest ih =>
      rw [statements, pieces, operators]
      cases h : Operator.ofByte? b with
      | none =>
          rw [List.filterMap_cons_none h]
          exact ih tally
      | some operator =>
          rw [List.filterMap_cons_some h, List.flatMap_cons]
          exact .bind (writes_writeAll _) (ih (tally.add operator))

def bodyFragments (settings : Settings) (source : Bytes) : List Bytes :=
  Frame.preamble settings ++
    (pieces settings source ++ (Frame.epilogue ++ Frame.inputHelper))

theorem writes_body (settings : Settings) (source : Bytes) :
    Writes (body settings ⟨source, none⟩) (bodyFragments settings source)
      (.ok (Usage.ofSource source)) := by
  have layout : bodyFragments settings source = Frame.preamble settings ++
      (pieces settings source ++
        ([] ++ ([] ++ (Frame.epilogue ++ (Frame.inputHelper ++ ([] ++ [])))))) := by
    simp only [bodyFragments, List.nil_append, List.append_nil]
  rw [layout, Usage.ofSource, ← usage_foldl_add _ {}]
  refine .bind (writes_writeAll _) (.bind (writes_statements settings source {}) ?_)
  refine .bind (writes_pure ()) (.bind (writes_record _) ?_)
  refine .bind (writes_writeAll _) (.bind (writes_writeAll _) ?_)
  exact .bind (writes_record _) (writes_pure _)

theorem writes_body_of_failure (settings : Settings) (source : Bytes) (fault : Fault) :
    Writes (body settings ⟨source, some fault⟩)
      (Frame.preamble settings ++ pieces settings source) (.error fault) := by
  rw [← List.append_nil (pieces settings source)]
  refine .bind (writes_writeAll _) (.bind (writes_statements settings source {}) ?_)
  exact .bind_error (writes_throw fault)

theorem writes_interface (usage : Usage) (settings : Settings) :
    Writes (interface usage settings) (Interface.fragments usage settings)
      (.ok (settings.positional.resolve usage)) := by
  have tail : Writes (do
      writeAll (Interface.fragments usage settings)
      return settings.positional.resolve usage) (Interface.fragments usage settings ++ [])
      (.ok (settings.positional.resolve usage)) :=
    .bind (writes_writeAll _) (writes_pure _)
  rw [List.append_nil] at tail
  unfold interface
  dsimp only
  split
  · change Writes _ ([] ++ Interface.fragments usage settings) _
    exact .bind (writes_record _) tail
  · exact tail

theorem writes_program (settings : Settings) (source : Bytes) :
    Writes (program settings ⟨source, none⟩)
      (bodyFragments settings source ++ Interface.fragments (Usage.ofSource source) settings)
      (.ok (Usage.ofSource source)) := by
  rw [← List.append_nil (Interface.fragments (Usage.ofSource source) settings)]
  exact .bind (writes_body settings source) (.bind (writes_interface _ _) (writes_pure _))

theorem writes_program_of_failure (settings : Settings) (source : Bytes) (fault : Fault) :
    Writes (program settings ⟨source, some fault⟩)
      (Frame.preamble settings ++ pieces settings source) (.error fault) :=
  .bind_error (writes_body_of_failure settings source fault)

theorem flatten_bodyFragments (settings : Settings) (source : Bytes) :
    (bodyFragments settings source).flatten = Program.body settings source := by
  simp only [bodyFragments, List.flatten_append, flatten_pieces, Program.body,
    Program.preamble, Program.epilogue, Program.inputHelper, List.append_assoc]

theorem flatten_before_failure (settings : Settings) (source : Bytes) :
    (Frame.preamble settings ++ pieces settings source).flatten =
      Program.preamble settings ++ Program.statements settings source := by
  rw [List.flatten_append, flatten_pieces, Program.preamble]

theorem flatten_programFragments (settings : Settings) (source : Bytes) :
    (bodyFragments settings source ++
      Interface.fragments (Usage.ofSource source) settings).flatten =
      Program.text settings source := by
  rw [List.flatten_append, flatten_bodyFragments, Program.text, Program.interface]

theorem offers_body (settings : Settings) (source : Bytes) :
    Offers (body settings ⟨source, none⟩) (Program.body settings source)
      (.ok (Usage.ofSource source)) :=
  flatten_bodyFragments settings source ▸ (writes_body settings source).offers

theorem offers_body_of_failure (settings : Settings) (source : Bytes) (fault : Fault) :
    Offers (body settings ⟨source, some fault⟩)
      (Program.preamble settings ++ Program.statements settings source) (.error fault) :=
  flatten_before_failure settings source ▸ (writes_body_of_failure settings source fault).offers

theorem offers_program (settings : Settings) (source : Bytes) :
    Offers (program settings ⟨source, none⟩) (Program.text settings source)
      (.ok (Usage.ofSource source)) :=
  flatten_programFragments settings source ▸ (writes_program settings source).offers

theorem offers_program_of_failure (settings : Settings) (source : Bytes) (fault : Fault) :
    Offers (program settings ⟨source, some fault⟩)
      (Program.preamble settings ++ Program.statements settings source) (.error fault) :=
  flatten_before_failure settings source ▸ (writes_program_of_failure settings source fault).offers

theorem exists_writes_program (settings : Settings) (reader : Reader) :
    ∃ fragments, Writes (program settings reader) fragments reader.outcome ∧
      fragments.flatten = (program settings reader).written := by
  rcases reader with ⟨source, _ | fault⟩
  · exact ⟨_, writes_program settings source, (writes_program settings source).offers.written.symm⟩
  · have writes := writes_program_of_failure settings source fault
    exact ⟨_, writes, writes.offers.written.symm⟩

theorem complete_eq (settings : Settings) (reader : Reader) :
    complete settings reader = flushed (program settings reader) := rfl

/-- A complete program on any sink, whatever the reader does. -/
theorem complete_of_counted (settings : Settings) (reader : Reader) {channel : Channel}
    (h : channel.sink.Counted) :
    let text := channel.sink.total ++ (program settings reader).written
    let ended := (complete settings reader).run.run channel
    Ends channel.sink text reader.outcome ended.1 ∧
      ended.2.sink.flush.2.content = channel.sink.limit.cut text := by
  obtain ⟨fragments, writes, htext⟩ := exists_writes_program settings reader
  rw [complete_eq, ← htext]
  exact writes.flushed h

/-- A failure that the emission of a text meets: of its reader, or of an output with this
limit. -/
def Meets (limit : Limit) (reader : Reader) (text : Bytes) (fault : Fault) : Prop :=
  reader.failure = some fault ∨ ∃ count, limit.met text = some (count, fault)

/-- It meets none or reports one that it meets. -/
theorem ok_or_meets {sink : Sink} {text : Bytes} {reader : Reader} {result : Except Fault Usage}
    (h : Ends sink text reader.outcome result) :
    (∃ usage, result = .ok usage ∧ reader.failure = none ∧ sink.limit.met text = none) ∨
      ∃ fault, result = .error fault ∧ Meets sink.limit reader text fault := by
  cases h with
  | itself fits =>
      rw [Reader.outcome] at fits ⊢
      cases hends : reader.failure with
      | none =>
          rw [hends] at fits
          exact .inl ⟨_, rfl, rfl, fits _ rfl⟩
      | some fault => exact .inr ⟨fault, rfl, .inl hends⟩
  | refused stops => exact .inr ⟨_, rfl, .inr ⟨_, stops⟩⟩

/-- What is written before the reader fails is the beginning of what would have been written. -/
theorem written_failingAfter_prefix (settings : Settings) (count : Nat) (fault : Fault)
    (source : Bytes) :
    (program settings (.failingAfter count fault source)).written <+:
      (program settings ⟨source, none⟩).written := by
  have before : (program settings (.failingAfter count fault source)).written =
      Program.preamble settings ++ Program.statements settings (source.take count) :=
    (offers_program_of_failure settings (source.take count) fault).written
  have split : Program.statements settings source =
      Program.statements settings (source.take count) ++
        Program.statements settings (source.drop count) := by
    have whole : (source.take count ++ source.drop count).flatMap (Program.group settings) = _ :=
      List.flatMap_append
    rw [List.take_append_drop] at whole
    exact whole
  rw [before, (offers_program settings source).written, Program.text, Program.body, split]
  simp only [List.append_assoc]
  exact List.prefix_append_right_inj _ |>.mpr (List.prefix_append _ _)

/-- The text that is due before the emission ends by itself: all of it, or what
the bytes before the failure of the reader ask for. -/
def due (settings : Settings) (source complete : Bytes) : Option Nat → Bytes
  | none => complete
  | some count =>
      Program.preamble settings ++ (source.take count).flatMap (Program.group settings)

/-- How the emission ends on a sink that takes everything. -/
def ending (source : Bytes) (fault : Fault) : Option Nat → Except Fault Usage
  | none => .ok ⟨decide (comma ∈ source), decide (dot ∈ source)⟩
  | some _ => .error fault

/-- Whatever the limits of sink and reader, body and program leave exactly the
part of the due text that fits; a full sink goes before a failing reader. -/
theorem failing_streams_leave_prefix (settings : Settings) (source : Bytes)
    (room delivered : Option Nat) (refusal fault : Fault) :
    Leaves room refusal (due settings source (Program.body settings source) delivered)
      (ending source fault delivered)
      ((body settings (.limited source fault delivered)).run.run
        { sink := { room := room, refusal := refusal } }) ∧
    Leaves room refusal (due settings source (Program.text settings source) delivered)
      (ending source fault delivered)
      ((program settings (.limited source fault delivered)).run.run
        { sink := { room := room, refusal := refusal } }) ∧
    ∀ b, Program.group settings b = [] ↔ b ∉ ascii "+-<>,.[]" := by
  refine ⟨?_, ?_, Program.group_eq_nil_iff settings⟩
  · cases delivered with
    | none =>
        rw [ending, ← Usage.ofSource_eq]
        exact (offers_body settings source).leaves room refusal
    | some count =>
        exact (offers_body_of_failure settings (source.take count) fault).leaves room refusal
  · cases delivered with
    | none =>
        rw [ending, ← Usage.ofSource_eq]
        exact (offers_program settings source).leaves room refusal
    | some count =>
        exact (offers_program_of_failure settings (source.take count) fault).leaves room refusal

end Emission

end BrainfuckCompiler
