import BrainfuckCompiler.FileStore.Unix
import BrainfuckCompiler.Proofs.Invocation.Meaning
import BrainfuckCompiler.Proofs.Run.Course
import BrainfuckCompiler.Proofs.Run.Success
import Mathlib.Control.Monad.Basic

/-!
# Printing a program and filing it

The same run with its output on the standard output and in a file. Both find the same source
or fail alike before they touch the output, and as long as the file is not the source both
readers deliver the same, so that the same text is due. The reader can break off for both, and
each output can refuse a byte. A run reports one of the failures that it meets, which need not
be the same one: bytes for the file wait, so that the reader may fail before a refusal shows.
What is different too is what the runs clean up: what was printed stays, a file that was not
finished goes if it can be removed.
-/
namespace BrainfuckCompiler

/-- The same invocation with another output. -/
def Invocation.into (invocation : Invocation) (path : Bytes) : Invocation :=
  { invocation with output := some path }

namespace Run
open BrainfuckCompiler.Action FileStore

variable {context : Context} {invocation : Invocation} {source path : Bytes} {files : FileStore}
variable {target : Location}

/-- The text that is due is the translation of what the reader of the source delivers. -/
def Due (context : Context) (invocation : Invocation) (source : Bytes) (files : FileStore)
    (reader : Reader) (text : Bytes) : Prop :=
  ∃ settings place content,
    invocation.settings
      (VersionText.ofSource source context.now context.environment) = .ok settings ∧
    files.locate source = .ok place ∧ files.find? place = some (.regular content) ∧
    reader = readerAt context.faults files place ∧
    text = (Emission.program settings reader).written

/-- The output is the translation of the whole source. -/
def Complete (context : Context) (invocation : Invocation) (source : Bytes) (files : FileStore)
    (output : Bytes) : Prop :=
  ∃ settings place content,
    invocation.settings
      (VersionText.ofSource source context.now context.environment) = .ok settings ∧
    files.locate source = .ok place ∧ files.find? place = some (.regular content) ∧
    output = (Emission.program settings ⟨content, none⟩).written

/-- The file is gone, or it cannot be removed and holds the text. No other file has changed. -/
structure Abandoned (context : Context) (path : Bytes) (target : Location) (text : Bytes)
    (before after : FileStore) : Prop where
  others : SameBut target before after
  file : ¬ after.Exists path ∨
    (∃ fault, after.remove context.faults path = .error fault) ∧
      after.find? target = some (.regular text)

/-- Both runs have failed midway, each with a failure that it meets. As much of the text that was
due by then as an output takes is on the standard output, where it is the beginning of the whole
translation, and in the file, which is abandoned. -/
structure Midway (context : Context) (invocation : Invocation) (source : Bytes)
    (files : FileStore) (path : Bytes) (target : Location) (reader : Reader) (text : Bytes)
    (fault other : Fault) (output : Bytes) (after : FileStore) : Prop where
  due : Due context invocation source files reader text
  printing : Emission.Meets (limitOf context.faults .standardOutput) reader text fault
  filing : Emission.Meets (limitOf context.faults (.file target)) reader text other
  printed : output = (limitOf context.faults .standardOutput).cut text
  begun : ∃ whole, Complete context invocation source files whole ∧ output <+: whole
  abandoned : Abandoned context path target ((limitOf context.faults (.file target)).cut text)
    files after

/-- How a run that prints compares with a run that files: both fail before they touch the
output, both come to their end, or both fail midway. -/
inductive Compares (context : Context) (invocation : Invocation) (source : Bytes)
    (files : FileStore) (path : Bytes) (target : Location) :
    Except Error Unit × World → Except Error Unit × World → Prop
  | early {error : Error} {printed filed : World} (notStream : ∀ fault, error ≠ .stream fault)
      (kept : printed.files = files) (nothing : printed.output = []) (same : filed.files = files) :
      Compares context invocation source files path target
        (.error error, printed) (.error error, filed)
  | finished {printed filed : World} (kept : printed.files = files)
      (complete : Complete context invocation source files printed.output)
      (located : filed.files.locate path = .ok target)
      (holds : filed.files.find? target = some (.regular printed.output)) :
      Compares context invocation source files path target (.ok (), printed) (.ok (), filed)
  | midway {reader : Reader} {text : Bytes} {fault other : Fault} {printed filed : World}
      (kept : printed.files = files)
      (midway : Midway context invocation source files path target reader text fault other
        printed.output filed.files) :
      Compares context invocation source files path target
        (.error (.stream fault), printed) (.error (.stream other), filed)

theorem not_stream_of_settings {version : Bytes} {error : Error}
    (h : invocation.settings version = .error error) (fault : Fault) : error ≠ .stream fault := by
  rintro rfl
  exact (quiet_settings invocation version).noStream { files := ⟨[], []⟩ } fault h

theorem not_stream_of_sourceOf {strict : Bool} {error : Error}
    (h : sourceOf context.faults strict source files = .error error) (fault : Fault) :
    error ≠ .stream fault := by
  rintro rfl
  have quiet := (quiet_findSource context source).bind (quiet_prepareSource context strict source)
  refine quiet.noStream { files := files } fault ?_
  rw [sourceOf_apply]
  exact h

/-- What is due is the beginning of the translation. -/
theorem Due.exists_complete {reader : Reader} {text : Bytes}
    (due : Due context invocation source files reader text) :
    ∃ whole, Complete context invocation source files whole ∧ text <+: whole := by
  obtain ⟨settings, place, content, hsettings, hlocated, hregular, hreader, htext⟩ := due
  refine ⟨_, ⟨settings, place, content, hsettings, hlocated, hregular, rfl⟩, ?_⟩
  rw [htext, hreader]
  rcases readerAt_cases context.faults hregular with hwhole | ⟨count, error, -, hcut⟩
  · simp only [hwhole, List.prefix_refl]
  · rw [hcut]
    exact Emission.written_failingAfter_prefix settings count (.system error) content

theorem Due.complete {reader : Reader} {text : Bytes}
    (due : Due context invocation source files reader text) (ends : reader.failure = none) :
    Complete context invocation source files text := by
  obtain ⟨settings, place, content, hsettings, hlocated, hregular, hreader, htext⟩ := due
  refine ⟨settings, place, content, hsettings, hlocated, hregular, ?_⟩
  rw [htext]
  rcases readerAt_cases context.faults hregular with hwhole | ⟨count, error, -, hcut⟩
  · rw [hreader, hwhole]
  · rw [hreader, hcut] at ends
    cases ends

/-- Unless the source ends and just one of the outputs refuses a byte, both emissions come to
their end or both meet a failure. -/
theorem ends_alike {reader : Reader} {text : Bytes} {first second : Except Fault Usage}
    (alike : reader.failure = none → ((limitOf context.faults (.file target)).met text = none ↔
      (limitOf context.faults .standardOutput).met text = none))
    (printed : Emit.Ends (sinkOf context.faults .standardOutput) text reader.outcome first)
    (filed : Emit.Ends (sinkOf context.faults (.file target)) text reader.outcome second) :
    (reader.failure = none ∧ (limitOf context.faults .standardOutput).cut text = text ∧
      (limitOf context.faults (.file target)).cut text = text ∧
      ∃ usage other, first = .ok usage ∧ second = .ok other) ∨
    ∃ fault other, first = .error fault ∧ second = .error other ∧
      Emission.Meets (limitOf context.faults .standardOutput) reader text fault ∧
      Emission.Meets (limitOf context.faults (.file target)) reader text other := by
  have printed := Emission.ok_or_meets printed
  have filed := Emission.ok_or_meets filed
  rw [limit_sinkOf] at printed filed
  have excluded {limit : Limit} {fault : Fault} (hends : reader.failure = none)
      (fits : limit.met text = none) : ¬ Emission.Meets limit reader text fault := by
    rintro (hfails | ⟨count, stops⟩)
    · cases hends.symm.trans hfails
    · cases fits.symm.trans stops
  rcases printed with ⟨usage, hfirst, hends, fits⟩ | ⟨fault, hfirst, meets⟩
  · rcases filed with ⟨other, hsecond, -, fits'⟩ | ⟨other, -, meets⟩
    · refine .inl ⟨hends, ?_, ?_, usage, other, hfirst, hsecond⟩
      · exact Limit.met_eq_none_iff.mp fits
      · exact Limit.met_eq_none_iff.mp fits'
    · exact absurd meets (excluded hends ((alike hends).mpr fits))
  · rcases filed with ⟨usage, -, hends, fits⟩ | ⟨other, hsecond, meets'⟩
    · exact absurd meets (excluded hends ((alike hends).mp fits))
    · exact .inr ⟨fault, other, hfirst, hsecond, meets, meets'⟩

/-- What becomes of a file that was not finished. -/
theorem abandoned_withdrawn {filed : World} {text : Bytes}
    (creates : Creates context.faults files path target)
    (holds : Holds files filed.files target text) :
    Abandoned context path target text files
      (withdrawn context path (.file target) filed).files := by
  rcases withdrawn_cases context (creates.locate_eq holds.others) with
    ⟨hrest, hgone⟩ | ⟨fault, hrefused, hnoted⟩
  · exact ⟨holds.others.trans hrest, .inl hgone⟩
  · rw [hnoted]
    exact ⟨holds.others, .inr ⟨⟨fault, hrefused⟩, holds.file⟩⟩

theorem run_compares (creates : Creates context.faults files path target)
    (apart : files.locate source ≠ .ok target)
    (alike : ∀ reader text, Due context invocation source files reader text →
      reader.failure = none → ((limitOf context.faults (.file target)).met text = none ↔
        (limitOf context.faults .standardOutput).met text = none)) :
    Compares context invocation source files path target
      (run context (invocation.into [dash]) source { files := files })
      (run context (invocation.into path) source { files := files }) := by
  have same (output version : Bytes) :
      (invocation.into output).settings version = invocation.settings version := rfl
  have strict (output : Bytes) : (invocation.into output).has .strict = invocation.has .strict := rfl
  have printed : (invocation.into [dash]).outputPath source = [dash] := rfl
  have filed : (invocation.into path).outputPath source = path := rfl
  rw [run_eq, run_eq, same, same, strict, strict, printed, filed]
  dsimp only
  cases hsettings : invocation.settings
    (VersionText.ofSource source context.now context.environment) with
  | error error => exact .early (not_stream_of_settings hsettings) rfl rfl rfl
  | ok settings =>
    cases hsource : sourceOf context.faults (invocation.has .strict) source files with
    | error error => exact .early (not_stream_of_sourceOf hsource) rfl rfl rfl
    | ok prepared =>
      obtain ⟨place, content, stands⟩ := stands_of_sourceOf hsource
      have hne : place ≠ target := by
        rintro rfl
        exact apart stands.located
      let noted (output : Bytes) : World :=
        { files := files, events := [.pathsChosen source output, .settingsChosen settings] }
      have dashed : PathName.isStandardOutput [dash] = true := rfl
      obtain ⟨first, events, endsFirst, hprinted⟩ :=
        writeProgram_printed context settings prepared (noted [dash]) dashed
      obtain ⟨second, others, endsSecond, hfiled⟩ :=
        writeProgram_filed settings prepared (show Creates _ (noted path).files _ _ from creates)
      -- Both readers deliver what there is at the source, so the same text is due.
      have printing : readerOf context settings .standardOutput files prepared = _ :=
        stands.readerOf_eq nofun rfl
      have filing : readerOf context settings (.file target) (files.put target (.regular []))
          prepared = _ := stands.readerOf_eq (Target.file_ne hne) (find?_put_of_ne files _ hne)
      dsimp only [noted] at endsFirst endsSecond hprinted hfiled ⊢
      rw [printing] at endsFirst hprinted
      rw [filing] at endsSecond hfiled
      rw [hprinted, hfiled]
      generalize hreader : readerAt context.faults files place = reader at *
      generalize htext : (Emission.program settings reader).written = text at *
      have due : Due context invocation source files reader text :=
        ⟨settings, place, content, hsettings, stands.located, stands.regular, hreader.symm,
          htext.symm⟩
      rcases ends_alike (alike reader text due) endsFirst endsSecond with
        ⟨hends, whole, same, usage, other, rfl, rfl⟩ | ⟨fault, other, rfl, rfl, printing, filing⟩
      · have holds := holds_put_put files target (.regular []) text
        rw [whole, same]
        exact .finished rfl (due.complete hends) (creates.locate_eq holds.others) holds.file
      · have holds := holds_put_put files target (.regular [])
          ((limitOf context.faults (.file target)).cut text)
        obtain ⟨whole, complete, begun⟩ := due.exists_complete
        have begun := (Limit.cut_prefix (limitOf context.faults .standardOutput) text).trans begun
        exact .midway rfl ⟨due, printing, filing, rfl, ⟨whole, complete, begun⟩,
          abandoned_withdrawn creates holds⟩

end Run

namespace Command
open FileStore

/-- Two command lines for the same program, one that prints it and one that files it at a path
where a regular file can be created that is not the source. -/
structure Twins (context : Context) (files : FileStore) (invocation : Invocation)
    (words others : List Bytes) (path : Bytes) (target : Location) : Prop where
  prints : Invocation.read words = .ok (invocation.into [dash])
  fills : Invocation.read others = .ok (invocation.into path)
  runs : invocation.has .version = false
  creates : Creates context.faults files path target
  apart : ∀ source, invocation.source = some source → files.locate source ≠ .ok target

/-- What the program leaves behind if it prints, compared with what it leaves behind if it
files. -/
structure Agree (context : Context) (invocation : Invocation) (source : Bytes) (files : FileStore)
    (path : Bytes) (target : Location) (printed filed : Outcome) : Prop where
  status : printed.ending.status = filed.ending.status
  ended : printed.ending = .finished ∧ filed.ending = .finished ∨
    ∃ error other, printed.ending = .failed error ∧ filed.ending = .failed other ∧
      failureLine error <:+ printed.errorOutput ∧ failureLine other <:+ filed.errorOutput
  /-- If there is only one failure to report then both report it. -/
  same : (∀ reader text fault other, Run.Due context invocation source files reader text →
      Emission.Meets (Run.limitOf context.faults .standardOutput) reader text fault →
      Emission.Meets (Run.limitOf context.faults (.file target)) reader text other →
        fault = other) → printed.ending = filed.ending
  kept : printed.files = files
  finished : printed.ending = .finished →
    Run.Complete context invocation source files printed.output ∧
      filed.files.locate path = .ok target ∧
      filed.files.find? target = some (.regular printed.output)
  early : ∀ error, printed.ending = .failed error → (∀ fault, error ≠ .stream fault) →
    filed.ending = .failed error ∧ printed.output = [] ∧ filed.files = files
  midway : ∀ fault, printed.ending = .failed (.stream fault) →
    ∃ reader text other, filed.ending = .failed (.stream other) ∧
      Run.Midway context invocation source files path target reader text fault other
        printed.output filed.files

/-- A command line that prints and one that files the same program end alike, unless just one of
the outputs refuses a byte of it, and say so in the same words, unless there is more than one
failure to report. What is printed is what the file holds; a failure midway leaves the beginning
of it on the standard output, and no file unless that cannot be removed. -/
theorem printing_agrees_with_filing (context : Context) (files : FileStore)
    (invocation : Invocation) (words others : List Bytes) (path : Bytes) (target : Location)
    (twins : Twins context files invocation words others path target)
    (alike : ∀ source reader text, invocation.source = some source →
      Run.Due context invocation source files reader text → reader.failure = none →
        ((Run.limitOf context.faults (.file target)).met text = none ↔
          (Run.limitOf context.faults .standardOutput).met text = none)) :
    ∃ source, invocation.source = some source ∧
      Agree context invocation source files path target
        (execute context words files) (execute context others files) := by
  obtain ⟨items, -, checked⟩ := Invocation.exists_account twins.prints
  have asks : invocation.source.isSome = true ∨ invocation.has .version = true :=
    checked.valid.asks
  rw [twins.runs, Option.isSome_iff_exists] at asks
  obtain ⟨source, hsource⟩ := asks.resolve_right Bool.false_ne_true
  refine ⟨source, hsource, ?_⟩
  have named (output : Bytes) : (invocation.into output).source = some source := hsource
  have silent (output : Bytes) : (invocation.into output).has .version = false := twins.runs
  rw [execute_of_read context twins.prints, execute_of_read context twins.fills,
    perform_of_source context (named [dash]) (silent [dash]),
    perform_of_source context (named path) (silent path)]
  have compares := Run.run_compares twins.creates (twins.apart source hsource)
    fun reader text due => alike source reader text hsource due
  generalize run context (invocation.into [dash]) source { files := files } = printed at compares ⊢
  generalize run context (invocation.into path) source { files := files } = filed at compares ⊢
  cases compares with
  | early notStream kept nothing same =>
      refine ⟨rfl, .inr ⟨_, _, rfl, rfl, ?_, ?_⟩, fun _ => rfl, kept, nofun, ?_, ?_⟩
      · exact List.suffix_append _ _
      · exact List.suffix_append _ _
      · rintro _ ⟨⟩ -
        exact ⟨rfl, nothing, same⟩
      · rintro fault heq
        exact absurd (Ending.failed.inj heq) (notStream fault)
  | finished kept complete located holds =>
      refine ⟨rfl, .inl ⟨rfl, rfl⟩, fun _ => rfl, kept, ?_, nofun, nofun⟩
      intro _
      exact ⟨complete, located, holds⟩
  | midway kept midway =>
      refine ⟨rfl, .inr ⟨_, _, rfl, rfl, ?_, ?_⟩, ?_, kept, nofun, ?_, ?_⟩
      · exact List.suffix_append _ _
      · exact List.suffix_append _ _
      · intro single
        exact congrArg (Ending.failed <| .stream ·)
          (single _ _ _ _ midway.due midway.printing midway.filing)
      · rintro _ ⟨⟩ notStream
        exact absurd rfl (notStream _)
      · rintro _ ⟨⟩
        exact ⟨_, _, _, rfl, midway⟩

/-- Both outputs are full after twenty bytes, the source breaks off after three, and the file
cannot be removed again. -/
theorem full_outputs_and_interrupted_source :
    let files : FileStore := ⟨[([], .directory), ([ascii "d"], .directory),
      ([ascii "p.bf"], .regular (ascii "+[.-]"))], []⟩
    let faults : Faults := {
      reading := fun _ => some (3, .inputOutput), writing := fun _ => some (20, .noSpace),
      printing := some (20, .noSpace), removing := fun _ => some .denied }
    let context : Context := { faults := faults, now := { seconds := 0 } }
    let invocation : Invocation := { source := some (ascii "p.bf") }
    let words := ["-o", "-", "p.bf"].map ascii
    let others := ["p.bf", "-o=d/p.c"].map ascii
    let printed := execute context words files
    let filed := execute context others files
    printed.ending = .failed (.stream (.system .noSpace)) ∧ printed.output.length = 20 ∧
      Twins context files invocation words others (ascii "d/p.c") [ascii "d", ascii "p.c"] ∧
      ∃ source, invocation.source = some source ∧ Agree context invocation source files
        (ascii "d/p.c") [ascii "d", ascii "p.c"] printed filed := by
  intro files faults context invocation words others printed filed
  have full : printed.ending = .failed (.stream (.system .noSpace)) ∧
      printed.output.length = 20 := by decide +kernel
  have twins : Twins context files invocation words others (ascii "d/p.c")
      [ascii "d", ascii "p.c"] := by
    refine ⟨rfl, rfl, rfl, ⟨rfl, _, rfl, rfl⟩, ?_⟩
    rintro source ⟨⟩
    decide +kernel
  refine ⟨full.1, full.2, twins, ?_⟩
  exact printing_agrees_with_filing context files invocation words others _ _ twins
    fun _ _ _ _ _ _ => Iff.rfl

/-- The memory of the process takes no byte and cannot be removed, and the standard output takes
all. Of two outputs that are full, the one with a buffer reports the source if that breaks off
before the buffer is flushed. -/
theorem printed_and_filed_apart :
    (let files : FileStore := (Unix.store [ascii "w"]).put [ascii "w", ascii "p.bf"]
        (.regular (ascii "+"))
      let context : Context := { faults := Unix.faults, now := { seconds := 0 } }
      let invocation : Invocation := {
        source := some (ascii "p.bf"), versionString := some (ascii "v") }
      let words := ["-o", "-", "p.bf", "-V", "v"].map ascii
      let others := ["-o", "/proc/self/mem", "p.bf", "-V", "v"].map ascii
      let printed := execute context words files
      let filed := execute context others files
      Twins context files invocation words others (ascii "/proc/self/mem") Unix.memory ∧
        printed.ending = .finished ∧ filed.ending = .failed (.stream (.system .inputOutput)) ∧
        filed.files.Exists (ascii "/proc/self/mem")) ∧
    (let files : FileStore := ⟨[([], .directory), ([ascii "p.bf"], .regular (ascii "+[.-]"))], []⟩
      let faults : Faults := {
        reading := fun _ => some (3, .inputOutput), writing := fun _ => some (20, .noSpace),
        printing := some (20, .noSpace), removing := fun _ => some .denied }
      let context : Context := { faults := faults, now := { seconds := 0 } }
      let invocation : Invocation := { source := some (ascii "p.bf") }
      let words := ["-o", "-", "p.bf"].map ascii
      let others := ["-o", "p.c", "p.bf"].map ascii
      let printed := execute context words files
      let filed := execute context others files
      Twins context files invocation words others (ascii "p.c") [ascii "p.c"] ∧
        printed.ending = .failed (.stream (.system .noSpace)) ∧
        filed.ending = .failed (.stream (.system .inputOutput)) ∧
        filed.files.Exists (ascii "p.c")) := by
  constructor
  · intro files context invocation words others printed filed
    obtain ⟨finished, failed, located, found⟩ : printed.ending = .finished ∧
        filed.ending = .failed (.stream (.system .inputOutput)) ∧
        filed.files.locate (ascii "/proc/self/mem") = .ok Unix.memory ∧
        (filed.files.find? Unix.memory).isSome := by decide +kernel
    refine ⟨⟨rfl, rfl, rfl, ⟨rfl, _, rfl, rfl⟩, ?_⟩, finished, failed, ?_⟩
    · rintro source ⟨⟩
      decide +kernel
    · exact .of_isSome located found
  · intro files faults context invocation words others printed filed
    obtain ⟨full, broken, located, found⟩ :
        printed.ending = .failed (.stream (.system .noSpace)) ∧
        filed.ending = .failed (.stream (.system .inputOutput)) ∧
        filed.files.locate (ascii "p.c") = .ok [ascii "p.c"] ∧
        (filed.files.find? [ascii "p.c"]).isSome := by decide +kernel
    refine ⟨⟨rfl, rfl, rfl, ⟨rfl, _, rfl, rfl⟩, ?_⟩, full, broken, ?_⟩
    · rintro source ⟨⟩
      decide +kernel
    · exact .of_isSome located found

end Command

end BrainfuckCompiler
