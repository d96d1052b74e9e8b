import Mathlib.Data.List.Basic
import BrainfuckCompiler.Proofs.Determination
import BrainfuckCompiler.Proofs.Invocation.Meaning
import BrainfuckCompiler.Proofs.Run.Course
import BrainfuckCompiler.Proofs.Run.Success

/-!
# What the result of a run depends on

Neither the variable with the filter for log lines nor the debug flag has any influence on
what a run does: it records the same events in the same order, and only the log lines that
are made of them in the end are different.

The user, the time and the path of the source show in the default version text and nowhere
else. So if a version text is given, then what comes out at the output of a run that
succeeds depends on the operators of the source and the other settings alone, wherever the
source and the output are and whichever way the source is read.
-/
namespace BrainfuckCompiler

/-- The contexts differ in nothing but the filter for log lines. -/
structure Context.AlikeButFilter (first second : Context) : Prop where
  faults : first.faults = second.faults
  now : first.now = second.now
  environment : ∀ name, name ≠ Command.filterVariable →
    first.environment.value? name = second.environment.value? name

namespace Invocation

/-- The invocations differ in nothing but the debug flag. -/
structure AlikeButDebug (first second : Invocation) : Prop where
  flags : ∀ flag, flag ≠ .debug → first.has flag = second.has flag
  source : first.source = second.source
  output : first.output = second.output
  size : first.size = second.size
  copyright : first.copyright = second.copyright
  versionString : first.versionString = second.versionString

/-- The invocations ask for the same program and give it the same version text. -/
structure AsksAlike (first second : Invocation) : Prop where
  version : ∃ text, first.versionString = some text ∧ second.versionString = some text
  copyright : first.copyright = second.copyright
  size : first.size = second.size
  flushes : first.has .forceFlush = second.has .forceFlush
  groups : ∀ group ∈ Flag.groups, ∀ flag ∈ group, first.has flag = second.has flag

variable {first second : Invocation}

theorem settings_congr {version other : Bytes}
    (hversion : first.versionString.getD version = second.versionString.getD other)
    (copyright : first.copyright = second.copyright) (size : first.size = second.size)
    (flushes : first.has .forceFlush = second.has .forceFlush)
    (groups : ∀ group ∈ Flag.groups, ∀ flag ∈ group, first.has flag = second.has flag) :
    first.settings version = second.settings other := by
  have grouped (flag : Flag) (h : flag ∈ Flag.groups.flatten) : first.has flag = second.has flag := by
    obtain ⟨group, hgroup, hflag⟩ := List.mem_flatten.mp h
    exact groups group hgroup flag hflag
  have width : first.width = second.width := by
    simp only [Invocation.width, grouped .cellInt (by decide), grouped .cellShort (by decide)]
  have endOfInput : first.endOfInput = second.endOfInput := by
    simp only [Invocation.endOfInput, grouped .eofZero (by decide),
      grouped .eofNoEffect (by decide)]
  have positional : first.positional = second.positional := by
    simp only [Invocation.positional, grouped .outputDefault (by decide),
      grouped .inputDefault (by decide), grouped .messageDefault (by decide)]
  simp only [settings, hversion, copyright, size, flushes, width, endOfInput, positional]

theorem AlikeButDebug.settings_eq (h : first.AlikeButDebug second) (version : Bytes) :
    first.settings version = second.settings version := by
  refine settings_congr ?_ h.copyright h.size (h.flags _ (by decide)) ?_
  · rw [h.versionString]
  · have apart : ∀ group ∈ Flag.groups, ∀ flag ∈ group, flag ≠ Flag.debug := by decide
    intro group hgroup flag hflag
    exact h.flags flag (apart group hgroup flag hflag)

/-- With a version text of its own, an invocation does not need any other. -/
theorem AsksAlike.settings_eq (h : first.AsksAlike second) (version other : Bytes) :
    first.settings version = second.settings other := by
  obtain ⟨text, hfirst, hsecond⟩ := h.version
  refine settings_congr ?_ h.copyright h.size h.flushes h.groups
  rw [hfirst, hsecond, Option.getD_some, Option.getD_some]

end Invocation

theorem VersionText.ofSource_congr {first second : Context} (h : first.AlikeButFilter second)
    (path : Bytes) : ofSource path first.now first.environment =
      ofSource path second.now second.environment := by
  have huser : userName first.environment = userName second.environment := by
    have apart : ∀ name ∈ userVariables, name ≠ Command.filterVariable := by decide
    unfold userName
    rw [List.filterMap_congr fun name hname => h.environment name (apart name hname)]
  rw [ofSource, ofSource, huser, h.now]

namespace Run
open BrainfuckCompiler.Action FileStore

section
variable {first second : Context}

theorem readerOf_congr (h : first.faults = second.faults) (settings : Settings) (target : Target)
    (files : FileStore) (prepared : Source) :
    readerOf first settings target files prepared =
      readerOf second settings target files prepared := by
  cases prepared with
  | loaded content => rfl
  | opened place => rw [readerOf, readerOf, h]

theorem writeProgram_congr (h : first.faults = second.faults) (settings : Settings)
    (prepared : Source) (path : Bytes) (world : World) :
    writeProgram first settings prepared path world =
      writeProgram second settings prepared path world := by
  simp only [writeProgram_apply, openOutput_apply, emitted, withdrawn, readerOf_congr h, h]

/-- A run does not even record anything else. -/
theorem run_congr {invocation other : Invocation} (contexts : first.AlikeButFilter second)
    (invocations : invocation.AlikeButDebug other) (source : Bytes) (world : World) :
    run first invocation source world = run second other source world := by
  have houtput : invocation.outputPath source = other.outputPath source := by
    rw [Invocation.outputPath, Invocation.outputPath, invocations.output]
  rw [run_eq, run_eq]
  simp only [VersionText.ofSource_congr contexts, invocations.settings_eq, houtput, contexts.faults,
    invocations.flags .strict (by decide), writeProgram_congr contexts.faults]

end

end Run

namespace Command

/-- The same ending, and so the same status, the same standard output and the same files. -/
structure SameResult (first second : Outcome) : Prop where
  ending : first.ending = second.ending
  output : first.output = second.output
  files : first.files = second.files

theorem sameResult_perform {first second : Context} {invocation other : Invocation}
    (contexts : first.AlikeButFilter second) (invocations : invocation.AlikeButDebug other)
    (files : FileStore) :
    SameResult (perform first invocation files) (perform second other files) := by
  have hversion := invocations.flags .version (by decide)
  by_cases hshown : other.source.isSome = true → other.has .version = true
  · have hsource : invocation.source.isSome = true → invocation.has .version = true := by
      rwa [invocations.source, hversion]
    rw [perform_of_version first hsource, perform_of_version second hshown, contexts.faults]
    exact ⟨rfl, rfl, rfl⟩
  · rw [Classical.not_imp, Option.isSome_iff_exists, Bool.not_eq_true] at hshown
    obtain ⟨⟨source, hsource⟩, hasks⟩ := hshown
    rw [perform_of_source first (invocations.source.trans hsource) (hversion.trans hasks),
      perform_of_source second hsource hasks, Run.run_congr contexts invocations]
    rcases run second other source { files := files } with ⟨_ | _, after⟩
    · exact ⟨rfl, rfl, rfl⟩
    · exact ⟨rfl, rfl, rfl⟩

theorem sameResult_execute {first second : Context} (contexts : first.AlikeButFilter second)
    {words others : List Bytes}
    (alike : words = others ∨ ∃ invocation other, Invocation.read words = .ok invocation ∧
      Invocation.read others = .ok other ∧ invocation.AlikeButDebug other)
    (files : FileStore) :
    SameResult (execute first words files) (execute second others files) := by
  rcases alike with rfl | ⟨invocation, other, hread, hother, alike⟩
  · unfold execute
    rw [contexts.faults]
    rcases Invocation.read words with (_ | _) | invocation
    · exact ⟨rfl, rfl, rfl⟩
    · exact ⟨rfl, rfl, rfl⟩
    · exact sameResult_perform contexts ⟨fun _ _ => rfl, rfl, rfl, rfl, rfl, rfl⟩ files
  · rw [execute_of_read first hread, execute_of_read second hother]
    exact sameResult_perform contexts alike files

end Command

namespace Run
open BrainfuckCompiler.Action FileStore

/-- Bytes that are written to the path do not get lost. -/
def Keeps (path : Bytes) (files : FileStore) : Prop :=
  PathName.isStandardOutput path = false →
    ∀ target, files.locate path = .ok target → files.find? target ≠ some .nullDevice

/-- What has come out at the path of the output, if bytes are kept there. -/
def product? (path : Bytes) (files : FileStore) (output : Bytes) : Option Bytes :=
  if PathName.isStandardOutput path then some output
  else
    match files.locate path with
    | .error _ => none
    | .ok target =>
        match files.find? target with
        | some (.regular content) => some content
        | some .standardOutput => some output
        | _ => none

section
variable {context : Context} {settings : Settings} {world after : World} {source path : Bytes}
variable {prepared : Source} {place : Location} {content : Bytes} {usage : Usage}

/-- A last stage that succeeds has opened its target and delivered to it. -/
theorem writeProgram_eq_ok
    (hok : writeProgram context settings prepared path world = (.ok usage, after)) :
    ∃ target opened, openOutput context path world = (.ok target, opened) ∧
      emitted context settings prepared target opened = (.ok usage, after) := by
  rw [writeProgram_apply] at hok
  split at hok
  · cases hok
  · next target opened hopened =>
    refine ⟨target, opened, hopened, ?_⟩
    split at hok
    · next hended =>
      obtain ⟨hfound, rfl⟩ := Prod.mk.inj hok
      rw [hended, Except.ok.inj hfound]
    · cases hok

theorem openOutput_eq_ok {target : Target}
    (hok : openOutput context path world = (.ok target, after)) :
    PathName.isStandardOutput path = true ∧ target = .standardOutput ∧ after = world ∨
      PathName.isStandardOutput path = false ∧ ∃ location made,
        world.files.create context.faults path = .ok (location, made) ∧
          target = .file location ∧ after = { world with files := made } := by
  rw [openOutput_apply] at hok
  split at hok
  · next hpath =>
    obtain ⟨htarget, rfl⟩ := Prod.mk.inj hok
    exact .inl ⟨hpath, (Except.ok.inj htarget).symm, rfl⟩
  · next hpath =>
    split at hok
    · next location made hmade =>
      obtain ⟨htarget, rfl⟩ := Prod.mk.inj hok
      exact .inr ⟨by simpa using hpath, location, made, hmade, (Except.ok.inj htarget).symm, rfl⟩
    · cases hok

/-- An emission that comes to its end has met the end of the source and delivered the whole
program of what was in front of it. -/
theorem delivered_of_ok {target : Target}
    (hok : emitted context settings prepared target world = (.ok usage, after)) :
    let reader := readerOf context settings target world.files prepared
    reader.failure = none ∧ ∃ events, after =
      deliver { world with events := events } (Program.text settings reader.delivered) target := by
  intro reader
  obtain ⟨ends, events, hreached⟩ := emitted_cases context settings prepared target world
  rw [hok] at ends hreached
  obtain ⟨houtcome, fits⟩ := ends.of_ok
  rw [limit_sinkOf, Limit.met_eq_none_iff] at fits
  rw [fits] at hreached
  have hends : reader.failure = none := by
    rw [Reader.outcome] at houtcome
    split at houtcome
    · assumption
    · cases houtcome
  have hreader : reader = ⟨reader.delivered, none⟩ := by rw [← hends]
  refine ⟨hends, events, ?_⟩
  rw [← (Emission.offers_program settings reader.delivered).written, ← hreader]
  exact hreached

/-- A run that succeeds has been through all its stages. -/
theorem run_eq_ok {invocation : Invocation}
    (hok : run context invocation source world = (.ok (), after)) :
    ∃ settings prepared usage noted last,
      invocation.settings
        (VersionText.ofSource source context.now context.environment) = .ok settings ∧
      sourceOf context.faults (invocation.has .strict) source world.files = .ok prepared ∧
      noted.files = world.files ∧ noted.output = world.output ∧
      writeProgram context settings prepared (invocation.outputPath source) noted =
        (.ok usage, last) ∧
      after.files = last.files ∧ after.output = last.output := by
  rw [run_eq] at hok
  dsimp only at hok
  split at hok
  · cases hok
  next settings hsettings =>
  split at hok
  · cases hok
  next prepared hsource =>
  split at hok
  · cases hok
  next usage last hwrite =>
  obtain ⟨-, rfl⟩ := Prod.mk.inj hok
  refine ⟨settings, prepared, usage, _, last, hsettings, hsource, ?_, ?_, hwrite, rfl, rfl⟩
  · rfl
  · rfl

/-- A last stage that succeeds leaves the whole program of what its reader has delivered at
the output, also if the output is the source. -/
theorem exists_product?_of_ok (keeps : Keeps path world.files) (hempty : world.output = [])
    (hok : writeProgram context settings prepared path world = (.ok usage, after)) :
    ∃ target opened, openOutput context path world = (.ok target, opened) ∧
      let reader := readerOf context settings target opened.files prepared
      reader.failure = none ∧
        product? path after.files after.output =
          some (Program.text settings reader.delivered) := by
  obtain ⟨target, opened, hopened, hended⟩ := writeProgram_eq_ok hok
  obtain ⟨hends, events, rfl⟩ := delivered_of_ok hended
  refine ⟨target, opened, hopened, hends, ?_⟩
  unfold product?
  rcases openOutput_eq_ok hopened with
    ⟨hpath, rfl, rfl⟩ | ⟨hpath, location, made, hmade, rfl, rfl⟩
  · simp only [hpath, deliver, hempty, List.nil_append, if_true]
  · have hplace := locate_of_create hmade (.refl location world.files)
    obtain ⟨-, -, hcreated⟩ := create_cases hmade
    rw [hpath, if_neg Bool.false_ne_true]
    rcases hcreated with ⟨rfl, hnull | hspecial⟩ | rfl
    · exact absurd hnull (keeps hpath location hplace)
    · simp only [deliver, hspecial, hplace, hempty, List.nil_append]
    · simp only [deliver, find?_put_self]
      generalize Program.text settings _ = text
      have holds := (sameBut_put world.files location (.regular [])).trans
        (sameBut_put _ location (.regular text))
      rw [locate_of_create hmade holds]
      simp only [find?_put_self]

/-- If the output is not the source, that is the program of the whole source. -/
theorem product?_of_ok (stands : Stands context.faults world.files source place content prepared)
    (apart : PathName.isStandardOutput path = false → world.files.locate path ≠ .ok place)
    (keeps : Keeps path world.files) (hempty : world.output = [])
    (hok : writeProgram context settings prepared path world = (.ok usage, after)) :
    product? path after.files after.output = some (Program.text settings content) := by
  obtain ⟨target, opened, hopened, hends, hproduct⟩ := exists_product?_of_ok keeps hempty hok
  have hreader : readerOf context settings target opened.files prepared =
      readerAt context.faults world.files place := by
    rcases openOutput_eq_ok hopened with
      ⟨-, rfl, rfl⟩ | ⟨hpath, location, made, hmade, rfl, rfl⟩
    · exact stands.readerOf_eq nofun rfl
    · have hne : place ≠ location := by
        rintro rfl
        exact apart hpath (locate_of_create hmade (.refl place world.files))
      exact stands.readerOf_eq (Target.file_ne hne) ((sameBut_of_create hmade).find? place hne)
  rw [hreader] at hends hproduct
  rcases readerAt_cases context.faults stands.regular with hwhole | ⟨count, error, -, hcut⟩
  · rw [hproduct, hwhole]
  · rw [hcut] at hends
    cases hends

end

end Run

namespace Command

/-- The run behind an execution that finishes. -/
theorem run_of_finished {context : Context} {words : List Bytes} {files : FileStore}
    {invocation : Invocation} {source : Bytes} (accepted : Invocation.read words = .ok invocation)
    (named : invocation.source = some source)
    (finished : (execute context words files).ending = .finished) :
    ∃ after, run context invocation source { files := files } = (.ok (), after) ∧
      (execute context words files).files = after.files ∧
      (execute context words files).output = after.output := by
  rw [execute_of_read context accepted] at finished ⊢
  cases hversion : invocation.has .version with
  | true =>
      rw [perform_of_version context fun _ => hversion] at finished
      exact absurd finished (showVersion_ne_finished _ _ _)
  | false =>
      rw [perform_of_source context named hversion] at finished ⊢
      rcases hrun : run context invocation source { files := files } with ⟨_ | _, after⟩
      · rw [hrun] at finished
        cases finished
      · exact ⟨after, rfl, rfl, rfl⟩

/-- An execution that finishes leaves the program of something at its output, also if the
output is the source. -/
theorem exists_product?_of_finished {context : Context} {words : List Bytes} {files : FileStore}
    {invocation : Invocation} {source : Bytes} (accepted : Invocation.read words = .ok invocation)
    (named : invocation.source = some source)
    (keeps : Run.Keeps (invocation.outputPath source) files)
    (finished : (execute context words files).ending = .finished) :
    ∃ settings content, invocation.settings
        (VersionText.ofSource source context.now context.environment) = .ok settings ∧
      Run.product? (invocation.outputPath source) (execute context words files).files
        (execute context words files).output = some (Program.text settings content) := by
  obtain ⟨after, hrun, hfiles, houtput⟩ := run_of_finished accepted named finished
  obtain ⟨settings, prepared, usage, noted, last, hsettings, -, hnoted, hempty, hwrite, hlast,
    hprinted⟩ := Run.run_eq_ok hrun
  rw [← show noted.files = files from hnoted] at keeps
  obtain ⟨target, opened, -, -, hproduct⟩ := Run.exists_product?_of_ok keeps hempty hwrite
  rw [hfiles, houtput, hlast, hprinted]
  exact ⟨settings, _, hsettings, hproduct⟩

/-- Where no system error is in the way, an execution finishes on balanced brackets. -/
theorem finished_of_readable {context : Context} {words : List Bytes} {files : FileStore}
    {invocation : Invocation} {source content : Bytes} {place target : Location}
    (accepted : Invocation.read words = .ok invocation)
    (named : invocation.source = some source) (silent : invocation.has .version = false)
    (hsize : invocation.size ≠ 0)
    (readable : FileStore.Readable context.faults files source place content)
    (creatable : FileStore.Creatable context.faults files (invocation.outputPath source) target)
    (apart : place ≠ target) (balanced : Brackets.check content = .ok ()) :
    (execute context words files).ending = .finished := by
  obtain ⟨settings, hsettings⟩ := Invocation.exists_settings hsize
    (VersionText.ofSource source context.now context.environment)
  let prepared : Run.Source := if invocation.has .strict then .loaded content else .opened place
  have hprepared (noted : World) (hnoted : noted.files = files) :
      Run.prepareSource context (invocation.has .strict) source place noted =
        (.ok prepared, noted) := by
    rw [← hnoted] at readable
    rw [Run.prepareSource_of_readable readable, balanced]
    unfold prepared
    cases invocation.has .strict with
    | true => rfl
    | false => rfl
  have hreader : Run.readerOf context settings (.file target) (files.put target (.regular []))
      prepared = ⟨content, none⟩ := by
    unfold prepared
    cases invocation.has .strict with
    | true => rfl
    | false =>
        exact @Run.readerOf_opened_of_ne context settings { files := files } _ _ _ _ readable apart
  have hrun := @Run.run_of_reader context settings { files := files } place target content
    invocation source content prepared hsettings readable creatable hprepared hreader
  rw [execute_of_read context accepted, perform_of_source context named silent]
  dsimp only
  rw [hrun.1]

/-- An execution that has succeeded, with its source and what it finds there. The output is
not the source, and bytes that go there are kept. -/
structure Translation where
  context : Context
  words : List Bytes
  files : FileStore
  invocation : Invocation
  source : Bytes
  place : Location
  content : Bytes
  accepted : Invocation.read words = .ok invocation
  named : invocation.source = some source
  located : files.locate source = .ok place
  regular : files.find? place = some (.regular content)
  apart : PathName.isStandardOutput (invocation.outputPath source) = false →
    files.locate (invocation.outputPath source) ≠ .ok place
  keeps : PathName.isStandardOutput (invocation.outputPath source) = false →
    ∀ target, files.locate (invocation.outputPath source) = .ok target →
      files.find? target ≠ some .nullDevice
  finished : (execute context words files).ending = .finished

namespace Translation

def outcome (translation : Translation) : Outcome :=
  execute translation.context translation.words translation.files

/-- What has come out at the output. -/
def product? (translation : Translation) : Option Bytes :=
  Run.product? (translation.invocation.outputPath translation.source) translation.outcome.files
    translation.outcome.output

/-- What comes out is the program of the settings and of the content of the source. -/
theorem product?_eq (translation : Translation) :
    ∃ settings, translation.invocation.settings (VersionText.ofSource translation.source
        translation.context.now translation.context.environment) = .ok settings ∧
      translation.product? = some (Program.text settings translation.content) := by
  obtain ⟨after, hrun, hfiles, houtput⟩ :=
    run_of_finished translation.accepted translation.named translation.finished
  obtain ⟨settings, prepared, usage, noted, last, hsettings, hsource, hnoted, hempty, hwrite,
    hlast, hprinted⟩ := Run.run_eq_ok hrun
  dsimp only at hsource hnoted hempty
  obtain ⟨place, content, stands⟩ := Run.stands_of_sourceOf hsource
  obtain rfl : translation.place = place :=
    Except.ok.inj (translation.located.symm.trans stands.located)
  obtain rfl : translation.content = content := by
    simpa using translation.regular.symm.trans stands.regular
  refine ⟨settings, hsettings, ?_⟩
  have apart := translation.apart
  have keeps : Run.Keeps _ translation.files := translation.keeps
  rw [← hnoted] at stands apart keeps
  have product := Run.product?_of_ok stands apart keeps hempty hwrite
  rw [← hlast, ← hprinted, ← hfiles, ← houtput] at product
  exact product

/-- Two executions that ask for the same program with the same version text put out the
same, if the operators of their sources are the same. -/
theorem exists_product?_eq {first second : Translation}
    (alike : first.invocation.AsksAlike second.invocation)
    (operators : first.content.filter (· ∈ ascii "+-<>,.[]") =
      second.content.filter (· ∈ ascii "+-<>,.[]")) :
    ∃ text, first.product? = some text ∧ second.product? = some text := by
  obtain ⟨settings, hsettings, hfirst⟩ := first.product?_eq
  obtain ⟨others, hothers, hsecond⟩ := second.product?_eq
  obtain rfl : settings = others :=
    Except.ok.inj (hsettings.symm.trans ((alike.settings_eq _ _).trans hothers))
  have husage : Usage.ofSource first.content = Usage.ofSource second.content := by
    rw [Usage.ofSource, Usage.ofSource, (filter_bytes_eq_iff _ _).mp operators]
  have same : Program.text settings first.content = Program.text settings second.content :=
    Program.text_eq_of_alike ⟨operators, rfl, rfl, rfl, rfl, .inl rfl, .inl rfl, by rw [husage]⟩
  exact ⟨_, hfirst, same ▸ hsecond⟩

end Translation

/-- The filter for log lines and the debug flag have no influence on the result, whatever the
command line and the files. With a version text of their own, executions in any two places
that succeed put out the same for the same operators. -/
theorem result_ignores_surroundings :
    (∀ first second : Context, first.AlikeButFilter second → ∀ words others : List Bytes,
      (words = others ∨ ∃ invocation other, Invocation.read words = .ok invocation ∧
        Invocation.read others = .ok other ∧ invocation.AlikeButDebug other) →
      ∀ files, SameResult (execute first words files) (execute second others files)) ∧
    ∀ first second : Translation, first.invocation.AsksAlike second.invocation →
      first.content.filter (· ∈ ascii "+-<>,.[]") =
        second.content.filter (· ∈ ascii "+-<>,.[]") →
      ∃ text, first.product? = some text ∧ second.product? = some text := by
  constructor
  · intro first second contexts words others alike files
    exact sameResult_execute contexts alike files
  · intro first second alike operators
    exact Translation.exists_product?_eq alike operators

/-- A strict run with an empty environment and a run with debug output somewhere else, later
and by somebody, on a source with a remark in it. -/
theorem reproduced_elsewhere :
    ∃ first second : Translation,
      first.words = ["--strict", "-Vv1", "a.bf"].map ascii ∧ first.context.environment = [] ∧
      second.words = ["-d", "d/b.bf", "-oc", "--version-string=v1"].map ascii ∧
      second.context.environment = [("USER", ascii "me"), ("RUST_LOG", ascii "trace")] ∧
      ∃ text, first.product? = some text ∧ second.product? = some text := by
  let first : Translation := {
    context := { now := { seconds := 0 } }
    words := ["--strict", "-Vv1", "a.bf"].map ascii
    files := ⟨[([], .directory), ([ascii "a.bf"], .regular (ascii ",[.,]"))], []⟩
    invocation := { Invocation.set {} .strict with
      source := some (ascii "a.bf"), versionString := some (ascii "v1") }
    source := ascii "a.bf"
    place := [ascii "a.bf"]
    content := ascii ",[.,]"
    accepted := rfl
    named := rfl
    located := rfl
    regular := rfl
    apart := by decide +kernel
    keeps := by
      rintro - _ ⟨⟩
      decide
    finished := finished_of_readable rfl rfl rfl (by decide) ⟨rfl, rfl, rfl⟩
      ⟨⟨rfl, _, rfl, rfl⟩, rfl⟩ (by decide) rfl }
  let second : Translation := {
    context := {
      now := { seconds := 86400 }
      environment := [("USER", ascii "me"), ("RUST_LOG", ascii "trace")] }
    words := ["-d", "d/b.bf", "-oc", "--version-string=v1"].map ascii
    files := ⟨[([], .directory), ([ascii "d"], .directory),
      ([ascii "d", ascii "b.bf"], .regular (ascii "copy ,[.,]"))], []⟩
    invocation := { Invocation.set {} .debug with
      source := some (ascii "d/b.bf"), output := some (ascii "c"),
      versionString := some (ascii "v1") }
    source := ascii "d/b.bf"
    place := [ascii "d", ascii "b.bf"]
    content := ascii "copy ,[.,]"
    accepted := rfl
    named := rfl
    located := rfl
    regular := rfl
    apart := by decide +kernel
    keeps := by
      rintro - _ ⟨⟩
      decide
    finished := finished_of_readable rfl rfl rfl (by decide) ⟨rfl, rfl, rfl⟩
      ⟨⟨rfl, _, rfl, rfl⟩, rfl⟩ (by decide) rfl }
  have alike : first.invocation.AsksAlike second.invocation :=
    ⟨⟨_, rfl, rfl⟩, rfl, rfl, rfl, by decide⟩
  have operators : first.content.filter (· ∈ ascii "+-<>,.[]") =
      second.content.filter (· ∈ ascii "+-<>,.[]") := by decide +kernel
  exact ⟨first, second, rfl, rfl, rfl, rfl,
    result_ignores_surroundings.2 first second alike operators⟩

end Command

end BrainfuckCompiler
