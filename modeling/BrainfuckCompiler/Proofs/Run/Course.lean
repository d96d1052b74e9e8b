import BrainfuckCompiler.Command
import BrainfuckCompiler.Proofs.Delivery
import BrainfuckCompiler.Proofs.Run.Stages

/-!
# The course of a run

All stages of a run in one equation. The stages before the last one look at the files and
change nothing, so what they find is a function of the files, `sourceOf`. The last stage hands
the target what the emission amounts to on the reader of the source, up to the limit of the
target.
-/
namespace BrainfuckCompiler

namespace Run
open BrainfuckCompiler.Action FileStore

/-- The source that a run finds, read and checked or only opened. -/
def sourceOf (faults : Faults) (strict : Bool) (path : Bytes) (files : FileStore) :
    Except Error Source :=
  match files.examine faults path with
  | .error fault => .error (.file path fault)
  | .ok (place, .regular _) =>
      match faults.opening place, strict with
      | some error, _ => .error (.file path (.system error))
      | none, false => .ok (.opened place)
      | none, true =>
          let reader := readerAt faults files place
          match reader.failure, Brackets.check reader.delivered with
          | some fault, _ => .error (.file path fault)
          | none, .error imbalance => .error (.brackets imbalance)
          | none, .ok _ => .ok (.loaded reader.delivered)
  | .ok _ => .error (.file path .notRegular)

variable (context : Context) {settings : Settings} {world : World}

theorem loadSource_apply (path : Bytes) (place : Location) (world : World) :
    loadSource context path place world =
      match context.faults.opening place, (readerAt context.faults world.files place).failure with
      | some error, _ => (.error (.file path (.system error)), world)
      | none, some fault => (.error (.file path fault), world)
      | none, none => (.ok (readerAt context.faults world.files place).delivered, world) := by
  unfold loadSource
  rw [get_bind]
  cases context.faults.opening place with
  | some error => rfl
  | none =>
      dsimp only
      cases (readerAt context.faults world.files place).failure with
      | none => rfl
      | some fault => rfl

theorem sourceOf_apply (strict : Bool) (path : Bytes) (world : World) :
    (findSource context path >>= prepareSource context strict path) world =
      (sourceOf context.faults strict path world.files, world) := by
  unfold sourceOf findSource
  rw [bind_apply, get_bind, bind_apply]
  rcases world.files.examine context.faults path with fault | ⟨place, node⟩
  · rfl
  cases node with
  | regular content =>
      change prepareSource context strict path place world = _
      unfold prepareSource
      cases strict with
      | false =>
          rw [if_neg Bool.false_ne_true]
          dsimp only
          cases context.faults.opening place with
          | some error => rfl
          | none => rfl
      | true =>
          rw [if_pos rfl, bind_apply, loadSource_apply]
          dsimp only
          cases context.faults.opening place with
          | some error => rfl
          | none =>
              dsimp only
              cases (readerAt context.faults world.files place).failure with
              | some fault => rfl
              | none =>
                  dsimp only
                  cases Brackets.check (readerAt context.faults world.files place).delivered with
                  | ok _ => rfl
                  | error imbalance => rfl
  | _ => rfl

/-- A run from its beginning to its end. -/
theorem run_eq (invocation : Invocation) (source : Bytes) (world : World) :
    run context invocation source world =
      let output := invocation.outputPath source
      match invocation.settings
        (VersionText.ofSource source context.now context.environment) with
      | .error error => (.error error, world)
      | .ok settings =>
          let noted := { world with
            events := .pathsChosen source output :: .settingsChosen settings :: world.events }
          match sourceOf context.faults (invocation.has .strict) source world.files with
          | .error error => (.error error, noted)
          | .ok prepared =>
              match writeProgram context settings prepared output noted with
              | (.error error, after) => (.error error, after)
              | (.ok usage, after) => (.ok (), { after with
                  events := .outputWritten output usage (settings.positional.resolve usage) ::
                    after.events }) := by
  unfold run
  dsimp only
  rw [bind_apply]
  cases invocation.settings (VersionText.ofSource source context.now context.environment) with
  | error error => rfl
  | ok settings =>
      let noted : World := { world with
        events := .pathsChosen source (invocation.outputPath source) ::
          .settingsChosen settings :: world.events }
      have found := sourceOf_apply context (invocation.has .strict) source noted
      change (findSource context source >>= _) noted = _
      rw [← bind_assoc, bind_apply, found]
      dsimp only
      cases sourceOf context.faults (invocation.has .strict) source world.files with
      | error error => rfl
      | ok prepared =>
          dsimp only
          rw [bind_apply]
          rcases writeProgram context settings prepared (invocation.outputPath source) noted with
            ⟨_ | usage, after⟩
          · rfl
          · rfl

variable {context} {files : FileStore} {place : Location} {content path : Bytes}
variable {target : Target} {prepared : Source} {after : FileStore}

/-- The reader of a regular file delivers all of it, or fails midway. -/
theorem readerAt_cases (faults : Faults) (h : files.find? place = some (.regular content)) :
    readerAt faults files place = ⟨content, none⟩ ∨
      ∃ count error, faults.reading place = some (count, error) ∧
        readerAt faults files place = .failingAfter count (.system error) content := by
  simp only [readerAt, h]
  cases faults.reading place with
  | none => exact .inl rfl
  | some failure =>
      obtain ⟨count, error⟩ := failure
      exact .inr ⟨count, error, rfl, rfl⟩

/-- What is behind the source of a run: a regular file that is still to be read, or that has
been read to its end. -/
structure Stands (faults : Faults) (files : FileStore) (path : Bytes) (place : Location)
    (content : Bytes) (prepared : Source) : Prop where
  located : files.locate path = .ok place
  regular : files.find? place = some (.regular content)
  prepared : prepared = .opened place ∨
    prepared = .loaded content ∧ readerAt faults files place = ⟨content, none⟩

theorem stands_of_sourceOf {faults : Faults} {strict : Bool}
    (h : sourceOf faults strict path files = .ok prepared) :
    ∃ place content, Stands faults files path place content prepared := by
  unfold sourceOf at h
  split at h
  · cases h
  · next place content hexamined =>
    obtain ⟨location, hlocated, hnode⟩ := bind_eq_ok hexamined
    split at hnode
    · cases hnode
    · cases hnode
    next hregular =>
    obtain ⟨rfl, rfl⟩ := Prod.mk.inj (Except.ok.inj hnode)
    refine ⟨_, _, hlocated, hregular, ?_⟩
    split at h
    · cases h
    · exact .inl (Except.ok.inj h).symm
    · dsimp only at h
      split at h
      · cases h
      · cases h
      next hfailure _ =>
      obtain rfl := Except.ok.inj h
      rcases readerAt_cases faults hregular with hreader | ⟨count, error, -, hreader⟩
      · exact .inr ⟨by rw [hreader], hreader⟩
      · rw [hreader] at hfailure
        cases hfailure
  · cases h

theorem Target.file_ne {location : Location} (h : place ≠ location) :
    Target.file location ≠ .file place :=
  fun heq => h (Target.file.inj heq).symm

theorem readerOf_opened (apart : target ≠ .file place) (files : FileStore) :
    readerOf context settings target files (.opened place) =
      readerAt context.faults files place := by
  have hother : ¬ (target = .file place ∧ context.faults.reading place = none) := by
    rintro ⟨heq, -⟩
    exact apart heq
  change (if _ then _ else _) = _
  rw [if_neg hother]

/-- As long as it is not the output, a run reads what there is at its source, whatever happens
to other files. -/
theorem Stands.readerOf_eq (h : Stands context.faults files path place content prepared)
    (apart : target ≠ .file place) (hsame : after.find? place = files.find? place) :
    readerOf context settings target after prepared = readerAt context.faults files place := by
  rcases h.prepared with rfl | ⟨rfl, hreader⟩
  · rw [readerOf_opened apart, readerAt, readerAt, hsame]
  · exact hreader.symm

@[simp] theorem limit_sinkOf (faults : Faults) (target : Target) :
    (sinkOf faults target).limit = limitOf faults target := by
  unfold sinkOf
  rcases limitOf faults target with _ | ⟨count, refusal⟩
  · rfl
  · simp [Sink.within, Sink.limit, Sink.content]

theorem total_sinkOf (faults : Faults) (target : Target) :
    (sinkOf faults target).Counted ∧ (sinkOf faults target).total = [] := by
  unfold sinkOf
  rcases limitOf faults target with _ | ⟨count, refusal⟩
  · exact ⟨rfl, rfl⟩
  · exact ⟨rfl, rfl⟩

/-- How the emission to a target ends, and what reaches the target. -/
theorem emitted_cases (context : Context) (settings : Settings) (prepared : Source)
    (target : Target) (world : World) :
    let reader := readerOf context settings target world.files prepared
    let text := (Emission.program settings reader).written
    let ended := emitted context settings prepared target world
    Emit.Ends (sinkOf context.faults target) text reader.outcome ended.1 ∧
      ∃ events, ended.2 = deliver { world with events := events }
        ((limitOf context.faults target).cut text) target := by
  intro reader text
  obtain ⟨hcounted, htotal⟩ := total_sinkOf context.faults target
  have complete := Emission.complete_of_counted settings reader
    (show (Channel.mk (sinkOf context.faults target) world.events).sink.Counted from hcounted)
  unfold emitted
  dsimp only at complete ⊢
  generalize (Emission.complete settings reader).run.run
    { sink := sinkOf context.faults target, events := world.events } = ended at complete ⊢
  rw [htotal, List.nil_append, limit_sinkOf] at complete
  rw [complete.2]
  exact ⟨complete.1, _, rfl⟩

/-- The last stage on the standard output. -/
theorem writeProgram_printed (context : Context) (settings : Settings) (prepared : Source)
    (world : World) (hpath : PathName.isStandardOutput path = true) :
    let reader := readerOf context settings .standardOutput world.files prepared
    let text := (Emission.program settings reader).written
    ∃ result events, Emit.Ends (sinkOf context.faults .standardOutput) text reader.outcome result ∧
      writeProgram context settings prepared path world =
        (result.mapError .stream, { world with
          output := world.output ++ (limitOf context.faults .standardOutput).cut text
          events := events }) := by
  intro reader text
  obtain ⟨ends, events, hreached⟩ := emitted_cases context settings prepared .standardOutput world
  rcases hended : emitted context settings prepared .standardOutput world with ⟨result, after⟩
  rw [hended] at ends hreached
  obtain rfl : after = _ := hreached
  refine ⟨result, events, ends, ?_⟩
  rw [writeProgram_apply, openOutput_apply, if_pos hpath]
  dsimp only
  rw [hended]
  cases result with
  | ok usage => rfl
  | error fault => rfl

end Run

namespace Command
variable {invocation : Invocation} {source : Bytes}

/-- An invocation that names a source and does not ask for the version. -/
theorem perform_of_source (context : Context) (hsource : invocation.source = some source)
    (hversion : invocation.has .version = false) (files : FileStore) :
    perform context invocation files =
      let ended := run context invocation source { files := files }
      let log := Journal.render (filterText context.environment (invocation.has .debug))
        ended.2.events.reverse
      match ended.1 with
      | .ok _ => ⟨.finished, ended.2.files, ended.2.output, log⟩
      | .error error => ⟨.failed error, ended.2.files, ended.2.output, log ++ failureLine error⟩ := by
  simp only [perform, hsource, hversion]
  rfl

/-- An invocation without a source asks for the version, if it is accepted. -/
theorem perform_of_version (context : Context)
    (h : invocation.source.isSome = true → invocation.has .version = true) (files : FileStore) :
    perform context invocation files =
      showVersion context.faults (filterText context.environment (invocation.has .debug)) files := by
  unfold perform
  cases hsource : invocation.source with
  | none => rfl
  | some source => rw [h (by rw [hsource]; rfl)]

theorem showVersion_ne_finished (faults : Faults) (filter : Bytes) (files : FileStore) :
    (showVersion faults filter files).ending ≠ .finished := by
  unfold showVersion
  dsimp only
  split
  · nofun
  · nofun

theorem execute_of_read (context : Context) {words : List Bytes}
    (accepted : Invocation.read words = .ok invocation) (files : FileStore) :
    execute context words files = perform context invocation files := by
  rw [execute, accepted]

end Command

end BrainfuckCompiler
