import BrainfuckCompiler.Proofs.Run.Course
import Mathlib.Control.Monad.Basic

/-!
# What a failed run leaves behind

A run that fails before its output is created has changed no file. If it fails later, while
it reads or writes, it takes the output away again: nothing stands under the path of the
output then, unless taking it away failed too, and no other file has changed. What it has
printed stays, and no file has changed if the standard output refuses a byte. The statement
holds for any files and any failures of the system, also if source and output are the same
file.
-/
namespace BrainfuckCompiler

namespace Run
open BrainfuckCompiler.Action FileStore

/-- What is left once reading or writing has failed midway. The standard output is never
taken away; a file is gone, or the journal ends with the reason why it is not. -/
structure Withdrawn (context : Context) (path : Bytes) (before : FileStore) (after : World) :
    Prop where
  standardOutput : PathName.isStandardOutput path = true → after.files = before
  file : PathName.isStandardOutput path = false →
    ∃ location, before.locate path = .ok location ∧ SameBut location before after.files ∧
      (after.files.Exists path → ∃ fault,
        after.files.remove context.faults path = .error fault ∧
          after.events.head? = some (.removalFailed path fault))

/-- What a failure leaves of the files: all of them as they were, or a withdrawn output. -/
def Leftover (context : Context) (path : Bytes) (before : FileStore) (after : World) :
    Error → Prop
  | .stream _ => Withdrawn context path before after
  | _ => after.files = before

/-- Whenever the action fails, it leaves nothing half-written at the path. -/
def Tidy {α : Type} (context : Context) (path : Bytes) (action : Action α) : Prop :=
  ∀ world error after, action world = (.error error, after) →
    Leftover context path world.files after error

variable {context : Context} {path : Bytes} {α β : Type}

theorem leftover_of_files_eq {before : FileStore} {after : World} {error : Error}
    (hfiles : after.files = before) (herror : ∀ fault, error ≠ .stream fault) :
    Leftover context path before after error := by
  cases error with
  | stream fault => exact absurd rfl (herror fault)
  | _ => exact hfiles

/-- A stage before the last only has to be quiet. -/
theorem tidy_bind_of_quiet {action : Action α} {next : α → Action β} (h : Quiet action)
    (k : ∀ a, Tidy context path (next a)) : Tidy context path (action >>= next) := by
  intro world error after hrun
  have hfiles := h.files world
  have hfault := h.noStream world
  rw [bind_apply] at hrun
  rcases hr : action world with ⟨result, middle⟩
  rw [hr] at hrun hfiles hfault
  cases result with
  | ok a =>
      have := k a middle error after hrun
      rwa [hfiles] at this
  | error earlier =>
      obtain ⟨he, rfl⟩ := Prod.mk.inj hrun
      obtain rfl := Except.error.inj he
      exact leftover_of_files_eq hfiles fun fault he => hfault fault (congrArg _ he)

theorem Tidy.bind_record {action : Action α} (h : Tidy context path action) (event : α → Event) :
    Tidy context path (action >>= fun a => record (event a)) := by
  intro world error after hrun
  rw [bind_apply] at hrun
  rcases hr : action world with ⟨result, middle⟩
  rw [hr] at hrun
  cases result with
  | ok a => cases hrun
  | error earlier =>
      obtain ⟨he, rfl⟩ := Prod.mk.inj hrun
      obtain rfl := Except.error.inj he
      exact h world earlier middle hr

/-- Bytes reach the target and nothing else. -/
theorem sameBut_deliver (world : World) (bytes : Bytes) (location : Location) :
    SameBut location world.files (deliver world bytes (.file location)).files := by
  unfold deliver
  dsimp only
  split
  · exact .refl location _
  · exact sameBut_put _ location _
  · exact .refl location _

theorem sameBut_emitted (settings : Settings) (source : Source) (location : Location)
    (world : World) : SameBut location world.files
      (emitted context settings source (.file location) world).2.files := by
  unfold emitted
  dsimp only
  generalize (Emission.complete settings _).run.run _ = ended
  exact sameBut_deliver { world with events := ended.2.events } _ location

theorem withdrawn_of_standardOutput {before : FileStore} {after : World}
    (hpath : PathName.isStandardOutput path = true) (hfiles : after.files = before) :
    Withdrawn context path before after :=
  ⟨fun _ => hfiles, fun hfile => absurd hpath (by simp [hfile])⟩

/-- The path still denotes the location at which the output was created, so that removing it
removes what was written. -/
theorem withdrawn_of_create {before made : FileStore} {location : Location} {ended : World}
    (hpath : PathName.isStandardOutput path = false)
    (hmade : before.create context.faults path = .ok (location, made))
    (hended : SameBut location made ended.files) :
    Withdrawn context path before (withdrawn context path (.file location) ended) := by
  have same : SameBut location before ended.files := (sameBut_of_create hmade).trans hended
  have hplace := locate_of_create hmade (.refl location before)
  have hdenotes := locate_of_create hmade same
  refine ⟨fun hs => absurd hpath (by simp [hs]), fun _ => ⟨location, hplace, ?_⟩⟩
  rcases withdrawn_cases context hdenotes with ⟨hrest, hgone⟩ | ⟨fault, hrefused, hnoted⟩
  · exact ⟨same.trans hrest, fun hexists => absurd hexists hgone⟩
  · rw [hnoted]
    exact ⟨same, fun _ => ⟨fault, hrefused, rfl⟩⟩

theorem tidy_writeProgram (settings : Settings) (source : Source) :
    Tidy context path (writeProgram context settings source path) := by
  intro world error after hrun
  rw [writeProgram_apply, openOutput_apply] at hrun
  by_cases hpath : PathName.isStandardOutput path = true
  · rw [if_pos hpath] at hrun
    dsimp only at hrun
    rcases hended : emitted context settings source .standardOutput world with ⟨result, ended⟩
    have hfiles : ended.files = world.files := congrArg (fun r => r.2.files) hended.symm
    rw [hended] at hrun
    cases result with
    | ok usage => cases hrun
    | error fault =>
        obtain ⟨he, rfl⟩ := Prod.mk.inj hrun
        obtain rfl := Except.error.inj he
        exact withdrawn_of_standardOutput hpath hfiles
  · rw [if_neg hpath] at hrun
    cases hmade : world.files.create context.faults path with
    | error fault =>
        rw [hmade] at hrun
        obtain ⟨he, rfl⟩ := Prod.mk.inj hrun
        obtain rfl := Except.error.inj he
        rfl
    | ok made =>
        obtain ⟨location, made⟩ := made
        rw [hmade] at hrun
        dsimp only at hrun
        rcases hended : emitted context settings source (.file location)
          { world with files := made } with ⟨result, ended⟩
        have hsame : SameBut location made ended.files := by
          have := @sameBut_emitted context settings source location { world with files := made }
          rwa [hended] at this
        rw [hended] at hrun
        cases result with
        | ok usage => cases hrun
        | error fault =>
            obtain ⟨he, rfl⟩ := Prod.mk.inj hrun
            obtain rfl := Except.error.inj he
            exact withdrawn_of_create (by simpa using hpath) hmade hsame

/-- No exit of a run leaves anything half-written. -/
theorem tidy_run (context : Context) (invocation : Invocation) (source : Bytes) :
    Tidy context (invocation.outputPath source) (run context invocation source) := by
  refine tidy_bind_of_quiet (quiet_settings _ _) fun settings => ?_
  refine tidy_bind_of_quiet (quiet_record _) fun _ => ?_
  refine tidy_bind_of_quiet (quiet_record _) fun _ => ?_
  refine tidy_bind_of_quiet (quiet_findSource context source) fun location => ?_
  refine tidy_bind_of_quiet (quiet_prepareSource context _ source location) fun prepared => ?_
  exact (tidy_writeProgram settings prepared).bind_record _

end Run

/-- A command line that is rejected, that asks for help or that asks for the version of the
program touches no file. -/
theorem Command.files_execute (context : Context) (words : List Bytes) (files : FileStore)
    (h : ∀ invocation, Invocation.read words = .ok invocation →
      invocation.has .version = true) : (execute context words files).files = files := by
  unfold execute
  split
  · rfl
  · rfl
  · next invocation hread =>
    rw [perform_of_version context fun _ => h invocation hread]
    rfl

/-- A failure at any point leaves no half-written state. -/
theorem failed_run_leaves_nothing_partial (context : Context) :
    (∀ (invocation : Invocation) (source : Bytes) (world after : World) (error : Error),
      (run context invocation source).run.run world = (.error error, after) →
        Run.Leftover context (invocation.outputPath source) world.files after error) ∧
    ∀ (words : List Bytes) (files : FileStore),
      (∀ invocation, Invocation.read words = .ok invocation → invocation.has .version = true) →
        (Command.execute context words files).files = files := by
  refine ⟨?_, Command.files_execute context⟩
  intro invocation source world after error hrun
  exact Run.tidy_run context invocation source world error after hrun

/-- A source that breaks off after one byte, once written to a file that cannot be removed again
and once printed to an output that is full before that. -/
theorem refused_removal_and_full_output :
    let files : FileStore := ⟨[([], .directory), ([ascii "p.bf"], .regular (ascii "+[.-]")),
      ([ascii "q.c"], .regular (ascii "old"))], []⟩
    let faults : Faults := {
      reading := fun _ => some (1, .inputOutput), removing := fun _ => some .denied,
      printing := some (30, .noSpace) }
    let context : Context := { faults := faults, now := { seconds := 0 } }
    let filed := (run context { output := some (ascii "q.c") } (ascii "p.bf")).run.run
      { files := files }
    let printed := (run context { output := some [dash] } (ascii "p.bf")).run.run { files := files }
    (filed.1 = .error (.stream (.system .inputOutput)) ∧
      filed.2.events.head? = some (.removalFailed (ascii "q.c") (.system .denied)) ∧
      (filed.2.files.find? [ascii "q.c"]).isSome ∧
      Run.Leftover context (ascii "q.c") files filed.2 (.stream (.system .inputOutput))) ∧
    (printed.1 = .error (.stream (.system .noSpace)) ∧ printed.2.output.length = 30 ∧
      Run.Leftover context [dash] files printed.2 (.stream (.system .noSpace))) ∧
    (Command.execute context (["-dv", "p.bf"].map ascii) files).files = files := by
  intro files faults context filed printed
  obtain ⟨runs, others⟩ := failed_run_leaves_nothing_partial context
  have failed (ended : Except Error Unit × World) {error : Error} (h : ended.1 = .error error) :
      ended = (.error error, ended.2) := Prod.ext h rfl
  have broken : filed.1 = .error (.stream (.system .inputOutput)) ∧
      filed.2.events.head? = some (.removalFailed (ascii "q.c") (.system .denied)) ∧
      (filed.2.files.find? [ascii "q.c"]).isSome := by
    decide +kernel
  have full : printed.1 = .error (.stream (.system .noSpace)) ∧ printed.2.output.length = 30 := by
    decide +kernel
  refine ⟨⟨broken.1, broken.2.1, broken.2.2, ?_⟩, ⟨full.1, full.2, ?_⟩, ?_⟩
  · exact runs _ _ _ filed.2 _ (failed filed broken.1)
  · exact runs _ _ _ printed.2 _ (failed printed full.1)
  · refine others _ files ?_
    rintro invocation ⟨⟩
    rfl

end BrainfuckCompiler
