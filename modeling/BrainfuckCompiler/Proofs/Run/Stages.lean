import BrainfuckCompiler.Proofs.FileStore
import BrainfuckCompiler.Run

/-!
# The stages of a run

A run is a sequence of stages, and only the last of them touches the files. The stages
before it choose the settings, find the source and read or open it; they are `Quiet`. What
the last one does is said once: it opens the target, hands it what the emission has
delivered, and takes the output away if the emission has failed.
-/
namespace BrainfuckCompiler

namespace Action
variable {α β : Type}

theorem bind_apply (action : Action α) (next : α → Action β) (world : World) :
    (action >>= next) world =
      match action world with
      | (.ok a, after) => next a after
      | (.error error, after) => (.error error, after) := by
  change (match action world with | (r, after) => ExceptT.bindCont next r after) = _
  rcases action world with ⟨_ | _, after⟩ <;> rfl

theorem get_bind (next : World → Action β) (world : World) :
    ((get : Action World) >>= next) world = next world world := rfl

theorem set_bind (world : World) (next : PUnit → Action β) (earlier : World) :
    ((set world : Action PUnit) >>= next) earlier = next ⟨⟩ world := rfl

/-- The action leaves the files alone, and no stream fails in it. -/
structure Quiet (action : Action α) : Prop where
  files : ∀ world, (action world).2.files = world.files
  noStream : ∀ world fault, (action world).1 ≠ .error (.stream fault)

theorem Quiet.bind {action : Action α} {next : α → Action β} (h : Quiet action)
    (k : ∀ a, Quiet (next a)) : Quiet (action >>= next) := by
  have both (world : World) : ((action >>= next) world).2.files = world.files ∧
      ∀ fault, ((action >>= next) world).1 ≠ .error (.stream fault) := by
    have hfiles := h.files world
    have hfault := h.noStream world
    rw [bind_apply]
    rcases hr : action world with ⟨result, after⟩
    rw [hr] at hfiles hfault
    cases result with
    | ok a => exact ⟨((k a).files after).trans hfiles, (k a).noStream after⟩
    | error error =>
        refine ⟨hfiles, fun fault he => hfault fault ?_⟩
        exact congrArg Except.error (Except.error.inj he)
  exact ⟨fun world => (both world).1, fun world => (both world).2⟩

theorem quiet_pure (a : α) : Quiet (pure a) := ⟨fun _ => rfl, by intros; nofun⟩

theorem quiet_throw {error : Error} (h : ∀ fault, error ≠ .stream fault) :
    Quiet (throw error : Action α) :=
  ⟨fun _ => rfl, fun _ fault he => h fault (Except.error.inj he)⟩

theorem quiet_throw_bind {error : Error} (h : ∀ fault, error ≠ .stream fault)
    (next : α → Action β) : Quiet ((throw error : Action α) >>= next) :=
  ⟨fun _ => rfl, fun _ fault he => h fault (Except.error.inj he)⟩

theorem quiet_get : Quiet (get : Action World) := ⟨fun _ => rfl, by intros; nofun⟩

end Action

namespace Run
open BrainfuckCompiler.Action FileStore

variable (context : Context) {world : World}

theorem quiet_record (event : Event) : Quiet (record event) := ⟨fun _ => rfl, by intros; nofun⟩

theorem quiet_named {α : Type} (path : Bytes) (result : Except Fault α) :
    Quiet (named path result) := by
  cases result with
  | ok a => exact quiet_pure a
  | error fault => exact quiet_throw nofun

theorem quiet_settings (invocation : Invocation) (version : Bytes) :
    Quiet (invocation.settings version : Action Settings) := by
  refine ⟨fun _ => rfl, fun world fault he => ?_⟩
  have he : invocation.settings version = .error (.stream fault) := he
  rw [Invocation.settings, Settings.sized] at he
  split at he
  · cases he
  · cases he

theorem quiet_findSource (path : Bytes) : Quiet (findSource context path) := by
  refine quiet_get.bind fun world => (quiet_named path _).bind fun found => ?_
  split
  · exact quiet_pure _
  · exact quiet_throw nofun

theorem quiet_loadSource (path : Bytes) (location : Location) :
    Quiet (loadSource context path location) := by
  refine quiet_get.bind fun world => ?_
  dsimp only
  split
  · exact quiet_throw_bind (by nofun) _
  · split
    · exact quiet_throw nofun
    · exact quiet_pure _

theorem quiet_prepareSource (strict : Bool) (path : Bytes) (location : Location) :
    Quiet (prepareSource context strict path location) := by
  unfold prepareSource
  split
  · refine (quiet_loadSource context path location).bind fun content => ?_
    split
    · exact quiet_pure _
    · exact quiet_throw nofun
  · dsimp only
    split
    · exact quiet_throw_bind (by nofun) _
    · exact quiet_pure _

theorem openOutput_apply (path : Bytes) (world : World) :
    openOutput context path world =
      if PathName.isStandardOutput path then (.ok .standardOutput, world)
      else
        match world.files.create context.faults path with
        | .ok (location, files) => (.ok (.file location), { world with files := files })
        | .error fault => (.error (.file path fault), world) := by
  unfold openOutput
  split
  · rfl
  · rw [get_bind, bind_apply]
    rcases world.files.create context.faults path with fault | ⟨location, files⟩
    · rfl
    · rfl

/-- How the emission to an open target ends, and the world with what has reached the
target. -/
def emitted (settings : Settings) (source : Source) (target : Target) (world : World) :
    Except Fault Usage × World :=
  let reader := readerOf context settings target world.files source
  let start : Channel := { sink := sinkOf context.faults target, events := world.events }
  let ended := (Emission.complete settings reader).run.run start
  (ended.1,
    deliver { world with events := ended.2.events } ended.2.sink.flush.2.content target)

/-- The world after the output of a failed emission was taken away, or could not be. -/
def withdrawn (path : Bytes) (target : Target) (world : World) : World :=
  if target = .standardOutput then world
  else
    match world.files.remove context.faults path with
    | .ok files => { world with files := files }
    | .error fault => { world with events := .removalFailed path fault :: world.events }

/-- Either the file is gone, or the system has refused to remove it and the journal says so. -/
theorem withdrawn_cases {path : Bytes} {location : Location} {world : World}
    (located : world.files.locate path = .ok location) :
    let after := withdrawn context path (.file location) world
    (SameBut location world.files after.files ∧ ¬ after.files.Exists path) ∨
      ∃ fault, world.files.remove context.faults path = .error fault ∧
        after = { world with events := .removalFailed path fault :: world.events } := by
  unfold withdrawn
  rw [if_neg nofun]
  cases hremove : world.files.remove context.faults path with
  | ok files => exact .inl (remove_cases located hremove)
  | error fault => exact .inr ⟨fault, rfl, rfl⟩

theorem removeOutput_apply (path : Bytes) (location : Location) (world : World) :
    removeOutput context path world = (.ok (), withdrawn context path (.file location) world) := by
  unfold removeOutput withdrawn
  rw [get_bind, if_neg nofun]
  rcases world.files.remove context.faults path with fault | files
  · rfl
  · rfl

/-- All that the last stage does. -/
theorem writeProgram_apply (settings : Settings) (source : Source) (path : Bytes) (world : World) :
    writeProgram context settings source path world =
      match openOutput context path world with
      | (.error error, after) => (.error error, after)
      | (.ok target, opened) =>
          match emitted context settings source target opened with
          | (.ok usage, after) => (.ok usage, after)
          | (.error fault, after) =>
              (.error (.stream fault), withdrawn context path target after) := by
  unfold writeProgram
  rw [bind_apply]
  rcases openOutput context path world with ⟨_ | target, opened⟩
  · rfl
  · dsimp only
    rw [get_bind]
    unfold emitted
    dsimp only
    rcases (Emission.complete settings
      (readerOf context settings target opened.files source)).run.run
      { sink := sinkOf context.faults target, events := opened.events } with ⟨result, channel⟩
    dsimp only
    rw [set_bind]
    cases result with
    | ok usage => rfl
    | error fault =>
        cases target with
        | standardOutput => rfl
        | file location =>
            dsimp only
            rw [if_pos nofun, bind_apply, removeOutput_apply context path location]
            rfl

end Run

end BrainfuckCompiler
