import BrainfuckCompiler.Proofs.Run.Course

/-!
# What a run without system errors does

If the source can be read and the output can be created and written, the run leaves the
translation of the source at the output and changes nothing else. A strict run reads the
source before it creates the output. Any other run reads it afterwards, which makes no
difference unless both are the same file: then the reader finds the file empty, as long as
the preamble fits into the buffer in front of it.
-/
namespace BrainfuckCompiler

namespace InPlace

/-- Fragments that fit into the buffer together do not reach the file. -/
theorem taken_foldl_write {file : Sink} {fragments : List Bytes}
    (hfit : file.filled + fragments.flatten.length ≤ file.capacity)
    (hshort : ∀ fragment ∈ fragments, fragment.length < file.capacity) :
    (fragments.foldl (fun sink piece => (sink.write piece).2) file).taken = file.taken := by
  induction fragments generalizing file with
  | nil => rfl
  | cons fragment rest ih =>
      rw [List.flatten_cons, List.length_append] at hfit
      have hroom : ¬ file.capacity < file.filled + fragment.length := by omega
      have hlen := hshort fragment List.mem_cons_self
      have hwrite : (file.write fragment).2 = file.hold fragment := by
        simp only [Sink.write, if_neg hroom, if_neg (Nat.not_le.mpr hlen)]
      rw [List.foldl_cons, hwrite]
      refine ih ?_ ?_
      · change file.filled + fragment.length + rest.flatten.length ≤ file.capacity
        omega
      · intro other hother
        exact hshort other (List.mem_cons_of_mem _ hother)

theorem length_lt_of_mem_preamble {settings : Settings} {fragment : Bytes}
    (h : fragment ∈ Frame.preamble settings)
    (hfit : (Program.preamble settings).length ≤ capacity) : fragment.length < capacity := by
  have hincludes : 0 < Frame.includes.length ∧ Frame.includes.length < capacity := by
    decide +kernel
  have hpreamble : Frame.preamble settings = Frame.includes :: (Frame.preamble settings).tail := rfl
  rw [Program.preamble, hpreamble, List.flatten_cons, List.length_append] at hfit
  rw [hpreamble] at h
  rcases List.mem_cons.mp h with rfl | htail
  · exact hincludes.2
  · have := (List.sublist_flatten_of_mem htail).length_le
    omega

/-- As long as the preamble fits into the buffer, the reader finds nothing. -/
theorem reader_of_fits {settings : Settings} (h : (Program.preamble settings).length ≤ capacity) :
    reader settings = ⟨[], none⟩ := by
  have hstored : (store { capacity := capacity } (Frame.preamble settings)).2 = [] := by
    refine taken_foldl_write ?_ fun fragment hf => length_lt_of_mem_preamble hf h
    simpa [Program.preamble] using h
  unfold reader
  rcases hs : store { capacity := capacity } (Frame.preamble settings) with ⟨file, stored⟩
  rw [hs] at hstored
  obtain rfl : stored = [] := hstored
  change readBlocks settings _ file {} 0 [] = _
  unfold readBlocks
  rfl

end InPlace

namespace FileStore

/-- The path denotes a regular file with this content, which can be examined, opened and
read. -/
structure Readable (faults : Faults) (store : FileStore) (path : Bytes) (location : Location)
    (content : Bytes) : Prop where
  examined : store.examine faults path = .ok (location, .regular content)
  opened : faults.opening location = none
  read : faults.reading location = none

/-- The path does not stand for the standard output, and a regular file can be created
there. -/
structure Creates (faults : Faults) (store : FileStore) (path : Bytes) (location : Location) :
    Prop where
  file : PathName.isStandardOutput path = false
  created : ∃ made, store.create faults path = .ok (location, made) ∧
    made.find? location = some (.regular [])

/-- The file takes all that is written to it. -/
structure Creatable (faults : Faults) (store : FileStore) (path : Bytes) (location : Location) :
    Prop extends Creates faults store path location where
  written : faults.writing location = none

variable {faults : Faults} {store after : FileStore} {path : Bytes} {location : Location}

theorem Readable.find? {content : Bytes} (h : Readable faults store path location content) :
    store.find? location = some (.regular content) := by
  obtain ⟨place, -, hexamined⟩ := bind_eq_ok h.examined
  split at hexamined
  · cases hexamined
  · cases hexamined
  · next hn =>
    obtain ⟨rfl, rfl⟩ := Prod.mk.inj (Except.ok.inj hexamined)
    exact hn

theorem Creates.create_eq (h : Creates faults store path location) :
    store.create faults path = .ok (location, store.put location (.regular [])) := by
  obtain ⟨made, hmade, hregular⟩ := h.created
  obtain ⟨-, -, ⟨rfl, hspecial⟩ | rfl⟩ := create_cases hmade
  · rw [hregular] at hspecial
    rcases hspecial with hnull | houtput
    · cases hnull
    · cases houtput
  · exact hmade

theorem Creates.locate_eq (h : Creates faults store path location)
    (same : SameBut location store after) : after.locate path = .ok location :=
  locate_of_create h.create_eq same

/-- One regular file holds the text now, and nothing else has changed. -/
structure Holds (before after : FileStore) (location : Location) (text : Bytes) : Prop where
  file : after.find? location = some (.regular text)
  others : SameBut location before after

theorem holds_put_put (store : FileStore) (location : Location) (node : Node) (text : Bytes) :
    Holds store ((store.put location node).put location (.regular text)) location text :=
  ⟨find?_put_self _ _ _, (sameBut_put store location _).trans (sameBut_put _ location _)⟩

end FileStore

/-- The same invocation with the bracket check or without it. -/
def Invocation.strictly (invocation : Invocation) (strict : Bool) : Invocation :=
  { invocation with has := fun flag => if flag = .strict then strict else invocation.has flag }

namespace Run
open BrainfuckCompiler.Action FileStore

variable {context : Context} {settings : Settings} {world : World}
variable {path : Bytes} {place target : Location} {content : Bytes}

/-- The last stage on a file: the same for the file, which goes again after a failure. -/
theorem writeProgram_filed (settings : Settings) (prepared : Source)
    (houtput : Creates context.faults world.files path target) :
    let opened := world.files.put target (.regular [])
    let reader := readerOf context settings (.file target) opened prepared
    let text := (Emission.program settings reader).written
    ∃ result events,
      let filed := { world with
        files := opened.put target (.regular ((limitOf context.faults (.file target)).cut text))
        events := events }
      Emit.Ends (sinkOf context.faults (.file target)) text reader.outcome result ∧
        writeProgram context settings prepared path world =
          match result with
          | .ok usage => (.ok usage, filed)
          | .error fault =>
              (.error (.stream fault), withdrawn context path (.file target) filed) := by
  intro opened reader text
  obtain ⟨ends, events, hreached⟩ := emitted_cases context settings prepared (.file target)
    { world with files := opened }
  simp only [deliver, opened, find?_put_self] at hreached
  rcases hended : emitted context settings prepared (.file target) { world with files := opened }
    with ⟨result, after⟩
  rw [hended] at ends hreached
  obtain rfl : after = _ := hreached
  refine ⟨result, events, ends, ?_⟩
  rw [writeProgram_apply, openOutput_apply, if_neg (by simp [houtput.file]), houtput.create_eq]
  dsimp only
  rw [hended]
  cases result with
  | ok usage => rfl
  | error fault => rfl

/-- The last stage on an output that takes everything. -/
theorem writeProgram_of_creatable {source : Source} {delivered : Bytes}
    (houtput : Creatable context.faults world.files path target)
    (hreader : readerOf context settings (.file target) (world.files.put target (.regular []))
      source = ⟨delivered, none⟩) :
    ∃ after, writeProgram context settings source path world =
        (.ok (Usage.ofSource delivered), after) ∧
      after.files = (world.files.put target (.regular [])).put target
        (.regular (Program.text settings delivered)) := by
  have hlimit : limitOf context.faults (.file target) = none := by
    simp only [limitOf, houtput.written, Option.map_none]
  obtain ⟨result, events, ends, hfiled⟩ := writeProgram_filed settings source houtput.toCreates
  rw [hreader, (Emission.offers_program settings delivered).written] at ends hfiled
  obtain rfl : result = .ok (Usage.ofSource delivered) :=
    ends.eq_of_fits (by rw [limit_sinkOf, hlimit]; rfl)
  rw [hlimit] at hfiled
  exact ⟨_, hfiled, rfl⟩

/-- The reader of a source that is not the output does not notice that the output is
created. -/
theorem readerOf_opened_of_ne (hsource : Readable context.faults world.files path place content)
    (hne : place ≠ target) :
    readerOf context settings (.file target) (world.files.put target (.regular []))
      (.opened place) = ⟨content, none⟩ := by
  rw [readerOf_opened (Target.file_ne hne)]
  simp only [readerAt, hsource.read, find?_put_of_ne _ _ hne, hsource.find?]

theorem readerOf_opened_self (hread : context.faults.reading target = none) (files : FileStore)
    (hfit : (Program.preamble settings).length ≤ bufferSize) :
    readerOf context settings (.file target) files (.opened target) = ⟨[], none⟩ := by
  change (if _ then _ else _) = _
  rw [if_pos ⟨rfl, hread⟩]
  exact InPlace.reader_of_fits hfit

theorem findSource_of_readable (hsource : Readable context.faults world.files path place content) :
    findSource context path world = (.ok place, world) := by
  unfold findSource
  rw [get_bind, hsource.examined]
  rfl

theorem prepareSource_of_readable
    (hsource : Readable context.faults world.files path place content) (strict : Bool) :
    prepareSource context strict path place world =
      if strict then
        match Brackets.check content with
        | .ok _ => (.ok (.loaded content), world)
        | .error imbalance => (.error (.brackets imbalance), world)
      else (.ok (.opened place), world) := by
  unfold prepareSource
  cases strict with
  | true =>
      have hloaded : loadSource context path place world = (.ok content, world) := by
        unfold loadSource
        rw [get_bind]
        simp only [hsource.opened, readerAt, hsource.read, hsource.find?]
        rfl
      rw [if_pos rfl, bind_apply, hloaded]
      dsimp only
      cases Brackets.check content with
      | ok _ => rfl
      | error imbalance => rfl
  | false =>
      simp only [hsource.opened]
      rfl

/-- A run on a source that can be read comes to its last two stages. -/
theorem run_apply {invocation : Invocation} {source : Bytes}
    (hsettings : invocation.settings
      (VersionText.ofSource source context.now context.environment) = .ok settings)
    (hsource : Readable context.faults world.files source place content) :
    ∃ noted : World, noted.files = world.files ∧
      run context invocation source world =
        (prepareSource context (invocation.has .strict) source place >>= fun prepared =>
          writeProgram context settings prepared (invocation.outputPath source) >>= fun usage =>
            record (.outputWritten (invocation.outputPath source) usage
              (settings.positional.resolve usage))) noted := by
  let noted : World := { world with
    events := .pathsChosen source (invocation.outputPath source) :: .settingsChosen settings ::
      world.events }
  have hfound : findSource context source noted = (.ok place, noted) :=
    @findSource_of_readable context noted source place content hsource
  refine ⟨noted, rfl, ?_⟩
  unfold run
  dsimp only
  rw [hsettings, bind_apply]
  change (findSource context source >>= _) noted = _
  rw [bind_apply, hfound]

/-- What a run has left at the output, given what its reader delivers there. -/
theorem run_of_reader {invocation : Invocation} {source delivered : Bytes} {prepared : Source}
    (hsettings : invocation.settings
      (VersionText.ofSource source context.now context.environment) = .ok settings)
    (hsource : Readable context.faults world.files source place content)
    (houtput : Creatable context.faults world.files (invocation.outputPath source) target)
    (hprepared : ∀ noted : World, noted.files = world.files →
      prepareSource context (invocation.has .strict) source place noted = (.ok prepared, noted))
    (hreader : readerOf context settings (.file target) (world.files.put target (.regular []))
      prepared = ⟨delivered, none⟩) :
    (run context invocation source world).1 = .ok () ∧
      (run context invocation source world).2.files =
        (world.files.put target (.regular [])).put target
          (.regular (Program.text settings delivered)) := by
  obtain ⟨noted, hnoted, hrun⟩ := run_apply hsettings hsource
  rw [← hnoted] at houtput hreader ⊢
  obtain ⟨after, hwrite, hfiles⟩ := writeProgram_of_creatable houtput hreader
  rw [hrun, bind_apply, hprepared noted hnoted]
  dsimp only
  rw [bind_apply, hwrite]
  exact ⟨rfl, hfiles⟩

/-- A strict run on a source whose brackets do not match reports just that. -/
theorem run_of_imbalance {invocation : Invocation} {source : Bytes} {imbalance : Brackets.Imbalance}
    (hsettings : invocation.settings
      (VersionText.ofSource source context.now context.environment) = .ok settings)
    (hsource : Readable context.faults world.files source place content)
    (hstrict : invocation.has .strict = true) (hcheck : Brackets.check content = .error imbalance) :
    (run context invocation source world).1 = .error (.brackets imbalance) := by
  obtain ⟨noted, hnoted, hrun⟩ := run_apply hsettings hsource
  rw [← hnoted] at hsource
  rw [hrun, bind_apply, prepareSource_of_readable hsource, hstrict, if_pos rfl, hcheck]

/-- All that the run of an invocation comes to, with and without the bracket check, on a
source at `place` with the given content and an output at `target`. -/
structure Translates (context : Context) (invocation : Invocation) (source : Bytes)
    (world : World) (place target : Location) (content : Bytes) (settings : Settings) : Prop where
  strict_ok_iff : ((run context (invocation.strictly true) source).run.run world).1 = .ok () ↔
    Brackets.check content = .ok ()
  strict_files : Brackets.check content = .ok () →
    Holds world.files ((run context (invocation.strictly true) source).run.run world).2.files target
      (Emission.program settings ⟨content, none⟩).written
  lenient_ok : place ≠ target ∨ (Program.preamble settings).length ≤ 8192 →
    ((run context (invocation.strictly false) source).run.run world).1 = .ok ()
  lenient_files : place ≠ target →
    Holds world.files ((run context (invocation.strictly false) source).run.run world).2.files
      target (Emission.program settings ⟨content, none⟩).written
  inPlace_files : place = target → (Program.preamble settings).length ≤ 8192 →
    Holds world.files ((run context (invocation.strictly false) source).run.run world).2.files
      target (Emission.program settings ⟨[], none⟩).written
  same_files : place ≠ target → Brackets.check content = .ok () →
    ((run context (invocation.strictly true) source).run.run world).2.files =
      ((run context (invocation.strictly false) source).run.run world).2.files

/-- A run that meets no system error leaves the translation at the output. The check can only
reject a source, except for a file that is translated onto itself. -/
theorem translates_of_readable (context : Context) (invocation : Invocation) (source : Bytes)
    (world : World) (place target : Location) (content : Bytes) (hsize : invocation.size ≠ 0)
    (hsource : Readable context.faults world.files source place content)
    (houtput : Creatable context.faults world.files (invocation.outputPath source) target) :
    ∃ settings, invocation.settings
        (VersionText.ofSource source context.now context.environment) = .ok settings ∧
      Translates context invocation source world place target content settings := by
  have hsized : Settings.sized invocation.size = .ok { cells := invocation.size } := if_neg hsize
  have hsettings : ∃ settings, invocation.settings
      (VersionText.ofSource source context.now context.environment) = .ok settings := by
    unfold Invocation.settings
    rw [hsized]
    exact ⟨_, rfl⟩
  obtain ⟨settings, hsettings⟩ := hsettings
  have hprogram (text : Bytes) : (Emission.program settings ⟨text, none⟩).written =
      Program.text settings text := (Emission.offers_program settings text).written
  -- Neither the settings nor the output depend on the check.
  have hready (strict : Bool) : (invocation.strictly strict).settings
      (VersionText.ofSource source context.now context.environment) = .ok settings := hsettings
  have hcreated (strict : Bool) : Creatable context.faults world.files
      ((invocation.strictly strict).outputPath source) target := houtput
  have hstrict (hcheck : Brackets.check content = .ok ()) :=
    @run_of_reader context settings world place target content (invocation.strictly true) source
      content (.loaded content) (hready true) hsource (hcreated true)
      (fun noted hnoted => by
        rw [← hnoted] at hsource
        rw [prepareSource_of_readable hsource]
        simp [Invocation.strictly, hcheck])
      rfl
  have hlenient (delivered : Bytes) (hreader : readerOf context settings (.file target)
      (world.files.put target (.regular [])) (.opened place) = ⟨delivered, none⟩) :=
    @run_of_reader context settings world place target content (invocation.strictly false) source
      delivered (.opened place) (hready false) hsource (hcreated false)
      (fun noted hnoted => by
        rw [← hnoted] at hsource
        rw [prepareSource_of_readable hsource]
        simp [Invocation.strictly])
      hreader
  have hapart (hne : place ≠ target) := hlenient content (readerOf_opened_of_ne hsource hne)
  have hinPlace (heq : place = target) (hfit : (Program.preamble settings).length ≤ 8192) :=
    hlenient [] (heq ▸ readerOf_opened_self (heq ▸ hsource.read) _ hfit)
  refine ⟨settings, hsettings, ?_, ?_, ?_, ?_, ?_, ?_⟩
  · constructor
    · intro hok
      cases hcheck : Brackets.check content with
      | ok _ => rfl
      | error imbalance =>
          have hended : (run context (invocation.strictly true) source world).1 = .ok () := hok
          have hfailed := run_of_imbalance (hready true) hsource rfl hcheck
          rw [hended] at hfailed
          cases hfailed
    · intro hcheck
      exact (hstrict hcheck).1
  · intro hcheck
    rw [hprogram]
    exact (hstrict hcheck).2 ▸ holds_put_put _ _ _ _
  · intro hcase
    by_cases heq : place = target
    · exact (hinPlace heq (hcase.resolve_left (fun hne => hne heq))).1
    · exact (hapart heq).1
  · intro hne
    rw [hprogram]
    exact (hapart hne).2 ▸ holds_put_put _ _ _ _
  · intro heq hfit
    rw [hprogram]
    exact (hinPlace heq hfit).2 ▸ holds_put_put _ _ _ _
  · intro hne hcheck
    exact (hstrict hcheck).2.trans (hapart hne).2.symm

/-- Another spelling of its own path makes the source the output. -/
theorem translates_onto_itself :
    let files : FileStore := ⟨[([], .directory), ([ascii "d"], .directory),
      ([ascii "p.c"], .regular (ascii "+[.-]"))], []⟩
    let context : Context := { now := { seconds := 0 } }
    let invocation : Invocation :=
      { source := some (ascii "p.c"), output := some (ascii "d/.././p.c") }
    (∃ settings, invocation.settings
        (VersionText.ofSource (ascii "p.c") context.now context.environment) = .ok settings ∧
      (Program.preamble settings).length ≤ 8192 ∧
      Translates context invocation (ascii "p.c") { files := files } [ascii "p.c"] [ascii "p.c"]
        (ascii "+[.-]") settings) := by
  intro files context invocation
  have hsource : Readable context.faults files (ascii "p.c") [ascii "p.c"] (ascii "+[.-]") :=
    ⟨rfl, rfl, rfl⟩
  have houtput : Creatable context.faults files (invocation.outputPath (ascii "p.c"))
      [ascii "p.c"] :=
    ⟨⟨rfl, _, rfl, rfl⟩, rfl⟩
  obtain ⟨settings, hsettings, htranslates⟩ := translates_of_readable context invocation
    (ascii "p.c") { files := files } _ _ _ (by decide) hsource houtput
  refine ⟨settings, hsettings, ?_, htranslates⟩
  obtain rfl := Except.ok.inj hsettings
  decide +kernel

end Run

end BrainfuckCompiler
