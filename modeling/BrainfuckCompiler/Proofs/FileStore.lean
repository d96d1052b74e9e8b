import BrainfuckCompiler.FileStore

/-!
# What operations on files leave alone

Creating and removing a file touch one location each, the one that the path denotes. A walk
along a path passes directories only, and neither operation succeeds on a directory. So the
path of a file that was created still denotes the same location when the file is removed
again, however the path is spelled and whatever was written in the meantime.
-/
namespace BrainfuckCompiler.FileStore

/-- The stores differ at most at one location. -/
structure SameBut (location : Location) (before after : FileStore) : Prop where
  here : after.here = before.here
  find? : ∀ other, other ≠ location → after.find? other = before.find? other

variable {location : Location} {before between after store : FileStore}

theorem SameBut.refl (location : Location) (store : FileStore) : SameBut location store store :=
  ⟨rfl, fun _ _ => rfl⟩

theorem SameBut.trans (h : SameBut location before between) (k : SameBut location between after) :
    SameBut location before after :=
  ⟨k.here.trans h.here, fun other ho => (k.find? other ho).trans (h.find? other ho)⟩

theorem sameBut_put (store : FileStore) (location : Location) (node : Node) :
    SameBut location store (store.put location node) :=
  ⟨rfl, fun _ ho => store.find?_put_of_ne node ho⟩

theorem sameBut_erase (store : FileStore) (location : Location) :
    SameBut location store (store.erase location) :=
  ⟨rfl, fun _ ho => store.find?_erase_of_ne ho⟩

/-- There may be a file at the location or nothing, but no directory. -/
structure NoDirectory (store : FileStore) (location : Location) : Prop where
  notOpen : store.find? location ≠ some .directory
  notClosed : store.find? location ≠ some .closedDirectory

theorem walk_append (store : FileStore) (start : Location) (first second : List Bytes) :
    store.walk start (first ++ second) = store.walk start first >>= (store.walk · second) := by
  induction first generalizing start with
  | nil => rfl
  | cons name rest ih =>
      simp only [List.cons_append, walk]
      split
      · rfl
      · split
        · rfl
        · exact ih _
      · exact ih _
      · rfl

/-- A walk that succeeds passes directories only, so it does not notice a change elsewhere. -/
theorem walk_of_sameBut (same : SameBut location before after) (file : before.NoDirectory location)
    {start finish : Location} {path : List Bytes} (h : before.walk start path = .ok finish) :
    after.walk start path = .ok finish := by
  induction path generalizing start with
  | nil => exact h
  | cons name rest ih =>
      simp only [walk] at h ⊢
      have kept (node : Node) (hn : before.find? start = some node) (hne : start ≠ location) :
          after.find? start = some node := (same.find? start hne).trans hn
      split at h
      · cases h
      · next hd =>
        rw [kept _ hd fun he => file.notOpen (he ▸ hd)]
        split at h
        · cases h
        · next hlen =>
          rw [if_neg hlen]
          exact ih h
      · next hd =>
        rw [kept _ hd fun he => file.notClosed (he ▸ hd)]
        exact ih h
      · cases h

theorem origin_of_here (h : after.here = before.here) (path : Bytes) :
    after.origin path = before.origin path := by
  unfold origin
  split
  · rfl
  · exact h

theorem system_eq_ok {α : Type} {result : Except SystemError α} {a : α}
    (h : system result = .ok a) : result = .ok a := by
  cases result with
  | ok b => exact congrArg _ (Except.ok.inj h)
  | error error => cases h

theorem bind_eq_ok {ε α β : Type} {result : Except ε α} {next : α → Except ε β} {b : β}
    (h : (result >>= next) = .ok b) : ∃ a, result = .ok a ∧ next a = .ok b := by
  cases result with
  | ok a => exact ⟨a, rfl, h⟩
  | error error => cases h

theorem locate_of_sameBut (same : SameBut location before after)
    (file : before.NoDirectory location) {path : Bytes} {place : Location}
    (h : before.locate path = .ok place) : after.locate path = .ok place := by
  obtain ⟨_, hadmissible, hwalk⟩ := bind_eq_ok h
  have hafter := walk_of_sameBut same file (system_eq_ok hwalk)
  unfold locate
  rw [hadmissible, origin_of_here same.here path]
  change system _ = _
  rw [hafter]
  rfl

/-- A path that asks for a file denotes the location of the file. -/
theorem locate_of_locateFile {path : Bytes} (h : store.locateFile path = .ok location) :
    store.locate path = .ok location := by
  obtain ⟨_, hadmissible, h⟩ := bind_eq_ok h
  dsimp only at h
  split at h
  · cases h
  · next last before hnames =>
    obtain ⟨parent, hparent, h⟩ := bind_eq_ok h
    split at h
    · cases h
    · next hends =>
      have hslash : endsInSlash path = false := by
        simp only [Bool.or_eq_true, not_or] at hends
        simpa using hends.1.1
      have hnames : names path = before.reverse ++ [last] := by
        rw [← List.reverse_reverse (names path), hnames, List.reverse_cons]
      -- The dot behind the directory only asks that there is one.
      have hdirectory : store.walk (store.origin path) before.reverse = .ok parent := by
        have hwalk := system_eq_ok hparent
        rw [walk_append] at hwalk
        obtain ⟨middle, hmiddle, hdot⟩ := bind_eq_ok hwalk
        have : middle = parent := by
          simp only [walk, step, if_true] at hdot
          split at hdot
          · cases hdot
          · split at hdot
            · cases hdot
            · exact Except.ok.inj hdot
          · exact Except.ok.inj hdot
          · cases hdot
        exact this ▸ hmiddle
      have hwalk : store.walk (store.origin path) (names path) = .ok location := by
        rw [hnames, walk_append, hdirectory]
        exact system_eq_ok h
      unfold locate
      rw [hadmissible]
      change system _ = _
      rw [hslash, if_neg (by simp), List.append_nil, hwalk]
      rfl

/-- All that creating can do: it leaves a special file alone, or puts an empty file in the
place of a file or of nothing. -/
theorem create_cases {faults : Faults} {path : Bytes}
    (h : store.create faults path = .ok (location, after)) :
    store.locateFile path = .ok location ∧ store.NoDirectory location ∧
      (after = store ∧
          (store.find? location = some .nullDevice ∨ store.find? location = some .standardOutput) ∨
        after = store.put location (.regular [])) := by
  obtain ⟨place, hplace, h⟩ := bind_eq_ok h
  split at h
  · cases h
  · cases h
  · cases h
  · next hn =>
    obtain ⟨rfl, rfl⟩ := Prod.mk.inj (Except.ok.inj h)
    exact ⟨hplace, ⟨by simp [hn], by simp [hn]⟩, .inl ⟨rfl, .inl hn⟩⟩
  · next hn =>
    obtain ⟨rfl, rfl⟩ := Prod.mk.inj (Except.ok.inj h)
    exact ⟨hplace, ⟨by simp [hn], by simp [hn]⟩, .inl ⟨rfl, .inr hn⟩⟩
  · next hn =>
    obtain ⟨rfl, rfl⟩ := Prod.mk.inj (Except.ok.inj h)
    exact ⟨hplace, ⟨by simp [hn], by simp [hn]⟩, .inr rfl⟩
  · next hn =>
    split at h
    · obtain ⟨rfl, rfl⟩ := Prod.mk.inj (Except.ok.inj h)
      exact ⟨hplace, ⟨by simp [hn], by simp [hn]⟩, .inr rfl⟩
    · cases h

theorem sameBut_of_create {faults : Faults} {path : Bytes}
    (h : store.create faults path = .ok (location, after)) : SameBut location store after := by
  obtain ⟨-, -, ⟨rfl, -⟩ | rfl⟩ := create_cases h
  · exact .refl location _
  · exact sameBut_put store location _

/-- A path at which a file was created denotes that file, before and however it changes. -/
theorem locate_of_create {faults : Faults} {path : Bytes}
    (h : before.create faults path = .ok (location, between))
    (same : SameBut location before after) : after.locate path = .ok location := by
  obtain ⟨hlocated, file, -⟩ := create_cases h
  exact locate_of_sameBut same file (locate_of_locateFile hlocated)

/-- Something stands where the path leads. -/
def Exists (store : FileStore) (path : Bytes) : Prop :=
  ∃ location node, store.locate path = .ok location ∧ store.find? location = some node

theorem Exists.of_isSome {path : Bytes} (located : store.locate path = .ok location)
    (found : (store.find? location).isSome = true) : store.Exists path := by
  obtain ⟨node, hnode⟩ := Option.isSome_iff_exists.mp found
  exact ⟨location, node, located, hnode⟩

/-- What is removed is gone, under its path too, and nothing else is. -/
theorem remove_cases {faults : Faults} {path : Bytes} (hplace : store.locate path = .ok location)
    (h : store.remove faults path = .ok after) :
    SameBut location store after ∧ ¬ after.Exists path := by
  have hremove : store.NoDirectory location ∧ after = store.erase location := by
    obtain ⟨place, hp, h⟩ := bind_eq_ok h
    rw [hplace] at hp
    obtain rfl := Except.ok.inj hp
    split at h
    · cases h
    · cases h
    · cases h
    · cases h
    · next node hopen hclosed _ hn =>
      split at h
      · refine ⟨⟨?_, ?_⟩, (Except.ok.inj h).symm⟩
        · intro he
          exact hopen (Option.some.inj (hn.symm.trans he))
        · intro he
          exact hclosed (Option.some.inj (hn.symm.trans he))
      · cases h
  obtain ⟨file, rfl⟩ := hremove
  have same := sameBut_erase store location
  refine ⟨same, ?_⟩
  rintro ⟨place, node, hp, hn⟩
  rw [locate_of_sameBut same file hplace] at hp
  obtain rfl := Except.ok.inj hp
  rw [find?_erase_self] at hn
  cases hn

end BrainfuckCompiler.FileStore
