import Mathlib.Data.List.DropRight
import BrainfuckCompiler.Settings
import BrainfuckCompiler.Proofs.Invocation.Meaning

/-!
# Settings after a series of changes

Settings start as the standard ones and are changed one step at a time. A step begins anew with
some number of cells, is refused, or gives one field a value. So the settings can be read off the
series without going through it: the number of cells is that of the last step that begins anew,
and each field has the last value it is given behind that step, or its standard one. There is
always a cell, as a step that asks for none is refused, and steps on different fields can change
places.
-/
namespace BrainfuckCompiler.Settings

/-- The parts of the settings that are given values one at a time. -/
inductive Field where
  | width
  | endOfInput
  | positional
  | flushes
  | version
  | copyright
  deriving DecidableEq, Repr

namespace Field

def Value : Field → Type
  | .width => CellWidth
  | .endOfInput => EndOfInput
  | .positional => Positional
  | .flushes => Bool
  | .version => Option Bytes
  | .copyright => Option Bytes

def get : (field : Field) → Settings → field.Value
  | .width => Settings.width
  | .endOfInput => Settings.endOfInput
  | .positional => Settings.positional
  | .flushes => Settings.flushes
  | .version => Settings.version
  | .copyright => Settings.copyright

/-- The change that gives a field a value. -/
def change : (field : Field) → field.Value → Edit
  | .width => .width
  | .endOfInput => .endOfInput
  | .positional => .positional
  | .flushes => .flushes
  | .version => .version
  | .copyright => .copyright

/-- The value that a change gives to a field. -/
def given? : (field : Field) → Edit → Option field.Value
  | .width, .width bits => some bits
  | .endOfInput, .endOfInput policy => some policy
  | .positional, .positional meaning => some meaning
  | .flushes, .flushes on => some on
  | .version, .version text => some text
  | .copyright, .copyright text => some text
  | _, _ => none

end Field

/-- The number of cells with which a change begins anew. -/
def Edit.cells? : Edit → Option UInt64
  | .resize cells => if cells = 0 then none else some cells
  | .reset => some standard.cells
  | _ => none

/-- The settings after a series of changes. -/
def after (changes : List Edit) : Settings := changes.foldl edit standard

/-- The changes behind the last one that begins anew. -/
def sinceStart (changes : List Edit) : List Edit :=
  changes.rtakeWhile fun change => change.cells?.isNone

/-- The number of cells of the last change that begins anew. -/
def lastCells (changes : List Edit) : UInt64 :=
  (changes.filterMap Edit.cells?).getLast?.getD standard.cells

/-- The last value a field is given since the settings began anew. -/
def Field.last (field : Field) (changes : List Edit) : field.Value :=
  ((sinceStart changes).filterMap field.given?).getLast?.getD (field.get standard)

theorem eq_iff (first second : Settings) : first = second ↔
    first.cells = second.cells ∧ ∀ field : Field, field.get first = field.get second := by
  constructor
  · rintro rfl
    exact ⟨rfl, fun _ => rfl⟩
  · rintro ⟨hcells, hfields⟩
    obtain ⟨cells, width, endOfInput, positional, flushes, version, copyright⟩ := first
    obtain rfl : cells = second.cells := hcells
    obtain rfl : width = second.width := hfields .width
    obtain rfl : endOfInput = second.endOfInput := hfields .endOfInput
    obtain rfl : positional = second.positional := hfields .positional
    obtain rfl : flushes = second.flushes := hfields .flushes
    obtain rfl : version = second.version := hfields .version
    obtain rfl : copyright = second.copyright := hfields .copyright
    rfl

theorem one_le_of_ne_zero {cells : UInt64} (h : cells ≠ 0) : 1 ≤ cells :=
  UInt64.le_iff_toNat_le.mpr (Nat.one_le_iff_ne_zero.mpr fun heq => h (UInt64.toNat_inj.mp heq))

/-- A change begins anew, is refused, or gives a field a value. -/
theorem edit_cases (change : Edit) :
    (∃ cells, 1 ≤ cells ∧ change.cells? = some cells ∧
      ∀ settings, change.apply settings = .ok { cells := cells }) ∨
    (change = .resize 0 ∧ ∀ settings, change.apply settings = .error (.cellCount 0)) ∨
    ∃ (field : Field) (value : field.Value), change = field.change value := by
  cases change with
  | resize cells =>
      by_cases hcells : cells = 0
      · subst hcells
        exact .inr (.inl ⟨rfl, fun _ => rfl⟩)
      · exact .inl ⟨cells, one_le_of_ne_zero hcells, if_neg hcells, fun _ => if_neg hcells⟩
  | reset => exact .inl ⟨standard.cells, by decide, rfl, fun _ => rfl⟩
  | width bits => exact .inr (.inr ⟨.width, bits, rfl⟩)
  | endOfInput policy => exact .inr (.inr ⟨.endOfInput, policy, rfl⟩)
  | positional meaning => exact .inr (.inr ⟨.positional, meaning, rfl⟩)
  | flushes on => exact .inr (.inr ⟨.flushes, on, rfl⟩)
  | version text => exact .inr (.inr ⟨.version, text, rfl⟩)
  | copyright text => exact .inr (.inr ⟨.copyright, text, rfl⟩)

namespace Field

variable (field : Field) (value : field.Value) (settings : Settings)

theorem cells?_change : (field.change value).cells? = none := by
  cases field <;> rfl

variable {field} in
theorem given?_change_of_ne {other : Field} (h : other ≠ field) :
    other.given? (field.change value) = none := by
  rw [Option.eq_none_iff_forall_ne_some]
  intro given heq
  refine h ?_
  cases other <;> cases field <;> cases heq <;> rfl

theorem apply_change : ∃ changed, (field.change value).apply settings = .ok changed ∧
    changed.cells = settings.cells ∧ ∀ other : Field,
      other.get changed = (other.given? (field.change value)).getD (other.get settings) := by
  cases field <;> exact ⟨_, rfl, rfl, fun other => by cases other <;> rfl⟩

/-- All fields are standard ones when the settings begin anew. -/
theorem get_of_cells (cells : UInt64) : field.get { cells := cells } = field.get standard := by
  cases field <;> rfl

end Field

theorem cells_edit (settings : Settings) (change : Edit) :
    (edit settings change).cells = change.cells?.getD settings.cells := by
  rcases edit_cases change with ⟨cells, -, hcells, happly⟩ | ⟨rfl, happly⟩ | ⟨field, value, rfl⟩
  · simp only [edit, happly, hcells, Option.getD_some]
  · rfl
  · obtain ⟨changed, happly, hcells, -⟩ := field.apply_change value settings
    simp only [edit, happly, hcells, field.cells?_change, Option.getD_none]

theorem get_edit (field : Field) (settings : Settings) (change : Edit) :
    field.get (edit settings change) =
      if change.cells?.isNone then (field.given? change).getD (field.get settings)
      else field.get standard := by
  rcases edit_cases change with ⟨cells, -, hcells, happly⟩ | ⟨rfl, happly⟩ | ⟨other, value, rfl⟩
  · simp [edit, happly, hcells, field.get_of_cells]
  · cases field <;> rfl
  · obtain ⟨changed, happly, -, hfields⟩ := other.apply_change value settings
    simp [edit, happly, hfields, other.cells?_change]

/-- Values of different fields can be given in either order. -/
theorem edit_comm {first second : Field} (h : first ≠ second) (settings : Settings)
    (value : first.Value) (other : second.Value) :
    edit (edit settings (first.change value)) (second.change other) =
      edit (edit settings (second.change other)) (first.change value) := by
  rw [eq_iff]
  refine ⟨by simp only [cells_edit, Field.cells?_change, Option.getD_none], fun field => ?_⟩
  simp only [get_edit, Field.cells?_change, Option.isNone_none, if_true]
  by_cases hfirst : field = first
  · rw [Field.given?_change_of_ne other (hfirst ▸ h), Option.getD_none, Option.getD_none]
  · rw [Field.given?_change_of_ne value hfirst, Option.getD_none, Option.getD_none]

theorem after_concat (changes : List Edit) (change : Edit) :
    after (changes ++ [change]) = edit (after changes) change := List.foldl_concat ..

theorem sinceStart_concat (changes : List Edit) (change : Edit) :
    sinceStart (changes ++ [change]) =
      if change.cells?.isNone then sinceStart changes ++ [change] else [] :=
  List.rtakeWhile_concat ..

theorem cells_after (changes : List Edit) : (after changes).cells = lastCells changes := by
  induction changes using List.reverseRecOn with
  | nil => rfl
  | append_singleton changes change ih =>
      rw [after_concat, cells_edit, ih, lastCells, lastCells, List.filterMap_append,
        List.getLast?_append]
      cases hcells : change.cells? <;> simp [hcells]

theorem get_after (field : Field) (changes : List Edit) :
    field.get (after changes) = field.last changes := by
  induction changes using List.reverseRecOn with
  | nil => rfl
  | append_singleton changes change ih =>
      rw [after_concat, get_edit, ih, Field.last, Field.last, sinceStart_concat]
      split
      · rw [List.filterMap_append, List.getLast?_append]
        cases hgiven : field.given? change <;> simp [hgiven]
      · rfl

/-- There is a cell before a change and so there is one behind it. -/
theorem one_le_cells_edit {settings : Settings} (h : 1 ≤ settings.cells) (change : Edit) :
    1 ≤ (edit settings change).cells := by
  rw [cells_edit]
  rcases edit_cases change with ⟨cells, hpos, hcells, -⟩ | ⟨rfl, -⟩ | ⟨field, value, rfl⟩
  · rwa [hcells]
  · exact h
  · rwa [field.cells?_change]

theorem one_le_cells_after (changes : List Edit) : 1 ≤ (after changes).cells := by
  induction changes using List.reverseRecOn with
  | nil => decide
  | append_singleton changes change ih =>
      rw [after_concat]
      exact one_le_cells_edit ih change

theorem apply_eq_error_iff (settings : Settings) (change : Edit) (reason : Error) :
    change.apply settings = .error reason ↔ change = .resize 0 ∧ reason = .cellCount 0 := by
  rcases edit_cases change with ⟨cells, -, hcells, happly⟩ | ⟨rfl, happly⟩ | ⟨field, value, rfl⟩
  · rw [happly]
    refine iff_of_false nofun ?_
    rintro ⟨rfl, -⟩
    cases hcells
  · rw [happly]
    constructor
    · rintro ⟨⟩
      exact ⟨rfl, rfl⟩
    · rintro ⟨-, rfl⟩
      rfl
  · obtain ⟨changed, happly, -⟩ := field.apply_change value settings
    rw [happly]
    refine iff_of_false nofun ?_
    rintro ⟨heq, -⟩
    cases field <;> cases heq

/-- The settings that an invocation asks for are among those that changes lead to. -/
theorem eq_after_of_settings {invocation : Invocation} {defaultVersion : Bytes}
    {settings : Settings} (h : invocation.settings defaultVersion = .ok settings) :
    settings = after [.resize invocation.size, .width invocation.width,
      .endOfInput invocation.endOfInput, .positional invocation.positional,
      .flushes (invocation.has .forceFlush),
      .version (some (invocation.versionString.getD defaultVersion)),
      .copyright invocation.copyright] := by
  have hsize : invocation.size ≠ 0 := by
    intro hzero
    rw [(Invocation.settings_eq_error_iff ..).mpr hzero] at h
    cases h
  obtain rfl := Invocation.eq_of_settings h
  simp [after, edit, Edit.apply, sized, hsize]

/-- Settings after any series of changes have a cell, they hold what the series says of each
field, and they are the standard ones if that is so of everything it says. A change is refused
only if it asks for no cells, and changes of different fields can change places. -/
theorem read_off_changes (changes : List Edit) :
    1 ≤ (after changes).cells ∧ (after changes).cells = lastCells changes ∧
    (∀ field : Field, field.get (after changes) = field.last changes) ∧
    (∀ (change : Edit) reason, change.apply (after changes) = .error reason ↔
      change = .resize 0 ∧ reason = .cellCount 0) ∧
    (∀ (first second : Field) (value : first.Value) (other : second.Value) (more : List Edit),
      first ≠ second →
        after (changes ++ first.change value :: second.change other :: more) =
          after (changes ++ second.change other :: first.change value :: more)) ∧
    (after changes = standard ↔
      lastCells changes = standard.cells ∧
        ∀ field : Field, field.last changes = field.get standard) := by
  refine ⟨one_le_cells_after changes, cells_after changes, fun field => get_after field changes,
    apply_eq_error_iff (after changes), ?_, ?_⟩
  · intro first second value other more h
    simp only [after, List.foldl_append, List.foldl_cons]
    rw [edit_comm h]
  · simp only [eq_iff, cells_after, get_after]

/-- A width that is given before the settings begin anew is lost, one that is given behind a
refused step is not, and the last width and the version could change places. -/
theorem series_with_refused_step :
    let changes : List Edit := [.width .bits32, .resize 64, .width .bits16, .resize 0]
    let width := Field.width.change .bits32
    let version := Field.version.change (some (ascii "v1"))
    Field.width ≠ Field.version ∧ (after changes).cells = 64 ∧ (after changes).width = .bits16 ∧
      (after (changes ++ [width, version])).width = .bits32 ∧
      after (changes ++ [width, version]) = after (changes ++ [version, width]) := by
  intro changes width version
  have ⟨_, cells, fields, _, places, _⟩ := read_off_changes changes
  have ⟨_, _, fieldsBehind, _⟩ := read_off_changes (changes ++ [width, version])
  exact ⟨by decide, cells.trans (by decide), (fields .width).trans rfl,
    (fieldsBehind .width).trans rfl,
    places .width .version .bits32 (some (ascii "v1")) [] (by decide)⟩

end BrainfuckCompiler.Settings
