import BrainfuckCompiler.Invocation.Reading
import BrainfuckCompiler.Proofs.Invocation.Spelling
import BrainfuckCompiler.Proofs.Utf8

/-!
# What items amount to

A list of items amounts to an invocation: the flags that are in it, the last source and the
last value of each option. Taking over one more item, as the reader does it, is the same as
adding it to the list. Items that say what an invocation is amount to that invocation, and
if it is valid then the reader has nothing to say against any of them.
-/
namespace BrainfuckCompiler

namespace Invocation

theorem Numeral.ascii {text : Bytes} {n : UInt64} (h : Numeral text n) : Utf8.Ascii text := by
  obtain ⟨sign, digits, rfl, hsign, -, hdigits, -⟩ := h
  refine .append ?_ (Utf8.ascii_of_isDigit hdigits)
  rcases hsign with rfl | rfl <;> decide

theorem Numeral.read? {text : Bytes} {n : UInt64} (h : Numeral text n) :
    Decimal.read? text = some n := by
  obtain ⟨sign, digits, rfl, hsign, hne, hdigits, hvalue⟩ := h
  have hdrop : Decimal.dropSign (sign ++ digits) = digits := by
    rcases hsign with rfl | rfl
    · cases digits with
      | nil => exact absurd rfl hne
      | cons b rest =>
          have hb : b ≠ 0x2b := by
            rintro rfl
            exact absurd (hdigits _ List.mem_cons_self) (by decide)
          rw [List.nil_append, Decimal.dropSign]
          intro others heq
          exact hb (List.cons.inj heq).1
    · rfl
  have hall : digits.all Decimal.isDigit = true := List.all_eq_true.mpr hdigits
  rw [Decimal.read?_eq, hdrop, hvalue, if_pos ⟨hne, hall, n.toNat_lt_size⟩, UInt64.ofNat_toNat]

/-- What the reader insists on in a single item. -/
def Item.Accepted : Item → Prop
  | .flag _ => True
  | .value .output text => text ≠ []
  | .value .size text => ∃ n, Numeral text n
  | .value .copyright _ => True
  | .value .versionString _ => True
  | .source path => path ≠ []

def Item.value? (option : Valued) : Item → Option Bytes
  | .value other text => if other = option then some text else none
  | _ => none

def Item.source? : Item → Option Bytes
  | .source path => some path
  | _ => none

/-- The invocation that items amount to, the last value of an option being the one that counts. -/
def ofItems (items : List Item) : Invocation where
  has chosen := decide (.flag chosen ∈ items)
  source := (items.filterMap Item.source?).getLast?
  output := (items.filterMap (Item.value? .output)).getLast?
  size := ((items.filterMap (Item.value? .size)).getLast?.bind Decimal.read?).getD 30000
  copyright := (items.filterMap (Item.value? .copyright)).getLast?
  versionString := (items.filterMap (Item.value? .versionString)).getLast?

theorem set_ofItems (items : List Item) (chosen : Flag) :
    (ofItems items).set chosen = ofItems (items ++ [.flag chosen]) := by
  simp only [set, ofItems, List.filterMap_append, List.mem_append, List.mem_singleton,
    Item.flag.injEq, Bool.decide_or, Bool.or_comm]
  simp [Item.source?, Item.value?]

theorem store_ofItems (items : List Item) (option : Valued) {text : Bytes}
    (h : (Item.value option text).Accepted) :
    Progress.store (ofItems items) text option = .ok (ofItems (items ++ [.value option text])) := by
  cases option with
  | output =>
      have hne : text ≠ [] := h
      simp [Progress.store, hne, ofItems, Item.source?, Item.value?]
  | size =>
      obtain ⟨n, hn⟩ := h
      simp [Progress.store, hn.ascii.isValid, hn.read?, ofItems, Item.source?,
        Item.value?]
  | copyright => simp [Progress.store, ofItems, Item.source?, Item.value?]
  | versionString => simp [Progress.store, ofItems, Item.source?, Item.value?]

theorem source_ofItems (items : List Item) (path : Bytes) :
    { ofItems items with source := some path } = ofItems (items ++ [.source path]) := by
  simp [ofItems, Item.source?, Item.value?]

section
variable {invocation : Invocation} {items : List Item}

theorem getLast?_eq_of_mem_iff {α : Type} {list : List α} {last : Option α}
    (h : ∀ a, a ∈ list ↔ last = some a) : list.getLast? = last := by
  cases hlast : list.getLast? with
  | none =>
      rw [List.getLast?_eq_none_iff] at hlast
      cases last with
      | none => rfl
      | some a =>
          have hmem := (h a).mpr rfl
          rw [hlast] at hmem
          exact absurd hmem List.not_mem_nil
  | some a => exact ((h a).mp (List.mem_of_getLast? hlast)).symm

theorem mem_filterMap_value? {option : Valued} {text : Bytes} :
    text ∈ items.filterMap (Item.value? option) ↔ .value option text ∈ items := by
  rw [List.mem_filterMap]
  constructor
  · rintro ⟨item, hitem, hvalue⟩
    cases item with
    | value other found =>
        obtain ⟨rfl, rfl⟩ : other = option ∧ found = text := by simpa [Item.value?] using hvalue
        exact hitem
    | flag chosen => exact absurd hvalue (by simp [Item.value?])
    | source path => exact absurd hvalue (by simp [Item.value?])
  · intro hitem
    exact ⟨_, hitem, if_pos rfl⟩

theorem mem_filterMap_source? {path : Bytes} :
    path ∈ items.filterMap Item.source? ↔ .source path ∈ items := by
  rw [List.mem_filterMap]
  constructor
  · rintro ⟨item, hitem, hsource⟩
    cases item with
    | source found =>
        obtain rfl := Option.some.inj hsource
        exact hitem
    | flag chosen => exact absurd hsource (by simp [Item.source?])
    | value option text => exact absurd hsource (by simp [Item.source?])
  · intro hitem
    exact ⟨_, hitem, rfl⟩

theorem Lists.size_eq (h : Lists invocation items) :
    ((items.filterMap (Item.value? .size)).getLast?.bind Decimal.read?).getD 30000 =
      invocation.size := by
  cases hlast : (items.filterMap (Item.value? .size)).getLast? with
  | none =>
      rw [List.getLast?_eq_none_iff] at hlast
      refine (h.size_omitted fun text hitem => ?_).symm
      have hmem := mem_filterMap_value?.mpr hitem
      rw [hlast] at hmem
      exact absurd hmem List.not_mem_nil
  | some text =>
      have hitem := mem_filterMap_value?.mp (List.mem_of_getLast? hlast)
      rw [Option.bind_some, (h.size text hitem).read?, Option.getD_some]

/-- Items that say what an invocation is amount to it. -/
theorem Lists.ofItems_eq (h : Lists invocation items) : ofItems items = invocation := by
  have hhas : (fun chosen => decide (Item.flag chosen ∈ items)) = invocation.has := by
    funext chosen
    rw [Bool.eq_iff_iff, decide_eq_true_iff, h.flag]
  have hsource := getLast?_eq_of_mem_iff fun path => mem_filterMap_source?.trans (h.source path)
  have houtput := getLast?_eq_of_mem_iff fun text => mem_filterMap_value?.trans (h.output text)
  have hcopyright := getLast?_eq_of_mem_iff fun text =>
    mem_filterMap_value?.trans (h.copyright text)
  have hversion := getLast?_eq_of_mem_iff fun text =>
    mem_filterMap_value?.trans (h.versionString text)
  rw [ofItems, hhas, hsource, houtput, h.size_eq, hcopyright, hversion]

theorem Lists.accepted (h : Lists invocation items) (valid : invocation.Valid) :
    ∀ item ∈ items, item.Accepted := by
  rintro (chosen | ⟨_ | _ | _ | _, text⟩ | path) hitem
  · trivial
  · rintro rfl
    exact valid.output_ne ((h.output []).mp hitem)
  · exact ⟨_, h.size text hitem⟩
  · trivial
  · trivial
  · rintro rfl
    exact valid.source_ne ((h.source []).mp hitem)

theorem Valid.compatible_eq (valid : invocation.Valid) :
    Progress.compatible invocation = true := by
  have hdistinct : ∀ group ∈ Flag.groups, group.Nodup := by decide
  rw [Progress.compatible, List.all_eq_true]
  intro group hgroup
  rw [decide_eq_true_iff]
  have hnodup := (hdistinct group hgroup).filter invocation.has
  rcases hset : group.filter invocation.has with _ | ⟨first, _ | ⟨second, rest⟩⟩
  · simp
  · simp
  · have hfirst : first ∈ group.filter invocation.has := by simp [hset]
    have hsecond : second ∈ group.filter invocation.has := by simp [hset]
    rw [List.mem_filter] at hfirst hsecond
    have heq := valid.compatible group hgroup first hfirst.1 second hsecond.1 hfirst.2 hsecond.2
    rw [hset, heq] at hnodup
    simp at hnodup

theorem Valid.asks_eq (valid : invocation.Valid) :
    (invocation.source.isNone && !invocation.has .version) = false := by
  rcases valid.asks with hsource | hversion
  · simp [Option.isNone_eq_false_iff.mpr hsource]
  · simp [hversion]

end

end Invocation

end BrainfuckCompiler
