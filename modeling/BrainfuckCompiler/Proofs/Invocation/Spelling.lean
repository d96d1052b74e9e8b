import Mathlib.Data.List.Forall2
import Mathlib.Data.List.Nodup
import BrainfuckCompiler.Invocation
import BrainfuckCompiler.Proofs.Decimal

/-!
# Spellings of an invocation

An invocation can be asked for in many ways. What has to be said is a list of items, in
any order: its flags, its values and its source, each of them once. The items are said in
phrases of one or two words. An option is spelled by its long name or by its letter;
letters can be run together, the last of them with a value; a value is attached to its
option or stands in the next word. After `--` the source can be any word at all.

Every valid invocation has a spelling. That all its spellings are read back as the
invocation is the subject of the next module.
-/
namespace BrainfuckCompiler.Invocation

/-- An invocation that somebody can ask for. -/
structure Valid (invocation : Invocation) : Prop where
  /-- No two flags of a group are set. -/
  compatible : ∀ group ∈ Flag.groups, ∀ first ∈ group, ∀ second ∈ group,
    invocation.has first = true → invocation.has second = true → first = second
  source_ne : invocation.source ≠ some []
  output_ne : invocation.output ≠ some []
  asks : invocation.source.isSome = true ∨ invocation.has .version = true

inductive Item where
  | flag (chosen : Flag)
  | value (option : Valued) (text : Bytes)
  | source (path : Bytes)
  deriving DecidableEq, Repr

/-- The option that the item is about, if it is not the source. -/
def Item.choice? : Item → Option Choice
  | .flag chosen => some (.flag chosen)
  | .value option _ => some (.valued option)
  | .source _ => none

/-- An optional plus sign and digits with the value of the number. -/
def Numeral (text : Bytes) (n : UInt64) : Prop :=
  ∃ sign digits, text = sign ++ digits ∧ (sign = [] ∨ sign = ascii "+") ∧ digits ≠ [] ∧
    (∀ b ∈ digits, Decimal.isDigit b = true) ∧ Decimal.value digits = n.toNat

/-- The items say what the invocation is, each thing once. Only the standard number of
cells can be left out. -/
structure Lists (invocation : Invocation) (items : List Item) : Prop where
  once : (items.map Item.choice?).Nodup
  flag : ∀ chosen, .flag chosen ∈ items ↔ invocation.has chosen = true
  source : ∀ path, .source path ∈ items ↔ invocation.source = some path
  output : ∀ text, .value .output text ∈ items ↔ invocation.output = some text
  copyright : ∀ text, .value .copyright text ∈ items ↔ invocation.copyright = some text
  versionString : ∀ text,
    .value .versionString text ∈ items ↔ invocation.versionString = some text
  size : ∀ text, .value .size text ∈ items → Numeral text invocation.size
  size_omitted : (∀ text, .value .size text ∉ items) → invocation.size = 30000

/-- A word that is taken for a value or a source, and not for options. -/
def StandsAlone (word : Bytes) : Prop := word = [dash] ∨ word.head? ≠ some dash

/-- The letters of the flags, in order; all of them have to have one. -/
def Letters (flags : List Flag) (letters : Bytes) : Prop :=
  List.Forall₂ (fun chosen letter => chosen.letter?.map Char.toUInt8 = some letter) flags letters

def longWord (name : String) : Bytes := ascii "--" ++ ascii name

/-- One or two words, and the items that they say. -/
inductive Phrase : List Item → List Bytes → Prop
  | name (chosen : Flag) : Phrase [.flag chosen] [longWord chosen.name]
  | nameAttached (option : Valued) (text : Bytes) :
      Phrase [.value option text] [longWord option.name ++ equals :: text]
  | nameDetached (option : Valued) {text : Bytes} (alone : StandsAlone text) :
      Phrase [.value option text] [longWord option.name, text]
  | cluster {flags : List Flag} {letters : Bytes} (spelled : Letters flags letters)
      (some_flag : flags ≠ []) : Phrase (flags.map .flag) [dash :: letters]
  | clusterEquals {flags : List Flag} {letters : Bytes} (spelled : Letters flags letters)
      (option : Valued) (text : Bytes) :
      Phrase (flags.map .flag ++ [.value option text])
        [dash :: (letters ++ option.letter.toUInt8 :: equals :: text)]
  | clusterAttached {flags : List Flag} {letters : Bytes} (spelled : Letters flags letters)
      (option : Valued) {text : Bytes} (some_text : text ≠ []) (plain : text.head? ≠ some equals) :
      Phrase (flags.map .flag ++ [.value option text])
        [dash :: (letters ++ option.letter.toUInt8 :: text)]
  | clusterDetached {flags : List Flag} {letters : Bytes} (spelled : Letters flags letters)
      (option : Valued) {text : Bytes} (alone : StandsAlone text) :
      Phrase (flags.map .flag ++ [.value option text])
        [dash :: (letters ++ [option.letter.toUInt8]), text]
  | source {path : Bytes} (alone : StandsAlone path) : Phrase [.source path] [path]

/-- A sequence of phrases, at the end of which the source can follow two dashes. -/
inductive Spelling : List Item → List Bytes → Prop
  | done : Spelling [] []
  | last (path : Bytes) : Spelling [.source path] [ascii "--", path]
  | phrase {items rest : List Item} {words more : List Bytes} (first : Phrase items words)
      (others : Spelling rest more) : Spelling (items ++ rest) (words ++ more)

/-- The words are a way to ask for the invocation. -/
def Spells (invocation : Invocation) (words : List Bytes) : Prop :=
  ∃ items, Lists invocation items ∧ Spelling items words

/-- What an invocation says of an option. -/
def item? (invocation : Invocation) : Choice → Option Item
  | .flag chosen => if invocation.has chosen then some (.flag chosen) else none
  | .valued .output => invocation.output.map (.value .output)
  | .valued .size => some (.value .size (Decimal.digits invocation.size.toNat))
  | .valued .copyright => invocation.copyright.map (.value .copyright)
  | .valued .versionString => invocation.versionString.map (.value .versionString)
  | .help => none

/-- All that an invocation says, in the order of the help text, and the source last. -/
def items (invocation : Invocation) : List Item :=
  Choice.all.filterMap invocation.item? ++ invocation.source.toList.map .source

theorem choice?_of_item? {invocation : Invocation} {choice : Choice} {item : Item}
    (h : invocation.item? choice = some item) : item.choice? = some choice := by
  rcases choice with chosen | (_ | _ | _ | _) | _
  · rw [item?] at h
    split at h
    · obtain rfl := Option.some.inj h
      rfl
    · exact absurd h (by simp)
  · obtain ⟨text, -, rfl⟩ := Option.map_eq_some_iff.mp h
    rfl
  · obtain rfl := Option.some.inj h
    rfl
  · obtain ⟨text, -, rfl⟩ := Option.map_eq_some_iff.mp h
    rfl
  · obtain ⟨text, -, rfl⟩ := Option.map_eq_some_iff.mp h
    rfl
  · exact absurd h (by simp [item?])

theorem Choice.mem_all (choice : Choice) : choice ∈ Choice.all := by
  rcases choice with chosen | option | _
  · cases chosen <;> decide
  · cases option <;> decide
  · decide

/-- An option is said exactly as the invocation has it. -/
theorem mem_items_iff {invocation : Invocation} {item : Item} {choice : Choice}
    (h : item.choice? = some choice) :
    item ∈ invocation.items ↔ invocation.item? choice = some item := by
  rw [items, List.mem_append, List.mem_filterMap]
  constructor
  · rintro (⟨other, -, hitem⟩ | hsource)
    · obtain rfl : other = choice := Option.some.inj ((choice?_of_item? hitem).symm.trans h)
      exact hitem
    · obtain ⟨path, -, rfl⟩ := List.mem_map.mp hsource
      exact absurd h (by simp [Item.choice?])
  · intro hitem
    exact .inl ⟨choice, choice.mem_all, hitem⟩

theorem nodup_items (invocation : Invocation) :
    (invocation.items.map Item.choice?).Nodup := by
  have hchoices : (Choice.all.filterMap invocation.item?).map Item.choice? =
      (Choice.all.filter fun choice => (invocation.item? choice).isSome).map some := by
    induction Choice.all with
    | nil => rfl
    | cons choice rest ih =>
        cases hitem : invocation.item? choice with
        | none => simp [hitem, ih]
        | some item => simp [hitem, ih, choice?_of_item? hitem]
  have hall : Choice.all.Nodup := by decide
  have hsource : (invocation.source.toList.map Item.source).map Item.choice? =
      invocation.source.toList.map fun _ => none := by
    cases invocation.source <;> rfl
  rw [items, List.map_append, hchoices, hsource, List.nodup_append]
  refine ⟨(hall.filter _).map fun _ _ => Option.some.inj, ?_, ?_⟩
  · cases invocation.source <;> simp
  · intro first hfirst second hsecond
    obtain ⟨choice, -, rfl⟩ := List.mem_map.mp hfirst
    obtain ⟨path, -, rfl⟩ := List.mem_map.mp hsecond
    simp

theorem numeral_digits (n : UInt64) : Numeral (Decimal.digits n.toNat) n := by
  refine ⟨[], Decimal.digits n.toNat, rfl, .inl rfl, ?_, ?_, ?_⟩
  · simp [Decimal.digits]
  · intro b hb
    exact Decimal.isDigit_of_mem_digits hb
  · exact Decimal.value_digits _

theorem lists_items (invocation : Invocation) : Lists invocation invocation.items where
  once := nodup_items invocation
  flag chosen := (mem_items_iff rfl).trans (by simp [item?])
  source path := by
    have hoption : Item.source path ∉ Choice.all.filterMap invocation.item? := by
      rw [List.mem_filterMap]
      rintro ⟨choice, -, hitem⟩
      exact absurd (choice?_of_item? hitem) (by simp [Item.choice?])
    simp [items, hoption]
  output text := (mem_items_iff rfl).trans (by simp [item?])
  copyright text := (mem_items_iff rfl).trans (by simp [item?])
  versionString text := (mem_items_iff rfl).trans (by simp [item?])
  size text h := by
    rw [mem_items_iff rfl, item?, Option.some.injEq] at h
    cases h
    exact numeral_digits invocation.size
  size_omitted h := by
    refine absurd ?_ (h (Decimal.digits invocation.size.toNat))
    rw [mem_items_iff rfl, item?]

theorem exists_spelling_append {list rest : List Item} {more : List Bytes}
    (h : ∀ item ∈ list, item.choice? ≠ none) (others : Spelling rest more) :
    ∃ words, Spelling (list ++ rest) words := by
  induction list with
  | nil => exact ⟨more, others⟩
  | cons item list ih =>
      obtain ⟨words, spelled⟩ := ih fun other hother => h other (List.mem_cons_of_mem _ hother)
      cases item with
      | flag chosen =>
          have longer := Spelling.phrase (.name chosen) spelled
          exact ⟨_, longer⟩
      | value option text =>
          have longer := Spelling.phrase (.nameAttached option text) spelled
          exact ⟨_, longer⟩
      | source path => exact absurd rfl (h _ List.mem_cons_self)

/-- Nothing that an invocation can say is beyond the words. -/
theorem exists_spells (invocation : Invocation) : ∃ words, Spells invocation words := by
  have hoptions : ∀ item ∈ Choice.all.filterMap invocation.item?, item.choice? ≠ none := by
    intro item hmem
    obtain ⟨choice, -, hitem⟩ := List.mem_filterMap.mp hmem
    rw [choice?_of_item? hitem]
    exact Option.some_ne_none _
  have hsource : ∃ more, Spelling (invocation.source.toList.map .source) more := by
    cases invocation.source with
    | none => exact ⟨[], .done⟩
    | some path => exact ⟨_, .last path⟩
  obtain ⟨more, spelled⟩ := hsource
  obtain ⟨words, whole⟩ := exists_spelling_append hoptions spelled
  exact ⟨words, invocation.items, lists_items invocation, whole⟩

end BrainfuckCompiler.Invocation
