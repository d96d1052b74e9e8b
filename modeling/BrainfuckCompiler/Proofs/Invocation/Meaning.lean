import BrainfuckCompiler.Proofs.Invocation.Acceptance
import BrainfuckCompiler.VersionText

/-!
# The settings of an accepted command line

The reader refuses an option that is given twice and two flags of a group. So an accepted
invocation is valid and is listed by the items of its account, and each setting can be read
off the items: no flag is passed over in favour of another one, since the other one is not
there.
-/
namespace BrainfuckCompiler.Invocation

section
variable {invocation : Invocation} {items : List Item}

theorem eq_of_choice?_eq {first second : Item} (once : (items.map Item.choice?).Nodup)
    (hfirst : first ∈ items) (hsecond : second ∈ items)
    (hsame : first.choice? = second.choice?) : first = second :=
  List.inj_on_of_nodup_map once hfirst hsecond hsame

theorem getLast?_eq_some_iff_mem {α : Type} {list : List α} {a : α}
    (h : ∀ first ∈ list, ∀ second ∈ list, first = second) : list.getLast? = some a ↔ a ∈ list := by
  constructor
  · exact List.mem_of_getLast?
  · intro hmem
    have hne : list ≠ [] := List.ne_nil_of_mem hmem
    rw [List.getLast?_eq_some_getLast hne, h _ (List.getLast_mem hne) a hmem]

theorem value_mem_iff (once : (items.map Item.choice?).Nodup) (option : Valued) (text : Bytes) :
    .value option text ∈ items ↔ (items.filterMap (Item.value? option)).getLast? = some text := by
  rw [← mem_filterMap_value?]
  refine (getLast?_eq_some_iff_mem ?_).symm
  intro first hfirst second hsecond
  rw [mem_filterMap_value?] at hfirst hsecond
  exact (Item.value.inj (eq_of_choice?_eq once hfirst hsecond rfl)).2

theorem source_mem_iff (once : (items.map Item.choice?).Nodup) (path : Bytes) :
    .source path ∈ items ↔ (items.filterMap Item.source?).getLast? = some path := by
  rw [← mem_filterMap_source?]
  refine (getLast?_eq_some_iff_mem ?_).symm
  intro first hfirst second hsecond
  rw [mem_filterMap_source?] at hfirst hsecond
  exact Item.source.inj (eq_of_choice?_eq once hfirst hsecond rfl)

/-- What items amount to, they say. -/
theorem Checked.lists (h : Checked invocation items) : Lists invocation items := by
  obtain ⟨rfl, once, accepted, -, -⟩ := h
  refine ⟨once, ?_, source_mem_iff once, value_mem_iff once .output, value_mem_iff once .copyright,
    value_mem_iff once .versionString, ?_, ?_⟩
  · intro chosen
    exact decide_eq_true_iff.symm
  · intro text hitem
    obtain ⟨n, hn⟩ : ∃ n, Numeral text n := accepted _ hitem
    have hlast := (value_mem_iff once .size text).mp hitem
    have hsize : (ofItems items).size = n := by
      rw [ofItems, hlast, Option.bind_some, hn.read?, Option.getD_some]
    rw [hsize]
    exact hn
  · intro omitted
    have hnone : (items.filterMap (Item.value? .size)).getLast? = none := by
      rw [Option.eq_none_iff_forall_ne_some]
      intro text hlast
      exact omitted text ((value_mem_iff once .size text).mpr hlast)
    rw [ofItems, hnone, Option.bind_none, Option.getD_none]

theorem Checked.valid (h : Checked invocation items) : invocation.Valid := by
  have lists := h.lists
  refine ⟨?_, ?_, ?_, ?_⟩
  · intro group hgroup first hfirst second hsecond hasFirst hasSecond
    have hshort := List.all_eq_true.mp h.compatible group hgroup
    rw [decide_eq_true_iff] at hshort
    have memFirst := List.mem_filter.mpr ⟨hfirst, hasFirst⟩
    have memSecond := List.mem_filter.mpr ⟨hsecond, hasSecond⟩
    rcases hset : group.filter invocation.has with _ | ⟨only, _ | ⟨other, rest⟩⟩
    · rw [hset] at memFirst
      cases memFirst
    · rw [hset, List.mem_singleton] at memFirst memSecond
      exact memFirst.trans memSecond.symm
    · rw [hset, List.length_cons, List.length_cons] at hshort
      omega
  · intro hsource
    exact h.accepted _ ((lists.source []).mpr hsource) rfl
  · intro houtput
    exact h.accepted _ ((lists.output []).mpr houtput) rfl
  · have hasks := h.asks
    rw [Bool.and_eq_false_iff, Bool.not_eq_false', Option.isNone_eq_false_iff] at hasks
    exact hasks

theorem Valid.width_iff (valid : invocation.Valid) :
    (invocation.width = .bits32 ↔ invocation.has .cellInt = true) ∧
      (invocation.width = .bits16 ↔ invocation.has .cellShort = true) := by
  have excludes := valid.compatible [.cellChar, .cellShort, .cellInt] (by decide)
    .cellShort (by decide) .cellInt (by decide)
  cases hint : invocation.has .cellInt <;> cases hshort : invocation.has .cellShort <;>
    simp [width, hint, hshort] at excludes ⊢

theorem Valid.endOfInput_iff (valid : invocation.Valid) :
    (invocation.endOfInput = .storeZero ↔ invocation.has .eofZero = true) ∧
      (invocation.endOfInput = .keepCell ↔ invocation.has .eofNoEffect = true) := by
  have excludes := valid.compatible [.eofZero, .eofMinus, .eofNoEffect] (by decide)
    .eofZero (by decide) .eofNoEffect (by decide)
  cases hzero : invocation.has .eofZero <;> cases hnone : invocation.has .eofNoEffect <;>
    simp [endOfInput, hzero, hnone] at excludes ⊢

theorem Valid.positional_iff (valid : invocation.Valid) :
    (invocation.positional = .outputFile ↔ invocation.has .outputDefault = true) ∧
      (invocation.positional = .inputFile ↔ invocation.has .inputDefault = true) ∧
      (invocation.positional = .message ↔ invocation.has .messageDefault = true) := by
  have excludes := valid.compatible [.outputDefault, .inputDefault, .messageDefault] (by decide)
  have outputInput := excludes .outputDefault (by decide) .inputDefault (by decide)
  have outputMessage := excludes .outputDefault (by decide) .messageDefault (by decide)
  have inputMessage := excludes .inputDefault (by decide) .messageDefault (by decide)
  cases houtput : invocation.has .outputDefault <;> cases hinput : invocation.has .inputDefault <;>
    cases hmessage : invocation.has .messageDefault <;>
    simp [positional, houtput, hinput, hmessage] at outputInput outputMessage inputMessage ⊢

end

/-- The settings are what the items ask for, and otherwise the standard. -/
structure Asks (items : List Item) (defaultVersion : Bytes) (settings : Settings) : Prop where
  bits32 : settings.width = .bits32 ↔ .flag .cellInt ∈ items
  bits16 : settings.width = .bits16 ↔ .flag .cellShort ∈ items
  bits8 : settings.width = .bits8 ↔ .flag .cellInt ∉ items ∧ .flag .cellShort ∉ items
  storeZero : settings.endOfInput = .storeZero ↔ .flag .eofZero ∈ items
  keepCell : settings.endOfInput = .keepCell ↔ .flag .eofNoEffect ∈ items
  storeMinusOne : settings.endOfInput = .storeMinusOne ↔
    .flag .eofZero ∉ items ∧ .flag .eofNoEffect ∉ items
  outputFile : settings.positional = .outputFile ↔ .flag .outputDefault ∈ items
  inputFile : settings.positional = .inputFile ↔ .flag .inputDefault ∈ items
  message : settings.positional = .message ↔ .flag .messageDefault ∈ items
  nothing : settings.positional = .nothing ↔ .flag .outputDefault ∉ items ∧
    .flag .inputDefault ∉ items ∧ .flag .messageDefault ∉ items
  flushes : settings.flushes = true ↔ .flag .forceFlush ∈ items
  copyright : ∀ text, settings.copyright = some text ↔ .value .copyright text ∈ items
  version : ∀ text, .value .versionString text ∈ items → settings.version = some text
  version_omitted : (∀ text, .value .versionString text ∉ items) →
    settings.version = some defaultVersion

section
variable {invocation : Invocation} {items : List Item}

theorem eq_of_settings {defaultVersion : Bytes} {settings : Settings}
    (h : invocation.settings defaultVersion = .ok settings) :
    settings = {
      cells := invocation.size
      width := invocation.width
      endOfInput := invocation.endOfInput
      positional := invocation.positional
      flushes := invocation.has .forceFlush
      version := some (invocation.versionString.getD defaultVersion)
      copyright := invocation.copyright } := by
  obtain ⟨sized, hsized, hrest⟩ := FileStore.bind_eq_ok h
  unfold Settings.sized at hsized
  split at hsized
  · cases hsized
  obtain rfl := Except.ok.inj hsized
  exact (Except.ok.inj hrest).symm

theorem asks_of_lists (lists : Lists invocation items) (valid : invocation.Valid)
    (defaultVersion : Bytes) {settings : Settings}
    (h : invocation.settings defaultVersion = .ok settings) :
    settings.cells = invocation.size ∧ Asks items defaultVersion settings := by
  obtain rfl := eq_of_settings h
  obtain ⟨bits32, bits16⟩ := valid.width_iff
  obtain ⟨storeZero, keepCell⟩ := valid.endOfInput_iff
  obtain ⟨outputFile, inputFile, message⟩ := valid.positional_iff
  rw [← lists.flag] at bits32 bits16 storeZero keepCell outputFile inputFile message
  have bits8 : invocation.width = .bits8 ↔ .flag .cellInt ∉ items ∧ .flag .cellShort ∉ items := by
    rw [← bits32, ← bits16]
    cases invocation.width <;> simp
  have storeMinusOne : invocation.endOfInput = .storeMinusOne ↔
      .flag .eofZero ∉ items ∧ .flag .eofNoEffect ∉ items := by
    rw [← storeZero, ← keepCell]
    cases invocation.endOfInput <;> simp
  have nothing : invocation.positional = .nothing ↔ .flag .outputDefault ∉ items ∧
      .flag .inputDefault ∉ items ∧ .flag .messageDefault ∉ items := by
    rw [← outputFile, ← inputFile, ← message]
    cases invocation.positional <;> simp
  refine ⟨rfl, bits32, bits16, bits8, storeZero, keepCell, storeMinusOne, outputFile, inputFile,
    message, nothing, ?_, ?_, ?_, ?_⟩
  · exact (lists.flag .forceFlush).symm
  · intro text
    exact (lists.copyright text).symm
  · intro text hitem
    simp only [(lists.versionString text).mp hitem, Option.getD_some]
  · intro omitted
    have hnone : invocation.versionString = none := by
      rw [Option.eq_none_iff_forall_ne_some]
      intro text hversion
      exact omitted text ((lists.versionString text).mpr hversion)
    simp only [hnone, Option.getD_none]

theorem settings_eq_error_iff (invocation : Invocation) (defaultVersion : Bytes) :
    invocation.settings defaultVersion = .error (.cellCount 0) ↔ invocation.size = 0 := by
  unfold settings Settings.sized
  by_cases hsize : invocation.size = 0
  · simp [hsize, bind, Except.bind]
  · simp [hsize, bind, Except.bind, pure, Except.pure]

theorem exists_settings (hsize : invocation.size ≠ 0) (defaultVersion : Bytes) :
    ∃ settings, invocation.settings defaultVersion = .ok settings := by
  unfold settings Settings.sized
  rw [if_neg hsize]
  exact ⟨_, rfl⟩

theorem exists_account {words : List Bytes} (accepted : read words = .ok invocation) :
    ∃ items, Account items words ∧ Checked invocation items := by
  have start : Progress.Accounted {} [] := ⟨reached_start, by simp, by simp⟩
  obtain ⟨items, account, checked⟩ := start.account rfl accepted
  exact ⟨items, account, checked⟩

end

/-- An accepted command line has one account, which lists the invocation, and the settings
are what the account asks for. Only a number of cells that is zero is refused. -/
theorem accepted_means_what_it_says (words : List Bytes) (invocation : Invocation)
    (accepted : read words = .ok invocation) :
    ∃ items, Account items words ∧ (∀ others, Account others words → others = items) ∧
      Lists invocation items ∧ invocation.Valid ∧
      ∀ (path : Bytes) (now : Moment) (environment : Environment),
        let standard := VersionText.ofSource path now environment
        (invocation.settings standard = .error (.cellCount 0) ↔ invocation.size = 0) ∧
          (invocation.size ≠ 0 → ∃ settings, invocation.settings standard = .ok settings ∧
            settings.cells = invocation.size ∧ Asks items standard settings) := by
  obtain ⟨items, account, checked⟩ := exists_account accepted
  refine ⟨items, account, ?_, checked.lists, checked.valid, ?_⟩
  · intro others other
    exact account.unique other
  · intro path now environment standard
    refine ⟨settings_eq_error_iff invocation standard, ?_⟩
    intro hsize
    obtain ⟨settings, hsettings⟩ := exists_settings hsize standard
    exact ⟨settings, hsettings, asks_of_lists checked.lists checked.valid standard hsettings⟩

/-- A cluster with flags, the source in the middle, an empty value, a signed numeral, a value
that begins with an equals sign, and nothing behind the end of the options. -/
theorem crowded_words_mean_what_they_say :
    let words := ["-4F", "prog.bf", "-C", "", "-Is+07", "--eof-zero", "--version-string==1", "--"]
    let items := [.flag .cellInt, .flag .forceFlush, .source (ascii "prog.bf"),
      .value .copyright [], .flag .inputDefault, .value .size (ascii "+07"), .flag .eofZero,
      .value .versionString (ascii "=1")]
    let standard := VersionText.ofSource (ascii "prog.bf") { seconds := 0 } []
    ∃ invocation settings, read (words.map ascii) = .ok invocation ∧
      Account items (words.map ascii) ∧ Lists invocation items ∧ invocation.Valid ∧
      invocation.settings standard = .ok settings ∧ settings.cells = 7 ∧
      Asks items standard settings := by
  intro words items standard
  obtain ⟨invocation, accepted, hsize⟩ :
      ∃ invocation, read (words.map ascii) = .ok invocation ∧ invocation.size = 7 := ⟨_, rfl, rfl⟩
  have account : Account items (words.map ascii) :=
    .phrase (.cluster (.cons rfl (.cons rfl .nil)) (List.cons_ne_nil _ _))
      (.phrase (.source (.inr (by decide)))
      (.phrase (.clusterDetached .nil .copyright (.inr (by decide)))
      (.phrase (.clusterAttached (.cons rfl .nil) .size (by decide) (by decide))
      (.phrase (.name .eofZero)
      (.phrase (.nameAttached .versionString (ascii "=1")) .ended)))))
  obtain ⟨found, -, unique, lists, valid, meant⟩ :=
    accepted_means_what_it_says (words.map ascii) invocation accepted
  obtain rfl := unique items account
  obtain ⟨settings, hsettings, hcells, asks⟩ :=
    (meant (ascii "prog.bf") { seconds := 0 } []).2 (by simp [hsize])
  exact ⟨invocation, settings, accepted, account, lists, valid, hsettings, hcells.trans hsize, asks⟩

end BrainfuckCompiler.Invocation
