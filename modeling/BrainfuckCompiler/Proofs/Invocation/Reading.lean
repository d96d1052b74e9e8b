import BrainfuckCompiler.Proofs.Invocation.Items

/-!
# Every spelling is read back

The reader takes words from left to right and does not look at a value or a source before
the next option or source has been accepted. So the state between two phrases is described
by what it will be once the last word has been looked at: `Reached` says that the items of
all phrases so far are then taken over. A phrase adds its items, whatever form it has, and
a spelling adds those of its phrases.
-/
namespace BrainfuckCompiler

namespace Bytes

theorem cutAt_of_not_mem {separator : UInt8} {text : Bytes} (h : separator ∉ text) :
    cutAt separator text = (text, none) := by
  induction text with
  | nil => rfl
  | cons b rest ih =>
      have hb : b ≠ separator := (List.ne_of_not_mem_cons h).symm
      rw [cutAt, if_neg hb, ih (List.not_mem_of_not_mem_cons h)]

theorem cutAt_append {separator : UInt8} {before : Bytes} (h : separator ∉ before)
    (after : Bytes) : cutAt separator (before ++ separator :: after) = (before, some after) := by
  induction before with
  | nil => simp [cutAt]
  | cons b rest ih =>
      have hb : b ≠ separator := (List.ne_of_not_mem_cons h).symm
      rw [List.cons_append, cutAt, if_neg hb, ih (List.not_mem_of_not_mem_cons h)]

end Bytes

namespace Invocation

namespace Progress

/-- The items so far are all taken over, and no word is left to look at. -/
structure Settled (progress : Progress) (said : List Item) : Prop where
  pending : progress.pending = .nothing
  invocation : progress.invocation = ofItems said
  given : ∀ choice, choice ∈ progress.given ↔ some choice ∈ said.map Item.choice?
  sourceSeen : progress.sourceSeen = true ↔ none ∈ said.map Item.choice?

/-- The items so far are taken over as soon as the last word has been looked at. -/
def Reached (progress : Progress) (said : List Item) : Prop :=
  ∃ settled, progress.settle = .ok settled ∧ settled.Settled said ∧
    settled.sourceSeen = progress.sourceSeen ∧ settled.optionsEnded = progress.optionsEnded

theorem Settled.settle {progress : Progress} {said : List Item} (h : progress.Settled said) :
    progress.settle = .ok progress := by
  simp only [Progress.settle, h.pending]

theorem Settled.reached {progress : Progress} {said : List Item} (h : progress.Settled said) :
    progress.Reached said :=
  ⟨progress, h.settle, h, rfl, rfl⟩

section
variable {progress : Progress} {said : List Item}

theorem Settled.note {choice : Choice} (h : progress.Settled said)
    (fresh : some choice ∉ said.map Item.choice?) :
    progress.note choice = .ok { progress with given := choice :: progress.given } := by
  rw [Progress.note, if_neg fun hgiven => fresh ((h.given choice).mp hgiven)]

theorem Settled.given_cons {item : Item} {choice : Choice} (h : progress.Settled said)
    (hitem : item.choice? = some choice) (other : Choice) :
    other ∈ choice :: progress.given ↔ some other ∈ (said ++ [item]).map Item.choice? := by
  simp [h.given, hitem, or_comm]

/-- An option that has not been given yet is accepted with its value. -/
theorem Settled.assign {option : Valued} {text : Bytes} (h : progress.Settled said)
    (fresh : some (.valued option) ∉ said.map Item.choice?)
    (accepted : (Item.value option text).Accepted) :
    ∃ next, progress.assign option text = .ok next ∧
      next.Settled (said ++ [.value option text]) ∧ next.sourceSeen = progress.sourceSeen ∧
        next.optionsEnded = progress.optionsEnded := by
  have hstore := store_ofItems said option accepted
  rw [← h.invocation] at hstore
  refine ⟨{ progress with
    given := .valued option :: progress.given
    invocation := ofItems (said ++ [.value option text]) }, ?_, ⟨?_, ?_, ?_, ?_⟩, rfl, rfl⟩
  · rw [Progress.assign, h.note fresh]
    simp only [bind, Except.bind, hstore]
    rfl
  · exact h.pending
  · rfl
  · exact h.given_cons rfl
  · simpa [Item.choice?] using h.sourceSeen

theorem Reached.acceptFlag {chosen : Flag} (h : progress.Reached said)
    (fresh : some (.flag chosen) ∉ said.map Item.choice?) :
    ∃ next, progress.acceptFlag chosen = .ok next ∧ next.Reached (said ++ [.flag chosen]) ∧
      next.optionsEnded = progress.optionsEnded := by
  obtain ⟨settled, hsettle, hsettled, -, hended⟩ := h
  refine ⟨{ settled with
    given := .flag chosen :: settled.given
    invocation := settled.invocation.set chosen }, ?_, Settled.reached ⟨?_, ?_, ?_, ?_⟩, hended⟩
  · simp only [Progress.acceptFlag, hsettle, hsettled.note fresh, bind, Except.bind]
    rfl
  · exact hsettled.pending
  · change settled.invocation.set chosen = _
    rw [hsettled.invocation, set_ofItems]
  · exact hsettled.given_cons rfl
  · simpa [Item.choice?] using hsettled.sourceSeen

theorem Reached.acceptAttached {option : Valued} {text : Bytes} (h : progress.Reached said)
    (fresh : some (.valued option) ∉ said.map Item.choice?)
    (accepted : (Item.value option text).Accepted) :
    ∃ next, progress.acceptAttached option text = .ok next ∧
      next.Reached (said ++ [.value option text]) ∧
        next.optionsEnded = progress.optionsEnded := by
  obtain ⟨settled, hsettle, hsettled, -, hended⟩ := h
  obtain ⟨next, hassign, hnext, -, hsame⟩ := hsettled.assign fresh accepted
  refine ⟨next, ?_, hnext.reached, hsame.trans hended⟩
  simp only [Progress.acceptAttached, hsettle, bind, Except.bind, hassign]

/-- An option whose value is to come, and then the word that is its value. -/
theorem Reached.acceptDetached {option : Valued} {text : Bytes} (h : progress.Reached said)
    (fresh : some (.valued option) ∉ said.map Item.choice?)
    (accepted : (Item.value option text).Accepted) :
    ∃ waiting, progress.acceptDetached option = .ok waiting ∧
      waiting.pending = .awaiting option ∧ waiting.optionsEnded = progress.optionsEnded ∧
        Reached { waiting with pending := .value option text }
          (said ++ [.value option text]) := by
  obtain ⟨settled, hsettle, hsettled, -, hended⟩ := h
  obtain ⟨next, hassign, hnext, hseen, hsame⟩ := hsettled.assign fresh accepted
  refine ⟨{ settled with pending := .awaiting option }, ?_, rfl, hended, next, ?_, hnext, hseen,
    hsame⟩
  · simp only [Progress.acceptDetached, hsettle, bind, Except.bind]
    rfl
  · have hcleared : { settled with pending := .nothing } = settled := by
      rw [← hsettled.pending]
    change Progress.assign { settled with pending := .nothing } option text = _
    rw [hcleared, hassign]

/-- The end of the options, as `--` marks it. -/
def ended (progress : Progress) : Progress := { progress with optionsEnded := true }

theorem settle_ended (progress : Progress) :
    progress.ended.settle = progress.settle.map ended := by
  rcases progress with ⟨invocation, given, pending, sourceSeen, optionsEnded⟩
  cases pending with
  | nothing => rfl
  | awaiting option => rfl
  | value option text =>
      by_cases hgiven : Choice.valued option ∈ given
      · simp [ended, settle, assign, note, hgiven, reject, bind, Except.bind, Except.map]
      · cases hstore : store invocation text option <;>
          simp [ended, settle, assign, note, hgiven, hstore, bind, Except.bind, Except.map,
            pure, Except.pure]
  | source path =>
      by_cases hpath : path = []
      · simp [ended, settle, hpath, reject, Except.map]
      · simp [ended, settle, hpath, Except.map]

/-- The last word before the end of the options is still to be looked at. -/
theorem Reached.ended (h : progress.Reached said) : progress.ended.Reached said := by
  obtain ⟨settled, hsettle, hsettled, hseen, -⟩ := h
  refine ⟨settled.ended, ?_, ⟨?_, ?_, ?_, ?_⟩, hseen, rfl⟩
  · rw [settle_ended, hsettle]
    rfl
  · exact hsettled.pending
  · exact hsettled.invocation
  · exact hsettled.given
  · exact hsettled.sourceSeen

theorem Reached.plain {path : Bytes} (h : progress.Reached said)
    (fresh : none ∉ said.map Item.choice?) (hpath : path ≠ []) :
    ∃ next, progress.plain path = .ok next ∧ next.Reached (said ++ [.source path]) ∧
      next.optionsEnded = progress.optionsEnded := by
  obtain ⟨settled, hsettle, hsettled, hseen, hended⟩ := h
  have hunseen : progress.sourceSeen = false := by
    rw [← hseen, Bool.eq_false_iff]
    exact fun htrue => fresh (hsettled.sourceSeen.mp htrue)
  refine ⟨{ settled with pending := .source path, sourceSeen := true }, ?_, ?_, hended⟩
  · simp only [Progress.plain, hunseen, hsettle, bind, Except.bind]
    rfl
  · refine ⟨{ settled with
      pending := .nothing
      sourceSeen := true
      invocation := ofItems (said ++ [.source path]) }, ?_, ⟨rfl, rfl, ?_, ?_⟩, rfl, rfl⟩
    · simp only [Progress.settle, if_neg hpath, ← source_ofItems, hsettled.invocation]
    · simpa [Item.choice?] using hsettled.given
    · simp [Item.choice?]

end

section
variable {progress : Progress}

theorem word_dashes (hopen : progress.optionsEnded = false) :
    progress.word (ascii "--") = .ok progress.ended := by
  unfold word
  rw [if_neg (by simp [hopen])]
  rfl

theorem word_long {name : Bytes} (hopen : progress.optionsEnded = false) (hname : name ≠ []) :
    progress.word (ascii "--" ++ name) = progress.long name := by
  obtain ⟨b, rest, rfl⟩ := List.exists_cons_of_ne_nil hname
  have hdashes : ascii "--" = [0x2d, 0x2d] := by decide
  unfold word
  rw [hdashes, if_neg (by simp [hopen])]
  rfl

theorem word_cluster {first : UInt8} {rest : Bytes} (hopen : progress.optionsEnded = false)
    (hfirst : first ≠ dash) :
    progress.word (dash :: first :: rest) = progress.cluster (first :: rest) := by
  unfold word
  rw [if_neg (by simp [hopen])]
  split
  · next heq => exact absurd (List.cons.inj (List.cons.inj heq).2).1 hfirst
  · next heq => exact absurd (List.cons.inj (List.cons.inj heq).2).1 hfirst
  · next heq =>
    obtain ⟨-, htail⟩ := List.cons.inj heq
    rw [htail]
  · next hother => exact absurd rfl (hother first rest)

theorem word_alone {text : Bytes} (hopen : progress.optionsEnded = false)
    (halone : StandsAlone text) :
    progress.word text = match progress.pending with
      | .awaiting option => .ok { progress with pending := .value option text }
      | _ => progress.plain text := by
  have hhead (b : UInt8) (rest : Bytes) : text ≠ dash :: b :: rest := by
    rintro rfl
    rcases halone with halone | halone
    · exact absurd halone (by simp)
    · exact halone rfl
  unfold word
  rw [if_neg (by simp [hopen])]
  split
  · exact absurd rfl (hhead _ _)
  · exact absurd rfl (hhead _ _)
  · exact absurd rfl (hhead _ _)
  · rfl

theorem Reached.not_awaiting {said : List Item} (h : progress.Reached said) (option : Valued) :
    progress.pending ≠ .awaiting option := by
  intro hpending
  obtain ⟨settled, hsettle, -⟩ := h
  simp only [settle, hpending, reject] at hsettle
  exact absurd hsettle (by simp)

theorem equals_not_mem_flagName (chosen : Flag) : equals ∉ ascii chosen.name := by
  cases chosen <;> decide

theorem ofName?_flag (chosen : Flag) :
    Choice.ofName? (ascii chosen.name) = some (.flag chosen) := by
  cases chosen <;> decide +kernel

theorem long_flag (chosen : Flag) :
    progress.long (ascii chosen.name) = progress.acceptFlag chosen := by
  simp only [long, Bytes.cutAt_of_not_mem (equals_not_mem_flagName chosen), ofName?_flag]

theorem equals_not_mem_name (option : Valued) : equals ∉ ascii option.name := by
  cases option <;> decide

theorem ofName?_valued (option : Valued) :
    Choice.ofName? (ascii option.name) = some (.valued option) := by
  cases option <;> decide +kernel

theorem long_attached (option : Valued) (text : Bytes) :
    progress.long (ascii option.name ++ equals :: text) =
      progress.acceptAttached option text := by
  simp only [long, Bytes.cutAt_append (equals_not_mem_name option), ofName?_valued]

theorem long_detached (option : Valued) :
    progress.long (ascii option.name) = progress.acceptDetached option := by
  simp only [long, Bytes.cutAt_of_not_mem (equals_not_mem_name option), ofName?_valued]

theorem ofLetter?_flag {chosen : Flag} {letter : UInt8}
    (h : chosen.letter?.map Char.toUInt8 = some letter) :
    Choice.ofLetter? letter = some (.flag chosen) := by
  cases chosen with
  | strict => exact absurd h (by simp [Flag.letter?])
  | _ =>
      obtain rfl := Option.some.inj h
      decide

theorem ofLetter?_valued (option : Valued) :
    Choice.ofLetter? option.letter.toUInt8 = some (.valued option) := by
  cases option <;> decide

theorem cluster_equals (option : Valued) (text : Bytes) :
    progress.cluster (option.letter.toUInt8 :: equals :: text) =
      progress.acceptAttached option text := by
  rw [cluster, ofLetter?_valued]
  simp only [if_true]

theorem cluster_attached (option : Valued) {text : Bytes} (some_text : text ≠ [])
    (plain : text.head? ≠ some equals) :
    progress.cluster (option.letter.toUInt8 :: text) = progress.acceptAttached option text := by
  obtain ⟨b, rest, rfl⟩ := List.exists_cons_of_ne_nil some_text
  have hb : b ≠ equals := fun heq => plain (congrArg some heq)
  rw [cluster, ofLetter?_valued]
  simp only [if_neg hb]

theorem cluster_detached (option : Valued) :
    progress.cluster [option.letter.toUInt8] = progress.acceptDetached option := by
  rw [cluster, ofLetter?_valued]

theorem ne_dash_of_ofLetter? {letter : UInt8} {choice : Choice}
    (h : Choice.ofLetter? letter = some choice) : letter ≠ dash := by
  rintro rfl
  have hnone : Choice.ofLetter? dash = none := by decide
  exact absurd (hnone.symm.trans h) (by simp)

end

theorem not_mem_of_nodup {said rest : List Item} {item : Item}
    (h : ((said ++ item :: rest).map Item.choice?).Nodup) :
    item.choice? ∉ said.map Item.choice? := by
  rw [List.map_append, List.map_cons, List.nodup_append] at h
  intro hmem
  exact h.2.2 _ hmem _ List.mem_cons_self rfl

/-- The letters of flags in front of anything else in a cluster. -/
theorem Reached.cluster_append {flags : List Flag} {letters : Bytes}
    (spelled : Letters flags letters) (rest : Bytes) {progress : Progress} {said : List Item}
    (h : progress.Reached said) (hopen : progress.optionsEnded = false)
    (once : ((said ++ flags.map Item.flag).map Item.choice?).Nodup) :
    ∃ next : Progress, progress.cluster (letters ++ rest) = next.cluster rest ∧
      next.Reached (said ++ flags.map Item.flag) ∧ next.optionsEnded = false := by
  induction spelled generalizing progress said with
  | nil => exact ⟨progress, rfl, by simpa using h, hopen⟩
  | @cons chosen letter flags letters hletter spelled ih =>
      obtain ⟨next, haccept, hreached, hsame⟩ := h.acceptFlag (not_mem_of_nodup once)
      rw [List.map_cons, List.append_cons] at once ⊢
      obtain ⟨last, hrest, hlast⟩ := ih hreached (hsame.trans hopen) once
      refine ⟨last, ?_, hlast⟩
      rw [List.cons_append, cluster, ofLetter?_flag hletter]
      simp only [haccept, bind, Except.bind]
      exact hrest

/-- A word that begins with the letters of flags, and does not begin with two dashes. -/
theorem Reached.word_letters {flags : List Flag} {letters rest : Bytes}
    (spelled : Letters flags letters) (hne : letters ++ rest ≠ [])
    (hrest : rest.head? ≠ some dash) {progress : Progress} {said : List Item}
    (h : progress.Reached said) (hopen : progress.optionsEnded = false)
    (once : ((said ++ flags.map Item.flag).map Item.choice?).Nodup) :
    ∃ next : Progress, progress.word (dash :: (letters ++ rest)) = next.cluster rest ∧
      next.Reached (said ++ flags.map Item.flag) ∧ next.optionsEnded = false := by
  obtain ⟨next, hcluster, hnext⟩ := h.cluster_append spelled rest hopen once
  refine ⟨next, ?_, hnext⟩
  rw [← hcluster]
  cases spelled with
  | nil =>
      cases rest with
      | nil => exact absurd rfl hne
      | cons b others => exact word_cluster hopen fun heq => hrest (congrArg some heq)
  | cons hletter spelled =>
      exact word_cluster hopen (ne_dash_of_ofLetter? (ofLetter?_flag hletter))

/-- A cluster with an option at its end: the flags first, then what follows the letter of
the option. -/
theorem Reached.word_option {flags : List Flag} {letters : Bytes}
    (spelled : Letters flags letters) (option : Valued) (text tail : Bytes)
    {progress : Progress} {said : List Item} (h : progress.Reached said)
    (hopen : progress.optionsEnded = false)
    (once : ((said ++ (flags.map Item.flag ++ [Item.value option text])).map
      Item.choice?).Nodup) :
    ∃ next : Progress, progress.word (dash :: (letters ++ option.letter.toUInt8 :: tail)) =
        next.cluster (option.letter.toUInt8 :: tail) ∧
      next.Reached (said ++ flags.map Item.flag) ∧ next.optionsEnded = false ∧
        some (.valued option) ∉ (said ++ flags.map Item.flag).map Item.choice? := by
  rw [← List.append_assoc] at once
  have hfresh := not_mem_of_nodup once
  rw [List.map_append, List.nodup_append] at once
  have hdash : option.letter.toUInt8 ≠ dash := ne_dash_of_ofLetter? (ofLetter?_valued option)
  have hne : letters ++ option.letter.toUInt8 :: tail ≠ [] := by simp
  obtain ⟨next, hword, hreached, hnext⟩ :=
    h.word_letters spelled hne (by simpa using hdash) hopen once.1
  exact ⟨next, hword, hreached, hnext, hfresh⟩

/-- The word that is the value of a waiting option. -/
theorem word_value {waiting : Progress} {option : Valued} {text : Bytes}
    (hpending : waiting.pending = .awaiting option) (hopen : waiting.optionsEnded = false)
    (alone : StandsAlone text) :
    waiting.word text = .ok { waiting with pending := .value option text } := by
  simp only [word_alone hopen alone, hpending]

theorem foldlM_word {progress next : Progress} {text : Bytes} (h : progress.word text = .ok next) :
    [text].foldlM word progress = .ok next := by
  rw [List.foldlM_cons, h]
  rfl

theorem foldlM_two_words {progress middle next : Progress} {first second : Bytes}
    (h : progress.word first = .ok middle) (k : middle.word second = .ok next) :
    [first, second].foldlM word progress = .ok next := by
  rw [List.foldlM_cons, h]
  exact foldlM_word k

/-- A phrase adds its items to those that have been said. -/
theorem Reached.phrase {items : List Item} {words : List Bytes} (spelled : Phrase items words)
    {progress : Progress} {said : List Item} (h : progress.Reached said)
    (hopen : progress.optionsEnded = false)
    (once : ((said ++ items).map Item.choice?).Nodup) (accepted : ∀ item ∈ items, item.Accepted) :
    ∃ next, words.foldlM word progress = .ok next ∧ next.Reached (said ++ items) ∧
      next.optionsEnded = false := by
  cases spelled with
  | name chosen =>
      obtain ⟨next, haccept, hreached, hsame⟩ := h.acceptFlag (not_mem_of_nodup once)
      have hne : ascii chosen.name ≠ [] := by cases chosen <;> decide
      refine ⟨next, foldlM_word ?_, hreached, hsame.trans hopen⟩
      rw [longWord, word_long hopen hne, long_flag, haccept]
  | nameAttached option text =>
      have haccepted := accepted _ List.mem_cons_self
      obtain ⟨next, haccept, hreached, hsame⟩ := h.acceptAttached (not_mem_of_nodup once) haccepted
      refine ⟨next, foldlM_word ?_, hreached, hsame.trans hopen⟩
      rw [longWord, List.append_assoc, word_long hopen (by simp), long_attached, haccept]
  | nameDetached option alone =>
      have haccepted := accepted _ List.mem_cons_self
      obtain ⟨waiting, haccept, hpending, hsame, hreached⟩ :=
        h.acceptDetached (not_mem_of_nodup once) haccepted
      have hne : ascii option.name ≠ [] := by cases option <;> decide
      have hvalue := word_value hpending (hsame.trans hopen) alone
      refine ⟨_, foldlM_two_words ?_ hvalue, hreached, hsame.trans hopen⟩
      rw [longWord, word_long hopen hne, long_detached, haccept]
  | @cluster flags letters spelled some_flag =>
      have hne : letters ++ [] ≠ [] := by
        rw [List.append_nil]
        rintro rfl
        cases spelled
        exact some_flag rfl
      obtain ⟨next, hword, hreached, hnext⟩ := h.word_letters spelled hne (by simp) hopen once
      rw [List.append_nil] at hword
      exact ⟨next, foldlM_word hword, hreached, hnext⟩
  | clusterEquals spelled option text =>
      obtain ⟨next, hword, hreached, hnext, hfresh⟩ :=
        h.word_option spelled option text (equals :: text) hopen once
      obtain ⟨last, haccept, hlast, hsame⟩ :=
        hreached.acceptAttached hfresh (accepted (.value option text) (by simp))
      rw [List.append_assoc] at hlast
      refine ⟨last, foldlM_word ?_, hlast, hsame.trans hnext⟩
      rw [hword, cluster_equals, haccept]
  | @clusterAttached flags letters spelled option text some_text plain =>
      obtain ⟨next, hword, hreached, hnext, hfresh⟩ :=
        h.word_option spelled option text text hopen once
      obtain ⟨last, haccept, hlast, hsame⟩ :=
        hreached.acceptAttached hfresh (accepted (.value option text) (by simp))
      rw [List.append_assoc] at hlast
      refine ⟨last, foldlM_word ?_, hlast, hsame.trans hnext⟩
      rw [hword, cluster_attached option some_text plain, haccept]
  | @clusterDetached flags letters spelled option text alone =>
      obtain ⟨next, hword, hreached, hnext, hfresh⟩ :=
        h.word_option spelled option text [] hopen once
      obtain ⟨waiting, haccept, hpending, hsame, hlast⟩ :=
        hreached.acceptDetached hfresh (accepted (.value option text) (by simp))
      rw [List.append_assoc] at hlast
      have hvalue := word_value hpending (hsame.trans hnext) alone
      refine ⟨_, foldlM_two_words ?_ hvalue, hlast, hsame.trans hnext⟩
      rw [hword, cluster_detached, haccept]
  | source alone =>
      have hpath : _ ≠ [] := accepted _ List.mem_cons_self
      obtain ⟨next, hplain, hreached, hsame⟩ := h.plain (not_mem_of_nodup once) hpath
      have hword := word_alone hopen alone
      split at hword
      · next option hpending => exact absurd hpending (h.not_awaiting option)
      · exact ⟨next, foldlM_word (hword.trans hplain), hreached, hsame.trans hopen⟩

/-- All the phrases of a spelling, one after the other. -/
theorem Reached.spelling {items : List Item} {words : List Bytes} (spelled : Spelling items words)
    {progress : Progress} {said : List Item} (h : progress.Reached said)
    (hopen : progress.optionsEnded = false)
    (once : ((said ++ items).map Item.choice?).Nodup) (accepted : ∀ item ∈ items, item.Accepted) :
    ∃ next, words.foldlM word progress = .ok next ∧ next.Reached (said ++ items) := by
  induction spelled generalizing progress said with
  | done => exact ⟨progress, rfl, by simpa using h⟩
  | last path =>
      have hpath : path ≠ [] := accepted _ List.mem_cons_self
      obtain ⟨next, hplain, hreached, -⟩ := h.ended.plain (not_mem_of_nodup once) hpath
      have hdashes := word_dashes hopen
      have hlast : progress.ended.word path = .ok next := by
        unfold word
        rw [if_pos (show progress.ended.optionsEnded = true from rfl), hplain]
      exact ⟨next, foldlM_two_words hdashes hlast, hreached⟩
  | @phrase items rest words more first others ih =>
      rw [← List.append_assoc] at once ⊢
      have hfirst : ((said ++ items).map Item.choice?).Nodup := by
        rw [List.map_append, List.nodup_append] at once
        exact once.1
      obtain ⟨next, hwords, hreached, hnext⟩ := h.phrase first hopen hfirst fun item hitem =>
        accepted item (List.mem_append_left _ hitem)
      obtain ⟨last, hmore, hlast⟩ := ih hreached hnext once fun item hitem =>
        accepted item (List.mem_append_right _ hitem)
      refine ⟨last, ?_, hlast⟩
      rw [List.foldlM_append, hwords]
      exact hmore

end Progress

theorem reached_start : Progress.Reached {} [] :=
  Progress.Settled.reached ⟨rfl, by simp [ofItems], by simp, by simp⟩

/-- Every valid invocation can be asked for, and whatever way is chosen to ask for it, the
reading gives the invocation back. -/
theorem spellings_read_back (invocation : Invocation) (valid : invocation.Valid) :
    (∃ words, Spells invocation words) ∧
      ∀ words, Spells invocation words → read words = .ok invocation := by
  refine ⟨exists_spells invocation, ?_⟩
  rintro words ⟨items, lists, spelled⟩
  obtain ⟨last, hwords, settled, hsettle, hsettled, -⟩ :=
    reached_start.spelling spelled rfl lists.once (lists.accepted valid)
  have hinvocation : settled.invocation = invocation :=
    hsettled.invocation.trans lists.ofItems_eq
  simp only [read, hwords, bind, Except.bind, Progress.finish, hsettle, hinvocation,
    valid.compatible_eq, valid.asks_eq]
  rfl

/-- A cluster that waits for an empty value, a value that begins with an equals sign, a
dash for a value, a signed numeral and a source that looks like an option. -/
theorem crowded_spelling_read_back :
    let invocation : Invocation := {
      has := fun chosen => decide (chosen ∈ [.forceFlush, .debug, .outputDefault])
      source := some (ascii "--help")
      output := some (ascii "-")
      size := 7
      copyright := some []
      versionString := some (ascii "=1") }
    let words := ["-FdC", "", "--output-default", "-V==1", "-o", "-", "-s+07", "--", "--help"]
    invocation.Valid ∧ Spells invocation (words.map ascii) ∧
      read (words.map ascii) = .ok invocation := by
  intro invocation words
  have valid : invocation.Valid := ⟨by decide, by decide, by decide, .inl rfl⟩
  have lists : Lists invocation [.flag .forceFlush, .flag .debug, .value .copyright [],
      .flag .outputDefault, .value .versionString (ascii "=1"), .value .output (ascii "-"),
      .value .size (ascii "+07"), .source (ascii "--help")] := by
    refine ⟨by decide, ?_, ?_, ?_, ?_, ?_, ?_, ?_⟩
    · intro chosen
      simp [invocation]
    · simp [invocation, eq_comm]
    · simp [invocation, eq_comm]
    · simp [invocation, eq_comm]
    · simp [invocation, eq_comm]
    · intro text htext
      obtain rfl : text = ascii "+07" := by simpa using htext
      exact ⟨ascii "+", ascii "07", rfl, .inr rfl, by decide, List.all_eq_true.mp (by decide),
        by decide⟩
    · intro hsize
      exact absurd (by simp) (hsize (ascii "+07"))
  have letters : Letters [.forceFlush, .debug] (ascii "Fd") := .cons rfl (.cons rfl .nil)
  have spelled : Spells invocation (words.map ascii) := by
    refine ⟨_, lists, ?_⟩
    exact .phrase (.clusterDetached letters .copyright (.inr (by decide)))
      (.phrase (.name .outputDefault)
      (.phrase (.clusterEquals .nil .versionString (ascii "=1"))
      (.phrase (.clusterDetached .nil .output (.inl rfl))
      (.phrase (.clusterAttached .nil .size (by decide) (by decide)) (.last (ascii "--help"))))))
  exact ⟨valid, spelled, (spellings_read_back invocation valid).2 _ spelled⟩

end Invocation

end BrainfuckCompiler
