import BrainfuckCompiler.Proofs.Invocation.Rejection

/-!
# Exchanging the number of cells

Two command lines that differ in the value of the option for the number of cells are read side
by side. An attached value is taken over at once, one in a word of its own when the next option
or source is accepted; from then on the two readers differ in that number and in nothing else.
So a command line that is accepted with one number is accepted with any other, and what it asks
for is the same but for the number.
-/
namespace BrainfuckCompiler.Invocation
open FileStore (bind_eq_ok)

/-- A way to give an option its value: behind its long name or its letter, attached or in the
next word. Letters of flags can stand in front of the letter. -/
inductive Way where
  | nameAttached
  | nameDetached
  | letterEquals (flags : List Flag)
  | letterAttached (flags : List Flag)
  | letterDetached (flags : List Flag)
  deriving DecidableEq, Repr

namespace Way

/-- The letters of the flags that have one. -/
def letters (flags : List Flag) : Bytes :=
  flags.filterMap fun chosen => chosen.letter?.map Char.toUInt8

def words (option : Valued) (text : Bytes) : Way → List Bytes
  | .nameAttached => [longWord option.name ++ equals :: text]
  | .nameDetached => [longWord option.name, text]
  | .letterEquals flags => [dash :: (letters flags ++ option.letter.toUInt8 :: equals :: text)]
  | .letterAttached flags => [dash :: (letters flags ++ option.letter.toUInt8 :: text)]
  | .letterDetached flags => [dash :: (letters flags ++ [option.letter.toUInt8]), text]

/-- A value right behind the letter is not empty, and an equals sign in front would not be part
of it. -/
def Fits (text : Bytes) : Way → Prop
  | .letterAttached _ => text ≠ [] ∧ text.head? ≠ some equals
  | _ => True

end Way

theorem Numeral.standsAlone {text : Bytes} {n : UInt64} (h : Numeral text n) :
    StandsAlone text := by
  obtain ⟨sign, digits, rfl, hsign, hne, hdigits, -⟩ := h
  refine .inr ?_
  rcases hsign with rfl | rfl
  · obtain ⟨b, rest, rfl⟩ := List.exists_cons_of_ne_nil hne
    rintro ⟨⟩
    exact absurd (hdigits dash List.mem_cons_self) (by decide)
  · change some 0x2b ≠ some dash
    decide

namespace Progress

/-- The state with another number of cells. -/
def resized (n : UInt64) (progress : Progress) : Progress :=
  { progress with invocation := { progress.invocation with size := n } }

/-- The second reader has been given the number `n` where the first has been given another:
either both have taken over their numbers, or both are still to look at them. -/
inductive Differ (n : UInt64) : Progress → Progress → Prop
  | taken {progress : Progress} (given : .valued .size ∈ progress.given) :
      Differ n progress (progress.resized n)
  | waiting (progress : Progress) (other : Bytes) {text : Bytes} (own : Numeral text n) :
      Differ n { progress with pending := .value .size other }
        { progress with pending := .value .size text }

/-- The second reader ends up with the number `n` where the first ends up with another, and
neither takes over a number any more. -/
structure Resizes (n : UInt64) (next : Progress) (result : Except Stop Progress) : Prop where
  eq_ok : result = .ok (next.resized n)
  given : .valued .size ∈ next.given

section
variable {n : UInt64} {progress next first second : Progress}

theorem note_resized {choice : Choice} (hok : progress.note choice = .ok next) :
    (progress.resized n).note choice = .ok (next.resized n) := by
  obtain ⟨fresh, rfl⟩ := note_cases hok
  exact if_neg fresh

/-- What becomes of the state does not depend on the number that is taken over. -/
theorem assign_size {other text : Bytes} (hok : progress.assign .size other = .ok next)
    (numeral : Numeral text n) : Resizes n next (progress.assign .size text) := by
  obtain ⟨noted, hnote, hok⟩ := bind_eq_ok hok
  obtain ⟨stored, hstore, hok⟩ := bind_eq_ok hok
  obtain rfl := Except.ok.inj hok
  have hsize : stored = { noted.invocation with size := stored.size } := by
    simp only [store] at hstore
    split at hstore
    · split at hstore
      · rw [← Except.ok.inj hstore]
      · cases hstore
    · cases hstore
  have own : store noted.invocation text .size = .ok { noted.invocation with size := n } := by
    simp only [store, numeral.ascii.isValid, numeral.read?, if_true]
  refine ⟨?_, ?_⟩
  · simp only [assign, hnote, own, bind, Except.bind]
    rw [resized, hsize]
    rfl
  · rw [(note_cases hnote).2]
    exact List.mem_cons_self

/-- Where the number has been taken over, nothing else is stored in its place. -/
theorem assign_resized {option : Valued} {text : Bytes} (given : .valued .size ∈ progress.given)
    (hok : progress.assign option text = .ok next) :
    Resizes n next ((progress.resized n).assign option text) := by
  obtain ⟨noted, hnote, hok⟩ := bind_eq_ok hok
  obtain ⟨stored, hstore, hok⟩ := bind_eq_ok hok
  obtain rfl := Except.ok.inj hok
  have noted_resized := note_resized (n := n) hnote
  obtain ⟨fresh, rfl⟩ := note_cases hnote
  have another : store { progress.invocation with size := n } text option =
      .ok { stored with size := n } := by
    cases option with
    | size => exact absurd given fresh
    | output =>
        simp only [store] at hstore ⊢
        split at hstore
        · cases hstore
        · next hne =>
          obtain rfl := Except.ok.inj hstore
          rw [if_neg hne]
    | copyright =>
        obtain rfl := Except.ok.inj hstore
        rfl
    | versionString =>
        obtain rfl := Except.ok.inj hstore
        rfl
  refine ⟨?_, List.mem_cons_of_mem _ given⟩
  simp only [assign, noted_resized, bind, Except.bind]
  simp only [resized, another]
  rfl

theorem Differ.settle (h : Differ n first second) (hok : first.settle = .ok next) :
    Resizes n next second.settle := by
  cases h with
  | taken given =>
      unfold Progress.settle at hok ⊢
      dsimp only [resized] at hok ⊢
      split at hok
      · obtain rfl := Except.ok.inj hok
        exact ⟨rfl, given⟩
      · cases hok
      · exact @assign_resized n { first with pending := .nothing } _ _ _ given hok
      · split at hok
        · cases hok
        · next hpath =>
          obtain rfl := Except.ok.inj hok
          exact ⟨if_neg hpath, given⟩
  | waiting progress other own =>
      exact @assign_size n { progress with pending := .nothing } _ _ _ hok own

/-- Whatever both do after they have looked at the last word. -/
theorem Differ.bind_settle {continuation : Progress → Except Stop Progress}
    (h : Differ n first second)
    (commutes : ∀ settled, .valued .size ∈ settled.given → ∀ last,
      continuation settled = .ok last → Resizes n last (continuation (settled.resized n)))
    (hok : (first.settle >>= continuation) = .ok next) :
    Resizes n next (second.settle >>= continuation) := by
  obtain ⟨settled, hsettle, hok⟩ := bind_eq_ok hok
  obtain ⟨hsecond, given⟩ := h.settle hsettle
  rw [hsecond]
  exact commutes settled given next hok

theorem Differ.acceptFlag {chosen : Flag} (h : Differ n first second)
    (hok : first.acceptFlag chosen = .ok next) :
    Resizes n next (second.acceptFlag chosen) := by
  refine h.bind_settle (fun settled given last hlast => ?_) hok
  obtain ⟨noted, hnote, hlast⟩ := bind_eq_ok hlast
  obtain rfl := Except.ok.inj hlast
  rw [note_resized hnote]
  obtain ⟨-, rfl⟩ := note_cases hnote
  exact ⟨rfl, List.mem_cons_of_mem _ given⟩

theorem Differ.acceptAttached {option : Valued} {text : Bytes} (h : Differ n first second)
    (hok : first.acceptAttached option text = .ok next) :
    Resizes n next (second.acceptAttached option text) :=
  h.bind_settle (fun _ given _ hlast => assign_resized given hlast) hok

theorem Differ.acceptDetached {option : Valued} (h : Differ n first second)
    (hok : first.acceptDetached option = .ok next) :
    Resizes n next (second.acceptDetached option) := by
  refine h.bind_settle (fun settled given last hlast => ?_) hok
  obtain rfl := Except.ok.inj hlast
  exact ⟨rfl, given⟩

theorem Differ.sourceSeen (h : Differ n first second) : second.sourceSeen = first.sourceSeen := by
  cases h <;> rfl

theorem Differ.optionsEnded (h : Differ n first second) :
    second.optionsEnded = first.optionsEnded := by
  cases h <;> rfl

theorem Differ.ended (h : Differ n first second) : Differ n first.ended second.ended := by
  cases h with
  | taken given => exact .taken given
  | waiting progress other own => exact .waiting progress.ended other own

theorem Differ.plain {path : Bytes} (h : Differ n first second)
    (hok : first.plain path = .ok next) : Resizes n next (second.plain path) := by
  obtain ⟨unseen, settled, hsettle, rfl⟩ := plain_cases hok
  obtain ⟨hsecond, given⟩ := h.settle hsettle
  refine ⟨?_, given⟩
  simp only [Progress.plain, h.sourceSeen, unseen, hsecond, bind, Except.bind]
  rfl

theorem Differ.long {name : Bytes} (h : Differ n first second)
    (hok : first.long name = .ok next) : Resizes n next (second.long name) := by
  rcases long_cases hok with ⟨_, rfl, haccept⟩ | ⟨_, _, rfl, haccept⟩ | ⟨_, rfl, haccept⟩
  · rw [long_flag]
    exact h.acceptFlag haccept
  · rw [long_attached]
    exact h.acceptAttached haccept
  · rw [long_detached]
    exact h.acceptDetached haccept

theorem Differ.cluster {letters : Bytes} (h : Differ n first second) (hne : letters ≠ [])
    (hok : first.cluster letters = .ok next) : Resizes n next (second.cluster letters) := by
  induction letters generalizing first second with
  | nil => exact absurd rfl hne
  | cons letter rest ih =>
      rw [Progress.cluster] at hok ⊢
      split at hok
      · cases hok
      · obtain ⟨accepted, haccept, hok⟩ := bind_eq_ok hok
        obtain ⟨hsecond, given⟩ := h.acceptFlag haccept
        rw [hsecond]
        cases rest with
        | nil =>
            obtain rfl := Except.ok.inj hok
            exact ⟨rfl, given⟩
        | cons letter others => exact ih (.taken given) (by simp) hok
      · obtain ⟨settled, -, hok⟩ := bind_eq_ok hok
        cases hok
      · split at hok
        · exact h.acceptDetached hok
        · exact h.acceptAttached hok

/-- One word for both readers. -/
theorem Differ.word {text : Bytes} (h : Differ n first second)
    (hok : first.word text = .ok next) :
    ∃ other, second.word text = .ok other ∧ Differ n next other := by
  have taken {result : Except Stop Progress}
      (hresult : Resizes n next result) : ∃ other, result = .ok other ∧ Differ n next other :=
    ⟨_, hresult.eq_ok, .taken hresult.given⟩
  cases hended : first.optionsEnded with
  | true =>
      rw [word_of_ended hended] at hok
      rw [word_of_ended (h.optionsEnded.trans hended)]
      exact taken (h.plain hok)
  | false =>
      have hopen := h.optionsEnded.trans hended
      rcases word_kinds text with
        rfl | ⟨name, hname, rfl⟩ | ⟨letter, rest, hletter, rfl⟩ | alone
      · rw [word_dashes hended] at hok
        rw [word_dashes hopen]
        obtain rfl := Except.ok.inj hok
        exact ⟨_, rfl, h.ended⟩
      · rw [word_long hended hname] at hok
        rw [word_long hopen hname]
        exact taken (h.long hok)
      · rw [word_cluster hended hletter] at hok
        rw [word_cluster hopen hletter]
        exact taken (h.cluster (by simp) hok)
      · rw [word_alone hended alone] at hok
        rw [word_alone hopen alone]
        -- only readers that have taken over their numbers can wait for another value
        cases h with
        | taken given =>
            dsimp only [resized]
            split at hok
            · obtain rfl := Except.ok.inj hok
              exact ⟨_, rfl, .taken given⟩
            · exact taken (Differ.plain (.taken given) hok)
        | waiting progress other own => exact taken (Differ.plain (.waiting progress other own) hok)

theorem Differ.finish {invocation : Invocation} (h : Differ n first second)
    (hok : first.finish = .ok invocation) :
    second.finish = .ok { invocation with size := n } := by
  obtain ⟨settled, hsettle, hok⟩ := bind_eq_ok hok
  unfold Progress.finish
  rw [(h.settle hsettle).eq_ok]
  dsimp only at hok
  split at hok
  · cases hok
  next compatible =>
  split at hok
  · cases hok
  next asks =>
  obtain rfl := Except.ok.inj hok
  have same : Progress.compatible (settled.resized n).invocation =
      Progress.compatible settled.invocation := rfl
  simp only [bind, Except.bind, same, if_neg compatible]
  exact if_neg asks

theorem Accepts.of_cons {text : Bytes} {rest : List Bytes} {invocation : Invocation}
    (hword : progress.word text = .ok next) (h : next.Accepts rest invocation) :
    progress.Accepts (text :: rest) invocation := by
  unfold Accepts at h ⊢
  rw [List.foldlM_cons, hword]
  exact h

/-- All that follows for both readers. -/
theorem Differ.accepts {words : List Bytes} {invocation : Invocation} (h : Differ n first second)
    (accepts : first.Accepts words invocation) :
    second.Accepts words { invocation with size := n } := by
  induction words generalizing first second with
  | nil => exact h.finish accepts
  | cons text rest ih =>
      obtain ⟨next, hword, hrest⟩ := accepts.cons
      obtain ⟨other, hother, hdiffer⟩ := h.word hword
      exact .of_cons hother (ih hdiffer hrest)

end

section
variable {progress : Progress}

theorem rejected_assign {text : Bytes} (h : ∀ n, ¬ Numeral text n) :
    Rejected (progress.assign .size text) := by
  rw [assign, note]
  split
  · exact ⟨_, rfl⟩
  · change Rejected (store progress.invocation text .size >>= _)
    refine Rejected.bind ?_ _
    simp only [store]
    split
    · split
      · next n hn => exact absurd (numeral_of_read? hn) (h n)
      · exact ⟨_, rfl⟩
    · exact ⟨_, rfl⟩

/-- The letters of flags come before what follows them in a cluster. -/
theorem cluster_letters (flags : List Flag) (progress : Progress) :
    ∃ reached : Except Stop Progress, ∀ rest,
      progress.cluster (Way.letters flags ++ rest) = reached >>= (cluster · rest) := by
  induction flags generalizing progress with
  | nil => exact ⟨.ok progress, fun _ => rfl⟩
  | cons chosen flags ih =>
      cases hletter : chosen.letter?.map Char.toUInt8 with
      | none =>
          have hskip : Way.letters (chosen :: flags) = Way.letters flags := by
            simp [Way.letters, hletter]
          rw [hskip]
          exact ih progress
      | some letter =>
          have hcons : Way.letters (chosen :: flags) = letter :: Way.letters flags := by
            simp [Way.letters, hletter]
          have hfirst (rest : Bytes) : progress.cluster (Way.letters (chosen :: flags) ++ rest) =
              progress.acceptFlag chosen >>= (cluster · (Way.letters flags ++ rest)) := by
            rw [hcons, List.cons_append, cluster, ofLetter?_flag hletter]
          cases haccept : progress.acceptFlag chosen with
          | error stop =>
              refine ⟨.error stop, fun rest => ?_⟩
              rw [hfirst, haccept]
              rfl
          | ok accepted =>
              obtain ⟨reached, hreached⟩ := ih accepted
              refine ⟨reached, fun rest => ?_⟩
              rw [hfirst, haccept, ← hreached]
              rfl

theorem word_letters (hopen : progress.optionsEnded = false) (flags : List Flag)
    (option : Valued) (tail : Bytes) :
    progress.word (dash :: (Way.letters flags ++ option.letter.toUInt8 :: tail)) =
      progress.cluster (Way.letters flags ++ option.letter.toUInt8 :: tail) := by
  cases hletters : Way.letters flags with
  | nil => exact word_cluster hopen (ne_dash_of_ofLetter? (ofLetter?_valued option))
  | cons letter rest =>
      have hmem : letter ∈ Way.letters flags := hletters ▸ List.mem_cons_self
      obtain ⟨chosen, -, hletter⟩ := List.mem_filterMap.mp hmem
      exact word_cluster hopen (ne_dash_of_ofLetter? (ofLetter?_flag hletter))

/-- A value is taken over at once if it is attached. -/
def Attaches (way : Way) (option : Valued) (progress : Progress) : Prop :=
  ∃ reached : Except Stop Progress, ∀ text, way.Fits text →
    (way.words option text).foldlM word progress = reached >>= (·.acceptAttached option text)

/-- A value that is not attached is the next word for a reader that waits for it. -/
def Detaches (way : Way) (option : Valued) (progress : Progress) : Prop :=
  ∃ reached : Except Stop Progress,
    (∀ waiting, reached = .ok waiting →
      waiting.pending = .awaiting option ∧ waiting.optionsEnded = false) ∧
    ∀ text rest, (way.words option text ++ rest).foldlM word progress =
      reached >>= ((text :: rest).foldlM word ·)

theorem attaches_or_detaches (way : Way) (option : Valued)
    (hopen : progress.optionsEnded = false) :
    Attaches way option progress ∨ Detaches way option progress := by
  have waits {reading waiting : Progress} (hok : reading.acceptDetached option = .ok waiting) :
      waiting.pending = .awaiting option := by
    obtain ⟨settled, -, hok⟩ := bind_eq_ok hok
    rw [← Except.ok.inj hok]
  cases way with
  | nameAttached =>
      refine .inl ⟨.ok progress, fun text _ => ?_⟩
      rw [Way.words, List.foldlM_cons, longWord, List.append_assoc,
        word_long hopen (by simp), long_attached]
      exact bind_pure _
  | nameDetached =>
      refine .inr ⟨progress.acceptDetached option, fun waiting hok => ?_, fun text rest => ?_⟩
      · exact ⟨waits hok, (acceptDetached_keeps hok).trans hopen⟩
      · have hne : ascii option.name ≠ [] := by cases option <;> decide
        rw [Way.words, List.cons_append, List.foldlM_cons, longWord, word_long hopen hne,
          long_detached]
        rfl
  | letterEquals flags =>
      obtain ⟨reached, hreached⟩ := cluster_letters flags progress
      refine .inl ⟨reached, fun text _ => ?_⟩
      rw [Way.words, List.foldlM_cons, word_letters hopen, hreached]
      simp only [cluster_equals]
      exact bind_pure _
  | letterAttached flags =>
      obtain ⟨reached, hreached⟩ := cluster_letters flags progress
      refine .inl ⟨reached, fun text fits => ?_⟩
      rw [Way.words, List.foldlM_cons, word_letters hopen, hreached]
      simp only [cluster_attached option fits.1 fits.2]
      exact bind_pure _
  | letterDetached flags =>
      obtain ⟨reached, hreached⟩ := cluster_letters flags progress
      have hcluster : progress.cluster (Way.letters flags ++ [option.letter.toUInt8]) =
          reached >>= (·.acceptDetached option) := by
        simp only [hreached, cluster_detached]
      refine .inr ⟨reached >>= (·.acceptDetached option), fun waiting hok => ?_,
        fun text rest => ?_⟩
      · rw [← hcluster] at hok
        refine ⟨?_, (cluster_keeps hok).trans hopen⟩
        rw [hcluster] at hok
        obtain ⟨reading, -, hok⟩ := bind_eq_ok hok
        exact waits hok
      · rw [Way.words, List.cons_append, List.foldlM_cons, word_letters hopen, hcluster]
        rfl

/-- The rest of the words with another value, which is either a number or none. -/
def Exchanges (progress : Progress) (words : List Bytes) (text : Bytes) (one : Invocation) : Prop :=
  (∀ n, Numeral text n → progress.Accepts words { one with size := n }) ∧
    ((∀ n, ¬ Numeral text n) → Rejected (words.foldlM word progress >>= finish))

variable {way : Way} {text other : Bytes} {back : List Bytes} {one : Invocation}

theorem Attaches.exchanges (h : Attaches way .size progress) (fits : way.Fits text)
    (others : way.Fits other) (accepts : progress.Accepts (way.words .size other ++ back) one) :
    progress.Exchanges (way.words .size text ++ back) text one := by
  obtain ⟨reached, hreached⟩ := h
  have hread (value : Bytes) (hfits : way.Fits value) :
      (way.words .size value ++ back).foldlM word progress >>= finish =
        reached >>= fun reading => reading.settle >>= fun settled =>
          settled.assign .size value >>= (back.foldlM word · >>= finish) := by
    rw [List.foldlM_append, hreached value hfits]
    simp only [bind_assoc, acceptAttached]
  unfold Accepts at accepts
  rw [hread other others] at accepts
  obtain ⟨reading, rfl, hrest⟩ := bind_eq_ok accepts
  obtain ⟨settled, hsettle, hrest⟩ := bind_eq_ok hrest
  obtain ⟨taken, hassign, hrest⟩ := bind_eq_ok hrest
  refine ⟨fun n numeral => ?_, fun none => ?_⟩
  · obtain ⟨hown, given⟩ := assign_size hassign numeral
    unfold Accepts
    rw [hread text fits]
    simp only [bind, Except.bind, hsettle, hown]
    exact (Differ.taken given).accepts hrest
  · rw [hread text fits]
    simp only [bind, Except.bind, hsettle]
    exact (rejected_assign none).bind _

theorem Detaches.exchanges (h : Detaches way .size progress)
    (accepts : progress.Accepts (way.words .size other ++ back) one) :
    progress.Exchanges (way.words .size text ++ back) text one := by
  obtain ⟨reached, hwaits, hreached⟩ := h
  unfold Accepts at accepts
  rw [hreached other back, bind_assoc] at accepts
  obtain ⟨waiting, rfl, hrest⟩ := bind_eq_ok accepts
  obtain ⟨hpending, hopen⟩ := hwaits waiting rfl
  have hread (value : Bytes) (alone : StandsAlone value) :
      (value :: back).foldlM word waiting >>= finish =
        back.foldlM word { waiting with pending := .value .size value } >>= finish := by
    rw [List.foldlM_cons, word_alone hopen alone, hpending]
    rfl
  refine ⟨fun n numeral => ?_, fun none => ?_⟩
  · have differ := Differ.waiting waiting other numeral
    -- the other value has been accepted, so it was not taken for options or the end of them
    rcases rejected_or_alone hpending hopen other with alone | rejected
    · rw [hread other alone] at hrest
      have own := differ.accepts hrest
      unfold Accepts
      rw [hreached text back, bind_assoc]
      exact (hread text numeral.standsAlone).trans own
    · obtain ⟨reason, hreason⟩ := rejected back
      rw [hreason] at hrest
      cases hrest
  · rw [hreached text back, bind_assoc]
    rcases rejected_or_alone hpending hopen text with alone | rejected
    · have refused : Rejected (settle { waiting with pending := .value .size text }) :=
        rejected_assign none
      exact (hread text alone) ▸ refused.words (.inr (by simp)) back
    · exact rejected back

end

end Progress

/-- A command line that is accepted with one value is accepted with every number, and asks for
the same but for that number. With a value that is no number it is rejected. -/
theorem read_exchanged {front back : List Bytes} {way : Way} {text other : Bytes}
    {one : Invocation} (hopen : ascii "--" ∉ front) (fits : way.Fits text)
    (others : way.Fits other)
    (accepted : read (front ++ (way.words .size other ++ back)) = .ok one) :
    let words := front ++ (way.words .size text ++ back)
    (∀ n, Numeral text n → read words = .ok { one with size := n }) ∧
      ((∀ n, ¬ Numeral text n) → Progress.Rejected (read words)) := by
  have hread (words : List Bytes) : read (front ++ words) =
      front.foldlM Progress.word {} >>= fun progress =>
        words.foldlM Progress.word progress >>= Progress.finish := by
    rw [read, List.foldlM_append, bind_assoc]
  dsimp only
  rw [hread] at accepted ⊢
  obtain ⟨progress, hfront, accepts⟩ := bind_eq_ok accepted
  have ready := Progress.foldlM_keeps rfl hopen hfront
  rw [hfront]
  rcases Progress.attaches_or_detaches way .size ready with attaches | detaches
  · exact attaches.exchanges fits others accepts
  · exact detaches.exchanges accepts

end BrainfuckCompiler.Invocation
