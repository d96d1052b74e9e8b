import BrainfuckCompiler.Proofs.Invocation.Acceptance

/-!
# Rejected command lines

The reader does not look at a value in a word of its own, nor at a source, before the next
option or source is accepted. A bad one is refused then, whatever comes first: nothing that can
follow makes the reader go on without having looked at the last word, and `--`, which does not
look at anything, lets no option follow any more.
-/
namespace BrainfuckCompiler.Invocation
open FileStore (bind_eq_ok)

namespace Progress

section
variable {progress next : Progress}

theorem note_cases {choice : Choice} (hok : progress.note choice = .ok next) :
    choice ∉ progress.given ∧ next = { progress with given := choice :: progress.given } := by
  rw [note] at hok
  split at hok
  · cases hok
  · next fresh => exact ⟨fresh, (Except.ok.inj hok).symm⟩

theorem assign_keeps {option : Valued} {text : Bytes}
    (hok : progress.assign option text = .ok next) : next.optionsEnded = progress.optionsEnded := by
  obtain ⟨noted, hnote, hok⟩ := bind_eq_ok hok
  obtain ⟨stored, -, hok⟩ := bind_eq_ok hok
  obtain ⟨-, rfl⟩ := note_cases hnote
  rw [← Except.ok.inj hok]

theorem settle_keeps (hok : progress.settle = .ok next) :
    next.optionsEnded = progress.optionsEnded := by
  unfold settle at hok
  dsimp only at hok
  split at hok
  · rw [Except.ok.inj hok]
  · cases hok
  · exact @assign_keeps { progress with pending := .nothing } _ _ _ hok
  · split at hok
    · cases hok
    · rw [← Except.ok.inj hok]

theorem acceptFlag_keeps {chosen : Flag} (hok : progress.acceptFlag chosen = .ok next) :
    next.optionsEnded = progress.optionsEnded := by
  obtain ⟨settled, hsettle, hok⟩ := bind_eq_ok hok
  obtain ⟨noted, hnote, hok⟩ := bind_eq_ok hok
  obtain ⟨-, rfl⟩ := note_cases hnote
  rw [← Except.ok.inj hok, ← settle_keeps hsettle]

theorem acceptAttached_keeps {option : Valued} {text : Bytes}
    (hok : progress.acceptAttached option text = .ok next) :
    next.optionsEnded = progress.optionsEnded := by
  obtain ⟨settled, hsettle, hok⟩ := bind_eq_ok hok
  exact (assign_keeps hok).trans (settle_keeps hsettle)

theorem acceptDetached_keeps {option : Valued} (hok : progress.acceptDetached option = .ok next) :
    next.optionsEnded = progress.optionsEnded := by
  obtain ⟨settled, hsettle, hok⟩ := bind_eq_ok hok
  rw [← Except.ok.inj hok, ← settle_keeps hsettle]

theorem cluster_keeps {letters : Bytes} (hok : progress.cluster letters = .ok next) :
    next.optionsEnded = progress.optionsEnded := by
  induction letters generalizing progress with
  | nil => rw [Except.ok.inj hok]
  | cons letter rest ih =>
      rw [cluster] at hok
      split at hok
      · cases hok
      · obtain ⟨accepted, haccept, hok⟩ := bind_eq_ok hok
        exact (ih hok).trans (acceptFlag_keeps haccept)
      · obtain ⟨settled, -, hok⟩ := bind_eq_ok hok
        cases hok
      · split at hok
        · exact acceptDetached_keeps hok
        · exact acceptAttached_keeps hok

/-- Only `--` ends the options. -/
theorem word_keeps {text : Bytes} (hopen : progress.optionsEnded = false) (hne : text ≠ ascii "--")
    (hok : progress.word text = .ok next) : next.optionsEnded = false := by
  rcases word_cases hopen text with
    ⟨heq, -⟩ | ⟨name, -, heq⟩ | ⟨letters, -, -, heq⟩ | ⟨-, heq⟩
  · exact absurd heq hne
  · rw [heq] at hok
    rcases long_cases hok with ⟨_, -, haccept⟩ | ⟨_, _, -, haccept⟩ | ⟨_, -, haccept⟩
    · exact (acceptFlag_keeps haccept).trans hopen
    · exact (acceptAttached_keeps haccept).trans hopen
    · exact (acceptDetached_keeps haccept).trans hopen
  · rw [heq] at hok
    exact (cluster_keeps hok).trans hopen
  · rw [heq] at hok
    split at hok
    · rw [← Except.ok.inj hok]
      exact hopen
    · obtain ⟨-, settled, hsettle, rfl⟩ := plain_cases hok
      exact (settle_keeps hsettle).trans hopen

theorem foldlM_keeps {words : List Bytes} (hopen : progress.optionsEnded = false)
    (hne : ascii "--" ∉ words) (hok : words.foldlM word progress = .ok next) :
    next.optionsEnded = false := by
  induction words generalizing progress with
  | nil =>
      rw [← Except.ok.inj hok]
      exact hopen
  | cons text rest ih =>
      rw [List.foldlM_cons] at hok
      obtain ⟨middle, hword, hok⟩ := bind_eq_ok hok
      have htext : text ≠ ascii "--" := fun heq => hne (heq ▸ List.mem_cons_self)
      exact ih (word_keeps hopen htext hword) (List.not_mem_of_not_mem_cons hne) hok

end

/-- The reader stops, and not to show the help. -/
def Rejected {α : Type} (result : Except Stop α) : Prop :=
  ∃ reason, result = .error (.rejected reason)

theorem Rejected.bind {α β : Type} {result : Except Stop α} (h : Rejected result)
    (continuation : α → Except Stop β) : Rejected (result >>= continuation) := by
  obtain ⟨reason, rfl⟩ := h
  exact ⟨reason, rfl⟩

section
variable {progress : Progress}

theorem Rejected.ended (h : Rejected progress.settle) : Rejected progress.ended.settle := by
  obtain ⟨reason, hreason⟩ := h
  rw [settle_ended, hreason]
  exact ⟨reason, rfl⟩

theorem Rejected.long (h : Rejected progress.settle) (name : Bytes) :
    Rejected (progress.long name) := by
  unfold Progress.long
  dsimp only
  split
  · exact ⟨_, rfl⟩
  · exact h.bind _
  · exact h.bind _
  · exact ⟨_, rfl⟩
  · exact ⟨_, rfl⟩
  · exact h.bind _
  · exact h.bind _

theorem Rejected.cluster (h : Rejected progress.settle) (letter : UInt8) (rest : Bytes) :
    Rejected (progress.cluster (letter :: rest)) := by
  rw [Progress.cluster]
  split
  · exact ⟨_, rfl⟩
  · exact (h.bind _).bind _
  · exact h.bind _
  · split
    · exact h.bind _
    · exact h.bind _

theorem Rejected.plain (h : Rejected progress.settle) (path : Bytes) :
    Rejected (progress.plain path) := by
  unfold Progress.plain
  split
  · exact ⟨_, rfl⟩
  · exact h.bind _

/-- What will be refused is refused at the next word, unless that is `--` or the value that an
option waits for. -/
theorem Rejected.word_cases (h : Rejected progress.settle) (text : Bytes) :
    text = ascii "--" ∧ progress.optionsEnded = false ∨
      (∃ option, progress.pending = .awaiting option ∧ StandsAlone text ∧
        progress.optionsEnded = false) ∨
      Rejected (progress.word text) := by
  cases hended : progress.optionsEnded with
  | true =>
      rw [word_of_ended hended]
      exact .inr (.inr (h.plain text))
  | false =>
      rcases word_kinds text with
        rfl | ⟨name, hname, rfl⟩ | ⟨letter, rest, hletter, rfl⟩ | alone
      · exact .inl ⟨rfl, rfl⟩
      · rw [word_long hended hname]
        exact .inr (.inr (h.long name))
      · rw [word_cluster hended hletter]
        exact .inr (.inr (h.cluster letter rest))
      · rw [word_alone hended alone]
        split
        · next option hpending => exact .inr (.inl ⟨option, hpending, alone, rfl⟩)
        · exact .inr (.inr (h.plain text))

/-- Nothing that follows helps, once no value can follow any more. -/
theorem Rejected.words (h : Rejected progress.settle)
    (final : progress.optionsEnded = true ∨ ∀ option, progress.pending ≠ .awaiting option)
    (words : List Bytes) : Rejected (words.foldlM word progress >>= finish) := by
  induction words generalizing progress with
  | nil => exact h.bind _
  | cons text rest ih =>
      rw [List.foldlM_cons]
      rcases h.word_cases text with ⟨rfl, hopen⟩ | ⟨option, hpending, -, hopen⟩ | rejected
      · rw [word_dashes hopen]
        exact ih h.ended (.inl rfl)
      · rcases final with hended | hnever
        · rw [hopen] at hended
          cases hended
        · exact absurd hpending (hnever option)
      · exact (rejected.bind _).bind _

/-- Behind an option that waits for its value there can only be a word that stands alone. -/
theorem rejected_or_alone {option : Valued} (hpending : progress.pending = .awaiting option)
    (hopen : progress.optionsEnded = false) (text : Bytes) :
    StandsAlone text ∨
      ∀ rest, Rejected ((text :: rest).foldlM word progress >>= finish) := by
  have refused : Rejected progress.settle := by
    simp only [settle, hpending]
    exact ⟨_, rfl⟩
  rcases refused.word_cases text with ⟨rfl, -⟩ | ⟨_, -, alone, -⟩ | rejected
  · refine .inr fun rest => ?_
    rw [List.foldlM_cons, word_dashes hopen]
    exact refused.ended.words (.inl rfl) rest
  · exact .inl alone
  · refine .inr fun rest => ?_
    rw [List.foldlM_cons]
    exact (rejected.bind _).bind _

end

end Progress

end BrainfuckCompiler.Invocation
