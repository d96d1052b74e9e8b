import BrainfuckCompiler.Bytes

/-!
# Machines that go step by step

A machine either goes on to one further state, finishes, or has no defined
behaviour left. Two machines are compared through what can be seen of their
states. A simulation matches every step of the first machine by a path of the
second one with at least one step, so that neither can go on for ever where the
other stops; on the way nothing is put out that the matched step does not put
out. `Simulation.sameBehaviour` draws the consequences for whole runs, endless
ones included.
-/
namespace BrainfuckCompiler.Machine

/-- What a machine does in a state. -/
inductive Move (State : Type) where
  | next (state : State)
  | finished
  | undefined

/-- Goes on to a state if there is one. -/
def Move.ofOption {State : Type} : Option State → Move State
  | some state => .next state
  | none => .undefined

section
variable {State : Type} {move : State → Move State}

/-- A path of so many steps; all states it leaves behind have the property. -/
inductive Path (move : State → Move State) (P : State → Prop) : Nat → State → State → Prop
  | here (s : State) : Path move P 0 s s
  | step {s t u : State} {n : Nat} : P s → move s = .next t → Path move P n t u →
      Path move P (n + 1) s u

/-- Any path of so many steps. -/
abbrev Steps (move : State → Move State) : Nat → State → State → Prop := Path move fun _ => True

/-- The machine comes from `s` to `t` and then makes the move `last`. -/
def EndsAt (move : State → Move State) (last : Move State) (s t : State) : Prop :=
  ∃ n, Steps move n s t ∧ move t = last

/-- The machine never stops. -/
def Endless (move : State → Move State) (s : State) : Prop := ∀ n, ∃ t, Steps move n s t

theorem Path.imp {P Q : State → Prop} (hpq : ∀ s, P s → Q s) {n : Nat} {s t : State}
    (h : Path move P n s t) : Path move Q n s t := by
  induction h with
  | here s => exact .here s
  | step hp hm _ ih => exact .step (hpq _ hp) hm ih

theorem Path.steps {P : State → Prop} {n : Nat} {s t : State} (h : Path move P n s t) :
    Steps move n s t := h.imp fun _ _ => trivial

theorem Path.append {P : State → Prop} {n m : Nat} {s t u : State} (h : Path move P n s t)
    (k : Path move P m t u) : Path move P (n + m) s u := by
  induction h with
  | here s => simpa only [Nat.zero_add] using k
  | step hp hm _ ih =>
      rw [Nat.add_right_comm]
      exact .step hp hm (ih k)

/-- A machine has one run only: another path from the same state is a part of
this one or goes on from its end. -/
theorem Path.split {P : State → Prop} {n m : Nat} {s t u : State} (h : Path move P n s t)
    (k : Steps move m s u) :
    (m < n ∧ P u ∧ ∃ v, move u = .next v) ∨ (n ≤ m ∧ Steps move (m - n) t u) := by
  induction h generalizing m with
  | here s => exact .inr ⟨Nat.zero_le m, k⟩
  | step hp hm _ ih =>
      cases k with
      | here => exact .inl ⟨Nat.succ_pos _, hp, _, hm⟩
      | @step _ t' _ m' _ hm' k' =>
          obtain rfl : _ = t' := by simpa using hm.symm.trans hm'
          obtain ⟨hlt, hu, hv⟩ | ⟨hle, hk⟩ := ih k'
          · exact .inl ⟨Nat.succ_lt_succ hlt, hu, hv⟩
          · exact .inr ⟨Nat.succ_le_succ hle, by simpa using hk⟩

/-- From a state where the machine stops there are no further steps. -/
theorem Path.of_stopped {P : State → Prop} {n : Nat} {s t : State} (h : Path move P n s t)
    (hs : ∀ u, move s ≠ .next u) : n = 0 ∧ s = t := by
  cases h with
  | here => exact ⟨rfl, rfl⟩
  | step _ hm _ => exact absurd hm (hs _)

theorem Path.exists_of_le {P : State → Prop} {n m : Nat} {s t : State} (h : Path move P m s t)
    (hle : n ≤ m) : ∃ u, Steps move n s u := by
  induction h generalizing n with
  | here s => exact ⟨s, by rw [Nat.le_zero.mp hle]; exact .here s⟩
  | step _ hm _ ih =>
      cases n with
      | zero => exact ⟨_, .here _⟩
      | succ n =>
          obtain ⟨u, hu⟩ := ih (Nat.le_of_succ_le_succ hle)
          exact ⟨u, .step trivial hm hu⟩

end

variable {Source Target View Shown : Type}
variable (source : Source → Move Source) (target : Target → Move Target)
variable (viewSource : Source → View) (viewTarget : Target → View) (shown : View → Shown)

/-- How the second machine matches what the first one does in a related state. -/
def Matched (related : Source → Target → Prop) (s : Source) (t : Target) : Prop :=
  match source s with
  | .finished => target t = .finished
  | .undefined => ∃ n t', target t' = .undefined ∧ shown (viewTarget t') = shown (viewSource s) ∧
      Path target (fun u => shown (viewTarget u) = shown (viewSource s)) n t t'
  | .next s' => ∃ n t', related s' t' ∧
      Path target (fun u => shown (viewTarget u) = shown (viewSource s) ∨
        shown (viewTarget u) = shown (viewSource s')) (n + 1) t t'

section
variable {source target viewSource viewTarget shown} {related : Source → Target → Prop}
variable {s s' : Source} {t : Target}

theorem matched_finished (hs : source s = .finished) :
    Matched source target viewSource viewTarget shown related s t ↔ target t = .finished := by
  simp only [Matched, hs]

theorem matched_undefined (hs : source s = .undefined) :
    Matched source target viewSource viewTarget shown related s t ↔ ∃ n t', target t' = .undefined ∧
      shown (viewTarget t') = shown (viewSource s) ∧
      Path target (fun u => shown (viewTarget u) = shown (viewSource s)) n t t' := by
  simp only [Matched, hs]

theorem matched_next (hs : source s = .next s') :
    Matched source target viewSource viewTarget shown related s t ↔ ∃ n t', related s' t' ∧
      Path target (fun u => shown (viewTarget u) = shown (viewSource s) ∨
        shown (viewTarget u) = shown (viewSource s')) (n + 1) t t' := by
  simp only [Matched, hs]

end

/-- Related states look alike, and each move of the first machine is matched. -/
structure Simulation (related : Source → Target → Prop) : Prop where
  view : ∀ {s t}, related s t → viewTarget t = viewSource s
  matched : ∀ {s t}, related s t → Matched source target viewSource viewTarget shown related s t

/-- Two machines cannot be told apart from outside. Every state of the first one
shows up in the run of the second. They finish in the same states, lose their
meaning after the same output, go on for ever at the same time, and the second one
never puts out anything but what the first one does. -/
structure SameBehaviour (s : Source) (t : Target) : Prop where
  reached : ∀ {n s'}, Steps source n s s' →
    ∃ m t', n ≤ m ∧ Steps target m t t' ∧ viewTarget t' = viewSource s'
  finished : ∀ view, (∃ s', EndsAt source .finished s s' ∧ viewSource s' = view) ↔
    ∃ t', EndsAt target .finished t t' ∧ viewTarget t' = view
  undefined : ∀ out, (∃ s', EndsAt source .undefined s s' ∧ shown (viewSource s') = out) ↔
    ∃ t', EndsAt target .undefined t t' ∧ shown (viewTarget t') = out
  endless : Endless source s ↔ Endless target t
  output : ∀ {m t'}, Steps target m t t' →
    ∃ n s', n ≤ m ∧ Steps source n s s' ∧ shown (viewSource s') = shown (viewTarget t')

/-- Where a state `u` of the second machine, `j` steps after `t`, stands in the match
of `s` by `t`: it is `t` itself, or on the path that matches the move of `s`. -/
def Within (s : Source) (t u : Target) (j : Nat) : Prop :=
  match source s with
  | .finished => u = t
  | .undefined => shown (viewTarget u) = shown (viewSource s) ∧ target u ≠ .finished
  | .next s' => (∃ v, target u = .next v) ∧
      (shown (viewTarget u) = shown (viewSource s) ∨
        shown (viewTarget u) = shown (viewSource s') ∧ 0 < j)

namespace Simulation
variable {source target viewSource viewTarget shown}
variable {related : Source → Target → Prop}

theorem track (sim : Simulation source target viewSource viewTarget shown related)
    {n : Nat} {s s' : Source} {t : Target} (h : related s t) (run : Steps source n s s') :
    ∃ m t', n ≤ m ∧ Steps target m t t' ∧ related s' t' := by
  induction run generalizing t with
  | here s => exact ⟨0, t, Nat.le_refl 0, .here t, h⟩
  | step _ hm _ ih =>
      obtain ⟨k, t₁, h₁, path⟩ := (matched_next hm).mp (sim.matched h)
      obtain ⟨m, t', hle, run', h'⟩ := ih h₁
      exact ⟨k + 1 + m, t', by omega, path.steps.append run', h'⟩

/-- Every state of the second machine lies in the match of some state of the
first one. -/
theorem follow (sim : Simulation source target viewSource viewTarget shown related)
    {m : Nat} {s : Source} {t u : Target} (h : related s t) (run : Steps target m t u) :
    ∃ n j s' t', n + j ≤ m ∧ Steps source n s s' ∧ related s' t' ∧
      Within source target viewSource viewTarget shown s' t' u j := by
  induction m using Nat.strongRecOn generalizing s t with
  | ind m ih =>
    have here (hw : Within source target viewSource viewTarget shown s t u m) :
        ∃ n j s' t', n + j ≤ m ∧ Steps source n s s' ∧ related s' t' ∧
          Within source target viewSource viewTarget shown s' t' u j :=
      ⟨0, m, s, t, by omega, .here s, h, hw⟩
    cases hs : source s with
    | finished =>
        have ht := (matched_finished hs).mp (sim.matched h)
        apply here
        simp only [Within, hs]
        exact (run.of_stopped (by simp [ht])).2.symm
    | undefined =>
        obtain ⟨n, t', hu, hshown, path⟩ := (matched_undefined hs).mp (sim.matched h)
        apply here
        simp only [Within, hs]
        obtain ⟨-, hp, v, hv⟩ | ⟨-, rest⟩ := path.split run
        · exact ⟨hp, by simp [hv]⟩
        · obtain ⟨-, rfl⟩ := rest.of_stopped (by simp [hu])
          exact ⟨hshown, by simp [hu]⟩
    | next s₁ =>
        obtain ⟨n, t₁, h₁, path⟩ := (matched_next hs).mp (sim.matched h)
        obtain ⟨-, hp, hv⟩ | ⟨hle, rest⟩ := path.split run
        · -- The state is left behind on the way to the next match.
          apply here
          simp only [Within, hs]
          refine ⟨hv, ?_⟩
          cases m with
          | zero =>
              obtain rfl : t = u := by cases run; rfl
              exact .inl (congrArg shown (sim.view h))
          | succ m => exact hp.imp_right fun hp => ⟨hp, Nat.succ_pos m⟩
        · obtain ⟨n', j, s', t', hle', run', h', hw⟩ := ih (m - (n + 1)) (by omega) h₁ rest
          exact ⟨n' + 1, j, s', t', by omega, .step trivial hs run', h', hw⟩

theorem finished_iff (sim : Simulation source target viewSource viewTarget shown related)
    {s : Source} {t : Target} (h : related s t) (view : View) :
    (∃ s', EndsAt source .finished s s' ∧ viewSource s' = view) ↔
      ∃ t', EndsAt target .finished t t' ∧ viewTarget t' = view := by
  constructor
  · rintro ⟨s', ⟨n, run, hs⟩, rfl⟩
    obtain ⟨m, t', -, run', h'⟩ := sim.track h run
    exact ⟨t', ⟨m, run', (matched_finished hs).mp (sim.matched h')⟩, sim.view h'⟩
  · rintro ⟨u, ⟨m, run, hu⟩, rfl⟩
    obtain ⟨n, j, s', t', -, run', h', hw⟩ := sim.follow h run
    cases hs : source s' with
    | finished =>
        simp only [Within, hs] at hw
        exact ⟨s', ⟨n, run', hs⟩, hw ▸ (sim.view h').symm⟩
    | undefined =>
        simp only [Within, hs] at hw
        exact absurd hu hw.2
    | next =>
        simp only [Within, hs, hu, reduceCtorEq, exists_false, false_and] at hw

theorem undefined_iff (sim : Simulation source target viewSource viewTarget shown related)
    {s : Source} {t : Target} (h : related s t) (out : Shown) :
    (∃ s', EndsAt source .undefined s s' ∧ shown (viewSource s') = out) ↔
      ∃ t', EndsAt target .undefined t t' ∧ shown (viewTarget t') = out := by
  constructor
  · rintro ⟨s', ⟨n, run, hs⟩, rfl⟩
    obtain ⟨m, t', -, run', h'⟩ := sim.track h run
    obtain ⟨k, u, hu, hshown, path⟩ := (matched_undefined hs).mp (sim.matched h')
    exact ⟨u, ⟨m + k, run'.append path.steps, hu⟩, hshown⟩
  · rintro ⟨u, ⟨m, run, hu⟩, rfl⟩
    obtain ⟨n, j, s', t', -, run', h', hw⟩ := sim.follow h run
    cases hs : source s' with
    | finished =>
        simp only [Within, hs] at hw
        rw [hw, (matched_finished hs).mp (sim.matched h')] at hu
        cases hu
    | undefined =>
        simp only [Within, hs] at hw
        exact ⟨s', ⟨n, run', hs⟩, hw.1.symm⟩
    | next =>
        simp only [Within, hs, hu, reduceCtorEq, exists_false, false_and] at hw

theorem endless_iff (sim : Simulation source target viewSource viewTarget shown related)
    {s : Source} {t : Target} (h : related s t) : Endless source s ↔ Endless target t := by
  constructor
  · intro endless n
    obtain ⟨s', run⟩ := endless n
    obtain ⟨m, t', hle, run', -⟩ := sim.track h run
    exact run'.exists_of_le hle
  · intro endless n
    -- A machine that is matched by an endless one can neither finish nor lose its meaning.
    induction n with
    | zero => exact ⟨s, .here s⟩
    | succ n ih =>
        obtain ⟨s', run⟩ := ih
        obtain ⟨m, t', -, run', h'⟩ := sim.track h run
        have stuck {k : Nat} {u : Target} (path : Steps target k t' u)
            (hu : ∀ v, target u ≠ .next v) : False := by
          obtain ⟨v, beyond⟩ := endless (m + k + 1)
          obtain ⟨hlt, -⟩ | ⟨-, rest⟩ := (run'.append path).split beyond
          · omega
          · have := (rest.of_stopped hu).1
            omega
        cases hs : source s' with
        | finished =>
            have ht := (matched_finished hs).mp (sim.matched h')
            exact (stuck (.here t') (by simp [ht])).elim
        | undefined =>
            obtain ⟨k, u, hu, -, path⟩ := (matched_undefined hs).mp (sim.matched h')
            exact (stuck path.steps (by simp [hu])).elim
        | next s₁ => exact ⟨s₁, run.append (.step trivial hs (.here s₁))⟩

/-- A simulation makes the machines the same from outside. -/
theorem sameBehaviour (sim : Simulation source target viewSource viewTarget shown related)
    {s : Source} {t : Target} (h : related s t) :
    SameBehaviour source target viewSource viewTarget shown s t where
  reached run := by
    obtain ⟨m, t', hle, run', h'⟩ := sim.track h run
    exact ⟨m, t', hle, run', sim.view h'⟩
  finished := sim.finished_iff h
  undefined := sim.undefined_iff h
  endless := sim.endless_iff h
  output {m u} run := by
    obtain ⟨n, j, s', t', hle, run', h', hw⟩ := sim.follow h run
    cases hs : source s' with
    | finished =>
        simp only [Within, hs] at hw
        exact ⟨n, s', by omega, run', by rw [hw, sim.view h']⟩
    | undefined =>
        simp only [Within, hs] at hw
        exact ⟨n, s', by omega, run', hw.1.symm⟩
    | next s₁ =>
        simp only [Within, hs] at hw
        obtain ⟨-, hw | ⟨hw, hj⟩⟩ := hw
        · exact ⟨n, s', by omega, run', hw.symm⟩
        · exact ⟨n + 1, s₁, by omega, run'.append (.step trivial hs (.here s₁)), hw.symm⟩

end Simulation

end BrainfuckCompiler.Machine
