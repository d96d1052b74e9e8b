import Mathlib.Data.List.Induction
import Mathlib.Order.Bounds.Basic
import BrainfuckCompiler.Proofs.Brackets

/-!
# Which bracket the check reports

The check takes the reported offset off a stack. What stands on the stack is described here
without it: a source that has been read so far either holds a bracket that closes nothing, or
it leaves some brackets open, each of them followed by a well-bracketed stretch up to the next
one. Counting the brackets then singles out the reported one. In a well-bracketed stretch no
beginning closes more than it opens, and no bracket is without its partner, so the first
offset at which too much is closed is that of the first stray bracket, and the last bracket
that nothing closes is the innermost one on the stack.
-/
namespace BrainfuckCompiler.Brackets

theorem Balanced.append {first second : Bytes} (h : Balanced first) (k : Balanced second) :
    Balanced (first ++ second) := by
  induction h with
  | nil => exact k
  | other ho hc _ ih => exact .other ho hc ih
  | loop hbody _ _ ih =>
      have := Balanced.loop hbody ih
      simpa only [List.cons_append, List.append_assoc] using this

/-- A source that leaves the brackets at these offsets open, innermost first, and is balanced
apart from that. -/
inductive LeavesOpen : List Nat → Bytes → Prop
  | none {source : Bytes} : Balanced source → LeavesOpen [] source
  | one {opened : List Nat} {front body : Bytes} : LeavesOpen opened front → Balanced body →
      LeavesOpen (front.length :: opened) (front ++ Operator.openLoop.byte :: body)

theorem LeavesOpen.append {opened : List Nat} {front body : Bytes} (h : LeavesOpen opened front)
    (hbody : Balanced body) : LeavesOpen opened (front ++ body) := by
  cases h with
  | none h => exact .none (h.append hbody)
  | one h hinner =>
      rw [List.append_assoc]
      exact .one h (hinner.append hbody)

/-- The offsets are those on the stack of the check. -/
theorem LeavesOpen.check_append {opened : List Nat} {front : Bytes} (h : LeavesOpen opened front)
    (rest : Bytes) : check (front ++ rest) = checkFrom front.length opened rest := by
  induction h generalizing rest with
  | none h => rw [check, checkFrom_append h, Nat.zero_add]
  | one _ hbody ih =>
      rw [List.append_assoc, ih, List.cons_append, checkFrom_open, checkFrom_append hbody,
        List.length_append, List.length_cons]
      congr 1
      omega

/-- One byte more, unless it is a bracket that closes nothing. -/
theorem LeavesOpen.concat {opened : List Nat} {front : Bytes} (h : LeavesOpen opened front)
    (b : UInt8) : (∃ next, LeavesOpen next (front ++ [b])) ∨
      Balanced front ∧ b = Operator.closeLoop.byte := by
  by_cases ho : b = Operator.openLoop.byte
  · subst ho
    exact .inl ⟨_, .one h .nil⟩
  by_cases hc : b = Operator.closeLoop.byte
  · subst hc
    cases h with
    | none h => exact .inr ⟨h, rfl⟩
    | one h hbody =>
        have closed := h.append (.loop hbody .nil)
        rw [← List.append_assoc] at closed
        exact .inl ⟨_, closed⟩
  exact .inl ⟨opened, h.append (.other ho hc .nil)⟩

/-- A source leaves some brackets open, or it holds a first one that closes nothing. -/
theorem leavesOpen_or_stray (source : Bytes) : (∃ opened, LeavesOpen opened source) ∨
    ∃ front rest, Balanced front ∧ source = front ++ Operator.closeLoop.byte :: rest := by
  induction source using List.reverseRecOn with
  | nil => exact .inl ⟨[], .none .nil⟩
  | append_singleton source b ih =>
      rcases ih with ⟨opened, h⟩ | ⟨front, rest, hfront, rfl⟩
      · rcases h.concat b with hnext | ⟨hfront, rfl⟩
        · exact .inl hnext
        · exact .inr ⟨source, [], hfront, rfl⟩
      · exact .inr ⟨front, rest ++ [b], hfront, by simp⟩

/-- More brackets are closed than opened. -/
def Overclosed (text : Bytes) : Prop :=
  text.count Operator.openLoop.byte < text.count Operator.closeLoop.byte

theorem Balanced.count_eq {source : Bytes} (h : Balanced source) :
    source.count Operator.openLoop.byte = source.count Operator.closeLoop.byte := by
  induction h with
  | nil => rfl
  | other ho hc _ ih => rw [List.count_cons_of_ne ho, List.count_cons_of_ne hc, ih]
  | loop _ _ ihBody ihRest =>
      have hne : Operator.closeLoop.byte ≠ Operator.openLoop.byte := by decide
      simp only [List.cons_append, List.count_append, List.count_cons_self,
        List.count_cons_of_ne hne, List.count_cons_of_ne hne.symm]
      omega

theorem Balanced.not_overclosed_take {source : Bytes} (h : Balanced source) (k : Nat) :
    ¬ Overclosed (source.take k) := by
  unfold Overclosed
  induction h generalizing k with
  | nil => simp
  | other ho hc _ ih =>
      cases k with
      | zero => simp
      | succ k =>
          rw [List.take_succ_cons, List.count_cons_of_ne ho, List.count_cons_of_ne hc]
          exact ih k
  | @loop body rest hbody _ ihBody ihRest =>
      have hne : Operator.closeLoop.byte ≠ Operator.openLoop.byte := by decide
      have inner := ihBody (k - 1)
      have outer := ihRest (k - 1 - body.length - 1)
      have hcount := hbody.count_eq
      -- the beginning ends in front of the loop, in its body or behind it
      rcases k with _ | k
      · simp
      rw [List.cons_append, List.take_succ_cons, List.take_append]
      rcases hk : k - body.length with _ | m
      · simp only [List.take_zero, List.append_nil, List.count_cons_self,
          List.count_cons_of_ne hne.symm]
        rw [Nat.add_sub_cancel] at inner
        omega
      · have hwhole : body.take k = body := List.take_of_length_le (by omega)
        have hm : k + 1 - 1 - body.length - 1 = m := by omega
        rw [hm] at outer
        simp only [hwhole, List.take_succ_cons, List.count_append, List.count_cons_self,
          List.count_cons_of_ne hne, List.count_cons_of_ne hne.symm]
        omega

theorem LeavesOpen.not_overclosed_take {opened : List Nat} {source : Bytes}
    (h : LeavesOpen opened source) (k : Nat) : ¬ Overclosed (source.take k) := by
  induction h generalizing k with
  | none h => exact h.not_overclosed_take k
  | @one opened front body _ hbody ih =>
      have before := ih k
      have behind := hbody.not_overclosed_take (k - front.length - 1)
      have hne : Operator.openLoop.byte ≠ Operator.closeLoop.byte := by decide
      unfold Overclosed at before behind ⊢
      rw [List.take_append]
      rcases hk : k - front.length with _ | m
      · simpa using before
      · rw [hk, Nat.add_sub_cancel] at behind
        simp only [List.take_succ_cons, List.count_append, List.count_cons_self,
          List.count_cons_of_ne hne]
        omega

/-- A bracket is opened here, and no later one closes it. -/
structure NeverClosed (source : Bytes) (i : Nat) : Prop where
  opens : source[i]? = some Operator.openLoop.byte
  kept : ∀ j, i < j → j < source.length → ¬ Overclosed ((source.take (j + 1)).drop (i + 1))

theorem neverClosed_append {front body : Bytes} (hbody : Balanced body) :
    NeverClosed (front ++ Operator.openLoop.byte :: body) front.length := by
  constructor
  · simp
  · intro j hj _
    have hsegment : ((front ++ Operator.openLoop.byte :: body).take (j + 1)).drop
        (front.length + 1) = body.take (j - front.length) := by
      rw [List.drop_take, List.append_cons, List.drop_left' (by simp)]
      congr 1
      omega
    rw [hsegment]
    exact hbody.not_overclosed_take _

/-- Everything behind an opening bracket of a well-bracketed stretch closes it. -/
theorem Balanced.overclosed_behind {before behind : Bytes}
    (h : Balanced (before ++ Operator.openLoop.byte :: behind)) : Overclosed behind := by
  have whole := h.count_eq
  have front := h.not_overclosed_take before.length
  have hne : Operator.openLoop.byte ≠ Operator.closeLoop.byte := by decide
  rw [List.take_left] at front
  unfold Overclosed at front ⊢
  simp only [List.count_append, List.count_cons_self, List.count_cons_of_ne hne] at whole
  omega

theorem not_neverClosed_append {front body : Bytes} (hbody : Balanced body) {k : Nat}
    (hk : front.length ≤ k) : ¬ NeverClosed (front ++ body) k := by
  intro h
  have opens := h.opens
  rw [List.getElem?_append_right hk, List.getElem?_eq_some_iff] at opens
  obtain ⟨hlt, hget⟩ := opens
  have split : body = body.take (k - front.length) ++ Operator.openLoop.byte ::
      body.drop (k - front.length + 1) := by
    rw [← hget, ← List.drop_eq_getElem_cons, List.take_append_drop]
  have behind := (split ▸ hbody).overclosed_behind
  have some_behind : k + 1 < (front ++ body).length := by
    by_contra hend
    rw [List.length_append] at hend
    rw [List.drop_of_length_le (by omega)] at behind
    exact Nat.lt_irrefl 0 behind
  have kept := h.kept ((front ++ body).length - 1) (by omega) (by omega)
  rw [Nat.sub_add_cancel (by omega), List.take_length, List.drop_append,
    List.drop_of_length_le (by omega), List.nil_append] at kept
  have hplace : k + 1 - front.length = k - front.length + 1 := by omega
  rw [hplace] at kept
  exact kept behind

/-- The three ways in which the check ends, and the sources for which it ends so. -/
theorem check_cases (source : Bytes) :
    Balanced source ∧ check source = .ok () ∨
      (∃ front rest, Balanced front ∧ source = front ++ Operator.closeLoop.byte :: rest ∧
        check source = .error (.unopened front.length)) ∨
      ∃ opened front body, LeavesOpen opened front ∧ Balanced body ∧
        source = front ++ Operator.openLoop.byte :: body ∧
        check source = .error (.unclosed front.length) := by
  rcases leavesOpen_or_stray source with ⟨opened, h⟩ | ⟨front, rest, hfront, rfl⟩
  · have hrun := h.check_append []
    rw [List.append_nil] at hrun
    cases h with
    | none h => exact .inl ⟨h, hrun⟩
    | one h hbody => exact .inr (.inr ⟨_, _, _, h, hbody, rfl, hrun⟩)
  · exact .inr (.inl ⟨front, rest, hfront, rfl, (LeavesOpen.none hfront).check_append _⟩)

/-- The offsets at which more has been closed than opened. -/
def overclosedOffsets (source : Bytes) : Set Nat :=
  {j | j < source.length ∧ Overclosed (source.take (j + 1))}

theorem isLeast_overclosedOffsets {front : Bytes} (hfront : Balanced front) (rest : Bytes) :
    IsLeast (overclosedOffsets (front ++ Operator.closeLoop.byte :: rest)) front.length := by
  constructor
  · refine ⟨by simp, ?_⟩
    have hne : Operator.closeLoop.byte ≠ Operator.openLoop.byte := by decide
    have hcount := hfront.count_eq
    rw [List.take_append, List.take_of_length_le (Nat.le_succ _), Nat.add_sub_cancel_left]
    simp only [Overclosed, List.take_succ_cons, List.take_zero, List.count_append,
      List.count_cons_self, List.count_cons_of_ne hne, List.count_nil]
    omega
  · rintro j ⟨-, hj⟩
    by_contra hlt
    rw [List.take_append_of_le_length (by omega)] at hj
    exact hfront.not_overclosed_take _ hj

theorem isGreatest_neverClosed {front body : Bytes} (hbody : Balanced body) :
    IsGreatest {j | NeverClosed (front ++ Operator.openLoop.byte :: body) j} front.length := by
  constructor
  · exact neverClosed_append hbody
  · intro j hj
    by_contra hlt
    have hj : NeverClosed (front ++ Operator.openLoop.byte :: body) j := hj
    rw [List.append_cons] at hj
    exact not_neverClosed_append hbody (by simp; omega) hj

theorem not_overclosed_prefix_iff (source : Bytes) :
    (∀ front, front <+: source → ¬ Overclosed front) ↔ overclosedOffsets source = ∅ := by
  rw [Set.eq_empty_iff_forall_notMem]
  constructor
  · rintro h j ⟨-, hj⟩
    exact h _ (List.take_prefix _ _) hj
  · intro h front hfront hover
    have hne : front ≠ [] := by
      rintro rfl
      exact Nat.lt_irrefl 0 hover
    have hpos := List.length_pos_iff.mpr hne
    have hle := hfront.length_le
    refine h (front.length - 1) ⟨by omega, ?_⟩
    rw [Nat.sub_add_cancel hpos, ← List.prefix_iff_eq_take.mp hfront]
    exact hover

theorem LeavesOpen.overclosedOffsets_eq {opened : List Nat} {source : Bytes}
    (h : LeavesOpen opened source) : overclosedOffsets source = ∅ := by
  rw [Set.eq_empty_iff_forall_notMem]
  rintro j ⟨-, hj⟩
  exact h.not_overclosed_take _ hj

/-- A stray bracket is reported at the first offset at which more has been closed than opened,
whatever comes behind it; an open one if there is no such offset, and then at the last offset
that holds a bracket which nothing closes. -/
theorem reported_position_exact (source : Bytes) (i : Nat) :
    (check source = .error (.unopened i) ↔
      IsLeast {j | j < source.length ∧ Overclosed (source.take (j + 1))} i) ∧
    (check source = .error (.unopened i) →
      source[i]? = some Operator.closeLoop.byte ∧
        ∀ rest, check (source.take (i + 1) ++ rest) = .error (.unopened i)) ∧
    (check source = .error (.unclosed i) ↔
      (∀ front, front <+: source → ¬ Overclosed front) ∧
        IsGreatest {j | NeverClosed source j} i) := by
  rw [not_overclosed_prefix_iff]
  change (_ ↔ IsLeast (overclosedOffsets source) i) ∧ _
  rcases check_cases source with ⟨hsource, hcheck⟩ |
    ⟨front, rest, hfront, rfl, hcheck⟩ | ⟨opened, front, body, hfront, hbody, rfl, hcheck⟩
  · have none := (LeavesOpen.none hsource).overclosedOffsets_eq
    rw [hcheck, none]
    refine ⟨⟨nofun, fun h => absurd h.1 (Set.notMem_empty i)⟩, nofun, nofun, ?_⟩
    rintro ⟨-, hlast⟩
    exact absurd hlast.1 (@not_neverClosed_append [] _ hsource i (Nat.zero_le i))
  · have least := isLeast_overclosedOffsets hfront rest
    rw [hcheck]
    refine ⟨⟨?_, ?_⟩, ?_, nofun, ?_⟩
    · rintro ⟨⟩
      exact least
    · intro h
      rw [least.unique h]
    · rintro ⟨⟩
      refine ⟨by simp, fun more => ?_⟩
      have hbehind : (front ++ Operator.closeLoop.byte :: rest).take (front.length + 1) ++ more =
          front ++ Operator.closeLoop.byte :: more := by
        rw [List.append_cons, List.take_left' (by simp), List.append_assoc]
        rfl
      rw [hbehind]
      exact (LeavesOpen.none hfront).check_append _
    · rintro ⟨hempty, -⟩
      rw [hempty] at least
      exact absurd least.1 (Set.notMem_empty _)
  · have none := (LeavesOpen.one hfront hbody).overclosedOffsets_eq
    have greatest := @isGreatest_neverClosed front body hbody
    rw [hcheck, none]
    refine ⟨⟨nofun, fun h => absurd h.1 (Set.notMem_empty i)⟩, nofun, ?_, ?_⟩
    · rintro ⟨⟩
      exact ⟨rfl, greatest⟩
    · rintro ⟨-, h⟩
      rw [greatest.unique h]

/-- A closing bracket too many behind nested loops, and an open one behind a loop that is
closed, inside another open one. -/
example : check (ascii "[a[]]][") = .error (.unopened 5) ∧
    check (ascii "[[+]>[-") = .error (.unclosed 5) := by decide

end BrainfuckCompiler.Brackets
