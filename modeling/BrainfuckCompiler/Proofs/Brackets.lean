import BrainfuckCompiler.Brackets

/-!
# Well-bracketed sources

The check keeps the offsets of the open brackets on a stack. The grammar below
knows no stack: a source is empty, a comment or plain operator before a source,
or a bracketed source before a source. `Closes` connects the two: it describes a
suffix of a source that still closes so many brackets, each one after a
well-bracketed stretch. For the check itself only the number of open brackets counts.
-/
namespace BrainfuckCompiler

/-- How many loops are open after one more operator; none if it closes a loop that
nobody opened. -/
def Operator.nest (depth : Nat) : Operator → Option Nat
  | .openLoop => some (depth + 1)
  | .closeLoop => if depth = 0 then none else some (depth - 1)
  | _ => some depth

namespace Brackets

inductive Balanced : Bytes → Prop
  | nil : Balanced []
  | other {b : UInt8} {rest : Bytes} : b ≠ Operator.openLoop.byte → b ≠ Operator.closeLoop.byte →
      Balanced rest → Balanced (b :: rest)
  | loop {body rest : Bytes} : Balanced body → Balanced rest →
      Balanced (Operator.openLoop.byte :: body ++ Operator.closeLoop.byte :: rest)

/-- A source that closes `n` brackets it does not open, and is balanced apart from
that. -/
inductive Closes : Nat → Bytes → Prop
  | none {source : Bytes} : Balanced source → Closes 0 source
  | one {n : Nat} {body rest : Bytes} : Balanced body → Closes n rest →
      Closes (n + 1) (body ++ Operator.closeLoop.byte :: rest)

theorem Closes.other {n : Nat} {b : UInt8} {rest : Bytes} (ho : b ≠ Operator.openLoop.byte)
    (hc : b ≠ Operator.closeLoop.byte) (h : Closes n rest) : Closes n (b :: rest) := by
  cases h with
  | none h => exact .none (.other ho hc h)
  | one h rest => exact .one (.other ho hc h) rest

/-- A bracket opened in front takes the first of the closing ones for itself. -/
theorem Closes.open {n : Nat} {rest : Bytes} (h : Closes (n + 1) rest) :
    Closes n (Operator.openLoop.byte :: rest) := by
  obtain _ | ⟨hbody, hrest⟩ := h
  cases hrest with
  | none hrest => exact .none (.loop hbody hrest)
  | @one _ middle _ hmiddle hrest =>
      have := Closes.one (.loop hbody hmiddle) hrest
      simpa only [List.cons_append, List.append_assoc] using this

section
variable (position : Nat) (opened : List Nat) (rest : Bytes)

theorem checkFrom_open : checkFrom position opened (Operator.openLoop.byte :: rest) =
    checkFrom (position + 1) (position :: opened) rest := by
  cases opened <;> rfl

theorem checkFrom_close (innermost : Nat) :
    checkFrom position (innermost :: opened) (Operator.closeLoop.byte :: rest) =
      checkFrom (position + 1) opened rest := rfl

theorem checkFrom_stray : checkFrom position [] (Operator.closeLoop.byte :: rest) =
    .error (.unopened position) := rfl

theorem checkFrom_other {b : UInt8} (ho : b ≠ Operator.openLoop.byte)
    (hc : b ≠ Operator.closeLoop.byte) :
    checkFrom position opened (b :: rest) = checkFrom (position + 1) opened rest := by
  rw [ne_eq, ← Operator.ofByte?_eq_some_iff] at ho hc
  cases opened <;> simp [checkFrom, hc]

end

/-- What a source that passes the check from some depth on looks like. -/
theorem closes_of_checkFrom {position : Nat} {opened : List Nat} {source : Bytes}
    (h : checkFrom position opened source = .ok ()) : Closes opened.length source := by
  induction source generalizing position opened with
  | nil =>
      cases opened with
      | nil => exact .none .nil
      | cons innermost outer => cases h
  | cons b rest ih =>
      by_cases ho : b = Operator.openLoop.byte
      · subst ho
        rw [checkFrom_open] at h
        exact (ih h).open
      by_cases hc : b = Operator.closeLoop.byte
      · subst hc
        cases opened with
        | nil => cases h
        | cons innermost outer =>
            rw [checkFrom_close] at h
            exact .one .nil (ih h)
      rw [checkFrom_other _ _ _ ho hc] at h
      exact (ih h).other ho hc

theorem balanced_of_check {source : Bytes} (h : check source = .ok ()) : Balanced source := by
  obtain ⟨hb⟩ := closes_of_checkFrom h
  exact hb

/-- A well-bracketed stretch leaves the stack as it was. -/
theorem checkFrom_append {body : Bytes} (h : Balanced body) (position : Nat) (opened : List Nat)
    (rest : Bytes) :
    checkFrom position opened (body ++ rest) = checkFrom (position + body.length) opened rest := by
  induction h generalizing position opened rest with
  | nil => rfl
  | @other b more ho hc _ ih =>
      rw [List.cons_append, checkFrom_other _ _ _ ho hc, ih, List.length_cons]
      congr 1
      omega
  | @loop body more _ _ ihBody ihMore =>
      have layout : Operator.openLoop.byte :: body ++ Operator.closeLoop.byte :: more ++ rest =
          Operator.openLoop.byte :: (body ++ Operator.closeLoop.byte :: (more ++ rest)) := by
        simp
      rw [layout, checkFrom_open, ihBody, checkFrom_close, ihMore]
      congr 1
      simp only [List.length_append, List.length_cons]
      omega

/-- The check and the grammar are two descriptions of the same sources. -/
theorem check_eq_ok_iff_balanced (source : Bytes) : check source = .ok () ↔ Balanced source := by
  constructor
  · exact balanced_of_check
  · intro h
    have hrun := checkFrom_append h 0 [] []
    rw [List.append_nil] at hrun
    rw [check, hrun]
    rfl

/-- How many brackets are open at the end of a source. -/
def nesting (depth : Nat) (source : Bytes) : Option Nat :=
  (operators source).foldlM Operator.nest depth

theorem nesting_cons_of_none {b : UInt8} (h : Operator.ofByte? b = none) (depth : Nat)
    (rest : Bytes) : nesting depth (b :: rest) = nesting depth rest := by
  rw [nesting, operators, List.filterMap_cons_none h]
  rfl

theorem nesting_cons_of_some {b : UInt8} {operator : Operator}
    (h : Operator.ofByte? b = some operator) (depth : Nat) (rest : Bytes) :
    nesting depth (b :: rest) = (operator.nest depth).bind (nesting · rest) := by
  rw [nesting, operators, List.filterMap_cons_some h, List.foldlM_cons]
  rfl

/-- Only the number of open brackets decides whether the check passes. -/
theorem checkFrom_eq_ok_iff (position : Nat) (opened : List Nat) (source : Bytes) :
    checkFrom position opened source = .ok () ↔ nesting opened.length source = some 0 := by
  induction source generalizing position opened with
  | nil => cases opened <;> simp [checkFrom, nesting, operators]
  | cons b rest ih =>
      by_cases ho : b = Operator.openLoop.byte
      · subst ho
        rw [checkFrom_open, ih, nesting_cons_of_some rfl]
        rfl
      by_cases hc : b = Operator.closeLoop.byte
      · subst hc
        rw [nesting_cons_of_some rfl]
        cases opened with
        | nil => simp [checkFrom_stray, Operator.nest]
        | cons innermost outer =>
            rw [checkFrom_close, ih]
            rfl
      rw [checkFrom_other _ _ _ ho hc, ih]
      cases h : Operator.ofByte? b with
      | none => rw [nesting_cons_of_none h]
      | some operator =>
          rw [nesting_cons_of_some h]
          rw [Operator.ofByte?_eq_some_iff] at h
          subst h
          cases operator with
          | openLoop => exact absurd rfl ho
          | closeLoop => exact absurd rfl hc
          | _ => rfl

end Brackets

end BrainfuckCompiler
