import BrainfuckCompiler.Proofs.Decimal
import BrainfuckCompiler.Utf8

/-!
# Valid texts and what they are made of

Validity is a matter of the state in which a reader ends, so it is compatible with putting
texts one after the other. An ASCII byte fits between two characters and nowhere else. A text
with one in it is therefore valid exactly if what is in front of it and what is behind it are
valid, and nothing behind it can mend a broken character in front of it.

What a text is shown as is always valid: a complete character is one that the reader has been
through from border to border, and all else is replaced.
-/
namespace BrainfuckCompiler.Utf8

/-- The state after some bytes, or nothing where one of them does not fit. -/
def run (state : State) (text : Bytes) : Option State := text.foldlM step state

@[simp] theorem run_nil (state : State) : run state [] = some state := rfl

@[simp] theorem run_cons (state : State) (b : UInt8) (rest : Bytes) :
    run state (b :: rest) = (step state b).bind (run · rest) :=
  List.foldlM_cons

theorem run_append (state : State) (first second : Bytes) :
    run state (first ++ second) = (run state first).bind (run · second) :=
  List.foldlM_append

theorem accepts_iff (state : State) (text : Bytes) :
    accepts state text = true ↔ run state text = some .start := by
  induction text generalizing state with
  | nil => simp [accepts]
  | cons b rest ih =>
      rw [accepts, run_cons]
      cases step state b with
      | none => simp
      | some next => exact ih next

theorem isValid_iff (text : Bytes) : isValid text = true ↔ run .start text = some .start :=
  accepts_iff .start text

/-- Nothing in front of a text matters for it that is valid itself. -/
theorem isValid_append {first : Bytes} (h : isValid first = true) (second : Bytes) :
    isValid (first ++ second) = isValid second := by
  rw [Bool.eq_iff_iff, isValid_iff, isValid_iff, run_append, (isValid_iff first).mp h,
    Option.bind_some]

theorem isValid_flatten {pieces : List Bytes} (h : ∀ piece ∈ pieces, isValid piece = true) :
    isValid pieces.flatten = true := by
  induction pieces with
  | nil => rfl
  | cons piece rest ih =>
      rw [List.flatten_cons, isValid_append (h piece List.mem_cons_self)]
      exact ih fun other hother => h other (List.mem_cons_of_mem _ hother)

/-- The text consists of characters of one byte. -/
def Ascii (text : Bytes) : Prop := ∀ b ∈ text, b ≤ 0x7f

-- the numbers are compared, so that texts can be looked through by evaluation
instance (text : Bytes) : Decidable (Ascii text) :=
  decidable_of_iff (text.all (fun b => b.toNat.ble 0x7f) = true) (by
    simp only [List.all_eq_true, Nat.ble_eq]
    rfl)

theorem Ascii.append {first second : Bytes} (h : Ascii first) (k : Ascii second) :
    Ascii (first ++ second) := by
  intro b hb
  exact (List.mem_append.mp hb).elim (h b) (k b)

theorem ascii_flatten {pieces : List Bytes} (h : ∀ piece ∈ pieces, Ascii piece) :
    Ascii pieces.flatten := by
  intro b hb
  obtain ⟨piece, hpiece, hmem⟩ := List.mem_flatten.mp hb
  exact h piece hpiece b hmem

/-- A character of one byte begins and ends at a border. -/
theorem step_of_ascii {b : UInt8} (h : b ≤ 0x7f) (state : State) :
    step state b = if state = .start then some .start else none := by
  have below (low high : UInt8) (next : State) (hlow : 0x80 ≤ low) :
      within low high b next = none := by
    refine if_neg fun hrange => ?_
    rw [UInt8.le_iff_toNat_le] at h hlow
    have hle := UInt8.le_iff_toNat_le.mp hrange.1
    have : (0x7f : UInt8).toNat = 0x7f := rfl
    have : (0x80 : UInt8).toNat = 0x80 := rfl
    omega
  cases state with
  | start => exact if_pos h
  | _ => exact below _ _ _ (by decide)

theorem Ascii.isValid {text : Bytes} (h : Ascii text) : isValid text = true := by
  rw [isValid_iff]
  induction text with
  | nil => rfl
  | cons b rest ih =>
      rw [run_cons, step_of_ascii (h b List.mem_cons_self), if_pos rfl, Option.bind_some]
      exact ih fun c hc => h c (List.mem_cons_of_mem _ hc)

/-- Two texts with a character of one byte between them are judged each by itself. -/
theorem isValid_append_cons {b : UInt8} (h : b ≤ 0x7f) (first rest : Bytes) :
    isValid (first ++ b :: rest) = (isValid first && isValid rest) := by
  rw [Bool.eq_iff_iff, Bool.and_eq_true, isValid_iff, isValid_iff, isValid_iff, run_append]
  cases run .start first with
  | none => simp
  | some state =>
      rw [Option.bind_some, run_cons, step_of_ascii h]
      by_cases hstate : state = .start
      · simp [hstate]
      · simp [hstate]

theorem ascii_of_isDigit {text : Bytes} (h : ∀ b ∈ text, Decimal.isDigit b = true) :
    Ascii text := by
  intro b hb
  have hdigit := h b hb
  simp only [Decimal.isDigit, Bool.and_eq_true, decide_eq_true_eq] at hdigit
  exact UInt8.le_trans hdigit.2 (by decide)

theorem ascii_digits (n : Nat) : Ascii (Decimal.digits n) :=
  ascii_of_isDigit fun _ hb => Decimal.isDigit_of_mem_digits hb

/-- A byte that does not fit is where the reader starts anew. -/
theorem piecesFrom_of_misfit {state : State} {b : UInt8} (h : step state b = none)
    (begun rest : Bytes) : piecesFrom state begun (b :: rest) =
      (if begun = [] then [] else [.broken begun.reverse]) ++ piecesFrom .start [] (b :: rest) := by
  have hstart : step .start b = lead b := rfl
  simp only [piecesFrom, h, hstart]
  by_cases hbegun : begun = []
  · rcases lead b with _ | _ | _ <;> simp [hbegun]
  · rcases lead b with _ | _ | _ <;> simp [hbegun]

/-- The bytes of a character that has been read make up a valid text. -/
theorem isValid_of_mem_piecesFrom {state : State} {begun text bytes : Bytes}
    (h : run .start begun.reverse = some state)
    (hmem : .character bytes ∈ piecesFrom state begun text) : isValid bytes = true := by
  induction text generalizing state begun with
  | nil =>
      rw [piecesFrom] at hmem
      split at hmem
      · cases hmem
      · simp at hmem
  | cons b rest ih =>
      have further {earlier later : State} {before : Bytes}
          (hbefore : run .start before.reverse = some earlier)
          (hstep : step earlier b = some later) :
          run .start (b :: before).reverse = some later := by
        rw [List.reverse_cons, run_append, hbefore, Option.bind_some, run_cons, hstep]
        rfl
      have border : run .start (List.reverse ([] : Bytes)) = some .start := rfl
      -- a byte that fits carries on the character, whatever has been begun
      have fitting {earlier later : State} {before : Bytes}
          (hbefore : run .start before.reverse = some earlier)
          (hstep : step earlier b = some later)
          (hpiece : .character bytes ∈ piecesFrom earlier before (b :: rest)) :
          isValid bytes = true := by
        have hlater := further hbefore hstep
        simp only [piecesFrom, hstep] at hpiece
        split at hpiece
        · next heq =>
          obtain rfl := Option.some.inj heq
          rcases List.mem_cons.mp hpiece with hfirst | hrest
          · rw [Piece.character.inj hfirst, isValid_iff]
            exact hlater
          · exact ih border hrest
        · next heq =>
          obtain rfl := Option.some.inj heq
          exact ih hlater hpiece
        · next heq => cases heq
      cases hstep : step state b with
      | some later => exact fitting h hstep hmem
      | none =>
          rw [piecesFrom_of_misfit hstep] at hmem
          have fresh : .character bytes ∈ piecesFrom .start [] (b :: rest) := by
            rcases List.mem_append.mp hmem with hbroken | hfresh
            · split at hbroken
              · cases hbroken
              · simp at hbroken
            · exact hfresh
          cases hlead : step .start b with
          | some later => exact fitting border hlead fresh
          | none =>
              have hlead : lead b = none := hlead
              simp only [piecesFrom, step, hlead, if_true] at fresh
              exact ih border ((List.mem_cons.mp fresh).resolve_left nofun)

/-- Whatever the bytes are, what they are shown as is a text. -/
theorem isValid_lossy (text : Bytes) : isValid (lossy text) = true := by
  rw [lossy, List.flatMap_def]
  refine isValid_flatten fun shown hshown => ?_
  obtain ⟨piece, hpiece, rfl⟩ := List.mem_map.mp hshown
  cases piece with
  | character bytes => exact isValid_of_mem_piecesFrom rfl hpiece
  | broken bytes =>
      change isValid replacement = true
      decide

end BrainfuckCompiler.Utf8
