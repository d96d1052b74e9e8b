import BrainfuckCompiler.Bytes

/-!
# Braces of a C text

A C text is read byte by byte. What a brace means depends on where it stands: the
contents of string literals, character literals and comments are skipped, and a
backslash in a literal takes the next byte with it. Outside of them an opening brace
goes one block deeper, and a closing brace leaves a block or, at the outermost level,
is refused.

Refusing is what finds the partner of a brace: a reading that starts afresh right
after it stops at the first closing brace that closes nothing the reading has opened.
-/
namespace BrainfuckCompiler.C

def openBrace : UInt8 := 0x7b
def closeBrace : UInt8 := 0x7d

/-- Where the next byte stands. A slash in code may yet begin a comment, and a star in
a comment may end it. -/
inductive Mode where
  | code
  | slash
  | lineComment
  | blockComment
  | blockStar
  | string
  | stringEscape
  | character
  | characterEscape
  deriving DecidableEq, Repr

namespace Mode

def stepCode : UInt8 → Mode
  | 0x22 => .string
  | 0x27 => .character
  | 0x2f => .slash
  | _ => .code

def step : Mode → UInt8 → Mode
  | .code, b => stepCode b
  | .slash, 0x2f => .lineComment
  | .slash, 0x2a => .blockComment
  | .slash, b => stepCode b
  | .lineComment, 0x0a => .code
  | .lineComment, _ => .lineComment
  | .blockComment, 0x2a => .blockStar
  | .blockComment, _ => .blockComment
  | .blockStar, 0x2f => .code
  | .blockStar, 0x2a => .blockStar
  | .blockStar, _ => .blockComment
  | .string, 0x22 => .code
  | .string, 0x5c => .stringEscape
  | .string, _ => .string
  | .stringEscape, _ => .string
  | .character, 0x27 => .code
  | .character, 0x5c => .characterEscape
  | .character, _ => .character
  | .characterEscape, _ => .character

theorem step_string {b : UInt8} (hq : b ≠ doubleQuote) (hb : b ≠ backslash) :
    step .string b = .string := by
  rw [step]
  · exact hq
  · exact hb

/-- Whether a brace is a brace here. -/
def inCode : Mode → Bool
  | .code => true
  | .slash => true
  | _ => false

end Mode

/-- A reading in progress: where it stands, and how many blocks it has opened and not
left. -/
structure Reading where
  mode : Mode := .code
  depth : Nat := 0
  deriving DecidableEq, Repr

namespace Reading

/-- How one byte changes the number of open blocks. -/
def depthAfter (reading : Reading) (b : UInt8) : Option Nat :=
  if reading.mode.inCode = false then some reading.depth
  else if b = openBrace then some (reading.depth + 1)
  else if b = closeBrace then (if reading.depth = 0 then none else some (reading.depth - 1))
  else some reading.depth

def step (reading : Reading) (b : UInt8) : Option Reading :=
  (reading.depthAfter b).map fun depth => ⟨reading.mode.step b, depth⟩

/-- The reading after a text, if it is not stopped inside. -/
def after (reading : Reading) (text : Bytes) : Option Reading := text.foldlM step reading

/-- The offset of the byte that stops the reading. -/
def stop? : Reading → Bytes → Option Nat
  | _, [] => none
  | reading, b :: rest =>
      match reading.step b with
      | none => some 0
      | some next => (next.stop? rest).map (· + 1)

end Reading

/-- All braces are closed in the order in which they are opened, and the text ends
outside of literals and comments. -/
def WellNested (text : Bytes) : Prop := Reading.after {} text = some {}

instance (text : Bytes) : Decidable (WellNested text) := inferInstanceAs (Decidable (_ = _))

/-- The offset of the closing brace that belongs to the opening brace at `offset`. -/
def partner? (text : Bytes) (offset : Nat) : Option Nat :=
  if ((text.take offset).foldl Mode.step .code).inCode ∧ text[offset]? = some openBrace then
    (Reading.stop? {} (text.drop (offset + 1))).map (offset + 1 + ·)
  else none

namespace Reading

theorem after_nil (reading : Reading) : reading.after [] = some reading := rfl

theorem after_cons (reading : Reading) (b : UInt8) (rest : Bytes) :
    reading.after (b :: rest) = (reading.step b).bind (·.after rest) := by
  rw [after, List.foldlM_cons]
  rfl

theorem after_append (reading : Reading) (first second : Bytes) :
    reading.after (first ++ second) = (reading.after first).bind (·.after second) := by
  rw [after, List.foldlM_append]
  rfl

theorem after_append_of_eq {reading next : Reading} {first : Bytes}
    (h : reading.after first = some next) (second : Bytes) :
    reading.after (first ++ second) = next.after second := by
  rw [after_append, h, Option.bind_some]

/-- Where no brace is one, only the mode changes. -/
theorem step_of_not_inCode {mode : Mode} (h : mode.inCode = false) (depth : Nat) (b : UInt8) :
    step ⟨mode, depth⟩ b = some ⟨mode.step b, depth⟩ := by
  rw [step, depthAfter, if_pos h, Option.map_some]

theorem mode_of_step {reading next : Reading} {b : UInt8} (h : reading.step b = some next) :
    next.mode = reading.mode.step b := by
  obtain ⟨depth, -, rfl⟩ := Option.map_eq_some_iff.mp h
  rfl

/-- The blocks around a text do not change how it is read. -/
theorem step_deeper {reading next : Reading} {b : UInt8} (h : reading.step b = some next)
    (k : Nat) : step ⟨reading.mode, reading.depth + k⟩ b = some ⟨next.mode, next.depth + k⟩ := by
  obtain ⟨depth, hd, rfl⟩ := Option.map_eq_some_iff.mp h
  have deeper : depthAfter ⟨reading.mode, reading.depth + k⟩ b = some (depth + k) := by
    unfold depthAfter at hd ⊢
    grind
  rw [step, deeper, Option.map_some]

theorem after_deeper {reading next : Reading} {text : Bytes} (h : reading.after text = some next)
    (k : Nat) :
    after ⟨reading.mode, reading.depth + k⟩ text = some ⟨next.mode, next.depth + k⟩ := by
  induction text generalizing reading with
  | nil =>
      obtain rfl := Option.some.inj h
      rfl
  | cons b rest ih =>
      rw [after_cons] at h ⊢
      obtain ⟨middle, hb, hrest⟩ := Option.bind_eq_some_iff.mp h
      rw [step_deeper hb k]
      exact ih hrest

theorem mode_of_after {reading next : Reading} {text : Bytes} (h : reading.after text = some next) :
    next.mode = text.foldl Mode.step reading.mode := by
  induction text generalizing reading with
  | nil =>
      obtain rfl := Option.some.inj h
      rfl
  | cons b rest ih =>
      rw [after_cons] at h
      obtain ⟨middle, hb, hrest⟩ := Option.bind_eq_some_iff.mp h
      rw [ih hrest, mode_of_step hb, List.foldl_cons]

/-- Only a closing brace of the outermost level stops a reading. -/
theorem step_closeBrace_eq_none_iff (reading : Reading) :
    reading.step closeBrace = none ↔ reading.mode.inCode = true ∧ reading.depth = 0 := by
  have distinct : closeBrace ≠ openBrace := by decide
  simp only [step, Option.map_eq_none_iff, depthAfter, if_neg distinct, if_pos]
  cases reading.mode.inCode <;> simp

/-- A reading stops at a given closing brace exactly if it arrives there in code, with
all its blocks left. -/
theorem stop?_append_closeBrace_iff (reading : Reading) (inner rest : Bytes) :
    reading.stop? (inner ++ closeBrace :: rest) = some inner.length ↔
      ∃ next, reading.after inner = some next ∧ next.mode.inCode = true ∧ next.depth = 0 := by
  induction inner generalizing reading with
  | nil =>
      have arrived := step_closeBrace_eq_none_iff reading
      rw [List.nil_append, stop?, after_nil]
      cases h : reading.step closeBrace with
      | none => simpa using arrived.mp h
      | some next =>
          rw [h] at arrived
          simpa using arrived
  | cons b more ih =>
      rw [List.cons_append, stop?, after_cons]
      cases h : reading.step b with
      | none => simp
      | some next => simpa using ih next

end Reading

/-- The partner of a brace in code is a given closing brace exactly if what stands between
them leaves all the blocks that it opens. -/
theorem partner?_eq_some_iff {before : Bytes} (h : (before.foldl Mode.step .code).inCode = true)
    (inner rest : Bytes) :
    partner? (before ++ openBrace :: (inner ++ closeBrace :: rest)) before.length =
        some (before ++ openBrace :: inner).length ↔
      ∃ next, Reading.after {} inner = some next ∧ next.mode.inCode = true ∧ next.depth = 0 := by
  have hpartner : partner? (before ++ openBrace :: (inner ++ closeBrace :: rest)) before.length =
      (Reading.stop? {} (inner ++ closeBrace :: rest)).map (before.length + 1 + ·) := by
    simp [partner?, h, ← List.drop_drop]
  rw [hpartner, ← Reading.stop?_append_closeBrace_iff {} inner rest]
  cases Reading.stop? {} (inner ++ closeBrace :: rest) with
  | none => simp
  | some offset =>
      simp only [Option.map_some, Option.some.injEq, List.length_append, List.length_cons]
      omega

example : partner? (ascii "f() \x7b '\x7d'; \x7b\x7d \x7d") 4 = some 14 := by decide +kernel

namespace WellNested
open Reading

theorem nil : WellNested [] := rfl

theorem append {first second : Bytes} (h : WellNested first) (k : WellNested second) :
    WellNested (first ++ second) := by
  rw [WellNested, after_append_of_eq h]
  exact k

theorem flatten {pieces : List Bytes} (h : ∀ piece ∈ pieces, WellNested piece) :
    WellNested pieces.flatten := by
  induction pieces with
  | nil => exact nil
  | cons piece rest ih =>
      rw [List.flatten_cons]
      exact (h piece List.mem_cons_self).append (ih fun p hp => h p (List.mem_cons_of_mem _ hp))

/-- A well-nested text can stand in any block. -/
theorem after_eq {text : Bytes} (h : WellNested text) (depth : Nat) :
    after ⟨.code, depth⟩ text = some ⟨.code, depth⟩ := by
  have := after_deeper h depth
  simpa only [Nat.zero_add] using this

theorem block {first inner last : Bytes} (hf : after {} first = some ⟨.code, 1⟩)
    (hi : WellNested inner) (hl : after ⟨.code, 1⟩ last = some {}) :
    WellNested (first ++ (inner ++ last)) := by
  rw [WellNested, after_append_of_eq hf, after_append_of_eq (hi.after_eq 1), hl]

/-- Bytes that neither open nor close anything can stand anywhere in code. -/
theorem of_plain {text : Bytes}
    (h : ∀ b ∈ text, Mode.stepCode b = .code ∧ b ≠ openBrace ∧ b ≠ closeBrace) :
    WellNested text := by
  induction text with
  | nil => exact nil
  | cons b rest ih =>
      obtain ⟨hmode, ho, hc⟩ := h b List.mem_cons_self
      have hstep : step {} b = some {} := by
        simp [step, depthAfter, ho, hc, Mode.step, hmode]
      rw [WellNested, after_cons, hstep]
      exact ih fun c hcRest => h c (List.mem_cons_of_mem _ hcRest)

end WellNested

end BrainfuckCompiler.C
