import BrainfuckCompiler.Proofs.Utf8

/-!
# Valid texts are the encodings of characters

The reader of texts goes by ranges of bytes, with a state for each first byte that narrows the
range of the second. Here it meets the encoding of characters by their numbers. Between the two
stand the four shapes of a character: by its numbers every character has one of them and every
shape is that of a character, and the reader gets from border to border over exactly these.
-/
namespace BrainfuckCompiler.Utf8

/-- The least byte that may come next inside a character. -/
def low : State → Nat
  | .afterE0 => 0xa0
  | .afterF0 => 0x90
  | _ => 0x80

/-- The greatest byte that may come next inside a character. -/
def high : State → Nat
  | .afterED => 0x9f
  | .afterF4 => 0x8f
  | _ => 0xbf

/-- The state behind the next byte of a character. -/
def further : State → State
  | .twoLeft | .afterE0 | .afterED => .oneLeft
  | .threeLeft | .afterF0 | .afterF4 => .twoLeft
  | _ => .start

theorem step_inside {state : State} (h : state ≠ .start) (b : UInt8) : step state b =
    if low state ≤ b.toNat ∧ b.toNat ≤ high state then some (further state) else none := by
  cases state with
  | start => exact absurd rfl h
  | _ =>
      simp only [step, within, UInt8.le_iff_toNat_le]
      rfl

/-- What the first byte of a character says, in numbers. -/
theorem lead_eq (b : UInt8) : lead b =
    if b.toNat ≤ 0x7f then some .start
    else if 0xc2 ≤ b.toNat ∧ b.toNat ≤ 0xdf then some .oneLeft
    else if b.toNat = 0xe0 then some .afterE0
    else if b.toNat = 0xed then some .afterED
    else if 0xe1 ≤ b.toNat ∧ b.toNat ≤ 0xef then some .twoLeft
    else if b.toNat = 0xf0 then some .afterF0
    else if 0xf1 ≤ b.toNat ∧ b.toNat ≤ 0xf3 then some .threeLeft
    else if b.toNat = 0xf4 then some .afterF4
    else none := by
  simp only [lead, UInt8.le_iff_toNat_le, ← UInt8.toNat_inj]
  rfl

/-- The byte carries on a character. -/
def Continues (b : UInt8) : Prop := 0x80 ≤ b.toNat ∧ b.toNat ≤ 0xbf

/-- The byte sequences of single characters, by length. A character is written with as few
bytes as possible, and some numbers are not those of characters. -/
inductive Shape : Bytes → Prop
  | one {a : UInt8} : a.toNat ≤ 0x7f → Shape [a]
  | two {a b : UInt8} : 0xc2 ≤ a.toNat → a.toNat ≤ 0xdf → Continues b → Shape [a, b]
  | three {a b c : UInt8} : 0xe0 ≤ a.toNat → a.toNat ≤ 0xef → Continues b → Continues c →
      (a.toNat = 0xe0 → 0xa0 ≤ b.toNat) → (a.toNat = 0xed → b.toNat ≤ 0x9f) → Shape [a, b, c]
  | four {a b c d : UInt8} : 0xf0 ≤ a.toNat → a.toNat ≤ 0xf4 → Continues b → Continues c →
      Continues d → (a.toNat = 0xf0 → 0x90 ≤ b.toNat) → (a.toNat = 0xf4 → b.toNat ≤ 0x8f) →
      Shape [a, b, c, d]

theorem shape_utf8EncodeChar (character : Char) : Shape (String.utf8EncodeChar character) := by
  have hvalid : character.val.toNat.isValidChar := character.valid
  have narrow {n : Nat} (h : n < 256) : (UInt8.ofNat n).toNat = n := UInt8.toNat_ofNat_of_lt' h
  unfold Nat.isValidChar at hvalid
  unfold String.utf8EncodeChar
  generalize character.val.toNat = v at hvalid
  have last : Continues (UInt8.ofNat (v % 64 + 128)) := by
    rw [Continues, narrow (by omega)]
    omega
  have middle : Continues (UInt8.ofNat (v / 64 % 64 + 128)) := by
    rw [Continues, narrow (by omega)]
    omega
  dsimp only
  split
  · refine .one ?_
    rw [narrow (by omega)]
    omega
  split
  · refine .two ?_ ?_ last
    all_goals rw [narrow (by omega)]; omega
  split
  · refine .three ?_ ?_ middle last ?_ ?_
    all_goals rw [narrow (by omega)]
    · omega
    · omega
    all_goals rw [narrow (by omega)]; omega
  · have second : Continues (UInt8.ofNat (v / 4096 % 64 + 128)) := by
      rw [Continues, narrow (by omega)]
      omega
    refine .four ?_ ?_ second middle last ?_ ?_
    all_goals rw [narrow (by omega)]
    · omega
    · omega
    all_goals rw [narrow (by omega)]; omega

theorem exists_utf8EncodeChar_of_shape {bytes : Bytes} (h : Shape bytes) :
    ∃ character, String.utf8EncodeChar character = bytes := by
  have encoded {v : Nat} (hv : v.isValidChar) : (Char.ofNat v).val.toNat = v := by
    rw [Char.ofNat, dif_pos hv]
    rfl
  have back {n : Nat} {b : UInt8} (hn : n = b.toNat) : UInt8.ofNat n = b := by
    rw [hn, UInt8.ofNat_toNat]
  cases h with
  | @one a ha =>
      refine ⟨Char.ofNat a.toNat, ?_⟩
      rw [String.utf8EncodeChar, encoded (.inl (by omega))]
      rw [if_pos ha, UInt8.ofNat_toNat]
  | @two a b hlow hhigh hb =>
      unfold Continues at hb
      refine ⟨Char.ofNat (64 * (a.toNat - 0xc0) + (b.toNat - 0x80)), ?_⟩
      rw [String.utf8EncodeChar, encoded (.inl (by omega))]
      rw [if_neg (by omega), if_pos (by omega), back (b := a) (by omega), back (b := b) (by omega)]
  | @three a b c hlow hhigh hb hc long plain =>
      unfold Continues at hb hc
      refine ⟨Char.ofNat (4096 * (a.toNat - 0xe0) + 64 * (b.toNat - 0x80) + (c.toNat - 0x80)), ?_⟩
      rw [String.utf8EncodeChar, encoded (by unfold Nat.isValidChar; omega)]
      rw [if_neg (by omega), if_neg (by omega), if_pos (by omega), back (b := a) (by omega),
        back (b := b) (by omega), back (b := c) (by omega)]
  | @four a b c d hlow hhigh hb hc hd long small =>
      unfold Continues at hb hc hd
      refine ⟨Char.ofNat (262144 * (a.toNat - 0xf0) + 4096 * (b.toNat - 0x80) +
        64 * (c.toNat - 0x80) + (d.toNat - 0x80)), ?_⟩
      rw [String.utf8EncodeChar, encoded (.inr (by omega))]
      rw [if_neg (by omega), if_neg (by omega), if_neg (by omega), back (b := a) (by omega),
        back (b := b) (by omega), back (b := c) (by omega), back (b := d) (by omega)]

theorem run_inside (state : State) (h : state ≠ .start) {b : UInt8}
    (hb : low state ≤ b.toNat ∧ b.toNat ≤ high state) (rest : Bytes) :
    run state (b :: rest) = run (further state) rest := by
  rw [run_cons, step_inside h, if_pos hb, Option.bind_some]

theorem run_of_shape {bytes : Bytes} (h : Shape bytes) : run .start bytes = some .start := by
  cases h with
  | one ha =>
      rw [run_cons, step, lead_eq, if_pos ha]
      rfl
  | two hlow hhigh hb =>
      rw [run_cons, step, lead_eq, if_neg (by omega), if_pos ⟨hlow, hhigh⟩, Option.bind_some]
      exact run_inside .oneLeft (by decide) hb []
  | @three a b c hlow hhigh hb hc long plain =>
      have tail : run .oneLeft [c] = some .start := run_inside .oneLeft (by decide) hc []
      rw [run_cons, step, lead_eq, if_neg (by omega), if_neg (by omega), ← tail]
      split
      · next ha => exact run_inside .afterE0 (by decide) ⟨long ha, hb.2⟩ [c]
      split
      · next ha => exact run_inside .afterED (by decide) ⟨hb.1, plain ha⟩ [c]
      · rw [if_pos (by omega)]
        exact run_inside .twoLeft (by decide) hb [c]
  | @four a b c d hlow hhigh hb hc hd long small =>
      have tail : run .twoLeft [c, d] = some .start :=
        (run_inside .twoLeft (by decide) hc [d]).trans (run_inside .oneLeft (by decide) hd [])
      rw [run_cons, step, lead_eq, if_neg (by omega), if_neg (by omega), if_neg (by omega),
        if_neg (by omega), if_neg (by omega), ← tail]
      split
      · next ha => exact run_inside .afterF0 (by decide) ⟨long ha, hb.2⟩ [c, d]
      split
      · exact run_inside .threeLeft (by decide) hb [c, d]
      · rw [if_pos (by omega)]
        exact run_inside .afterF4 (by decide) ⟨hb.1, small (by omega)⟩ [c, d]

/-- A reader inside a character has a byte of the right range in front of it. -/
theorem exists_of_run (state : State) (hinside : state ≠ .start) {text : Bytes}
    (h : run state text = some .start) : ∃ b rest, text = b :: rest ∧
      (low state ≤ b.toNat ∧ b.toNat ≤ high state) ∧ run (further state) rest = some .start := by
  cases text with
  | nil => exact absurd (Option.some.inj h) hinside
  | cons b rest =>
      rw [run_cons, step_inside hinside] at h
      split at h
      · next hb => exact ⟨b, rest, rfl, hb, h⟩
      · cases h

theorem exists_two_of_run {state : State} (hstate : further state = .oneLeft) {text : Bytes}
    (h : run state text = some .start) : ∃ b c rest, text = b :: c :: rest ∧
      (low state ≤ b.toNat ∧ b.toNat ≤ high state) ∧ Continues c ∧
        run .start rest = some .start := by
  have hinside : state ≠ .start := by
    rintro rfl
    cases hstate
  obtain ⟨b, text, rfl, hb, h⟩ := exists_of_run _ hinside h
  rw [hstate] at h
  obtain ⟨c, rest, rfl, hc, h⟩ := exists_of_run .oneLeft (by decide) h
  exact ⟨b, c, rest, rfl, hb, hc, h⟩

theorem exists_three_of_run {state : State} (hstate : further state = .twoLeft) {text : Bytes}
    (h : run state text = some .start) : ∃ b c d rest, text = b :: c :: d :: rest ∧
      (low state ≤ b.toNat ∧ b.toNat ≤ high state) ∧ Continues c ∧ Continues d ∧
        run .start rest = some .start := by
  have hinside : state ≠ .start := by
    rintro rfl
    cases hstate
  obtain ⟨b, text, rfl, hb, h⟩ := exists_of_run _ hinside h
  rw [hstate] at h
  obtain ⟨c, d, rest, rfl, hc, hd, h⟩ := exists_two_of_run rfl h
  exact ⟨b, c, d, rest, rfl, hb, hc, hd, h⟩

theorem exists_shape_of_run {a : UInt8} {text : Bytes} (h : run .start (a :: text) = some .start) :
    ∃ bytes rest, text = bytes ++ rest ∧ Shape (a :: bytes) ∧ run .start rest = some .start := by
  rw [run_cons, Option.bind_eq_some_iff] at h
  obtain ⟨state, hlead, h⟩ := h
  rw [step, lead_eq] at hlead
  split at hlead
  · next ha =>
    cases hlead
    exact ⟨[], text, rfl, .one ha, h⟩
  split at hlead
  · next ha =>
    cases hlead
    obtain ⟨b, rest, rfl, hb, h⟩ := exists_of_run .oneLeft (by decide) h
    exact ⟨[b], rest, rfl, .two ha.1 ha.2 hb, h⟩
  split at hlead
  · next ha =>
    cases hlead
    obtain ⟨b, c, rest, rfl, hb, hc, h⟩ := exists_two_of_run rfl h
    have hb : 0xa0 ≤ b.toNat ∧ b.toNat ≤ 0xbf := hb
    exact ⟨[b, c], rest, rfl, .three (by omega) (by omega) ⟨by omega, hb.2⟩ hc (fun _ => hb.1)
      (by omega), h⟩
  split at hlead
  · next ha =>
    cases hlead
    obtain ⟨b, c, rest, rfl, hb, hc, h⟩ := exists_two_of_run rfl h
    have hb : 0x80 ≤ b.toNat ∧ b.toNat ≤ 0x9f := hb
    exact ⟨[b, c], rest, rfl, .three (by omega) (by omega) ⟨hb.1, by omega⟩ hc (by omega)
      (fun _ => hb.2), h⟩
  split at hlead
  · next hnot hneither ha =>
    cases hlead
    obtain ⟨b, c, rest, rfl, hb, hc, h⟩ := exists_two_of_run rfl h
    exact ⟨[b, c], rest, rfl, .three (by omega) ha.2 hb hc (by omega) (by omega), h⟩
  split at hlead
  · next ha =>
    cases hlead
    obtain ⟨b, c, d, rest, rfl, hb, hc, hd, h⟩ := exists_three_of_run rfl h
    have hb : 0x90 ≤ b.toNat ∧ b.toNat ≤ 0xbf := hb
    exact ⟨[b, c, d], rest, rfl, .four (by omega) (by omega) ⟨by omega, hb.2⟩ hc hd
      (fun _ => hb.1) (by omega), h⟩
  split at hlead
  · next ha =>
    cases hlead
    obtain ⟨b, c, d, rest, rfl, hb, hc, hd, h⟩ := exists_three_of_run rfl h
    exact ⟨[b, c, d], rest, rfl, .four (by omega) (by omega) hb hc hd (by omega) (by omega), h⟩
  split at hlead
  · next ha =>
    cases hlead
    obtain ⟨b, c, d, rest, rfl, hb, hc, hd, h⟩ := exists_three_of_run rfl h
    have hb : 0x80 ≤ b.toNat ∧ b.toNat ≤ 0x8f := hb
    exact ⟨[b, c, d], rest, rfl, .four (by omega) (by omega) ⟨hb.1, by omega⟩ hc hd (by omega)
      (fun _ => hb.2), h⟩
  · cases hlead

/-- The text is the encoding of some characters. -/
def IsText (text : Bytes) : Prop :=
  ∃ characters : List Char, characters.flatMap String.utf8EncodeChar = text

/-- A text is valid exactly if it encodes characters. -/
theorem isValid_iff_isText (text : Bytes) : isValid text = true ↔ IsText text := by
  constructor
  · intro h
    rw [isValid_iff] at h
    induction hlength : text.length using Nat.strongRecOn generalizing text with
    | ind n ih =>
      cases text with
      | nil => exact ⟨[], rfl⟩
      | cons a text =>
          obtain ⟨bytes, rest, rfl, hshape, hrest⟩ := exists_shape_of_run h
          obtain ⟨character, hcharacter⟩ := exists_utf8EncodeChar_of_shape hshape
          have hshort : rest.length < n := by
            rw [← hlength, List.length_cons, List.length_append]
            omega
          obtain ⟨characters, hcharacters⟩ := ih _ hshort rest hrest rfl
          refine ⟨character :: characters, ?_⟩
          rw [List.flatMap_cons, hcharacter, hcharacters, List.cons_append]
  · rintro ⟨characters, rfl⟩
    rw [List.flatMap_def]
    refine isValid_flatten fun bytes hbytes => ?_
    obtain ⟨character, -, rfl⟩ := List.mem_map.mp hbytes
    exact (isValid_iff _).mpr (run_of_shape (shape_utf8EncodeChar character))

end BrainfuckCompiler.Utf8
