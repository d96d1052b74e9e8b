import BrainfuckCompiler.Decimal

/-!
# Decimal numerals stand for their numbers

The numeral of a number consists of digits, and its positional value is the number.
Two numbers with one numeral are therefore equal. No numeral is longer than it has to be.
-/
namespace BrainfuckCompiler.Decimal

theorem toNat_toUInt8 {c : Char} (h : c.isDigit) : c.toUInt8.toNat = c.toNat := by
  obtain ⟨-, hle⟩ := Char.isDigit_iff_toNat.mp h
  have hmod : c.toUInt8.toNat = c.toNat % 256 := UInt32.toNat_toUInt8 c.val
  have : '9'.toNat = 57 := rfl
  omega

theorem isDigit_of_mem_digits {n : Nat} {b : UInt8} (h : b ∈ digits n) : isDigit b := by
  obtain ⟨c, hc, rfl⟩ := List.mem_map.mp h
  have hdigit := Nat.isDigit_of_mem_toDigits (by decide) (by decide) hc
  have hbounds := Char.isDigit_iff_toNat.mp hdigit
  rw [← toNat_toUInt8 hdigit] at hbounds
  simpa [isDigit, UInt8.le_iff_toNat_le] using hbounds

theorem value_digits (n : Nat) : value (digits n) = n := by
  have run (list : List Char) (h : ∀ c ∈ list, c.isDigit) (start : Nat) :
      (list.map Char.toUInt8).foldl (fun m b => 10 * m + (b.toNat - 0x30)) start =
        Nat.ofDigitChars 10 list start := by
    induction list generalizing start with
    | nil => rfl
    | cons c rest ih =>
        rw [List.map_cons, List.foldl_cons, toNat_toUInt8 (h c List.mem_cons_self),
          ih fun d hd => h d (List.mem_cons_of_mem _ hd)]
        rfl
  rw [value, digits, run _ fun c hc => Nat.isDigit_of_mem_toDigits (by decide) (by decide) hc]
  exact Nat.ofDigitChars_ten_toDigits

/-- The numeral of a number other than zero does not begin with a zero. -/
theorem head?_digits_ne_zero {n : Nat} (h : n ≠ 0) : (digits n).head? ≠ some 0x30 := by
  induction n using Nat.strongRecOn with
  | ind n ih =>
    by_cases hsmall : n < 10
    · have single : ∀ d < 10, d ≠ 0 → (Nat.digitChar d).toUInt8 ≠ 0x30 := by decide
      rw [digits, Nat.toDigits_of_lt_base hsmall]
      exact fun heq => single n hsmall h (Option.some.inj heq)
    · have hfront : (digits (n / 10)).head? ≠ some 0x30 := ih (n / 10) (by omega) (by omega)
      have hstep : digits n = digits (n / 10) ++ [(Nat.digitChar (n % 10)).toUInt8] := by
        rw [digits, Nat.toDigits_of_base_le (by decide) (by omega), List.map_append]
        rfl
      obtain ⟨b, rest, hcons⟩ : ∃ b rest, digits (n / 10) = b :: rest :=
        List.exists_cons_of_ne_nil (by simp [digits])
      rw [hcons] at hstep hfront
      rw [hstep]
      exact hfront

end BrainfuckCompiler.Decimal
