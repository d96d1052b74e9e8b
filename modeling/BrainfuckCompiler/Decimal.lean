import BrainfuckCompiler.Bytes

/-!
# Decimal numerals

Numbers are written without leading zeros. They are read from an optional
plus sign and any number of digits, leading zeros included; a value that does
not fit in 64 bits is not a number here.
-/
namespace BrainfuckCompiler.Decimal

/-- The shortest decimal numeral of `n`. -/
def digits (n : Nat) : Bytes := (Nat.toDigits 10 n).map Char.toUInt8

def isDigit (b : UInt8) : Bool := 0x30 ≤ b && b ≤ 0x39

/-- The positional value of a run of digits. -/
def value (text : Bytes) : Nat :=
  text.foldl (fun n b => 10 * n + (b.toNat - 0x30)) 0

/-- The positional value of a run of digits, or `cap` if it is larger. Numerals
of any length are read without large numbers. -/
def cappedValue (cap : Nat) (text : Bytes) : Nat :=
  text.foldl (fun n b => min cap (10 * n + (b.toNat - 0x30))) 0

theorem cappedValue_eq (cap : Nat) (text : Bytes) : cappedValue cap text = min cap (value text) := by
  have step (n m : Nat) (h : n = min cap m) :
      text.foldl (fun n b => min cap (10 * n + (b.toNat - 0x30))) n
        = min cap (text.foldl (fun n b => 10 * n + (b.toNat - 0x30)) m) := by
    induction text generalizing n m with
    | nil => exact h
    | cons b rest ih => exact ih _ _ (by dsimp only; omega)
  exact step 0 0 (by omega)

/-- One optional plus sign is not part of the digits. -/
def dropSign : Bytes → Bytes
  | 0x2b :: rest => rest
  | text => text

/-- A 64-bit number: an optional plus sign and at least one digit. -/
def read? (text : Bytes) : Option UInt64 :=
  let numeral := dropSign text
  let value := cappedValue UInt64.size numeral
  if numeral ≠ [] ∧ numeral.all isDigit = true ∧ value < UInt64.size then
    some (UInt64.ofNat value)
  else
    none

/-- The numbers are those whose positional value fits in 64 bits. -/
theorem read?_eq (text : Bytes) :
    read? text =
      if dropSign text ≠ [] ∧ (dropSign text).all isDigit = true
          ∧ value (dropSign text) < UInt64.size then
        some (UInt64.ofNat (value (dropSign text)))
      else none := by
  unfold read?
  simp only [cappedValue_eq]
  by_cases h : value (dropSign text) < UInt64.size
  · rw [Nat.min_eq_right (Nat.le_of_lt h)]
  · simp [Nat.min_eq_left (Nat.le_of_not_lt h), h]

/-- The numeral of `n`, filled up with zeros to `width` digits. -/
def padded (width n : Nat) : Bytes :=
  List.replicate (width - (digits n).length) 0x30 ++ digits n

end BrainfuckCompiler.Decimal
