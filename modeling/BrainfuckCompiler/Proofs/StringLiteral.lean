import BrainfuckCompiler.StringLiteral

/-!
# Reading the bodies of C string literals

The reader takes a literal from the byte behind its opening quote. It decodes the four
escapes, copies every other byte and stops at the first quote that is not escaped; a
raw line end or an unknown escape is no literal. Whatever follows the closing quote, the
reader finds the text that was spelled and leaves the rest alone.
-/
namespace BrainfuckCompiler.StringLiteral

/-- The byte that a letter stands for behind a backslash. -/
def unescape? : UInt8 → Option UInt8
  | 0x6e => some newline
  | 0x74 => some 0x09
  | 0x22 => some doubleQuote
  | 0x5c => some backslash
  | _ => none

/-- Reads on in a literal, right behind a backslash or not. -/
def readFrom : Bool → Bytes → Option (Bytes × Bytes)
  | _, [] => none
  | true, letter :: rest =>
      (unescape? letter).bind fun b => (readFrom false rest).map (Prod.map (b :: ·) id)
  | false, b :: rest =>
      if b = doubleQuote then some ([], rest)
      else if b = newline then none
      else if b = backslash then readFrom true rest
      else (readFrom false rest).map (Prod.map (b :: ·) id)

/-- The text of a literal and what follows its closing quote. -/
def read (literal : Bytes) : Option (Bytes × Bytes) := readFrom false literal

theorem read_escapeByte (b : UInt8) (rest : Bytes) :
    read (escapeByte b ++ rest) = (read rest).map (Prod.map (b :: ·) id) := by
  unfold escapeByte
  split
  · rfl
  · rfl
  · rfl
  · rfl
  · next _ hn _ hq hb =>
    have plain : b ≠ doubleQuote ∧ b ≠ newline ∧ b ≠ backslash := ⟨hq, hn, hb⟩
    simp only [List.singleton_append, read, readFrom, plain, if_false]

/-- A spelled text is read back, with anything behind the literal. -/
theorem read_escape (text rest : Bytes) :
    read (escape text ++ doubleQuote :: rest) = some (text, rest) := by
  induction text with
  | nil => rfl
  | cons b more ih =>
      have spelled : escape (b :: more) = escapeByte b ++ escape more := rfl
      rw [spelled, List.append_assoc, read_escapeByte, ih, Option.map_some]
      rfl

end BrainfuckCompiler.StringLiteral
