import BrainfuckCompiler.Interface
import BrainfuckCompiler.Proofs.Decimal
import BrainfuckCompiler.Proofs.Layout
import BrainfuckCompiler.Proofs.StringLiteral

/-!
# Spellings that show where they end

Most parts of a generated program depend on one setting each and are followed by other
parts. If the spelling of a value shows by itself where it ends, the value and the rest of
the text can be told from the whole text, whatever the rest is. For a few fixed spellings
it is enough that none of them begins another; numerals end at the first byte that is no
digit, and literals at the first quote that is not escaped.

The string variables of a program are different, since an absent variable has no text at
all. They are told apart by what the text after them cannot begin with.
-/
namespace BrainfuckCompiler

/-- Value and rest can be told from the text, whatever the rest is. -/
def SelfDelimiting {α : Type} (spell : α → Bytes) : Prop :=
  ∀ ⦃a b : α⦄ ⦃rest other : Bytes⦄, spell a ++ rest = spell b ++ other → a = b ∧ rest = other

namespace SelfDelimiting

theorem of_not_prefix {α : Type} {spell : α → Bytes} (h : ∀ a b, spell a <+: spell b → a = b) :
    SelfDelimiting spell := by
  intro a b rest other heq
  have first : spell a <+: spell b ++ other := heq ▸ List.prefix_append _ _
  obtain rfl : a = b := by
    rcases List.prefix_or_prefix_of_prefix first (List.prefix_append _ _) with hab | hba
    · exact h a b hab
    · exact (h b a hba).symm
  exact ⟨rfl, List.append_cancel_left heq⟩

theorem typeName : SelfDelimiting fun width : CellWidth => ascii width.typeName := by
  apply of_not_prefix
  intro a b
  cases a <;> cases b <;> decide

theorem positionalCode :
    SelfDelimiting fun meaning => (Interface.positionalCode meaning).flatten := by
  apply of_not_prefix
  intro a b
  cases a <;> cases b <;> decide +kernel

theorem literal : SelfDelimiting fun text => StringLiteral.escape text ++ [doubleQuote] := by
  intro first second rest other heq
  have hread := congrArg StringLiteral.read heq
  simp only [List.append_assoc, List.singleton_append, StringLiteral.read_escape,
    Option.some.injEq, Prod.mk.injEq] at hread
  exact hread

theorem numeral : SelfDelimiting fun n => Decimal.digits n ++ [comma] := by
  intro m n rest other heq
  have digits (k : Nat) (tail : Bytes) :
      (Decimal.digits k ++ [comma] ++ tail).takeWhile Decimal.isDigit = Decimal.digits k := by
    rw [List.append_assoc,
      List.takeWhile_append_of_pos fun b hb => Decimal.isDigit_of_mem_digits hb]
    exact List.append_nil _
  have hdigits : Decimal.digits m = Decimal.digits n := by
    rw [← digits m rest, ← digits n other]
    exact congrArg _ heq
  obtain rfl : m = n := by
    rw [← Decimal.value_digits m, ← Decimal.value_digits n, hdigits]
  exact ⟨rfl, List.append_cancel_left heq⟩

end SelfDelimiting

/-- The text of a string variable and the rest, of which it is only known that it does not
begin with the variable itself. -/
theorem Frame.variable_inj {name : String} {text second : Option Bytes} {rest other : Bytes}
    (hr : ¬ variableHead name <+: rest) (ho : ¬ variableHead name <+: other)
    (h : (variableFragments name text).flatten ++ rest =
      (variableFragments name second).flatten ++ other) : text = second ∧ rest = other := by
  have layout (text rest : Bytes) : (variableFragments name (some text)).flatten ++ rest =
      variableHead name ++
        (StringLiteral.escape text ++ [doubleQuote] ++ (ascii ";\n" ++ rest)) := by
    rw [flatten_variableFragments, List.append_assoc, List.append_assoc _ (ascii ";\n")]
  have begins (text rest : Bytes) : variableHead name <+:
      (variableFragments name (some text)).flatten ++ rest :=
    layout text rest ▸ List.prefix_append _ _
  cases text with
  | none =>
      cases second with
      | none => exact ⟨rfl, h⟩
      | some second =>
          have h : rest = _ := h
          exact absurd (h ▸ begins second other) hr
  | some text =>
      cases second with
      | none =>
          have h : _ = other := h
          exact absurd (h ▸ begins text rest) ho
      | some second =>
          rw [layout, layout] at h
          obtain ⟨rfl, hrest⟩ := SelfDelimiting.literal (List.append_cancel_left h)
          exact ⟨rfl, List.append_cancel_left hrest⟩

end BrainfuckCompiler
