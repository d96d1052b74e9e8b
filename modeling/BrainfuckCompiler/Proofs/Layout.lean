import BrainfuckCompiler.Program

/-!
# The statements of a program as a list

The text between the preamble and the epilogue is a sequence of lines, one
statement each. Here it is taken apart as far as the source decides it: the
operators of the source, the statements of all operators in order, and their
lines. The usage of a program is a matter of two bytes of the source.
-/
namespace BrainfuckCompiler

theorem mem_operators (source : Bytes) (operator : Operator) :
    operator ∈ operators source ↔ operator.byte ∈ source := by
  simp only [operators, List.mem_filterMap, Operator.ofByte?_eq_some_iff]
  constructor
  · rintro ⟨b, hb, rfl⟩
    exact hb
  · intro h
    exact ⟨_, h, rfl⟩

/-- The operators are spelled by these eight bytes. -/
theorem Operator.mem_bytes_iff (b : UInt8) :
    b ∈ ascii "+-<>,.[]" ↔ ∃ operator, Operator.ofByte? b = some operator := by
  constructor
  · intro h
    have spelled : (ascii "+-<>,.[]").all (fun c => (Operator.ofByte? c).isSome) = true := rfl
    exact Option.isSome_iff_exists.mp (List.all_eq_true.mp spelled b h)
  · rintro ⟨operator, h⟩
    obtain rfl := (Operator.ofByte?_eq_some_iff b operator).mp h
    cases operator <;> decide

/-- The operator bytes of a source are the bytes of its operators. -/
theorem filter_bytes_eq (source : Bytes) :
    source.filter (· ∈ ascii "+-<>,.[]") = (operators source).map Operator.byte := by
  induction source with
  | nil => rfl
  | cons b rest ih =>
      have spelled := Operator.mem_bytes_iff b
      cases h : Operator.ofByte? b with
      | none =>
          rw [List.filter_cons_of_neg (by simp [spelled, h]), ih, operators, operators,
            List.filterMap_cons_none h]
      | some operator =>
          rw [List.filter_cons_of_pos (by simp [spelled, h]), ih, operators, operators,
            List.filterMap_cons_some h, List.map_cons,
            ← (Operator.ofByte?_eq_some_iff b operator).mp h]

namespace Usage

theorem foldl_add (list : List Operator) (usage : Usage) :
    list.foldl add usage =
      ⟨usage.reads || decide (Operator.get ∈ list), usage.writes || decide (Operator.put ∈ list)⟩ := by
  induction list generalizing usage with
  | nil => simp
  | cons operator rest ih =>
      rw [List.foldl_cons, ih]
      cases operator <;> simp [add]

/-- A program reads or writes exactly if its source holds the operator. -/
theorem ofSource_eq (source : Bytes) :
    ofSource source = ⟨decide (comma ∈ source), decide (dot ∈ source)⟩ := by
  rw [ofSource, foldl_add]
  simp only [mem_operators, Bool.false_or]
  rfl

end Usage

theorem Statement.text_ne_nil (statement : Statement) : statement.text ≠ [] := by
  cases statement with
  | store width => cases width <;> decide
  | storeUnlessEnd width => cases width <;> decide
  | _ => decide

theorem Operator.statements_ne_nil (settings : Settings) (operator : Operator) :
    operator.statements settings ≠ [] := by
  cases operator with
  | put =>
      simp only [statements]
      split <;> simp
  | _ => simp [statements]

theorem Operator.flatten_fragments (settings : Settings) (operator : Operator) :
    (operator.fragments settings).flatten = (operator.statements settings).flatMap Statement.text := by
  simp only [fragments, List.flatMap_def, List.flatten_flatten, List.map_map]
  rfl

/-- What the text of a string variable begins with. -/
def Frame.variableHead (name : String) : Bytes :=
  ascii "static char* " ++ ascii name ++ ascii " = \""

/-- A string variable is one literal with a fixed frame. -/
theorem Frame.flatten_variableFragments (name : String) (text : Bytes) :
    (variableFragments name (some text)).flatten =
      variableHead name ++ (StringLiteral.escape text ++ [doubleQuote] ++ ascii ";\n") := by
  have ends : ascii "\";\n" = [doubleQuote] ++ ascii ";\n" := by decide
  simp [variableFragments, variableHead, StringLiteral.escape, List.flatMap_def, ends]

namespace Program

/-- All statements of a source, in order. -/
def statementList (settings : Settings) (source : Bytes) : List Statement :=
  (operators source).flatMap (Operator.statements settings)

theorem statements_cons (settings : Settings) (b : UInt8) (rest : Bytes) :
    statements settings (b :: rest) = group settings b ++ statements settings rest := rfl

theorem statements_eq (settings : Settings) (source : Bytes) :
    statements settings source = (statementList settings source).flatMap Statement.text := by
  induction source with
  | nil => rfl
  | cons b rest ih =>
      rw [statements_cons, ih]
      cases h : Operator.ofByte? b with
      | none => simp [group, statementList, operators, h]
      | some operator =>
          simp [group, statementList, operators, h, Operator.flatten_fragments]

theorem preamble_eq (settings : Settings) :
    preamble settings = Frame.includes ++
      ((Frame.variableFragments "VERSION" settings.version).flatten ++
        ((Frame.variableFragments "COPYRIGHT" settings.copyright).flatten ++
          (Frame.mainFragments settings).flatten)) := by
  simp [preamble, Frame.preamble]

/-- The eight operators have lines and no other byte has. -/
theorem group_eq_nil_iff (settings : Settings) (b : UInt8) :
    group settings b = [] ↔ b ∉ ascii "+-<>,.[]" := by
  rw [Operator.mem_bytes_iff]
  cases h : Operator.ofByte? b with
  | none => simp [group, h]
  | some operator =>
      have written : (operator.fragments settings).flatten ≠ [] := by
        rw [Operator.flatten_fragments, ne_eq, List.flatMap_eq_nil_iff]
        obtain ⟨statement, hs⟩ := List.exists_mem_of_ne_nil _ (operator.statements_ne_nil settings)
        exact fun hall => statement.text_ne_nil (hall statement hs)
      simp [group, h, written]

end Program

end BrainfuckCompiler
