import BrainfuckCompiler.Proofs.C.Reading
import BrainfuckCompiler.Proofs.Delivery
import BrainfuckCompiler.Proofs.SelfDelimiting

/-!
# What the text of a program tells

Two sources with two settings may lead to the same program: comments leave no trace, and
a setting leaves one only if the program makes use of it. `Alike` lists what has to agree.
The text of the program depends on nothing else, and it determines all of it. From the
front, the string variables, the cell type and the number of cells are taken off as
spellings that show where they end. The lines that follow are read as C up to the first
one that no statement has, which is the first line of the epilogue. The operators are then
known, so that everything up to the command line can be taken off as a whole, and the
meaning of a bare argument is once more a spelling that shows where it ends.
-/
namespace BrainfuckCompiler

/-- The two programs agree in all that should matter. -/
structure Alike (first : Settings) (source : Bytes) (second : Settings) (other : Bytes) :
    Prop where
  operators : source.filter (· ∈ ascii "+-<>,.[]") = other.filter (· ∈ ascii "+-<>,.[]")
  cells : first.cells = second.cells
  width : first.width = second.width
  version : first.version = second.version
  copyright : first.copyright = second.copyright
  endOfInput : first.endOfInput = second.endOfInput ∨ comma ∉ source ∧ comma ∉ other
  flushes : first.flushes = second.flushes ∨ dot ∉ source ∧ dot ∉ other
  positional : first.positional.resolve (.ofSource source) =
    second.positional.resolve (.ofSource other)

theorem filter_bytes_eq_iff (source other : Bytes) :
    source.filter (· ∈ ascii "+-<>,.[]") = other.filter (· ∈ ascii "+-<>,.[]") ↔
      operators source = operators other := by
  have inj (a b : Operator) (h : a.byte = b.byte) : a = b := by
    have ha := (Operator.ofByte?_eq_some_iff _ a).mpr rfl
    have hb := (Operator.ofByte?_eq_some_iff _ b).mpr rfl
    rw [h, hb] at ha
    exact (Option.some.inj ha).symm
  rw [filter_bytes_eq, filter_bytes_eq]
  exact List.map_inj_right inj

theorem not_prefix_append {head text : Bytes} (hlen : head.length ≤ text.length)
    (h : ¬ head <+: text) (rest : Bytes) : ¬ head <+: text ++ rest := by
  intro hp
  exact h (List.prefix_of_prefix_length_le hp (List.prefix_append _ _) hlen)

namespace Frame

theorem main_inj {first second : Settings} {rest other : Bytes}
    (h : (mainFragments first).flatten ++ rest = (mainFragments second).flatten ++ other) :
    first.width = second.width ∧ first.cells = second.cells ∧ rest = other := by
  -- The numeral is a spelling only together with the comma behind it.
  have numeral (n : Nat) (rest : Bytes) : Decimal.digits n ++ (allocationCheck ++ rest) =
      Decimal.digits n ++ [comma] ++ (allocationCheck.tail ++ rest) := by
    have check : allocationCheck = [comma] ++ allocationCheck.tail := by decide
    rw [List.append_assoc, ← List.append_assoc [comma], ← check]
  simp only [mainFragments, List.flatten_cons, List.flatten_nil, List.append_nil,
    List.append_assoc] at h
  obtain ⟨width, h⟩ := SelfDelimiting.typeName (List.append_cancel_left h)
  have h := List.append_cancel_left h
  rw [numeral, numeral, width] at h
  obtain ⟨cells, h⟩ := SelfDelimiting.numeral h
  have h := List.append_cancel_left (List.append_cancel_left (List.append_cancel_left h))
  exact ⟨width, UInt64.toNat_inj.mp cells, h⟩

end Frame

namespace Program

theorem preamble_inj {first second : Settings} {rest other : Bytes}
    (h : preamble first ++ rest = preamble second ++ other) :
    first.version = second.version ∧ first.copyright = second.copyright ∧
      first.width = second.width ∧ first.cells = second.cells ∧ rest = other := by
  have main {name : String} (settings : Settings) (rest : Bytes)
      (hlen : (Frame.variableHead name).length ≤ Frame.mainHead.length)
      (hn : ¬ Frame.variableHead name <+: Frame.mainHead) :
      ¬ Frame.variableHead name <+: (Frame.mainFragments settings).flatten ++ rest := by
    rw [Frame.mainFragments, List.flatten_cons, List.append_assoc]
    exact not_prefix_append hlen hn _
  have copyright (settings : Settings) (rest : Bytes) : ¬ Frame.variableHead "VERSION" <+:
      (Frame.variableFragments "COPYRIGHT" settings.copyright).flatten ++
        ((Frame.mainFragments settings).flatten ++ rest) := by
    cases settings.copyright with
    | none => exact main settings rest (by decide +kernel) (by decide +kernel)
    | some text =>
        rw [Frame.flatten_variableFragments, List.append_assoc]
        exact not_prefix_append (by decide +kernel) (by decide +kernel) _
  simp only [preamble_eq, List.append_assoc] at h
  obtain ⟨hversion, h⟩ := Frame.variable_inj (copyright _ _) (copyright _ _)
    (List.append_cancel_left h)
  obtain ⟨hcopyright, h⟩ := Frame.variable_inj
    (main _ _ (by decide +kernel) (by decide +kernel))
    (main _ _ (by decide +kernel) (by decide +kernel)) h
  exact ⟨hversion, hcopyright, Frame.main_inj h⟩

end Program

/-- The phrases that the statements of a source are read as. -/
def Program.phraseList (settings : Settings) (source : Bytes) : List C.Phrase :=
  (statementList settings source).map Statement.phrase

namespace C

/-- The phrases of a text up to the first one that is not read. -/
def leading (type text : Bytes) : List Phrase :=
  (((phrases (tokens text)).map (phrase? type)).takeWhile Option.isSome).filterMap id

namespace Phrase

/-- The operator whose lines a phrase stands among. -/
def operator : Phrase → Operator
  | .act _ .advance => .right
  | .act _ .retreat => .left
  | .act _ .increment => .increment
  | .act _ .decrement => .decrement
  | .act _ .put => .put
  | .act _ .flush => .put
  | .act _ .fetch => .get
  | .act _ .clear => .get
  | .act _ .store => .get
  | .openLoop => .openLoop
  | .closeLoop => .closeLoop

/-- Whether a phrase is the first one of its operator. -/
def isFirst : Phrase → Bool
  | .act _ .flush => false
  | .act _ .clear => false
  | .act _ .store => false
  | _ => true

end Phrase

/-- Reading stops at the first line of the epilogue. -/
theorem leading_statements (settings : Settings) (source rest : Bytes) :
    leading (ascii settings.width.typeName)
        (Program.statements settings source ++ (Program.epilogue ++ rest)) =
      Program.phraseList settings source := by
  have first : Program.epilogue = ascii "  (void) ch;\n" ++ Program.epilogue.drop 13 := by
    decide
  have complete : Complete (ascii "  (void) ch;\n") := by decide
  have phrase : IsPhrase (tokens (ascii "  (void) ch;\n")) := by decide
  have unread :
      phrase? (ascii settings.width.typeName) (tokens (ascii "  (void) ch;\n")) = none := by
    cases settings.width <;> decide
  have read : (Program.statementList settings source).map
      (phrase? (ascii settings.width.typeName) ∘ fun statement => tokens statement.text) =
      (Program.phraseList settings source).map some := by
    rw [Program.phraseList, List.map_map]
    exact List.map_congr_left fun statement hs =>
      Statement.phrase?_tokens (castsTo_of_mem_statementList hs)
  rw [leading, first, Program.statements_eq, phrases_statements, List.append_assoc,
    tokens_append complete, phrases_append phrase, List.map_append, List.map_map, read,
    List.map_cons, unread, List.takeWhile_append_of_pos (by simp),
    List.takeWhile_cons_of_neg (by simp)]
  simp

/-- The phrases of one operator: they all belong to it, and one of them comes first. -/
theorem phrases_operator (settings : Settings) (operator : Operator) :
    (∀ phrase ∈ (operator.statements settings).map Statement.phrase, phrase.operator = operator) ∧
      (((operator.statements settings).map Statement.phrase).filter Phrase.isFirst).map
        Phrase.operator = [operator] := by
  cases operator with
  | put =>
      simp only [Operator.statements]
      split <;> decide
  | get =>
      simp only [Operator.statements]
      cases settings.endOfInput <;> cases settings.width <;> decide
  | _ =>
      simp only [Operator.statements]
      decide

theorem map_operator_filter_isFirst (settings : Settings) (source : Bytes) :
    ((Program.phraseList settings source).filter Phrase.isFirst).map Phrase.operator =
      operators source := by
  rw [Program.phraseList, Program.statementList]
  induction operators source with
  | nil => rfl
  | cons operator rest ih =>
      rw [List.flatMap_cons, List.map_append, List.filter_append, List.map_append, ih,
        (phrases_operator settings operator).2, List.singleton_append]

theorem mem_phrases_iff (settings : Settings) (source : Bytes) (phrase : Phrase) :
    phrase ∈ Program.phraseList settings source ↔
      phrase.operator ∈ operators source ∧
        phrase ∈ (phrase.operator.statements settings).map Statement.phrase := by
  rw [Program.phraseList, Program.statementList, List.map_flatMap, List.mem_flatMap]
  constructor
  · rintro ⟨operator, ho, hp⟩
    obtain rfl := (phrases_operator settings operator).1 phrase hp
    exact ⟨ho, hp⟩
  · rintro ⟨ho, hp⟩
    exact ⟨phrase.operator, ho, hp⟩

end C

namespace Program
variable {first second : Settings} {source other : Bytes}

theorem operators_eq (h : phraseList first source = phraseList second other) :
    operators source = operators other := by
  rw [← C.map_operator_filter_isFirst first, h, C.map_operator_filter_isFirst]

/-- The lines of an operator that occurs are known from the lines of the source. -/
theorem mem_operator_statements_iff (h : phraseList first source = phraseList second other)
    (phrase : C.Phrase) (ho : phrase.operator ∈ operators source) :
    phrase ∈ (phrase.operator.statements first).map Statement.phrase ↔
      phrase ∈ (phrase.operator.statements second).map Statement.phrase := by
  have hf := C.mem_phrases_iff first source phrase
  have hs := C.mem_phrases_iff second other phrase
  rw [h, hs, ← operators_eq h] at hf
  simpa [ho] using hf.symm

theorem endOfInput_eq (h : phraseList first source = phraseList second other)
    (ho : Operator.get ∈ operators source) : first.endOfInput = second.endOfInput := by
  have clear := mem_operator_statements_iff h (.act .atEnd .clear) ho
  have guarded := mem_operator_statements_iff h (.act .notAtEnd .store) ho
  revert clear guarded
  cases hf : first.endOfInput <;> cases hs : second.endOfInput <;>
    simp [C.Phrase.operator, Operator.statements, EndOfInput.statements, Statement.phrase, hf, hs]

theorem flushes_eq (h : phraseList first source = phraseList second other)
    (ho : Operator.put ∈ operators source) : first.flushes = second.flushes := by
  have flush := mem_operator_statements_iff h (.act .always .flush) ho
  revert flush
  cases hf : first.flushes <;> cases hs : second.flushes <;>
    simp [C.Phrase.operator, Operator.statements, Statement.phrase, hf, hs]

/-- The statements depend on a policy only where an operator asks for it. -/
theorem statementList_congr (hops : operators source = operators other)
    (hwidth : first.width = second.width)
    (hend : first.endOfInput = second.endOfInput ∨ Operator.get ∉ operators source)
    (hflush : first.flushes = second.flushes ∨ Operator.put ∉ operators source) :
    statementList first source = statementList second other := by
  rw [statementList, statementList, ← hops, List.flatMap_def, List.flatMap_def]
  congr 1
  refine List.map_congr_left fun operator ho => ?_
  cases operator with
  | get => rw [Operator.statements, Operator.statements, hwidth, hend.resolve_right (absurd ho)]
  | put => rw [Operator.statements, Operator.statements, hflush.resolve_right (absurd ho)]
  | _ => rfl

theorem positional_eq {usage : Usage}
    (h : interface usage first = interface usage second) :
    first.positional.resolve usage = second.positional.resolve usage := by
  simp only [interface, Interface.fragments, List.flatten_append, List.append_assoc] at h
  have h := List.append_cancel_left (List.append_cancel_left h)
  exact (SelfDelimiting.positionalCode h).1

theorem interface_congr {usage : Usage}
    (hversion : first.version = second.version) (hcopyright : first.copyright = second.copyright)
    (hpositional : first.positional.resolve usage = second.positional.resolve usage) :
    interface usage first = interface usage second := by
  simp only [interface, Interface.fragments, Interface.usagePrinter, hversion, hcopyright,
    hpositional]

theorem preamble_congr (hversion : first.version = second.version)
    (hcopyright : first.copyright = second.copyright) (hwidth : first.width = second.width)
    (hcells : first.cells = second.cells) : preamble first = preamble second := by
  rw [preamble_eq, preamble_eq, Frame.mainFragments, Frame.mainFragments, hversion, hcopyright,
    hwidth, hcells]

theorem text_eq (settings : Settings) (source : Bytes) :
    text settings source = preamble settings ++ (statements settings source ++ (epilogue ++
      (inputHelper ++ interface (Usage.ofSource source) settings))) := by
  simp only [text, body, List.append_assoc]

/-- The text of a program depends on nothing but what agrees. -/
theorem text_eq_of_alike (h : Alike first source second other) :
    text first source = text second other := by
  have hops := (filter_bytes_eq_iff source other).mp h.operators
  have husage : Usage.ofSource source = Usage.ofSource other := by
    rw [Usage.ofSource, Usage.ofSource, hops]
  have hlist : statementList first source = statementList second other := by
    refine statementList_congr hops h.width (h.endOfInput.imp_right ?_) (h.flushes.imp_right ?_)
    · rintro ⟨hs, -⟩ hmem
      exact hs ((mem_operators source .get).mp hmem)
    · rintro ⟨hs, -⟩ hmem
      exact hs ((mem_operators source .put).mp hmem)
  have hpositional := h.positional
  rw [← husage] at hpositional
  rw [text_eq, text_eq, preamble_congr h.version h.copyright h.width h.cells, statements_eq,
    statements_eq, hlist, ← husage, interface_congr h.version h.copyright hpositional]

/-- The text of a program tells all that has to agree. -/
theorem alike_of_text_eq (h : text first source = text second other) :
    Alike first source second other := by
  rw [text_eq, text_eq] at h
  obtain ⟨hversion, hcopyright, hwidth, hcells, h⟩ := preamble_inj h
  have hphrases : phraseList first source = phraseList second other := by
    rw [← C.leading_statements first source, h, hwidth, C.leading_statements]
  have hops := operators_eq hphrases
  have husage : Usage.ofSource source = Usage.ofSource other := by
    rw [Usage.ofSource, Usage.ofSource, hops]
  have hend : first.endOfInput = second.endOfInput ∨ Operator.get ∉ operators source := by
    by_cases ho : Operator.get ∈ operators source
    · exact .inl (endOfInput_eq hphrases ho)
    · exact .inr ho
  have hflush : first.flushes = second.flushes ∨ Operator.put ∉ operators source := by
    by_cases ho : Operator.put ∈ operators source
    · exact .inl (flushes_eq hphrases ho)
    · exact .inr ho
  have hlist := statementList_congr hops hwidth hend hflush
  rw [statements_eq, statements_eq, hlist, ← husage] at h
  have h := List.append_cancel_left (List.append_cancel_left (List.append_cancel_left h))
  have absent (operator : Operator) (ho : operator ∉ operators source) :
      operator.byte ∉ source ∧ operator.byte ∉ other := by
    rw [← mem_operators, ← mem_operators, ← hops]
    exact ⟨ho, ho⟩
  exact {
    operators := (filter_bytes_eq_iff source other).mpr hops
    cells := hcells
    width := hwidth
    version := hversion
    copyright := hcopyright
    endOfInput := hend.imp_right (absent .get)
    flushes := hflush.imp_right (absent .put)
    positional := by
      rw [← husage]
      exact positional_eq h }

end Program

/-- Two programs are written alike exactly if they agree in all that should matter. -/
theorem Emission.written_eq_iff_alike (first second : Settings) (source other : Bytes) :
    (program first ⟨source, none⟩).written = (program second ⟨other, none⟩).written ↔
      Alike first source second other := by
  rw [(offers_program first source).written, (offers_program second other).written]
  exact ⟨Program.alike_of_text_eq, Program.text_eq_of_alike⟩

end BrainfuckCompiler
