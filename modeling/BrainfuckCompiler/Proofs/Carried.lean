import BrainfuckCompiler.Proofs.Decimal
import BrainfuckCompiler.Proofs.Layout
import BrainfuckCompiler.Proofs.C.Survey

/-!
# What the generated program shows before its command line

The survey of a program is put together from the surveys of its parts. Includes,
statements, allocation and epilogue show nothing of interest, whatever the number and the
width of the cells are; the helper that fetches input declares the message. The texts that
a program carries are declared, and their bytes stay inside the literals in which they are
spelled: nothing that looks like an option can come out of them.
-/
namespace BrainfuckCompiler
open C

-- The fixed texts are surveyed by evaluation, each of them once where that is possible.
set_option maxRecDepth 20000

/-- A literal is made of its characters by definition; its bytes need no evaluation. -/
theorem ascii_ofList (characters : List Char) :
    ascii (String.ofList characters) = characters.map Char.toUInt8 := by
  rw [ascii, String.toList_ofList]

theorem lines_ofList (characters : List Char) (rest : List String) :
    lines (String.ofList characters :: rest) =
      characters.map Char.toUInt8 ++ newline :: lines rest := by
  rw [lines, List.flatMap_cons, ascii_ofList, List.append_assoc]
  rfl

theorem Statement.shows_text (statement : Statement) : Shows statement.text [] := by
  cases statement with
  | store width => cases width <;> decide +kernel
  | storeUnlessEnd width => cases width <;> decide +kernel
  | _ => decide +kernel

theorem Program.shows_statements (settings : Settings) (source : Bytes) :
    Shows (statements settings source) [] := by
  have shown := Shows.flatMap Statement.shows_text (statementList settings source)
  rwa [← statements_eq, List.flatMap_eq_nil_iff.mpr fun _ _ => rfl] at shown

namespace StringLiteral

theorem read_string_escapeByte (b : UInt8) (spelled : Bytes) :
    Pending.read (.string spelled false) (escapeByte b) =
      ([], .string ((escapeByte b).reverse ++ spelled) false) := by
  unfold escapeByte
  split
  · rfl
  · rfl
  · rfl
  · rfl
  · next _ _ _ hq hb =>
    have hquote : b ≠ doubleQuote := hq
    have hplain : (b == backslash) = false := beq_false_of_ne hb
    simp only [Pending.read, Pending.step, if_neg hquote, hplain]
    rfl

/-- No text leaves the literal it is spelled in. -/
theorem read_string_escape (text spelled : Bytes) :
    Pending.read (.string spelled false) (escape text) =
      ([], .string ((escape text).reverse ++ spelled) false) := by
  induction text generalizing spelled with
  | nil => rfl
  | cons b rest ih =>
      have hcons : escape (b :: rest) = escapeByte b ++ escape rest := rfl
      rw [hcons, Pending.read_append_of_eq (read_string_escapeByte b spelled), ih]
      simp

end StringLiteral

namespace Frame

/-- The names of the texts that a program carries. -/
def textNames : List String := ["VERSION", "COPYRIGHT"]

/-- The lexemes in front of the literal of a text. -/
def declarator (name : String) : List Lexeme := [.word (ascii "static"), .word (ascii "char"),
  .mark star, .word (ascii name), .mark equals]

theorem read_variableHead : ∀ name ∈ textNames,
    Pending.nothing.read (variableHead name) = (declarator name, .string [] false) := by
  decide +kernel

theorem foundAt_char : ∀ name ∈ textNames, ∀ rest, foundAt (.word (ascii "char") :: .mark star ::
    .word (ascii name) :: .mark equals :: rest) = [.declares (ascii name)] := by
  simp only [textNames, List.forall_mem_cons, List.not_mem_nil, false_implies, implies_true,
    and_true]
  exact ⟨fun rest => rfl, fun rest => rfl⟩

theorem findings_declarator {name : String} (hname : name ∈ textNames) (spelled : Bytes) :
    findings (declarator name ++ [.string spelled, .mark semicolon]) =
      [.declares (ascii name)] := by
  have hplain : ∀ name ∈ textNames, ascii name ∉ keywords ++ pathVariables := by
    decide +kernel
  change findings (.word (ascii "static") :: .word (ascii "char") :: .mark star ::
    .word (ascii name) :: .mark equals :: [.string spelled, .mark semicolon]) = _
  rw [findings_word (by decide +kernel) rfl, findings_cons, foundAt_char name hname, findings_mark,
    findings_word (hplain name hname) rfl, findings_mark]
  rfl

/-- A text is carried in the literal of one declaration, whatever it says. -/
theorem shows_variable {name : String} (hname : name ∈ textNames) (text : Option Bytes) :
    Shows (variableFragments name text).flatten
      (text.map fun _ => .declares (ascii name)).toList := by
  cases text with
  | none => exact .nil
  | some text =>
      have hclose : ascii ";\n" = [semicolon, newline] := by decide
      have hend : Pending.read (.string (StringLiteral.escape text).reverse false)
          (doubleQuote :: [semicolon, newline]) =
            ([.string (StringLiteral.escape text).reverse.reverse, .mark semicolon], .nothing) :=
        rfl
      have hread : Pending.nothing.read (variableFragments name (some text)).flatten =
          (declarator name ++ [.string (StringLiteral.escape text), .mark semicolon],
            .nothing) := by
        rw [flatten_variableFragments, Pending.read_append_of_eq (read_variableHead name hname),
          List.append_assoc, Pending.read_append_of_eq (StringLiteral.read_string_escape text []),
          List.append_nil, hclose, List.singleton_append, hend, List.reverse_reverse]
        rfl
      refine ⟨⟨?_, ?_⟩, ?_⟩
      · rw [hread]
      · rw [hread]
        rfl
      · have hclauses : clausesOf (variableFragments name (some text)).flatten =
            [declarator name ++ [.string (StringLiteral.escape text), .mark semicolon]] := by
          rw [clausesOf, hread]
          rfl
        rw [survey, hclauses, List.flatMap_singleton, findings_declarator hname]
        rfl

theorem isWordByte_of_isDigit {b : UInt8} (h : Decimal.isDigit b = true) :
    isWordByte b = true := by
  unfold Decimal.isDigit at h
  simp only [isWordByte, h, Bool.or_true, Bool.true_or]

theorem read_digits (n : Nat) :
    Pending.nothing.read (Decimal.digits n) = ([], .word (Decimal.digits n).reverse) := by
  have hdigit (b : UInt8) (hb : b ∈ Decimal.digits n) : isWordByte b = true :=
    isWordByte_of_isDigit (Decimal.isDigit_of_mem_digits hb)
  cases hdigits : Decimal.digits n with
  | nil =>
      have : (Nat.toDigits 10 n).map Char.toUInt8 ≠ [] := by simp
      exact absurd hdigits this
  | cons b rest =>
      rw [hdigits] at hdigit
      have hstart : Pending.start b = ([], .word [b]) := if_pos (hdigit b List.mem_cons_self)
      have hrest := Pending.read_word (fun c hc => hdigit c (List.mem_cons_of_mem _ hc)) [b]
      rw [Pending.read, Pending.step, hstart, hrest, List.reverse_cons]
      rfl

/-- A number is no word of interest. -/
theorem digits_not_mem (n : Nat) : Decimal.digits n ∉ keywords ++ pathVariables := by
  have hletter : ∀ name ∈ keywords ++ pathVariables, ∃ b ∈ name, Decimal.isDigit b = false := by
    decide +kernel
  intro hmem
  obtain ⟨b, hb, hfalse⟩ := hletter _ hmem
  rw [Decimal.isDigit_of_mem_digits hb] at hfalse
  exact absurd hfalse (by decide)

/-- What stands in front of the number of cells. -/
def allocationHead (width : CellWidth) : List Lexeme := [.word (ascii width.typeName), .mark star,
  .word (ascii "buff"), .mark equals, .word (ascii "calloc"), .mark 0x28]

/-- What follows the number of cells. -/
def allocationTail : List Lexeme := [.mark comma, .word (ascii "sizeof"), .mark star,
  .word (ascii "buff"), .mark 0x29, .mark semicolon]

theorem read_allocationHead (width : CellWidth) :
    Pending.nothing.read (ascii width.typeName ++ ascii "* buff = calloc(") =
      (allocationHead width, .nothing) := by
  cases width <;> decide +kernel

theorem read_allocationTail (letters : Bytes) :
    Pending.read (.word letters) (ascii ", sizeof *buff);\n") =
      (.word letters.reverse :: allocationTail, .nothing) := by
  have hcomma : ascii ", sizeof *buff);\n" = comma :: ascii " sizeof *buff);\n" := by decide
  have hrest : Pending.nothing.read (ascii " sizeof *buff);\n") =
      (allocationTail.tail, .nothing) := by decide +kernel
  have hstep : Pending.step (.word letters) comma =
      ([.word letters.reverse, .mark comma], .nothing) := rfl
  rw [hcomma, Pending.read, hstep, hrest]
  rfl

theorem findings_allocation (width : CellWidth) {number : Bytes}
    (h : number ∉ keywords ++ pathVariables) :
    findings (allocationHead width ++ .word number :: allocationTail) = [] := by
  have htype : ascii width.typeName ∉ keywords ++ pathVariables := by
    cases width <;> decide +kernel
  have htail : findings allocationTail = [] := by decide +kernel
  change findings (.word (ascii width.typeName) :: .mark star :: .word (ascii "buff") ::
    .mark equals :: .word (ascii "calloc") :: .mark 0x28 :: .word number :: allocationTail) = _
  rw [findings_word htype rfl, findings_mark, findings_word (by decide +kernel) rfl, findings_mark,
    findings_word (by decide +kernel) rfl, findings_mark, findings_word h rfl, htail]

/-- The number of cells is nothing but a number in one clause. -/
theorem shows_allocation (width : CellWidth) (n : Nat) :
    Shows (ascii width.typeName ++ ascii "* buff = calloc(" ++
      (Decimal.digits n ++ ascii ", sizeof *buff);\n")) [] := by
  have hread : Pending.nothing.read (ascii width.typeName ++ ascii "* buff = calloc(" ++
      (Decimal.digits n ++ ascii ", sizeof *buff);\n")) =
        (allocationHead width ++ .word (Decimal.digits n) :: allocationTail, .nothing) := by
    rw [Pending.read_append_of_eq (read_allocationHead width),
      Pending.read_append_of_eq (read_digits n), read_allocationTail, List.reverse_reverse]
    rfl
  have hclauses : clauses (allocationHead width ++ .word (Decimal.digits n) :: allocationTail) =
      [allocationHead width ++ .word (Decimal.digits n) :: allocationTail] := rfl
  refine ⟨⟨?_, ?_⟩, ?_⟩
  · rw [hread]
  · rw [hread]
    rfl
  · rw [survey, clausesOf, hread, hclauses, List.flatMap_singleton,
      findings_allocation width (digits_not_mem n)]

theorem shows_mainFragments (settings : Settings) :
    Shows (mainFragments settings).flatten [] := by
  have opening : Shows mainHead [] := by
    unfold mainHead
    repeat rw [lines_ofList]
    decide +kernel
  have allocation := shows_allocation settings.width settings.cells.toNat
  have check : Shows (lines ["  if (buff == NULL) \x7b", "    perror(\"calloc()\");",
      "    return 1;", "  \x7d"] ++ ascii "  ") [] := by decide +kernel
  have pointer : Shows (ascii settings.width.typeName ++ ascii "* ptr = buff;\n") [] := by
    cases settings.width <;> decide +kernel
  have whole := opening.append (allocation.append (check.append pointer))
  simpa only [mainFragments, allocationCheck, List.flatten_cons, List.flatten_nil,
    List.append_assoc, List.append_nil] using whole

end Frame

/-- The texts that a program with these settings carries. -/
def Settings.carried (settings : Settings) : List Bytes :=
  (if settings.version.isSome then [ascii "VERSION"] else []) ++
    (if settings.copyright.isSome then [ascii "COPYRIGHT"] else [])

namespace Program

theorem shows_preamble (settings : Settings) :
    Shows (preamble settings) (settings.carried.map .declares) := by
  have includes : Shows Frame.includes [] := by
    unfold Frame.includes
    repeat rw [lines_ofList]
    decide +kernel
  have version := @Frame.shows_variable "VERSION" (by decide) settings.version
  have copyright := @Frame.shows_variable "COPYRIGHT" (by decide) settings.copyright
  have whole := includes.append (version.append (copyright.append
    (Frame.shows_mainFragments settings)))
  rw [← preamble_eq] at whole
  convert whole using 1
  rw [Settings.carried]
  cases settings.version <;> cases settings.copyright <;> rfl

/-- Before the command line only the carried texts and the message are declared. -/
theorem shows_body (settings : Settings) (source : Bytes) : Shows (body settings source)
    (settings.carried.map .declares ++ [.declares (ascii "message")]) := by
  have ending : Shows epilogue [] := by decide +kernel
  have helper : Shows inputHelper [.declares (ascii "message")] := by
    unfold inputHelper Frame.inputHelper
    repeat rw [lines_ofList]
    decide +kernel
  have whole := (((shows_preamble settings).append (shows_statements settings source)).append
    ending).append helper
  simpa only [body, List.append_nil] using whole

end Program

end BrainfuckCompiler
