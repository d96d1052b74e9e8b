import BrainfuckCompiler.Proofs.Streams
import BrainfuckCompiler.Proofs.StringLiteral

/-!
# Which byte strings are bodies of string literals

Not every byte string can stand between the quotes of a literal that was written here.
`Spelled` says which can, from the places in it that a reader reaches outside an escape: no
raw line end, tab or quote stands there, and a backslash there begins one of the four
escapes. A body is taken apart from the front, one plain byte or one escape at a time.
That each spelled body is the spelling of a text and nothing else is follows from there by
induction on the length of the body.
-/
namespace BrainfuckCompiler.StringLiteral

def tab : UInt8 := 0x09

/-- Whether a reader that has come this far stands right behind a backslash that begins an
escape. The second backslash of a pair begins nothing. -/
def midEscape (front : Bytes) : Bool :=
  front.foldl (fun behind b => !behind && b == backslash) false

/-- No text that the body spells can end the literal, and no escape in it is unknown. -/
structure Spelled (body : Bytes) : Prop where
  raw : ∀ front b back, body = front ++ b :: back → midEscape front = false →
    b ≠ newline ∧ b ≠ tab ∧ b ≠ doubleQuote
  escapes : ∀ front back, body = front ++ backslash :: back → midEscape front = false →
    ∃ letter rest, back = letter :: rest ∧ letter ∈ ascii "nt\"\\"

theorem midEscape_plain {b : UInt8} (hb : b ≠ backslash) (front : Bytes) :
    midEscape (b :: front) = midEscape front := by
  have hfirst : (!false && b == backslash) = false := by simpa using hb
  rw [midEscape, List.foldl_cons, hfirst, midEscape]

theorem midEscape_pair (letter : UInt8) (front : Bytes) :
    midEscape (backslash :: letter :: front) = midEscape front := rfl

theorem spelled_nil : Spelled [] := by
  constructor
  · intro front b back h
    exact absurd h.symm (by simp)
  · intro front back h
    exact absurd h.symm (by simp)

theorem spelled_plain_iff {b : UInt8} (hb : b ≠ backslash) (body : Bytes) :
    Spelled (b :: body) ↔ (b ≠ newline ∧ b ≠ tab ∧ b ≠ doubleQuote) ∧ Spelled body := by
  constructor
  · intro h
    refine ⟨h.raw [] b body rfl rfl, ?_, ?_⟩
    · intro front c back hbody hfront
      apply h.raw (b :: front) c back
      · rw [hbody, List.cons_append]
      · rw [midEscape_plain hb, hfront]
    · intro front back hbody hfront
      apply h.escapes (b :: front) back
      · rw [hbody, List.cons_append]
      · rw [midEscape_plain hb, hfront]
  · rintro ⟨hplain, h⟩
    constructor
    · intro front c back hbody hfront
      rcases List.cons_eq_append_iff.mp hbody with ⟨rfl, hhead⟩ | ⟨later, rfl, hlater⟩
      · obtain ⟨rfl, -⟩ := List.cons.inj hhead
        exact hplain
      · rw [midEscape_plain hb] at hfront
        exact h.raw later c back hlater hfront
    · intro front back hbody hfront
      rcases List.cons_eq_append_iff.mp hbody with ⟨rfl, hhead⟩ | ⟨later, rfl, hlater⟩
      · exact absurd (List.cons.inj hhead).1.symm hb
      · rw [midEscape_plain hb] at hfront
        exact h.escapes later back hlater hfront

theorem not_spelled_backslash : ¬ Spelled [backslash] := by
  intro h
  obtain ⟨letter, rest, hnone, -⟩ := h.escapes [] [] rfl rfl
  exact absurd hnone (by simp)

theorem spelled_pair_iff (letter : UInt8) (body : Bytes) :
    Spelled (backslash :: letter :: body) ↔ letter ∈ ascii "nt\"\\" ∧ Spelled body := by
  constructor
  · intro h
    refine ⟨?_, ?_, ?_⟩
    · obtain ⟨found, rest, heq, hfound⟩ := h.escapes [] (letter :: body) rfl rfl
      rw [(List.cons.inj heq).1]
      exact hfound
    · intro front c back hbody hfront
      apply h.raw (backslash :: letter :: front) c back
      · rw [hbody, List.cons_append, List.cons_append]
      · rw [midEscape_pair, hfront]
    · intro front back hbody hfront
      apply h.escapes (backslash :: letter :: front) back
      · rw [hbody, List.cons_append, List.cons_append]
      · rw [midEscape_pair, hfront]
  · rintro ⟨hletter, h⟩
    -- A place in the pair is either its start or right behind the backslash.
    have places {front back : Bytes} {c : UInt8}
        (hbody : backslash :: letter :: body = front ++ c :: back) (hfront : midEscape front = false) :
        c = backslash ∧ back = letter :: body ∨
          ∃ later, body = later ++ c :: back ∧ midEscape later = false := by
      rcases List.cons_eq_append_iff.mp hbody with ⟨rfl, hhead⟩ | ⟨behind, rfl, hbehind⟩
      · obtain ⟨rfl, rfl⟩ := List.cons.inj hhead
        exact .inl ⟨rfl, rfl⟩
      · rcases List.cons_eq_append_iff.mp hbehind with ⟨rfl, -⟩ | ⟨later, rfl, hlater⟩
        · exact absurd hfront (by decide)
        · rw [midEscape_pair] at hfront
          exact .inr ⟨later, hlater, hfront⟩
    constructor
    · intro front c back hbody hfront
      rcases places hbody hfront with ⟨rfl, -⟩ | ⟨later, hlater, hopen⟩
      · decide
      · exact h.raw later c back hlater hopen
    · intro front back hbody hfront
      rcases places hbody hfront with ⟨-, rfl⟩ | ⟨later, hlater, hopen⟩
      · exact ⟨letter, body, rfl, hletter⟩
      · exact h.escapes later back hlater hopen

/-- A byte is spelled as it is or as one of the four escapes. -/
theorem escapeByte_cases (b : UInt8) :
    (∃ letter ∈ ascii "nt\"\\", escapeByte b = [backslash, letter]) ∨
      escapeByte b = [b] ∧ b ≠ backslash ∧ b ≠ newline ∧ b ≠ tab ∧ b ≠ doubleQuote := by
  unfold escapeByte
  split
  · exact .inl ⟨0x6e, by decide, by decide⟩
  · exact .inl ⟨0x74, by decide, by decide⟩
  · exact .inl ⟨0x22, by decide, by decide⟩
  · exact .inl ⟨0x5c, by decide, by decide⟩
  · next _ hnewline htab hquote hbackslash =>
    exact .inr ⟨rfl, hbackslash, hnewline, htab, hquote⟩

theorem exists_escapeByte_of_letter {letter : UInt8} (h : letter ∈ ascii "nt\"\\") :
    ∃ b, escapeByte b = [backslash, letter] := by
  have hletters : ascii "nt\"\\" = [0x6e, 0x74, 0x22, 0x5c] := by decide
  rw [hletters] at h
  simp only [List.mem_cons, List.not_mem_nil, or_false] at h
  rcases h with rfl | rfl | rfl | rfl
  · exact ⟨newline, by decide⟩
  · exact ⟨tab, by decide⟩
  · exact ⟨doubleQuote, by decide⟩
  · exact ⟨backslash, by decide⟩

theorem escapeByte_of_plain {b : UInt8} (hb : b ≠ backslash)
    (h : b ≠ newline ∧ b ≠ tab ∧ b ≠ doubleQuote) : escapeByte b = [b] := by
  obtain ⟨hnewline, htab, hquote⟩ := h
  unfold escapeByte
  split
  · exact absurd rfl hnewline
  · exact absurd rfl htab
  · exact absurd rfl hquote
  · exact absurd rfl hb
  · rfl

theorem escape_cons (b : UInt8) (text : Bytes) : escape (b :: text) = escapeByte b ++ escape text :=
  rfl

theorem spelled_escape (text : Bytes) : Spelled (escape text) := by
  induction text with
  | nil => exact spelled_nil
  | cons b rest ih =>
      rw [escape_cons]
      rcases escapeByte_cases b with ⟨letter, hletter, hpair⟩ | ⟨hplain, hb, hraw⟩
      · rw [hpair]
        exact (spelled_pair_iff letter _).mpr ⟨hletter, ih⟩
      · rw [hplain]
        exact (spelled_plain_iff hb _).mpr ⟨hraw, ih⟩

theorem exists_escape_of_spelled {body : Bytes} (h : Spelled body) :
    ∃ text, escape text = body := by
  induction hn : body.length using Nat.strongRecOn generalizing body with
  | ind n ih =>
    cases body with
    | nil => exact ⟨[], rfl⟩
    | cons b rest =>
        by_cases hb : b = backslash
        · subst hb
          cases rest with
          | nil => exact absurd h not_spelled_backslash
          | cons letter rest =>
              obtain ⟨hletter, hrest⟩ := (spelled_pair_iff letter rest).mp h
              have hlt : rest.length < n := by
                rw [← hn, List.length_cons, List.length_cons]
                omega
              obtain ⟨text, rfl⟩ := ih _ hlt hrest rfl
              obtain ⟨c, hc⟩ := exists_escapeByte_of_letter hletter
              refine ⟨c :: text, ?_⟩
              rw [escape_cons, hc]
              rfl
        · obtain ⟨hraw, hrest⟩ := (spelled_plain_iff hb rest).mp h
          have hlt : rest.length < n := by
            rw [← hn, List.length_cons]
            omega
          obtain ⟨text, rfl⟩ := ih _ hlt hrest rfl
          refine ⟨b :: text, ?_⟩
          rw [escape_cons, escapeByte_of_plain hb hraw]
          rfl

theorem written_literal (text : Bytes) : (Emission.literal text).written = escape text := by
  rw [escape, List.flatMap_def]
  exact (Emit.writes_writeAll (text.map escapeByte)).offers.written

/-- What is written for a text is read back as that text, whatever follows the closing
quote. What can be written are the spelled bodies, and each of them is written again for
the text that it is read as. -/
theorem literals_are_spelled_bodies :
    (∀ text rest, read ((Emission.literal text).written ++ doubleQuote :: rest) =
      some (text, rest)) ∧
    (∀ body, (∃ text, (Emission.literal text).written = body) ↔ Spelled body) ∧
    ∀ body rest, Spelled body → ∃ text,
      read (body ++ doubleQuote :: rest) = some (text, rest) ∧
        (Emission.literal text).written = body := by
  simp only [written_literal]
  refine ⟨read_escape, ?_, ?_⟩
  · intro body
    constructor
    · rintro ⟨text, rfl⟩
      exact spelled_escape text
    · exact exists_escape_of_spelled
  · intro body rest h
    obtain ⟨text, rfl⟩ := exists_escape_of_spelled h
    exact ⟨text, read_escape text rest, rfl⟩

/-- A text that ends in a backslash and tries to close the literal itself. -/
example : escape (ascii "a\";x\\") = ascii "a\\\";x\\\\" ∧
    read (ascii "a\\\";x\\\\\"; y") = some (ascii "a\";x\\", ascii "; y") := by decide

end BrainfuckCompiler.StringLiteral
