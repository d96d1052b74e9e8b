import BrainfuckCompiler.Proofs.Invocation.Reading

/-!
# Accounts of a command line

An account of a command line says of every word what it is for: it is part of a phrase, it
is the `--` that ends the options, or it is the source behind that. Unlike a spelling, which
somebody has to write, an account is given of words that somebody has written, so it allows
for `--` with nothing behind it. It knows nothing of rejected values, repeated options or
options that exclude each other.

There is at most one account of a command line. `itemsOfWords` finds it from the front, each word
judged by itself: the first word of a phrase shows whether the value in it is complete or
the next word is its value.
-/
namespace BrainfuckCompiler.Invocation

/-- What the words are for, in their order. -/
inductive Account : List Item → List Bytes → Prop
  | done : Account [] []
  | ended : Account [] [ascii "--"]
  | last (path : Bytes) : Account [.source path] [ascii "--", path]
  | phrase {items rest : List Item} {words more : List Bytes} (first : Phrase items words)
      (others : Account rest more) : Account (items ++ rest) (words ++ more)

/-- The items of a cluster, and the option that the next word is the value of. -/
def itemsOfLetters : Bytes → Option (List Item × Option Valued)
  | [] => some ([], none)
  | letter :: rest =>
      match Choice.ofLetter? letter with
      | some (.flag chosen) => (itemsOfLetters rest).map (Prod.map (.flag chosen :: ·) id)
      | some (.valued option) =>
          match rest with
          | [] => some ([], some option)
          | b :: value => some ([.value option (if b = equals then value else rest)], none)
      | _ => none

/-- The items of the first word of a phrase, and the option that the next word is the
value of. -/
def itemsOfWord (word : Bytes) : Option (List Item × Option Valued) :=
  match word with
  | 0x2d :: 0x2d :: text =>
      let (name, value) := Bytes.cutAt equals text
      match Choice.ofName? name, value with
      | some (.flag chosen), none => some ([.flag chosen], none)
      | some (.valued option), some text => some ([.value option text], none)
      | some (.valued option), none => some ([], some option)
      | _, _ => none
  | 0x2d :: letter :: letters => itemsOfLetters (letter :: letters)
  | _ => some ([.source word], none)

/-- The items behind `--`. -/
def itemsOfRest : List Bytes → Option (List Item)
  | [] => some []
  | [path] => some [.source path]
  | _ => none

/-- The items of a whole command line. -/
def itemsOfWords : List Bytes → Option (List Item)
  | [] => some []
  | word :: rest =>
      if word = ascii "--" then itemsOfRest rest
      else
        match itemsOfWord word with
        | some (items, none) => (itemsOfWords rest).map (items ++ ·)
        | some (items, some option) =>
            match rest with
            | value :: more => (itemsOfWords more).map (items ++ [.value option value] ++ ·)
            | [] => none
        | none => none

theorem itemsOfLetters_append {flags : List Flag} {letters : Bytes} (spelled : Letters flags letters)
    (rest : Bytes) : itemsOfLetters (letters ++ rest) =
      (itemsOfLetters rest).map (Prod.map (flags.map Item.flag ++ ·) id) := by
  induction spelled with
  | nil =>
      rw [List.nil_append]
      cases itemsOfLetters rest <;> rfl
  | @cons chosen letter flags letters hletter spelled ih =>
      rw [List.cons_append, itemsOfLetters, Progress.ofLetter?_flag hletter]
      simp only [ih, Option.map_map]
      rfl

theorem itemsOfLetters_equals (option : Valued) (text : Bytes) :
    itemsOfLetters (option.letter.toUInt8 :: equals :: text) = some ([.value option text], none) := by
  rw [itemsOfLetters, Progress.ofLetter?_valued]
  simp only [if_true]

theorem itemsOfLetters_attached (option : Valued) {text : Bytes} (some_text : text ≠ [])
    (plain : text.head? ≠ some equals) :
    itemsOfLetters (option.letter.toUInt8 :: text) = some ([.value option text], none) := by
  obtain ⟨b, rest, rfl⟩ := List.exists_cons_of_ne_nil some_text
  have hb : b ≠ equals := fun heq => plain (congrArg some heq)
  rw [itemsOfLetters, Progress.ofLetter?_valued]
  simp only [if_neg hb]

theorem itemsOfLetters_detached (option : Valued) :
    itemsOfLetters [option.letter.toUInt8] = some ([], some option) := by
  rw [itemsOfLetters, Progress.ofLetter?_valued]

theorem itemsOfWord_name (chosen : Flag) :
    itemsOfWord (longWord chosen.name) = some ([.flag chosen], none) := by
  change itemsOfWord (0x2d :: 0x2d :: ascii chosen.name) = _
  simp only [itemsOfWord, Bytes.cutAt_of_not_mem (Progress.equals_not_mem_flagName chosen),
    Progress.ofName?_flag]

theorem itemsOfWord_nameAttached (option : Valued) (text : Bytes) :
    itemsOfWord (longWord option.name ++ equals :: text) = some ([.value option text], none) := by
  change itemsOfWord (0x2d :: 0x2d :: (ascii option.name ++ equals :: text)) = _
  simp only [itemsOfWord, Bytes.cutAt_append (Progress.equals_not_mem_name option),
    Progress.ofName?_valued]

theorem itemsOfWord_nameDetached (option : Valued) :
    itemsOfWord (longWord option.name) = some ([], some option) := by
  change itemsOfWord (0x2d :: 0x2d :: ascii option.name) = _
  simp only [itemsOfWord, Bytes.cutAt_of_not_mem (Progress.equals_not_mem_name option),
    Progress.ofName?_valued]

/-- A cluster does not begin with a second dash, as no option has a dash for its letter. -/
theorem itemsOfWord_cluster {letters : Bytes} {said : List Item × Option Valued}
    (hne : letters ≠ []) (h : itemsOfLetters letters = some said) :
    itemsOfWord (dash :: letters) = some said := by
  obtain ⟨letter, rest, rfl⟩ := List.exists_cons_of_ne_nil hne
  have hletter : letter ≠ dash := by
    rintro rfl
    have hnone : Choice.ofLetter? dash = none := by decide
    rw [itemsOfLetters, hnone] at h
    exact absurd h (by simp)
  rw [← h]
  unfold itemsOfWord
  split
  · next heq => exact absurd (List.cons.inj (List.cons.inj heq).2).1 hletter
  · next heq =>
    obtain ⟨-, htail⟩ := List.cons.inj heq
    rw [htail]
  · next hother => exact absurd rfl (hother letter rest)

theorem itemsOfWord_alone {word : Bytes} (alone : StandsAlone word) :
    itemsOfWord word = some ([.source word], none) := by
  have hhead (b : UInt8) (rest : Bytes) : word ≠ dash :: b :: rest := by
    rintro rfl
    rcases alone with alone | alone
    · exact absurd alone (by simp)
    · exact alone rfl
  unfold itemsOfWord
  split
  · exact absurd rfl (hhead _ _)
  · exact absurd rfl (hhead _ _)
  · rfl

/-- The first word of a phrase shows how long the phrase is and what it says. -/
theorem Phrase.itemsOfWord_eq {items : List Item} {words : List Bytes} (h : Phrase items words) :
    (∃ word, words = [word] ∧ itemsOfWord word = some (items, none)) ∨
      ∃ word value before option, words = [word, value] ∧
        itemsOfWord word = some (before, some option) ∧ items = before ++ [.value option value] := by
  cases h with
  | name chosen => exact .inl ⟨_, rfl, itemsOfWord_name chosen⟩
  | nameAttached option text => exact .inl ⟨_, rfl, itemsOfWord_nameAttached option text⟩
  | nameDetached option alone => exact .inr ⟨_, _, _, _, rfl, itemsOfWord_nameDetached option, rfl⟩
  | @cluster flags letters spelled some_flag =>
      have hne : letters ≠ [] := by
        rintro rfl
        cases spelled
        exact some_flag rfl
      have hletters := itemsOfLetters_append spelled []
      rw [List.append_nil] at hletters
      exact .inl ⟨_, rfl, itemsOfWord_cluster hne (by simp [hletters, itemsOfLetters])⟩
  | clusterEquals spelled option text =>
      refine .inl ⟨_, rfl, itemsOfWord_cluster (by simp) ?_⟩
      rw [itemsOfLetters_append spelled, itemsOfLetters_equals]
      rfl
  | clusterAttached spelled option some_text plain =>
      refine .inl ⟨_, rfl, itemsOfWord_cluster (by simp) ?_⟩
      rw [itemsOfLetters_append spelled, itemsOfLetters_attached option some_text plain]
      rfl
  | clusterDetached spelled option alone =>
      refine .inr ⟨_, _, _, option, rfl, itemsOfWord_cluster (by simp) ?_, rfl⟩
      rw [itemsOfLetters_append spelled, itemsOfLetters_detached]
      simp [Prod.map]
  | source alone => exact .inl ⟨_, rfl, itemsOfWord_alone alone⟩

theorem ne_dashes_of_itemsOfWord {word : Bytes} {said : List Item × Option Valued}
    (h : itemsOfWord word = some said) : word ≠ ascii "--" := by
  rintro rfl
  have hnone : itemsOfWord (ascii "--") = none := by decide
  exact absurd (hnone.symm.trans h) (by simp)

theorem Account.itemsOfWords_eq {items : List Item} {words : List Bytes} (h : Account items words) :
    itemsOfWords words = some items := by
  induction h with
  | done => rfl
  | ended => rfl
  | last path => rfl
  | phrase first others ih =>
      rcases first.itemsOfWord_eq with
        ⟨word, rfl, hword⟩ | ⟨word, value, before, option, rfl, hword, rfl⟩
      · have hne := ne_dashes_of_itemsOfWord hword
        rw [List.singleton_append]
        unfold itemsOfWords
        simp only [if_neg hne, hword, ih, Option.map_some]
      · have hne := ne_dashes_of_itemsOfWord hword
        rw [List.cons_append, List.singleton_append]
        unfold itemsOfWords
        simp only [if_neg hne, hword, ih, Option.map_some]

/-- No command line can be taken in two ways. -/
theorem Account.unique {items others : List Item} {words : List Bytes} (h : Account items words)
    (k : Account others words) : others = items := by
  have hsame : some others = some items := k.itemsOfWords_eq.symm.trans h.itemsOfWords_eq
  exact Option.some.inj hsame

end BrainfuckCompiler.Invocation
