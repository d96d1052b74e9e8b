import BrainfuckCompiler.Proofs.FileStore
import BrainfuckCompiler.Proofs.Invocation.Account

/-!
# What an accepted command line says

If a command line is accepted then all its words have been taken for something, and the
invocation is what they say. The reader takes over a value or a source one word late, so
that a state of the reader alone does not tell whether the last word is any good. That it is
follows from the acceptance of the whole: `Progress.Accounted` is kept by every phrase that
an accepted command line consists of, and the account is put together phrase by phrase.
-/
namespace BrainfuckCompiler

theorem Bytes.append_of_cutAt {separator : UInt8} {text before : Bytes} {after : Option Bytes}
    (h : cutAt separator text = (before, after)) :
    text = before ++ after.elim [] (separator :: ·) := by
  induction text generalizing before with
  | nil =>
      obtain ⟨rfl, rfl⟩ := Prod.mk.inj h
      rfl
  | cons b rest ih =>
      rw [cutAt] at h
      split at h
      · next hb =>
        obtain ⟨rfl, rfl⟩ := Prod.mk.inj h
        rw [hb]
        rfl
      · rcases hcut : cutAt separator rest with ⟨front, behind⟩
        rw [hcut] at h
        obtain ⟨rfl, rfl⟩ := Prod.mk.inj h
        rw [List.cons_append, ← ih hcut]

namespace Invocation
open FileStore (bind_eq_ok)

theorem name_of_ofName? {name : Bytes} {choice : Choice} (h : Choice.ofName? name = some choice) :
    ascii choice.name = name := by
  simpa using List.find?_some h

theorem letter_of_ofLetter? {letter : UInt8} {choice : Choice}
    (h : Choice.ofLetter? letter = some choice) :
    choice.letter?.map Char.toUInt8 = some letter := by
  simpa using List.find?_some h

theorem numeral_of_read? {text : Bytes} {n : UInt64} (h : Decimal.read? text = some n) :
    Numeral text n := by
  rw [Decimal.read?_eq] at h
  split at h
  · next hnumeral =>
    obtain ⟨hne, hdigits, hlt⟩ := hnumeral
    obtain rfl := Option.some.inj h
    have hsign : ∃ sign, text = sign ++ Decimal.dropSign text ∧
        (sign = [] ∨ sign = ascii "+") := by
      unfold Decimal.dropSign
      split
      · exact ⟨ascii "+", rfl, .inr rfl⟩
      · exact ⟨[], rfl, .inl rfl⟩
    obtain ⟨sign, htext, hsign⟩ := hsign
    refine ⟨sign, Decimal.dropSign text, htext, hsign, hne, List.all_eq_true.mp hdigits, ?_⟩
    exact (UInt64.toNat_ofNat_of_lt' hlt).symm
  · cases h

theorem accepted_of_store {invocation next : Invocation} {option : Valued} {text : Bytes}
    (h : Progress.store invocation text option = .ok next) : (Item.value option text).Accepted := by
  cases option with
  | output =>
      rintro rfl
      cases h
  | size =>
      simp only [Progress.store] at h
      split at h
      · split at h
        · next n hn => exact ⟨n, numeral_of_read? hn⟩
        · cases h
      · cases h
  | copyright => trivial
  | versionString => trivial

namespace Progress

/-- The items so far are taken over as soon as the last word has been looked at, and there
is nothing wrong with any of them. -/
structure Accounted (progress : Progress) (said : List Item) : Prop where
  reached : progress.Reached said
  once : (said.map Item.choice?).Nodup
  accepted : ∀ item ∈ said, item.Accepted

/-- The items so far are taken over, and the next word is the value of an option. -/
structure Waiting (progress : Progress) (option : Valued) (said : List Item) : Prop where
  pending : progress.pending = .awaiting option
  cleared : Settled { progress with pending := .nothing } said
  once : (said.map Item.choice?).Nodup
  accepted : ∀ item ∈ said, item.Accepted

/-- The rest of the words is read to the end and leads to the invocation. -/
def Accepts (progress : Progress) (words : List Bytes) (invocation : Invocation) : Prop :=
  (words.foldlM word progress >>= finish) = .ok invocation

section
variable {progress next : Progress} {said : List Item} {invocation : Invocation}

theorem Accounted.append {item : Item} (h : progress.Accounted said)
    (reached : next.Reached (said ++ [item])) (fresh : item.choice? ∉ said.map Item.choice?)
    (accepted : item.Accepted) : next.Accounted (said ++ [item]) := by
  refine ⟨reached, ?_, ?_⟩
  · rw [List.map_append, List.nodup_append]
    refine ⟨h.once, by simp, ?_⟩
    rintro choice hchoice other hother rfl
    rw [List.map_singleton, List.mem_singleton] at hother
    exact fresh (hother ▸ hchoice)
  · intro other hother
    rcases List.mem_append.mp hother with hsaid | hlast
    · exact h.accepted other hsaid
    · rw [List.mem_singleton.mp hlast]
      exact accepted

/-- An option that was given before is refused. -/
theorem Settled.fresh_of_note {choice : Choice} (h : progress.Settled said)
    (hok : progress.note choice = .ok next) : some choice ∉ said.map Item.choice? := by
  intro hmem
  rw [Progress.note, if_pos ((h.given choice).mpr hmem)] at hok
  cases hok

theorem Settled.of_assign {option : Valued} {text : Bytes} (h : progress.Settled said)
    (hok : progress.assign option text = .ok next) :
    some (.valued option) ∉ said.map Item.choice? ∧ (Item.value option text).Accepted := by
  obtain ⟨noted, hnote, hok⟩ := bind_eq_ok hok
  obtain ⟨stored, hstore, -⟩ := bind_eq_ok hok
  exact ⟨h.fresh_of_note hnote, accepted_of_store hstore⟩

/-- Whatever looks at the last word first goes on with all items taken over. -/
theorem Accounted.bind_settle {α : Type} {result : α} {continuation : Progress → Except Stop α}
    (h : progress.Accounted said) (hok : (progress.settle >>= continuation) = .ok result) :
    ∃ settled, settled.Settled said ∧ settled.optionsEnded = progress.optionsEnded ∧
      continuation settled = .ok result := by
  obtain ⟨settled, hsettle, hsettled, -, hended⟩ := h.reached
  obtain ⟨found, hfound, hrest⟩ := bind_eq_ok hok
  obtain rfl := Except.ok.inj (hsettle.symm.trans hfound)
  exact ⟨settled, hsettled, hended, hrest⟩

theorem Accounted.acceptFlag {chosen : Flag} (h : progress.Accounted said)
    (hok : progress.acceptFlag chosen = .ok next) :
    next.Accounted (said ++ [.flag chosen]) ∧ next.optionsEnded = progress.optionsEnded := by
  obtain ⟨settled, hsettled, -, hnoted⟩ := h.bind_settle hok
  obtain ⟨noted, hnote, -⟩ := bind_eq_ok hnoted
  have fresh := hsettled.fresh_of_note hnote
  obtain ⟨other, hother, hreached, hsame⟩ := h.reached.acceptFlag fresh
  obtain rfl := Except.ok.inj (hok.symm.trans hother)
  exact ⟨h.append hreached fresh trivial, hsame⟩

theorem Accounted.acceptAttached {option : Valued} {text : Bytes} (h : progress.Accounted said)
    (hok : progress.acceptAttached option text = .ok next) :
    next.Accounted (said ++ [.value option text]) ∧
      next.optionsEnded = progress.optionsEnded := by
  obtain ⟨settled, hsettled, -, hassigned⟩ := h.bind_settle hok
  obtain ⟨fresh, accepted⟩ := hsettled.of_assign hassigned
  obtain ⟨other, hother, hreached, hsame⟩ := h.reached.acceptAttached fresh accepted
  obtain rfl := Except.ok.inj (hok.symm.trans hother)
  exact ⟨h.append hreached fresh accepted, hsame⟩

theorem Accounted.acceptDetached {option : Valued} (h : progress.Accounted said)
    (hok : progress.acceptDetached option = .ok next) :
    next.Waiting option said ∧ next.optionsEnded = progress.optionsEnded := by
  obtain ⟨settled, hsettled, hended, hwaits⟩ := h.bind_settle hok
  obtain rfl := Except.ok.inj hwaits
  refine ⟨⟨rfl, ⟨rfl, ?_, ?_, ?_⟩, h.once, h.accepted⟩, hended⟩
  · exact hsettled.invocation
  · exact hsettled.given
  · exact hsettled.sourceSeen

theorem Waiting.value {option : Valued} {text : Bytes} (h : progress.Waiting option said)
    (hsettles : ∃ settled, settle { progress with pending := .value option text } = .ok settled) :
    Accounted { progress with pending := .value option text } (said ++ [.value option text]) := by
  obtain ⟨settled, hassign⟩ := hsettles
  obtain ⟨fresh, accepted⟩ := h.cleared.of_assign hassign
  obtain ⟨other, hother, hsettled, hseen, hsame⟩ := h.cleared.assign fresh accepted
  have before : Accounted { progress with pending := .nothing } said :=
    ⟨h.cleared.reached, h.once, h.accepted⟩
  exact before.append ⟨other, hother, hsettled, hseen, hsame⟩ fresh accepted

theorem plain_cases {path : Bytes} (hok : progress.plain path = .ok next) :
    progress.sourceSeen = false ∧ ∃ settled, progress.settle = .ok settled ∧
      next = { settled with pending := .source path, sourceSeen := true } := by
  unfold Progress.plain at hok
  split at hok
  · cases hok
  · next hseen =>
    obtain ⟨settled, hsettle, hnext⟩ := bind_eq_ok hok
    exact ⟨by simpa using hseen, settled, hsettle, (Except.ok.inj hnext).symm⟩

theorem Accounted.plain {path : Bytes} (h : progress.Accounted said)
    (hok : progress.plain path = .ok next) (hsettles : ∃ settled, next.settle = .ok settled) :
    next.Accounted (said ++ [.source path]) ∧ next.optionsEnded = progress.optionsEnded := by
  obtain ⟨settled, -, hsettled, hseen, -⟩ := h.reached
  obtain ⟨unseen, found, -, hnext⟩ := plain_cases hok
  have fresh : none ∉ said.map Item.choice? := by
    intro hmem
    rw [← hsettled.sourceSeen, hseen, unseen] at hmem
    cases hmem
  have hpath : path ≠ [] := by
    rintro rfl
    obtain ⟨last, hlast⟩ := hsettles
    rw [hnext] at hlast
    cases hlast
  obtain ⟨other, hother, hreached, hsame⟩ := h.reached.plain fresh hpath
  obtain rfl := Except.ok.inj (hok.symm.trans hother)
  exact ⟨h.append hreached fresh hpath, hsame⟩

/-- All that a long option can be. -/
theorem long_cases {text : Bytes} (hok : progress.long text = .ok next) :
    (∃ chosen, text = ascii (Flag.name chosen) ∧ progress.acceptFlag chosen = .ok next) ∨
      (∃ option value, text = ascii (Valued.name option) ++ equals :: value ∧
        progress.acceptAttached option value = .ok next) ∨
      ∃ option, text = ascii (Valued.name option) ∧ progress.acceptDetached option = .ok next := by
  rcases hcut : Bytes.cutAt equals text with ⟨name, value⟩
  have htext := Bytes.append_of_cutAt hcut
  simp only [long, hcut] at hok
  cases hname : Choice.ofName? name with
  | none =>
      rw [hname] at hok
      cases hok
  | some choice =>
      rw [hname] at hok
      obtain rfl := name_of_ofName? hname
      rcases choice with chosen | option | _
      · cases value with
        | none => exact .inl ⟨chosen, htext.trans (List.append_nil _), hok⟩
        | some value => cases hok
      · cases value with
        | none => exact .inr (.inr ⟨option, htext.trans (List.append_nil _), hok⟩)
        | some value => exact .inr (.inl ⟨option, value, htext, hok⟩)
      · cases value with
        | none =>
            obtain ⟨settled, -, hstop⟩ := bind_eq_ok hok
            cases hstop
        | some value => cases hok

/-- All that one word can be. -/
theorem word_kinds (text : Bytes) : text = ascii "--" ∨
    (∃ name, name ≠ [] ∧ text = ascii "--" ++ name) ∨
      (∃ letter rest, letter ≠ dash ∧ text = dash :: letter :: rest) ∨ StandsAlone text := by
  rcases text with _ | ⟨first, _ | ⟨second, rest⟩⟩
  · exact .inr (.inr (.inr (.inr (by simp))))
  · refine .inr (.inr (.inr ?_))
    by_cases hfirst : first = dash
    · exact .inl (by rw [hfirst])
    · exact .inr (by simpa using hfirst)
  · by_cases hfirst : first = dash
    · subst hfirst
      by_cases hsecond : second = dash
      · subst hsecond
        cases rest with
        | nil => exact .inl (by decide)
        | cons third others => exact .inr (.inl ⟨third :: others, by simp, rfl⟩)
      · exact .inr (.inr (.inl ⟨second, rest, hsecond, rfl⟩))
    · exact .inr (.inr (.inr (.inr (by simpa using hfirst))))

/-- All that one word can do. -/
theorem word_cases (hopen : progress.optionsEnded = false) (text : Bytes) :
    text = ascii "--" ∧ progress.word text = .ok progress.ended ∨
      (∃ name, text = ascii "--" ++ name ∧ progress.word text = progress.long name) ∨
      (∃ letters, letters ≠ [] ∧ text = dash :: letters ∧
        progress.word text = progress.cluster letters) ∨
      StandsAlone text ∧ progress.word text = match progress.pending with
        | .awaiting option => .ok { progress with pending := .value option text }
        | _ => progress.plain text := by
  rcases word_kinds text with rfl | ⟨name, hname, rfl⟩ | ⟨letter, rest, hletter, rfl⟩ | alone
  · exact .inl ⟨rfl, word_dashes hopen⟩
  · exact .inr (.inl ⟨name, rfl, word_long hopen hname⟩)
  · exact .inr (.inr (.inl ⟨_, by simp, rfl, word_cluster hopen hletter⟩))
  · exact .inr (.inr (.inr ⟨alone, word_alone hopen alone⟩))

theorem settle_of_bind {α : Type} {result : α} {continuation : Progress → Except Stop α}
    (hok : (progress.settle >>= continuation) = .ok result) :
    ∃ settled, progress.settle = .ok settled := by
  obtain ⟨settled, hsettle, -⟩ := bind_eq_ok hok
  exact ⟨settled, hsettle⟩

theorem settle_of_long {text : Bytes} (hok : progress.long text = .ok next) :
    ∃ settled, progress.settle = .ok settled := by
  rcases long_cases hok with ⟨_, _, haccept⟩ | ⟨_, _, _, haccept⟩ | ⟨_, _, haccept⟩
  · exact settle_of_bind haccept
  · exact settle_of_bind haccept
  · exact settle_of_bind haccept

theorem settle_of_cluster {letters : Bytes} (hne : letters ≠ [])
    (hok : progress.cluster letters = .ok next) : ∃ settled, progress.settle = .ok settled := by
  obtain ⟨letter, rest, rfl⟩ := List.exists_cons_of_ne_nil hne
  rw [cluster] at hok
  split at hok
  · cases hok
  · obtain ⟨accepted, haccept, -⟩ := bind_eq_ok hok
    exact settle_of_bind haccept
  · exact settle_of_bind hok
  · split at hok
    · exact settle_of_bind hok
    · exact settle_of_bind hok

theorem settle_of_plain {text : Bytes} (hok : progress.plain text = .ok next) :
    ∃ settled, progress.settle = .ok settled := by
  obtain ⟨-, settled, hsettle, -⟩ := plain_cases hok
  exact ⟨settled, hsettle⟩

/-- A word that is taken for the source is no option that waits for its value. -/
theorem not_awaiting_of_plain {text : Bytes} (hok : progress.plain text = .ok next)
    (option : Valued) : next.pending ≠ .awaiting option := by
  obtain ⟨-, settled, -, rfl⟩ := plain_cases hok
  simp

theorem word_of_ended (hended : progress.optionsEnded = true) (text : Bytes) :
    progress.word text = progress.plain text := by
  unfold word
  rw [if_pos hended]

theorem Accepts.cons {text : Bytes} {rest : List Bytes}
    (h : progress.Accepts (text :: rest) invocation) :
    ∃ next, progress.word text = .ok next ∧ next.Accepts rest invocation := by
  obtain ⟨last, hwords, hfinish⟩ := bind_eq_ok h
  rw [List.foldlM_cons] at hwords
  obtain ⟨next, hword, hrest⟩ := bind_eq_ok hwords
  refine ⟨next, hword, ?_⟩
  unfold Accepts
  rw [hrest]
  exact hfinish

theorem Accepts.settle_of_nil (h : progress.Accepts [] invocation) :
    ∃ settled, progress.settle = .ok settled := by
  obtain ⟨last, hlast, hfinish⟩ := bind_eq_ok h
  obtain rfl := Except.ok.inj hlast
  exact settle_of_bind hfinish

/-- Whatever follows, the last word is looked at in the end. -/
theorem Accepts.settle {words : List Bytes} (h : progress.Accepts words invocation)
    (hpending : ∀ option, progress.pending ≠ .awaiting option) :
    ∃ settled, progress.settle = .ok settled := by
  induction words generalizing progress with
  | nil => exact h.settle_of_nil
  | cons text rest ih =>
      obtain ⟨next, hword, hrest⟩ := h.cons
      cases hended : progress.optionsEnded with
      | true =>
          rw [word_of_ended hended] at hword
          exact settle_of_plain hword
      | false =>
          rcases word_cases hended text with
            ⟨-, heq⟩ | ⟨name, -, heq⟩ | ⟨letters, hne, -, heq⟩ | ⟨-, heq⟩
          · rw [heq] at hword
            obtain rfl := Except.ok.inj hword
            obtain ⟨settled, hsettle⟩ := ih hrest hpending
            rw [settle_ended] at hsettle
            cases hs : progress.settle with
            | ok settled => exact ⟨settled, rfl⟩
            | error stop =>
                rw [hs] at hsettle
                cases hsettle
          · rw [heq] at hword
            exact settle_of_long hword
          · rw [heq] at hword
            exact settle_of_cluster hne hword
          · rw [heq] at hword
            split at hword
            · next option hawaiting => exact absurd hawaiting (hpending option)
            · exact settle_of_plain hword

/-- What has been said once a word of options is read: the items of a phrase, or those in
front of a value that the next word is. -/
def Leads (said : List Item) (text : Bytes) (next : Progress) : Prop :=
  (∃ items, Phrase items [text] ∧ next.Accounted (said ++ items)) ∨
    ∃ items option, next.Waiting option (said ++ items) ∧
      ∀ value, StandsAlone value → Phrase (items ++ [.value option value]) [text, value]

theorem Accounted.long {name : Bytes} (h : progress.Accounted said)
    (hok : progress.long name = .ok next) :
    Leads said (ascii "--" ++ name) next ∧ next.optionsEnded = progress.optionsEnded := by
  rcases long_cases hok with
    ⟨chosen, rfl, haccept⟩ | ⟨option, value, rfl, haccept⟩ | ⟨option, rfl, haccept⟩
  · obtain ⟨haccounted, hsame⟩ := h.acceptFlag haccept
    exact ⟨.inl ⟨_, .name chosen, haccounted⟩, hsame⟩
  · obtain ⟨haccounted, hsame⟩ := h.acceptAttached haccept
    rw [← List.append_assoc]
    exact ⟨.inl ⟨_, .nameAttached option value, haccounted⟩, hsame⟩
  · obtain ⟨hwaiting, hsame⟩ := h.acceptDetached haccept
    rw [← List.append_nil said] at hwaiting
    refine ⟨.inr ⟨[], option, hwaiting, ?_⟩, hsame⟩
    intro value alone
    exact .nameDetached option alone

/-- What a cluster says behind the letters of some flags. -/
inductive Tail : Bytes → List Item → Option Valued → Prop
  | nothing : Tail [] [] none
  | behindEquals (option : Valued) (text : Bytes) :
      Tail (option.letter.toUInt8 :: equals :: text) [.value option text] none
  | attached (option : Valued) {text : Bytes} (some_text : text ≠ [])
      (plain : text.head? ≠ some equals) :
      Tail (option.letter.toUInt8 :: text) [.value option text] none
  | detached (option : Valued) : Tail [option.letter.toUInt8] [] (some option)

/-- All that a cluster can be: the letters of flags, and possibly an option behind them. -/
theorem Accounted.cluster {text : Bytes} (h : progress.Accounted said)
    (hok : progress.cluster text = .ok next) :
    ∃ flags letters rest items waits, text = letters ++ rest ∧ Letters flags letters ∧
      Tail rest items waits ∧ next.optionsEnded = progress.optionsEnded ∧
        match waits with
        | none => next.Accounted (said ++ (flags.map .flag ++ items))
        | some option => next.Waiting option (said ++ (flags.map .flag ++ items)) := by
  induction text generalizing progress said with
  | nil =>
      obtain rfl := Except.ok.inj hok
      exact ⟨[], [], [], [], none, rfl, .nil, .nothing, rfl, by simpa using h⟩
  | cons letter rest ih =>
      rw [Progress.cluster] at hok
      split at hok
      · cases hok
      · next chosen hchoice =>
        obtain ⟨accepted, haccept, hok⟩ := bind_eq_ok hok
        obtain ⟨haccounted, hsame⟩ := h.acceptFlag haccept
        obtain ⟨flags, letters, behind, items, waits, rfl, spelled, tail, hended, hsaid⟩ :=
          ih haccounted hok
        refine ⟨chosen :: flags, letter :: letters, behind, items, waits, rfl, ?_, tail,
          hended.trans hsame, ?_⟩
        · exact .cons (letter_of_ofLetter? hchoice) spelled
        · rw [List.map_cons, List.cons_append, List.append_cons]
          exact hsaid
      · obtain ⟨settled, -, hstop⟩ := bind_eq_ok hok
        cases hstop
      · next option hchoice =>
        obtain rfl := Option.some.inj (letter_of_ofLetter? hchoice)
        cases rest with
        | nil =>
            obtain ⟨hwaiting, hsame⟩ := h.acceptDetached hok
            exact ⟨[], [], _, [], some option, rfl, .nil, .detached option, hsame,
              by simpa using hwaiting⟩
        | cons b value =>
            obtain ⟨haccounted, hsame⟩ := h.acceptAttached hok
            by_cases hb : b = equals
            · subst hb
              rw [if_pos rfl] at haccounted
              exact ⟨[], [], _, _, none, rfl, .nil, .behindEquals option value, hsame, haccounted⟩
            · rw [if_neg hb] at haccounted
              refine ⟨[], [], _, _, none, rfl, .nil, .attached option (by simp) ?_, hsame, ?_⟩
              · simpa using hb
              · exact haccounted

theorem Accounted.leads_cluster {letters : Bytes} (hne : letters ≠ [])
    (h : progress.Accounted said) (hok : progress.cluster letters = .ok next) :
    Leads said (dash :: letters) next ∧ next.optionsEnded = progress.optionsEnded := by
  obtain ⟨flags, front, rest, items, waits, rfl, spelled, tail, hended, hsaid⟩ := h.cluster hok
  refine ⟨?_, hended⟩
  cases tail with
  | nothing =>
      have some_flag : flags ≠ [] := by
        rintro rfl
        cases spelled
        exact hne rfl
      rw [List.append_nil]
      refine .inl ⟨_, .cluster spelled some_flag, ?_⟩
      simpa using hsaid
  | behindEquals option text => exact .inl ⟨_, .clusterEquals spelled option text, hsaid⟩
  | attached option some_text plain =>
      exact .inl ⟨_, .clusterAttached spelled option some_text plain, hsaid⟩
  | detached option =>
      refine .inr ⟨flags.map .flag, option, by simpa using hsaid, ?_⟩
      intro value alone
      exact .clusterDetached spelled option alone

/-- An option never waits behind the end of the options. -/
theorem not_accepts_of_ended {option : Valued} {words : List Bytes}
    (hpending : progress.pending = .awaiting option) (hended : progress.optionsEnded = true) :
    ¬ progress.Accepts words invocation := by
  intro h
  have refused : ∃ settled, progress.settle = .ok settled := by
    cases words with
    | nil => exact h.settle_of_nil
    | cons text rest =>
        obtain ⟨next, hword, -⟩ := h.cons
        rw [word_of_ended hended] at hword
        exact settle_of_plain hword
  obtain ⟨settled, hsettle⟩ := refused
  simp only [Progress.settle, hpending] at hsettle
  cases hsettle

/-- The word behind an option that waits can only be its value. -/
theorem Waiting.accepts {option : Valued} {words : List Bytes} (h : progress.Waiting option said)
    (hopen : progress.optionsEnded = false) (accepts : progress.Accepts words invocation) :
    ∃ value rest, words = value :: rest ∧ StandsAlone value ∧
      Accounted { progress with pending := .value option value }
        (said ++ [.value option value]) ∧
      Accepts { progress with pending := .value option value } rest invocation := by
  have refused : ¬ ∃ settled, progress.settle = .ok settled := by
    rintro ⟨settled, hsettle⟩
    simp only [Progress.settle, h.pending] at hsettle
    cases hsettle
  cases words with
  | nil => exact absurd accepts.settle_of_nil refused
  | cons value rest =>
      obtain ⟨next, hword, hrest⟩ := accepts.cons
      rcases word_cases hopen value with
        ⟨-, heq⟩ | ⟨name, -, heq⟩ | ⟨letters, hne, -, heq⟩ | ⟨alone, heq⟩
      · rw [heq] at hword
        obtain rfl := Except.ok.inj hword
        exact absurd hrest (not_accepts_of_ended h.pending rfl)
      · rw [heq] at hword
        exact absurd (settle_of_long hword) refused
      · rw [heq] at hword
        exact absurd (settle_of_cluster hne hword) refused
      · simp only [heq, h.pending] at hword
        obtain rfl := Except.ok.inj hword
        refine ⟨value, rest, rfl, alone, h.value ?_, hrest⟩
        exact hrest.settle fun other => by simp

end

end Progress

/-- The invocation is what the items amount to, and it has passed all checks. -/
structure Checked (invocation : Invocation) (items : List Item) : Prop where
  eq : invocation = ofItems items
  once : (items.map Item.choice?).Nodup
  accepted : ∀ item ∈ items, item.Accepted
  compatible : Progress.compatible invocation = true
  asks : (invocation.source.isNone && !invocation.has .version) = false

namespace Progress
variable {progress : Progress} {said : List Item} {invocation : Invocation}

theorem Accounted.checked (h : progress.Accounted said) (accepts : progress.Accepts [] invocation) :
    Checked invocation said := by
  obtain ⟨last, hlast, hfinish⟩ := bind_eq_ok accepts
  obtain rfl := Except.ok.inj hlast
  obtain ⟨settled, hsettled, -, hchecks⟩ := h.bind_settle hfinish
  dsimp only at hchecks
  split at hchecks
  · cases hchecks
  · next hcompatible =>
    split at hchecks
    · cases hchecks
    · next hasks =>
      obtain rfl := Except.ok.inj hchecks
      exact ⟨hsettled.invocation, h.once, h.accepted, by simpa using hcompatible,
        by simpa using hasks⟩

/-- Behind the end of the options there is room for a source and nothing else. -/
theorem Accounted.checked_of_ended {words : List Bytes} (h : progress.Accounted said)
    (hended : progress.optionsEnded = true) (accepts : progress.Accepts words invocation) :
    words = [] ∧ Checked invocation said ∨
      ∃ path, words = [path] ∧ Checked invocation (said ++ [.source path]) := by
  cases words with
  | nil => exact .inl ⟨rfl, h.checked accepts⟩
  | cons path rest =>
      obtain ⟨next, hword, hrest⟩ := accepts.cons
      rw [word_of_ended hended] at hword
      have settles := hrest.settle (not_awaiting_of_plain hword)
      obtain ⟨haccounted, hsame⟩ := h.plain hword settles
      cases rest with
      | nil => exact .inr ⟨path, rfl, haccounted.checked hrest⟩
      | cons second others =>
          obtain ⟨last, hlast, -⟩ := hrest.cons
          rw [word_of_ended (hsame.trans hended)] at hlast
          obtain ⟨-, settled, -, hseen⟩ := plain_cases hword
          obtain ⟨unseen, -⟩ := plain_cases hlast
          rw [hseen] at unseen
          cases unseen

/-- A phrase stands in front of the words, and the rest of them is accepted behind it. -/
def Continues (said : List Item) (words : List Bytes) (invocation : Invocation) : Prop :=
  ∃ (items : List Item) (front rest : List Bytes) (next : Progress), Phrase items front ∧
    words = front ++ rest ∧ next.Accounted (said ++ items) ∧ next.optionsEnded = false ∧
      next.Accepts rest invocation

theorem Leads.continues {next : Progress} {text : Bytes} {rest : List Bytes}
    (leads : Leads said text next) (hopen : next.optionsEnded = false)
    (hrest : next.Accepts rest invocation) : Continues said (text :: rest) invocation := by
  rcases leads with ⟨items, phrase, accounted⟩ | ⟨items, option, waiting, phrase⟩
  · exact ⟨items, [text], rest, next, phrase, rfl, accounted, hopen, hrest⟩
  · obtain ⟨value, more, rfl, alone, accounted, haccepts⟩ := waiting.accepts hopen hrest
    rw [List.append_assoc] at accounted
    exact ⟨_, [text, value], more, _, phrase value alone, rfl, accounted, hopen, haccepts⟩

/-- One step through an accepted command line: the options end here, or a phrase is next. -/
theorem Accounted.step {text : Bytes} {rest : List Bytes} (h : progress.Accounted said)
    (hopen : progress.optionsEnded = false)
    (accepts : progress.Accepts (text :: rest) invocation) :
    text = ascii "--" ∧ (rest = [] ∧ Checked invocation said ∨
        ∃ path, rest = [path] ∧ Checked invocation (said ++ [.source path])) ∨
      Continues said (text :: rest) invocation := by
  obtain ⟨next, hword, hrest⟩ := accepts.cons
  rcases word_cases hopen text with
    ⟨rfl, heq⟩ | ⟨name, rfl, heq⟩ | ⟨letters, hne, rfl, heq⟩ | ⟨alone, heq⟩
  · rw [heq] at hword
    obtain rfl := Except.ok.inj hword
    have accounted : progress.ended.Accounted said := ⟨h.reached.ended, h.once, h.accepted⟩
    exact .inl ⟨rfl, accounted.checked_of_ended rfl hrest⟩
  · rw [heq] at hword
    obtain ⟨leads, hsame⟩ := h.long hword
    exact .inr (leads.continues (hsame.trans hopen) hrest)
  · rw [heq] at hword
    obtain ⟨leads, hsame⟩ := h.leads_cluster hne hword
    exact .inr (leads.continues (hsame.trans hopen) hrest)
  · rw [heq] at hword
    split at hword
    · next option hpending => exact absurd hpending (h.reached.not_awaiting option)
    · have settles := hrest.settle (not_awaiting_of_plain hword)
      obtain ⟨accounted, hsame⟩ := h.plain hword settles
      exact .inr ⟨_, [text], rest, next, .source alone, rfl, accounted, hsame.trans hopen, hrest⟩

/-- An accepted command line has an account, and the invocation is what it says. -/
theorem Accounted.account {words : List Bytes} (h : progress.Accounted said)
    (hopen : progress.optionsEnded = false) (accepts : progress.Accepts words invocation) :
    ∃ items, Account items words ∧ Checked invocation (said ++ items) := by
  -- a phrase takes one word or two, so the rest is shorter but not always the tail
  induction hlength : words.length using Nat.strongRecOn generalizing words progress said with
  | ind n ih =>
    cases words with
    | nil => exact ⟨[], .done, by simpa using h.checked accepts⟩
    | cons text rest =>
      rcases h.step hopen accepts with
        ⟨rfl, ⟨rfl, checked⟩ | ⟨path, rfl, checked⟩⟩ |
          ⟨items, front, behind, next, phrase, hwords, accounted, hnext, hbehind⟩
      · exact ⟨[], .ended, by simpa using checked⟩
      · exact ⟨[.source path], .last path, checked⟩
      · have hfront : front ≠ [] := by
          rintro rfl
          cases phrase
        have hshort : behind.length < n := by
          rw [← hlength, hwords, List.length_append]
          have := List.length_pos_iff.mpr hfront
          omega
        obtain ⟨more, account, checked⟩ := ih _ hshort accounted hnext hbehind rfl
        rw [List.append_assoc] at checked
        rw [hwords]
        exact ⟨items ++ more, .phrase phrase account, checked⟩

end Progress

end Invocation

end BrainfuckCompiler
