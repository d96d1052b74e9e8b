import BrainfuckCompiler.Proofs.C.Execution
import BrainfuckCompiler.Proofs.C.Reading
import BrainfuckCompiler.Proofs.Delivery
import BrainfuckCompiler.Proofs.Reference

/-!
# The generated program does what its source means

The statements of a generated program, read as C and executed on an array of zeros,
behave like the source they come from. The source is executed by jumps between
partner brackets and knows no loops; the C code is executed as nested loops and knows
no jumps. `Located` brings the two together: it relates a place in the source to the
code that is left to execute there. Each operator is then matched by the statements
of its group.
-/
namespace BrainfuckCompiler
open Machine

namespace C.Translates
open Reference
variable {settings : Settings} {list : List Operator} {code : List Code}

/-- Counting brackets to the right, a stretch with matching brackets is passed over. -/
theorem seekEnd_append (h : Translates settings list code) (depth : Nat)
    (behind ahead : List Operator) :
    seekEnd depth behind (list ++ ahead) = seekEnd depth (list.reverse ++ behind) ahead := by
  induction h generalizing depth behind ahead with
  | nil => rfl
  | @plain operator rest code ho hc _ ih =>
      have hstep : seekEnd depth behind (operator :: (rest ++ ahead)) =
          seekEnd depth (operator :: behind) (rest ++ ahead) := by
        cases operator with
        | openLoop => exact absurd rfl ho
        | closeLoop => exact absurd rfl hc
        | _ => rw [seekEnd] <;> simp
      rw [List.cons_append, hstep, ih, List.reverse_cons, List.append_assoc, List.singleton_append]
  | loop _ _ ihbody ihrest =>
      rw [List.append_assoc, List.cons_append, seekEnd, ihbody, List.cons_append, seekEnd, ihrest]
      simp

/-- The same to the left. -/
theorem seekStart_append (h : Translates settings list code) (depth : Nat)
    (behind ahead : List Operator) :
    seekStart depth (list.reverse ++ behind) ahead = seekStart depth behind (list ++ ahead) := by
  induction h generalizing depth behind ahead with
  | nil => rfl
  | @plain operator rest code ho hc _ ih =>
      have hstep : seekStart depth (operator :: behind) (rest ++ ahead) =
          seekStart depth behind (operator :: (rest ++ ahead)) := by
        cases operator with
        | openLoop => exact absurd rfl ho
        | closeLoop => exact absurd rfl hc
        | _ => rw [seekStart] <;> simp
      rw [List.reverse_cons, List.append_assoc, ih, List.singleton_append, hstep, List.cons_append]
  | loop _ _ ihbody ihrest =>
      simp only [List.cons_append, List.reverse_cons, List.reverse_append, List.append_assoc,
        List.nil_append]
      rw [ihrest, seekStart, ihbody, seekStart]

end C.Translates

namespace Simulation
open C

/-- The code that is left to execute at a place of the source. Inside a loop it is
the rest of the current round, the loop itself, and what comes after the loop. -/
inductive Located (settings : Settings) : List Operator → List Operator → List Code → Prop
  | outermost {behind ahead : List Operator} {code : List Code} :
      Translates settings ahead code → Located settings behind ahead code
  | inside {done left behind ahead : List Operator} {before after rest : List Code} :
      Translates settings done before → Translates settings left after →
      Located settings (.closeLoop :: (done ++ left).reverse ++ .openLoop :: behind) ahead rest →
      Located settings (done.reverse ++ .openLoop :: behind) (left ++ .closeLoop :: ahead)
        (after ++ .loop (before ++ after) :: rest)

namespace Located
variable {settings : Settings} {behind ahead : List Operator} {code : List Code}

theorem eq_nil (h : Located settings behind [] code) : code = [] := by
  generalize hn : ([] : List Operator) = list at h
  cases h with
  | outermost h =>
      subst hn
      cases h
      rfl
  | inside => simp at hn

/-- A plain operator: its code comes next. -/
theorem plain {operator : Operator} (ho : operator ≠ .openLoop) (hc : operator ≠ .closeLoop)
    (h : Located settings behind (operator :: ahead) code) :
    ∃ rest, code = operator.code settings ++ rest ∧
      Located settings (operator :: behind) ahead rest := by
  generalize hl : operator :: ahead = list at h
  cases h with
  | outermost h =>
      cases h with
      | nil => cases hl
      | plain _ _ h =>
          cases hl
          exact ⟨_, rfl, .outermost h⟩
      | loop => exact absurd (List.cons.inj hl).1 ho
  | @inside done left outer ahead' before after rest hdone hleft hrest =>
      cases hleft with
      | nil => exact absurd (List.cons.inj hl).1 hc
      | @plain _ more code _ _ hmore =>
          rw [List.cons_append] at hl
          obtain ⟨rfl, rfl⟩ := List.cons.inj hl
          have hdone' := hdone.append (.plain ho hc .nil)
          have moved := @Located.inside settings _ _ outer ahead' _ _ rest hdone' hmore
            (by simpa only [List.append_assoc, List.singleton_append] using hrest)
          refine ⟨_, List.append_assoc _ _ _, ?_⟩
          simpa only [List.append_nil, List.reverse_append, List.reverse_cons, List.reverse_nil,
            List.nil_append, List.cons_append, List.append_assoc] using moved
      | loop => exact absurd (List.cons.inj hl).1 ho

/-- An opening bracket: a loop comes next, and the source goes on behind its end. -/
theorem openLoop (h : Located settings behind (.openLoop :: ahead) code) :
    ∃ body more inner rest, ahead = body ++ .closeLoop :: more ∧ code = .loop inner :: rest ∧
      Translates settings body inner ∧
      Located settings (.closeLoop :: body.reverse ++ .openLoop :: behind) more rest := by
  generalize hl : Operator.openLoop :: ahead = list at h
  cases h with
  | outermost h =>
      cases h with
      | nil => cases hl
      | plain ho => exact absurd (List.cons.inj hl).1.symm ho
      | @loop body more inner rest hbody hmore =>
          exact ⟨body, more, inner, rest, (List.cons.inj hl).2, rfl, hbody, .outermost hmore⟩
  | @inside done left outer ahead' before after rest hdone hleft hrest =>
      cases hleft with
      | nil => cases hl
      | plain ho => exact absurd (List.cons.inj hl).1.symm ho
      | @loop body more inner code hbody hmore =>
          have hdone' := hdone.append (.loop hbody .nil)
          have moved := @Located.inside settings _ _ outer ahead' _ _ rest hdone' hmore
            (by simpa only [List.append_assoc, List.cons_append, List.nil_append] using hrest)
          refine ⟨body, more ++ .closeLoop :: ahead', inner,
            code ++ .loop (before ++ .loop inner :: code) :: rest, ?_, rfl, hbody, ?_⟩
          · simpa only [List.cons_append, List.append_assoc, List.cons.injEq, true_and] using hl
          · simpa only [List.reverse_append, List.reverse_cons, List.reverse_nil, List.nil_append,
              List.cons_append, List.append_assoc] using moved

/-- A closing bracket: all of a round has been executed, and the loop comes next. -/
theorem closeLoop (h : Located settings behind (.closeLoop :: ahead) code) :
    ∃ body outer inner rest, behind = body.reverse ++ .openLoop :: outer ∧
      code = .loop inner :: rest ∧ Translates settings body inner ∧
      Located settings (.closeLoop :: body.reverse ++ .openLoop :: outer) ahead rest := by
  generalize hl : Operator.closeLoop :: ahead = list at h
  cases h with
  | outermost h =>
      cases h with
      | nil => cases hl
      | plain _ hc => exact absurd (List.cons.inj hl).1.symm hc
      | loop => cases hl
  | @inside done left outer ahead' before after rest hdone hleft hrest =>
      cases hleft with
      | nil =>
          cases hl
          refine ⟨done, outer, before, rest, rfl, ?_, hdone, ?_⟩
          · rw [List.nil_append, List.append_nil]
          · rwa [List.append_nil] at hrest
      | plain _ hc => exact absurd (List.cons.inj hl).1.symm hc
      | loop => cases hl

end Located

/-- The state that a store stands for. The character fetched last is not part of it. -/
def view {w : Nat} (store : Store w) : Reference.State :=
  ⟨store.cells.map BitVec.toNat, store.pointer, store.input, store.output⟩

section
variable {w : Nat} (store : Store w)

theorem cell?_view : (view store).cell? = store.cell?.map BitVec.toNat := by
  by_cases h : store.pointer < 0
  · simp [view, Reference.State.cell?, Store.cell?, h]
  · simp [view, Reference.State.cell?, Store.cell?, h]

theorem write_view (value : BitVec w) : (view store).write value.toNat = view (store.write value) := by
  simp only [view, Reference.State.write, Store.write, List.map_set]

end

/-- Executes statements without loops, one after the other. -/
def execute {w : Nat} : List Code → Store w → Option (Store w)
  | [], store => some store
  | .act condition action :: rest, store =>
      if condition.holds store.ch then (action.run store).bind (execute rest) else execute rest store
  | .loop _ :: _, _ => none

section
variable {w : Nat}

theorem toNat_add_one (value : BitVec w) : (value + 1).toNat = (value.toNat + 1) % 2 ^ w := by
  change (value + 1#w).toNat = _
  rw [BitVec.toNat_add, BitVec.toNat_ofNat, Nat.add_mod_mod]

theorem toNat_sub_one (h : 8 ≤ w) (value : BitVec w) :
    (value - 1).toNat = (value.toNat + 2 ^ w - 1) % 2 ^ w := by
  have hpos : 0 < 2 ^ w := Nat.two_pow_pos w
  change (value - 1#w).toNat = _
  rw [BitVec.toNat_sub, BitVec.toNat_one (by omega)]
  congr 1
  omega

theorem toNat_ofInt_byte (h : 8 ≤ w) (b : UInt8) : (BitVec.ofInt w b.toNat).toNat = b.toNat := by
  rw [BitVec.ofInt_natCast, BitVec.toNat_ofNat]
  apply Nat.mod_eq_of_lt
  calc b.toNat < 2 ^ 8 := b.toNat_lt
    _ ≤ 2 ^ w := Nat.pow_le_pow_right (by omega) h

theorem toNat_ofInt_endOfFile : (BitVec.ofInt w endOfFile).toNat = 2 ^ w - 1 := by
  have hpos : 0 < 2 ^ w := Nat.two_pow_pos w
  rw [BitVec.toNat_ofInt, endOfFile]
  generalize 2 ^ w = m at hpos ⊢
  have : (-1 : Int) % (m : Int) = m - 1 := by
    rw [← Int.add_emod_right, Int.emod_eq_of_lt] <;> omega
  omega

end

theorem eight_le_bits (width : CellWidth) : 8 ≤ width.bits := by cases width <;> decide

section
variable {w : Nat} (store : Store w)

theorem execute_always (action : Action) (rest : List Code) :
    execute (.act .always action :: rest) store = (action.run store).bind (execute rest) := rfl

theorem execute_single (action : Action) : execute [.act .always action] store = action.run store := by
  rw [execute_always]
  cases action.run store <;> rfl

theorem execute_of_holds {condition : Condition} (h : condition.holds store.ch = true)
    (action : Action) (rest : List Code) :
    execute (.act condition action :: rest) store = execute (.act .always action :: rest) store := by
  rw [execute, if_pos h, execute_always]

theorem execute_of_not_holds {condition : Condition} (h : condition.holds store.ch = false)
    (action : Action) (rest : List Code) :
    execute (.act condition action :: rest) store = execute rest store := by
  rw [execute, if_neg (by simp [h])]

/-- The store after a character, stored whatever it is. -/
theorem map_view_store (value : Nat) (h : (BitVec.ofInt w store.ch).toNat = value) :
    (execute [.act .always .store] store).map view =
      (view store).cell?.map fun _ => (view store).write value := by
  rw [execute_single, cell?_view, ← h, write_view]
  simp only [Action.run, Option.map_map, Function.comp_def]

end

/-- Fetching and storing a character, for each policy and with and without input. -/
theorem map_view_get (settings : Settings) (store : Store settings.width.bits) :
    (execute (Operator.get.code settings) store).map view = (view store).fetch settings := by
  have hcode : execute (Operator.get.code settings) store =
      execute ((settings.endOfInput.statements settings.width).filterMap
        fun statement => statement.phrase.code?) store.fetch := rfl
  rw [hcode]
  cases hi : store.input with
  | nil =>
      have hfetch : store.fetch = { store with ch := endOfFile } := by simp only [Store.fetch, hi]
      have hinput : (view store).input = [] := hi
      rw [hfetch, Reference.State.fetch, hinput]
      cases settings.endOfInput with
      | storeZero => exact map_view_store { store with ch := 0 } 0 (by simp)
      | storeMinusOne =>
          exact map_view_store { store with ch := endOfFile } _ toNat_ofInt_endOfFile
      | keepCell => rfl
  | cons b rest =>
      have hfetch : store.fetch = { store with ch := b.toNat, input := rest } := by
        simp only [Store.fetch, hi]
      have hinput : (view store).input = b :: rest := hi
      have hend : (b.toNat : Int) ≠ endOfFile := by
        unfold endOfFile
        omega
      have stored := map_view_store { store with ch := b.toNat, input := rest } b.toNat
        (toNat_ofInt_byte (eight_le_bits settings.width) b)
      have hstate : (view store).fetch settings = (view store).cell?.map fun _ =>
          { (view store).write b.toNat with input := rest } := by
        rw [Reference.State.fetch, hinput]
      rw [hfetch, hstate]
      cases settings.endOfInput with
      | storeZero =>
          change (execute [.act .atEnd .clear, .act .always .store] _).map view = _
          rw [execute_of_not_holds _ (by simp [Condition.holds, hend])]
          exact stored
      | storeMinusOne => exact stored
      | keepCell =>
          change (execute [.act .notAtEnd .store] _).map view = _
          rw [execute_of_holds _ (by simp [Condition.holds, hend])]
          exact stored

/-- The statements of an operator do to a store what the operator does to the state
that the store stands for. -/
theorem map_view_execute (settings : Settings) {operator : Operator} (ho : operator ≠ .openLoop)
    (hc : operator ≠ .closeLoop) (store : Store settings.width.bits) :
    (execute (operator.code settings) store).map view = (view store).apply settings operator := by
  cases operator with
  | openLoop => exact absurd rfl ho
  | closeLoop => exact absurd rfl hc
  | right => rfl
  | left => rfl
  | increment =>
      change (execute [.act .always .increment] store).map view = _
      rw [execute_single]
      simp only [Action.run, Reference.State.apply, cell?_view, Option.map_map, Function.comp_def,
        ← toNat_add_one, write_view]
  | decrement =>
      change (execute [.act .always .decrement] store).map view = _
      rw [execute_single]
      simp only [Action.run, Reference.State.apply, cell?_view, Option.map_map, Function.comp_def,
        ← toNat_sub_one (eight_le_bits settings.width), write_view]
  | put =>
      have hput : execute (Operator.put.code settings) store = Action.put.run store := by
        cases hf : settings.flushes <;>
          simp only [Operator.code, Operator.statements, hf, Bool.false_eq_true, if_true, if_false]
        · exact execute_single store .put
        · change (Action.put.run store).bind (execute [.act .always .flush]) = _
          cases Action.put.run store <;> rfl
      rw [hput]
      simp only [Action.run, Reference.State.apply, cell?_view, Option.map_map, Function.comp_def]
      rfl
  | get => exact map_view_get settings store

/-- A statement that puts nothing out. -/
def Silent : Code → Prop
  | .act _ action => action ≠ .put
  | .loop _ => False

theorem output_run {w : Nat} {store after : Store w} {action : Action} (h : action ≠ .put)
    (hr : action.run store = some after) : after.output = store.output := by
  cases action with
  | put => exact absurd rfl h
  | fetch =>
      obtain rfl : store.fetch = after := by simpa [Action.run] using hr
      unfold Store.fetch
      split <;> rfl
  | advance => cases hr; rfl
  | retreat => cases hr; rfl
  | clear => cases hr; rfl
  | flush => cases hr; rfl
  | _ =>
      obtain ⟨_, -, rfl⟩ := Option.map_eq_some_iff.mp hr
      rfl

/-- From `config` a path of such configurations leads to the rest of the code with the
given store, or to a statement without meaning if there is none. -/
def Leads {w : Nat} (P : Config w → Prop) (config : Config w) (rest : List Code) :
    Option (Store w) → Prop
  | some after => ∃ n, Path move P n config ⟨rest, after⟩
  | none => ∃ n u, move u = .undefined ∧ P u ∧ Path move P n config u

theorem Leads.step {w : Nat} {P : Config w → Prop} {config next : Config w} {rest : List Code}
    {result : Option (Store w)} (hp : P config) (hm : move config = .next next)
    (h : Leads P next rest result) : Leads P config rest result := by
  cases result with
  | none =>
      obtain ⟨n, u, hu, hpu, path⟩ := h
      exact ⟨n + 1, u, hu, hpu, .step hp hm path⟩
  | some after =>
      obtain ⟨n, path⟩ := h
      exact ⟨n + 1, .step hp hm path⟩

section
variable {w : Nat}

theorem move_act (condition : Condition) (action : Action) (rest : List Code) (store : Store w) :
    move ⟨.act condition action :: rest, store⟩ =
      if condition.holds store.ch then .ofOption ((action.run store).map (⟨rest, ·⟩))
      else .next ⟨rest, store⟩ := rfl

/-- Silent statements are executed without output, to their end or to a statement
without meaning. -/
theorem leads_of_silent {code : List Code} (h : ∀ statement ∈ code, Silent statement)
    (rest : List Code) (store : Store w) (output : Bytes) (ho : store.output = output) :
    Leads (fun u => u.store.output = output) ⟨code ++ rest, store⟩ rest (execute code store) ∧
      ∀ after, execute code store = some after → after.output = output := by
  induction code generalizing store with
  | nil => exact ⟨⟨0, .here _⟩, fun after h => (Option.some.inj h) ▸ ho⟩
  | cons statement code ih =>
      have ih := ih fun other ho => h other (List.mem_cons_of_mem _ ho)
      cases statement with
      | loop => exact (h _ List.mem_cons_self).elim
      | act condition action =>
          have hput : action ≠ .put := h _ List.mem_cons_self
          have hmove := move_act condition action (code ++ rest) store
          cases hc : condition.holds store.ch with
          | false =>
              rw [execute_of_not_holds store hc]
              exact ⟨.step ho (by simp [hmove, hc]) (ih store ho).1, (ih store ho).2⟩
          | true =>
              rw [execute_of_holds store hc, execute_always]
              cases hr : action.run store with
              | none => exact ⟨⟨0, _, by simp [hmove, hc, hr, Move.ofOption], ho, .here _⟩, by simp⟩
              | some next =>
                  have ho' := (output_run hput hr).trans ho
                  exact ⟨.step ho (by simp [hmove, hc, hr, Move.ofOption]) (ih next ho').1,
                    (ih next ho').2⟩

end

/-- Every group starts with a statement that is always executed. Only that one can put
something out, and what follows it then cannot fail. -/
theorem exists_first (settings : Settings) {operator : Operator} (ho : operator ≠ .openLoop)
    (hc : operator ≠ .closeLoop) :
    ∃ first others, operator.code settings = .act .always first :: others ∧
      (∀ statement ∈ others, Silent statement) ∧
      (first = .put → ∀ store : Store settings.width.bits, execute others store ≠ none) := by
  cases operator with
  | openLoop => exact absurd rfl ho
  | closeLoop => exact absurd rfl hc
  | put =>
      cases hf : settings.flushes <;>
        simp only [Operator.code, Operator.statements, hf, Bool.false_eq_true, if_true, if_false]
      · exact ⟨.put, [], rfl, by simp, by simp [execute]⟩
      · refine ⟨.put, [.act .always .flush], rfl, ?_, ?_⟩
        · intro statement hs
          obtain rfl := List.mem_singleton.mp hs
          simp [Silent]
        · intro _ store
          simp [execute, Condition.holds, Action.run]
  | get =>
      simp only [Operator.code, Operator.statements]
      refine ⟨.fetch, _, rfl, ?_, by simp⟩
      cases settings.endOfInput <;>
        simp [EndOfInput.statements, Statement.phrase, C.Phrase.code?, Silent]
  | right => exact ⟨.advance, [], rfl, by simp, by simp⟩
  | left => exact ⟨.retreat, [], rfl, by simp, by simp⟩
  | increment => exact ⟨.increment, [], rfl, by simp, by simp⟩
  | decrement => exact ⟨.decrement, [], rfl, by simp, by simp⟩

/-- A place in the source and the code left there, with the same cells, head, input and
output. -/
def related (settings : Settings) (place : Reference.Config) (config : Config settings.width.bits) :
    Prop :=
  Located settings place.position.behind place.position.ahead config.todo ∧
    view config.store = place.state

/-- The second machine matches what the first one does at a place. -/
abbrev MatchedAt (settings : Settings) (place : Reference.Config)
    (config : Config settings.width.bits) : Prop :=
  Matched (Reference.move settings) move Reference.Config.state (fun c => view c.store)
    Reference.State.output (related settings) place config

theorem move_plain (settings : Settings) {operator : Operator} (ho : operator ≠ .openLoop)
    (hc : operator ≠ .closeLoop) (behind ahead : List Operator) (state : Reference.State) :
    Reference.move settings ⟨⟨behind, operator :: ahead⟩, state⟩ =
      .ofOption ((state.apply settings operator).map (⟨⟨operator :: behind, ahead⟩, ·⟩)) := by
  cases operator with
  | openLoop => exact absurd rfl ho
  | closeLoop => exact absurd rfl hc
  | _ => rfl

section
variable {settings : Settings} {behind ahead : List Operator} {state : Reference.State}
variable {config : Config settings.width.bits}

theorem matchedAt_plain {operator : Operator} (ho : operator ≠ .openLoop)
    (hc : operator ≠ .closeLoop)
    (h : related settings ⟨⟨behind, operator :: ahead⟩, state⟩ config) :
    MatchedAt settings ⟨⟨behind, operator :: ahead⟩, state⟩ config := by
  obtain ⟨todo, store⟩ := config
  obtain ⟨located, rfl⟩ := h
  obtain ⟨rest, rfl, located'⟩ := located.plain ho hc
  obtain ⟨first, others, hcode, silent, safe⟩ := exists_first settings ho hc
  have hplace := move_plain settings ho hc behind ahead (view store)
  rw [← map_view_execute settings ho hc store, hcode, execute_always] at hplace
  rw [hcode]
  have hmove := move_act .always first (others ++ rest) store
  cases hr : first.run store with
  | none =>
      rw [hr] at hplace hmove
      exact (matched_undefined hplace).mpr ⟨0, _, hmove, rfl, .here _⟩
  | some next =>
      rw [hr] at hplace hmove
      obtain ⟨leads, houtput⟩ := leads_of_silent silent rest next next.output rfl
      rw [Option.bind_some] at hplace
      cases he : execute others next with
      | none =>
          have hput : first ≠ .put := fun hf => safe hf next he
          have ho' : next.output = store.output := output_run hput hr
          rw [he] at hplace leads
          obtain ⟨n, u, hu, hpu, path⟩ := leads
          refine (matched_undefined hplace).mpr ⟨n + 1, u, hu, hpu.trans ho', ?_⟩
          exact .step rfl hmove (path.imp fun v hv => hv.trans ho')
      | some after =>
          have ho' : after.output = next.output := houtput after he
          rw [he] at hplace leads
          obtain ⟨n, path⟩ := leads
          refine (matched_next hplace).mpr ⟨n, ⟨rest, after⟩, ⟨located', rfl⟩, ?_⟩
          exact .step (.inl rfl) hmove (path.imp fun v hv => .inr (hv.trans ho'.symm))

/-- A bracket is matched by one test of the loop it belongs to. -/
theorem matchedAt_of_test {inner rest : List Code} {store : Store settings.width.bits}
    {place : Reference.Config} {exit again : Reference.Position} (hview : view store = place.state)
    (hplace : Reference.move settings place = .ofOption (place.state.cell?.bind fun value =>
      (if value = 0 then some exit else some again).map (⟨·, place.state⟩)))
    (hexit : Located settings exit.behind exit.ahead rest)
    (hagain : Located settings again.behind again.ahead (inner ++ .loop inner :: rest)) :
    MatchedAt settings place ⟨.loop inner :: rest, store⟩ := by
  rw [← hview, cell?_view] at hplace
  have hmove : move ⟨.loop inner :: rest, store⟩ = .ofOption (store.cell?.map fun value =>
      ⟨if value = 0 then rest else inner ++ .loop inner :: rest, store⟩) := rfl
  have hout : (view store).output = place.state.output := congrArg _ hview
  cases hv : store.cell? with
  | none =>
      rw [hv] at hplace hmove
      exact (matched_undefined hplace).mpr ⟨0, _, hmove, hout, .here _⟩
  | some value =>
      rw [hv] at hplace hmove
      by_cases hz : value = 0
      · subst hz
        have hzero : (0 : BitVec settings.width.bits).toNat = 0 := BitVec.toNat_zero
        rw [Option.map_some, Option.bind_some, if_pos hzero] at hplace
        rw [Option.map_some, if_pos rfl] at hmove
        exact (matched_next hplace).mpr
          ⟨0, ⟨rest, store⟩, ⟨hexit, rfl⟩, .step (.inl hout) hmove (.here _)⟩
      · have hnat : value.toNat ≠ 0 := fun h => hz (BitVec.eq_of_toNat_eq (by simpa using h))
        rw [Option.map_some, Option.bind_some, if_neg hnat] at hplace
        rw [Option.map_some, if_neg hz] at hmove
        exact (matched_next hplace).mpr
          ⟨0, ⟨_, store⟩, ⟨hagain, rfl⟩, .step (.inl hout) hmove (.here _)⟩

theorem matchedAt_openLoop (h : related settings ⟨⟨behind, .openLoop :: ahead⟩, state⟩ config) :
    MatchedAt settings ⟨⟨behind, .openLoop :: ahead⟩, state⟩ config := by
  obtain ⟨todo, store⟩ := config
  obtain ⟨located, hview⟩ := h
  obtain ⟨body, more, inner, rest, rfl, rfl, hbody, hmore⟩ := located.openLoop
  have hseek : Reference.seekEnd 0 (.openLoop :: behind) (body ++ .closeLoop :: more) =
      some ⟨.closeLoop :: (body.reverse ++ .openLoop :: behind), more⟩ := by
    rw [hbody.seekEnd_append, Reference.seekEnd]
  have hagain : Located settings (.openLoop :: behind) (body ++ .closeLoop :: more)
      (inner ++ .loop inner :: rest) := .inside .nil hbody hmore
  refine @matchedAt_of_test settings inner rest store _ ⟨_, _⟩ ⟨_, _⟩ hview ?_ hmore hagain
  simp only [Reference.move, hseek]
  rfl

theorem matchedAt_closeLoop (h : related settings ⟨⟨behind, .closeLoop :: ahead⟩, state⟩ config) :
    MatchedAt settings ⟨⟨behind, .closeLoop :: ahead⟩, state⟩ config := by
  obtain ⟨todo, store⟩ := config
  obtain ⟨located, hview⟩ := h
  obtain ⟨body, outer, inner, rest, rfl, rfl, hbody, hrest⟩ := located.closeLoop
  have hseek : Reference.seekStart 0 (body.reverse ++ .openLoop :: outer) (.closeLoop :: ahead) =
      some ⟨.openLoop :: outer, body ++ .closeLoop :: ahead⟩ := by
    rw [hbody.seekStart_append, Reference.seekStart]
  have hagain : Located settings (.openLoop :: outer) (body ++ .closeLoop :: ahead)
      (inner ++ .loop inner :: rest) := .inside .nil hbody hrest
  refine @matchedAt_of_test settings inner rest store _ ⟨_, _⟩ ⟨_, _⟩ hview ?_ hrest hagain
  simp only [Reference.move, hseek]
  rfl

end

/-- Executing the code of a source simulates the source. -/
theorem simulation (settings : Settings) :
    Machine.Simulation (Reference.move settings) move Reference.Config.state (fun c => view c.store)
      Reference.State.output (related settings) where
  view h := h.2
  matched {place config} h := by
    obtain ⟨⟨behind, ahead⟩, state⟩ := place
    cases ahead with
    | nil =>
        obtain ⟨todo, store⟩ := config
        obtain rfl : todo = [] := h.1.eq_nil
        exact (matched_finished rfl).mpr rfl
    | cons operator ahead =>
        by_cases ho : operator = .openLoop
        · subst ho
          exact matchedAt_openLoop h
        by_cases hc : operator = .closeLoop
        · subst hc
          exact matchedAt_closeLoop h
        exact matchedAt_plain ho hc h

theorem lastLine_append (before : Bytes) {line : Bytes} (h : newline ∉ line) :
    lastLine (before ++ newline :: line ++ [newline]) = line := by
  have hall : ∀ b ∈ line.reverse, decide (b ≠ newline) = true := by
    intro b hb
    have hne : b ≠ newline := by
      rintro rfl
      exact h (List.mem_reverse.mp hb)
    simpa using hne
  have hreverse : (before ++ newline :: line ++ [newline]).reverse.drop 1 =
      line.reverse ++ newline :: before.reverse := by simp
  unfold lastLine
  rw [hreverse, List.takeWhile_append_of_pos hall, List.takeWhile_cons_of_neg (by simp),
    List.append_nil, List.reverse_reverse]

/-- The preamble declares the pointer to cells of the chosen width. -/
theorem declaredType?_preamble (settings : Settings) :
    declaredType? (lastLine (Program.preamble settings)) = some (ascii settings.width.typeName) := by
  have hcheck : Frame.allocationCheck =
      Frame.allocationCheck.dropLast.dropLast.dropLast ++ newline :: ascii "  " := by
    decide +kernel
  have hdeclaration : ascii "* ptr = buff;\n" = ascii "* ptr = buff;" ++ [newline] := by
    decide +kernel
  have hline : ∃ before, Program.preamble settings = before ++
      newline :: (ascii "  " ++ (ascii settings.width.typeName ++ ascii "* ptr = buff;")) ++
        [newline] := by
    rw [Program.preamble_eq, Frame.mainFragments, hcheck, hdeclaration]
    simp only [List.flatten_cons, List.flatten_nil, List.append_nil, List.append_assoc,
      List.cons_append]
    simp only [← List.append_assoc _ _ (newline :: _)]
    exact ⟨_, rfl⟩
  obtain ⟨before, hbefore⟩ := hline
  rw [hbefore, lastLine_append]
  · cases settings.width <;> decide +kernel
  · cases settings.width <;> decide +kernel

theorem bits?_typeName (width : CellWidth) : bits? (ascii width.typeName) = some width.bits := by
  cases width <;> decide +kernel

/-- The text written between preamble and epilogue is C code, with the cell type that
the preamble declares. On an array of zeros and with any first value of the character
the code behaves like the source. -/
def Faithful (settings : Settings) (source input : Bytes) (ch : Int) : Prop :=
  ∃ text type code,
    (Emission.body settings ⟨source, none⟩).written =
      Program.preamble settings ++ text ++ (Program.epilogue ++ Program.inputHelper) ∧
    declaredType? (lastLine (Program.preamble settings)) = some type ∧
    bits? type = some settings.width.bits ∧
    parse type text = some code ∧
    SameBehaviour (Reference.move settings) move Reference.Config.state (fun c => view c.store)
      Reference.State.output (Reference.start settings source input)
      (start settings.width.bits settings.cells.toNat code input ch)

/-- A source whose brackets match is translated faithfully, whatever the settings, the
input and the comments in it. -/
theorem faithful_of_check (settings : Settings) (source input : Bytes) (ch : Int)
    (h : Brackets.check source = .ok ()) : Faithful settings source input ch := by
  obtain ⟨code, hcode⟩ := exists_translates settings (Brackets.balanced_of_check h)
  have hstart : related settings (Reference.start settings source input)
      (start settings.width.bits settings.cells.toNat code input ch) := by
    refine ⟨.outermost hcode, ?_⟩
    simp [view, start, Reference.start]
  refine ⟨Program.statements settings source, ascii settings.width.typeName, code, ?_,
    declaredType?_preamble settings, bits?_typeName settings.width, parse_statements hcode,
    (simulation settings).sameBehaviour hstart⟩
  rw [(Emission.offers_body settings source).written, Program.body, List.append_assoc _ _
    Program.inputHelper]

theorem faithful_copy_loop :
    Brackets.check (ascii ",[>+<.,] nested [[-]]") = .ok () ∧
      Faithful { width := .bits16, endOfInput := .keepCell, flushes := true }
        (ascii ",[>+<.,] nested [[-]]") (ascii "ab") 7 := by
  have h : Brackets.check (ascii ",[>+<.,] nested [[-]]") = .ok () := rfl
  exact ⟨h, faithful_of_check _ _ _ _ h⟩

end Simulation

end BrainfuckCompiler
