import BrainfuckCompiler.Proofs.Invocation.Reading
import BrainfuckCompiler.PathName

/-!
# The parts of a path

A path is taken apart in two ways. Its components are the steps of the way it describes, from
the root or from here, up or into a name; slashes that are repeated and single dots within the
path are no steps. Its bytes are the bytes in front of the file name, the file name, and slashes
and single dots behind it. The file name is found from the end of the bytes, and it is the name
in the last component. A file name in turn is cut in front of its last dot.
-/
namespace BrainfuckCompiler

namespace Bytes

variable {separator : UInt8}

/-- Cutting at a separator is what the list library does. -/
theorem splitOn_eq (separator : UInt8) (text : Bytes) :
    splitOn separator text = List.splitOn separator text := by
  induction text with
  | nil => rw [List.splitOn_nil, splitOn]
  | cons b text ih =>
      rw [splitOn, ih, List.splitOn_cons_eq_if_modifyHead]
      obtain ⟨part, parts, hparts⟩ :=
        List.exists_cons_of_ne_nil (List.splitOn_ne_nil separator text)
      simp only [hparts, beq_iff_eq, List.modifyHead_cons]

theorem splitOn_ne_nil (separator : UInt8) (text : Bytes) : splitOn separator text ≠ [] :=
  splitOn_eq separator text ▸ List.splitOn_ne_nil separator text

theorem splitOn_of_not_mem {text : Bytes} (h : separator ∉ text) :
    splitOn separator text = [text] := by
  rw [splitOn_eq, List.splitOn_eq_singleton h]

theorem splitOn_append_cons (text rest : Bytes) :
    splitOn separator (text ++ separator :: rest) =
      splitOn separator text ++ splitOn separator rest := by
  simp only [splitOn_eq, List.splitOn_append_cons_self]

/-- With the separator behind every part, a text is what its parts make. -/
theorem flatMap_splitOn (separator : UInt8) (text : Bytes) :
    (splitOn separator text).flatMap (· ++ [separator]) = text ++ [separator] := by
  induction text with
  | nil => rfl
  | cons b text ih =>
      obtain ⟨part, parts, hparts⟩ := List.exists_cons_of_ne_nil (splitOn_ne_nil separator text)
      rw [hparts, List.flatMap_cons] at ih
      by_cases hb : b = separator
      · rw [splitOn, if_pos hb, hparts, List.flatMap_cons, List.flatMap_cons, ih, hb]
        rfl
      · rw [splitOn, if_neg hb, hparts, List.flatMap_cons, List.cons_append, List.cons_append, ih,
          List.cons_append]

theorem not_mem_of_mem_splitOn {text part : Bytes} (h : part ∈ splitOn separator text) :
    separator ∉ part := by
  induction text generalizing part with
  | nil =>
      rw [List.mem_singleton.mp h]
      exact List.not_mem_nil
  | cons b text ih =>
      obtain ⟨first, parts, hparts⟩ := List.exists_cons_of_ne_nil (splitOn_ne_nil separator text)
      rw [hparts] at ih
      by_cases hb : b = separator
      · rw [splitOn, if_pos hb, hparts] at h
        rcases List.mem_cons.mp h with rfl | h
        · exact List.not_mem_nil
        · exact ih h
      · rw [splitOn, if_neg hb, hparts] at h
        rcases List.mem_cons.mp h with rfl | h
        · exact List.not_mem_cons_of_ne_of_not_mem (Ne.symm hb) (ih List.mem_cons_self)
        · exact ih (List.mem_cons_of_mem first h)

end Bytes

namespace PathName

/-- One step of the way that a path describes. -/
inductive Component where
  | root
  | here
  | up
  | name (text : Bytes)
  deriving DecidableEq, Repr

def Component.ofPart (part : Bytes) : Component := if part = parent then .up else .name part

/-- Where the parts between slashes begin. A slash at the front leaves an empty part there. -/
def start : List Bytes → List Component
  | [] :: _ :: _ => [.root]
  | part :: _ => if part = [dot] then [.here] else []
  | [] => []

def components (path : Bytes) : List Component :=
  let parts := Bytes.splitOn slash path
  start parts ++ (parts.filter (!isVoid ·)).map .ofPart

/-- The path is empty, it is the root or a single dot, or its last step goes up. -/
def Nameless (path : Bytes) : Prop :=
  components path = [] ∨ components path = [.root] ∨ components path = [.here] ∨
    (components path).getLast? = some .up

/-- Slashes, each of them with a single dot behind it or without one. -/
inductive Trailing : Bytes → Prop
  | nil : Trailing []
  | bare {rest : Bytes} : Trailing rest → Trailing (slash :: rest)
  | dotted {rest : Bytes} : Trailing rest → Trailing (slash :: dot :: rest)

/-- A path whose file name is `name`, with the bytes in front of the name and behind it. -/
structure Named (path before name after : Bytes) : Prop where
  bytes : path = before ++ (name ++ after)
  front : before = [] ∨ ∃ outer, before = outer ++ [slash]
  whole : slash ∉ name
  proper : isVoid name = false
  down : name ≠ parent
  trailing : Trailing after

/-- A file name, its stem and its extension. The stem ends in front of the last dot, unless
there is no dot behind the first byte. -/
inductive Cut : Bytes → Bytes → Option Bytes → Prop
  | bare {name : Bytes} : dot ∉ name.tail → Cut name name none
  | dotted {stem extension : Bytes} : stem ≠ [] → dot ∉ extension →
      Cut (stem ++ dot :: extension) stem (some extension)

theorem filter_eq_nil_of_isVoid {voids : List Bytes} (h : ∀ part ∈ voids, isVoid part = true) :
    voids.filter (!isVoid ·) = [] := by
  rw [List.filter_eq_nil_iff]
  intro part hpart
  rw [h part hpart]
  exact Bool.false_ne_true

/-- The parts in front of a file name do not depend on it. -/
theorem exists_splitOn_front {before : Bytes} (h : before = [] ∨ ∃ outer, before = outer ++ [slash]) :
    ∃ fronts : List Bytes, fronts.flatMap (· ++ [slash]) = before ∧
      ∀ rest, Bytes.splitOn slash (before ++ rest) = fronts ++ Bytes.splitOn slash rest := by
  rcases h with rfl | ⟨outer, rfl⟩
  · exact ⟨[], rfl, fun rest => rfl⟩
  · refine ⟨Bytes.splitOn slash outer, Bytes.flatMap_splitOn slash outer, fun rest => ?_⟩
    rw [List.append_assoc, List.singleton_append, Bytes.splitOn_append_cons]

/-- Nor do the parts behind it, and they name nothing. -/
theorem Trailing.exists_splitOn {after : Bytes} (h : Trailing after) :
    ∃ voids : List Bytes, (∀ part ∈ voids, isVoid part = true) ∧
      ∀ name, slash ∉ name → Bytes.splitOn slash (name ++ after) = name :: voids := by
  induction h with
  | nil =>
      refine ⟨[], nofun, fun name hname => ?_⟩
      rw [List.append_nil, Bytes.splitOn_of_not_mem hname]
  | @bare rest _ ih =>
      obtain ⟨voids, hvoids, hsplit⟩ := ih
      refine ⟨[] :: voids, List.forall_mem_cons.mpr ⟨rfl, hvoids⟩, fun name hname => ?_⟩
      rw [Bytes.splitOn_append_cons, Bytes.splitOn_of_not_mem hname,
        ← hsplit [] List.not_mem_nil]
      rfl
  | @dotted rest _ ih =>
      obtain ⟨voids, hvoids, hsplit⟩ := ih
      refine ⟨[dot] :: voids, List.forall_mem_cons.mpr ⟨rfl, hvoids⟩, fun name hname => ?_⟩
      rw [Bytes.splitOn_append_cons, Bytes.splitOn_of_not_mem hname,
        ← hsplit [dot] (by decide)]
      rfl

theorem Trailing.flatMap {voids : List Bytes} (h : ∀ part ∈ voids, isVoid part = true) :
    Trailing (voids.flatMap (slash :: ·)) := by
  induction voids with
  | nil => exact .nil
  | cons part voids ih =>
      obtain ⟨hpart, hvoids⟩ := List.forall_mem_cons.mp h
      rw [List.flatMap_cons]
      rcases (by simpa [isVoid] using hpart : part = [] ∨ part = [dot]) with rfl | rfl
      · exact .bare (ih hvoids)
      · exact .dotted (ih hvoids)

theorem Trailing.take {after : Bytes} (h : Trailing after) (count : Nat) :
    Trailing (after.take count) := by
  induction h generalizing count with
  | nil =>
      rw [List.take_nil]
      exact .nil
  | bare _ ih =>
      cases count with
      | zero => exact .nil
      | succ count => exact .bare (ih count)
  | dotted _ ih =>
      rcases count with _ | _ | count
      · exact .nil
      · exact .bare .nil
      · exact .dotted (ih count)

theorem Trailing.slash_mem {after : Bytes} (h : Trailing after) (hne : after ≠ []) :
    slash ∈ after := by
  cases h with
  | nil => exact absurd rfl hne
  | bare _ => exact List.mem_cons_self
  | dotted _ => exact List.mem_cons_self

section Named

variable {path before name after : Bytes}

theorem Named.exists_splitOn (h : Named path before name after) :
    ∃ fronts voids : List Bytes, fronts.flatMap (· ++ [slash]) = before ∧
      (∀ part ∈ voids, isVoid part = true) ∧
      Bytes.splitOn slash before = fronts ++ [[]] ∧
      Bytes.splitOn slash path = fronts ++ name :: voids := by
  obtain ⟨fronts, hbefore, hfronts⟩ := exists_splitOn_front h.front
  obtain ⟨voids, hvoids, hname⟩ := h.trailing.exists_splitOn
  refine ⟨fronts, voids, hbefore, hvoids, ?_, ?_⟩
  · have := hfronts []
    rwa [List.append_nil] at this
  · rw [h.bytes, hfronts, hname name h.whole]

theorem Named.split?_eq (h : Named path before name after) : split? path = some (before, name) := by
  obtain ⟨fronts, voids, hbefore, hvoids, -, hpath⟩ := h.exists_splitOn
  have behind : (fronts ++ name :: voids).reverse.dropWhile isVoid = name :: fronts.reverse := by
    rw [List.reverse_append, List.reverse_cons, List.append_assoc,
      List.dropWhile_append_of_pos fun part hpart => hvoids part (List.mem_reverse.mp hpart),
      List.singleton_append, List.dropWhile_cons_of_neg (by simp [h.proper])]
  rw [split?, hpath, behind]
  simp only [if_neg h.down, List.reverse_reverse, hbefore]

theorem Named.fileName?_eq (h : Named path before name after) : fileName? path = some name := by
  rw [fileName?, h.split?_eq]
  rfl

theorem Named.unique {front file back : Bytes} (h : Named path before name after)
    (other : Named path front file back) : before = front ∧ name = file := by
  have heq : some (before, name) = some (front, file) := h.split?_eq.symm.trans other.split?_eq
  simpa using heq

/-- The file name is the last step, and the steps before it are those of the bytes before it. -/
theorem Named.components_eq (h : Named path before name after) :
    components path = components before ++ [.name name] := by
  obtain ⟨fronts, voids, -, hvoids, hfront, hpath⟩ := h.exists_splitOn
  have silent := filter_eq_nil_of_isVoid hvoids
  have same : start (fronts ++ name :: voids) = start (fronts ++ [[]]) := by
    have hproper : ¬ (name = [] ∨ name = [dot]) := by simpa [isVoid] using h.proper
    rcases fronts with _ | ⟨_ | ⟨b, front⟩, fronts⟩
    · rcases name with _ | ⟨b, rest⟩
      · exact absurd (.inl rfl) hproper
      · exact if_neg fun heq => hproper (.inr heq)
    · rcases fronts with _ | ⟨front, fronts⟩ <;> rfl
    · rfl
  have hvoid : isVoid [] = true := rfl
  rw [components, components, hpath, hfront, same]
  simp [h.proper, silent, Component.ofPart, h.down, hvoid]

end Named

theorem slash_cons_flatMap (parts : List Bytes) :
    slash :: parts.flatMap (· ++ [slash]) = parts.flatMap (slash :: ·) ++ [slash] := by
  induction parts with
  | nil => rfl
  | cons part parts ih =>
      rw [List.flatMap_cons, List.flatMap_cons, List.append_assoc, List.singleton_append, ih,
        List.cons_append, List.cons_append, List.append_assoc]

theorem start_cases (parts : List Bytes) :
    start parts = [] ∨ start parts = [.root] ∨ start parts = [.here] := by
  unfold start
  split
  · exact .inr (.inl rfl)
  · split
    · exact .inr (.inr rfl)
    · exact .inl rfl
  · exact .inl rfl

/-- A path has no file name, or its bytes are those of a file name with others around it. -/
theorem nameless_or_named (path : Bytes) :
    (Nameless path ∧ split? path = none) ∨ ∃ before name after, Named path before name after := by
  let voids := ((Bytes.splitOn slash path).reverse.takeWhile isVoid).reverse
  have hvoids : ∀ part ∈ voids, isVoid part = true := fun part hpart =>
    List.all_eq_true.mp List.all_takeWhile part (List.mem_reverse.mp hpart)
  have hsteps := filter_eq_nil_of_isVoid hvoids
  have hparts : Bytes.splitOn slash path =
      ((Bytes.splitOn slash path).reverse.dropWhile isVoid).reverse ++ voids := by
    rw [← List.reverse_append, List.takeWhile_append_dropWhile, List.reverse_reverse]
  rcases hdrop : (Bytes.splitOn slash path).reverse.dropWhile isVoid with _ | ⟨name, fronts⟩
  · have hcomponents : components path = start (Bytes.splitOn slash path) := by
      rw [hdrop, List.reverse_nil, List.nil_append] at hparts
      rw [components, hparts, hsteps, List.map_nil, List.append_nil]
    refine .inl ⟨?_, by rw [split?, hdrop]⟩
    rw [Nameless, hcomponents]
    rcases start_cases (Bytes.splitOn slash path) with h | h | h
    · exact .inl h
    · exact .inr (.inl h)
    · exact .inr (.inr (.inl h))
  have hproper : isVoid name = false := by
    have hne : (Bytes.splitOn slash path).reverse.dropWhile isVoid ≠ [] := by simp [hdrop]
    simpa [hdrop] using List.head_dropWhile_not isVoid hne
  rw [hdrop, List.reverse_cons, List.append_assoc, List.singleton_append] at hparts
  by_cases hdown : name = parent
  · refine .inl ⟨.inr (.inr (.inr ?_)), ?_⟩
    · rw [components, hparts, List.filter_append, List.filter_cons_of_pos (by simp [hproper]),
        hsteps, List.map_append, List.map_singleton, ← List.append_assoc, List.getLast?_concat,
        Component.ofPart, if_pos hdown]
    · rw [split?, hdrop]
      exact if_pos hdown
  · refine .inr ⟨fronts.reverse.flatMap (· ++ [slash]), name, voids.flatMap (slash :: ·), ?_⟩
    have hname : name ∈ Bytes.splitOn slash path := by
      rw [hparts]
      exact List.mem_append_right _ List.mem_cons_self
    have hwhole := Bytes.not_mem_of_mem_splitOn hname
    have hpath := Bytes.flatMap_splitOn slash path
    rw [hparts, List.flatMap_append, List.flatMap_cons, List.append_assoc name,
      List.singleton_append, slash_cons_flatMap, ← List.append_assoc name, ← List.append_assoc]
      at hpath
    refine ⟨(List.append_cancel_right hpath).symm, ?_, hwhole, hproper, hdown, .flatMap hvoids⟩
    cases fronts with
    | nil => exact .inl rfl
    | cons last fronts =>
        refine .inr ⟨fronts.reverse.flatMap (· ++ [slash]) ++ last, ?_⟩
        simp only [List.reverse_cons, List.flatMap_append, List.flatMap_singleton,
          List.append_assoc]

/-- A path with a file name goes on from the bytes before the name, so it is not nameless. -/
theorem Named.not_nameless {path before name after : Bytes} (h : Named path before name after) :
    ¬ Nameless path := by
  have hlast : (components path).getLast? = some (.name name) := by
    rw [h.components_eq, List.getLast?_concat]
  rintro (heq | heq | heq | heq)
  all_goals
    rw [heq] at hlast
    cases hlast

theorem exists_cut (name : Bytes) : ∃ stem extension, Cut name stem extension := by
  by_cases hdot : dot ∈ name.tail
  · obtain ⟨extension, stem, hname, hlast⟩ :=
      List.eq_append_cons_of_mem (List.mem_reverse.mpr hdot)
    obtain ⟨first, rest, rfl⟩ : ∃ first rest, name = first :: rest :=
      List.exists_cons_of_ne_nil fun heq => by simp [heq] at hdot
    have hrest : rest = stem.reverse ++ dot :: extension.reverse := by
      rw [← List.reverse_reverse rest, show rest.reverse = extension ++ dot :: stem from hname]
      simp
    refine ⟨first :: stem.reverse, some extension.reverse, ?_⟩
    rw [hrest]
    exact .dotted (List.cons_ne_nil _ _) (fun h => hlast (List.mem_reverse.mp h))
  · exact ⟨name, none, .bare hdot⟩

theorem Cut.splitName_eq {name stem : Bytes} {extension : Option Bytes}
    (h : Cut name stem extension) : splitName name = (stem, extension) := by
  cases h with
  | bare hdot =>
      rcases name with _ | ⟨b, rest⟩
      · rfl
      have hrest : dot ∉ rest.reverse := fun h => hdot (List.mem_reverse.mp h)
      rw [splitName, List.reverse_cons]
      by_cases hb : b = dot
      · rw [hb, Bytes.cutAt_append hrest]
      · rw [Bytes.cutAt_of_not_mem (by simp [hrest, Ne.symm hb])]
  | @dotted stem extension hne hdot =>
      have hextension : dot ∉ extension.reverse := fun h => hdot (List.mem_reverse.mp h)
      obtain ⟨last, before, hstem⟩ :=
        List.exists_cons_of_ne_nil (fun heq => hne (List.reverse_eq_nil_iff.mp heq))
      rw [splitName, List.reverse_append, List.reverse_cons, List.append_assoc,
        List.singleton_append, Bytes.cutAt_append hextension, hstem]
      simp only [← hstem, List.reverse_reverse]

theorem Cut.stem_eq {name stem : Bytes} {extension : Option Bytes} (h : Cut name stem extension) :
    PathName.stem name = stem := by
  rw [PathName.stem, h.splitName_eq]

theorem Cut.unique {name stem front : Bytes} {extension back : Option Bytes}
    (h : Cut name stem extension) (other : Cut name front back) :
    stem = front ∧ extension = back := by
  have heq : (stem, extension) = (front, back) := h.splitName_eq.symm.trans other.splitName_eq
  simpa using heq

end PathName

end BrainfuckCompiler
