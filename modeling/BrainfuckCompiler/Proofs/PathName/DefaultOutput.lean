import BrainfuckCompiler.Run
import BrainfuckCompiler.Proofs.PathName

/-!
# Where the program goes when no output is named

The default output is the path of the source up to the stem of its file name, with `.c` behind
it, so it stays in the directory of the source and is settled after one step. The old extension
is taken off the end of the path first, and the file name is looked for in what is left. That
finds the same stem, though some of the extension or of the slashes behind it may be left over,
with one exception: two dots and an extension are a file name, and two dots are not.
-/
namespace BrainfuckCompiler.PathName

variable {path before name stem after : Bytes} {extension : Option Bytes}

theorem Cut.stem_ne_nil (h : Cut name stem extension) (proper : isVoid name = false) :
    stem ≠ [] := by
  cases h with
  | bare _ =>
      rintro rfl
      cases proper
  | dotted hne _ => exact hne

theorem isVoid_append_dot (hne : stem ≠ []) (rest : Bytes) :
    isVoid (stem ++ dot :: rest) = false := by
  obtain ⟨first, stem, rfl⟩ := List.exists_cons_of_ne_nil hne
  simp [isVoid]

theorem append_dot_eq_parent_iff (hne : stem ≠ []) (rest : Bytes) :
    stem ++ dot :: rest = parent ↔ stem = [dot] ∧ rest = [] := by
  obtain ⟨first, stem, rfl⟩ := List.exists_cons_of_ne_nil hne
  rcases stem with _ | ⟨second, stem⟩ <;> simp [parent]

theorem Named.extension?_eq (h : Named path before name after) (cut : Cut name stem extension) :
    extension? path = extension := by
  rw [extension?, h.fileName?_eq, Option.bind_some, cut.splitName_eq]

theorem Named.appendC_eq (h : Named path before name after) (cut : Cut name stem extension) :
    appendC path = before ++ stem ++ ascii ".c" := by
  rw [appendC, h.split?_eq]
  simp only [cut.stem_eq]

/-- With as many bytes off its end as the extension has, a path still has its file name up to the
last dot, unless nothing but the way up is left of the name. -/
theorem Named.shorten {extension : Bytes}
    (h : Named path before (stem ++ dot :: extension) after) (hne : stem ≠ [])
    (kept : stem ≠ [dot] ∨ after ≠ []) :
    Named (path.take (path.length - extension.length)) before
      (stem ++ dot :: extension.take after.length)
      (after.take (after.length - extension.length)) := by
  refine ⟨?_, h.front, ?_, isVoid_append_dot hne _, ?_, h.trailing.take _⟩
  · have hpath : path = before ++ stem ++ [dot] ++ (extension ++ after) := by
      rw [h.bytes]
      simp
    have hlength : path.length - extension.length =
        (before ++ stem ++ [dot]).length + after.length := by
      simp only [hpath, List.length_append]
      omega
    rw [hlength, hpath, List.take_length_add_append, List.take_append]
    simp
  · intro hslash
    refine h.whole ?_
    rcases List.mem_append.mp hslash with hstem | hrest
    · exact List.mem_append_left _ hstem
    · exact List.mem_append_right _
        (List.cons_subset_cons dot (List.take_subset after.length extension) hrest)
  · rw [ne_eq, append_dot_eq_parent_iff hne, List.take_eq_nil_iff]
    rintro ⟨rfl, hafter | rfl⟩
    · rcases kept with hstem | hrest
      · exact hstem rfl
      · exact hrest (List.length_eq_zero_iff.mp hafter)
    · exact h.down rfl

theorem defaultOutput_of_named (h : Named path before name after)
    (cut : Cut name stem extension) (kept : stem ≠ [dot] ∨ after ≠ []) :
    defaultOutput path = before ++ stem ++ ascii ".c" := by
  rw [defaultOutput, h.extension?_eq cut]
  cases cut with
  | bare hdot => exact h.appendC_eq (.bare hdot)
  | @dotted stem extension hne hdot =>
      exact (h.shorten hne kept).appendC_eq (.dotted hne fun hmem => hdot (List.mem_of_mem_take hmem))

/-- Two bytes are taken off the end, which are the slash and the dot, and the new extension takes
the place of the old one. -/
example : defaultOutput (ascii "src/loop.v2.bf/.") = ascii "src/loop.v2.c" := by decide

theorem defaultOutput_of_nameless (h : Nameless path) : defaultOutput path = path := by
  rcases nameless_or_named path with ⟨-, hsplit⟩ | ⟨_, _, _, named⟩
  · rw [defaultOutput, extension?, fileName?, hsplit, Option.map_none, Option.bind_none,
      appendC, hsplit]
  · exact absurd h named.not_nameless

/-- The file name is two dots and an extension behind them. -/
def HidesParent (path : Bytes) : Prop :=
  ∃ before extension after, Named path before (parent ++ extension) after ∧ dot ∉ extension

theorem cut_parent {extension : Bytes} (h : dot ∉ extension) :
    Cut (parent ++ extension) [dot] (some extension) :=
  @Cut.dotted [dot] extension (List.cons_ne_nil _ _) h

/-- The way up that is left has no file name, so it gets no extension. -/
theorem defaultOutput_of_parent {extension : Bytes}
    (h : Named path before (parent ++ extension) []) (hdot : dot ∉ extension) :
    defaultOutput path = before ++ parent := by
  have hpath : path = before ++ parent ++ extension := by
    rw [h.bytes]
    simp
  have htake : path.take (path.length - extension.length) = before ++ parent := by
    rw [hpath, List.length_append, Nat.add_sub_cancel, List.take_left]
  obtain ⟨fronts, -, hfronts⟩ := exists_splitOn_front h.front
  have hparent : isVoid parent = false := rfl
  have hsplit : split? (before ++ parent) = none := by
    rw [split?, hfronts, Bytes.splitOn_of_not_mem (by decide), List.reverse_append,
      List.reverse_singleton, List.singleton_append,
      List.dropWhile_cons_of_neg (by simp [hparent])]
    exact if_pos rfl
  rw [defaultOutput, h.extension?_eq (cut_parent hdot)]
  simp only [htake, appendC, hsplit]

theorem slash_not_mem_append_c (h : Named path before name after)
    (cut : Cut name stem extension) : slash ∉ stem ++ ascii ".c" := by
  intro hslash
  rcases List.mem_append.mp hslash with hstem | hnew
  · cases cut with
    | bare _ => exact h.whole hstem
    | dotted _ _ => exact h.whole (List.mem_append_left _ hstem)
  · exact absurd hnew (by decide)

/-- The new file name stands where the old one was. -/
theorem Named.renamed (h : Named path before name after) (cut : Cut name stem extension) :
    Named (before ++ stem ++ ascii ".c") before (stem ++ ascii ".c") [] := by
  have hne := cut.stem_ne_nil h.proper
  refine ⟨by simp, h.front, slash_not_mem_append_c h cut, isVoid_append_dot hne _, ?_,
    .nil⟩
  intro heq
  exact absurd ((append_dot_eq_parent_iff hne _).mp heq).2 (by decide)

theorem cut_c (hne : stem ≠ []) : Cut (stem ++ ascii ".c") stem (some (ascii "c")) :=
  .dotted hne (by decide)

/-- A path that is its own default output ends in its file name. -/
theorem Named.eq_of_append_c (h : Named path before name after) (cut : Cut name stem extension)
    (heq : before ++ stem ++ ascii ".c" = path) : after = [] ∧ name = stem ++ ascii ".c" := by
  rw [h.bytes, List.append_assoc, List.append_cancel_left_eq] at heq
  have hafter : after = [] := by
    by_contra hne
    refine slash_not_mem_append_c h cut ?_
    rw [heq]
    exact List.mem_append_right _ (h.trailing.slash_mem hne)
  rw [hafter, List.append_nil] at heq
  exact ⟨hafter, heq.symm⟩

/-- The path ends in a file name with the extension `c`. -/
def EndsInC (path : Bytes) : Prop :=
  ∃ before stem, Named path before (stem ++ ascii ".c") [] ∧ stem ≠ []

/-- The default output of a path is next to it: the same steps lead there, the stem is the
same, the extension is `c`, and the output of the output is the output. It is the path itself,
so that a source is overwritten, if that has no file name or one with this extension. -/
structure BesideSource (path : Bytes) : Prop where
  nameless : Nameless path → defaultOutput path = path
  bytes : ∀ before name after stem extension, Named path before name after →
    Cut name stem extension → defaultOutput path = before ++ stem ++ ascii ".c"
  steps : ¬ Nameless path → (components (defaultOutput path)).dropLast = (components path).dropLast
  stem : ¬ Nameless path →
    (fileName? (defaultOutput path)).map PathName.stem = (fileName? path).map PathName.stem
  extension : ¬ Nameless path → extension? (defaultOutput path) = some (ascii "c")
  settled : defaultOutput (defaultOutput path) = defaultOutput path
  itself : defaultOutput path = path ↔ Nameless path ∨ EndsInC path
  overwrites : ∀ invocation : Invocation, invocation.output = none →
    (invocation.outputPath path = path ↔ Nameless path ∨ EndsInC path)

theorem outputPath_of_none {invocation : Invocation} (h : invocation.output = none)
    (path : Bytes) : invocation.outputPath path = defaultOutput path := by
  rw [Invocation.outputPath, h, Option.getD_none]

theorem besideSource_of_nameless (h : Nameless path) : BesideSource path := by
  have same := defaultOutput_of_nameless h
  have itself : defaultOutput path = path ↔ Nameless path ∨ EndsInC path :=
    iff_of_true same (.inl h)
  refine ⟨fun _ => same, ?_, absurd h, absurd h, absurd h, by rw [same, same], itself, ?_⟩
  · intro _ _ _ _ _ named
    exact absurd h named.not_nameless
  · intro invocation none
    rwa [outputPath_of_none none]

theorem besideSource_of_named (h : Named path before name after)
    (cut : Cut name stem extension) (other : stem ≠ [dot]) : BesideSource path := by
  have output := defaultOutput_of_named h cut (.inl other)
  have hne := cut.stem_ne_nil h.proper
  have renamed := h.renamed cut
  have bytes : ∀ before name after stem extension, Named path before name after →
      Cut name stem extension → defaultOutput path = before ++ stem ++ ascii ".c" := by
    intro before' name' after' stem' extension' h' cut'
    obtain ⟨rfl, rfl⟩ := h.unique h'
    obtain ⟨rfl, -⟩ := cut.unique cut'
    exact output
  have itself : defaultOutput path = path ↔ Nameless path ∨ EndsInC path := by
    constructor
    · intro heq
      obtain ⟨rfl, rfl⟩ := h.eq_of_append_c cut (output.symm.trans heq)
      exact .inr ⟨before, stem, h, hne⟩
    · rintro (nameless | ⟨before', stem', h', hne'⟩)
      · exact absurd nameless h.not_nameless
      · rw [bytes _ _ _ _ _ h' (cut_c hne'), h'.bytes, List.append_nil, List.append_assoc]
  refine ⟨fun nameless => absurd nameless h.not_nameless, bytes, fun _ => ?_, fun _ => ?_,
    fun _ => ?_, ?_, itself, ?_⟩
  · rw [output, renamed.components_eq, h.components_eq, List.dropLast_concat, List.dropLast_concat]
  · rw [output, renamed.fileName?_eq, h.fileName?_eq, Option.map_some, Option.map_some, cut.stem_eq,
      (cut_c hne).stem_eq]
  · rw [output, renamed.extension?_eq (cut_c hne)]
  · rw [output, defaultOutput_of_named renamed (cut_c hne) (.inl other)]
  · intro invocation none
    rwa [outputPath_of_none none]

theorem hidesParent_of_stem (h : Named path before name after) (cut : Cut name [dot] extension) :
    HidesParent path := by
  cases cut with
  | bare _ => cases h.proper
  | dotted _ hdot => exact ⟨before, _, after, h, hdot⟩

theorem not_besideSource_of_hidesParent (h : HidesParent path) : ¬ BesideSource path := by
  obtain ⟨before, extension, after, named, hdot⟩ := h
  intro beside
  have output := beside.bytes _ _ _ _ _ named (cut_parent hdot)
  have differ : before ++ parent ≠ before ++ [dot] ++ ascii ".c" := by
    rw [List.append_assoc, ne_eq, List.append_cancel_left_eq]
    decide
  by_cases hafter : after = []
  · subst hafter
    exact differ ((defaultOutput_of_parent named hdot).symm.trans output)
  · -- the output keeps the two dots, and its own output loses the extension
    have renamed : Named (before ++ [dot] ++ ascii ".c") before (parent ++ ascii "c") [] :=
      named.renamed (cut_parent hdot)
    have settled := beside.settled
    rw [output, defaultOutput_of_parent renamed (by decide)] at settled
    exact differ settled

/-- A path has no file name or bytes around one, and its default output is next to it unless the
file name is two dots and an extension. -/
theorem beside_source_iff (path : Bytes) :
    (¬ Nameless path ↔ ∃ before name after stem extension, Named path before name after ∧
      Cut name stem extension) ∧
    (BesideSource path ↔ ¬ HidesParent path) := by
  rcases nameless_or_named path with ⟨nameless, -⟩ | ⟨before, name, after, named⟩
  · refine ⟨iff_of_false (absurd nameless) ?_, iff_of_true (besideSource_of_nameless nameless) ?_⟩
    · rintro ⟨_, _, _, _, _, named, -⟩
      exact named.not_nameless nameless
    · rintro ⟨_, _, _, named, -⟩
      exact named.not_nameless nameless
  · obtain ⟨stem, extension, cut⟩ := exists_cut name
    refine ⟨iff_of_true named.not_nameless ⟨_, _, _, _, _, named, cut⟩, ?_, fun other => ?_⟩
    · exact fun beside hides => not_besideSource_of_hidesParent hides beside
    · refine besideSource_of_named named cut ?_
      rintro rfl
      exact other (hidesParent_of_stem named cut)

/-- The output of the source `..bf` is the directory above instead of `..c`, the source `..c` is
not its own output, and the output of `..bf/` is not settled. -/
theorem two_dots_and_extension_lost :
    (Named (ascii "..bf") [] (ascii "..bf") [] ∧ Cut (ascii "..bf") [dot] (some (ascii "bf")) ∧
      defaultOutput (ascii "..bf") = ascii "..") ∧
    (EndsInC (ascii "..c") ∧ defaultOutput (ascii "..c") = ascii "..") ∧
    (defaultOutput (ascii "..bf/") = ascii "..c" ∧
      defaultOutput (defaultOutput (ascii "..bf/")) = ascii "..") ∧
    ¬ ∀ path, BesideSource path := by
  have named : Named (ascii "..bf") [] (parent ++ ascii "bf") [] :=
    ⟨rfl, .inl rfl, by decide, rfl, by decide, .nil⟩
  have namedC : Named (ascii "..c") [] ([dot] ++ ascii ".c") [] :=
    ⟨rfl, .inl rfl, by decide, rfl, by decide, .nil⟩
  refine ⟨⟨named, cut_parent (by decide), by decide⟩, ⟨⟨[], [dot], namedC, by decide⟩, by decide⟩,
    ⟨by decide, by decide⟩, fun beside => ?_⟩
  exact not_besideSource_of_hidesParent ⟨[], ascii "bf", [], named, by decide⟩ (beside _)

end BrainfuckCompiler.PathName
