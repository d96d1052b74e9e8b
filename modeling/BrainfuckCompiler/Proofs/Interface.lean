import BrainfuckCompiler.Proofs.Blocks
import BrainfuckCompiler.Proofs.Carried

/-!
# The command line of the generated program agrees with itself

Seven parts of a generated program have to agree on its options, its paths, the texts it
carries and its bare argument, and each of them is written by itself. Here the survey of a
whole program is put together from those of its parts. It depends on the usage, on the
meaning of a bare argument and on the texts that are carried, and on nothing else; what has
to agree is then read off it.
-/
namespace BrainfuckCompiler
open C

-- The fixed texts are surveyed by evaluation.
set_option maxRecDepth 20000

namespace Interface

def inputPath : Bytes := ascii "input_path"
def outputPath : Bytes := ascii "output_path"

namespace Switch

def entry (switch : Switch) : Entry :=
  ⟨ascii switch.letter, ascii switch.name, switch.value?.isSome⟩

/-- The path that the switch sets. -/
def path? : Switch → Option Bytes
  | .help => none
  | .version => none
  | .file => some inputPath
  | .message => some inputPath
  | .output => some outputPath

/-- What the case of the switch shows. -/
def handled (switch : Switch) : List Finding :=
  .label (ascii switch.letter) :: (switch.path?.map .mentions).toList

theorem shows_usageLine (switch : Switch) : Shows switch.usageLine [.listing switch.entry] := by
  cases switch <;> decide +kernel

end Switch

def tableName : Bytes := ascii "longopts"

theorem shows_optionTable (usage : Usage) : Shows (optionTable usage).flatten
    (.table tableName :: (groups usage).flatten.map (.row ·.entry)) := by
  unfold optionTable
  repeat rw [lines_ofList]
  rcases usage with ⟨_ | _, _ | _⟩ <;> decide +kernel

/-- What the declarations of the paths show. -/
def declared (usage : Usage) : List Finding :=
  (if usage.reads then [.declares inputPath, .mentions inputPath] else []) ++
    (if usage.writes then [.declares outputPath, .mentions outputPath] else [])

theorem shows_declarations (usage : Usage) :
    Shows (declarations usage).flatten (declared usage) := by
  have input : Shows (lines ["  char* input_path = NULL;"])
      [.declares inputPath, .mentions inputPath] := by decide +kernel
  have output : Shows (lines ["  char* output_path = NULL;"])
      [.declares outputPath, .mentions outputPath] := by decide +kernel
  have counters : Shows (lines ["  int opt, longindex, show_help = 0;"]) [] := by decide +kernel
  rcases usage with ⟨_ | _, _ | _⟩
  · exact counters
  · exact output.append counters
  · exact input.append counters
  · exact input.append (output.append counters)

theorem shows_call (usage : Usage) :
    Shows (ascii "  while ((opt = getopt_long(argc, argv, " ++ (letters usage ++
        ascii ", longopts, &longindex)) != -1) \x7b\n"))
      [.call ((groups usage).flatten.flatMap Switch.spelling) tableName] := by
  repeat rw [ascii_ofList]
  rcases usage with ⟨_ | _, _ | _⟩ <;> decide +kernel

theorem shows_arms (usage : Usage) : Shows ((groups usage).flatten.map Switch.arm).flatten
    ((groups usage).flatten.flatMap Switch.handled) := by
  -- A case without an effect falls through to the next one, so a group is surveyed whole.
  have always : Shows ([Switch.help, .version].flatMap Switch.arm)
      ([Switch.help, .version].flatMap Switch.handled) := by decide +kernel
  have reading : Shows ([Switch.file, .message].flatMap Switch.arm)
      ([Switch.file, .message].flatMap Switch.handled) := by decide +kernel
  have writing : Shows ([Switch.output].flatMap Switch.arm)
      ([Switch.output].flatMap Switch.handled) := by decide +kernel
  rw [← List.flatMap_def]
  rcases usage with ⟨_ | _, _ | _⟩
  · exact always
  · exact always.append writing
  · exact always.append reading
  · exact always.append (reading.append writing)

theorem shows_parseLoop (usage : Usage) : Shows (parseLoop usage).flatten
    (declared usage ++ .call ((groups usage).flatten.flatMap Switch.spelling) tableName ::
      (groups usage).flatten.flatMap Switch.handled) := by
  have head : Shows (lines ["int options(int argc, char** argv) \x7b"]) [] := by decide +kernel
  have choice : Shows (lines ["    switch (opt) \x7b"]) [] := by decide +kernel
  have otherwise : Shows (lines ["    default: show_help = 2; break;", "    \x7d", "  \x7d"])
      [] := by decide +kernel
  have whole := head.append ((shows_declarations usage).append ((shows_call usage).append
    (choice.append ((shows_arms usage).append otherwise))))
  simpa only [parseLoop, List.flatten_append, List.flatten_cons, List.flatten_nil,
    List.append_assoc, List.append_nil, List.nil_append, List.singleton_append] using whole

/-- What the code that takes a bare argument shows. -/
def bound : Positional → List Finding
  | .nothing => []
  | .outputFile => [.binds outputPath, .mentions outputPath]
  | .inputFile => [.binds inputPath, .mentions inputPath]
  | .message => [.mentions inputPath, .binds (ascii "message")]

theorem shows_positionalCode (meaning : Positional) :
    Shows (positionalCode meaning).flatten (bound meaning) := by
  have binds : Shows (binding meaning).flatten (bound meaning) := by
    cases meaning <;> decide +kernel
  have surplus : Shows (lines ["  if (optind < argc) \x7b", "    show_help = 2;", "  \x7d"])
      [] := by decide +kernel
  have whole := binds.append surplus
  simpa only [positionalCode, List.flatten_append, List.flatten_cons, List.flatten_nil,
    List.append_nil] using whole

/-- The variable that takes the bare argument. -/
def target? : Positional → Option Bytes
  | .nothing => none
  | .outputFile => some outputPath
  | .inputFile => some inputPath
  | .message => some (ascii "message")

/-- What the usage calls the bare argument, without its brackets. -/
def argument? : Positional → Option Bytes
  | .nothing => none
  | .outputFile => some (ascii "output-file")
  | .inputFile => some (ascii "input-file")
  | .message => some (ascii "input-message")

theorem shows_synopsis (meaning : Positional) :
    Shows (ascii "    printf(\"Usage:\\n  %s [options]\"" ++ (placeholderText meaning ++
      ascii "\"\\n\", argv[0]);\n")) [.synopsis (argument? meaning).toList] := by
  cases meaning <;> decide +kernel

theorem shows_printVariable {name : String}
    (h : Shows (ascii "    puts(" ++ ascii name ++ ascii ");\n") [.prints (ascii name)])
    (text : Option Bytes) : Shows (printVariable name text).flatten
      (if text.isSome then [.prints (ascii name)] else []) := by
  unfold printVariable
  split
  · simpa only [List.flatten_cons, List.flatten_nil, List.append_nil] using h
  · exact .nil

theorem shows_carried (settings : Settings) :
    Shows ((printVariable "VERSION" settings.version).flatten ++
      (printVariable "COPYRIGHT" settings.copyright).flatten)
      (settings.carried.map .prints) := by
  have version := @shows_printVariable "VERSION" (by decide +kernel) settings.version
  have copyright := @shows_printVariable "COPYRIGHT" (by decide +kernel) settings.copyright
  have whole := version.append copyright
  rw [Settings.carried, List.map_append]
  cases hv : settings.version.isSome <;> cases hc : settings.copyright.isSome <;>
    simpa [hv, hc] using whole

theorem shows_usagePrinter (usage : Usage) (meaning : Positional) (settings : Settings) :
    Shows (usagePrinter usage meaning settings).flatten (settings.carried.map .prints ++
      .synopsis (argument? meaning).toList :: (listed usage).map (.listing ·.entry)) := by
  have head : Shows (lines ["  if (show_help) \x7b"]) [] := by decide +kernel
  have title : Shows (lines ["    puts(\"Options:\");"]) [] := by decide +kernel
  have table : Shows ((listed usage).flatMap Switch.usageLine)
      ((listed usage).map (.listing ·.entry)) := by
    rw [List.map_eq_flatMap]
    exact .flatMap Switch.shows_usageLine _
  have leaves : Shows (lines ["    exit(show_help == 1 ? 0 : 1);", "  \x7d"]) [] := by
    decide +kernel
  have whole := head.append ((shows_carried settings).append ((shows_synopsis meaning).append
    (title.append (table.append leaves))))
  rw [flatten_usagePrinter, ← List.flatMap_def]
  simpa only [List.append_assoc, List.append_nil, List.nil_append, List.singleton_append]
    using whole

/-- What the code that opens the named files shows. -/
def redirected (usage : Usage) : List Finding :=
  (if usage.reads then List.replicate 4 (.mentions inputPath) else []) ++
    (if usage.writes then List.replicate 4 (.mentions outputPath) else [])

theorem shows_redirects (usage : Usage) :
    Shows (redirects usage).flatten (redirected usage) := by
  rw [redirects, redirected, List.flatten_append]
  refine .append ?_ ?_
  · cases usage.reads
    · exact .nil
    · repeat rw [lines_ofList]
      decide +kernel
  · cases usage.writes
    · exact .nil
    · repeat rw [lines_ofList]
      decide +kernel

/-- What the command line of a program shows behind its declarations. -/
def remainder (usage : Usage) (meaning : Positional) (carried : List Bytes) : List Finding :=
  .call ((groups usage).flatten.flatMap Switch.spelling) tableName ::
    (groups usage).flatten.flatMap Switch.handled ++
      (bound meaning ++ (carried.map .prints ++ .synopsis (argument? meaning).toList ::
        (listed usage).map (.listing ·.entry) ++ redirected usage))

/-- All that the command line of a program shows. -/
def outline (usage : Usage) (meaning : Positional) (carried : List Bytes) : List Finding :=
  .table tableName :: (groups usage).flatten.map (.row ·.entry) ++
    (declared usage ++ remainder usage meaning carried)

theorem shows_fragments (usage : Usage) (settings : Settings) :
    Shows (fragments usage settings).flatten
      (outline usage (settings.positional.resolve usage) settings.carried) := by
  have leaves : Shows (lines ["  return optind;", "\x7d"]) [] := by decide +kernel
  have whole := (((((shows_optionTable usage).append (shows_parseLoop usage)).append
    (shows_positionalCode (settings.positional.resolve usage))).append
      (shows_usagePrinter usage (settings.positional.resolve usage) settings)).append
        (shows_redirects usage)).append leaves
  simpa only [fragments, outline, remainder, List.flatten_append, List.flatten_cons,
    List.flatten_nil, List.append_nil, List.append_assoc, List.cons_append] using whole

end Interface

namespace Program

/-- All that a program shows. -/
def outline (usage : Usage) (meaning : Positional) (carried : List Bytes) : List Finding :=
  carried.map .declares ++ .declares (ascii "message") ::
    Interface.outline usage meaning carried

theorem shows_text (settings : Settings) (source : Bytes) : Shows (text settings source)
    (outline (Usage.ofSource source) (settings.positional.resolve (Usage.ofSource source))
      settings.carried) := by
  have whole := (shows_body settings source).append
    (Interface.shows_fragments (Usage.ofSource source) settings)
  simpa only [text, interface, outline, List.append_assoc, List.singleton_append] using whole

end Program

namespace Interface

section
variable {usage : Usage} {meaning : Positional} {carried : List Bytes}

/-- What is neither declared nor printed is shown alike whatever texts are carried. -/
theorem filterMap_outline {α : Type} {aspect : Finding → Option α}
    (hdeclares : ∀ name, aspect (.declares name) = none)
    (hprints : ∀ name, aspect (.prints name) = none) :
    (Program.outline usage meaning carried).filterMap aspect =
      (outline usage meaning []).filterMap aspect := by
  have none_of (finding : Bytes → Finding) (h : ∀ name, aspect (finding name) = none) :
      (carried.map finding).filterMap aspect = [] := by
    rw [List.filterMap_eq_nil_iff]
    intro shown hshown
    obtain ⟨name, -, rfl⟩ := List.mem_map.mp hshown
    exact h name
  simp only [Program.outline, outline, remainder, List.filterMap_append, List.filterMap_cons,
    hdeclares, none_of _ hdeclares, none_of _ hprints, List.nil_append, List.map_nil]

theorem filterMap_row?_outline : (Program.outline usage meaning carried).filterMap Finding.row? =
    (groups usage).flatten.map Switch.entry := by
  rw [filterMap_outline (fun _ => rfl) fun _ => rfl]
  rcases usage with ⟨_ | _, _ | _⟩ <;> cases meaning <;> rfl

theorem offering_outline : Offering (Program.outline usage meaning carried)
    ((groups usage).flatten.map fun switch => ascii switch.letter) where
  call := by
    refine ⟨tableName, (groups usage).flatten.flatMap Switch.spelling, ?_, ?_, ?_⟩
    · rw [filterMap_outline (fun _ => rfl) fun _ => rfl]
      rcases usage with ⟨_ | _, _ | _⟩ <;> cases meaning <;> rfl
    · rw [filterMap_outline (fun _ => rfl) fun _ => rfl]
      rcases usage with ⟨_ | _, _ | _⟩ <;> cases meaning <;> rfl
    · rw [filterMap_row?_outline]
      rcases usage with ⟨_ | _, _ | _⟩ <;> rfl
  rows := by
    rw [filterMap_row?_outline, List.map_map]
    rfl
  labels := by
    rw [filterMap_outline (fun _ => rfl) fun _ => rfl]
    rcases usage with ⟨_ | _, _ | _⟩ <;> cases meaning <;> rfl
  listings := by
    have hlistings : (Program.outline usage meaning carried).filterMap Finding.listing? =
        (listed usage).map Switch.entry := by
      rw [filterMap_outline (fun _ => rfl) fun _ => rfl]
      rcases usage with ⟨_ | _, _ | _⟩ <;> cases meaning <;> rfl
    have hperm : (listed usage).Perm (groups usage).flatten := by
      rcases usage with ⟨_ | _, _ | _⟩ <;> decide
    rw [hlistings, filterMap_row?_outline]
    exact hperm.map _

theorem filterMap_binding?_outline :
    (Program.outline usage meaning carried).filterMap Finding.binding? =
      (target? meaning).toList := by
  rw [filterMap_outline (fun _ => rfl) fun _ => rfl]
  rcases usage with ⟨_ | _, _ | _⟩ <;> cases meaning <;> rfl

theorem filterMap_synopsis?_outline :
    (Program.outline usage meaning carried).filterMap Finding.synopsis? =
      [(argument? meaning).toList] := by
  rw [filterMap_outline (fun _ => rfl) fun _ => rfl]
  rcases usage with ⟨_ | _, _ | _⟩ <;> cases meaning <;> rfl

theorem prints_mem_outline {name : Bytes} :
    .prints name ∈ Program.outline usage meaning carried ↔ name ∈ carried := by
  rcases usage with ⟨_ | _, _ | _⟩ <;> cases meaning <;>
    simp [Program.outline, outline, remainder, declared, bound, redirected, groups, listed,
      Switch.handled, Switch.path?]

/-- A path is mentioned exactly if the program has the stream that it stands for. -/
theorem mentions_mem_outline {asked : Positional} {name : Bytes} :
    .mentions name ∈ Program.outline usage (asked.resolve usage) carried ↔
      (usage.reads = true ∧ name = inputPath) ∨ (usage.writes = true ∧ name = outputPath) := by
  rcases usage with ⟨_ | _, _ | _⟩ <;> cases asked <;>
    simp [Program.outline, outline, remainder, declared, bound, redirected, groups, listed,
      Switch.handled, Switch.path?, Positional.resolve]
  all_goals
    generalize inputPath = input, outputPath = output
    tauto

theorem declares_not_mem_remainder (name : Bytes) :
    .declares name ∉ remainder usage meaning carried := by
  rcases usage with ⟨_ | _, _ | _⟩ <;> cases meaning <;>
    simp [remainder, bound, redirected, groups, listed, Switch.handled, Switch.path?]

theorem inputPath_ne_outputPath : inputPath ≠ outputPath := by decide

/-- The declarations stand between the table and everything that mentions a path. -/
theorem declaredOnce_outline {asked : Positional} {name : Bytes} (hname : name ∈ pathVariables)
    (hcarried : name ∉ carried) :
    DeclaredOnce name (Program.outline usage (asked.resolve usage) carried) := by
  have hmessage : name ≠ ascii "message" := by
    rintro rfl
    exact absurd hname (by decide)
  have hremainder := @declares_not_mem_remainder usage (asked.resolve usage) carried name
  by_cases hmentioned : .mentions name ∈ Program.outline usage (asked.resolve usage) carried
  · rcases mentions_mem_outline.mp hmentioned with ⟨hreads, rfl⟩ | ⟨hwrites, rfl⟩
    · have hsplit : Program.outline usage (asked.resolve usage) carried =
          (carried.map .declares ++ .declares (ascii "message") :: .table tableName ::
            (groups usage).flatten.map (.row ·.entry)) ++ .declares inputPath ::
              (.mentions inputPath :: (if usage.writes then [.declares outputPath,
                .mentions outputPath] else []) ++
                  remainder usage (asked.resolve usage) carried) := by
        simp [Program.outline, outline, declared, hreads]
      rw [hsplit]
      refine declaredOnce_of_split ?_ ?_ ?_
      · simp [hcarried, hmessage]
      · simp
      · cases usage.writes <;> simp [hremainder, inputPath_ne_outputPath]
    · have hsplit : Program.outline usage (asked.resolve usage) carried =
          (carried.map .declares ++ .declares (ascii "message") :: .table tableName ::
            (groups usage).flatten.map (.row ·.entry) ++ (if usage.reads then
              [.declares inputPath, .mentions inputPath] else [])) ++ .declares outputPath ::
                (.mentions outputPath :: remainder usage (asked.resolve usage) carried) := by
        simp [Program.outline, outline, declared, hwrites]
      rw [hsplit]
      refine declaredOnce_of_split ?_ ?_ ?_
      · cases usage.reads <;> simp [hcarried, hmessage, inputPath_ne_outputPath.symm]
      · cases usage.reads <;> simp [inputPath_ne_outputPath.symm]
      · simp [hremainder]
  · exact declaredOnce_of_not_mentioned hmentioned

end

/-- What the usage should call an argument, by the variable that takes it. -/
def argumentNames : List (Bytes × Bytes) := [(outputPath, ascii "output-file"),
  (inputPath, ascii "input-file"), (ascii "message", ascii "input-message")]

theorem map_lookup_target? (meaning : Positional) :
    (target? meaning).toList.map (List.lookup · argumentNames) =
      (argument? meaning).toList.map some := by
  cases meaning <;> decide

end Interface

open Interface

theorem version_ne_copyright : ascii "VERSION" ≠ ascii "COPYRIGHT" := by decide

namespace Settings

theorem mem_carried {settings : Settings} {name : Bytes} :
    name ∈ settings.carried ↔ (settings.version.isSome = true ∧ name = ascii "VERSION") ∨
      (settings.copyright.isSome = true ∧ name = ascii "COPYRIGHT") := by
  unfold carried
  cases settings.version.isSome <;> cases settings.copyright.isSome <;> simp

theorem not_mem_carried_of_path (settings : Settings) {name : Bytes}
    (hname : name ∈ pathVariables) : name ∉ settings.carried := by
  intro hcarried
  rw [mem_carried] at hcarried
  obtain ⟨-, rfl⟩ | ⟨-, rfl⟩ := hcarried
  · exact absurd hname (by decide)
  · exact absurd hname (by decide)

end Settings

namespace Emission

/-- The survey of a complete program is its outline. -/
theorem survey_written (settings : Settings) (source : Bytes) :
    survey (program settings ⟨source, none⟩).written =
      Program.outline ⟨decide (comma ∈ source), decide (dot ∈ source)⟩
        (settings.positional.resolve ⟨decide (comma ∈ source), decide (dot ∈ source)⟩)
        settings.carried := by
  have shown := (Program.shows_text settings source).survey_eq
  rw [Usage.ofSource_eq] at shown
  rw [(offers_program settings source).written, shown]

/-- A complete program offers the options that its source calls for, and all places that
have to do with an option, a path, a carried text or a bare argument agree. -/
theorem command_line_agrees (settings : Settings) (source : Bytes) :
    let text := (program settings ⟨source, none⟩).written
    let found := survey text
    let meaning := settings.positional.resolve ⟨decide (comma ∈ source), decide (dot ∈ source)⟩
    let bindings := found.filterMap Finding.binding?
    Offering found ([ascii "h", ascii "v"]
      ++ (if comma ∈ source then [ascii "f", ascii "m"] else [])
      ++ (if dot ∈ source then [ascii "o"] else [])) ∧
    (∀ name ∈ pathVariables, DeclaredOnce name found) ∧
    (.mentions inputPath ∈ found ↔ comma ∈ source) ∧
    (.mentions outputPath ∈ found ↔ dot ∈ source) ∧
    Program.preamble settings <+: text ∧
    (∀ name, .prints name ∈ found ↔ .declares name ∈ survey (Program.preamble settings)) ∧
    (.prints (ascii "VERSION") ∈ found ↔ settings.version.isSome = true) ∧
    (.prints (ascii "COPYRIGHT") ∈ found ↔ settings.copyright.isSome = true) ∧
    (∃ arguments, found.filterMap Finding.synopsis? = [arguments] ∧
      arguments.map some = bindings.map (List.lookup · argumentNames)) ∧
    bindings = (target? meaning).toList ∧
    (bindings ≠ [] ↔ meaning ≠ .nothing) := by
  intro text found meaning bindings
  have hfound : found = Program.outline ⟨decide (comma ∈ source), decide (dot ∈ source)⟩ meaning
      settings.carried := survey_written settings source
  have hbindings : bindings = (target? meaning).toList := by
    simp only [bindings, hfound, filterMap_binding?_outline]
  have htext : text = Program.text settings source := (offers_program settings source).written
  have hprints (name : Bytes) : .prints name ∈ found ↔ name ∈ settings.carried := by
    rw [hfound, prints_mem_outline]
  refine ⟨?_, ?_, ?_, ?_, ?_, ?_, ?_, ?_, ?_, hbindings, ?_⟩
  · have offering := @offering_outline ⟨decide (comma ∈ source), decide (dot ∈ source)⟩ meaning
      settings.carried
    rw [← hfound] at offering
    convert offering using 1
    by_cases hcomma : comma ∈ source <;> by_cases hdot : dot ∈ source <;>
      simp [groups, hcomma, hdot, Switch.letter]
  · intro name hname
    rw [hfound]
    exact declaredOnce_outline hname (settings.not_mem_carried_of_path hname)
  · rw [hfound]
    exact mentions_mem_outline.trans (by simp [inputPath_ne_outputPath])
  · rw [hfound]
    exact mentions_mem_outline.trans (by simp [inputPath_ne_outputPath.symm])
  · rw [htext, Program.text, Program.body]
    simp only [List.append_assoc]
    exact List.prefix_append _ _
  · intro name
    rw [hprints, (Program.shows_preamble settings).survey_eq]
    simp
  · rw [hprints, Settings.mem_carried]
    simp [version_ne_copyright]
  · rw [hprints, Settings.mem_carried]
    simp [version_ne_copyright.symm]
  · refine ⟨(argument? meaning).toList, ?_, ?_⟩
    · rw [hfound, filterMap_synopsis?_outline]
    · rw [hbindings, map_lookup_target?]
  · rw [hbindings]
    cases meaning <;> simp [target?]

end Emission

end BrainfuckCompiler
