import BrainfuckCompiler.Settings

/-!
# The command line of the generated program

The last part of the generated program reads its own command line. Help and
version are always offered; an input file and an input message only by a
program that reads, an output file only by a program that writes. Each switch
shows up in four places: the table of long names, the string of letters, the
cases of the loop and the printed usage.
-/
namespace BrainfuckCompiler.Interface

inductive Switch where
  | help
  | version
  | file
  | message
  | output
  deriving DecidableEq, Repr

namespace Switch

def letter : Switch → String
  | .help => "h"
  | .version => "v"
  | .file => "f"
  | .message => "m"
  | .output => "o"

def name : Switch → String
  | .help => "help"
  | .version => "version"
  | .file => "file"
  | .message => "message"
  | .output => "output"

/-- What the value of the switch is called, if it takes one. -/
def value? : Switch → Option String
  | .help => none
  | .version => none
  | .file => some "<file>"
  | .message => some "<str>"
  | .output => some "<file>"

def description : Switch → String
  | .help => "display help message."
  | .version => "display version information."
  | .file => "input file path."
  | .message => "input message."
  | .output => "output file path."

/-- What the program does on meeting the switch; help shares the effect of
the case after it. -/
def effect : Switch → String
  | .help => ""
  | .version => " show_help |= 1; break;"
  | .file => " input_path = optarg; message = NULL; break;"
  | .message => " input_path = NULL; message = optarg; break;"
  | .output => " output_path = optarg; break;"

/-- The row of the switch in the table of long names. -/
def row (switch : Switch) : Bytes :=
  ascii "  \x7b \"" ++ ascii switch.name ++ ascii "\", "
    ++ ascii (if switch.value?.isSome then "required_argument" else "no_argument")
    ++ ascii ", NULL, '" ++ ascii switch.letter ++ ascii "' \x7d,\n"

/-- The letter of the switch, with a colon if a value follows it. -/
def spelling (switch : Switch) : Bytes :=
  ascii switch.letter ++ ascii (if switch.value?.isSome then ":" else "")

/-- The case of the switch in the loop over the command line. -/
def arm (switch : Switch) : Bytes :=
  ascii "    case '" ++ ascii switch.letter ++ ascii "':" ++ ascii switch.effect ++ [newline]

/-- Both names of the switch and its value, as the usage shows them. -/
def synopsis (switch : Switch) : Bytes :=
  let names := ascii "-" ++ ascii switch.letter ++ ascii ", --" ++ ascii switch.name
  match switch.value? with
  | some value => names ++ ascii " " ++ ascii value
  | none => names

/-- The line of the switch in the usage; descriptions start in one column. -/
def usageLine (switch : Switch) : Bytes :=
  let blanks := List.replicate (20 - switch.synopsis.length) 0x20
  ascii "    puts(\"  " ++ switch.synopsis ++ blanks ++ ascii ": " ++ ascii switch.description
    ++ ascii "\");\n"

end Switch

/-- The switches in the order of the table, in the groups in which their
letters are written. -/
def groups (usage : Usage) : List (List Switch) :=
  [[.help, .version]]
    ++ (if usage.reads then [[.file, .message]] else [])
    ++ (if usage.writes then [[.output]] else [])

/-- The switches in the order of the printed usage. -/
def listed (usage : Usage) : List Switch :=
  (if usage.reads then [.file, .message] else [])
    ++ (if usage.writes then [.output] else [])
    ++ [.version, .help]

def optionTable (usage : Usage) : List Bytes :=
  [lines ["struct option longopts[] = \x7b"]]
    ++ (groups usage).flatten.map Switch.row
    ++ [lines ["  \x7b NULL, 0, NULL, '\\0' \x7d,", "\x7d;", ""]]

/-- A group of letters as a string literal. -/
def letterGroup (group : List Switch) : Bytes :=
  ascii "\"" ++ group.flatMap Switch.spelling ++ ascii "\""

/-- The groups of letters, side by side. -/
def letters (usage : Usage) : Bytes :=
  [0x20].intercalate ((groups usage).map letterGroup)

def declarations (usage : Usage) : List Bytes :=
  (if usage.reads then [lines ["  char* input_path = NULL;"]] else [])
    ++ (if usage.writes then [lines ["  char* output_path = NULL;"]] else [])
    ++ [lines ["  int opt, longindex, show_help = 0;"]]

def parseLoop (usage : Usage) : List Bytes :=
  [lines ["int options(int argc, char** argv) \x7b"]]
    ++ declarations usage
    ++ [ascii "  while ((opt = getopt_long(argc, argv, ", letters usage,
        ascii ", longopts, &longindex)) != -1) \x7b\n",
        lines ["    switch (opt) \x7b"]]
    ++ (groups usage).flatten.map Switch.arm
    ++ [lines ["    default: show_help = 2; break;", "    \x7d", "  \x7d"]]

/-- The code that takes a bare argument, if one has a meaning. -/
def binding : Positional → List Bytes
  | .nothing => []
  | .outputFile => [lines [
      "  if (optind < argc) \x7b",
      "    output_path = argv[optind++];",
      "  \x7d"]]
  | .inputFile => [lines [
      "  if (optind < argc) \x7b",
      "    input_path = argv[optind++];",
      "    message = NULL;",
      "  \x7d"]]
  | .message => [lines [
      "  if (optind < argc) \x7b",
      "    input_path = NULL;",
      "    message = argv[optind++];",
      "  \x7d"]]

def positionalCode (meaning : Positional) : List Bytes :=
  binding meaning ++ [lines [
    "  if (optind < argc) \x7b",
    "    show_help = 2;",
    "  \x7d"]]

/-- What the usage calls the bare argument. -/
def placeholder? : Positional → Option String
  | .nothing => none
  | .outputFile => some "<output-file>"
  | .inputFile => some "<input-file>"
  | .message => some "<input-message>"

/-- A line that prints a string variable, if the program has it. -/
def printVariable (name : String) (text : Option Bytes) : List Bytes :=
  if text.isSome then [ascii "    puts(" ++ ascii name ++ ascii ");\n"] else []

def usagePrinter (usage : Usage) (meaning : Positional) (settings : Settings) : List Bytes :=
  [lines ["  if (show_help) \x7b"]]
    ++ printVariable "VERSION" settings.version
    ++ printVariable "COPYRIGHT" settings.copyright
    ++ [ascii "    printf(\"Usage:\\n  %s [options]\""]
    ++ (match placeholder? meaning with
        | some word => [ascii "\" [ " ++ ascii word ++ ascii " ]\""]
        | none => [])
    ++ [ascii "\"\\n\", argv[0]);\n", lines ["    puts(\"Options:\");"]]
    ++ (listed usage).map Switch.usageLine
    ++ [lines ["    exit(show_help == 1 ? 0 : 1);", "  \x7d"]]

/-- The code that puts named files in the place of the standard streams; a
single dash keeps the stream. -/
def redirects (usage : Usage) : List Bytes :=
  (if usage.reads then [lines [
      "  if (input_path != NULL && strcmp(input_path, \"-\") != 0) \x7b",
      "    FILE* in = fopen(input_path, \"r\");",
      "    if (in == NULL) \x7b",
      "      perror(input_path);",
      "      exit(1);",
      "    \x7d",
      "    if (dup2(fileno(in), 0) == -1) \x7b",
      "      perror(\"dup2(in)\");",
      "      exit(1);",
      "    \x7d",
      "  \x7d"]] else [])
    ++ (if usage.writes then [lines [
      "  if (output_path != NULL && strcmp(output_path, \"-\") != 0) \x7b",
      "    FILE* out = fopen(output_path, \"w\");",
      "    if (out == NULL) \x7b",
      "      perror(output_path);",
      "      exit(1);",
      "    \x7d",
      "    if (dup2(fileno(out), 1) == -1) \x7b",
      "      perror(\"dup2(out)\");",
      "      exit(1);",
      "    \x7d",
      "  \x7d"]] else [])

/-- The whole command line of a program with the given usage. -/
def fragments (usage : Usage) (settings : Settings) : List Bytes :=
  let meaning := settings.positional.resolve usage
  optionTable usage
    ++ parseLoop usage
    ++ positionalCode meaning
    ++ usagePrinter usage meaning settings
    ++ redirects usage
    ++ [lines ["  return optind;", "\x7d"]]

end BrainfuckCompiler.Interface
