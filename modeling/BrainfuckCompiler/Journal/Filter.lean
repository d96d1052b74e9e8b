import BrainfuckCompiler.Automaton.OfText
import BrainfuckCompiler.Automaton.Search
import BrainfuckCompiler.Character.Blank
import BrainfuckCompiler.Journal

/-!
# Which events are printed

A filter is a list of rules, and possibly a pattern that has to occur in the
message of an event. A rule without a name holds for every part of the program,
one with a name for the parts whose names begin with it; of the rules that hold
for a part the one with the longest name decides.

A filter is written as a comma-separated list of levels and of rules
`name=level`, with the pattern after a slash. What cannot be read is reported and
left out: a rule whose level is no level, a pattern with a fault, and everything
if there are several slashes. When no rule is left, only errors are printed.
-/
namespace BrainfuckCompiler.Journal

/-- Up to which level the parts with the given beginning are printed; no level
means not at all. -/
structure Rule where
  name : Option Bytes
  limit : Option Level
  deriving DecidableEq, Repr

/-- Whether the rule speaks about a part of the program. -/
def Rule.holdsFor (rule : Rule) (part : Bytes) : Bool :=
  match rule.name with
  | none => true
  | some name => name.isPrefixOf part

structure Filter where
  rules : List Rule
  /-- What has to occur in the message; nothing lets every message through. -/
  pattern : Option Automaton := none
  deriving DecidableEq, Repr

namespace Filter

def lower (b : UInt8) : UInt8 := if 0x41 ≤ b ∧ b ≤ 0x5a then b + 0x20 else b

/-- A level by its name, in any case; `off` is the absence of a level. -/
def limit? (text : Bytes) : Option (Option Level) :=
  let names : List (String × Option Level) := [
    ("off", none), ("error", some .error), ("warn", some .warn), ("info", some .info),
    ("debug", some .debug), ("trace", some .trace)]
  (names.find? fun (name, _) => ascii name = text.map lower).map Prod.snd

/-- The text without white space at its ends. -/
def trim (text : Bytes) : Bytes :=
  let blank : Utf8.Piece → Bool
    | .character bytes => Character.isBlank (Utf8.codePoint bytes)
    | .broken _ => false
  let kept := (((Utf8.pieces text).dropWhile blank).reverse.dropWhile blank).reverse
  kept.flatMap fun
    | .character bytes => bytes
    | .broken bytes => bytes

/-- A rule for a name that has one already takes its place. -/
def insert (rule : Rule) : List Rule → List Rule
  | [] => [rule]
  | first :: rest =>
      if first.name = rule.name then rule :: rest else first :: insert rule rest

/-- One entry of the list: a rule, or the text to complain about. -/
def entry (text : Bytes) : Except Bytes Rule :=
  match Bytes.splitOn equals text with
  | [single] =>
      match limit? single with
      | some limit => .ok ⟨none, limit⟩
      | none => .ok ⟨some single, some .trace⟩
  | [name, level] =>
      if trim level = [] then .ok ⟨some name, some .trace⟩
      else
        match limit? (trim level) with
        | some limit => .ok ⟨some name, limit⟩
        | none => .error (trim level)
  | _ => .error text

/-- What was left out of a written filter. -/
inductive Complaint where
  | entry (text : Bytes)
  | severalSlashes (text : Bytes)
  | pattern (text : Bytes) (reason : Pattern.Complaint)
  deriving DecidableEq, Repr

def Complaint.message : Complaint → Bytes
  | .entry text => ascii "invalid logging spec '" ++ text ++ ascii "'"
  | .severalSlashes text => ascii "invalid logging spec '" ++ text ++ ascii "' (too many '/'s)"
  | .pattern text reason =>
      ascii "invalid regex filter - " ++ reason.message text (Utf8.characters text)

/-- The complaint as a line. -/
def Complaint.line (complaint : Complaint) : Bytes :=
  ascii "warning: " ++ complaint.message ++ ascii ", ignoring it\n"

/-- The rules in a comma-separated list, and what was left out. -/
def parseRules (text : Bytes) : List Rule × List Complaint :=
  let entries := ((Bytes.splitOn comma text).map trim).filter (· ≠ [])
  let (rules, refused) := entries.foldl
    (fun (rules, refused) text =>
      match entry text with
      | .ok rule => (insert rule rules, refused)
      | .error bad => (rules, .entry bad :: refused))
    (([] : List Rule), ([] : List Complaint))
  (rules, refused.reverse)

/-- A pattern, or the complaint about it. -/
def parsePattern (text : Bytes) : Option Automaton × List Complaint :=
  match Automaton.ofText (Utf8.characters text) with
  | .ok automaton => (some automaton, [])
  | .error reason => (none, [.pattern text reason])

/-- Without any rule only errors are printed. -/
def ofRules (rules : List Rule) (pattern : Option Automaton) : Filter :=
  ⟨if rules = [] then [⟨none, some .error⟩] else rules, pattern⟩

/-- A written filter, and what was left out of it. -/
def parse (text : Bytes) : Filter × List Complaint :=
  match Bytes.splitOn slash text with
  | [rulesText, patternText] =>
      let (rules, refused) := parseRules rulesText
      let (pattern, wrong) := parsePattern patternText
      (ofRules rules pattern, refused ++ wrong)
  | _ :: _ :: _ => (ofRules [] none, [.severalSlashes text])
  | _ =>
      let (rules, refused) := parseRules text
      (ofRules rules none, refused)

/-- The rule with the longest name, the later one of two equally long. -/
def longest (rules : List Rule) : Option Rule :=
  rules.foldl
    (fun best rule =>
      match best with
      | none => some rule
      | some held =>
          if (held.name.getD []).length ≤ (rule.name.getD []).length then some rule else best)
    none

/-- Whether the rules let an event through. -/
def rulesAdmit (rules : List Rule) (event : Event) : Bool :=
  let part := ascii event.origin.name
  match longest (rules.filter fun rule => rule.holdsFor part) with
  | some ⟨_, some limit⟩ => event.level.rank ≤ limit.rank
  | _ => false

/-- Whether the filter lets an event through. -/
def admits (filter : Filter) (event : Event) : Bool :=
  rulesAdmit filter.rules event
    && filter.pattern.all fun automaton => automaton.searches event.message

end Filter

/-- The log lines of a journal under a written filter, complaints first. -/
def render (text : Bytes) (events : List Event) : Bytes :=
  let (filter, refused) := Filter.parse text
  refused.flatMap Filter.Complaint.line ++ (events.filter filter.admits).flatMap Event.line

end BrainfuckCompiler.Journal
