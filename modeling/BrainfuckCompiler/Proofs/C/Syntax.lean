import BrainfuckCompiler.Bytes

/-!
# A fragment of C: text, tokens and statements

The fragment has the statements that can stand between the declarations and the
end of the main function of a generated program: steps of the pointer and of the
cell under it, fetching and storing a character, output, conditions on the end of
the input, and loops. It is read in three stages. The text is split into tokens by
longest match; the tokens are split into phrases, each of which ends with a
semicolon or a brace; and loops are built from the phrases with a stack of open
blocks. White space only separates tokens.

The cell type is a parameter: a cast to any other type is not read.
-/
namespace BrainfuckCompiler.C

/-- A statement without parts of its own. -/
inductive Action where
  | increment
  | decrement
  | advance
  | retreat
  | fetch
  | clear
  | store
  | put
  | flush
  deriving DecidableEq, Repr

/-- A condition on the character fetched last. -/
inductive Condition where
  | always
  | atEnd
  | notAtEnd
  deriving DecidableEq, Repr

inductive Code where
  | act (condition : Condition) (action : Action)
  | loop (body : List Code)

/-- Letters, digits and the underscore make up names and numbers. -/
def isWordByte (b : UInt8) : Bool :=
  (0x61 ≤ b && b ≤ 0x7a) || (0x41 ≤ b && b ≤ 0x5a) || (0x30 ≤ b && b ≤ 0x39) || b == 0x5f

def isBlank (b : UInt8) : Bool := b == 0x20 || b == 0x0a || b == 0x09

/-- The operators of two characters. -/
def longMarks : List Bytes := [ascii "++", ascii "--", ascii "==", ascii "!="]

/-- Whether a token that has been read so far goes on with one more byte. -/
def joins (token : Bytes) (b : UInt8) : Bool :=
  (!token.isEmpty && token.all isWordByte && isWordByte b) || longMarks.contains (token ++ [b])

/-- The tokens read so far, and the beginning of the next one. -/
structure Scanner where
  tokens : List Bytes := []
  pending : Bytes := []
  deriving DecidableEq, Repr

namespace Scanner

/-- Ends the pending token, if there is one. -/
def close (scanner : Scanner) : List Bytes :=
  if scanner.pending = [] then scanner.tokens else scanner.tokens ++ [scanner.pending]

def step (scanner : Scanner) (b : UInt8) : Scanner :=
  if joins scanner.pending b then { scanner with pending := scanner.pending ++ [b] }
  else ⟨scanner.close, if isBlank b then [] else [b]⟩

end Scanner

def tokens (text : Bytes) : List Bytes := (text.foldl Scanner.step {}).close

/-- The tokens that end a phrase. -/
def terminators : List Bytes := [ascii ";", ascii "\x7b", ascii "\x7d"]

/-- Splits tokens into phrases; only the last one can lack its end. -/
def phrases : List Bytes → List (List Bytes)
  | [] => []
  | token :: rest =>
      if token ∈ terminators then [token] :: phrases rest
      else
        match phrases rest with
        | [] => [[token]]
        | phrase :: others => (token :: phrase) :: others

/-- A line of code as it stands in the text, loops still being open. -/
inductive Phrase where
  | act (condition : Condition) (action : Action)
  | openLoop
  | closeLoop
  deriving DecidableEq, Repr

/-- The statements without parts and their tokens. -/
def actions (type : Bytes) : List (List Bytes × Action) := [
  (["(", "*", "ptr", ")", "++", ";"].map ascii, .increment),
  (["(", "*", "ptr", ")", "--", ";"].map ascii, .decrement),
  (["ptr", "++", ";"].map ascii, .advance),
  (["ptr", "--", ";"].map ascii, .retreat),
  (["ch", "=", "getchar2", "(", ")", ";"].map ascii, .fetch),
  (["ch", "=", "0", ";"].map ascii, .clear),
  (["*", "ptr", "=", "("].map ascii ++ [type] ++ [")", "ch", ";"].map ascii, .store),
  (["putchar", "(", "*", "ptr", ")", ";"].map ascii, .put),
  (["fflush", "(", "stdout", ")", ";"].map ascii, .flush)]

/-- The conditions a statement can stand under and their tokens. -/
def conditions : List (List Bytes × Condition) := [
  (["if", "(", "ch", "==", "EOF", ")"].map ascii, .atEnd),
  (["if", "(", "ch", "!=", "EOF", ")"].map ascii, .notAtEnd),
  ([], .always)]

/-- Reads one phrase: a bracket of a loop, or a statement under a condition. -/
def phrase? (type : Bytes) (phrase : List Bytes) : Option Phrase :=
  if phrase = ["while", "(", "*", "ptr", ")", "\x7b"].map ascii then some .openLoop
  else if phrase = [ascii "\x7d"] then some .closeLoop
  else conditions.findSome? fun (guard, condition) =>
    if guard.isPrefixOf phrase then
      ((actions type).lookup (phrase.drop guard.length)).map (.act condition)
    else none

/-- Builds the loops. `block` holds the statements of the innermost open block and
`outer` those of the blocks around it, latest first. -/
def nest : List Phrase → List Code → List (List Code) → Option (List Code)
  | [], block, [] => some block.reverse
  | [], _, _ :: _ => none
  | .act condition action :: rest, block, outer => nest rest (.act condition action :: block) outer
  | .openLoop :: rest, block, outer => nest rest [] (block :: outer)
  | .closeLoop :: _, _, [] => none
  | .closeLoop :: rest, block, enclosing :: outer => nest rest (.loop block.reverse :: enclosing) outer

/-- Reads a text as a list of statements. -/
def parse (type text : Bytes) : Option (List Code) :=
  ((phrases (tokens text)).mapM (phrase? type)).bind (nest · [] [])

/-- The type a declaration of the pointer gives to the cells. -/
def declaredType? (line : Bytes) : Option Bytes :=
  match tokens line with
  | type :: rest => if rest = ["*", "ptr", "=", "buff", ";"].map ascii then some type else none
  | [] => none

/-- The last complete line of a text. -/
def lastLine (text : Bytes) : Bytes :=
  ((text.reverse.drop 1).takeWhile (· ≠ newline)).reverse

/-- The number of bits of an unsigned type of fixed width. -/
def bits? (type : Bytes) : Option Nat :=
  [(ascii "uint8_t", 8), (ascii "uint16_t", 16), (ascii "uint32_t", 32)].lookup type

end BrainfuckCompiler.C
