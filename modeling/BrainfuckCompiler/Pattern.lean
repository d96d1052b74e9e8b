import BrainfuckCompiler.Character.Runs
import BrainfuckCompiler.Place

/-!
# Patterns of text

A pattern describes texts: fixed texts, single characters out of a set, places,
repetitions, sequences and choices. Patterns are put together by functions that
keep them simple: texts that follow each other become one text, a choice between
characters becomes a set, and what can be left out is left out.
-/
namespace BrainfuckCompiler

inductive Pattern where
  | empty
  /-- These characters, at least one. -/
  | literal (text : List Char)
  /-- One character out of a set; `bytewise` tells that the set was written as a
  set of bytes. -/
  | one (set : Character.Runs) (bytewise : Bool)
  | at (place : Place)
  /-- At least `least` and at most `most` times; no number means any. The eager
  prefer more repetitions over fewer. -/
  | repeated (body : Pattern) (least : Nat) (most : Option Nat) (eager : Bool)
  /-- A part whose place in the text is remembered. -/
  | recorded (number : Nat) (body : Pattern)
  | sequence (parts : List Pattern)
  | choice (parts : List Pattern)

namespace Pattern

open Character (Runs)

mutual

/-- The two patterns are written in the same way. -/
def same : Pattern → Pattern → Bool
  | .empty, .empty => true
  | .literal left, .literal right => left = right
  | .one left leftBytewise, .one right rightBytewise =>
      left = right && leftBytewise == rightBytewise
  | .at left, .at right => left = right
  | .repeated left leftLeast leftMost leftEager, .repeated right rightLeast rightMost rightEager =>
      leftLeast = rightLeast && leftMost = rightMost && leftEager == rightEager
        && left.same right
  | .recorded leftNumber left, .recorded rightNumber right =>
      leftNumber = rightNumber && left.same right
  | .sequence left, .sequence right => sameAll left right
  | .choice left, .choice right => sameAll left right
  | _, _ => false

def sameAll : List Pattern → List Pattern → Bool
  | [], [] => true
  | left :: lefts, right :: rights => left.same right && sameAll lefts rights
  | _, _ => false

end

mutual

/-- Fits only places, never a character. -/
def isWidthless : Pattern → Bool
  | .empty => true
  | .literal _ => false
  | .one _ _ => false
  | .at _ => true
  | .repeated body _ most _ => most.isSome && body.isWidthless
  | .recorded _ body => body.isWidthless
  | .sequence parts => allWidthless parts
  | .choice parts => allWidthless parts

def allWidthless : List Pattern → Bool
  | [] => true
  | part :: rest => part.isWidthless && allWidthless rest

end

mutual

/-- How many characters a text has at least that fits the pattern. There is no
number if the pattern has a part that no text fits. -/
def leastLength? : Pattern → Option Nat
  | .empty => some 0
  | .literal text => some text.length
  | .one set _ => if set = [] then none else some 1
  | .at _ => some 0
  | .repeated body least _ _ => body.leastLength?.map (· * least)
  | .recorded _ body => body.leastLength?
  | .sequence parts => totalLength? 0 parts
  | .choice [] => none
  | .choice (part :: rest) =>
      match part.leastLength? with
      | none => none
      | some length => shortestLength? length rest

/-- The lengths of the parts together, and `length`. -/
def totalLength? (length : Nat) : List Pattern → Option Nat
  | [] => some length
  | part :: rest =>
      match part.leastLength? with
      | none => none
      | some more => totalLength? (length + more) rest

/-- The smallest of the lengths of the parts and `length`. -/
def shortestLength? (length : Nat) : List Pattern → Option Nat
  | [] => some length
  | part :: rest =>
      match part.leastLength? with
      | none => none
      | some other => shortestLength? (min length other) rest

end

/-- Some part is bound, and those before it fit no character. Each part is given
by whether it is widthless and whether it is bound. -/
def bindsEdge : List (Bool × Bool) → Bool
  | [] => false
  | (widthless, binds) :: rest => binds || (widthless && bindsEdge rest)

mutual

/-- Every text that fits has the place at its start, or at its end if the pattern
is seen backward. -/
def binds (place : Place) (backward : Bool) : Pattern → Bool
  | .empty => false
  | .literal _ => false
  | .one _ _ => false
  | .at own => own = place
  | .repeated body least _ _ => 0 < least && body.binds place backward
  | .recorded _ body => body.binds place backward
  | .sequence parts =>
      let edges := edgesOnto place backward [] parts
      bindsEdge (if backward then edges else edges.reverse)
  | .choice parts => allBind place backward parts

def allBind (place : Place) (backward : Bool) : List Pattern → Bool
  | [] => true
  | part :: rest => part.binds place backward && allBind place backward rest

/-- Of each part whether it is widthless and whether it is bound, the last part
first. -/
def edgesOnto (place : Place) (backward : Bool) (edges : List (Bool × Bool)) :
    List Pattern → List (Bool × Bool)
  | [] => edges
  | part :: rest =>
      edgesOnto place backward ((part.isWidthless, part.binds place backward) :: edges) rest

end

mutual

/-- Looks for the edges of words of every script. -/
def needsScripts : Pattern → Bool
  | .empty => false
  | .literal _ => false
  | .one _ _ => false
  | .at (.word _ everyScript) => everyScript
  | .at _ => false
  | .repeated body _ _ _ => body.needsScripts
  | .recorded _ body => body.needsScripts
  | .sequence parts => anyNeedsScripts parts
  | .choice parts => anyNeedsScripts parts

def anyNeedsScripts : List Pattern → Bool
  | [] => false
  | part :: rest => part.needsScripts || anyNeedsScripts rest

end

/-- No text fits. -/
def never : Pattern := .one [] true

/-- One character out of a set. -/
def oneOf (bytewise : Bool) : Runs → Pattern
  | [] => never
  | [(first, last)] =>
      if first = last then .literal [Char.ofNat first] else .one [(first, last)] bytewise
  | runs => .one runs bytewise

/-- A part before other parts. -/
def before : Pattern → List Pattern → List Pattern
  | .empty, rest => rest
  | .literal text, .literal more :: rest => .literal (text ++ more) :: rest
  | part, rest => part :: rest

/-- One pattern after the other. -/
def inSequence (parts : List Pattern) : Pattern :=
  let flat := parts.flatMap fun
    | .sequence inner => inner
    | part => [part]
  match flat.foldr before [] with
  | [] => .empty
  | [part] => part
  | several => .sequence several

/-- The characters of parts that are single characters. -/
def characters? (parts : List Pattern) : Option (List Char) :=
  parts.mapM fun
    | .literal [c] => some c
    | _ => none

/-- The characters of parts that are sets. -/
def sets? (parts : List Pattern) : Option (List Runs) :=
  parts.mapM fun
    | .one set _ => some set
    | _ => none

/-- A choice between parts none of which is a choice. -/
def choiceOf : List Pattern → Pattern
  | [] => never
  | [part] => part
  | parts =>
      match characters? parts, sets? parts with
      | some characters, _ =>
          oneOf false (Runs.ofList (characters.map fun c => (c.toNat, c.toNat)))
      | none, some sets => oneOf false (Runs.ofList sets.flatten)
      | none, none => .choice parts

/-- The parts with which both sequences begin. -/
def commonStart : List Pattern → List Pattern → List Pattern
  | left :: lefts, right :: rights =>
      if left.same right then left :: commonStart lefts rights else []
  | _, _ => []

/-- The parts of patterns that are sequences. -/
def sequences? (parts : List Pattern) : Option (List (List Pattern)) :=
  parts.mapM fun
    | .sequence inner => some inner
    | _ => none

/-- The alternatives of a choice between the parts. -/
def alternatives (parts : List Pattern) : List Pattern :=
  parts.flatMap fun
    | .choice inner => inner
    | part => [part]

/-- One of several patterns. What sequences have in common at their start comes
before the choice. -/
def anyOf (parts : List Pattern) : Pattern :=
  let flat := alternatives parts
  match sequences? flat with
  | some (first :: second :: more) =>
      match (second :: more).foldl commonStart first with
      | [] => choiceOf flat
      | start =>
          let ends := (first :: second :: more).map fun inner =>
            inSequence (inner.drop start.length)
          inSequence (start ++ [choiceOf (alternatives ends)])
  | _ => choiceOf flat

/-- A repetition. A place that is met once is met any number of times. -/
def times (body : Pattern) (least : Nat) (most : Option Nat) (eager : Bool) : Pattern :=
  let (least, most) :=
    if body.isWidthless then (min least 1, some (min (most.getD 1) 1)) else (least, most)
  match least, most with
  | _, some 0 => .empty
  | 1, some 1 => body
  | _, _ => .repeated body least most eager

end Pattern

end BrainfuckCompiler
