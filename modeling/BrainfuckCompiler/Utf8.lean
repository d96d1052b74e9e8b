import BrainfuckCompiler.Bytes

/-!
# UTF-8

A byte string is cut from left to right into characters and broken pieces. A
broken piece is a longest run of bytes that begins a character which the next
byte does not continue, or a single byte that begins none. The string is valid
when there is no broken piece; shown as text, each broken piece becomes one
replacement character.
-/
namespace BrainfuckCompiler.Utf8

/-- Where a reader stands inside a character: which bytes may come next, and
how many after that. -/
inductive State where
  | start
  | oneLeft
  | twoLeft
  | threeLeft
  | afterE0
  | afterED
  | afterF0
  | afterF4
  deriving DecidableEq, Repr

/-- `next` when the byte lies in the range, and a refusal otherwise. -/
def within (low high b : UInt8) (next : State) : Option State :=
  if low ≤ b ∧ b ≤ high then some next else none

/-- The state after the first byte of a character. -/
def lead (b : UInt8) : Option State :=
  if b ≤ 0x7f then some .start
  else if 0xc2 ≤ b ∧ b ≤ 0xdf then some .oneLeft
  else if b = 0xe0 then some .afterE0
  else if b = 0xed then some .afterED
  else if 0xe1 ≤ b ∧ b ≤ 0xef then some .twoLeft
  else if b = 0xf0 then some .afterF0
  else if 0xf1 ≤ b ∧ b ≤ 0xf3 then some .threeLeft
  else if b = 0xf4 then some .afterF4
  else none

/-- One byte further, or nothing where the byte does not fit. -/
def step : State → UInt8 → Option State
  | .start, b => lead b
  | .oneLeft, b => within 0x80 0xbf b .start
  | .twoLeft, b => within 0x80 0xbf b .oneLeft
  | .threeLeft, b => within 0x80 0xbf b .twoLeft
  | .afterE0, b => within 0xa0 0xbf b .oneLeft
  | .afterED, b => within 0x80 0x9f b .oneLeft
  | .afterF0, b => within 0x90 0xbf b .twoLeft
  | .afterF4, b => within 0x80 0x8f b .twoLeft

/-- The bytes lead from `state` back to the border between two characters. -/
def accepts : State → Bytes → Bool
  | state, [] => state = .start
  | state, b :: rest =>
      match step state b with
      | some next => accepts next rest
      | none => false

/-- A sequence of complete characters. -/
def isValid (text : Bytes) : Bool := accepts .start text

inductive Piece where
  | character (bytes : Bytes)
  | broken (bytes : Bytes)
  deriving DecidableEq, Repr

/-- `begun` holds the bytes of the unfinished character, latest first. -/
def piecesFrom : State → Bytes → Bytes → List Piece
  | _, begun, [] => if begun = [] then [] else [.broken begun.reverse]
  | state, begun, b :: rest =>
      match step state b with
      | some .start => .character (b :: begun).reverse :: piecesFrom .start [] rest
      | some next => piecesFrom next (b :: begun) rest
      | none =>
          let fresh := match lead b with
            | some .start => .character [b] :: piecesFrom .start [] rest
            | some next => piecesFrom next [b] rest
            | none => .broken [b] :: piecesFrom .start [] rest
          if begun = [] then fresh else .broken begun.reverse :: fresh

/-- The characters and broken pieces of a byte string, in order. -/
def pieces (text : Bytes) : List Piece := piecesFrom .start [] text

/-- The character that stands for what cannot be read, U+FFFD. -/
def replacement : Bytes := [0xef, 0xbf, 0xbd]

/-- A piece as text: characters as they are, a broken piece replaced. -/
def Piece.shown : Piece → Bytes
  | .character bytes => bytes
  | .broken _ => replacement

/-- The text with one replacement character for each broken piece. -/
def lossy (text : Bytes) : Bytes := (pieces text).flatMap Piece.shown

/-- The number of a complete character. -/
def codePoint : Bytes → Nat
  | [a] => a.toNat
  | [a, b] => (a.toNat % 0x20) * 0x40 + b.toNat % 0x40
  | [a, b, c] => ((a.toNat % 0x10) * 0x40 + b.toNat % 0x40) * 0x40 + c.toNat % 0x40
  | [a, b, c, d] =>
      (((a.toNat % 0x08) * 0x40 + b.toNat % 0x40) * 0x40 + c.toNat % 0x40) * 0x40 + d.toNat % 0x40
  | _ => 0

/-- The characters of a text, one replacement character for each broken piece. -/
def characters (text : Bytes) : List Char :=
  (pieces text).map fun
    | .character bytes => Char.ofNat (codePoint bytes)
    | .broken _ => Char.ofNat (codePoint replacement)

end BrainfuckCompiler.Utf8
