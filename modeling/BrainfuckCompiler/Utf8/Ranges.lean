import BrainfuckCompiler.Bytes

/-!
# Ranges of bytes for ranges of characters

The encodings of the characters from one code point to another are described by
sequences of byte ranges: a sequence stands for all ways to take one byte out of
each of its ranges. A stretch of code points is cut so that every piece has such a
sequence, and the pieces are kept as large as possible.
-/
namespace BrainfuckCompiler

/-- The bytes from `first` to `last`. -/
structure ByteRange where
  first : UInt8
  last : UInt8
  deriving DecidableEq, Repr

namespace Utf8

/-- A byte that continues a character and carries the last six bits of a number. -/
def continuation (bits : Nat) : UInt8 := (0x80 + bits % 0x40).toUInt8

/-- The bytes of a character. -/
def encode (code : Nat) : Bytes :=
  if code < 0x80 then [code.toUInt8]
  else if code < 0x800 then [(0xc0 + code / 0x40).toUInt8, continuation code]
  else if code < 0x10000 then
    [(0xe0 + code / 0x1000).toUInt8, continuation (code / 0x40), continuation code]
  else
    [(0xf0 + code / 0x40000).toUInt8, continuation (code / 0x1000), continuation (code / 0x40),
      continuation code]

/-- The stretches whose characters have encodings of one length. Between the
third and the fourth there are no characters. -/
def stretches : List (Nat × Nat) :=
  [(0, 0x7f), (0x80, 0x7ff), (0x800, 0xd7ff), (0xe000, 0xffff), (0x10000, 0x10ffff)]

/-- Cuts a stretch into what it has of whole blocks, of the block before them and
of the block after them. A stretch inside of one block stays whole. -/
def cut (block : Nat) (stretch : Nat × Nat) : List (Nat × Nat) :=
  let (first, last) := stretch
  if first / block = last / block then [stretch]
  else
    let low := (first + block - 1) / block * block
    let high := (last + 1) / block * block
    (if first < low then [(first, low - 1)] else [])
      ++ (if low < high then [(low, high - 1)] else [])
      ++ (if high ≤ last then [(high, last)] else [])

/-- The pieces of a stretch of characters of one length whose bytes vary
independently of each other. A single byte is not cut. -/
def uniformParts (stretch : Nat × Nat) : List (Nat × Nat) :=
  if stretch.2 < 0x80 then [stretch]
  else ((cut 0x40 stretch).flatMap (cut 0x1000)).flatMap (cut 0x40000)

/-- What the characters from `first` to `last` have of each length. -/
def byLength (first last : Nat) : List (Nat × Nat) :=
  stretches.filterMap fun (low, high) =>
    if max first low ≤ min last high then some (max first low, min last high) else none

/-- The byte ranges of the characters from `first` to `last`, in order. -/
def ranges (first last : Nat) : List (List ByteRange) :=
  ((byLength first last).flatMap uniformParts).map fun (low, high) =>
    (encode low).zipWith ByteRange.mk (encode high)

end Utf8

end BrainfuckCompiler
