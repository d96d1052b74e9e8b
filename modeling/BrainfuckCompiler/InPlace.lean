import BrainfuckCompiler.Program
import BrainfuckCompiler.Stream

/-!
# A source that is its own output

When the output denotes the source itself, creating the output empties the
source, and from then on the reader sees what has been written. Writing goes
through a buffer, so that nothing shows before the buffer is full: as long as
the preamble fits into the buffer, the source reads as an empty program.

Past that the reader meets the beginning of the generated text. That text holds
operators, which generate more text. Reading ends when it catches up with what
has reached the file. Once it is past the text that the preamble generates it
never will: from there on every line generates more than itself, and the storage
runs full.
-/
namespace BrainfuckCompiler.InPlace

/-- The size of the buffers on both sides. -/
def capacity : Nat := 8192

/-- Bytes that have reached the file and are still to be read. -/
structure Unread where
  front : Bytes := []
  /-- What comes after the front, latest first. -/
  back : List Bytes := []

namespace Unread

/-- The bytes as one string. -/
def content (unread : Unread) : Bytes := unread.front ++ unread.back.reverse.flatten

/-- Everything in front, if there is less than a block there. -/
def gather (unread : Unread) : Unread :=
  if (unread.front.take capacity).length < capacity then ⟨unread.content, []⟩ else unread

/-- The next block, which is empty only if nothing is left. -/
def block (unread : Unread) : Bytes := unread.gather.front.take capacity

/-- What is left after the next block. -/
def rest (unread : Unread) : Unread :=
  { unread.gather with front := unread.gather.front.drop capacity }

end Unread

/-- The pieces written for a block of source. -/
def pieces (settings : Settings) (block : Bytes) : List Bytes :=
  (operators block).flatMap (Operator.fragments settings)

/-- The file after some more pieces, and what has reached it in the meantime. -/
def store (file : Sink) (fragments : List Bytes) : Sink × List Bytes :=
  let after := fragments.foldl (fun sink piece => (sink.write piece).2) { file with taken := [] }
  (after, after.taken)

/-- Reads blocks until nothing is left, or until more than `limit` bytes have
been read; `count` is their number so far, and `seen` holds the earlier blocks,
latest first. -/
def readBlocks (settings : Settings) (limit : Nat) (file : Sink) (unread : Unread) (count : Nat)
    (seen : List Bytes) : Reader :=
  if _ : unread.block = [] then ⟨seen.reverse.flatten, none⟩
  else if _ : limit < count then ⟨seen.reverse.flatten, some (.system .noSpace)⟩
  else
    let (after, stored) := store file (pieces settings unread.block)
    readBlocks settings limit after { unread.rest with back := stored ++ unread.rest.back }
      (count + unread.block.length) (unread.block :: seen)
termination_by limit + 1 - count
decreasing_by
  have := List.length_pos_iff.mpr ‹¬unread.block = []›
  omega

/-- The reader of a source that is being overwritten. -/
def reader (settings : Settings) : Reader :=
  let (file, stored) := store { capacity := capacity } (Frame.preamble settings)
  let preamble := Program.preamble settings
  let generated := (pieces settings preamble).flatten
  readBlocks settings (preamble.length + generated.length + 2 * capacity) file { back := stored } 0 []

end BrainfuckCompiler.InPlace
