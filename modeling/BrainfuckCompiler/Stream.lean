import BrainfuckCompiler.Fault
import BrainfuckCompiler.Journal

/-!
# Streams that can fail

A sink takes bytes until it has no room left; the write that does not fit
leaves as much as fits and fails. In front of a sink there can be a buffer:
bytes wait in it until it is flushed, so that a failure may show long after the
write that causes it. A reader delivers bytes and then either ends or fails.
`Emit` is a computation that writes to a sink and records events; it stops at
the first failure, and what the sink holds by then stays.
-/
namespace BrainfuckCompiler

structure Sink where
  /-- What was taken, latest first. -/
  taken : List Bytes := []
  /-- How many more bytes are taken; no number means any. -/
  room : Option Nat := none
  /-- What a full sink reports. -/
  refusal : Fault := .nothingAccepted
  /-- How many bytes can wait; zero means that there is no buffer. -/
  capacity : Nat := 0
  /-- What waits, latest first. -/
  waiting : List Bytes := []
  /-- The number of bytes that wait. -/
  filled : Nat := 0
  deriving DecidableEq, Repr

/-- How many bytes a sink takes in all and what it reports then, unless it takes any number. -/
abbrev Limit := Option (Nat × Fault)

namespace Sink

/-- An empty sink with a limit and a buffer. -/
def within : Limit → Nat → Sink
  | none, capacity => { capacity := capacity }
  | some (count, refusal), capacity =>
      { room := some count, refusal := refusal, capacity := capacity }

/-- All bytes the sink has taken. -/
def content (sink : Sink) : Bytes := sink.taken.reverse.flatten

/-- Hands bytes to the sink past the buffer. Writing nothing never fails. -/
def accept (sink : Sink) (bytes : Bytes) : Except Fault Unit × Sink :=
  match sink.room with
  | none => (.ok (), { sink with taken := bytes :: sink.taken })
  | some room =>
      if bytes.length ≤ room then
        (.ok (), { sink with taken := bytes :: sink.taken, room := some (room - bytes.length) })
      else
        (.error sink.refusal, { sink with taken := bytes.take room :: sink.taken, room := some 0 })

/-- Hands over what waits. -/
def flush (sink : Sink) : Except Fault Unit × Sink :=
  if sink.waiting = [] then (.ok (), sink)
  else
    { sink with waiting := [], filled := 0 }.accept sink.waiting.reverse.flatten

/-- Adds bytes to the buffer. -/
def hold (sink : Sink) (bytes : Bytes) : Sink :=
  { sink with waiting := bytes :: sink.waiting, filled := sink.filled + bytes.length }

/-- Writes bytes. What does not fit into the buffer empties it first, and what
would fill it alone does not wait at all. -/
def write (sink : Sink) (bytes : Bytes) : Except Fault Unit × Sink :=
  let (result, ready) :=
    if sink.capacity < sink.filled + bytes.length then sink.flush else (.ok (), sink)
  match result with
  | .error fault => (.error fault, ready)
  | .ok _ => if sink.capacity ≤ bytes.length then ready.accept bytes else (.ok (), ready.hold bytes)

/-- There is no buffer in front of the sink. -/
def Direct (sink : Sink) : Prop := sink.capacity = 0 ∧ sink.waiting = []

/-- Without a buffer a write hands its bytes over at once. -/
theorem write_of_direct (sink : Sink) (bytes : Bytes) (h : sink.Direct) :
    sink.write bytes = sink.accept bytes := by
  simp [write, flush, h.1, h.2]

/-- Handing over bytes leaves the buffer as it is. -/
theorem direct_accept (sink : Sink) (bytes : Bytes) (h : sink.Direct) :
    (sink.accept bytes).2.Direct := by
  obtain ⟨hc, hw⟩ := h
  unfold accept
  split
  · exact ⟨hc, hw⟩
  · split
    · exact ⟨hc, hw⟩
    · exact ⟨hc, hw⟩

/-- A sink without a limit takes every byte. -/
theorem accept_of_unlimited (sink : Sink) (bytes : Bytes) (h : sink.room = none) :
    (sink.accept bytes).1 = .ok () ∧ (sink.accept bytes).2.content = sink.content ++ bytes := by
  simp [accept, h, content]

/-- A sink with a limit takes what fits, whether it then fails or not. -/
theorem content_accept_of_limited (sink : Sink) (bytes : Bytes) (room : Nat)
    (h : sink.room = some room) :
    (sink.accept bytes).2.content = sink.content ++ bytes.take room := by
  by_cases hle : bytes.length ≤ room
  · simp [accept, h, hle, content, List.take_of_length_le hle]
  · simp [accept, h, hle, content]

end Sink

structure Reader where
  delivered : Bytes
  /-- What happens after the last byte, instead of the end. -/
  failure : Option Fault := none
  deriving DecidableEq, Repr

namespace Reader

/-- A reader that fails after at most `count` bytes. -/
def failingAfter (count : Nat) (fault : Fault) (source : Bytes) : Reader :=
  ⟨source.take count, some fault⟩

end Reader

/-- What an emission works on: the sink and the events so far, latest first. -/
structure Channel where
  sink : Sink := {}
  events : List Event := []
  deriving DecidableEq, Repr

abbrev Emit := ExceptT Fault (StateM Channel)

namespace Emit

def write (bytes : Bytes) : Emit Unit := fun channel =>
  let (result, sink) := channel.sink.write bytes
  (result, { channel with sink := sink })

/-- Hands over what still waits in front of the sink. -/
def flush : Emit Unit := fun channel =>
  let (result, sink) := channel.sink.flush
  (result, { channel with sink := sink })

/-- Writes the fragments one after the other. -/
def writeAll : List Bytes → Emit Unit
  | [] => pure ()
  | fragment :: rest => do
      write fragment
      writeAll rest

def record (event : Event) : Emit Unit :=
  modify fun channel => { channel with events := event :: channel.events }

end Emit

end BrainfuckCompiler
