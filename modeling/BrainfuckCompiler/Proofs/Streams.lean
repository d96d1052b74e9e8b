import BrainfuckCompiler.Emission

/-!
# What an emission leaves on streams that fail

An emission hands its text to the sink in many small pieces, and the sink can
run full inside any of them. `Emit.Writes` says in one statement what such an
emission amounts to on any sink: the pieces it would write and how it would end if
all of them were taken. It composes along the pieces, so that nothing below a single
write has to be looked at twice.

What becomes of the pieces is a matter of the sink alone. A sink without a buffer is
left with the part of the text that fits, which is what `Emit.Offers` says. A buffer in
front of a sink only delays the bytes: no attempt moves the limit of the sink, one that
succeeds loses nothing, and one that fails has met the limit. That is what `Sink.Passed`
says, and it leaves the same part of the text in the sink. What a buffer can change is the
failure that is reported, when the emission fails by itself before the limit shows.

The failing reader needs no rule of its own: it is an emission that ends with the
fault of the reader after the groups of the delivered bytes.
-/
namespace BrainfuckCompiler

namespace Limit

/-- Where a text meets the limit, if it does. -/
def met (limit : Limit) (text : Bytes) : Limit := limit.filter fun (count, _) => count < text.length

/-- The part of a text within the limit. -/
def cut : Limit → Bytes → Bytes
  | none, text => text
  | some (count, _), text => text.take count

variable {limit : Limit} {count : Nat} {refusal : Fault} {text : Bytes}

theorem met_eq_some_iff :
    limit.met text = some (count, refusal) ↔ limit = some (count, refusal) ∧ count < text.length := by
  simp [met, Option.filter_eq_some_iff]

theorem met_eq_none_iff : limit.met text = none ↔ limit.cut text = text := by
  rcases limit with _ | ⟨count, refusal⟩
  · simp [met, cut]
  · have hmet : met (some (count, refusal)) text = none ↔ text.length ≤ count := by
      simp [met, Option.filter_some]
    rw [hmet]
    constructor
    · exact List.take_of_length_le
    · intro htake
      rw [← htake]
      exact List.length_take_le count text

theorem cut_prefix (limit : Limit) (text : Bytes) : limit.cut text <+: text := by
  rcases limit with _ | ⟨count, refusal⟩
  · exact List.prefix_refl text
  · exact List.take_prefix count text

/-- A text that has met the limit meets it at the same byte however it goes on. -/
theorem met_append (h : limit.met text = some (count, refusal)) (more : Bytes) :
    limit.met (text ++ more) = some (count, refusal) ∧ limit.cut (text ++ more) = limit.cut text := by
  obtain ⟨rfl, hlt⟩ := met_eq_some_iff.mp h
  refine ⟨met_eq_some_iff.mpr ⟨rfl, ?_⟩, List.take_append_of_le_length (Nat.le_of_lt hlt)⟩
  rw [List.length_append]
  omega

end Limit

namespace Sink

/-- The sink takes so many more bytes. -/
def Fits (sink : Sink) (count : Nat) : Prop := ∀ room, sink.room = some room → count ≤ room

/-- `after` is what the sink has become by taking all of `text`. -/
structure Took (before after : Sink) (text : Bytes) : Prop where
  direct : after.Direct
  content : after.content = before.content ++ text
  room : after.room = before.room.map (· - text.length)
  refusal : after.refusal = before.refusal

theorem Took.refl {sink : Sink} (h : sink.Direct) : sink.Took sink [] := by
  refine ⟨h, by simp, ?_, rfl⟩
  cases sink.room <;> simp

theorem Took.trans {a b c : Sink} {first second : Bytes} (h : a.Took b first)
    (k : b.Took c second) : a.Took c (first ++ second) := by
  refine ⟨k.direct, ?_, ?_, k.refusal.trans h.refusal⟩
  · rw [k.content, h.content, List.append_assoc]
  · rw [k.room, h.room]
    cases a.room <;> simp [Nat.sub_sub]

/-- What fits after the first part is what fits of the whole. -/
theorem Took.fits {a b : Sink} {text : Bytes} (h : a.Took b text) {count : Nat}
    (hf : a.Fits (text.length + count)) : b.Fits count := by
  intro room hr
  rw [h.room] at hr
  obtain ⟨before, hb, rfl⟩ := Option.map_eq_some_iff.mp hr
  have := hf before hb
  omega

theorem took_accept {sink : Sink} (h : sink.Direct) {bytes : Bytes}
    (hf : sink.Fits bytes.length) :
    (sink.accept bytes).1 = .ok () ∧ sink.Took (sink.accept bytes).2 bytes := by
  cases hr : sink.room with
  | none =>
      have hc := accept_of_unlimited sink bytes hr
      refine ⟨hc.1, direct_accept sink bytes h, hc.2, ?_, ?_⟩ <;> simp [accept, hr]
  | some room =>
      have hle := hf room hr
      refine ⟨by simp [accept, hr, hle], direct_accept sink bytes h, ?_, ?_, ?_⟩
      · rw [content_accept_of_limited sink bytes room hr, List.take_of_length_le hle]
      · simp [accept, hr, hle]
      · simp [accept, hr, hle]

theorem accept_of_lt {sink : Sink} {bytes : Bytes} {room : Nat} (hr : sink.room = some room)
    (hlt : room < bytes.length) :
    (sink.accept bytes).1 = .error sink.refusal ∧
      (sink.accept bytes).2.content = sink.content ++ bytes.take room := by
  refine ⟨?_, content_accept_of_limited sink bytes room hr⟩
  simp [accept, hr, Nat.not_le.mpr hlt]

/-- Writes fragments one after the other, up to the first failure. -/
def writeAll (sink : Sink) : List Bytes → Except Fault Unit × Sink
  | [] => (.ok (), sink)
  | fragment :: rest =>
      match sink.write fragment with
      | (.ok _, after) => after.writeAll rest
      | (.error fault, after) => (.error fault, after)

theorem writeAll_append (sink : Sink) (first second : List Bytes) :
    sink.writeAll (first ++ second) =
      match sink.writeAll first with
      | (.ok _, after) => after.writeAll second
      | (.error fault, after) => (.error fault, after) := by
  induction first generalizing sink with
  | nil => rfl
  | cons fragment rest ih =>
      simp only [List.cons_append, writeAll]
      rcases sink.write fragment with ⟨_ | _, after⟩
      · rfl
      · exact ih after

theorem took_writeAll {sink : Sink} (h : sink.Direct) {fragments : List Bytes}
    (hf : sink.Fits fragments.flatten.length) :
    (sink.writeAll fragments).1 = .ok () ∧
      sink.Took (sink.writeAll fragments).2 fragments.flatten := by
  induction fragments generalizing sink with
  | nil => exact ⟨rfl, .refl h⟩
  | cons fragment rest ih =>
      rw [List.flatten_cons, List.length_append] at hf
      have hwrite := took_accept h fun room hr => Nat.le_trans (Nat.le_add_right _ _) (hf room hr)
      rw [← write_of_direct sink fragment h] at hwrite
      rcases hs : sink.write fragment with ⟨result, after⟩
      rw [hs] at hwrite
      obtain ⟨rfl, took⟩ := hwrite
      obtain ⟨hresult, took'⟩ := ih took.direct (took.fits hf)
      simp only [writeAll, hs, List.flatten_cons]
      exact ⟨hresult, took.trans took'⟩

theorem writeAll_of_lt {sink : Sink} (h : sink.Direct) {fragments : List Bytes} {room : Nat}
    (hroom : sink.room = some room) (hlt : room < fragments.flatten.length) :
    (sink.writeAll fragments).1 = .error sink.refusal ∧
      (sink.writeAll fragments).2.content = sink.content ++ fragments.flatten.take room := by
  induction fragments generalizing sink room with
  | nil => exact absurd hlt (Nat.not_lt_zero _)
  | cons fragment rest ih =>
      rw [List.flatten_cons, List.length_append] at hlt
      have hs := write_of_direct sink fragment h
      simp only [writeAll, List.flatten_cons, hs]
      by_cases hle : fragment.length ≤ room
      · -- This fragment fits, so the sink runs full in a later one.
        obtain ⟨hresult, took⟩ := took_accept h fun r hr => by
          rw [hroom, Option.some.injEq] at hr
          exact hr ▸ hle
        rcases ha : sink.accept fragment with ⟨result, after⟩
        rw [ha] at hresult took
        obtain rfl : result = .ok () := hresult
        have hafter : after.room = some (room - fragment.length) := by
          rw [took.room, hroom, Option.map_some]
        obtain ⟨hrefused, hcontent⟩ := ih took.direct hafter (by omega)
        refine ⟨hrefused.trans (congrArg _ took.refusal), ?_⟩
        rw [hcontent, took.content, List.take_append, List.take_of_length_le hle,
          List.append_assoc]
      · obtain ⟨hresult, hcontent⟩ := accept_of_lt hroom (Nat.not_le.mp hle)
        rcases ha : sink.accept fragment with ⟨result, after⟩
        rw [ha] at hresult hcontent
        obtain rfl : result = _ := hresult
        refine ⟨rfl, ?_⟩
        rw [hcontent, List.take_append_of_le_length (by omega)]

/-- What was taken and what still waits. -/
def total (sink : Sink) : Bytes := sink.content ++ sink.waiting.reverse.flatten

/-- The buffer in front of the sink knows how many bytes wait in it. -/
def Counted (sink : Sink) : Prop := sink.filled = sink.waiting.reverse.flatten.length

/-- Where the sink stops, counted from its first byte. -/
def limit (sink : Sink) : Limit := sink.room.map fun room => (sink.content.length + room, sink.refusal)

/-- What was taken keeps within the limit. -/
theorem cut_content (sink : Sink) : sink.limit.cut sink.content = sink.content := by
  unfold limit
  cases sink.room with
  | none => rfl
  | some room => exact List.take_of_length_le (Nat.le_add_right _ _)

theorem limit_accept (sink : Sink) (bytes : Bytes) : (sink.accept bytes).2.limit = sink.limit := by
  unfold accept
  cases hroom : sink.room with
  | none => simp [limit, hroom]
  | some room =>
      dsimp only
      split
      · next hle =>
        simp [limit, hroom, content]
        omega
      · next hgt =>
        simp [limit, hroom, content]
        omega

/-- What has become of a sink that failed at a text: it is full, and nothing waits any more. -/
structure Overran (limit : Limit) (text : Bytes) (fault : Fault) (after : Sink) : Prop where
  met : ∃ count, limit.met text = some (count, fault)
  content : after.content = limit.cut text
  empty : after.waiting.reverse.flatten = []

theorem Overran.append {limit : Limit} {text : Bytes} {fault : Fault} {after : Sink}
    (h : Overran limit text fault after) (more : Bytes) :
    Overran limit (text ++ more) fault after := by
  obtain ⟨count, hmet⟩ := h.met
  obtain ⟨hmet, hcut⟩ := Limit.met_append hmet more
  exact ⟨⟨count, hmet⟩, h.content.trans hcut.symm, h.empty⟩

/-- What an attempt to write some bytes makes of a sink, buffer and all. If it succeeds then
no byte is lost, and if it fails then the sink is full. -/
structure Passed (before : Sink) (bytes : Bytes) (attempt : Except Fault Unit × Sink) : Prop where
  counted : attempt.2.Counted
  limit : attempt.2.limit = before.limit
  total : attempt.1 = .ok () → attempt.2.total = before.total ++ bytes
  overran : ∀ fault, attempt.1 = .error fault →
    Overran before.limit (before.total ++ bytes) fault attempt.2

theorem Passed.nil {sink : Sink} (h : sink.Counted) : sink.Passed [] (.ok (), sink) :=
  ⟨h, rfl, fun _ => (List.append_nil _).symm, nofun⟩

theorem Passed.trans {sink : Sink} {first second : Bytes} {middle last : Sink}
    {result : Except Fault Unit} (h : sink.Passed first (.ok (), middle))
    (k : middle.Passed second (result, last)) : sink.Passed (first ++ second) (result, last) := by
  have hmiddle := h.total rfl
  refine ⟨k.counted, k.limit.trans h.limit, ?_, ?_⟩
  · intro hok
    rw [k.total hok, hmiddle, List.append_assoc]
  · intro fault hfault
    have overran := k.overran fault hfault
    rwa [h.limit, hmiddle, List.append_assoc] at overran

theorem Passed.error {sink last : Sink} {bytes : Bytes} {fault : Fault}
    (h : sink.Passed bytes (.error fault, last)) (more : Bytes) :
    sink.Passed (bytes ++ more) (.error fault, last) := by
  refine ⟨h.counted, h.limit, nofun, ?_⟩
  rintro _ ⟨⟩
  rw [← List.append_assoc]
  exact (h.overran fault rfl).append more

theorem waiting_accept (sink : Sink) (bytes : Bytes) :
    (sink.accept bytes).2.waiting = sink.waiting := by
  unfold accept
  split
  · rfl
  · split
    · rfl
    · rfl

theorem counted_accept {sink : Sink} (h : sink.Counted) (bytes : Bytes) :
    (sink.accept bytes).2.Counted := by
  unfold accept
  split
  · exact h
  · split
    · exact h
    · exact h

/-- Bytes can go past the buffer only if nothing waits in it. -/
theorem passed_accept {sink : Sink} (h : sink.Counted) (hw : sink.waiting.reverse.flatten = [])
    (bytes : Bytes) : sink.Passed bytes (sink.accept bytes) := by
  have hwaiting : (sink.accept bytes).2.waiting.reverse.flatten = [] := by
    rw [waiting_accept, hw]
  refine ⟨counted_accept h bytes, limit_accept sink bytes, ?_, ?_⟩
  · intro hok
    rw [total, total, hw, hwaiting, List.append_nil, List.append_nil]
    cases hroom : sink.room with
    | none => exact (accept_of_unlimited sink bytes hroom).2
    | some room =>
        have hle : ¬ room < bytes.length := by
          intro hlt
          cases (accept_of_lt hroom hlt).1.symm.trans hok
        rw [content_accept_of_limited sink bytes room hroom, List.take_of_length_le (by omega)]
  · intro fault hfault
    cases hroom : sink.room with
    | none => cases (accept_of_unlimited sink bytes hroom).1.symm.trans hfault
    | some room =>
        have hlt : room < bytes.length := by
          apply Nat.lt_of_not_le
          intro hle
          simp [accept, hroom, hle] at hfault
        obtain ⟨hrefused, hcontent⟩ := accept_of_lt hroom hlt
        have hlimit : sink.limit = some (sink.content.length + room, sink.refusal) := by
          rw [limit, hroom, Option.map_some]
        cases hrefused.symm.trans hfault
        rw [total, hw, List.append_nil]
        refine ⟨⟨_, Limit.met_eq_some_iff.mpr ⟨hlimit, ?_⟩⟩, ?_, hwaiting⟩
        · rw [List.length_append]
          omega
        · rw [hcontent, hlimit, Limit.cut, List.take_length_add_append]

theorem passed_hold {sink : Sink} (h : sink.Counted) (bytes : Bytes) :
    sink.Passed bytes (.ok (), sink.hold bytes) := by
  have hfilled : sink.filled = sink.waiting.reverse.flatten.length := h
  refine ⟨?_, rfl, ?_, nofun⟩
  · simp [Counted, hold, hfilled]
  · intro _
    simp [hold, total, content]

theorem waiting_flush (sink : Sink) : sink.flush.2.waiting = [] := by
  unfold flush
  split
  · next hw => exact hw
  · exact waiting_accept _ _

/-- Once nothing waits any more, a second flush changes nothing. -/
theorem flush_flush (sink : Sink) : sink.flush.2.flush = (.ok (), sink.flush.2) :=
  if_pos (waiting_flush sink)

theorem passed_flush {sink : Sink} (h : sink.Counted) : sink.Passed [] sink.flush := by
  unfold flush
  split
  · exact .nil h
  · let emptied : Sink := { sink with waiting := [], filled := 0 }
    have hcounted : emptied.Counted := rfl
    have passed := passed_accept hcounted rfl sink.waiting.reverse.flatten
    have hall : emptied.total ++ sink.waiting.reverse.flatten = sink.total ++ [] := by
      simp [total, content, emptied]
    refine ⟨passed.counted, passed.limit, ?_, ?_⟩
    · intro hok
      rw [passed.total hok, hall]
    · intro fault hfault
      rw [← hall]
      exact passed.overran fault hfault

theorem content_of_flush_ok {sink : Sink} (h : sink.Counted) (hok : sink.flush.1 = .ok ()) :
    sink.flush.2.content = sink.total := by
  have htotal := (passed_flush h).total hok
  simpa [total, waiting_flush sink] using htotal

theorem met_of_flush_ok {sink : Sink} (h : sink.Counted) (hok : sink.flush.1 = .ok ()) :
    sink.limit.met sink.total = none := by
  rw [Limit.met_eq_none_iff, ← content_of_flush_ok h hok, ← (passed_flush h).limit, cut_content]

/-- A flush leaves what the sink takes of all that it was given. -/
theorem content_flush {sink : Sink} (h : sink.Counted) :
    sink.flush.2.content = sink.limit.cut sink.total := by
  cases hflush : sink.flush.1 with
  | ok _ =>
      rw [content_of_flush_ok h hflush]
      exact (Limit.met_eq_none_iff.mp (met_of_flush_ok h hflush)).symm
  | error fault =>
      have overran := (passed_flush h).overran fault hflush
      rw [List.append_nil] at overran
      exact overran.content

theorem passed_write {sink : Sink} (h : sink.Counted) (bytes : Bytes) :
    sink.Passed bytes (sink.write bytes) := by
  have hfilled : sink.filled = sink.waiting.reverse.flatten.length := h
  unfold write
  by_cases hover : sink.capacity < sink.filled + bytes.length
  · have passed := passed_flush h
    have hempty := waiting_flush sink
    rw [if_pos hover]
    rcases hf : sink.flush with ⟨result, flushed⟩
    rw [hf] at passed hempty
    dsimp only at hempty ⊢
    cases result with
    | error fault => exact passed.error bytes
    | ok _ =>
        dsimp only
        split
        · exact passed.trans (passed_accept passed.counted (by rw [hempty]; rfl) bytes)
        · exact passed.trans (passed_hold passed.counted bytes)
  · simp only [if_neg hover]
    split
    · next hc =>
      -- The bytes fill the buffer alone and still fit, so nothing waits there.
      have hnone : sink.waiting.reverse.flatten.length = 0 := by
        rw [← hfilled]
        omega
      exact passed_accept h (List.eq_nil_of_length_eq_zero hnone) bytes
    · exact passed_hold h bytes

theorem passed_writeAll {sink : Sink} (h : sink.Counted) (fragments : List Bytes) :
    sink.Passed fragments.flatten (sink.writeAll fragments) := by
  induction fragments generalizing sink with
  | nil => exact .nil h
  | cons fragment rest ih =>
      have passed := passed_write h fragment
      rcases hs : sink.write fragment with ⟨result, after⟩
      rw [hs] at passed
      simp only [writeAll, hs, List.flatten_cons]
      cases result with
      | error fault => exact passed.error rest.flatten
      | ok _ => exact passed.trans (ih passed.counted)

/-- Whether all attempts have succeeded or one has failed, a flush leaves the part of the text
that the sink takes. -/
theorem content_writeAll_flush {sink : Sink} (h : sink.Counted) (fragments : List Bytes) :
    (sink.writeAll fragments).2.flush.2.content =
      sink.limit.cut (sink.total ++ fragments.flatten) := by
  have passed := passed_writeAll h fragments
  rw [content_flush passed.counted, passed.limit]
  cases hw : (sink.writeAll fragments).1 with
  | ok _ => rw [passed.total hw]
  | error fault =>
      have overran := passed.overran fault hw
      rw [total, overran.empty, List.append_nil, ← overran.content, ← passed.limit, cut_content]

end Sink

namespace Emit
variable {α β : Type}

/-- Whatever the sink, the emission writes these fragments and ends with `outcome` unless a
write fails. -/
def Writes (emission : Emit α) (fragments : List Bytes) (outcome : Except Fault α) : Prop :=
  ∀ channel : Channel,
    (emission channel).1 = ((channel.sink.writeAll fragments).1 >>= fun _ => outcome) ∧
      (emission channel).2.sink = (channel.sink.writeAll fragments).2

theorem bind_apply (emission : Emit α) (next : α → Emit β) (channel : Channel) :
    (emission >>= next) channel =
      match emission channel with
      | (.ok a, after) => next a after
      | (.error fault, after) => (.error fault, after) := by
  change (match emission channel with | (r, after) => ExceptT.bindCont next r after) = _
  rcases emission channel with ⟨_ | _, after⟩ <;> rfl

/-- An emission that leaves the sink alone writes nothing. -/
theorem writes_nil {emission : Emit α} {outcome : Except Fault α}
    (h : ∀ channel, (emission channel).1 = outcome ∧ (emission channel).2.sink = channel.sink) :
    Writes emission [] outcome :=
  h

theorem writes_pure (a : α) : Writes (pure a : Emit α) [] (.ok a) :=
  writes_nil fun _ => ⟨rfl, rfl⟩

theorem writes_throw (fault : Fault) : Writes (throw fault : Emit α) [] (.error fault) :=
  writes_nil fun _ => ⟨rfl, rfl⟩

theorem writes_record (event : Event) : Writes (record event) [] (.ok ()) :=
  writes_nil fun _ => ⟨rfl, rfl⟩

theorem Writes.bind {emission : Emit α} {next : α → Emit β} {first second : List Bytes} {a : α}
    {outcome : Except Fault β} (he : Writes emission first (.ok a))
    (hn : Writes (next a) second outcome) :
    Writes (emission >>= next) (first ++ second) outcome := by
  intro channel
  obtain ⟨hresult, hsink⟩ := he channel
  rw [bind_apply, Sink.writeAll_append]
  rcases hr : emission channel with ⟨result, after⟩
  rcases hw : channel.sink.writeAll first with ⟨written, sink⟩
  rw [hr, hw] at hresult hsink
  obtain rfl : after.sink = sink := hsink
  cases written with
  | error fault =>
      obtain rfl : result = .error fault := hresult
      exact ⟨rfl, rfl⟩
  | ok _ =>
      obtain rfl : result = .ok a := hresult
      exact hn after

theorem Writes.bind_error {emission : Emit α} {next : α → Emit β} {fragments : List Bytes}
    {fault : Fault} (he : Writes emission fragments (.error fault)) :
    Writes (emission >>= next) fragments (.error fault) := by
  intro channel
  obtain ⟨hresult, hsink⟩ := he channel
  rw [bind_apply]
  rcases hr : emission channel with ⟨result, after⟩
  rcases hw : channel.sink.writeAll fragments with ⟨written, sink⟩
  rw [hr, hw] at hresult hsink
  cases written with
  | error other =>
      obtain rfl : result = .error other := hresult
      exact ⟨rfl, hsink⟩
  | ok _ =>
      obtain rfl : result = .error fault := hresult
      exact ⟨rfl, hsink⟩

theorem writes_writeAll (fragments : List Bytes) :
    Writes (writeAll fragments) fragments (.ok ()) := by
  intro channel
  have written : writeAll fragments channel = ((channel.sink.writeAll fragments).1,
      { channel with sink := (channel.sink.writeAll fragments).2 }) := by
    induction fragments generalizing channel with
    | nil => rfl
    | cons fragment rest ih =>
        rw [writeAll, bind_apply, Sink.writeAll]
        rcases hs : channel.sink.write fragment with ⟨_ | _, after⟩
        · simp [write, hs]
        · simp [write, hs, ih]
  rw [written]
  rcases channel.sink.writeAll fragments with ⟨_ | _, after⟩
  · exact ⟨rfl, rfl⟩
  · exact ⟨rfl, rfl⟩

/-- The emission, and after it whatever still waits. -/
def flushed (emission : Emit α) : Emit α := do
  let a ← emission
  flush
  return a

theorem flushed_apply (emission : Emit α) (channel : Channel) :
    (flushed emission).run.run channel =
      match emission channel with
      | (.error fault, after) => (.error fault, after)
      | (.ok a, after) =>
          (after.sink.flush.1.map fun _ => a, { after with sink := after.sink.flush.2 }) := by
  change (emission >>= _) channel = _
  rw [bind_apply]
  rcases emission channel with ⟨_ | a, after⟩
  · rfl
  · dsimp only
    rw [bind_apply, flush]
    rcases after.sink.flush with ⟨_ | _, emptied⟩
    · rfl
    · rfl

/-- How an emission of a text ends on a sink: by itself, though not with success if the text is
too long for the sink, or because the sink refuses. -/
inductive Ends (sink : Sink) (text : Bytes) (outcome : Except Fault α) : Except Fault α → Prop
  | itself (fits : ∀ a, outcome = .ok a → sink.limit.met text = none) :
      Ends sink text outcome outcome
  | refused {count : Nat} {refusal : Fault} (stops : sink.limit.met text = some (count, refusal)) :
      Ends sink text outcome (.error refusal)

/-- A text that fits does not change how the emission ends. -/
theorem Ends.eq_of_fits {sink : Sink} {text : Bytes} {outcome result : Except Fault α}
    (h : Ends sink text outcome result) (fits : sink.limit.met text = none) : result = outcome := by
  cases h with
  | itself => rfl
  | refused stops => cases fits.symm.trans stops

theorem Ends.of_ok {sink : Sink} {text : Bytes} {outcome : Except Fault α} {a : α}
    (h : Ends sink text outcome (.ok a)) : outcome = .ok a ∧ sink.limit.met text = none := by
  cases h with
  | itself fits => exact ⟨rfl, fits a rfl⟩

/-- How an emission ends with what waits flushed after it, and what the sink holds once even a
failed one has handed over what it could. -/
theorem Writes.flushed {emission : Emit α} {fragments : List Bytes} {outcome : Except Fault α}
    (h : Writes emission fragments outcome) {channel : Channel} (hcounted : channel.sink.Counted) :
    let text := channel.sink.total ++ fragments.flatten
    let ended := (flushed emission).run.run channel
    Ends channel.sink text outcome ended.1 ∧
      ended.2.sink.flush.2.content = channel.sink.limit.cut text := by
  obtain ⟨hresult, hsink⟩ := h channel
  have passed := Sink.passed_writeAll hcounted fragments
  have hcontent := Sink.content_writeAll_flush hcounted fragments
  rw [flushed_apply]
  rcases hr : emission channel with ⟨result, after⟩
  rcases hw : channel.sink.writeAll fragments with ⟨written, sink⟩
  rw [hr, hw] at hresult hsink
  rw [hw] at passed hcontent
  obtain rfl : after.sink = sink := hsink
  cases written with
  | error fault =>
      obtain rfl : result = .error fault := hresult
      obtain ⟨count, hmet⟩ := (passed.overran fault rfl).met
      exact ⟨.refused hmet, hcontent⟩
  | ok _ =>
      obtain rfl : result = outcome := hresult
      cases result with
      | error fault => exact ⟨.itself nofun, hcontent⟩
      | ok a =>
          dsimp only
          rw [Sink.flush_flush]
          refine ⟨?_, hcontent⟩
          have htotal := passed.total rfl
          have hlimit : after.sink.limit = channel.sink.limit := passed.limit
          cases hflush : after.sink.flush.1 with
          | error fault =>
              obtain ⟨count, hmet⟩ := ((Sink.passed_flush passed.counted).overran fault hflush).met
              rw [List.append_nil, htotal] at hmet
              exact .refused (hlimit ▸ hmet)
          | ok _ =>
              have hmet := Sink.met_of_flush_ok passed.counted hflush
              rw [htotal] at hmet
              exact .itself fun _ _ => hlimit ▸ hmet

/-- The emission would write `text` and end with `outcome`. A sink that has room
for the text takes all of it. Any other sink takes what fits and ends the emission
with its refusal. -/
def Offers (emission : Emit α) (text : Bytes) (outcome : Except Fault α) : Prop :=
  ∀ channel : Channel, channel.sink.Direct →
    (channel.sink.Fits text.length →
      (emission channel).1 = outcome ∧ channel.sink.Took (emission channel).2.sink text) ∧
    ∀ room, channel.sink.room = some room → room < text.length →
      (emission channel).1 = .error channel.sink.refusal ∧
        (emission channel).2.sink.content = channel.sink.content ++ text.take room

theorem Writes.offers {emission : Emit α} {fragments : List Bytes} {outcome : Except Fault α}
    (h : Writes emission fragments outcome) : Offers emission fragments.flatten outcome := by
  intro channel hd
  obtain ⟨hresult, hsink⟩ := h channel
  rw [hresult, hsink]
  constructor
  · intro hf
    obtain ⟨hok, took⟩ := Sink.took_writeAll hd hf
    rw [hok]
    exact ⟨rfl, took⟩
  · intro room hroom hlt
    obtain ⟨hrefused, hcontent⟩ := Sink.writeAll_of_lt hd hroom hlt
    rw [hrefused]
    exact ⟨rfl, hcontent⟩

/-- All that an emission leaves on a sink that never fails. -/
def written (emission : Emit α) : Bytes := (emission.run.run {}).2.sink.content

theorem Offers.written {emission : Emit α} {text : Bytes} {outcome : Except Fault α}
    (h : Offers emission text outcome) : emission.written = text := by
  have hd : ({} : Channel).sink.Direct := ⟨rfl, rfl⟩
  exact ((h {} hd).1 fun _ hr => absurd hr (by simp)).2.content

/-- How a run ends that offers `text` to an empty sink with this much room, and
what the sink holds then. -/
def Leaves (room : Option Nat) (refusal : Fault) (text : Bytes) (outcome : Except Fault α)
    (run : Except Fault α × Channel) : Prop :=
  match room with
  | none => run.1 = outcome ∧ run.2.sink.content = text
  | some count =>
      if count < text.length then run.1 = .error refusal ∧ run.2.sink.content = text.take count
      else run.1 = outcome ∧ run.2.sink.content = text

theorem Offers.leaves {emission : Emit α} {text : Bytes} {outcome : Except Fault α}
    (h : Offers emission text outcome) (room : Option Nat) (refusal : Fault) :
    Leaves room refusal text outcome
      (emission.run.run { sink := { room := room, refusal := refusal } }) := by
  let start : Channel := { sink := { room := room, refusal := refusal } }
  have hd : start.sink.Direct := ⟨rfl, rfl⟩
  obtain ⟨fits, full⟩ := h start hd
  have taken (hf : start.sink.Fits text.length) : (emission start).1 = outcome ∧
      (emission start).2.sink.content = text := by
    obtain ⟨hresult, took⟩ := fits hf
    exact ⟨hresult, took.content⟩
  unfold Leaves
  split
  · exact taken fun _ hr => absurd hr (by simp [start])
  · next count =>
    split
    · next hlt => exact full count rfl hlt
    · next hge =>
      refine taken fun r hr => ?_
      obtain rfl : count = r := by simpa [start] using hr
      omega

end Emit

end BrainfuckCompiler
