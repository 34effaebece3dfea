import TableFeed.Proofs.Delivery.Script
import TableFeed.Proofs.Delivery.Sink

/-!
# Sinks with a limit

Where there is no room for all stretches that a sink is offered, it appends those before the first
one that does not fit, of that one what does fit, and nothing after it (`Sink.writeAll_of_cutAt`).

A run hands the same stretches to every sink.  So a run into a sink with a limit writes the first
bytes of what it would write without one, and fails just when there are more of them
(`Run.complete_of_limit`).
-/

namespace TableFeed

namespace Sink

variable {s : Sink}

/-- Of bytes for which there is too little room, those that fit are written. -/
theorem writeBytes_of_full {data : List UInt8} {limit : Nat} (hlimit : s.capacity = some limit)
    (hfull : limit < s.size + data.length) (hsize : s.size ≤ limit) :
    s.writeBytes data = (.error .full, s.extended [data.take (limit - s.size)]) := by
  have hfitting : s.room.elim data data.take = data.take (limit - s.size) := by
    rw [room, hlimit]
    rfl
  have hshort : (data.take (limit - s.size)).length ≠ data.length := by
    rw [List.length_take]
    omega
  rw [writeBytes, hfitting]
  simp only [if_neg hshort]
  simp [extended]

end Sink

/-! ## Where a limit falls -/

/-- What is written of stretches that are more bytes than a limit: those before the one that crosses
the limit, the part of it below the limit, and nothing after it. -/
inductive CutAt (limit : Nat) : List (List UInt8) → List (List UInt8) → Prop where
  | cut (offered : List (List UInt8)) {data : List UInt8} (skipped : List (List UInt8)) :
      offered.flatten.length ≤ limit → limit < offered.flatten.length + data.length →
      CutAt limit (offered ++ data :: skipped)
        (offered ++ [data.take (limit - offered.flatten.length)])

theorem exists_cutAt {stretches : List (List UInt8)} {limit : Nat}
    (h : limit < stretches.flatten.length) : ∃ written, CutAt limit stretches written := by
  induction stretches generalizing limit with
  | nil => cases h
  | cons first rest ih =>
    rw [List.flatten_cons, List.length_append] at h
    by_cases hcrosses : limit < first.length
    · exact ⟨_, .cut [] rest (Nat.zero_le _) (by simpa using hcrosses)⟩
    · have hrest : limit - first.length < rest.flatten.length := by omega
      obtain ⟨_, hcut⟩ := ih hrest
      cases hcut with
      | @cut offered data skipped hbefore hafter =>
        refine ⟨_, .cut (first :: offered) skipped ?_ ?_⟩
        · rw [List.flatten_cons, List.length_append]
          omega
        · rw [List.flatten_cons, List.length_append]
          omega

/-- The bytes written are the first ones, up to the limit. -/
theorem CutAt.flatten_eq {limit : Nat} {stretches written : List (List UInt8)}
    (h : CutAt limit stretches written) : written.flatten = stretches.flatten.take limit := by
  cases h with
  | @cut offered data skipped hbefore hafter =>
    have hle : limit - offered.flatten.length ≤ data.length := by omega
    rw [List.flatten_append, List.flatten_append, List.take_append,
      List.take_of_length_le hbefore, List.flatten_cons, List.flatten_cons,
      List.take_append_of_le_length hle, List.flatten_nil, List.append_nil]

namespace Sink

variable {s : Sink}

/-- Where there is too little room, the stretches are cut at the limit. -/
theorem writeAll_of_cutAt {stretches written : List (List UInt8)} {limit : Nat}
    (hlimit : s.capacity = some limit) (hsize : s.size ≤ limit)
    (h : CutAt (limit - s.size) stretches written) :
    s.writeAll stretches = (.error .full, s.extended written) := by
  cases h with
  | @cut offered data skipped hbefore hafter =>
    have hroom : s.HasRoom offered.flatten.length := by
      intro other hother
      cases hlimit.symm.trans hother
      omega
    have hdata : (s.extended offered).writeBytes data = (.error .full,
        (s.extended offered).extended [data.take (limit - (s.size + offered.flatten.length))]) := by
      refine writeBytes_of_full hlimit ?_ ?_
      · change limit < s.size + offered.flatten.length + data.length
        omega
      · change s.size + offered.flatten.length ≤ limit
        omega
    rw [writeAll_append, andThen, writeAll_of_room hroom]
    dsimp only
    rw [writeAll, hdata, extended_append, Nat.sub_sub]

end Sink

namespace Run

/-- The stretches of bytes that batches are written in. -/
def stretches (batches : List Batch) : List (List UInt8) :=
  batches.flatMap fun batch => Sink.framed batch.table batch.text

theorem stretches_cons (batch : Batch) (rest : List Batch) :
    stretches (batch :: rest) = Sink.framed batch.table batch.text ++ stretches rest := rfl

theorem handOver_of_ok {batches : List Batch} {sink sink' : Sink}
    (h : sink.writeAll (stretches batches) = (.ok (), sink')) :
    handOver batches sink = (.ok (), sink') := by
  induction batches generalizing sink with
  | nil =>
    cases h
    rfl
  | cons batch rest ih =>
    rw [stretches_cons, Sink.writeAll_append, andThen] at h
    rw [handOver, performAll, andThen, hand, Sink.write]
    rcases hbatch : sink.writeAll (Sink.framed batch.table batch.text) with ⟨_ | _, between⟩
    · rw [hbatch] at h
      cases h
    · rw [hbatch] at h
      exact ih h

/-- The error of a stretch that could not be written is that of its batch. -/
theorem handOver_of_error {batches : List Batch} {sink sink' : Sink} {cause : SinkError}
    (h : sink.writeAll (stretches batches) = (.error cause, sink')) :
    ∃ rows table, handOver batches sink = (.error (.write rows table sink'.id cause), sink') := by
  induction batches generalizing sink with
  | nil => cases h
  | cons batch rest ih =>
    rw [stretches_cons, Sink.writeAll_append, andThen] at h
    rw [handOver, performAll, andThen, hand, Sink.write]
    rcases hbatch : sink.writeAll (Sink.framed batch.table batch.text) with ⟨_ | _, between⟩
    · rw [hbatch] at h
      cases h
      exact ⟨batch.rows, batch.table, rfl⟩
    · rw [hbatch] at h
      exact ih h

/-- Into a sink with a limit a run writes just the first bytes, up to the limit, of those that it
writes into a sink without one.  It fails at the sink just when these are more than the limit.  If
they are not, it ends as it does without the limit.  If they are, the stretches that it writes one
after the other are cut at the limit, so nothing is written after the first that fails. -/
theorem complete_of_limit (connector : Connector) (d : Destination) (flushBytes : Nat)
    (lines : List (Except Text.Utf8.Fault String)) (id : String) (limit : Nat) :
    let free := (start d (.empty id none)).complete connector flushBytes lines
    let limited := (start d (.empty id (some limit))).complete connector flushBytes lines
    limited.2.sink.bytes = free.2.sink.bytes.take limit ∧
    ((∃ rows table sink error, limited.1 = .error (.write rows table sink error)) ↔
      limit < free.2.sink.bytes.length) ∧
    (free.2.sink.bytes.length ≤ limit →
      limited.1 = free.1 ∧ limited.2.sink.chunks = free.2.sink.chunks) ∧
    (limit < free.2.sink.bytes.length →
      CutAt limit free.2.sink.chunks.reverse limited.2.sink.chunks.reverse) := by
  intro free limited
  obtain ⟨batches, result, after, hscript, hresult⟩ :=
    exists_script_complete connector flushBytes lines (start d (.empty id none))
  have hfree : free = (result, { after with
      sink := (Sink.empty id none).extended (stretches batches) }) :=
    hscript.taken (handOver_of_ok (Sink.writeAll_of_room nofun))
  have hchunks : free.2.sink.chunks.reverse = stretches batches := by
    rw [hfree]
    simp [Sink.extended, Sink.empty]
  have hbytes : free.2.sink.bytes = (stretches batches).flatten := by
    rw [Sink.bytes, hchunks]
  rw [hbytes, hchunks]
  by_cases hfits : (stretches batches).flatten.length ≤ limit
  · have hroom : (Sink.empty id (some limit)).HasRoom (stretches batches).flatten.length := by
      rintro _ ⟨⟩
      exact (Nat.zero_add _).symm ▸ hfits
    have hlimited : limited = (result, { after with
        sink := (Sink.empty id (some limit)).extended (stretches batches) }) :=
      hscript.taken (handOver_of_ok (Sink.writeAll_of_room hroom))
    have hnot := Nat.not_lt.2 hfits
    refine ⟨?_, ⟨?_, fun h => absurd h hnot⟩, fun _ => ?_, fun h => absurd h hnot⟩
    · rw [hlimited, Sink.bytes_extended, List.take_of_length_le hfits]
      rfl
    · rintro ⟨rows, table, sink, error, hfailed⟩
      rw [hlimited] at hfailed
      exact absurd hfailed (hresult rows table sink error)
    · rw [hlimited, hfree]
      exact ⟨rfl, rfl⟩
  · have hlt := Nat.lt_of_not_le hfits
    obtain ⟨written, hcut⟩ := exists_cutAt hlt
    have hfull : (Sink.empty id (some limit)).writeAll (stretches batches) =
        (.error .full, (Sink.empty id (some limit)).extended written) :=
      Sink.writeAll_of_cutAt rfl (Nat.zero_le limit) hcut
    obtain ⟨rows, table, hhanded⟩ := handOver_of_error hfull
    obtain ⟨hfailed, hsink⟩ := hscript.refused hhanded
    have hwritten : limited.2.sink.chunks.reverse = written := by
      have hlimited : limited.2.sink = (Sink.empty id (some limit)).extended written := hsink
      rw [hlimited]
      simp [Sink.extended, Sink.empty]
    refine ⟨?_, ⟨fun _ => hlt, fun _ => ⟨rows, table, _, _, hfailed⟩⟩, fun h => absurd h hfits,
      fun _ => hwritten ▸ hcut⟩
    rw [Sink.bytes, hwritten, hcut.flatten_eq]

end Run

end TableFeed
