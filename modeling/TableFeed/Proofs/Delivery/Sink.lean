import TableFeed.Delivery.Sink
import TableFeed.Proofs.Except

/-!
# Sinks with room

A sink takes bytes as long as there is room for them, and appends the stretches that it is offered
one after the other (`Sink.writeAll_of_room`).  A sink without a limit has room for everything.  So
it takes every payload, and what it holds afterwards tells which payloads were written for which
tables (`Sink.chunks_afterWrites`).
-/

namespace TableFeed.Sink

variable {s : Sink}

/-! ## Stretches of bytes -/

/-- The sink with stretches of bytes appended. -/
def extended (s : Sink) (stretches : List (List UInt8)) : Sink :=
  { s with
    chunks := stretches.reverse ++ s.chunks
    size := s.size + stretches.flatten.length }

theorem extended_append (s : Sink) (first second : List (List UInt8)) :
    s.extended (first ++ second) = (s.extended first).extended second := by
  simp [extended, Nat.add_assoc]

/-- There is room for a number of bytes. -/
def HasRoom (s : Sink) (count : Nat) : Prop :=
  ∀ limit, s.capacity = some limit → s.size + count ≤ limit

theorem hasRoom_extended {stretches : List (List UInt8)} {count : Nat} :
    (s.extended stretches).HasRoom count ↔ s.HasRoom (stretches.flatten.length + count) := by
  simp only [HasRoom, extended, Nat.add_assoc]

theorem HasRoom.mono {count less : Nat} (h : s.HasRoom count) (hle : less ≤ count) :
    s.HasRoom less :=
  fun limit hlimit => Nat.le_trans (Nat.add_le_add_left hle s.size) (h limit hlimit)

theorem writeBytes_of_room {data : List UInt8} (h : s.HasRoom data.length) :
    s.writeBytes data = (.ok (), s.extended [data]) := by
  have hfitting : s.room.elim data data.take = data := by
    rw [room]
    cases hcapacity : s.capacity with
    | none => rfl
    | some limit =>
      have hle := h limit hcapacity
      have hlength : data.length ≤ limit - s.size := by omega
      exact List.take_of_length_le hlength
  rw [writeBytes, hfitting]
  simp [extended]

/-- Stretches for which there is room are all written. -/
theorem writeAll_of_room {stretches : List (List UInt8)}
    (h : s.HasRoom stretches.flatten.length) :
    s.writeAll stretches = (.ok (), s.extended stretches) := by
  induction stretches generalizing s with
  | nil => rfl
  | cons data rest ih =>
    rw [List.flatten_cons, List.length_append] at h
    have hdata := writeBytes_of_room (h.mono (Nat.le_add_right _ _))
    have hrest : (s.extended [data]).HasRoom rest.flatten.length := by
      rw [hasRoom_extended]
      simpa using h
    simp only [writeAll, hdata]
    rw [ih hrest, ← extended_append, List.singleton_append]

theorem bytes_extended (s : Sink) (stretches : List (List UInt8)) :
    (s.extended stretches).bytes = s.bytes ++ stretches.flatten := by
  simp [bytes, extended]

theorem writeAll_eq (stretches : List (List UInt8)) (s : Sink) :
    s.writeAll stretches = performAll writeBytes stretches s := by
  induction stretches generalizing s with
  | nil => rfl
  | cons data rest ih =>
    simp only [writeAll, performAll, andThen]
    rcases s.writeBytes data with ⟨_ | _, s'⟩
    · rfl
    · exact ih s'

theorem writeAll_append (first second : List (List UInt8)) (s : Sink) :
    s.writeAll (first ++ second) = andThen (writeAll first) (writeAll second) s := by
  rw [writeAll_eq, performAll_append, ← funext (writeAll_eq first), ← funext (writeAll_eq second)]

/-! ## Payloads without a limit -/

/-- The sink after payloads for tables were written to it one after the other. -/
def afterWrites (s : Sink) (writes : List (String × String)) : Sink :=
  writes.foldl (fun s payload => (s.write payload.1 payload.2).2) s

theorem afterWrites_append (s : Sink) (first second : List (String × String)) :
    s.afterWrites (first ++ second) = (s.afterWrites first).afterWrites second :=
  List.foldl_append

theorem hasRoom_of_unlimited (h : s.capacity = none) (count : Nat) : s.HasRoom count := by
  intro limit hlimit
  rw [h] at hlimit
  cases hlimit

/-- A sink without limit takes every payload. -/
theorem write_of_unlimited (h : s.capacity = none) (table payload : String) :
    s.write table payload = (.ok (), s.extended (framed table payload)) :=
  writeAll_of_room (hasRoom_of_unlimited h _)

theorem afterWrites_eq (h : s.capacity = none) (writes : List (String × String)) :
    s.afterWrites writes = s.extended (writes.flatMap fun write => framed write.1 write.2) := by
  induction writes generalizing s with
  | nil => rfl
  | cons write rest ih =>
    have hcapacity : (s.extended (framed write.1 write.2)).capacity = none := h
    rw [List.flatMap_cons, extended_append, ← ih hcapacity, afterWrites, List.foldl_cons,
      write_of_unlimited h]
    rfl

theorem capacity_afterWrites (h : s.capacity = none) (writes : List (String × String)) :
    (s.afterWrites writes).capacity = none := by
  rw [afterWrites_eq h]
  exact h

/-- What writes leave in a sink: for each a line that names the table, the payload, and the end of
its line. -/
def entries (writes : List (String × String)) : List (List UInt8) :=
  writes.flatMap fun (table, payload) =>
    [Text.Utf8.encode ("-- " ++ table ++ "\n"), Text.Utf8.encode payload, Text.Utf8.encode "\n"]

/-- The writes are found in a sink in their order, behind what it held. -/
theorem chunks_afterWrites (h : s.capacity = none) (writes : List (String × String)) :
    (s.afterWrites writes).chunks.reverse = s.chunks.reverse ++ entries writes := by
  rw [afterWrites_eq h, extended, List.reverse_append, List.reverse_reverse]
  rfl

end TableFeed.Sink
