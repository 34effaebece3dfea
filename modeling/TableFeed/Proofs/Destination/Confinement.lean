import TableFeed.Proofs.Destination.Outcome

/-!
# What ensuring columns leaves alone

Ensuring the columns of a table is confined to that table (`Outcome.confined`).  Whatever
fails, the cache keeps what it knows of the other tables, the other tables of the catalog
keep their columns, and all statements that are carried out add columns to the one table.
-/

namespace TableFeed

/-! ## Over a connection -/

namespace Connection

/-- Nothing but additions to one table has changed the catalog between two states. -/
structure Confined (database table : String) (c c' : Connection) : Prop where
  /-- The other tables are as they were. -/
  others : ∀ database' table', (database', table') ≠ (database, table) →
    c'.catalog.table? database' table' = c.catalog.table? database' table'
  /-- The statements since then add columns to the table. -/
  statements : ∃ columns : List NewColumn, c'.catalog.statements =
    c.catalog.statements ++ columns.map (Statement.addColumn database table)
  /-- The refused columns are as they were. -/
  refused : c'.catalog.refused = c.catalog.refused

variable {database table : String} {c c' : Connection}

namespace Confined

theorem refl (c : Connection) : Confined database table c c :=
  ⟨fun _ _ _ => rfl, ⟨[], by simp⟩, rfl⟩

theorem trans {first second third : Connection} (h : Confined database table first second)
    (h' : Confined database table second third) : Confined database table first third := by
  obtain ⟨columns, hcolumns⟩ := h.statements
  obtain ⟨more, hmore⟩ := h'.statements
  refine ⟨?_, ⟨columns ++ more, ?_⟩, h'.refused.trans h.refused⟩
  · intro database' table' hne
    exact (h'.others database' table' hne).trans (h.others database' table' hne)
  · rw [hmore, hcolumns, List.map_append, List.append_assoc]

end Confined

theorem Asked.confined (h : c.Asked c') : Confined database table c c' := by
  refine ⟨?_, ⟨[], ?_⟩, h.agrees.refused⟩
  · intro database' table' _
    exact h.agrees.table? database' table'
  · simpa using h.agrees.statements

theorem AdditionOutcome.confined {column : NewColumn} {answer : Except CatalogError Unit}
    (h : c.AdditionOutcome database table column answer c') : Confined database table c c' := by
  cases h with
  | out => exact ⟨fun _ _ _ => rfl, ⟨[], by simp [tryAddition]⟩, rfl⟩
  | reached _ hcatalog =>
    cases hcatalog with
    | refused => exact ⟨fun _ _ _ => rfl, ⟨[], by simp [Catalog.countAddition]⟩, rfl⟩
    | notFound => exact ⟨fun _ _ _ => rfl, ⟨[], by simp [Catalog.countAddition]⟩, rfl⟩
    | duplicate => exact ⟨fun _ _ _ => rfl, ⟨[], by simp [Catalog.countAddition]⟩, rfl⟩
    | added =>
      refine ⟨?_, ⟨[column], rfl⟩, rfl⟩
      intro database' table' hne
      rw [Catalog.table?_afterAddition, if_neg hne]

end Connection

/-! ## Over a destination -/

namespace Destination

theorem addColumns_confined {database table : String} {columns : List NewColumn}
    {answer : Except TransformError Unit} {c c' : Connection}
    (h : addColumns database table columns c = (answer, c')) : c.Confined database table c' := by
  induction columns generalizing c with
  | nil =>
    cases h
    exact .refl _
  | cons column rest ih =>
    have hcall := (c.addColumn_outcome database table column).confined
    rw [addColumns_cons] at h
    split at h
    · next heq =>
      cases h
      rwa [heq] at hcall
    · next heq =>
      rw [heq] at hcall
      exact hcall.trans (ih h)

/-- Nothing but one table, and what is known of it, has changed between two states. -/
structure Confined (database table : String) (d d' : Destination) : Prop where
  /-- What is known of the other tables is as it was. -/
  slots : ∀ other, other ≠ table → d'.cache.slot? other = d.cache.slot? other
  /-- The catalog has changed by additions to the table. -/
  connection : d.connection.Confined database table d'.connection

variable {database table : String} {evolution : Evolution} {event : Event}
  {d d' : Destination} {snapshot : TableSnapshot}

theorem Confined.trans {first second third : Destination} (h : Confined database table first second)
    (h' : Confined database table second third) : Confined database table first third := by
  refine ⟨?_, h.connection.trans h'.connection⟩
  intro other hne
  exact (h'.slots other hne).trans (h.slots other hne)

/-- The cache is that of a state before additions. -/
theorem Confined.withConnection {c : Connection} (h : Confined database table d d')
    (hc : d'.connection.Confined database table c) :
    Confined database table d { d' with connection := c } :=
  ⟨h.slots, h.connection.trans hc⟩

theorem ConfirmOutcome.confined {answer : Except TransformError Unit}
    (h : d.ConfirmOutcome database table answer d') : Confined database table d d' := by
  refine ⟨?_, h.asked.confined⟩
  intro other hne
  cases h with
  | known => rfl
  | failed => rfl
  | absent => rfl
  | found => rw [TableCache.slot?_set, if_neg hne]

theorem LoadOutcome.confined {answer : Except TransformError TableSnapshot}
    (h : d.LoadOutcome database table answer d') : Confined database table d d' := by
  refine ⟨?_, h.asked.confined⟩
  intro other hne
  cases h with
  | failed => rfl
  | loaded => rw [TableCache.slot?_set, if_neg hne]

theorem Opened.confined (h : d.Opened database table snapshot d') : Confined database table d d' :=
  ⟨h.others, h.asked.confined⟩

theorem Outcome.confined {answer : Except TransformError TableSnapshot}
    (h : d.Outcome database evolution table event answer d') : Confined database table d d' := by
  cases h with
  | unconfirmed hconfirm => exact hconfirm.confined
  | unknown hconfirm _ hload => exact hconfirm.confined.trans hload.confined
  | covered hopened => exact hopened.confined
  | disabled hopened => exact hopened.confined
  | unaltered hopened _ hadded =>
    exact hopened.confined.withConnection (addColumns_confined hadded)
  | unrefreshed hopened _ _ hadded hload =>
    exact (hopened.confined.withConnection (addColumns_confined hadded)).trans hload.confined
  | refreshed hopened _ _ hadded hload =>
    exact (hopened.confined.withConnection (addColumns_confined hadded)).trans hload.confined

end Destination

end TableFeed
