import TableFeed.Proofs.Connector.Transform
import TableFeed.Proofs.Destination.Isolation

/-!
# Each table as if it were alone

The records of one table are transformed as they would be if there were no others
(`Connector.transformAll_alone`): they get the same answers, and in the end the cache knows
the same of the table, the catalog has the same of it, and the same statements have altered
it.  A table may have several topics, and then their records count together.

The run over all records and the run over those of the table are followed side by side.  A
record of the table is a step of both, and one of another table a step of the first alone;
both kinds of steps keep the two destinations alike in the table.
-/

namespace TableFeed.Connector

variable {c : Connector} {record : Record} {table : String} {left right : Destination}

/-- Whether the topic of a record leads to a table. -/
def LeadsTo (c : Connector) (table : String) (record : Record) : Bool :=
  (c.config.tableFor record.topic).toOption = some table

theorem leadsTo_of_tableFor {other : String} (h : c.config.tableFor record.topic = .ok other) :
    c.LeadsTo table record = decide (other = table) := by
  simp [LeadsTo, h, Except.toOption]

/-- The destinations are alike in a table of the connector's database. -/
abbrev Alike (c : Connector) (table : String) : Destination → Destination → Prop :=
  Destination.Alike c.config.database table

/-! ## One record -/

theorem Alike.transform (h : c.Alike table left right) (hrecord : c.LeadsTo table record = true) :
    Matching (c.Alike table) (c.transform record left) (c.transform record right) := by
  rcases c.inert_or_event record with ⟨answer, hinert⟩ | ⟨event, other, hother, hevent⟩
  · rw [hinert, hinert]
    exact ⟨rfl, h⟩
  · rw [leadsTo_of_tableFor hother, decide_eq_true_eq] at hrecord
    subst hrecord
    obtain ⟨result, d, d', hleft, hright, hd⟩ := (h.ensureColumns event).exists
    rw [hevent, hevent, hleft, hright]
    exact ⟨rfl, hd⟩

theorem Alike.transform_other (h : c.Alike table left right)
    (hrecord : c.LeadsTo table record = false) :
    c.Alike table (c.transform record left).2 right := by
  rcases c.inert_or_event record with ⟨answer, hinert⟩ | ⟨event, other, hother, hevent⟩
  · rw [hinert]
    exact h
  · rw [leadsTo_of_tableFor hother, decide_eq_false_iff_not] at hrecord
    rw [hevent]
    exact h.apart (Ne.symm hrecord) event

/-! ## Any number of records -/

/-- The records with their answers that belong to a table. -/
def entriesFor (c : Connector) (table : String)
    (entries : List (Record × Except TransformError (Option String))) :
    List (Record × Except TransformError (Option String)) :=
  entries.filter fun entry => c.LeadsTo table entry.1

theorem Alike.transformAll (h : c.Alike table left right) (records : List Record) :
    c.entriesFor table (c.transformAll records left).1 =
        (c.transformAll (records.filter (c.LeadsTo table)) right).1 ∧
      c.Alike table (c.transformAll records left).2
        (c.transformAll (records.filter (c.LeadsTo table)) right).2 := by
  induction records generalizing left right with
  | nil => exact ⟨rfl, h⟩
  | cons record rest ih =>
    cases hrecord : c.LeadsTo table record with
    | true =>
      obtain ⟨answer, d, d', hleft, hright, hd⟩ := (h.transform hrecord).exists
      obtain ⟨hentries, hrest⟩ := ih hd
      simp only [entriesFor] at hentries
      simp only [List.filter_cons, hrecord, ↓reduceIte, Connector.transformAll, hleft, hright,
        entriesFor, hentries, true_and]
      exact hrest
    | false =>
      obtain ⟨hentries, hrest⟩ := ih (h.transform_other hrecord)
      simp only [entriesFor] at hentries
      simp only [List.filter_cons, hrecord, Bool.false_eq_true, ↓reduceIte, Connector.transformAll,
        entriesFor, hentries, true_and]
      exact hrest

/-- For every table, the records whose topic leads to it are answered as they are when they are the
only ones, and in the end the table, what is known of it, and the statements that altered it are
those of that run. -/
theorem transformAll_alone (c : Connector) (catalog : Catalog) (records : List Record)
    (table : String) :
    let start := Destination.ofCatalog catalog .never
    let whole := c.transformAll records start
    let alone := c.transformAll (records.filter (c.LeadsTo table)) start
    c.entriesFor table whole.1 = alone.1 ∧
    whole.2.cache.slot? table = alone.2.cache.slot? table ∧
    whole.2.connection.catalog.table? c.config.database table =
      alone.2.connection.catalog.table? c.config.database table ∧
    whole.2.connection.catalog.statementsFor c.config.database table =
      alone.2.connection.catalog.statementsFor c.config.database table := by
  intro start whole alone
  have hquiet : start.connection.Quiet := .never catalog
  have hstart : c.Alike table start start :=
    ⟨rfl, (Catalog.Agrees.refl catalog).alike, hquiet, hquiet⟩
  obtain ⟨hentries, hend⟩ := hstart.transformAll records
  exact ⟨hentries, hend.slot, hend.connection.catalog.report, hend.connection.catalog.statements⟩

end TableFeed.Connector
