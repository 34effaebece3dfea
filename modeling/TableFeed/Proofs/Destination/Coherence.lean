import TableFeed.Proofs.Destination.Outcome

/-!
# The cache is true of the catalog

A destination is *coherent* when all that its cache says holds of the catalog: a table
that is known to exist does, and the columns that are known of it are columns of it.  The
catalog may have more.  `ensureColumns_coherent` says that ensuring columns keeps a
destination coherent however it ends, so every reachable destination is
(`Reachable.coherent`).

For a coherent destination success means what it should: the table has a column for every
field of the event (`hasColumn_of_ensureColumns`), even where the answer came from the
cache.
-/

namespace TableFeed

/-- What a cache entry says is true of a catalog. -/
def CachedTable.Holds (catalog : Catalog) (database table : String) : CachedTable → Prop
  | .unloaded => ∃ report, catalog.table? database table = some report
  | .loaded snapshot => ∃ report, catalog.table? database table = some report ∧
      ∀ name, snapshot.hasColumn name = true → name ∈ report.columnNames

namespace CachedTable

theorem Holds.grows {before after : Catalog} (hgrows : before.Grows after)
    {database table : String} {cached : CachedTable} (h : cached.Holds before database table) :
    cached.Holds after database table := by
  cases cached with
  | unloaded =>
    obtain ⟨report, htable⟩ := h
    obtain ⟨columns, hafter⟩ := hgrows database table report htable
    exact ⟨_, hafter⟩
  | loaded snapshot =>
    obtain ⟨report, htable, hcolumns⟩ := h
    obtain ⟨columns, hafter⟩ := hgrows database table report htable
    refine ⟨_, hafter, fun name hname => ?_⟩
    rw [TableReport.columnNames_extend]
    exact List.mem_append_left _ (hcolumns name hname)

theorem Holds.hasColumn {catalog : Catalog} {database table name : String}
    {snapshot : TableSnapshot} (h : (loaded snapshot).Holds catalog database table)
    (hname : snapshot.hasColumn name = true) : catalog.HasColumn database table name := by
  obtain ⟨report, htable, hcolumns⟩ := h
  exact ⟨report, htable, hcolumns name hname⟩

theorem holds_ofReport {catalog : Catalog} {database table : String} {report : TableReport}
    (htable : catalog.table? database table = some report) :
    (loaded (.ofReport table report)).Holds catalog database table := by
  refine ⟨report, htable, fun name hname => ?_⟩
  rwa [TableSnapshot.hasColumn_ofReport, TableReport.hasColumn_iff] at hname

end CachedTable

namespace Destination

/-! ## Coherence -/

/-- All that the cache says of the tables of a database is true of the catalog. -/
def Coherent (database : String) (d : Destination) : Prop :=
  ∀ table cached, d.cache.slot? table = some cached →
    cached.Holds d.connection.catalog database table

variable {database table : String} {evolution : Evolution} {event : Event}
  {d d₁ d' : Destination} {snapshot : TableSnapshot}

theorem coherent_ofCatalog (database : String) (catalog : Catalog) (outages : Outages) :
    Coherent database (ofCatalog catalog outages) := by
  intro table cached h
  cases h

/-- Old entries stay true of a catalog that grows, so only new ones have to be checked. -/
theorem Coherent.mono (h : d.Coherent database)
    (hgrows : d.connection.catalog.Grows d'.connection.catalog)
    (hslots : ∀ table cached, d'.cache.slot? table = some cached →
      d.cache.slot? table = some cached ∨ cached.Holds d'.connection.catalog database table) :
    d'.Coherent database := by
  intro table cached hslot
  rcases hslots table cached hslot with hold | hnew
  · exact (h table cached hold).grows hgrows
  · exact hnew

theorem ConfirmOutcome.coherent {answer : Except TransformError Unit}
    (hconfirm : d.ConfirmOutcome database table answer d') (h : d.Coherent database) :
    d'.Coherent database := by
  cases hconfirm with
  | known => exact h
  | failed _ hcall => exact h.mono hcall.asked.agrees.grows fun _ _ hslot => .inl hslot
  | absent _ hcall => exact h.mono hcall.asked.agrees.grows fun _ _ hslot => .inl hslot
  | @found c _ hcall =>
    have hagrees := hcall.asked.agrees
    refine h.mono hagrees.grows fun other cached hslot => ?_
    rw [TableCache.slot?_set] at hslot
    split at hslot
    · next heq =>
      cases hslot
      refine .inr (Option.isSome_iff_exists.1 ?_)
      rw [heq, hagrees.table?]
      exact hcall.answer_eq.symm
    · exact .inl hslot

theorem LoadOutcome.coherent {answer : Except TransformError TableSnapshot}
    (hload : d.LoadOutcome database table answer d') (h : d.Coherent database) :
    d'.Coherent database := by
  cases hload with
  | failed hcall => exact h.mono hcall.asked.agrees.grows fun _ _ hslot => .inl hslot
  | loaded hcall =>
    refine h.mono hcall.asked.agrees.grows fun other cached hslot => ?_
    rw [TableCache.slot?_set] at hslot
    split at hslot
    · next heq =>
      cases hslot
      subst heq
      cases hcall with
      | answered _ htable => exact .inr (CachedTable.holds_ofReport htable)
    · exact .inl hslot

theorem Opened.coherent (hopened : d.Opened database table snapshot d')
    (h : d.Coherent database) : d'.Coherent database := by
  refine h.mono hopened.asked.agrees.grows fun other cached hslot => ?_
  by_cases hother : other = table
  · subst hother
    rw [hopened.slot] at hslot
    cases hslot
    rcases hopened.source with ⟨hcached, -⟩ | ⟨-, report, htable, rfl⟩
    · exact .inl hcached
    · rw [← hopened.asked.agrees.table?] at htable
      exact .inr (CachedTable.holds_ofReport htable)
  · rw [hopened.others other hother] at hslot
    exact .inl hslot

/-- The state of a destination whose connection alone has changed. -/
theorem Coherent.withConnection (h : d.Coherent database) {c : Connection}
    (hlater : d.connection.Later c) : Coherent database { d with connection := c } :=
  h.mono hlater.grows fun _ _ hslot => .inl hslot

theorem Outcome.coherent {answer : Except TransformError TableSnapshot}
    (houtcome : d.Outcome database evolution table event answer d') (h : d.Coherent database) :
    d'.Coherent database := by
  cases houtcome with
  | unconfirmed hconfirm => exact hconfirm.coherent h
  | unknown hconfirm _ hload => exact hload.coherent (hconfirm.coherent h)
  | covered hopened => exact hopened.coherent h
  | disabled hopened => exact hopened.coherent h
  | unaltered hopened _ hadded =>
    exact (hopened.coherent h).withConnection (addColumns_later hadded)
  | unrefreshed hopened _ _ hadded hload =>
    exact hload.coherent ((hopened.coherent h).withConnection (addColumns_later hadded))
  | refreshed hopened _ _ hadded hload =>
    exact hload.coherent ((hopened.coherent h).withConnection (addColumns_later hadded))

/-- Ensuring columns keeps the cache true of the catalog, however it ends. -/
theorem ensureColumns_coherent (h : d.Coherent database) :
    (d.ensureColumns database evolution table event).2.Coherent database :=
  (ensureColumns_outcome database evolution table event d).coherent h

/-! ## Reachable destinations -/

/-- The destination after someone else has asked the catalog to add a column. -/
def alteredBy (database table : String) (column : NewColumn) (d : Destination) : Destination :=
  { d with connection.catalog := (d.connection.catalog.addColumn database table column).2 }

/-- The destinations that ensuring columns leads to from one of which nothing is known, while
others may add columns too. -/
inductive Reachable (database : String) (evolution : Evolution) : Destination → Prop where
  | fresh (catalog : Catalog) (outages : Outages) :
      Reachable database evolution (ofCatalog catalog outages)
  | ensured {d : Destination} (table : String) (event : Event) :
      Reachable database evolution d →
      Reachable database evolution (d.ensureColumns database evolution table event).2
  | altered {d : Destination} (database' table : String) (column : NewColumn) :
      Reachable database evolution d →
      Reachable database evolution (d.alteredBy database' table column)

theorem Reachable.coherent (h : Reachable database evolution d) : d.Coherent database := by
  induction h with
  | fresh catalog outages => exact coherent_ofCatalog database catalog outages
  | ensured table event _ ih => exact ensureColumns_coherent ih
  | altered database' table column _ ih =>
    exact ih.mono (Catalog.addColumn_outcome _ database' table column).grows
      fun _ _ hslot => .inl hslot

/-! ## Success -/

theorem mem_missing {field : EventField} :
    field ∈ missing snapshot event ↔
      field ∈ event.fields ∧ snapshot.hasColumn field.name = false := by
  simp [missing]

/-- Nothing is missing where there is a column for every field. -/
theorem missing_eq_nil_iff :
    missing snapshot event = [] ↔ ∀ field ∈ event.fields, snapshot.hasColumn field.name = true := by
  simp [missing, List.filter_eq_nil_iff]

theorem Opened.hasColumn (hopened : d.Opened database table snapshot d')
    (h : d.Coherent database) {name : String} (hname : snapshot.hasColumn name = true) :
    d'.connection.catalog.HasColumn database table name :=
  (hopened.coherent h table _ hopened.slot).hasColumn hname

/-- Missing columns that were added are columns of the table. -/
theorem hasColumn_of_added (hopened : d.Opened database table snapshot d₁)
    (h : d.Coherent database) {c : Connection}
    (hadded : addColumns database table ((missing snapshot event).map EventField.column)
      d₁.connection = (.ok (), c)) :
    ∀ field ∈ event.fields, c.catalog.HasColumn database table field.name := by
  intro field hfield
  cases hcolumn : snapshot.hasColumn field.name with
  | true => exact (addColumns_later hadded).grows.hasColumn (hopened.hasColumn h hcolumn)
  | false =>
    obtain ⟨report, htable, -⟩ := hopened.coherent h table _ hopened.slot
    have hmem : field.column ∈ (missing snapshot event).map EventField.column :=
      List.mem_map_of_mem (mem_missing.2 ⟨hfield, hcolumn⟩)
    exact (addColumns_ok htable hadded).hasColumn_iff.2 (.inr (List.mem_map_of_mem hmem))

/-- When ensuring columns succeeds, the table has a column for every field of the event. -/
theorem hasColumn_of_ensureColumns (h : d.Coherent database)
    (hensured : d.ensureColumns database evolution table event = (.ok snapshot, d')) :
    ∀ field ∈ event.fields, d'.connection.catalog.HasColumn database table field.name := by
  intro field hfield
  cases outcome_of_ensureColumns hensured with
  | covered hopened hmissing =>
    exact hopened.hasColumn h (missing_eq_nil_iff.1 hmissing field hfield)
  | refreshed hopened _ _ hadded hload =>
    exact hload.asked.agrees.grows.hasColumn (hasColumn_of_added hopened h hadded field hfield)

/-! ## Fields of text -/

/-- The schema of texts that may be missing. -/
def optionalText : Schema :=
  (Schema.ofKind .string).asOptional

/-- The event of a row of optional texts. -/
def textEvent (topic : String) (names : List String) : Event where
  topic := topic
  byName := names.map fun name => (name, ⟨name, optionalText, .string, false⟩)
  fieldNames := names
  nonKeyNames := names
  before := none
  after := some ⟨.ofFields "row" (names.map fun name => (name, optionalText)), []⟩

/-- A destination whose one table has columns of texts. -/
def ofTextColumns (database table : String) (names : List String) (outages : Outages) :
    Destination :=
  ofCatalog (Catalog.empty.withTable database table
    ⟨"UNIQUE_KEYS", names.map fun name => ⟨name, "STRING", ""⟩⟩) outages

end Destination

end TableFeed
