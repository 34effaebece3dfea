import TableFeed.Proofs.Destination.Additions

/-!
# The outcomes of ensuring columns

`Destination.ensureColumns` goes through up to four stages: the table is confirmed to
exist, its columns are loaded, missing columns are added, and the columns are loaded
again.  `Destination.Outcome` lists where it can end and what is known there, and
`ensureColumns_outcome` says that the list is complete.

`Destination.Opened` sums up the first two stages when they succeed: the columns of the
table are known, from the cache or from the catalog, and nothing but questions were asked.
-/

namespace TableFeed

theorem TableCache.slot?_of_snapshot? {cache : TableCache} {table : String}
    {snapshot : TableSnapshot} (h : cache.snapshot? table = some snapshot) :
    cache.slot? table = some (.loaded snapshot) := by
  unfold snapshot? at h
  split at h
  · next heq => rw [heq, Option.some.inj h]
  · cases h

namespace Destination

/-! ## The stages -/

/-- How the first stage ends: a table is known, or it is asked for. -/
inductive ConfirmOutcome (database table : String) (d : Destination) :
    Except TransformError Unit → Destination → Prop where
  | known {cached : CachedTable} : d.cache.slot? table = some cached →
      ConfirmOutcome database table d (.ok ()) d
  | failed {cause : CatalogError} {c : Connection} : d.cache.slot? table = none →
      d.connection.LookupOutcome database table (.error cause) c →
      ConfirmOutcome database table d (.error (.catalog table cause)) { d with connection := c }
  | absent {c : Connection} : d.cache.slot? table = none →
      d.connection.LookupOutcome database table (.ok false) c →
      ConfirmOutcome database table d (.error (.missingTable database table))
        { d with connection := c }
  | found {c : Connection} : d.cache.slot? table = none →
      d.connection.LookupOutcome database table (.ok true) c →
      ConfirmOutcome database table d (.ok ()) ⟨c, d.cache.set table .unloaded⟩

/-- How a load ends: the cache learns from an answer only. -/
inductive LoadOutcome (database table : String) (d : Destination) :
    Except TransformError TableSnapshot → Destination → Prop where
  | failed {cause : CatalogError} {c : Connection} :
      d.connection.LoadOutcome database table (.error cause) c →
      LoadOutcome database table d (.error (.catalog table cause)) { d with connection := c }
  | loaded {report : TableReport} {c : Connection} :
      d.connection.LoadOutcome database table (.ok report) c →
      LoadOutcome database table d (.ok (.ofReport table report))
        ⟨c, d.cache.set table (.loaded (.ofReport table report))⟩

theorem confirm_outcome (database table : String) (d : Destination) :
    d.ConfirmOutcome database table (d.confirm database table).1
      (d.confirm database table).2 := by
  unfold confirm
  cases hslot : d.cache.slot? table with
  | some cached =>
    simp only [TableCache.isKnown, hslot, Option.isSome_some, ↓reduceIte]
    exact .known hslot
  | none =>
    simp only [TableCache.isKnown, hslot, Option.isSome_none, Bool.false_eq_true, ↓reduceIte]
    have hcall := d.connection.tableExists_outcome database table
    split
    · next heq => exact .failed hslot (by rwa [heq] at hcall)
    · next heq => exact .absent hslot (by rwa [heq] at hcall)
    · next heq => exact .found hslot (by rwa [heq] at hcall)

theorem load_outcome (database table : String) (d : Destination) :
    d.LoadOutcome database table (d.load database table).1 (d.load database table).2 := by
  unfold load
  have hcall := d.connection.loadTable_outcome database table
  split
  · next heq => exact .failed (by rwa [heq] at hcall)
  · next heq => exact .loaded (by rwa [heq] at hcall)

theorem ConfirmOutcome.asked {database table : String} {d d' : Destination}
    {answer : Except TransformError Unit} (h : d.ConfirmOutcome database table answer d') :
    d.connection.Asked d'.connection := by
  cases h with
  | known => exact .refl _
  | failed _ hcall => exact hcall.asked
  | absent _ hcall => exact hcall.asked
  | found _ hcall => exact hcall.asked

/-- Looking a table up is no load. -/
theorem ConfirmOutcome.loads {database table : String} {d d' : Destination}
    {answer : Except TransformError Unit} (h : d.ConfirmOutcome database table answer d') :
    d'.connection.tried.loads = d.connection.tried.loads := by
  cases h with
  | known => rfl
  | failed _ hcall => exact hcall.loads
  | absent _ hcall => exact hcall.loads
  | found _ hcall => exact hcall.loads

/-- A table that is known to exist and whose columns are not known. -/
theorem ConfirmOutcome.slot_of_unknown {database table : String} {d d' : Destination}
    (h : d.ConfirmOutcome database table (.ok ()) d')
    (hunknown : d'.cache.snapshot? table = none) : d'.cache.slot? table = some .unloaded := by
  cases h with
  | @known cached hslot =>
    cases cached with
    | unloaded => exact hslot
    | loaded snapshot => simp [TableCache.snapshot?, hslot] at hunknown
  | found => rw [TableCache.slot?_set, if_pos rfl]

theorem LoadOutcome.asked {database table : String} {d d' : Destination}
    {answer : Except TransformError TableSnapshot}
    (h : d.LoadOutcome database table answer d') : d.connection.Asked d'.connection := by
  cases h with
  | failed hcall => exact hcall.asked
  | loaded hcall => exact hcall.asked

theorem LoadOutcome.cache_of_error {database table : String} {d d' : Destination}
    {error : TransformError} (h : d.LoadOutcome database table (.error error) d') :
    d'.cache = d.cache := by
  cases h with
  | failed => rfl

/-- A load that fails has been tried. -/
theorem LoadOutcome.tried_of_error {database table : String} {d d' : Destination}
    {error : TransformError} (h : d.LoadOutcome database table (.error error) d') :
    d'.connection.tried.loads = d.connection.tried.loads + 1 ∧
      d'.connection.tried.additions = d.connection.tried.additions := by
  cases h with
  | failed hcall =>
    cases hcall with
    | out => exact ⟨rfl, rfl⟩
    | notFound => exact ⟨rfl, rfl⟩

/-- A load of a table that is there fails at an outage only, and teaches the cache nothing. -/
theorem LoadOutcome.of_error {database table : String} {d d' : Destination}
    {report : TableReport} {error : TransformError}
    (htable : d.connection.catalog.table? database table = some report)
    (h : d.LoadOutcome database table (.error error) d') :
    error = .catalog table d.connection.outError ∧
      d.connection.outages.load (d.connection.tried.loads + 1) = true ∧
      d' = { d with connection := d.connection.tryLoad } := by
  cases h with
  | failed hcall =>
    cases hcall with
    | out hout => exact ⟨rfl, hout, rfl⟩
    | notFound _ hnone =>
      rw [htable] at hnone
      cases hnone

/-- A load that succeeds met no outage and told the columns as they are. -/
theorem LoadOutcome.of_ok {database table : String} {d d' : Destination}
    {snapshot : TableSnapshot} (h : d.LoadOutcome database table (.ok snapshot) d') :
    ∃ report, d.connection.catalog.table? database table = some report ∧
      snapshot = .ofReport table report ∧
      d.connection.outages.load (d.connection.tried.loads + 1) = false ∧
      d'.connection.tried.loads = d.connection.tried.loads + 1 ∧
      d'.cache = d.cache.set table (.loaded snapshot) := by
  cases h with
  | @loaded report _ hcall =>
    cases hcall with
    | answered hout htable => exact ⟨report, htable, rfl, hout, rfl, rfl⟩

/-! ## Known columns -/

/-- The columns of a table have come to be known. -/
structure Opened (database table : String) (d : Destination) (snapshot : TableSnapshot)
    (d' : Destination) : Prop where
  /-- The cache holds them. -/
  slot : d'.cache.slot? table = some (.loaded snapshot)
  /-- Nothing else was learnt. -/
  others : ∀ other, other ≠ table → d'.cache.slot? other = d.cache.slot? other
  /-- Nothing but questions were asked. -/
  asked : d.connection.Asked d'.connection
  /-- They were known before, or they are those of the catalog. -/
  source : d.cache.slot? table = some (.loaded snapshot) ∧ d' = d ∨
    d.cache.snapshot? table = none ∧ ∃ report,
      d.connection.catalog.table? database table = some report ∧
        snapshot = .ofReport table report

namespace Opened

variable {database table : String} {d d₁ d' : Destination} {snapshot : TableSnapshot}

/-- The columns were known before. -/
theorem known (hconfirm : d.ConfirmOutcome database table (.ok ()) d₁)
    (hsnapshot : d₁.cache.snapshot? table = some snapshot) :
    Opened database table d snapshot d₁ := by
  have hslot := TableCache.slot?_of_snapshot? hsnapshot
  cases hconfirm with
  | known => exact ⟨hslot, fun _ _ => rfl, .refl _, .inl ⟨hslot, rfl⟩⟩
  | found =>
    rw [TableCache.slot?_set, if_pos rfl] at hslot
    cases hslot

/-- The columns are loaded once the table is confirmed. -/
theorem loaded (hconfirm : d.ConfirmOutcome database table (.ok ()) d₁)
    (hunknown : d₁.cache.snapshot? table = none)
    (hload : d₁.LoadOutcome database table (.ok snapshot) d') :
    Opened database table d snapshot d' := by
  have hasked := hconfirm.asked
  have hothers : ∀ other, other ≠ table → d₁.cache.slot? other = d.cache.slot? other := by
    intro other hne
    cases hconfirm with
    | known => rfl
    | found => rw [TableCache.slot?_set, if_neg hne]
  have hbefore : d.cache.snapshot? table = none := by
    cases hconfirm with
    | known => exact hunknown
    | found hnone => rw [TableCache.snapshot?, hnone]
  cases hload with
  | @loaded report _ hcall =>
    refine ⟨?_, ?_, hasked.trans hcall.asked, .inr ⟨hbefore, report, ?_, rfl⟩⟩
    · rw [TableCache.slot?_set, if_pos rfl]
    · intro other hne
      rw [TableCache.slot?_set, if_neg hne, hothers other hne]
    · rw [← hasked.agrees.table?]
      cases hcall with
      | answered _ htable => exact htable

end Opened

/-- Columns that were known are those that come to be known. -/
theorem Opened.eq_of_known {database table : String} {d d' : Destination}
    {snapshot other : TableSnapshot} (h : d.Opened database table other d')
    (hslot : d.cache.slot? table = some (.loaded snapshot)) : other = snapshot := by
  rcases h.source with ⟨hother, -⟩ | ⟨hunknown, -⟩
  · rw [hslot] at hother
    cases hother
    rfl
  · rw [TableCache.snapshot?, hslot] at hunknown
    cases hunknown

/-- Columns that were missing and are all added have taken tries. -/
theorem Opened.additions_lt {database table : String} {event : Event} {d d₁ : Destination}
    {snapshot : TableSnapshot} {report : TableReport} {c : Connection}
    (h : d.Opened database table snapshot d₁) (hmissing : missing snapshot event ≠ [])
    (hheld : d.connection.catalog.table? database table = some report)
    (hadded : addColumns database table ((missing snapshot event).map EventField.column)
      d₁.connection = (.ok (), c)) :
    d.connection.tried.additions < c.tried.additions := by
  have hextended := addColumns_ok (h.asked.held hheld) hadded
  have hpos : 0 < (missing snapshot event).length := List.length_pos_iff.2 hmissing
  rw [hextended.additions, List.length_map, h.asked.additions]
  omega

/-! ## The whole -/

/-- How ensuring the columns of a table for an event ends. -/
inductive Outcome (database : String) (evolution : Evolution) (table : String) (event : Event)
    (d : Destination) : Except TransformError TableSnapshot → Destination → Prop where
  /-- The table is not known to exist. -/
  | unconfirmed {error : TransformError} {d' : Destination} :
      d.ConfirmOutcome database table (.error error) d' →
      Outcome database evolution table event d (.error error) d'
  /-- The columns of the table cannot be loaded. -/
  | unknown {error : TransformError} {d₁ d' : Destination} :
      d.ConfirmOutcome database table (.ok ()) d₁ → d₁.cache.snapshot? table = none →
      d₁.LoadOutcome database table (.error error) d' →
      Outcome database evolution table event d (.error error) d'
  /-- The table has all columns. -/
  | covered {snapshot : TableSnapshot} {d' : Destination} :
      d.Opened database table snapshot d' → missing snapshot event = [] →
      Outcome database evolution table event d (.ok snapshot) d'
  /-- Columns are missing and may not be added. -/
  | disabled {snapshot : TableSnapshot} {d' : Destination} :
      d.Opened database table snapshot d' → missing snapshot event ≠ [] →
      evolution = .disabled →
      Outcome database evolution table event d
        (.error (.evolutionDisabled table ((missing snapshot event).map EventField.name))) d'
  /-- A missing column cannot be added. -/
  | unaltered {snapshot : TableSnapshot} {error : TransformError} {d₁ : Destination}
      {c : Connection} :
      d.Opened database table snapshot d₁ → evolution = .basic →
      addColumns database table ((missing snapshot event).map EventField.column) d₁.connection =
        (.error error, c) →
      Outcome database evolution table event d (.error error) { d₁ with connection := c }
  /-- All missing columns are added, and the columns cannot be loaded again. -/
  | unrefreshed {snapshot : TableSnapshot} {error : TransformError} {d₁ d' : Destination}
      {c : Connection} :
      d.Opened database table snapshot d₁ → missing snapshot event ≠ [] → evolution = .basic →
      addColumns database table ((missing snapshot event).map EventField.column) d₁.connection =
        (.ok (), c) →
      LoadOutcome database table { d₁ with connection := c } (.error error) d' →
      Outcome database evolution table event d (.error error) d'
  /-- All missing columns are added, and the columns are loaded again. -/
  | refreshed {snapshot fresh : TableSnapshot} {d₁ d' : Destination} {c : Connection} :
      d.Opened database table snapshot d₁ → missing snapshot event ≠ [] → evolution = .basic →
      addColumns database table ((missing snapshot event).map EventField.column) d₁.connection =
        (.ok (), c) →
      LoadOutcome database table { d₁ with connection := c } (.ok fresh) d' →
      Outcome database evolution table event d (.ok fresh) d'

variable {database table : String} {evolution : Evolution} {event : Event}

theorem Opened.evolve_outcome {d d₁ : Destination} {snapshot : TableSnapshot}
    (hopened : d.Opened database table snapshot d₁) (hmissing : missing snapshot event ≠ []) :
    d.Outcome database evolution table event
      (d₁.evolve database evolution table (missing snapshot event)).1
      (d₁.evolve database evolution table (missing snapshot event)).2 := by
  cases evolution with
  | disabled => exact .disabled hopened hmissing rfl
  | basic =>
    simp only [evolve]
    split
    · next heq => exact .unaltered hopened rfl heq
    · next connection heq =>
      have hload := load_outcome database table { d₁ with connection := connection }
      rcases hresult : load database table { d₁ with connection := connection } with ⟨_ | _, d'⟩
      · rw [hresult] at hload
        exact .unrefreshed hopened hmissing rfl heq hload
      · rw [hresult] at hload
        exact .refreshed hopened hmissing rfl heq hload

/-- What is left to do once the columns are known. -/
theorem ensureColumns_of_current {d d₁ d₂ : Destination} {snapshot : TableSnapshot}
    (hconfirm : d.confirm database table = (.ok (), d₁))
    (hcurrent : d₁.current database table = (.ok snapshot, d₂)) :
    d.ensureColumns database evolution table event =
      if missing snapshot event = [] then (.ok snapshot, d₂)
      else d₂.evolve database evolution table (missing snapshot event) := by
  simp only [ensureColumns, hconfirm, hcurrent]
  cases missing snapshot event with
  | nil => rfl
  | cons field rest => rfl

theorem Opened.ensureColumns_outcome {d d₁ d₂ : Destination} {snapshot : TableSnapshot}
    (hopened : d.Opened database table snapshot d₂)
    (hconfirm : d.confirm database table = (.ok (), d₁))
    (hcurrent : d₁.current database table = (.ok snapshot, d₂)) :
    d.Outcome database evolution table event (d.ensureColumns database evolution table event).1
      (d.ensureColumns database evolution table event).2 := by
  rw [ensureColumns_of_current hconfirm hcurrent]
  split
  · next hmissing => exact .covered hopened hmissing
  · next hmissing => exact hopened.evolve_outcome hmissing

theorem ensureColumns_outcome (database : String) (evolution : Evolution) (table : String)
    (event : Event) (d : Destination) :
    d.Outcome database evolution table event (d.ensureColumns database evolution table event).1
      (d.ensureColumns database evolution table event).2 := by
  have houtcome := d.confirm_outcome database table
  rcases hconfirm : d.confirm database table with ⟨_ | _, d₁⟩
  · rw [hconfirm] at houtcome
    simp only [ensureColumns, hconfirm]
    exact .unconfirmed houtcome
  · rw [hconfirm] at houtcome
    cases hsnapshot : d₁.cache.snapshot? table with
    | some snapshot =>
      have hcurrent : d₁.current database table = (.ok snapshot, d₁) := by
        simp only [current, hsnapshot]
      exact (Opened.known houtcome hsnapshot).ensureColumns_outcome hconfirm hcurrent
    | none =>
      have hload := d₁.load_outcome database table
      rcases hloaded : d₁.load database table with ⟨_ | snapshot, d₂⟩
      · rw [hloaded] at hload
        simp only [ensureColumns, hconfirm, current, hsnapshot, hloaded]
        exact .unknown houtcome hsnapshot hload
      · rw [hloaded] at hload
        have hcurrent : d₁.current database table = (.ok snapshot, d₂) := by
          simp only [current, hsnapshot, hloaded]
        exact (Opened.loaded houtcome hsnapshot hload).ensureColumns_outcome hconfirm hcurrent

theorem outcome_of_ensureColumns {d d' : Destination}
    {answer : Except TransformError TableSnapshot}
    (h : d.ensureColumns database evolution table event = (answer, d')) :
    d.Outcome database evolution table event answer d' := by
  have houtcome := ensureColumns_outcome database evolution table event d
  rw [h] at houtcome
  exact houtcome

end Destination

end TableFeed
