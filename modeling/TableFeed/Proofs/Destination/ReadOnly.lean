import TableFeed.Proofs.Destination.Confinement
import TableFeed.Proofs.Destination.History
import TableFeed.Proofs.Destination.Retry

/-!
# Where no column may be added

With evolution disabled ensuring columns asks the catalog and never changes it
(`Outcome.asked_of_disabled`).  Over any number of events the catalog is therefore the one
of the start, and the columns that the cache has of a table are those that the table has
(`Mirrors`).  So the verdict on an event is that of the table itself, whether nothing is
known of the table, its existence, or its columns (`disabled_only_checks`).

An outage may keep the columns of a table from being learnt; what was learnt is not
affected.
-/

namespace TableFeed.Destination

variable {database table : String} {event : Event} {d d' : Destination} {catalog : Catalog}
  {outages : Outages} {snapshot : TableSnapshot} {report : TableReport}
  {result : Except TransformError TableSnapshot}

/-! ## One event -/

theorem Outcome.asked_of_disabled (h : d.Outcome database .disabled table event result d') :
    d.connection.Asked d'.connection := by
  cases h with
  | unconfirmed hconfirm => exact hconfirm.asked
  | unknown hconfirm _ hload => exact hconfirm.asked.trans hload.asked
  | covered hopened => exact hopened.asked
  | disabled hopened => exact hopened.asked
  | unaltered _ hevolution => cases hevolution
  | unrefreshed _ _ hevolution => cases hevolution
  | refreshed _ _ hevolution => cases hevolution

theorem ensureColumns_disabled_of_known (hslot : d.cache.slot? table = some (.loaded snapshot)) :
    (d.ensureColumns database .disabled table event).2 = d := by
  rw [ensureColumns_of_known hslot]
  split
  · rfl
  · rfl

/-- Columns that are known stay known, and as they are. -/
theorem loaded_ensureColumns_disabled {other : String}
    (hslot : d.cache.slot? other = some (.loaded snapshot)) (table : String) (event : Event) :
    (d.ensureColumns database .disabled table event).2.cache.slot? other =
      some (.loaded snapshot) := by
  by_cases hother : other = table
  · subst hother
    rwa [ensureColumns_disabled_of_known hslot]
  · have houtcome := ensureColumns_outcome database .disabled table event d
    rw [houtcome.confined.slots other hother, hslot]

theorem Ensured.loaded_of_disabled (h : Ensured database .disabled d d')
    (hslot : d.cache.slot? table = some (.loaded snapshot)) :
    d'.cache.slot? table = some (.loaded snapshot) := by
  induction h with
  | refl => exact hslot
  | tail _ hstep ih =>
    obtain ⟨other, event, rfl⟩ := hstep
    exact loaded_ensureColumns_disabled ih other event

/-! ## The catalog as it was -/

/-- The catalog has not changed and no addition was tried, and where the columns of a table are
known they are those that the table has. -/
structure Mirrors (database : String) (catalog : Catalog) (d : Destination) : Prop where
  agrees : d.connection.catalog.Agrees catalog
  additions : d.connection.tried.additions = 0
  loaded : ∀ table snapshot, d.cache.slot? table = some (.loaded snapshot) →
    ∃ report, catalog.table? database table = some report ∧ snapshot = .ofReport table report

namespace Mirrors

theorem ofCatalog (database : String) (catalog : Catalog) (outages : Outages) :
    Mirrors database catalog (.ofCatalog catalog outages) := by
  refine ⟨.refl _, rfl, ?_⟩
  intro table snapshot hslot
  cases hslot

theorem of_outcome (h : Mirrors database catalog d)
    (houtcome : d.Outcome database .disabled table event result d') :
    Mirrors database catalog d' := by
  have hasked := houtcome.asked_of_disabled
  refine ⟨hasked.agrees.trans h.agrees, hasked.additions.trans h.additions, ?_⟩
  intro other snapshot hslot
  rcases houtcome.learnt hslot with hold | ⟨report, rfl, hbefore | hafter⟩
  · exact h.loaded other snapshot hold
  · exact ⟨report, (h.agrees.table? database other).symm.trans hbefore, rfl⟩
  · rw [hasked.agrees.table?, h.agrees.table?] at hafter
    exact ⟨report, hafter, rfl⟩

theorem of_ensured (h : Mirrors database catalog d) (hensured : Ensured database .disabled d d') :
    Mirrors database catalog d' := by
  induction hensured with
  | refl => exact h
  | tail _ hstep ih =>
    obtain ⟨table, event, rfl⟩ := hstep
    exact ih.of_outcome (ensureColumns_outcome database .disabled table event _)

end Mirrors

/-! ## The verdict -/

/-- The names of an event's fields that are not columns of a table, in order. -/
def absentNames (report : TableReport) (event : Event) : List String :=
  (event.fields.map EventField.name).filter fun name => name ∉ report.columnNames

theorem map_name_missing (table : String) (report : TableReport) (event : Event) :
    (missing (.ofReport table report) event).map EventField.name = absentNames report event := by
  rw [absentNames, List.filter_map]
  congr 1
  refine List.filter_congr ?_
  intro field _
  by_cases hname : field.name ∈ report.columnNames
  · simp [hname, TableReport.hasColumn_iff.2 hname]
  · simp [hname, TableReport.hasColumn_eq_false_iff.2 hname]

theorem missing_ofReport_eq_nil_iff (table : String) (report : TableReport) (event : Event) :
    missing (.ofReport table report) event = [] ↔ absentNames report event = [] := by
  rw [← map_name_missing table, List.map_eq_nil_iff]

/-- Where a table is there and nothing is out, its columns come to be known. -/
theorem Outcome.opened_of_quiet (h : d.Outcome database .disabled table event result d')
    (hquiet : d.connection.Quiet)
    (hheld : d.connection.catalog.table? database table = some report) :
    ∃ snapshot, d.Opened database table snapshot d' ∧
      result = if missing snapshot event = [] then .ok snapshot
        else .error (.evolutionDisabled table ((missing snapshot event).map EventField.name)) := by
  cases h with
  | unconfirmed hconfirm =>
    cases hconfirm with
    | failed _ hcall =>
      cases hcall with
      | out hout =>
        rw [hquiet.lookup _ (Nat.lt_succ_self _)] at hout
        cases hout
    | absent _ hcall =>
      have hfound := hcall.answer_eq
      rw [hheld] at hfound
      cases hfound
  | unknown hconfirm _ hload =>
    obtain ⟨-, hout, -⟩ := hload.of_error (hconfirm.asked.held hheld)
    rw [(hconfirm.asked.quiet hquiet).load _ (Nat.lt_succ_self _)] at hout
    cases hout
  | covered hopened hmissing => exact ⟨_, hopened, by rw [if_pos hmissing]⟩
  | disabled hopened hmissing => exact ⟨_, hopened, by rw [if_neg hmissing]⟩
  | unaltered _ hevolution => cases hevolution
  | unrefreshed _ _ hevolution => cases hevolution
  | refreshed _ _ hevolution => cases hevolution

theorem Mirrors.answer (h : Mirrors database catalog d) (hquiet : d.connection.Quiet)
    (htable : catalog.table? database table = some report) :
    (d.ensureColumns database .disabled table event).1 =
      if absentNames report event = [] then .ok (.ofReport table report)
      else .error (.evolutionDisabled table (absentNames report event)) := by
  have houtcome := ensureColumns_outcome database .disabled table event d
  obtain ⟨snapshot, hopened, hanswer⟩ :=
    houtcome.opened_of_quiet hquiet ((h.agrees.table? database table).trans htable)
  obtain ⟨held, hheld, rfl⟩ := (h.of_outcome houtcome).loaded table snapshot hopened.slot
  cases htable.symm.trans hheld
  rw [hanswer, map_name_missing]
  simp only [missing_ofReport_eq_nil_iff]

/-- With evolution disabled, from any destination that was reached and over any events of any
tables: the catalog stays as it was at the start, no addition is tried, and columns that are known
do not change.  Where nothing is out, an event of a table that is there is refused exactly when
some of its fields are no columns of the table, and these are told in order; otherwise the answer
has the columns of the table. -/
theorem disabled_only_checks (hreached : Ensured database .disabled (ofCatalog catalog outages) d)
    (requests : List (String × Event)) :
    let d' := d.ensureEach database .disabled requests
    d'.connection.catalog.tables = catalog.tables ∧
    d'.connection.catalog.statements = catalog.statements ∧
    d'.connection.tried.additions = 0 ∧
    (∀ table snapshot, d.cache.slot? table = some (.loaded snapshot) →
      d'.cache.slot? table = some (.loaded snapshot)) ∧
    (d.connection.Quiet → ∀ table report event, catalog.table? database table = some report →
      ((d'.ensureColumns database .disabled table event).1 =
          .error (.evolutionDisabled table (absentNames report event)) ↔
        ∃ field ∈ event.fields, field.name ∉ report.columnNames) ∧
      ((∀ field ∈ event.fields, field.name ∈ report.columnNames) →
        ∃ snapshot, (d'.ensureColumns database .disabled table event).1 = .ok snapshot ∧
          ∀ name, name ∈ snapshot.columnNames ↔ name ∈ report.columnNames)) := by
  intro d'
  have hensured : Ensured database .disabled d d' :=
    ensureEach_ensured database .disabled requests d
  have hmirrors := (Mirrors.ofCatalog database catalog outages).of_ensured (hreached.trans hensured)
  refine ⟨hmirrors.agrees.tables, hmirrors.agrees.statements, hmirrors.additions,
    fun table snapshot hslot => hensured.loaded_of_disabled hslot, ?_⟩
  intro hquiet table report event htable
  have hanswer : (d'.ensureColumns database .disabled table event).1 = _ :=
    hmirrors.answer (hensured.later.quiet hquiet) htable
  have habsent : absentNames report event = [] ↔
      ∀ field ∈ event.fields, field.name ∈ report.columnNames := by
    simp [absentNames]
  by_cases hcovered : ∀ field ∈ event.fields, field.name ∈ report.columnNames
  · rw [hanswer, if_pos (habsent.2 hcovered)]
    refine ⟨⟨?_, ?_⟩, fun _ => ⟨_, rfl, ?_⟩⟩
    · intro herror
      cases herror
    · rintro ⟨field, hfield, hlacks⟩
      exact absurd (hcovered field hfield) hlacks
    · intro name
      rw [TableSnapshot.mem_columnNames, TableSnapshot.hasColumn_ofReport,
        TableReport.hasColumn_iff]
  · rw [hanswer, if_neg (mt habsent.1 hcovered)]
    refine ⟨⟨fun _ => ?_, fun _ => rfl⟩, fun h => absurd h hcovered⟩
    simpa using hcovered

/-- After an outage at the first load only the existence of the table is known, and the next event
is told what is missing all the same. -/
theorem disabled_only_checks_firstLoadOut :
    let d := (firstLoadOut.ensureColumns "db" .disabled "t" threeTexts).2
    d.cache.slot? "t" = some .unloaded ∧ d.connection.Quiet ∧
      (d.ensureColumns "db" .disabled "t" threeTexts).1 =
        .error (.evolutionDisabled "t" ["b", "c"]) := by
  intro d
  have hquiet : d.connection.Quiet := quiet_of_firstLoadOut rfl Nat.one_pos
  have hreached := Ensured.step "db" .disabled "t" threeTexts firstLoadOut
  obtain ⟨-, -, -, -, hverdict⟩ := disabled_only_checks hreached []
  obtain ⟨hrefused, -⟩ := hverdict hquiet "t" _ threeTexts rfl
  exact ⟨rfl, hquiet, hrefused.2 (by decide)⟩

end TableFeed.Destination
