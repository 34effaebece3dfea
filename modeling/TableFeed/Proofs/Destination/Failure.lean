import TableFeed.Proofs.Destination.Confinement
import TableFeed.Proofs.Destination.Ready

/-!
# What a failure leaves behind

Ensuring columns can break off at the look-up of the table, at the first load, at the check
of what is missing, and at any of the additions.  The cache then says what was learnt up to
there and no more (`failure_leaves`): nothing of a table that was not found, the existence
alone of a table whose columns could not be loaded, and otherwise the columns that the
event was checked against.  It has none of the columns added before a failing addition,
while the table has them all.

The number of calls tells the catalog errors apart: a failed look-up is followed by no load,
and a failed first load by no addition.
-/

namespace TableFeed.Destination

variable {database table : String} {evolution : Evolution} {event : Event}
  {d d' : Destination} {snapshot : TableSnapshot} {report : TableReport}
  {answer : Except TransformError TableSnapshot}

/-! ## The columns that an event is checked against -/

/-- The columns that an event of a table is checked against: those that are known, or those that the
table has when none are known. -/
def ChecksAgainst (database table : String) (d : Destination) (snapshot : TableSnapshot) : Prop :=
  d.cache.slot? table = some (.loaded snapshot) ∨
    d.cache.snapshot? table = none ∧ ∃ report,
      d.connection.catalog.table? database table = some report ∧ snapshot = .ofReport table report

theorem Opened.checksAgainst (h : d.Opened database table snapshot d') :
    d.ChecksAgainst database table snapshot := by
  rcases h.source with ⟨hslot, -⟩ | hloaded
  · exact .inl hslot
  · exact .inr hloaded

theorem ChecksAgainst.exists_report (h : d.ChecksAgainst database table snapshot)
    (hcoherent : d.Coherent database) :
    ∃ report, d.connection.catalog.table? database table = some report := by
  rcases h with hslot | ⟨-, report, htable, -⟩
  · obtain ⟨report, htable, -⟩ := hcoherent table _ hslot
    exact ⟨report, htable⟩
  · exact ⟨report, htable⟩

/-! ## The failures one by one -/

theorem addColumns_error_kind {columns : List NewColumn} {error : TransformError}
    {c c' : Connection} (h : addColumns database table columns c = (.error error, c')) :
    ∃ column cause, error = .alteration column table cause := by
  obtain ⟨-, column, -, cause, -, -, herror, -, -⟩ := addColumns_error h
  exact ⟨column.name, cause, herror⟩

theorem Outcome.of_missingTable {database' table' : String}
    (h : d.Outcome database evolution table event (.error (.missingTable database' table')) d') :
    d.cache.slot? table = none ∧ d'.cache = d.cache := by
  cases h with
  | unconfirmed hconfirm =>
    cases hconfirm with
    | absent hnone => exact ⟨hnone, rfl⟩
  | unknown _ _ hload => cases hload
  | unaltered _ _ hadded =>
    obtain ⟨column, cause, herror⟩ := addColumns_error_kind hadded
    cases herror
  | unrefreshed _ _ _ _ hload => cases hload

/-- A catalog error comes from the look-up, from the first load, or from the load that follows
additions. -/
theorem Outcome.of_catalog {table' : String} {cause : CatalogError}
    (hcoherent : d.Coherent database)
    (h : d.Outcome database evolution table event (.error (.catalog table' cause)) d') :
    (d.cache.slot? table = none ∧ d'.cache = d.cache ∧
        d'.connection.tried.loads = d.connection.tried.loads) ∨
      (d'.cache.slot? table = some .unloaded ∧
        d.connection.tried.loads < d'.connection.tried.loads) ∨
      (d.connection.tried.loads < d'.connection.tried.loads ∧
        d.connection.tried.additions < d'.connection.tried.additions) := by
  cases h with
  | unconfirmed hconfirm =>
    have hloads := hconfirm.loads
    cases hconfirm with
    | failed hnone => exact .inl ⟨hnone, rfl, hloads⟩
  | unknown hconfirm hunknown hload =>
    have hloads := hload.tried_of_error.1
    rw [hconfirm.loads] at hloads
    refine .inr (.inl ⟨?_, ?_⟩)
    · rw [hload.cache_of_error]
      exact hconfirm.slot_of_unknown hunknown
    · omega
  | unaltered _ _ hadded =>
    obtain ⟨column, cause', herror⟩ := addColumns_error_kind hadded
    cases herror
  | unrefreshed hopened hmissing _ hadded hload =>
    obtain ⟨report, hheld⟩ := hopened.checksAgainst.exists_report hcoherent
    have hlt := hopened.additions_lt hmissing hheld hadded
    have hbefore := hopened.asked.loads
    have hadding := (addColumns_ok (hopened.asked.held hheld) hadded).loads
    obtain ⟨hloads, hadditions⟩ := hload.tried_of_error
    dsimp only at hloads hadditions
    exact .inr (.inr ⟨by omega, by omega⟩)

theorem Outcome.of_evolutionDisabled {table' : String} {names : List String}
    (h : d.Outcome database evolution table event (.error (.evolutionDisabled table' names)) d') :
    ∃ snapshot, d.ChecksAgainst database table snapshot ∧
      names = (missing snapshot event).map EventField.name ∧
      d'.cache.slot? table = some (.loaded snapshot) ∧
      d'.connection.catalog.table? database table =
        d.connection.catalog.table? database table := by
  cases h with
  | unconfirmed hconfirm => cases hconfirm
  | unknown _ _ hload => cases hload
  | disabled hopened =>
    exact ⟨_, hopened.checksAgainst, rfl, hopened.slot, hopened.asked.agrees.table? _ _⟩
  | unaltered _ _ hadded =>
    obtain ⟨column, cause, herror⟩ := addColumns_error_kind hadded
    cases herror
  | unrefreshed _ _ _ _ hload => cases hload

theorem Outcome.of_alteration {column table' : String} {cause : CatalogError}
    (hcoherent : d.Coherent database)
    (h : d.Outcome database evolution table event (.error (.alteration column table' cause)) d') :
    ∃ snapshot report done field rest, d.ChecksAgainst database table snapshot ∧
      missing snapshot event = done ++ field :: rest ∧ field.name = column ∧
      d'.connection.tried.additions = d.connection.tried.additions + done.length + 1 ∧
      d'.cache.slot? table = some (.loaded snapshot) ∧
      d.connection.catalog.table? database table = some report ∧
      d'.connection.catalog.table? database table = some (withFields report done) := by
  cases h with
  | unconfirmed hconfirm => cases hconfirm
  | unknown _ _ hload => cases hload
  | unaltered hopened _ hadded =>
    obtain ⟨report, hheld⟩ := hopened.checksAgainst.exists_report hcoherent
    obtain ⟨done, field, rest, cause', hmissing, herror, htable, -, htried⟩ :=
      addColumns_error_of_fields (hopened.asked.held hheld) hadded
    cases herror
    rw [hopened.asked.additions] at htried
    exact ⟨_, report, done, field, rest, hopened.checksAgainst, hmissing, rfl, htried,
      hopened.slot, hheld, htable⟩
  | unrefreshed _ _ _ _ hload => cases hload

/-! ## All failures -/

/-- A table that is missing or could not be looked up stays unknown, and of one whose columns could
not be loaded only the existence is known.  When evolution is disabled or the `k`-th addition fails,
the cache has the columns that the event was checked against, with none of those added, and the
table has gained the columns of the `k - 1` missing fields before the failing one, in their order.
In every case all else is as it was. -/
theorem failure_leaves (hreach : Reachable database evolution d)
    (hensured : d.ensureColumns database evolution table event = (answer, d')) :
    (∀ database' table', answer = .error (.missingTable database' table') →
      d.cache.slot? table = none ∧ d'.cache.slot? table = none) ∧
    (∀ table' cause, answer = .error (.catalog table' cause) →
      d'.connection.tried.loads = d.connection.tried.loads →
      d.cache.slot? table = none ∧ d'.cache.slot? table = none) ∧
    (∀ table' cause, answer = .error (.catalog table' cause) →
      d.connection.tried.loads < d'.connection.tried.loads →
      d'.connection.tried.additions = d.connection.tried.additions →
      d'.cache.slot? table = some .unloaded) ∧
    (∀ table' names, answer = .error (.evolutionDisabled table' names) →
      ∃ snapshot, d.ChecksAgainst database table snapshot ∧
        names = (missing snapshot event).map EventField.name ∧
        d'.cache.slot? table = some (.loaded snapshot) ∧
        d'.connection.catalog.table? database table =
          d.connection.catalog.table? database table) ∧
    (∀ column table' cause, answer = .error (.alteration column table' cause) →
      ∃ snapshot report done field rest, d.ChecksAgainst database table snapshot ∧
        missing snapshot event = done ++ field :: rest ∧ field.name = column ∧
        d'.connection.tried.additions = d.connection.tried.additions + done.length + 1 ∧
        d'.cache.slot? table = some (.loaded snapshot) ∧
        (∀ added ∈ done, snapshot.hasColumn added.name = false) ∧
        d.connection.catalog.table? database table = some report ∧
        d'.connection.catalog.table? database table = some
          { report with
            columns := report.columns ++ done.map fun added =>
              { name := added.name
                typeName := added.type.columnType added.schema
                comment := added.schema.doc.getD "" } }) ∧
    (∀ other, other ≠ table → d'.cache.slot? other = d.cache.slot? other) ∧
    ∀ database' table', (database', table') ≠ (database, table) →
      d'.connection.catalog.table? database' table' =
        d.connection.catalog.table? database' table' := by
  have houtcome := outcome_of_ensureColumns hensured
  have hconfined := houtcome.confined
  refine ⟨?_, ?_, ?_, ?_, ?_, hconfined.slots, hconfined.connection.others⟩
  · rintro database' table' rfl
    obtain ⟨hnone, hcache⟩ := houtcome.of_missingTable
    exact ⟨hnone, hcache ▸ hnone⟩
  · rintro table' cause rfl hloads
    rcases houtcome.of_catalog hreach.coherent with ⟨hnone, hcache, -⟩ | ⟨-, hlt⟩ | ⟨hlt, -⟩
    · exact ⟨hnone, hcache ▸ hnone⟩
    · omega
    · omega
  · rintro table' cause rfl hloads hadditions
    rcases houtcome.of_catalog hreach.coherent with ⟨-, -, hsame⟩ | ⟨hslot, -⟩ | ⟨-, hlt⟩
    · omega
    · exact hslot
    · omega
  · rintro table' names rfl
    exact houtcome.of_evolutionDisabled
  · rintro column table' cause rfl
    obtain ⟨snapshot, report, done, field, rest, hchecks, hmissing, hname, htried, hslot, hheld,
      htable⟩ := houtcome.of_alteration hreach.coherent
    refine ⟨snapshot, report, done, field, rest, hchecks, hmissing, hname, htried, hslot, ?_,
      hheld, ?_⟩
    · intro added hadded
      have hmem : added ∈ missing snapshot event := by simp [hmissing, hadded]
      exact (mem_missing.1 hmem).2
    · rw [htable, withFields_eq]

/-- A table with a column `a` in a catalog that refuses columns with the name `c`. -/
def refusingC : Destination :=
  ofCatalog ((ofTextColumns "db" "t" ["a"] .never).connection.catalog.refusing "c") .never

/-- `b` is added before `c` is refused, and the cache does not have it. -/
theorem failure_leaves_refusingC :
    let d := (refusingC.ensureColumns "db" .basic "t" (textEvent "t" ["b", "c", "e"])).2
    Reachable "db" .basic refusingC ∧
      refusingC.ensureColumns "db" .basic "t" (textEvent "t" ["b", "c", "e"]) =
        (.error (.alteration "c" "t" (.refused "c")), d) ∧
      ∃ snapshot, d.cache.slot? "t" = some (.loaded snapshot) ∧
        snapshot.hasColumn "b" = false ∧
        d.connection.catalog.table? "db" "t" =
          some ⟨"UNIQUE_KEYS", [⟨"a", "STRING", ""⟩, ⟨"b", "STRING", ""⟩]⟩ := by
  intro d
  have hreach : Reachable "db" .basic refusingC := .fresh _ _
  have hensured : refusingC.ensureColumns "db" .basic "t" (textEvent "t" ["b", "c", "e"]) =
      (.error (.alteration "c" "t" (.refused "c")), d) := rfl
  obtain ⟨-, -, -, -, halteration, -⟩ := failure_leaves hreach hensured
  obtain ⟨snapshot, report, done, field, rest, hchecks, hmissing, -, htried, hslot, hlacks, hheld,
    htable⟩ := halteration _ _ _ rfl
  have htwice : d.connection.tried.additions = 2 := rfl
  obtain ⟨added, rfl⟩ : ∃ added, done = [added] := by
    refine List.length_eq_one_iff.1 ?_
    rw [htwice] at htried
    have hnone : refusingC.connection.tried.additions = 0 := rfl
    omega
  have hbefore : refusingC.connection.catalog.table? "db" "t" =
      some ⟨"UNIQUE_KEYS", [⟨"a", "STRING", ""⟩]⟩ := rfl
  cases hheld.symm.trans hbefore
  -- Nothing is known of the table, so the event is checked against the columns that it has.
  rcases hchecks with hknown | ⟨-, loaded, hloaded, hsnapshot⟩
  · cases hknown
  · cases hloaded.symm.trans hbefore
    rw [hsnapshot] at hmissing
    cases hmissing
    exact ⟨hreach, hensured, snapshot, hslot, hlacks _ List.mem_cons_self, htable⟩

end TableFeed.Destination
