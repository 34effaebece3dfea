import TableFeed.Proofs.Destination.Coherence

/-!
# The cache after an alteration

Once all missing columns are added, the columns of the table are loaded again, and that
load may fail.  `stale_iff_refresh_failed` says that this is the one way in which a
completed alteration leaves the cache with columns that lack an added one, and that the
cache then lacks all of them.
-/

namespace TableFeed.Destination

/-- A table has a column that it did not have before. -/
def Gained (database table : String) (d d' : Destination) (name : String) : Prop :=
  d'.connection.catalog.HasColumn database table name ∧
    ¬ d.connection.catalog.HasColumn database table name

/-- What the cache knows of a table's columns lacks one that was added. -/
def Stale (database table : String) (d d' : Destination) : Prop :=
  ∃ snapshot name, d'.cache.slot? table = some (.loaded snapshot) ∧
    Gained database table d d' name ∧ snapshot.hasColumn name = false

/-- Every addition that was tried has left its statement. -/
def AdditionsDone (d d' : Destination) : Prop :=
  d'.connection.tried.additions + d.connection.catalog.statements.length =
    d.connection.tried.additions + d'.connection.catalog.statements.length

variable {database table : String} {evolution : Evolution} {event : Event}
  {d d₁ d' : Destination} {snapshot : TableSnapshot}

/-- Questions add no column. -/
theorem not_gained_of_asked (h : d.connection.Asked d'.connection) {name : String} :
    ¬ Gained database table d d' name := by
  rintro ⟨hafter, hbefore⟩
  exact hbefore (h.agrees.hasColumn_iff.1 hafter)

theorem not_stale_of_asked (h : d.connection.Asked d'.connection) :
    ¬ Stale database table d d' := by
  rintro ⟨snapshot, name, -, hgained, -⟩
  exact not_gained_of_asked h hgained

/-- Additions that break off leave a try without a statement. -/
theorem not_additionsDone_of_error {report : TableReport} {columns : List NewColumn}
    {error : TransformError} {c : Connection} (hasked : d.connection.Asked d₁.connection)
    (htable : d₁.connection.catalog.table? database table = some report)
    (hadded : addColumns database table columns d₁.connection = (.error error, c)) :
    ¬ AdditionsDone d { d₁ with connection := c } := by
  obtain ⟨done, column, rest, cause, middle, -, -, hdone, hfailed⟩ := addColumns_error hadded
  have hextended := addColumns_ok htable hdone
  have houtcome := middle.addColumn_outcome database table column
  rw [hfailed] at houtcome
  obtain ⟨hagrees, -, htried⟩ := houtcome.failed
  have hstatements : c.catalog.statements.length =
      d.connection.catalog.statements.length + done.length := by
    rw [hagrees.statements, hextended.statements, hasked.agrees.statements]
    simp
  -- The one that failed is counted among the tries and not among the statements.
  have htries : c.tried.additions = d.connection.tried.additions + done.length + 1 := by
    rw [htried, hextended.additions, hasked.additions]
  simp only [AdditionsDone, hstatements, htries]
  omega

/-- Where every addition was carried out, either nothing but questions were asked, or all missing
columns were added and the columns were loaded once more. -/
theorem Outcome.asked_or_extended {answer : Except TransformError TableSnapshot}
    (houtcome : d.Outcome database evolution table event answer d') (h : d.Coherent database)
    (hdone : AdditionsDone d d') :
    d.connection.Asked d'.connection ∨ ∃ snapshot d₁ c report,
      d.Opened database table snapshot d₁ ∧ missing snapshot event ≠ [] ∧
        d₁.connection.catalog.table? database table = some report ∧
        Connection.Extended database table report
          ((missing snapshot event).map EventField.column) d₁.connection c ∧
        LoadOutcome database table { d₁ with connection := c } answer d' := by
  cases houtcome with
  | unconfirmed hconfirm => exact .inl hconfirm.asked
  | unknown hconfirm _ hload => exact .inl (hconfirm.asked.trans hload.asked)
  | covered hopened => exact .inl hopened.asked
  | disabled hopened => exact .inl hopened.asked
  | unaltered hopened _ hadded =>
    obtain ⟨report, htable, -⟩ := hopened.coherent h table _ hopened.slot
    exact absurd hdone (not_additionsDone_of_error hopened.asked htable hadded)
  | unrefreshed hopened hmissing _ hadded hload =>
    obtain ⟨report, htable, -⟩ := hopened.coherent h table _ hopened.slot
    exact .inr ⟨_, _, _, report, hopened, hmissing, htable, addColumns_ok htable hadded, hload⟩
  | refreshed hopened hmissing _ hadded hload =>
    obtain ⟨report, htable, -⟩ := hopened.coherent h table _ hopened.slot
    exact .inr ⟨_, _, _, report, hopened, hmissing, htable, addColumns_ok htable hadded, hload⟩

/-- After a load that succeeded the cache has every column of the table. -/
theorem not_stale_of_refreshed {fresh : TableSnapshot} {c : Connection}
    (hload : LoadOutcome database table { d₁ with connection := c } (.ok fresh) d') :
    ¬ Stale database table d d' := by
  obtain ⟨after, hafter, rfl, -, -, hcache⟩ := hload.of_ok
  rintro ⟨other, name, hslot, hname, hlacks⟩
  rw [hcache, TableCache.slot?_set, if_pos rfl] at hslot
  cases hslot
  have hcolumn := hload.asked.agrees.hasColumn_iff.1 hname.1
  rw [Catalog.hasColumn_iff hafter, ← TableReport.hasColumn_iff] at hcolumn
  rw [TableSnapshot.hasColumn_ofReport, hcolumn] at hlacks
  cases hlacks

section Completed

variable {report : TableReport} {c : Connection} (hopened : d.Opened database table snapshot d₁)
  (htable : d₁.connection.catalog.table? database table = some report)
  (hextended : Connection.Extended database table report
    ((missing snapshot event).map EventField.column) d₁.connection c)

include hopened htable hextended

/-- The columns that a completed alteration adds are those that were missing. -/
theorem gained_iff_missing (hasked : c.Asked d'.connection) {name : String} :
    Gained database table d d' name ↔ ∃ field ∈ missing snapshot event, field.name = name := by
  have hnames : ((missing snapshot event).map EventField.column).map NewColumn.name =
      (missing snapshot event).map EventField.name := by
    rw [List.map_map]
    rfl
  rw [Gained, hasked.agrees.hasColumn_iff, hextended.hasColumn_iff,
    ← hopened.asked.agrees.hasColumn_iff, Catalog.hasColumn_iff htable, hnames, List.mem_map]
  constructor
  · rintro ⟨hold | hnew, hbefore⟩
    · exact absurd hold hbefore
    · exact hnew
  · rintro ⟨field, hfield, rfl⟩
    exact ⟨.inr ⟨field, hfield, rfl⟩, hextended.fresh _ (List.mem_map_of_mem hfield)⟩

/-- After a load that failed the cache has what it had, which lacks every added column. -/
theorem lacks_gained_of_unrefreshed {error : TransformError}
    (hload : LoadOutcome database table { d₁ with connection := c } (.error error) d') :
    d'.cache.slot? table = some (.loaded snapshot) ∧
      ∀ name, Gained database table d d' name → snapshot.hasColumn name = false := by
  have hgained := @gained_iff_missing _ _ _ _ _ _ _ _ _ hopened htable hextended hload.asked
  obtain ⟨-, -, rfl⟩ := hload.of_error hextended.grown
  refine ⟨hopened.slot, fun name hname => ?_⟩
  obtain ⟨field, hfield, rfl⟩ := hgained.1 hname
  exact (mem_missing.1 hfield).2

/-- Such a load met an outage after additions, and leaves the cache without an added column. -/
theorem stale_of_unrefreshed {error : TransformError} (hmissing : missing snapshot event ≠ [])
    (hload : LoadOutcome database table { d₁ with connection := c } (.error error) d') :
    Stale database table d d' ∧ error = .catalog table d.connection.outError ∧
      d.connection.tried.additions < d'.connection.tried.additions ∧
        d.connection.outages.load d'.connection.tried.loads = true := by
  have houtages : c.outages = d.connection.outages :=
    hextended.outages.trans hopened.asked.outages
  obtain ⟨hslot, hlacks⟩ := lacks_gained_of_unrefreshed hopened htable hextended hload
  obtain ⟨field, hfield⟩ := List.exists_mem_of_ne_nil _ hmissing
  have hgained : Gained database table d d' field.name :=
    (gained_iff_missing hopened htable hextended hload.asked).2 ⟨field, hfield, rfl⟩
  obtain ⟨rfl, hout, rfl⟩ := hload.of_error hextended.grown
  refine ⟨⟨snapshot, field.name, hslot, hgained, hlacks _ hgained⟩, ?_, ?_, ?_⟩
  · simp only [Connection.outError, houtages]
  · have hpos : 0 < (missing snapshot event).length := List.length_pos_iff.2 hmissing
    have htried : c.tried.additions =
        d.connection.tried.additions + (missing snapshot event).length := by
      rw [hextended.additions, List.length_map, hopened.asked.additions]
    have hloaded : c.tryLoad.tried.additions = c.tried.additions := rfl
    simp only [hloaded]
    omega
  · exact houtages ▸ hout

end Completed

/-- A completed alteration leaves the cache without an added column exactly when columns were
added and the load after them met an outage.  The failure is told, and the cache then lacks every
added column. -/
theorem stale_iff_refresh_failed {answer : Except TransformError TableSnapshot}
    (hreach : Reachable database evolution d)
    (hensured : d.ensureColumns database evolution table event = (answer, d'))
    (hdone : AdditionsDone d d') :
    (Stale database table d d' ↔
      d.connection.tried.additions < d'.connection.tried.additions ∧
        d.connection.outages.load d'.connection.tried.loads = true) ∧
    (Stale database table d d' →
      answer = .error (.catalog table d.connection.outError) ∧
        ∀ snapshot name, d'.cache.slot? table = some (.loaded snapshot) →
          Gained database table d d' name → snapshot.hasColumn name = false) := by
  have houtcome := outcome_of_ensureColumns hensured
  rcases houtcome.asked_or_extended hreach.coherent hdone with hasked |
    ⟨snapshot, d₁, c, report, hopened, hmissing, htable, hextended, hload⟩
  · have hsame := hasked.additions
    exact ⟨⟨fun h => absurd h (not_stale_of_asked hasked), fun h => by omega⟩,
      fun h => absurd h (not_stale_of_asked hasked)⟩
  · cases answer with
    | error error =>
      obtain ⟨hslot, hlacks⟩ := lacks_gained_of_unrefreshed hopened htable hextended hload
      obtain ⟨hstale, rfl, htried, hout⟩ :=
        stale_of_unrefreshed hopened htable hextended hmissing hload
      refine ⟨⟨fun _ => ⟨htried, hout⟩, fun _ => hstale⟩, fun _ => ⟨rfl, ?_⟩⟩
      intro other name hother hname
      rw [hslot] at hother
      cases hother
      exact hlacks name hname
    | ok fresh =>
      have hfresh : ¬ Stale database table d d' := not_stale_of_refreshed hload
      have houtages := hextended.outages.trans hopened.asked.outages
      obtain ⟨after, -, rfl, hreached, hloads, -⟩ := hload.of_ok
      refine ⟨⟨fun h => absurd h hfresh, fun h => ?_⟩, fun h => absurd h hfresh⟩
      rw [hloads, ← houtages, hreached] at h
      cases h.2

/-! ## A refresh that fails -/

/-- The outages of a connection that is out at the second load. -/
def secondLoad : Outages :=
  ⟨fun _ => false, (· == 2), fun _ => false, "injected"⟩

/-- A table with a column `a` behind a connection that is out at the second load. -/
def secondLoadOut : Destination :=
  ofTextColumns "db" "t" ["a"] secondLoad

/-- `secondLoadOut` after columns `a` and `b` were asked of it. -/
def secondLoadLost : Destination :=
  (secondLoadOut.ensureColumns "db" .basic "t" (textEvent "t" ["a", "b"])).2

theorem secondLoadOut_reachable : Reachable "db" .basic secondLoadOut :=
  .fresh _ _

/-- The theorem sees the failure of this refresh. -/
theorem stale_secondLoadLost_of_refresh_failed :
    Reachable "db" .basic secondLoadOut ∧ AdditionsDone secondLoadOut secondLoadLost ∧
      Stale "db" "t" secondLoadOut secondLoadLost := by
  have hdone : AdditionsDone secondLoadOut secondLoadLost := by
    unfold AdditionsDone
    decide
  have hensured : secondLoadOut.ensureColumns "db" .basic "t" (textEvent "t" ["a", "b"]) =
      (.error (.catalog "t" (.connection "injected")), secondLoadLost) := rfl
  have hstale := (stale_iff_refresh_failed secondLoadOut_reachable hensured hdone).1
  exact ⟨secondLoadOut_reachable, hdone, hstale.2 (by decide)⟩

/-- A completed alteration can leave the cache without an added column. -/
theorem exists_stale_of_additionsDone :
    ¬ ∀ (database table : String) (evolution : Evolution) (event : Event) (d : Destination),
      Reachable database evolution d →
      AdditionsDone d (d.ensureColumns database evolution table event).2 →
      ¬ Stale database table d (d.ensureColumns database evolution table event).2 := by
  intro h
  refine h "db" "t" .basic (textEvent "t" ["a", "b"]) secondLoadOut secondLoadOut_reachable ?_ ?_
  · unfold AdditionsDone
    decide
  · let before : TableReport := ⟨"UNIQUE_KEYS", [⟨"a", "STRING", ""⟩]⟩
    let after : TableReport := before.push ⟨"b", "STRING", ""⟩
    have hbefore : secondLoadOut.connection.catalog.table? "db" "t" = some before := rfl
    have hafter : secondLoadLost.connection.catalog.table? "db" "t" = some after := rfl
    refine ⟨.ofReport "t" before, "b", rfl, ⟨?_, ?_⟩, rfl⟩
    · exact (Catalog.hasColumn_iff hafter).2 (by decide)
    · rw [Catalog.hasColumn_iff hbefore]
      decide

end TableFeed.Destination
