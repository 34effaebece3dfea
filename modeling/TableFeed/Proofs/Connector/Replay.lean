import TableFeed.Proofs.Connector.Transform
import TableFeed.Proofs.Delivery.Content
import TableFeed.Proofs.Destination.History

/-!
# Records that come again

A record that was answered once gets the same answer at any later time, and getting it takes
no call (`Connector.transform_again`).  The reason is that the columns that the cache has of a
table are never lost: not when other events add more, nor when anything fails.  So an event
that was *covered* by the known columns of its table stays so (`Destination.Covers.later`),
and a covered event needs nothing from the catalog.
-/

namespace TableFeed

/-! ## Covered events -/

namespace Destination

variable {database table : String} {evolution : Evolution} {event : Event} {d d' : Destination}
  {snapshot : TableSnapshot}

/-- The known columns of a table include all that an event needs. -/
def Covers (d : Destination) (table : String) (event : Event) : Prop :=
  ∃ snapshot, d.cache.slot? table = some (.loaded snapshot) ∧ missing snapshot event = []

theorem covers_of_ensureColumns (hcoherent : d.Coherent database)
    (h : d.ensureColumns database evolution table event = (.ok snapshot, d')) :
    d'.Covers table event := by
  cases outcome_of_ensureColumns h with
  | covered hopened hmissing => exact ⟨snapshot, hopened.slot, hmissing⟩
  | refreshed hopened _ _ hadded hload =>
    obtain ⟨report, htable, rfl, -, -, hcache⟩ := hload.of_ok
    refine ⟨.ofReport table report, ?_, missing_eq_nil_iff.2 ?_⟩
    · rw [hcache, TableCache.slot?_set, if_pos rfl]
    · intro field hfield
      have hcolumn := hasColumn_of_added hopened hcoherent hadded field hfield
      rw [TableSnapshot.hasColumn_ofReport, TableReport.hasColumn_iff]
      exact (Catalog.hasColumn_iff htable).1 hcolumn

namespace Covers

/-- A covered event needs no call. -/
theorem ensureColumns (h : d.Covers table event) (database : String) (evolution : Evolution) :
    ∃ snapshot, d.ensureColumns database evolution table event = (.ok snapshot, d) := by
  obtain ⟨snapshot, hslot, hmissing⟩ := h
  exact ⟨snapshot, by rw [ensureColumns_of_known hslot, if_pos hmissing]⟩

theorem later (h : d.Covers table event) (hcoherent : d.Coherent database)
    (hensured : Ensured database evolution d d') : d'.Covers table event := by
  obtain ⟨snapshot, hslot, hmissing⟩ := h
  have hadvances := hensured.advances hcoherent table
  rw [hslot] at hadvances
  obtain ⟨fresh, hfresh, hkept⟩ := hadvances.exists_loaded
  refine ⟨fresh, hfresh, missing_eq_nil_iff.2 ?_⟩
  intro field hfield
  have hcolumn := missing_eq_nil_iff.1 hmissing field hfield
  exact TableSnapshot.mem_columnNames.1 (hkept _ (TableSnapshot.mem_columnNames.2 hcolumn))

end Covers

end Destination

/-! ## Records -/

namespace Connector

variable {c : Connector} {record : Record} {catalog : Catalog} {outages : Outages}
  {d d' : Destination} {event : Event} {table : String} {payload : Option String}

/-- Where an event was answered it is covered, and where it is covered it is answered so. -/
theorem IsEvent.covers (hevent : c.IsEvent record event table)
    (hcoherent : d.Coherent c.config.database) (h : c.transform record d = (.ok payload, d')) :
    d'.Covers table event ∧
      ∀ later : Destination, later.Covers table event →
        c.transform record later = (.ok payload, later) := by
  rw [hevent] at h
  rcases hensured : d.ensureColumns c.config.database c.config.evolution table event
    with ⟨_ | snapshot, after⟩
  · rw [hensured] at h
    cases h
  · rw [hensured] at h
    obtain ⟨hrow, rfl⟩ := Prod.mk.inj h
    refine ⟨Destination.covers_of_ensureColumns hcoherent hensured, ?_⟩
    intro later hcovers
    obtain ⟨fresh, hagain⟩ := hcovers.ensureColumns c.config.database c.config.evolution
    rw [hevent, hagain]
    exact Prod.ext hrow rfl

/-- A record that was answered at one moment gets the same answer whatever records came in between
and whatever failed there.  The destination stays as it is, down to the numbers of calls tried, so
no call is made for it. -/
theorem transform_again {before : List Record}
    (h : c.transform record (c.transformAll before (.ofCatalog catalog outages)).2 =
      (.ok payload, d)) (between : List Record) :
    let later := (c.transformAll between d).2
    c.transform record later = (.ok payload, later) := by
  intro later
  rcases c.inert_or_event record with ⟨answer, hinert⟩ | ⟨event, table, -, hevent⟩
  · rw [hinert] at h ⊢
    cases h
    rfl
  · have hbefore := (c.transformAll_ensured before (.ofCatalog catalog outages)).coherent
      (Destination.coherent_ofCatalog c.config.database catalog outages)
    obtain ⟨hcovers, hagain⟩ := hevent.covers hbefore h
    have hcoherent := (c.transform_ensured record _).coherent hbefore
    rw [h] at hcoherent
    exact hagain later (hcovers.later hcoherent (c.transformAll_ensured between d))

/-- A record of a topic whose one field is a text `x`. -/
def textRecord (topic : String) : Record :=
  let row := Schema.ofFields "row" [("x", .ofKind .string)]
  .ofValue topic 0 1 (some row) (.struct ⟨row, [("x", .string "1")]⟩)

/-- The row is the same after a record that gave its table a column and one that has no table. -/
theorem transform_again_signedRecord :
    ∃ payload d, Run.eventConnector.transform signedRecord Run.bareStart.destination =
        (.ok (some payload), d) ∧
      let later := (Run.eventConnector.transformAll [textRecord "t", textRecord "u"] d).2
      d.connection.tried = ⟨1, 2, 3⟩ ∧ later.connection.tried = ⟨2, 3, 4⟩ ∧
        Run.eventConnector.transform signedRecord later = (.ok (some payload), later) := by
  have hsome : (Run.eventConnector.transform signedRecord
      Run.bareStart.destination).1.toOption.join.isSome = true := by
    decide +kernel
  obtain ⟨payload, hpayload⟩ := Run.exists_payload_of_isSome hsome
  have htransform : Run.eventConnector.transform signedRecord (Run.eventConnector.transformAll []
      Run.bareStart.destination).2 = (.ok (some payload), (Run.eventConnector.transform signedRecord
        Run.bareStart.destination).2) := by
    rw [← hpayload]
    rfl
  refine ⟨payload, _, htransform, by decide +kernel, by decide +kernel, ?_⟩
  exact transform_again htransform [textRecord "t", textRecord "u"]

end Connector

end TableFeed
