import TableFeed.Proofs.Destination.Dialogue
import TableFeed.Proofs.Destination.Ensured
import TableFeed.Proofs.Destination.Ready

/-!
# The history of a cache

Over a run in which columns are ensured for any events of any tables, whatever fails, the
cache follows the catalog (`cache_follows_catalog`).  It knows only tables that exist.  The
columns that it knows were those of the table at some earlier moment, and are still among
them.  What it knows of a table moves in one direction (`CachedTable.Advance`), and a table
that was found once is never looked up again.

The moments of a run are the states between two events.  They are enough: a table that is
loaded when an event begins has the columns that it had before the event, and one that is
loaded at its end has the columns that it has after it (`Outcome.learnt`).
-/

namespace TableFeed

/-! ## What is known of a table -/

namespace CachedTable

/-- One move of what is known of a table: it is found, its columns are learnt, or they are learnt
anew and none is lost. -/
inductive Advance : Option CachedTable → Option CachedTable → Prop where
  | found : Advance none (some .unloaded)
  | loaded (snapshot : TableSnapshot) : Advance (some .unloaded) (some (.loaded snapshot))
  | reloaded {old new : TableSnapshot} : (∀ name ∈ old.columnNames, name ∈ new.columnNames) →
      Advance (some (.loaded old)) (some (.loaded new))

/-- Any number of moves. -/
def Advances : Option CachedTable → Option CachedTable → Prop :=
  Relation.ReflTransGen Advance

namespace Advances

theorem refl (slot : Option CachedTable) : Advances slot slot :=
  Relation.ReflTransGen.refl

theorem trans {first second third : Option CachedTable} (h : Advances first second)
    (h' : Advances second third) : Advances first third :=
  Relation.ReflTransGen.trans h h'

theorem single {slot slot' : Option CachedTable} (h : Advance slot slot') : Advances slot slot' :=
  Relation.ReflTransGen.single h

/-- What is known is not forgotten. -/
theorem isSome {slot slot' : Option CachedTable} (h : Advances slot slot')
    (hslot : slot.isSome = true) : slot'.isSome = true := by
  induction h with
  | refl => exact hslot
  | tail _ hmove _ =>
    cases hmove with
    | found => rfl
    | loaded => rfl
    | reloaded => rfl

/-- Columns that are known stay known. -/
theorem exists_loaded {old : TableSnapshot} {slot : Option CachedTable}
    (h : Advances (some (.loaded old)) slot) :
    ∃ new, slot = some (.loaded new) ∧ ∀ name ∈ old.columnNames, name ∈ new.columnNames := by
  induction h with
  | refl => exact ⟨old, rfl, fun _ hname => hname⟩
  | tail _ hmove ih =>
    obtain ⟨middle, rfl, hkept⟩ := ih
    cases hmove with
    | reloaded hmore => exact ⟨_, rfl, fun name hname => hmore name (hkept name hname)⟩

end Advances

end CachedTable

namespace Destination

open Dialogue CachedTable

variable {database table : String} {evolution : Evolution} {event : Event}
  {d d₁ d' : Destination} {snapshot : TableSnapshot}

/-! ## One event -/

theorem ConfirmOutcome.advances {answer : Except TransformError Unit}
    (h : d.ConfirmOutcome database table answer d') (other : String) :
    Advances (d.cache.slot? other) (d'.cache.slot? other) := by
  cases h with
  | known => exact .refl _
  | failed => exact .refl _
  | absent => exact .refl _
  | found hnone =>
    rw [TableCache.slot?_set]
    split
    · next heq =>
      rw [heq, hnone]
      exact .single .found
    · exact .refl _

theorem Opened.advances (h : d.Opened database table snapshot d') (other : String) :
    Advances (d.cache.slot? other) (d'.cache.slot? other) := by
  by_cases hother : other = table
  · subst hother
    rcases h.source with ⟨-, rfl⟩ | ⟨hunknown, -⟩
    · exact .refl _
    · rw [h.slot]
      -- The columns were not known, so there are two places to start from.
      unfold TableCache.snapshot? at hunknown
      cases hslot : d.cache.slot? other with
      | none => exact (Advances.single .found).trans (.single (.loaded snapshot))
      | some cached =>
        cases cached with
        | unloaded => exact .single (.loaded snapshot)
        | loaded known =>
          rw [hslot] at hunknown
          cases hunknown
  · rw [h.others other hother]
    exact .refl _

/-- Columns that are learnt anew after additions are those that were known and more. -/
theorem LoadOutcome.advances {fresh : TableSnapshot} {c : Connection}
    (hcoherent : d₁.Coherent database) (hslot : d₁.cache.slot? table = some (.loaded snapshot))
    (hlater : d₁.connection.Later c)
    (hload : LoadOutcome database table { d₁ with connection := c } (.ok fresh) d')
    (other : String) : Advances (d₁.cache.slot? other) (d'.cache.slot? other) := by
  obtain ⟨report, htable, rfl, -, -, hcache⟩ := hload.of_ok
  rw [hcache, TableCache.slot?_set]
  split
  · next heq =>
    rw [heq, hslot]
    refine .single (.reloaded fun name hname => ?_)
    have hcolumn := (hcoherent table _ hslot).hasColumn (TableSnapshot.mem_columnNames.1 hname)
    have hgrown := (Catalog.hasColumn_iff htable).1 (hlater.grows.hasColumn hcolumn)
    rwa [TableSnapshot.mem_columnNames, TableSnapshot.hasColumn_ofReport,
      TableReport.hasColumn_iff]
  · exact .refl _

theorem Outcome.advances {answer : Except TransformError TableSnapshot}
    (h : d.Outcome database evolution table event answer d') (hcoherent : d.Coherent database)
    (other : String) : Advances (d.cache.slot? other) (d'.cache.slot? other) := by
  cases h with
  | unconfirmed hconfirm => exact hconfirm.advances other
  | unknown hconfirm _ hload =>
    rw [hload.cache_of_error]
    exact hconfirm.advances other
  | covered hopened => exact hopened.advances other
  | disabled hopened => exact hopened.advances other
  | unaltered hopened => exact hopened.advances other
  | unrefreshed hopened _ _ _ hload =>
    rw [hload.cache_of_error]
    exact hopened.advances other
  | refreshed hopened _ _ hadded hload =>
    exact (hopened.advances other).trans
      (hload.advances (hopened.coherent hcoherent) hopened.slot (addColumns_later hadded) other)

theorem Opened.learnt {known : TableSnapshot} {other : String}
    (h : d.Opened database table snapshot d')
    (hslot : d'.cache.slot? other = some (.loaded known)) :
    d.cache.slot? other = some (.loaded known) ∨ ∃ report,
      known = .ofReport other report ∧
      d.connection.catalog.table? database other = some report := by
  by_cases hother : other = table
  · subst hother
    rw [h.slot] at hslot
    cases hslot
    rcases h.source with ⟨hcached, -⟩ | ⟨-, report, htable, rfl⟩
    · exact .inl hcached
    · exact .inr ⟨report, rfl, htable⟩
  · rw [h.others other hother] at hslot
    exact .inl hslot

theorem ConfirmOutcome.learnt {answer : Except TransformError Unit} {known : TableSnapshot}
    {other : String} (h : d.ConfirmOutcome database table answer d')
    (hslot : d'.cache.slot? other = some (.loaded known)) :
    d.cache.slot? other = some (.loaded known) := by
  cases h with
  | known => exact hslot
  | failed => exact hslot
  | absent => exact hslot
  | found =>
    rw [TableCache.slot?_set] at hslot
    split at hslot
    · cases hslot
    · exact hslot

/-- Columns that are known after an event were known before it, or are those of the table before it
or after it. -/
theorem Outcome.learnt {answer : Except TransformError TableSnapshot} {known : TableSnapshot}
    {other : String} (h : d.Outcome database evolution table event answer d')
    (hslot : d'.cache.slot? other = some (.loaded known)) :
    d.cache.slot? other = some (.loaded known) ∨ ∃ report, known = .ofReport other report ∧
      (d.connection.catalog.table? database other = some report ∨
        d'.connection.catalog.table? database other = some report) := by
  -- Where the second load teaches nothing, all is as it was when the columns came to be known.
  have early {d₁ : Destination} {snapshot : TableSnapshot}
      (hopened : d.Opened database table snapshot d₁)
      (hknown : d₁.cache.slot? other = some (.loaded known)) :
      d.cache.slot? other = some (.loaded known) ∨ ∃ report, known = .ofReport other report ∧
        (d.connection.catalog.table? database other = some report ∨
          d'.connection.catalog.table? database other = some report) := by
    rcases hopened.learnt hknown with hold | ⟨report, hreport, htable⟩
    · exact .inl hold
    · exact .inr ⟨report, hreport, .inl htable⟩
  cases h with
  | unconfirmed hconfirm => exact .inl (hconfirm.learnt hslot)
  | unknown hconfirm _ hload =>
    rw [hload.cache_of_error] at hslot
    exact .inl (hconfirm.learnt hslot)
  | covered hopened => exact early hopened hslot
  | disabled hopened => exact early hopened hslot
  | unaltered hopened => exact early hopened hslot
  | unrefreshed hopened _ _ _ hload =>
    rw [hload.cache_of_error] at hslot
    exact early hopened hslot
  | refreshed hopened _ _ _ hload =>
    obtain ⟨report, htable, rfl, -, -, hcache⟩ := hload.of_ok
    rw [hcache, TableCache.slot?_set] at hslot
    split at hslot
    · next heq =>
      cases hslot
      rw [heq]
      exact .inr ⟨report, rfl, .inr ((hload.asked.agrees.table? database table).trans htable)⟩
    · exact early hopened hslot

/-! ## Any number of events -/

theorem Ensured.advances (h : Ensured database evolution d d') (hcoherent : d.Coherent database)
    (table : String) : Advances (d.cache.slot? table) (d'.cache.slot? table) := by
  induction h with
  | refl => exact .refl _
  | @tail middle _ hbefore hstep ih =>
    obtain ⟨other, event, rfl⟩ := hstep
    have houtcome := ensureColumns_outcome database evolution other event middle
    exact ih.trans (houtcome.advances (Ensured.coherent hbefore hcoherent) table)

/-- The destination after columns were ensured for events, each of a table. -/
def ensureEach (database : String) (evolution : Evolution) (requests : List (String × Event))
    (d : Destination) : Destination :=
  requests.foldl (fun d request => (d.ensureColumns database evolution request.1 request.2).2) d

theorem ensureEach_append (database : String) (evolution : Evolution)
    (first second : List (String × Event)) (d : Destination) :
    d.ensureEach database evolution (first ++ second) =
      (d.ensureEach database evolution first).ensureEach database evolution second :=
  List.foldl_append

theorem ensureEach_ensured (database : String) (evolution : Evolution)
    (requests : List (String × Event)) (d : Destination) :
    Ensured database evolution d (d.ensureEach database evolution requests) := by
  induction requests generalizing d with
  | nil => exact .refl d
  | cons request rest ih => exact (Ensured.step database evolution _ _ d).trans (ih _)

theorem ensureEach_advances (hcoherent : d.Coherent database) (requests : List (String × Event))
    (table : String) :
    Advances (d.cache.slot? table) ((d.ensureEach database evolution requests).cache.slot? table) :=
  (ensureEach_ensured database evolution requests d).advances hcoherent table

/-- The columns that come to be known in a run are those that the table had at a moment of it. -/
theorem exists_moment_of_loaded {requests : List (String × Event)}
    (hslot : (d.ensureEach database evolution requests).cache.slot? table =
      some (.loaded snapshot)) :
    d.cache.slot? table = some (.loaded snapshot) ∨ ∃ earlier report,
      earlier <+: requests ∧ snapshot = .ofReport table report ∧
      (d.ensureEach database evolution earlier).connection.catalog.table? database table =
        some report := by
  induction requests generalizing d with
  | nil => exact .inl hslot
  | cons request rest ih =>
    rcases ih hslot with hnext | ⟨earlier, report, hprefix, hreport, htable⟩
    · have hstep := ensureColumns_outcome database evolution request.1 request.2 d
      rcases hstep.learnt hnext with hold | ⟨report, hreport, hbefore | hafter⟩
      · exact .inl hold
      · exact .inr ⟨[], report, List.nil_prefix, hreport, hbefore⟩
      · exact .inr ⟨[request], report, ⟨rest, rfl⟩, hreport, hafter⟩
    · exact .inr ⟨request :: earlier, report, (List.prefix_cons_inj request).2 hprefix, hreport,
        htable⟩

/-- The dialogue of ensuring columns for events, each of a table. -/
def ensuringEach (database : String) (evolution : Evolution) :
    List (String × Event) → TableCache → Dialogue TableCache
  | [], cache => .done cache
  | request :: rest, cache => (ensuring database evolution request.1 request.2 cache).bind
      fun result => ensuringEach database evolution rest result.2

theorem hold_ensuringEach (database : String) (evolution : Evolution)
    (requests : List (String × Event)) (d : Destination) :
    (ensuringEach database evolution requests d.cache).hold database d.connection =
      ((d.ensureEach database evolution requests).cache,
        (d.ensureEach database evolution requests).connection) := by
  induction requests generalizing d with
  | nil => rfl
  | cons request rest ih =>
    rw [ensuringEach, hold_bind, hold_ensuring]
    exact ih _

theorem calls_ensuringEach_cons (database : String) (evolution : Evolution)
    (request : String × Event) (rest : List (String × Event)) (d : Destination) :
    (ensuringEach database evolution (request :: rest) d.cache).calls database d.connection =
      (ensuring database evolution request.1 request.2 d.cache).calls database d.connection ++
        (ensuringEach database evolution rest
          (d.ensureColumns database evolution request.1 request.2).2.cache).calls database
            (d.ensureColumns database evolution request.1 request.2).2.connection := by
  rw [ensuringEach, calls_bind, hold_ensuring]
  rfl

/-! ## Look-ups -/

theorem mem_lookup_of_calls {other : String} {answer : Except CatalogError Bool}
    (h : .lookup other answer ∈
      (ensuring database evolution table event d.cache).calls database d.connection) :
    other = table ∧ d.cache.isKnown table = false ∧
      answer = (d.connection.tableExists database table).1 := by
  obtain ⟨rest, hcalls, hrest⟩ := calls_ensuring database evolution table event d
  rw [hcalls] at h
  rcases List.mem_append.1 h with hfirst | hlater
  · split at hfirst
    · cases hfirst
    · next hunknown =>
      cases List.mem_singleton.1 hfirst
      exact ⟨rfl, by simpa using hunknown, rfl⟩
  · cases (hrest _ hlater).1

/-- A table that is found is known from then on. -/
theorem isSome_slot?_of_found (hcoherent : d.Coherent database)
    (hunknown : d.cache.isKnown table = false)
    (hfound : (d.connection.tableExists database table).1 = .ok true) :
    ((d.ensureColumns database evolution table event).2.cache.slot? table).isSome = true := by
  have hconfirm : d.confirm database table =
      (.ok (), ⟨(d.connection.tableExists database table).2, d.cache.set table .unloaded⟩) := by
    rcases hcall : d.connection.tableExists database table with ⟨answer, c⟩
    rw [hcall] at hfound
    cases hfound
    simp [confirm, hunknown, hcall]
  have houtcome := d.confirm_outcome database table
  rw [hconfirm] at houtcome
  have hslot : (d.cache.set table .unloaded).slot? table = some .unloaded := by
    rw [TableCache.slot?_set, if_pos rfl]
  -- From here on it is as if the table had been known all along.
  have hsame : d.ensureColumns database evolution table event =
      ensureColumns database evolution table event
        ⟨(d.connection.tableExists database table).2, d.cache.set table .unloaded⟩ := by
    rw [ensureColumns, ensureColumns, hconfirm, confirm_of_known database hslot]
  rw [hsame]
  have hadvances := (ensureColumns_outcome database evolution table event _).advances
    (houtcome.coherent hcoherent) table
  exact hadvances.isSome (by rw [hslot]; rfl)

/-- A table that is known is not looked up. -/
theorem not_lookup_of_known (hcoherent : d.Coherent database) {requests : List (String × Event)}
    (hknown : (d.cache.slot? table).isSome = true) (answer : Except CatalogError Bool) :
    .lookup table answer ∉
      (ensuringEach database evolution requests d.cache).calls database d.connection := by
  induction requests generalizing d with
  | nil => exact List.not_mem_nil
  | cons request rest ih =>
    have hstep := ensureColumns_outcome database evolution request.1 request.2 d
    rw [calls_ensuringEach_cons, List.mem_append]
    rintro (hfirst | hrest)
    · obtain ⟨rfl, hunknown, -⟩ := mem_lookup_of_calls hfirst
      rw [TableCache.isKnown, hknown] at hunknown
      cases hunknown
    · exact ih (hstep.coherent hcoherent) ((hstep.advances hcoherent table).isSome hknown) hrest

/-- Of two calls the later does not look up a table that the earlier has found. -/
def LookedUpOnce (earlier later : Call) : Prop :=
  ∀ table answer, earlier = .lookup table (.ok true) → later ≠ .lookup table answer

theorem pairwise_lookedUpOnce (hcoherent : d.Coherent database)
    (requests : List (String × Event)) :
    ((ensuringEach database evolution requests d.cache).calls database d.connection).Pairwise
      LookedUpOnce := by
  induction requests generalizing d with
  | nil => exact .nil
  | cons request rest ih =>
    have hstep := ensureColumns_outcome database evolution request.1 request.2 d
    rw [calls_ensuringEach_cons, List.pairwise_append]
    refine ⟨?_, ih (hstep.coherent hcoherent), ?_⟩
    · obtain ⟨others, hcalls, hothers⟩ :=
        calls_ensuring database evolution request.1 request.2 d
      -- Only the first call can be a look-up.
      have hlater : ∀ call ∈ others, ∀ earlier, LookedUpOnce earlier call := by
        rintro call hcall earlier table answer - rfl
        cases (hothers _ hcall).1
      rw [hcalls, List.pairwise_append]
      refine ⟨?_, List.pairwise_of_forall_mem_list fun _ _ call hcall => hlater call hcall _,
        fun earlier _ call hcall => hlater call hcall earlier⟩
      split
      · exact .nil
      · exact List.pairwise_singleton _ _
    · rintro earlier hearlier later hmem table answer rfl rfl
      obtain ⟨rfl, hunknown, hfound⟩ := mem_lookup_of_calls hearlier
      exact not_lookup_of_known (hstep.coherent hcoherent)
        (isSome_slot?_of_found hcoherent hunknown hfound.symm) answer hmem

/-- From a destination of which nothing is known, whatever is ensured and whatever fails: tables
that are known exist; columns that are known are those that the table had at an earlier moment, and
each of them is still a column of it; what is known of a table only moves from nothing to its
existence to its columns, of which none is lost; and a table that was found is not looked up
again. -/
theorem cache_follows_catalog (database : String) (evolution : Evolution) (catalog : Catalog)
    (outages : Outages) (before after : List (String × Event)) :
    let start := ofCatalog catalog outages
    let d := start.ensureEach database evolution before
    let d' := start.ensureEach database evolution (before ++ after)
    let dialogue := ensuringEach database evolution (before ++ after) start.cache
    (∀ table cached, d'.cache.slot? table = some cached →
      ∃ report, d'.connection.catalog.table? database table = some report) ∧
    (∀ table snapshot, d'.cache.slot? table = some (.loaded snapshot) →
      ∃ earlier report report', earlier <+: before ++ after ∧
        (start.ensureEach database evolution earlier).connection.catalog.table? database table =
          some report ∧
        snapshot = .ofReport table report ∧
        d'.connection.catalog.table? database table = some report' ∧
        ∀ name column, snapshot.columns.get? name = some column → column ∈ report'.columns) ∧
    (∀ table, Advances (d.cache.slot? table) (d'.cache.slot? table)) ∧
    dialogue.hold database start.connection = (d'.cache, d'.connection) ∧
    (dialogue.calls database start.connection).Pairwise LookedUpOnce := by
  intro start d d' dialogue
  have hstart : start.Coherent database := coherent_ofCatalog database catalog outages
  have hd : d.Coherent database :=
    (ensureEach_ensured database evolution before start).coherent hstart
  have hd' : d'.Coherent database :=
    (ensureEach_ensured database evolution (before ++ after) start).coherent hstart
  refine ⟨?_, ?_, ?_, hold_ensuringEach database evolution _ start,
    pairwise_lookedUpOnce hstart _⟩
  · intro table cached hslot
    cases cached with
    | unloaded => exact hd' table _ hslot
    | loaded snapshot =>
      obtain ⟨report, htable, -⟩ := hd' table _ hslot
      exact ⟨report, htable⟩
  · intro table snapshot hslot
    rcases exists_moment_of_loaded hslot with hnone | ⟨earlier, report, hprefix, rfl, htable⟩
    · cases hnone
    · obtain ⟨later, hsplit⟩ := id hprefix
      have hgrows := (ensureEach_ensured database evolution later
        (start.ensureEach database evolution earlier)).later.grows
      rw [← ensureEach_append, hsplit] at hgrows
      obtain ⟨columns, hgrown⟩ := hgrows database table report htable
      refine ⟨earlier, report, report.extend columns, hprefix, htable, rfl, hgrown, ?_⟩
      exact fun name column hcolumn =>
        List.mem_append_left _ (TableSnapshot.mem_columns_of_get? hcolumn)
  · intro table
    have hend : d' = d.ensureEach database evolution after := ensureEach_append ..
    rw [hend]
    exact ensureEach_advances hd after table

end Destination

end TableFeed
