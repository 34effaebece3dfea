import TableFeed.Proofs.Destination.Ready

/-!
# Trying again

An outage may break ensuring columns off, and the outage may pass.  What trying again then
does depends on where the first try broke off.  Before the first addition nothing is lost
(`unknown_of_catalog_error`): the cache does not have the columns and learns them at the
next try.  At an addition the table keeps the columns added before it, of which the cache
is not told (`added_before_alteration_error`), so that the next try adds the first of them
once more and is refused.  `retry_after_failure` says both.

A try that meets no outage either succeeds or is refused a column that the table has
(`succeeds_or_clash`).
-/

namespace TableFeed.Destination

variable {database table : String} {event : Event} {d d' : Destination} {report : TableReport}
  {answer : Except TransformError TableSnapshot}

/-! ## Where the first try broke off -/

/-- A question that failed before any addition was tried leaves the columns unknown. -/
theorem unknown_of_catalog_error {cause : CatalogError}
    (hheld : d.connection.catalog.table? database table = some report)
    (houtcome : d.Outcome database .basic table event (.error (.catalog table cause)) d')
    (hnone : d'.connection.tried.additions = d.connection.tried.additions) :
    d.connection.Asked d'.connection ∧ d'.cache.snapshot? table = none := by
  cases houtcome with
  | unconfirmed hconfirm =>
    cases hconfirm with
    | failed hslot hcall => exact ⟨hcall.asked, by rw [TableCache.snapshot?, hslot]⟩
  | unknown hconfirm hunknown hload =>
    have hasked := hconfirm.asked
    refine ⟨hasked.trans hload.asked, ?_⟩
    obtain ⟨-, -, rfl⟩ := hload.of_error (hasked.held hheld)
    exact hunknown
  | unaltered hopened _ hadded =>
    obtain ⟨_, _, _, _, _, _, herror, _⟩ := addColumns_error hadded
    cases herror
  | @unrefreshed snapshot _ d₁ _ c hopened hmissing _ hadded hload =>
    have hlt := hopened.additions_lt hmissing hheld hadded
    rw [hload.tried_of_error.2] at hnone
    exact absurd hnone (Nat.ne_of_gt hlt)

/-- An addition that failed leaves the columns added before it, of which the cache is not told. -/
theorem added_before_alteration_error {column : String} {cause : CatalogError}
    (hheld : d.connection.catalog.table? database table = some report)
    (houtcome :
      d.Outcome database .basic table event (.error (.alteration column table cause)) d') :
    ∃ snapshot done field rest, d'.cache.slot? table = some (.loaded snapshot) ∧
      missing snapshot event = done ++ field :: rest ∧ field.name = column ∧
      d'.connection.catalog.table? database table = some (withFields report done) ∧
      d'.connection.catalog.refused = d.connection.catalog.refused := by
  cases houtcome with
  | unconfirmed hconfirm => cases hconfirm
  | unknown _ _ hload => cases hload
  | unrefreshed _ _ _ _ hload => cases hload
  | @unaltered snapshot _ d₁ c hopened _ hadded =>
    obtain ⟨done, field, rest, cause', hmissing, herror, htable, hsame, -⟩ :=
      addColumns_error_of_fields (hopened.asked.held hheld) hadded
    cases herror
    exact ⟨snapshot, done, field, rest, hopened.slot, hmissing, rfl, htable,
      hsame.trans hopened.asked.agrees.refused⟩

/-! ## A try that meets no outage -/

/-- The first of some fields whose column a table has is told as a duplicate. -/
def Clash (table : String) (report : TableReport) (fields : List EventField)
    (answer : Except TransformError TableSnapshot) : Prop :=
  ∃ done field rest, fields = done ++ field :: rest ∧
    (∀ other ∈ done, other.name ∉ report.columnNames) ∧ field.name ∈ report.columnNames ∧
    answer = .error (.alteration field.name table (.duplicate field.name))

section Unbroken

variable (hheld : d.connection.catalog.table? database table = some report)
  (hrefused : d.connection.catalog.refused = [])
  (hdistinct : (event.fields.map EventField.name).Nodup)
  (houtcome : d.Outcome database .basic table event answer d')
  (hunbroken : d.connection.Unbroken d'.connection)

include hheld hrefused hdistinct houtcome hunbroken

/-- A try that meets no outage succeeds or is refused a column that the table has. -/
theorem succeeds_or_clash :
    (∃ fresh, answer = .ok fresh) ∨ ∃ snapshot d₁, d.Opened database table snapshot d₁ ∧
      Clash table report (missing snapshot event) answer := by
  cases houtcome with
  | covered => exact .inl ⟨_, rfl⟩
  | refreshed => exact .inl ⟨_, rfl⟩
  | disabled _ _ hevolution => cases hevolution
  | unconfirmed hconfirm =>
    exfalso
    cases hconfirm with
    | failed _ hcall =>
      cases hcall with
      | out hout =>
        rw [hunbroken.lookup _ (Nat.lt_succ_self _) (Nat.le_refl _)] at hout
        cases hout
    | absent _ hcall =>
      have hfound := hcall.answer_eq
      rw [hheld] at hfound
      cases hfound
  | unknown hconfirm _ hload =>
    exfalso
    obtain ⟨-, hout, rfl⟩ := hload.of_error (hconfirm.asked.held hheld)
    have hafter := hconfirm.asked.unbroken hunbroken
    rw [hafter.load _ (Nat.lt_succ_self _) (Nat.le_refl _)] at hout
    cases hout
  | unrefreshed hopened _ _ hadded hload =>
    exfalso
    have hextended := addColumns_ok (hopened.asked.held hheld) hadded
    obtain ⟨-, hout, rfl⟩ := hload.of_error hextended.grown
    have hafter := hextended.unbroken (hopened.asked.unbroken hunbroken)
    rw [hafter.load _ (Nat.lt_succ_self _) (Nat.le_refl _)] at hout
    cases hout
  | @unaltered snapshot _ d₁ c hopened _ hadded =>
    have hnames := nodup_missing snapshot hdistinct
    rw [← map_name_column] at hnames
    obtain ⟨added, column, untried, hsplit, hfresh, hmem, rfl⟩ :=
      addColumns_error_of_unbroken (hopened.asked.unbroken hunbroken)
        (hopened.asked.agrees.refused.trans hrefused) (hopened.asked.held hheld) hnames hadded
    obtain ⟨done, others, hmissing, rfl, hothers⟩ := List.map_eq_append_iff.1 hsplit
    obtain ⟨field, rest, rfl, rfl, rfl⟩ := List.map_eq_cons_iff.1 hothers
    refine .inr ⟨snapshot, d₁, hopened, done, field, rest, hmissing, ?_, hmem, rfl⟩
    exact fun other hother => hfresh _ (List.mem_map_of_mem hother)

/-- Columns that are not known are learnt as they are, and what is missing can be added. -/
theorem succeeds_of_unknown (hunknown : d.cache.snapshot? table = none) :
    ∃ fresh, answer = .ok fresh := by
  rcases succeeds_or_clash hheld hrefused hdistinct houtcome hunbroken with hsucceeds |
    ⟨snapshot, d₁, hopened, done, field, rest, hmissing, -, hmem, -⟩
  · exact hsucceeds
  · rcases hopened.source with ⟨hslot, -⟩ | ⟨-, report', htable, rfl⟩
    · rw [TableCache.snapshot?, hslot] at hunknown
      cases hunknown
    · rw [hheld] at htable
      cases htable
      exact absurd hmem (not_mem_of_missing (by rw [hmissing]; simp))

/-- Where columns are known, success means that the table has none of those that are missing, and
failure tells the first that it has. -/
theorem succeeds_or_clash_of_known {snapshot : TableSnapshot}
    (hslot : d.cache.slot? table = some (.loaded snapshot)) :
    ((∃ fresh, answer = .ok fresh) ∧
        ∀ field ∈ missing snapshot event, field.name ∉ report.columnNames) ∨
      Clash table report (missing snapshot event) answer := by
  rcases succeeds_or_clash hheld hrefused hdistinct houtcome hunbroken with ⟨fresh, rfl⟩ |
    ⟨other, d₁, hopened, hclash⟩
  · refine .inl ⟨⟨fresh, rfl⟩, fun field hfield => ?_⟩
    cases houtcome with
    | covered hopened hcovered =>
      rw [hopened.eq_of_known hslot] at hcovered
      rw [hcovered] at hfield
      cases hfield
    | refreshed hopened _ _ hadded _ =>
      rw [hopened.eq_of_known hslot] at hadded
      exact (addColumns_ok (hopened.asked.held hheld) hadded).fresh field.column
        (List.mem_map_of_mem hfield)
  · rw [hopened.eq_of_known hslot] at hclash
    exact .inr hclash

end Unbroken

/-! ## The next try -/

section Added

variable {snapshot : TableSnapshot} {done rest : List EventField} {field : EventField}
  (hmissing : missing snapshot event = done ++ field :: rest)
  (hresult : ((∃ fresh, answer = .ok fresh) ∧
      ∀ other ∈ missing snapshot event, other.name ∉ (withFields report done).columnNames) ∨
    Clash table (withFields report done) (missing snapshot event) answer)

include hmissing hresult

/-- The first of the added columns is refused as a duplicate. -/
theorem duplicate_of_added {first : EventField} (hfirst : first ∈ done.head?) :
    answer = .error (.alteration first.name table (.duplicate first.name)) := by
  obtain ⟨added, rfl⟩ := List.head?_eq_some_iff.1 hfirst
  have hadded : first.name ∈ (withFields report (first :: added)).columnNames := by simp
  rcases hresult with ⟨-, hfresh⟩ | ⟨before, column, after, hsplit, hbefore, -, rfl⟩
  · exact absurd hadded (hfresh first (by simp [hmissing]))
  · -- Both tries go through the same missing fields, so this one meets an added field at once.
    rw [hmissing] at hsplit
    cases before with
    | nil => rw [(List.cons.inj hsplit).1]
    | cons other before =>
      have hother := hbefore other List.mem_cons_self
      rw [← (List.cons.inj hsplit).1] at hother
      exact absurd hadded hother

/-- Where some of the missing columns were added, the next try does not succeed. -/
theorem succeeds_iff_of_added :
    (∃ fresh, answer = .ok fresh) ↔
      done = [] ∧ ∀ other ∈ missing snapshot event, other.name ∉ report.columnNames := by
  constructor
  · rintro ⟨fresh, rfl⟩
    cases done with
    | nil =>
      rcases hresult with ⟨-, hfresh⟩ | ⟨_, _, _, _, _, _, herror⟩
      · simpa using hfresh
      · cases herror
    | cons first added =>
      have hfirst : first ∈ (first :: added).head? := rfl
      cases duplicate_of_added hmissing hresult hfirst
  · rintro ⟨rfl, hfresh⟩
    rcases hresult with ⟨hsucceeds, -⟩ | ⟨before, column, after, hsplit, -, hmem, -⟩
    · exact hsucceeds
    · rw [columnNames_withFields, List.map_nil, List.append_nil] at hmem
      exact absurd hmem (hfresh column (by simp [hsplit]))

end Added

/-- A failure with an outage before any addition is made good by trying again.  After a failure at
an addition trying again succeeds only where no column was added before and none of those missing
is there; otherwise the first of the added columns is refused as a duplicate. -/
theorem retry_after_failure {error : TransformError} {d'' : Destination}
    (hheld : d.connection.catalog.table? database table = some report)
    (hrefused : d.connection.catalog.refused = [])
    (hdistinct : (event.fields.map EventField.name).Nodup)
    (hfailed : d.ensureColumns database .basic table event = (.error error, d'))
    (hretried : d'.ensureColumns database .basic table event = (answer, d''))
    (hunbroken : d'.connection.Unbroken d''.connection) :
    (∀ cause, error = .catalog table cause →
      d'.connection.tried.additions = d.connection.tried.additions →
      ∃ fresh, answer = .ok fresh) ∧
    ∀ column cause, error = .alteration column table cause →
      ∃ snapshot done field rest, d'.cache.slot? table = some (.loaded snapshot) ∧
        missing snapshot event = done ++ field :: rest ∧ field.name = column ∧
        d'.connection.catalog.table? database table = some (withFields report done) ∧
        ((∃ fresh, answer = .ok fresh) ↔
          done = [] ∧ ∀ other ∈ missing snapshot event, other.name ∉ report.columnNames) ∧
        ∀ first ∈ done.head?,
          answer = .error (.alteration first.name table (.duplicate first.name)) := by
  have houtcome := outcome_of_ensureColumns hfailed
  have hretry := outcome_of_ensureColumns hretried
  constructor
  · rintro cause rfl hnone
    obtain ⟨hasked, hunknown⟩ := unknown_of_catalog_error hheld houtcome hnone
    exact succeeds_of_unknown (hasked.held hheld) (hasked.agrees.refused.trans hrefused) hdistinct
      hretry hunbroken hunknown
  · rintro column cause rfl
    obtain ⟨snapshot, done, field, rest, hslot, hmissing, hname, htable, hsame⟩ :=
      added_before_alteration_error hheld houtcome
    have hresult := succeeds_or_clash_of_known htable (hsame.trans hrefused) hdistinct hretry
      hunbroken hslot
    exact ⟨snapshot, done, field, rest, hslot, hmissing, hname, htable,
      succeeds_iff_of_added hmissing hresult, fun first hfirst =>
        duplicate_of_added hmissing hresult hfirst⟩

/-! ## An outage at the second addition -/

/-- A table with a column `a` behind a connection that is out at the first load. -/
def firstLoadOut : Destination :=
  ofTextColumns "db" "t" ["a"] ⟨fun _ => false, (· == 1), fun _ => false, "injected"⟩

/-- A table with a column `a` behind a connection that is out at the second addition. -/
def secondAdditionOut : Destination :=
  ofTextColumns "db" "t" ["a"] ⟨fun _ => false, fun _ => false, (· == 2), "injected"⟩

/-- An event with fields `a`, `b` and `c`. -/
def threeTexts : Event :=
  textEvent "t" ["a", "b", "c"]

/-- A destination after the columns of `threeTexts` were asked of it. -/
def afterThreeTexts (d : Destination) : Destination :=
  (d.ensureColumns "db" .basic "t" threeTexts).2

theorem quiet_of_firstLoadOut {c : Connection} (h : c.outages = firstLoadOut.connection.outages)
    (hloads : 0 < c.tried.loads) : c.Quiet := by
  refine ⟨?_, ?_, ?_⟩
  · simp [h, firstLoadOut, ofTextColumns, ofCatalog, Connection.ofCatalog]
  · intro number hlt
    rw [h]
    exact beq_false_of_ne (Nat.ne_of_gt (Nat.lt_of_le_of_lt hloads hlt))
  · simp [h, firstLoadOut, ofTextColumns, ofCatalog, Connection.ofCatalog]

theorem quiet_firstLoadOut : firstLoadOut.afterThreeTexts.connection.Quiet :=
  quiet_of_firstLoadOut rfl Nat.one_pos

theorem quiet_secondAdditionOut : secondAdditionOut.afterThreeTexts.connection.Quiet := by
  refine ⟨fun _ _ => rfl, fun _ _ => rfl, fun number hlt => ?_⟩
  have haddition : 2 < number := hlt
  exact beq_false_of_ne (Nat.ne_of_gt haddition)

/-- One outage is made good by trying again and the other is not. -/
theorem retry_after_load_and_addition :
    (∃ fresh, (firstLoadOut.afterThreeTexts.ensureColumns "db" .basic "t" threeTexts).1 =
        .ok fresh) ∧
      (secondAdditionOut.afterThreeTexts.ensureColumns "db" .basic "t" threeTexts).1 =
        .error (.alteration "b" "t" (.duplicate "b")) := by
  constructor
  · have hfailed : firstLoadOut.ensureColumns "db" .basic "t" threeTexts =
        (.error (.catalog "t" (.connection "injected")), firstLoadOut.afterThreeTexts) := rfl
    exact (retry_after_failure rfl rfl (by decide) hfailed rfl
      (quiet_firstLoadOut.unbroken _)).1 _ rfl rfl
  · have hfailed : secondAdditionOut.ensureColumns "db" .basic "t" threeTexts =
        (.error (.alteration "c" "t" (.connection "injected")),
          secondAdditionOut.afterThreeTexts) := rfl
    obtain ⟨snapshot, done, field, rest, hslot, hmissing, hname, -, -, hduplicate⟩ :=
      (retry_after_failure rfl rfl (by decide) hfailed rfl
        (quiet_secondAdditionOut.unbroken _)).2 _ _ rfl
    have hcached : secondAdditionOut.afterThreeTexts.cache.slot? "t" =
        some (.loaded (.ofReport "t" ⟨"UNIQUE_KEYS", [⟨"a", "STRING", ""⟩]⟩)) := rfl
    cases hcached.symm.trans hslot
    have hnames := congrArg (List.map EventField.name) hmissing
    rw [List.map_append, List.map_cons, hname] at hnames
    cases done with
    | nil => exact absurd (List.cons.inj hnames).1 (by decide)
    | cons first added =>
      have hfirst : "b" = first.name := (List.cons.inj hnames).1
      exact hfirst ▸ hduplicate first rfl

/-- An outage at an addition can be beyond what trying again makes good. -/
theorem exists_failure_after_outage :
    ¬ ∀ (database table : String) (event : Event) (d d' d'' : Destination) (report : TableReport)
        (error : TransformError) (answer : Except TransformError TableSnapshot),
      Reachable database .basic d → d.connection.catalog.table? database table = some report →
      d.connection.catalog.refused = [] → (event.fields.map EventField.name).Nodup →
      d.ensureColumns database .basic table event = (.error error, d') →
      (error = .catalog table d.connection.outError ∨
        ∃ column, error = .alteration column table d.connection.outError) →
      d'.ensureColumns database .basic table event = (answer, d'') →
      d'.connection.Unbroken d''.connection → ∃ fresh, answer = .ok fresh := by
  intro h
  obtain ⟨fresh, hsucceeds⟩ := h "db" "t" threeTexts secondAdditionOut
    secondAdditionOut.afterThreeTexts secondAdditionOut.afterThreeTexts.afterThreeTexts _ _
    (.error (.alteration "b" "t" (.duplicate "b"))) (.fresh _ _) rfl rfl (by decide) rfl
    (.inr ⟨"c", rfl⟩) rfl (quiet_secondAdditionOut.unbroken _)
  cases hsucceeds

end TableFeed.Destination
