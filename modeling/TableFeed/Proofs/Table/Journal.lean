import TableFeed.Proofs.Table.Calls

/-!
# What calls have made of a catalog

The tables of a catalog, its statements and its counts are three accounts of the same calls.
`Catalog.serve` puts calls to a catalog one after the other and lists their replies, and
`Served` says what the accounts must be after such a list: of each table the columns that were
added to it stand after those it had, the statements are those of all additions, and every call
is counted, whatever came of it.  A single call keeps the accounts in step
(`Served.reply`), so any number of calls does, on whatever tables (`serve_served`).

Only an addition that succeeds changes tables and statements (`reply_agrees`), and it gives its
table a name that it did not have (`reply_added`), so names that are distinct stay distinct.
-/

namespace TableFeed

/-! ## Calls and replies -/

/-- A call to a catalog. -/
inductive Request where
  | lookup (database table : String)
  | load (database table : String)
  | addition (database table : String) (column : NewColumn)

namespace Request

def isLookup : Request → Bool
  | lookup .. => true
  | _ => false

def isLoad : Request → Bool
  | load .. => true
  | _ => false

def isAddition : Request → Bool
  | addition .. => true
  | _ => false

end Request

/-- A column that was added to a table. -/
structure Addition where
  database : String
  table : String
  column : NewColumn

/-- The statement that adds the column. -/
def Addition.statement (a : Addition) : String :=
  Statement.addColumn a.database a.table a.column

/-- A call with the answer to it. -/
inductive Reply where
  | lookup (database table : String) (answer : Except CatalogError Bool)
  | load (database table : String) (answer : Except CatalogError TableReport)
  | addition (database table : String) (column : NewColumn) (answer : Except CatalogError Unit)

namespace Reply

/-- The call that was answered. -/
def request : Reply → Request
  | lookup database table _ => .lookup database table
  | load database table _ => .load database table
  | addition database table column _ => .addition database table column

/-- Whether the answer is an error. -/
def failed : Reply → Bool
  | lookup _ _ (.error _) | load _ _ (.error _) | addition _ _ _ (.error _) => true
  | _ => false

/-- What was added, if anything was. -/
def addition? : Reply → Option Addition
  | addition database table column (.ok ()) => some ⟨database, table, column⟩
  | _ => none

theorem addition?_of_failed {reply : Reply} (h : reply.failed = true) :
    reply.addition? = none := by
  cases reply with
  | lookup database table answer => rfl
  | load database table answer => rfl
  | addition database table column answer =>
    cases answer with
    | error error => rfl
    | ok _ => cases h

end Reply

/-- What was added to any table, in the order of the calls. -/
def additions (replies : List Reply) : List Addition :=
  replies.filterMap Reply.addition?

/-- The columns that were added to one table, in the order of the calls. -/
def addedTo (database table : String) (replies : List Reply) : List NewColumn :=
  ((additions replies).filter fun a => a.database = database ∧ a.table = table).map
    Addition.column

theorem additions_append (first second : List Reply) :
    additions (first ++ second) = additions first ++ additions second :=
  List.filterMap_append

theorem additions_singleton (reply : Reply) : additions [reply] = reply.addition?.toList := by
  rw [additions, List.filterMap_cons, List.filterMap_nil]
  cases reply.addition? with
  | none => rfl
  | some a => rfl

theorem addedTo_concat_of_none {reply : Reply} (h : reply.addition? = none)
    (database table : String) (replies : List Reply) :
    addedTo database table (replies ++ [reply]) = addedTo database table replies := by
  rw [addedTo, additions_append, additions_singleton, h, Option.toList_none, List.append_nil,
    addedTo]

theorem addedTo_concat_of_some {reply : Reply} {a : Addition} (h : reply.addition? = some a)
    (database table : String) (replies : List Reply) :
    addedTo database table (replies ++ [reply]) = addedTo database table replies ++
      if (database, table) = (a.database, a.table) then [a.column] else [] := by
  rw [addedTo, additions_append, additions_singleton, h, Option.toList_some, List.filter_append,
    List.map_append, addedTo]
  congr 1
  by_cases htable : (database, table) = (a.database, a.table)
  · obtain ⟨rfl, rfl⟩ := Prod.mk.inj htable
    simp
  · have hother : ¬ (a.database = database ∧ a.table = table) := by
      rintro ⟨rfl, rfl⟩
      exact htable rfl
    simp [htable, hother]

/-! ## Serving calls -/

namespace Catalog

/-- Answers a call. -/
def reply (catalog : Catalog) : Request → Reply × Catalog
  | .lookup database table =>
    let (answer, catalog) := catalog.tableExists database table
    (.lookup database table answer, catalog)
  | .load database table =>
    let (answer, catalog) := catalog.loadTable database table
    (.load database table answer, catalog)
  | .addition database table column =>
    let (answer, catalog) := catalog.addColumn database table column
    (.addition database table column answer, catalog)

/-- Answers calls one after the other. -/
def serve (catalog : Catalog) : List Request → List Reply × Catalog
  | [] => ([], catalog)
  | request :: rest =>
    let (reply, catalog) := catalog.reply request
    let (replies, catalog) := catalog.serve rest
    (reply :: replies, catalog)

/-- A catalog that holds tables, and to which no call was made yet. -/
def holding (tables : List ((String × String) × TableReport)) (refused : List String) : Catalog :=
  ⟨tables, [], refused, .zero⟩

variable {start catalog : Catalog} {replies : List Reply}

theorem request_reply (catalog : Catalog) (request : Request) :
    (catalog.reply request).1.request = request := by
  cases request with
  | lookup database table => rfl
  | load database table => rfl
  | addition database table column => rfl

theorem map_request_serve (catalog : Catalog) (requests : List Request) :
    (catalog.serve requests).1.map Reply.request = requests := by
  induction requests generalizing catalog with
  | nil => rfl
  | cons request rest ih =>
    change (catalog.reply request).1.request ::
      ((catalog.reply request).2.serve rest).1.map Reply.request = _
    rw [request_reply, ih]

/-- A call that adds nothing leaves tables and statements as they are. -/
theorem reply_agrees {request : Request} (h : (catalog.reply request).1.addition? = none) :
    (catalog.reply request).2.Agrees catalog := by
  cases request with
  | lookup database table => exact ⟨rfl, rfl, rfl⟩
  | load database table => exact ⟨rfl, rfl, rfl⟩
  | addition database table column =>
    have houtcome := catalog.addColumn_outcome database table column
    simp only [reply] at h ⊢
    generalize catalog.addColumn database table column = result at h houtcome ⊢
    obtain ⟨answer, after⟩ := result
    cases houtcome with
    | refused => exact catalog.countAddition_agrees
    | notFound => exact catalog.countAddition_agrees
    | duplicate => exact catalog.countAddition_agrees
    | added => cases h

/-- What an addition does that succeeds: its table is there, has no column with the name, and gets
the column at its end. -/
theorem reply_added {request : Request} {a : Addition}
    (h : (catalog.reply request).1.addition? = some a) :
    ∃ report, catalog.table? a.database a.table = some report ∧
      report.hasColumn a.column.name = false ∧
      (catalog.reply request).2 =
        catalog.afterAddition a.database a.table report a.column := by
  cases request with
  | lookup database table => cases h
  | load database table => cases h
  | addition database table column =>
    have houtcome := catalog.addColumn_outcome database table column
    simp only [reply] at h ⊢
    generalize catalog.addColumn database table column = result at h houtcome ⊢
    obtain ⟨answer, after⟩ := result
    cases houtcome with
    | refused => cases h
    | notFound => cases h
    | duplicate => cases h
    | added hrefused htable habsent =>
      cases h
      exact ⟨_, htable, habsent, rfl⟩

/-- A call is counted under its kind, whatever its answer. -/
theorem calls_reply (catalog : Catalog) (request : Request) :
    (catalog.reply request).2.calls =
      ⟨catalog.calls.lookups + if request.isLookup then 1 else 0,
        catalog.calls.loads + if request.isLoad then 1 else 0,
        catalog.calls.additions + if request.isAddition then 1 else 0⟩ := by
  cases request with
  | lookup database table => rfl
  | load database table => rfl
  | addition database table column =>
    have houtcome := catalog.addColumn_outcome database table column
    simp only [reply]
    generalize catalog.addColumn database table column = result at houtcome ⊢
    obtain ⟨answer, after⟩ := result
    cases houtcome with
    | refused => rfl
    | notFound => rfl
    | duplicate => rfl
    | added => rfl

/-! ## The three accounts -/

/-- What the replies to calls have made of a catalog. -/
structure Served (start : Catalog) (replies : List Reply) (catalog : Catalog) : Prop where
  /-- Every table has the columns that it had, and after them those that were added to it. -/
  tables : ∀ database table, catalog.table? database table =
    (start.table? database table).map fun report =>
      report.extend ((addedTo database table replies).map NewColumn.toColumn)
  /-- The statements are those of all additions. -/
  statements : catalog.statements =
    start.statements ++ (additions replies).map Addition.statement
  /-- Every look-up is counted. -/
  lookups : catalog.calls.lookups =
    start.calls.lookups + (replies.map Reply.request).countP Request.isLookup
  /-- Every load is counted. -/
  loads : catalog.calls.loads =
    start.calls.loads + (replies.map Reply.request).countP Request.isLoad
  /-- Every addition is counted. -/
  additions : catalog.calls.additions =
    start.calls.additions + (replies.map Reply.request).countP Request.isAddition

theorem served_refl (catalog : Catalog) : Served catalog [] catalog := by
  refine ⟨fun database table => ?_, ?_, rfl, rfl, rfl⟩
  · simp [addedTo, TableFeed.additions]
  · simp [TableFeed.additions]

namespace Served

theorem table?_reply (h : Served start replies catalog) (request : Request)
    (database table : String) :
    (catalog.reply request).2.table? database table =
      (start.table? database table).map fun report =>
        report.extend ((addedTo database table (replies ++ [(catalog.reply request).1])).map
          NewColumn.toColumn) := by
  cases hadded : (catalog.reply request).1.addition? with
  | none => rw [(reply_agrees hadded).table?, addedTo_concat_of_none hadded, h.tables]
  | some a =>
    obtain ⟨report, htable, -, hafter⟩ := reply_added hadded
    rw [hafter, table?_afterAddition, addedTo_concat_of_some hadded]
    by_cases hown : (database, table) = (a.database, a.table)
    · obtain ⟨rfl, rfl⟩ := Prod.mk.inj hown
      obtain ⟨first, hfirst, rfl⟩ := Option.map_eq_some_iff.1 ((h.tables _ _).symm.trans htable)
      rw [if_pos rfl, if_pos rfl, hfirst, Option.map_some, List.map_append,
        TableReport.extend_append]
      rfl
    · rw [if_neg hown, if_neg hown, List.append_nil, h.tables]

theorem statements_reply (h : Served start replies catalog) (request : Request) :
    (catalog.reply request).2.statements = start.statements ++
      (TableFeed.additions (replies ++ [(catalog.reply request).1])).map Addition.statement := by
  rw [additions_append, additions_singleton, List.map_append, ← List.append_assoc,
    ← h.statements]
  cases hadded : (catalog.reply request).1.addition? with
  | none =>
    rw [(reply_agrees hadded).statements, Option.toList_none, List.map_nil, List.append_nil]
  | some a =>
    obtain ⟨report, -, -, hafter⟩ := reply_added hadded
    rw [hafter]
    rfl

/-- One more call keeps the accounts in step. -/
theorem reply (h : Served start replies catalog) (request : Request) :
    Served start (replies ++ [(catalog.reply request).1]) (catalog.reply request).2 := by
  refine ⟨h.table?_reply request, h.statements_reply request, ?_, ?_, ?_⟩
  · simp [calls_reply, h.lookups, request_reply, List.countP_append, List.countP_singleton,
      Nat.add_assoc]
  · simp [calls_reply, h.loads, request_reply, List.countP_append, List.countP_singleton,
      Nat.add_assoc]
  · simp [calls_reply, h.additions, request_reply, List.countP_append, List.countP_singleton,
      Nat.add_assoc]

theorem serve (h : Served start replies catalog) (requests : List Request) :
    Served start (replies ++ (catalog.serve requests).1) (catalog.serve requests).2 := by
  induction requests generalizing catalog replies with
  | nil => exact (List.append_nil replies).symm ▸ h
  | cons request rest ih =>
    have hrest := ih (h.reply request)
    rwa [List.append_assoc] at hrest

end Served

/-- The accounts are in step after any calls. -/
theorem serve_served (catalog : Catalog) (requests : List Request) :
    Served catalog (catalog.serve requests).1 (catalog.serve requests).2 :=
  (served_refl catalog).serve requests

/-! ## Names -/

/-- A table, if it is there, names no column twice. -/
def NamesOnce (catalog : Catalog) (database table : String) : Prop :=
  ∀ report, catalog.table? database table = some report → report.columnNames.Nodup

theorem NamesOnce.reply {database table : String} (h : catalog.NamesOnce database table)
    (request : Request) : (catalog.reply request).2.NamesOnce database table := by
  intro grown hgrown
  cases hadded : (catalog.reply request).1.addition? with
  | none =>
    rw [(reply_agrees hadded).table?] at hgrown
    exact h grown hgrown
  | some a =>
    obtain ⟨report, htable, habsent, hafter⟩ := reply_added hadded
    rw [hafter, table?_afterAddition] at hgrown
    split at hgrown
    · next hown =>
      obtain ⟨rfl, rfl⟩ := Prod.mk.inj hown
      cases hgrown
      rw [TableReport.columnNames_extend]
      refine List.nodup_append.2 ⟨h report htable, List.pairwise_singleton _ _, ?_⟩
      rintro name hname _ hnew rfl
      cases List.mem_singleton.1 hnew
      exact TableReport.hasColumn_eq_false_iff.1 habsent hname
    · exact h grown hgrown

theorem NamesOnce.serve {database table : String} (h : catalog.NamesOnce database table)
    (requests : List Request) : (catalog.serve requests).2.NamesOnce database table := by
  induction requests generalizing catalog with
  | nil => exact h
  | cons request rest ih => exact ih (h.reply request)

/-- After any calls on any tables, the additions that succeeded explain a catalog: each table has
its first columns and then those added to it in order, and the statements are those of all
additions in order.  Every call is counted, failed ones too.  Columns that have distinct names keep
them.  A further call that fails changes neither tables nor statements, and one that adds a column
finds its table without the name. -/
theorem serve_explains (tables : List ((String × String) × TableReport)) (refused : List String)
    (requests : List Request) :
    let start := holding tables refused
    let replies := (start.serve requests).1
    let catalog := (start.serve requests).2
    replies.map Reply.request = requests ∧
    (∀ database table, catalog.table? database table =
      (start.table? database table).map fun report =>
        report.extend ((addedTo database table replies).map NewColumn.toColumn)) ∧
    catalog.statements = (TableFeed.additions replies).map Addition.statement ∧
    catalog.calls = ⟨requests.countP Request.isLookup, requests.countP Request.isLoad,
      requests.countP Request.isAddition⟩ ∧
    (∀ database table, start.NamesOnce database table → catalog.NamesOnce database table) ∧
    ∀ request,
      ((catalog.reply request).1.failed = true →
        (catalog.reply request).2.tables = catalog.tables ∧
          (catalog.reply request).2.statements = catalog.statements) ∧
      ∀ a, (catalog.reply request).1.addition? = some a →
        ∃ report, catalog.table? a.database a.table = some report ∧
          a.column.name ∉ report.columnNames := by
  intro start replies catalog
  have hserved : Served start replies catalog := serve_served start requests
  have hrequests : replies.map Reply.request = requests := map_request_serve start requests
  refine ⟨hrequests, hserved.tables, ?_, ?_, fun _ _ h => h.serve requests, fun request => ?_⟩
  · rw [hserved.statements]
    rfl
  · have hcalls : catalog.calls =
        ⟨catalog.calls.lookups, catalog.calls.loads, catalog.calls.additions⟩ := rfl
    rw [hcalls, hserved.lookups, hserved.loads, hserved.additions, hrequests]
    simp [start, holding, CallCounts.zero]
  · refine ⟨fun hfailed => ?_, fun a hadded => ?_⟩
    · have hagrees := reply_agrees (Reply.addition?_of_failed hfailed)
      exact ⟨hagrees.tables, hagrees.statements⟩
    · obtain ⟨report, htable, habsent, -⟩ := reply_added hadded
      exact ⟨report, htable, TableReport.hasColumn_eq_false_iff.1 habsent⟩

end Catalog

end TableFeed
