import TableFeed.Destination

/-!
# Dialogues with the catalog

Which calls ensuring columns makes depends on the answers to those before.  A `Dialogue`
is the tree of these calls: at each node one call, and below it what follows each answer.
It can be held over a connection (`Dialogue.hold`), and the calls made on the way can be
listed with the tables that they name and the answers that they get (`Dialogue.calls`),
which no connection keeps.

`Destination.hold_ensuring` says that ensuring columns is the holding of the dialogue
`ensuring`.  So `calls` of that dialogue are the calls that ensuring columns makes.  They all
name the table in question, and a look-up can only be the first of them
(`Destination.calls_ensuring`).
-/

namespace TableFeed

/-- A call with its answer. -/
inductive Call where
  | lookup (table : String) (answer : Except CatalogError Bool)
  | load (table : String) (answer : Except CatalogError TableReport)
  | addition (table : String) (column : NewColumn) (answer : Except CatalogError Unit)

namespace Call

/-- Whether a call asks if a table exists. -/
def isLookup : Call → Bool
  | lookup .. => true
  | _ => false

/-- The table that a call names. -/
def table : Call → String
  | lookup table _ | load table _ | addition table _ _ => table

end Call

/-- Calls that follow one another as their answers demand, and a result. -/
inductive Dialogue (α : Type) where
  | done (result : α)
  | lookup (table : String) (next : Except CatalogError Bool → Dialogue α)
  | load (table : String) (next : Except CatalogError TableReport → Dialogue α)
  | addition (table : String) (column : NewColumn) (next : Except CatalogError Unit → Dialogue α)

namespace Dialogue

variable {α β : Type}

/-- A dialogue and what follows its result. -/
def bind : Dialogue α → (α → Dialogue β) → Dialogue β
  | done result, f => f result
  | lookup table next, f => lookup table fun answer => (next answer).bind f
  | load table next, f => load table fun answer => (next answer).bind f
  | addition table column next, f => addition table column fun answer => (next answer).bind f

/-- Puts the calls to a connection; the result, and the connection after the last call. -/
def hold (database : String) : Dialogue α → Connection → α × Connection
  | done result, c => (result, c)
  | lookup table next, c =>
    (next (c.tableExists database table).1).hold database (c.tableExists database table).2
  | load table next, c =>
    (next (c.loadTable database table).1).hold database (c.loadTable database table).2
  | addition table column next, c =>
    (next (c.addColumn database table column).1).hold database
      (c.addColumn database table column).2

/-- The calls that are put to a connection, in order. -/
def calls (database : String) : Dialogue α → Connection → List Call
  | done _, _ => []
  | lookup table next, c =>
    .lookup table (c.tableExists database table).1 ::
      (next (c.tableExists database table).1).calls database (c.tableExists database table).2
  | load table next, c =>
    .load table (c.loadTable database table).1 ::
      (next (c.loadTable database table).1).calls database (c.loadTable database table).2
  | addition table column next, c =>
    .addition table column (c.addColumn database table column).1 ::
      (next (c.addColumn database table column).1).calls database
        (c.addColumn database table column).2

@[simp] theorem hold_bind (database : String) (dialogue : Dialogue α) (f : α → Dialogue β)
    (c : Connection) :
    (dialogue.bind f).hold database c =
      (f (dialogue.hold database c).1).hold database (dialogue.hold database c).2 := by
  induction dialogue generalizing c with
  | done result => rfl
  | lookup table next ih => simp only [bind, hold, ih]
  | load table next ih => simp only [bind, hold, ih]
  | addition table column next ih => simp only [bind, hold, ih]

@[simp] theorem calls_bind (database : String) (dialogue : Dialogue α) (f : α → Dialogue β)
    (c : Connection) :
    (dialogue.bind f).calls database c = dialogue.calls database c ++
      (f (dialogue.hold database c).1).calls database (dialogue.hold database c).2 := by
  induction dialogue generalizing c with
  | done result => rfl
  | lookup table next ih => simp only [bind, hold, calls, ih, List.cons_append]
  | load table next ih => simp only [bind, hold, calls, ih, List.cons_append]
  | addition table column next ih => simp only [bind, hold, calls, ih, List.cons_append]

/-- No call of a dialogue fails a condition, whatever the answers. -/
def Only (P : Call → Prop) : Dialogue α → Prop
  | done _ => True
  | lookup table next => ∀ answer, P (.lookup table answer) ∧ (next answer).Only P
  | load table next => ∀ answer, P (.load table answer) ∧ (next answer).Only P
  | addition table column next =>
    ∀ answer, P (.addition table column answer) ∧ (next answer).Only P

theorem Only.bind {P : Call → Prop} {dialogue : Dialogue α} {f : α → Dialogue β}
    (h : dialogue.Only P) (hf : ∀ result, (f result).Only P) : (dialogue.bind f).Only P := by
  induction dialogue with
  | done result => exact hf result
  | lookup table next ih => exact fun answer => ⟨(h answer).1, ih answer (h answer).2⟩
  | load table next ih => exact fun answer => ⟨(h answer).1, ih answer (h answer).2⟩
  | addition table column next ih => exact fun answer => ⟨(h answer).1, ih answer (h answer).2⟩

theorem Only.calls {P : Call → Prop} {dialogue : Dialogue α} (h : dialogue.Only P)
    (database : String) (c : Connection) : ∀ call ∈ dialogue.calls database c, P call := by
  induction dialogue generalizing c with
  | done result => exact fun call hcall => absurd hcall List.not_mem_nil
  | lookup table next ih => exact List.forall_mem_cons.2 ⟨(h _).1, ih _ (h _).2 _⟩
  | load table next ih => exact List.forall_mem_cons.2 ⟨(h _).1, ih _ (h _).2 _⟩
  | addition table column next ih => exact List.forall_mem_cons.2 ⟨(h _).1, ih _ (h _).2 _⟩

/-! ## The dialogue of ensuring columns -/

/-- The dialogue that makes sure that a table is known to exist. -/
def confirming (database table : String) (cache : TableCache) :
    Dialogue (Except TransformError Unit × TableCache) :=
  if cache.isKnown table then .done (.ok (), cache)
  else .lookup table fun
    | .error error => .done (.error (.catalog table error), cache)
    | .ok false => .done (.error (.missingTable database table), cache)
    | .ok true => .done (.ok (), cache.set table .unloaded)

/-- The dialogue that asks for the columns of a table. -/
def loading (table : String) (cache : TableCache) :
    Dialogue (Except TransformError TableSnapshot × TableCache) :=
  .load table fun
    | .error error => .done (.error (.catalog table error), cache)
    | .ok report =>
      .done (.ok (.ofReport table report), cache.set table (.loaded (.ofReport table report)))

/-- The dialogue that asks for the columns of a table unless they are known. -/
def learning (table : String) (cache : TableCache) :
    Dialogue (Except TransformError TableSnapshot × TableCache) :=
  match cache.snapshot? table with
  | some snapshot => .done (.ok snapshot, cache)
  | none => loading table cache

/-- The dialogue that adds columns up to the first that fails. -/
def adding (table : String) : List NewColumn → Dialogue (Except TransformError Unit)
  | [] => .done (.ok ())
  | column :: rest => .addition table column fun
    | .error error => .done (.error (.alteration column.name table error))
    | .ok () => adding table rest

/-- The dialogue that adds the columns that a table lacks. -/
def evolving (evolution : Evolution) (table : String) (fields : List EventField)
    (cache : TableCache) : Dialogue (Except TransformError TableSnapshot × TableCache) :=
  match evolution with
  | .disabled =>
    .done (.error (.evolutionDisabled table (fields.map EventField.name)), cache)
  | .basic => (adding table (fields.map EventField.column)).bind fun
    | .error error => .done (.error error, cache)
    | .ok () => loading table cache

/-- The dialogue that makes sure that a table that exists has a column for every field of an
event. -/
def covering (evolution : Evolution) (table : String) (event : Event) (cache : TableCache) :
    Dialogue (Except TransformError TableSnapshot × TableCache) :=
  (learning table cache).bind fun
    | (.error error, cache) => .done (.error error, cache)
    | (.ok snapshot, cache) =>
      match Destination.missing snapshot event with
      | [] => .done (.ok snapshot, cache)
      | field :: rest => evolving evolution table (field :: rest) cache

/-- The dialogue that makes sure that a table has a column for every field of an event. -/
def ensuring (database : String) (evolution : Evolution) (table : String) (event : Event)
    (cache : TableCache) : Dialogue (Except TransformError TableSnapshot × TableCache) :=
  (confirming database table cache).bind fun
    | (.error error, cache) => .done (.error error, cache)
    | (.ok (), cache) => covering evolution table event cache

end Dialogue

namespace Destination

open Dialogue

variable {database table : String} {evolution : Evolution} {event : Event}

/-- An answer with the cache, and the connection. -/
def parts {α : Type} (result : α × Destination) : (α × TableCache) × Connection :=
  ((result.1, result.2.cache), result.2.connection)

theorem hold_confirming (database table : String) (d : Destination) :
    (confirming database table d.cache).hold database d.connection =
      parts (d.confirm database table) := by
  unfold confirming confirm
  split
  · rfl
  · rw [Dialogue.hold]
    rcases d.connection.tableExists database table with ⟨_ | _ | _, c⟩
    · rfl
    · rfl
    · rfl

theorem hold_loading (database table : String) (d : Destination) :
    (loading table d.cache).hold database d.connection = parts (d.load database table) := by
  unfold loading load
  rw [Dialogue.hold]
  rcases d.connection.loadTable database table with ⟨_ | _, c⟩
  · rfl
  · rfl

theorem hold_learning (database table : String) (d : Destination) :
    (learning table d.cache).hold database d.connection = parts (d.current database table) := by
  rw [learning, current]
  cases d.cache.snapshot? table with
  | some snapshot => rfl
  | none => exact hold_loading database table d

theorem hold_adding (database table : String) (columns : List NewColumn) (c : Connection) :
    (adding table columns).hold database c = addColumns database table columns c := by
  induction columns generalizing c with
  | nil => rfl
  | cons column rest ih =>
    rw [adding, addColumns, Dialogue.hold]
    rcases c.addColumn database table column with ⟨_ | _, c'⟩
    · rfl
    · exact ih c'

theorem hold_evolving (database : String) (evolution : Evolution) (table : String)
    (fields : List EventField) (d : Destination) :
    (evolving evolution table fields d.cache).hold database d.connection =
      parts (d.evolve database evolution table fields) := by
  cases evolution with
  | disabled => rfl
  | basic =>
    rw [evolving, evolve, hold_bind, hold_adding]
    rcases addColumns database table (fields.map EventField.column) d.connection with ⟨_ | _, c⟩
    · rfl
    · exact hold_loading database table { d with connection := c }

/-- Ensuring columns is the holding of its dialogue. -/
theorem hold_ensuring (database : String) (evolution : Evolution) (table : String)
    (event : Event) (d : Destination) :
    (ensuring database evolution table event d.cache).hold database d.connection =
      parts (d.ensureColumns database evolution table event) := by
  rw [ensuring, ensureColumns, hold_bind, hold_confirming]
  rcases d.confirm database table with ⟨_ | _, d₁⟩
  · rfl
  · dsimp only [parts]
    rw [covering, hold_bind, hold_learning]
    rcases d₁.current database table with ⟨_ | snapshot, d₂⟩
    · rfl
    · dsimp only [parts]
      cases missing snapshot event with
      | nil => rfl
      | cons field rest => exact hold_evolving database evolution table (field :: rest) d₂

/-! ## The calls of ensuring columns -/

/-- A call about one table that does not ask whether it exists. -/
def Follows (table : String) (call : Call) : Prop :=
  call.isLookup = false ∧ call.table = table

theorem only_loading (table : String) (cache : TableCache) :
    (loading table cache).Only (Follows table) := by
  intro answer
  refine ⟨⟨rfl, rfl⟩, ?_⟩
  cases answer with
  | error error => trivial
  | ok report => trivial

theorem only_learning (table : String) (cache : TableCache) :
    (learning table cache).Only (Follows table) := by
  unfold learning
  split
  · trivial
  · exact only_loading table cache

theorem only_adding (table : String) (columns : List NewColumn) :
    (adding table columns).Only (Follows table) := by
  induction columns with
  | nil => trivial
  | cons column rest ih =>
    intro answer
    refine ⟨⟨rfl, rfl⟩, ?_⟩
    cases answer with
    | error error => trivial
    | ok _ => exact ih

theorem only_evolving (evolution : Evolution) (table : String) (fields : List EventField)
    (cache : TableCache) : (evolving evolution table fields cache).Only (Follows table) := by
  cases evolution with
  | disabled => trivial
  | basic =>
    refine (only_adding table _).bind fun answer => ?_
    cases answer with
    | error error => trivial
    | ok _ => exact only_loading table cache

theorem only_covering (evolution : Evolution) (table : String) (event : Event)
    (cache : TableCache) : (covering evolution table event cache).Only (Follows table) := by
  refine (only_learning table cache).bind fun result => ?_
  split
  · trivial
  · split
    · trivial
    · exact only_evolving evolution table _ _

theorem calls_confirming (database table : String) (d : Destination) :
    (confirming database table d.cache).calls database d.connection =
      if d.cache.isKnown table then []
      else [.lookup table (d.connection.tableExists database table).1] := by
  unfold confirming
  split
  · rfl
  · rw [Dialogue.calls]
    rcases d.connection.tableExists database table with ⟨_ | _ | _, c⟩
    · rfl
    · rfl
    · rfl

/-- The calls of ensuring columns: a look-up of the table unless it is known, and then calls about
the table that are no look-ups. -/
theorem calls_ensuring (database : String) (evolution : Evolution) (table : String)
    (event : Event) (d : Destination) :
    ∃ rest, (ensuring database evolution table event d.cache).calls database d.connection =
        (if d.cache.isKnown table then []
          else [.lookup table (d.connection.tableExists database table).1]) ++ rest ∧
      ∀ call ∈ rest, Follows table call := by
  rw [ensuring, calls_bind, calls_confirming]
  refine ⟨_, rfl, Only.calls ?_ database _⟩
  split
  · trivial
  · exact only_covering evolution table event _

end Destination

end TableFeed
