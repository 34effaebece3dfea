import Mathlib.Logic.Relation
import TableFeed.Proofs.Schema.Conformance

/-!
# Sites of a schema

A schema describes a payload at many places: at its declared fields and, below them, at the
fields of nested structs and the items of arrays.  A `Site` is such a place with its path, and
steps of `Site.Inner` lead from one to all inside it.  At a site that conforms the value may be
missing and is, or the kind takes it.

Sites come in the order of fields and items, each before those inside it (`Site.Before`).  So the
first violation below several sites in a row is the first below the first of them that has one
(`Site.Row.firstViolation_iff`).
-/

namespace TableFeed

/-! ## The values of a kind -/

namespace Kind

/-- The values other than null that a schema of a kind takes. -/
inductive Takes : Kind → Json → Prop where
  | whole {kind : Kind} (integer : kind ∈ [.int8, .int16, .int32, .int64]) (n : Whole) :
      Takes kind (.number (.whole n))
  | number {kind : Kind} (floating : kind ∈ [.float32, .float64]) (n : Number) :
      Takes kind (.number n)
  | truth (b : Bool) : Takes .boolean (.bool b)
  | text (text : String) : Takes .string (.string text)
  | base64 (text : String) : Takes .bytes (.string text)
  | unscaled (n : Number) : Takes .bytes (.number n)
  | items (values : List Json) : Takes .array (.array values)
  | entries (members : List (String × Json)) : Takes .map (.object members)
  | pairs (values : List Json) : Takes .map (.array values)
  | fields (members : List (String × Json)) : Takes .struct (.object members)

theorem isInteger_iff {kind : Kind} :
    kind.isInteger = true ↔ kind ∈ [.int8, .int16, .int32, .int64] := by
  cases kind <;> decide

theorem takes_of_allows {kind : Kind} {value : Json} (h : kind.allows value = true) :
    kind.Takes value := by
  cases value with
  | null => cases h
  | bool b =>
    obtain rfl : kind = .boolean := by simpa [allows] using h
    exact .truth b
  | number n =>
    rw [allows] at h
    split at h
    · next hinteger =>
      cases n with
      | whole n => exact .whole (isInteger_iff.1 hinteger) n
      | real x => cases h
    · simp only [Bool.or_eq_true, decide_eq_true_eq] at h
      obtain (rfl | rfl) | rfl := h
      · exact .number List.mem_cons_self n
      · exact .number (List.mem_cons_of_mem _ List.mem_cons_self) n
      · exact .unscaled n
  | string text =>
    simp only [allows, Bool.or_eq_true, decide_eq_true_eq] at h
    obtain rfl | rfl := h
    · exact .text text
    · exact .base64 text
  | array values =>
    simp only [allows, Bool.or_eq_true, decide_eq_true_eq] at h
    obtain rfl | rfl := h
    · exact .items values
    · exact .pairs values
  | object members =>
    simp only [allows, Bool.or_eq_true, decide_eq_true_eq] at h
    obtain rfl | rfl := h
    · exact .entries members
    · exact .fields members

theorem allows_iff {kind : Kind} {value : Json} : kind.allows value = true ↔ kind.Takes value := by
  refine ⟨takes_of_allows, fun h => ?_⟩
  cases h with
  | whole hmem n =>
    rw [allows, if_pos (isInteger_iff.2 hmem)]
    rfl
  | number hmem n =>
    simp only [List.mem_cons, List.not_mem_nil, or_false] at hmem
    obtain rfl | rfl := hmem
    · rfl
    · rfl
  | truth b => rfl
  | text text => rfl
  | base64 text => rfl
  | unscaled n => rfl
  | items values => rfl
  | entries members => rfl
  | pairs values => rfl
  | fields members => rfl

theorem not_takes_null {kind : Kind} : ¬ kind.Takes .null := nofun

end Kind

/-! ## Sites -/

/-- A place in a payload that a schema describes. -/
structure Site where
  /-- The indices of the fields and items that lead to it. -/
  position : List Nat
  /-- The path that errors name it by. -/
  path : String
  /-- What stands there. -/
  value : Option Json
  /-- The schema of what stands there. -/
  schema : Schema

namespace Site

/-- Leads to a place directly inside another: to a declared field of a struct, or to an item of an
array whose items have a schema. -/
inductive Inner : Nat → Site → Site → Prop where
  | field {position : List Nat} {path name : String} {members : List (String × Json)}
      {s field : Schema} {index : Nat} (kind : s.kind = .struct)
      (declared : s.fields[index]? = some (name, field)) :
      Inner index ⟨position, path, some (.object members), s⟩
        ⟨position ++ [index], path ++ "." ++ name, members.lookup name, field⟩
  | item {position : List Nat} {path : String} {values : List Json} {value : Json}
      {s item : Schema} {index : Nat} (kind : s.kind = .array) (items : s.items = some item)
      (found : values[index]? = some value) :
      Inner index ⟨position, path, some (.array values), s⟩
        ⟨position ++ [index], path ++ "[" ++ Text.natText index ++ "]", some value, item⟩

/-- A site is another one or lies inside it. -/
def Inside : Site → Site → Prop :=
  Relation.ReflTransGen fun outer site => ∃ index, Inner index outer site

/-- A site conforms to its schema: the value is missing where one may be, or the kind takes it. -/
inductive Conforms (site : Site) : Prop where
  | missing (absent : site.value = none ∨ site.value = some .null)
      (allowed : site.schema.optional = true ∨ site.schema.defaultValue ≠ none)
  | present (value : Json) (found : site.value = some value)
      (takes : site.schema.kind.Takes value)

/-- A site violates its schema, with the error that tells so. -/
inductive Violates (site : Site) : SchemaError → Prop where
  | missing (absent : site.value = none ∨ site.value = some .null)
      (required : site.schema.optional = false) (noDefault : site.schema.defaultValue = none) :
      Violates site (.missingRequired site.path)
  | mismatch (value : Json) (found : site.value = some value) (present : value ≠ .null)
      (refused : ¬ site.schema.kind.Takes value) :
      Violates site (.typeMismatch site.path site.schema.kind value.kindName)

/-- A site comes before another in the order of fields and items. -/
def Before (first second : Site) : Prop :=
  List.Lex (· < ·) first.position second.position

/-- The first of some sites that violates its schema, with its error. -/
structure FirstViolation (among : Site → Prop) (site : Site) (error : SchemaError) : Prop where
  /-- It is one of the sites. -/
  mem : among site
  /-- It violates its schema. -/
  violates : site.Violates error
  /-- All sites before it conform. -/
  before : ∀ other, among other → other.Before site → other.Conforms

variable {site outer inner : Site} {index : Nat} {error : SchemaError}

theorem absent_iff : site.value = none ∨ site.value = some .null ↔
    Json.present? site.value = none := by
  rw [Json.present?_eq_none_iff]
  cases site.value with
  | none => simp [Json.orNull]
  | some value => simp [Json.orNull]

/-- A site conforms or violates its schema. -/
theorem conforms_or_violates (site : Site) : site.Conforms ∨ ∃ error, site.Violates error := by
  cases hpresent : Json.present? site.value with
  | none =>
    have habsent := absent_iff.2 hpresent
    by_cases hallowed : site.schema.optional = true ∨ site.schema.defaultValue ≠ none
    · exact .inl (.missing habsent hallowed)
    · obtain ⟨hrequired, hdefault⟩ := not_or.1 hallowed
      exact .inr ⟨_, .missing habsent (Bool.not_eq_true _ ▸ hrequired) (not_not.1 hdefault)⟩
  | some value =>
    obtain ⟨hvalue, hne⟩ := Json.present?_eq_some_iff.1 hpresent
    by_cases htakes : site.schema.kind.Takes value
    · exact .inl (.present value hvalue htakes)
    · exact .inr ⟨_, .mismatch value hvalue hne htakes⟩

/-- It does not do both. -/
theorem Conforms.not_violates (h : site.Conforms) : ¬ site.Violates error := by
  intro hviolates
  cases h with
  | missing habsent hallowed =>
    cases hviolates with
    | missing _ hrequired hdefault => simp [hrequired, hdefault] at hallowed
    | mismatch value hvalue hne _ =>
      rw [hvalue] at habsent
      simp [hne] at habsent
  | present value hvalue htakes =>
    cases hviolates with
    | missing habsent _ _ =>
      rw [hvalue] at habsent
      obtain rfl : value = .null := by simpa using habsent
      exact Kind.not_takes_null htakes
    | mismatch other hother _ hrefused =>
      rw [hvalue] at hother
      exact hrefused (Option.some.inj hother ▸ htakes)

/-- A site with others inside conforms by itself. -/
theorem Inner.conforms (h : Inner index outer inner) : outer.Conforms := by
  cases h with
  | field hkind _ =>
    refine .present _ rfl ?_
    rw [hkind]
    exact .fields _
  | item hkind _ _ =>
    refine .present _ rfl ?_
    rw [hkind]
    exact .items _

theorem Inner.position_eq (h : Inner index outer inner) :
    inner.position = outer.position ++ [index] := by
  cases h with
  | field _ _ => rfl
  | item _ _ _ => rfl

theorem Inner.unique {other : Site} (h : Inner index outer inner) (h' : Inner index outer other) :
    inner = other := by
  cases h with
  | field _ hdeclared =>
    cases h' with
    | field _ hdeclared' =>
      cases hdeclared.symm.trans hdeclared'
      rfl
  | item _ hitems hfound =>
    cases h' with
    | item _ hitems' hfound' =>
      cases hitems.symm.trans hitems'
      cases hfound.symm.trans hfound'
      rfl

theorem Inner.sizeOf_lt (h : Inner index outer inner) :
    sizeOf inner.schema < sizeOf outer.schema := by
  cases h with
  | @field _ _ name _ s field _ _ hdeclared =>
    have hmem := List.sizeOf_lt_of_mem (List.mem_of_getElem? hdeclared)
    show sizeOf field < sizeOf s
    cases s
    rw [Prod.mk.sizeOf_spec] at hmem
    rw [Schema.mk.sizeOf_spec]
    dsimp only at hmem
    omega
  | @item _ _ _ _ s item _ _ hitems _ =>
    show sizeOf item < sizeOf s
    cases s
    cases hitems
    rw [Schema.mk.sizeOf_spec, Option.some.sizeOf_spec]
    omega

/-! ## The order of sites -/

theorem inside_iff : Inside outer site ↔
    site = outer ∨ ∃ index inner, Inner index outer inner ∧ Inside inner site := by
  constructor
  · intro h
    rcases Relation.ReflTransGen.cases_head h with rfl | ⟨inner, ⟨index, hinner⟩, hinside⟩
    · exact .inl rfl
    · exact .inr ⟨index, inner, hinner, hinside⟩
  · rintro (rfl | ⟨index, inner, hinner, hinside⟩)
    · exact .refl
    · exact .head ⟨index, hinner⟩ hinside

theorem Inside.exists_position (h : Inside outer site) :
    ∃ further, site.position = outer.position ++ further := by
  induction h with
  | refl => exact ⟨[], by simp⟩
  | tail _ hstep ih =>
    obtain ⟨index, hinner⟩ := hstep
    obtain ⟨further, hfurther⟩ := ih
    exact ⟨further ++ [index], by rw [hinner.position_eq, hfurther, List.append_assoc]⟩

theorem lex_append {first second : List Nat} (h : List.Lex (· < ·) first second) :
    (front : List Nat) → List.Lex (· < ·) (front ++ first) (front ++ second)
  | [] => h
  | _ :: front => .cons (lex_append h front)

theorem not_lex_append {further : List Nat} :
    (front : List Nat) → ¬ List.Lex (· < ·) (front ++ further) front
  | [], h => nomatch h
  | n :: _, .rel h => Nat.lt_irrefl n h
  | _ :: front, .cons h => not_lex_append front h

theorem Before.asymm {left right : Site} (h : left.Before right) : ¬ right.Before left :=
  List.lex_asymm (fun h => Nat.not_lt.2 (Nat.le_of_lt h)) h

/-- What is inside a site does not come before it. -/
theorem Inside.not_before (h : Inside outer site) : ¬ site.Before outer := by
  obtain ⟨further, hfurther⟩ := h.exists_position
  rw [Before, hfurther]
  exact not_lex_append outer.position

/-- Sites in a row, each by its own index. -/
structure Row (position : List Nat) (row : Nat → Site → Prop) : Prop where
  /-- A site of the row has its index at the end of its position. -/
  position_eq : ∀ index site, row index site → site.position = position ++ [index]
  /-- There is one site for an index. -/
  unique : ∀ index site other, row index site → row index other → site = other

/-- The sites of a row and those inside them. -/
def Below (row : Nat → Site → Prop) (site : Site) : Prop :=
  ∃ index outer, row index outer ∧ Inside outer site

theorem row_inner (outer : Site) : Row outer.position fun index site => Inner index outer site where
  position_eq _ _ h := h.position_eq
  unique _ _ _ h h' := h.unique h'

variable {position : List Nat} {row : Nat → Site → Prop}

/-- Sites inside one of a row come before those inside a later one. -/
theorem Row.before_of_lt (hrow : Row position row) {first second : Nat} {left right : Site}
    (hlt : first < second) (hleft : row first outer) (hright : row second inner)
    (hinsideLeft : Inside outer left) (hinsideRight : Inside inner right) : left.Before right := by
  obtain ⟨further, hfurther⟩ := hinsideLeft.exists_position
  obtain ⟨further', hfurther'⟩ := hinsideRight.exists_position
  rw [Before, hfurther, hfurther', hrow.position_eq _ _ hleft, hrow.position_eq _ _ hright,
    List.append_assoc, List.append_assoc]
  exact lex_append (.rel hlt) position

/-- The first violation below a row is the first below the first of its sites that has one. -/
theorem Row.firstViolation_iff (hrow : Row position row) :
    FirstViolation (Below row) site error ↔
      ∃ index outer, row index outer ∧ FirstViolation (Inside outer) site error ∧
        ∀ earlier < index, ∀ other, row earlier other → ∀ below, Inside other below →
          below.Conforms := by
  constructor
  · rintro ⟨⟨index, outer, houter, hinside⟩, hviolates, hbefore⟩
    refine ⟨index, outer, houter, ⟨hinside, hviolates, ?_⟩, ?_⟩
    · exact fun other hother => hbefore other ⟨index, outer, houter, hother⟩
    · intro earlier hlt other hother below hbelow
      exact hbefore below ⟨earlier, other, hother, hbelow⟩
        (hrow.before_of_lt hlt hother houter hbelow hinside)
  · rintro ⟨index, outer, houter, ⟨hinside, hviolates, hbefore⟩, hearlier⟩
    refine ⟨⟨index, outer, houter, hinside⟩, hviolates, ?_⟩
    rintro other ⟨index', outer', houter', hother⟩ hfirst
    rcases Nat.lt_trichotomy index' index with hlt | rfl | hgt
    · exact hearlier index' hlt outer' houter' other hother
    · rw [hrow.unique _ _ _ houter' houter] at hother
      exact hbefore other hother hfirst
    · have hlater := hrow.before_of_lt hgt houter houter' hinside hother
      exact absurd hfirst hlater.asymm

end Site

end TableFeed
