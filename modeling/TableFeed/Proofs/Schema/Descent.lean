import Mathlib.Data.List.Forall2
import Mathlib.Logic.Relation
import TableFeed.Proofs.Schema.Rendering

/-!
# How far rendering follows a schema

A schema describes values within values: the fields of a struct, the items of an array and the
values of a map.  A `Part` is a value with its schema and with what stands for it in a document.
`Part.Inner` and `Part.Entry` lead from a part to the parts directly inside it, and so does a path
of such steps to all of them.

Rendering follows the schema through fields and items to any depth, whatever names the fields have
(`Part.Rendered.follows`, `Part.Rendered.inner`).  It does not look into maps: what lies inside one
stands in the document as it came, so a decimal stays base64 text and a struct keeps the members
that no field declares (`Struct.text_follows`).
-/

namespace TableFeed

/-! ## Parts -/

namespace Document

/-- What stands under a key of a record or an object. -/
def member? (key : String) : Document → Option Document
  | .record members => members.lookup key
  | .value (.object members) => (members.lookup key).map .value
  | _ => none

/-- What stands at a place of a list or an array. -/
def item? (index : Nat) : Document → Option Document
  | .list items => items[index]?
  | .value (.array items) => items[index]?.map .value
  | _ => none

end Document

/-- Whether a schema is one of decimals in bytes. -/
def Schema.IsDecimal (s : Schema) : Prop :=
  s.kind = .bytes ∧ s.name = some Decimal.logicalName

/-- A value with its schema and what stands for it in a document. -/
structure Part where
  /-- The schema of the value. -/
  schema : Schema
  /-- The value. -/
  value : Json
  /-- What stands for it. -/
  document : Document

namespace Part

/-- Leads to a part directly inside another, through a field of a struct or an item of an array.  Of
fields with one name the last one counts. -/
inductive Inner : Part → Part → Prop where
  | field {s field : Schema} {members : List (String × Json)} {name : String}
      {before after : List (String × Schema)} {document shown : Document}
      (kind : s.kind = .struct) (declared : s.fields = before ++ (name, field) :: after)
      (last : name ∉ after.map Prod.fst) (place : document.member? name = some shown) :
      Inner ⟨s, .object members, document⟩ ⟨field, Json.orNull (members.lookup name), shown⟩
  | item {s item : Schema} {values : List Json} {index : Nat} {value : Json}
      {document shown : Document} (kind : s.kind = .array) (items : s.items = some item)
      (found : values[index]? = some value) (place : document.item? index = some shown) :
      Inner ⟨s, .array values, document⟩ ⟨item, value, shown⟩

/-- Leads to a part directly inside a map. -/
inductive Entry : Part → Part → Prop where
  | value {s inner : Schema} {members : List (String × Json)} {key : String} {value : Json}
      {document shown : Document} (kind : s.kind = .map) (values : s.values = some inner)
      (found : members.lookup key = some value) (place : document.member? key = some shown) :
      Entry ⟨s, .object members, document⟩ ⟨inner, value, shown⟩

/-- A document follows the schema in a part. -/
structure Follows (p : Part) : Prop where
  /-- A text where the schema expects a decimal is an exact number. -/
  decimal : ∀ text, p.value = .string text → p.schema.IsDecimal →
    ∃ digits, p.document = .decimal digits ∧ p.schema.WritesDecimal text digits
  /-- An object where it expects a struct has the declared fields in order, and no others. -/
  struct : ∀ members, p.value = .object members → p.schema.kind = .struct →
    ∃ shown, p.document = .record shown ∧ shown.map Prod.fst = p.schema.fieldNames.eraseDups
  /-- An array of items with a schema has as many items. -/
  array : ∀ values item, p.value = .array values → p.schema.kind = .array →
    p.schema.items = some item → ∃ shown, p.document = .list shown ∧ shown.length = values.length

/-- What stands for a part is what rendering makes of it. -/
def Rendered (p : Part) : Prop :=
  p.schema.render p.value = .ok p.document

/-- What stands for a part is the value as it came. -/
def Unchanged (p : Part) : Prop :=
  p.document = .value p.value

end Part

/-! ## One step down -/

theorem forall₂_of_mapM {α β ε : Type} {f : α → Except ε β} {items : List α} {results : List β}
    (h : items.mapM f = .ok results) : List.Forall₂ (fun a b => f a = .ok b) items results := by
  induction items generalizing results with
  | nil =>
    cases h
    exact .nil
  | cons item rest ih =>
    rw [List.mapM_cons] at h
    cases hitem : f item with
    | error error =>
      rw [hitem] at h
      cases h
    | ok b =>
      rw [hitem] at h
      cases hrest : rest.mapM f with
      | error error =>
        rw [hrest] at h
        cases h
      | ok others =>
        rw [hrest] at h
        cases h
        exact .cons hitem (ih hrest)

namespace Schema

variable {members : List (String × Json)} {fields : List (String × Schema)}
  {shown done : List (String × Document)}

/-- The first of the fields is rendered before the others. -/
theorem renderFields_cons_eq_ok {name : String} {s : Schema}
    (h : renderFields members ((name, s) :: fields) done = .ok shown) :
    ∃ document, s.render (Json.orNull (members.lookup name)) = .ok document ∧
      renderFields members fields (Entries.put name document done) = .ok shown := by
  rw [renderFields] at h
  cases hfirst : s.render (Json.orNull (members.lookup name)) with
  | error error =>
    rw [hfirst] at h
    cases h
  | ok document =>
    rw [hfirst] at h
    exact ⟨document, rfl, h⟩

theorem map_fst_renderFields {names : List String} (hdone : done.map Prod.fst = names.eraseDups)
    (h : renderFields members fields done = .ok shown) :
    shown.map Prod.fst = (names ++ fields.map Prod.fst).eraseDups := by
  induction fields generalizing done names with
  | nil =>
    cases h
    rw [List.map_nil, List.append_nil, hdone]
  | cons field rest ih =>
    obtain ⟨document, -, hrest⟩ := renderFields_cons_eq_ok h
    have hput := Entries.map_fst_put_of_eraseDups hdone field.1 document
    rw [ih hput hrest, List.append_assoc]
    rfl

theorem lookup_renderFields_of_not_mem {name : String} (hname : name ∉ fields.map Prod.fst)
    (h : renderFields members fields done = .ok shown) : shown.lookup name = done.lookup name := by
  induction fields generalizing done with
  | nil =>
    cases h
    rfl
  | cons field rest ih =>
    obtain ⟨hfield, hrest⟩ := not_or.1 (List.mem_cons.not.1 hname)
    obtain ⟨document, -, hshown⟩ := renderFields_cons_eq_ok h
    rw [ih hrest hshown, Entries.lookup_put, if_neg hfield]

/-- Under the name of a field stands what the last field with the name is rendered as. -/
theorem lookup_renderFields {name : String} {field : Schema} {before after : List (String × Schema)}
    (hlast : name ∉ after.map Prod.fst)
    (h : renderFields members (before ++ (name, field) :: after) done = .ok shown) :
    ∃ document, field.render (Json.orNull (members.lookup name)) = .ok document ∧
      shown.lookup name = some document := by
  induction before generalizing done with
  | nil =>
    obtain ⟨document, hdocument, hshown⟩ := renderFields_cons_eq_ok h
    refine ⟨document, hdocument, ?_⟩
    rw [lookup_renderFields_of_not_mem hlast hshown, Entries.lookup_put, if_pos rfl]
  | cons first rest ih =>
    obtain ⟨_, -, hshown⟩ := renderFields_cons_eq_ok h
    exact ih hshown

end Schema

namespace Part

variable {p q : Part}

/-! ### Rendered parts -/

theorem Rendered.exists_record {s : Schema} {members : List (String × Json)} {document : Document}
    (h : Rendered ⟨s, .object members, document⟩) (hkind : s.kind = .struct) :
    ∃ shown, document = .record shown ∧ Schema.renderFields members s.fields [] = .ok shown := by
  obtain ⟨kind, _, _, _, _, _, _, fields, _, _, _⟩ := s
  cases hkind
  obtain ⟨shown, hshown, hdocument⟩ := map_eq_ok_iff.1 h
  exact ⟨shown, hdocument.symm, hshown⟩

theorem Rendered.exists_list {s item : Schema} {values : List Json} {document : Document}
    (h : Rendered ⟨s, .array values, document⟩) (hkind : s.kind = .array)
    (hitems : s.items = some item) :
    ∃ shown, document = .list shown ∧
      List.Forall₂ (fun value document => item.render value = .ok document) values shown := by
  obtain ⟨kind, _, _, _, _, _, _, _, items, _, _⟩ := s
  cases hkind
  cases hitems
  obtain ⟨shown, hshown, hdocument⟩ := map_eq_ok_iff.1 h
  exact ⟨shown, hdocument.symm, forall₂_of_mapM hshown⟩

/-- A text where the schema expects a decimal is rendered as its number. -/
theorem Rendered.exists_decimal {s : Schema} {text : String} {document : Document}
    (h : Rendered ⟨s, .string text, document⟩) (hdecimal : s.IsDecimal) :
    ∃ digits, document = .decimal digits ∧ s.WritesDecimal text digits := by
  obtain ⟨kind, _, name, _, _, _, _, _, _, _, _⟩ := s
  obtain ⟨hkind, hname⟩ := hdecimal
  cases hkind
  cases hname
  rw [Rendered, Schema.render, if_pos ⟨rfl, rfl⟩] at h
  generalize hs : (Schema.mk _ _ _ _ _ _ _ _ _ _ _) = s at h ⊢
  cases hresult : s.renderDecimal (.string text) with
  | error fault =>
    rw [hresult] at h
    cases h
  | ok found =>
    obtain ⟨digits, hdigits, hwrites⟩ :=
      Schema.exists_renderDecimal (Schema.readsDecimal_of_renderDecimal hresult)
    rw [hdigits] at h
    cases h
    exact ⟨digits, rfl, hwrites⟩

theorem Rendered.follows (h : p.Rendered) : p.Follows := by
  obtain ⟨s, value, document⟩ := p
  refine ⟨?_, ?_, ?_⟩
  · rintro text rfl hdecimal
    exact h.exists_decimal hdecimal
  · rintro members rfl hkind
    obtain ⟨shown, rfl, hshown⟩ := h.exists_record hkind
    have hnone : ([] : List (String × Document)).map Prod.fst = [].eraseDups := rfl
    exact ⟨shown, rfl, Schema.map_fst_renderFields hnone hshown⟩
  · rintro values item rfl hkind hitems
    obtain ⟨shown, rfl, hshown⟩ := h.exists_list hkind hitems
    exact ⟨shown, rfl, hshown.length_eq.symm⟩

/-- What lies inside a rendered part is rendered by its own schema. -/
theorem Rendered.inner (h : p.Rendered) (hstep : Inner p q) : q.Rendered := by
  cases hstep with
  | @field s field members name before after document shown kind declared last place =>
    obtain ⟨record, rfl, hrecord⟩ := h.exists_record kind
    rw [declared] at hrecord
    obtain ⟨found, hfound, hlookup⟩ := Schema.lookup_renderFields last hrecord
    cases hlookup.symm.trans place
    exact hfound
  | @item s item values index value document shown kind items found place =>
    obtain ⟨list, rfl, hlist⟩ := h.exists_list kind items
    obtain ⟨hvalue, rfl⟩ := List.getElem?_eq_some_iff.1 found
    obtain ⟨hshown, rfl⟩ := List.getElem?_eq_some_iff.1 place
    exact hlist.get hvalue hshown

theorem Rendered.unchanged_of_map (h : p.Rendered) (hkind : p.schema.kind = .map) :
    p.Unchanged := by
  obtain ⟨⟨kind, _, _, _, _, _, _, _, _, _, _⟩, value, document⟩ := p
  cases hkind
  cases value with
  | null => exact (Except.ok.inj h).symm
  | bool b => exact (Except.ok.inj h).symm
  | number n => exact (Except.ok.inj h).symm
  | string text => exact (Except.ok.inj h).symm
  | array values => exact (Except.ok.inj h).symm
  | object members => exact (Except.ok.inj h).symm

/-! ### Unchanged parts -/

theorem Unchanged.inner (h : p.Unchanged) (hstep : Inner p q ∨ Entry p q) : q.Unchanged := by
  rcases hstep with hinner | hentry
  · cases hinner with
    | @field s field members name before after document shown kind declared last place =>
      obtain rfl : document = .value (.object members) := h
      obtain ⟨value, hvalue, rfl⟩ := Option.map_eq_some_iff.1 place
      rw [Unchanged, hvalue]
      rfl
    | @item s item values index value document shown kind items found place =>
      obtain rfl : document = .value (.array values) := h
      obtain ⟨same, hsame, rfl⟩ := Option.map_eq_some_iff.1 place
      cases found.symm.trans hsame
      rfl
  · cases hentry with
    | @value s inner members key value document shown kind values found place =>
      obtain rfl : document = .value (.object members) := h
      obtain ⟨same, hsame, rfl⟩ := Option.map_eq_some_iff.1 place
      cases found.symm.trans hsame
      rfl

/-! ## Any number of steps down -/

/-- A part lies inside another, at any depth, with no map on the way. -/
def Within : Part → Part → Prop :=
  Relation.ReflTransGen Inner

/-- A part lies inside another, at any depth, through structs, arrays and maps. -/
def Below : Part → Part → Prop :=
  Relation.ReflTransGen fun p q => Inner p q ∨ Entry p q

theorem Rendered.within (h : p.Rendered) (hpath : Within p q) : q.Rendered := by
  induction hpath with
  | refl => exact h
  | tail _ hstep ih => exact ih.inner hstep

theorem Unchanged.below (h : p.Unchanged) (hpath : Below p q) : q.Unchanged := by
  induction hpath with
  | refl => exact h
  | tail _ hstep ih => exact ih.inner hstep

end Part

/-! ## Structs -/

theorem Struct.rendered {schema : Schema} {payload : Json} {s : Struct} {document : Document}
    (hmade : Struct.ofJson schema payload = .ok s) (hrender : s.render = .ok document) :
    Part.Rendered ⟨schema, payload, document⟩ := by
  obtain ⟨hkind, members, rfl, -, rfl⟩ := Struct.ofJson_eq_ok_iff.1 hmade
  obtain ⟨kind, _, _, _, _, _, _, fields, _, _, _⟩ := schema
  cases hkind
  exact hrender

/-- The text of a struct is that of a document that follows the schema in every part which lies
inside through fields and items.  A map ends this: whatever lies below it stands there as it
came. -/
theorem Struct.text_follows {schema : Schema} {payload : Json} {s : Struct} {text : String}
    (hmade : Struct.ofJson schema payload = .ok s) (htext : s.text = .ok text) :
    ∃ document, s.render = .ok document ∧ document.text = text ∧
      (∀ p, Part.Within ⟨schema, payload, document⟩ p → p.Follows) ∧
      ∀ outer p, Part.Within ⟨schema, payload, document⟩ outer → outer.schema.kind = .map →
        Part.Below outer p → p.Unchanged := by
  obtain ⟨document, hrender, hsame⟩ := map_eq_ok_iff.1 htext
  have hroot := Struct.rendered hmade hrender
  refine ⟨document, hrender, hsame, fun p hpath => ?_, fun outer p hpath hmap hbelow => ?_⟩
  · exact (hroot.within hpath).follows
  · exact ((hroot.within hpath).unchanged_of_map hmap).below hbelow

/-- Decimals in cents. -/
def cents : Schema :=
  ((Schema.ofKind .bytes).named Decimal.logicalName).withParameter Decimal.scaleParameter "2"

/-- A price in a struct. -/
def quote : Schema :=
  .ofFields "quote" [("price", cents)]

/-- Prices in the structs of an array. -/
def pastPrices : Schema :=
  { Schema.ofKind .array with items := some quote }

/-- Prices in a map. -/
def openPrices : Schema :=
  { Schema.ofKind .map with keys := some (.ofKind .string), values := some cents }

/-- A struct with prices in an array of structs and in a map. -/
def quotes : Schema :=
  .ofFields "quotes" [("past", pastPrices), ("open", openPrices)]

/-- The members of a struct with one price in each, and a member that no field declares. -/
def quotesMembers : List (String × Json) :=
  [("open", .object [("eur", .string "/w==")]),
    ("past", .array [.object [("extra", .bool true), ("price", .string "/w==")]])]

/-- The text of the struct. -/
def quotesText : String :=
  "\x7b\"past\":[\x7b\"price\":-0.01\x7d],\"open\":\x7b\"eur\":\"/w==\"\x7d\x7d"

/-- The struct with what stands for it. -/
def quotesPart (document : Document) : Part :=
  ⟨quotes, .object quotesMembers, document⟩

/-- The map in it with what stands for it. -/
def openPart (shown : Document) : Part :=
  ⟨openPrices, .object [("eur", .string "/w==")], shown⟩

/-- A price in the map as it came. -/
def openPrice : Part :=
  ⟨cents, .string "/w==", .value (.string "/w==")⟩

theorem exists_inner_openPart {document : Document} (h : (quotesPart document).Follows) :
    ∃ shown, Part.Inner (quotesPart document) (openPart shown) := by
  obtain ⟨shown, rfl, hnames⟩ := h.struct quotesMembers rfl rfl
  have hkeys : shown.map Prod.fst = ["past", "open"] := hnames
  have hmem : "open" ∈ shown.map Prod.fst := hkeys ▸ .tail _ (.head _)
  obtain ⟨inner, hinner⟩ := Option.isSome_iff_exists.1 (Entries.isSome_lookup_of_mem hmem)
  have hdeclared : quotes.fields = [("past", pastPrices)] ++ ("open", openPrices) :: [] := rfl
  exact ⟨inner, .field rfl hdeclared List.not_mem_nil hinner⟩

theorem entry_openPrice {shown : Document} (h : (openPart shown).Unchanged) :
    Part.Entry (openPart shown) openPrice := by
  obtain rfl : shown = .value (.object [("eur", .string "/w==")]) := h
  have hvalue : [("eur", Json.string "/w==")].lookup "eur" = some (.string "/w==") := rfl
  exact .value rfl rfl hvalue rfl

theorem ofJson_quotes :
    Struct.ofJson quotes (.object quotesMembers) = .ok ⟨quotes, quotesMembers⟩ := by
  rfl

theorem text_quotes : Struct.text ⟨quotes, quotesMembers⟩ = .ok quotesText := by
  decide +kernel

theorem Struct.text_follows_quotes :
    Struct.ofJson quotes (.object quotesMembers) = .ok ⟨quotes, quotesMembers⟩ ∧
      Struct.text ⟨quotes, quotesMembers⟩ = .ok quotesText ∧
      ∃ document, document.text = quotesText ∧ (quotesPart document).Follows ∧
        ∃ shown, Part.Inner (quotesPart document) (openPart shown) ∧ (openPart shown).Unchanged ∧
          openPrice.Unchanged := by
  obtain ⟨document, -, hsame, hfollows, hmap⟩ := Struct.text_follows ofJson_quotes text_quotes
  have hroot : (quotesPart document).Follows := hfollows _ .refl
  obtain ⟨shown, hinner⟩ := exists_inner_openPart hroot
  have hopen : (openPart shown).Unchanged := hmap _ _ (.single hinner) rfl .refl
  have hprice : openPrice.Unchanged :=
    hmap _ _ (.single hinner) rfl (.single (.inr (entry_openPrice hopen)))
  exact ⟨ofJson_quotes, text_quotes, document, hsame, hroot, shown, hinner, hopen, hprice⟩

/-- The schema is not followed through maps: a price in a map is no number. -/
theorem Struct.exists_not_follows_below : ¬ ∀ (schema : Schema) (payload : Json) (s : Struct)
    (text : String), Struct.ofJson schema payload = .ok s → s.text = .ok text →
      ∃ document, s.render = .ok document ∧ document.text = text ∧
        ∀ p, Part.Below ⟨schema, payload, document⟩ p → p.Follows := by
  intro h
  obtain ⟨document, hrender, -, hfollows⟩ := h _ _ _ _ ofJson_quotes text_quotes
  have hroot : (quotesPart document).Rendered := Struct.rendered ofJson_quotes hrender
  obtain ⟨shown, hinner⟩ := exists_inner_openPart hroot.follows
  have hopen : (openPart shown).Unchanged := (hroot.inner hinner).unchanged_of_map rfl
  have hbelow : Part.Below (quotesPart document) openPrice :=
    (Relation.ReflTransGen.single (.inl hinner)).tail (.inr (entry_openPrice hopen))
  obtain ⟨digits, hdigits, -⟩ := (hfollows _ hbelow).decimal "/w==" rfl ⟨rfl, rfl⟩
  cases hdigits

end TableFeed
