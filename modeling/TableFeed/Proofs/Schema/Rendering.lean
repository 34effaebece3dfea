import TableFeed.Proofs.Decimal
import TableFeed.Proofs.Schema.Conformance

/-!
# What a rendered struct shows

Rendering walks the declared fields of a struct, through nested structs and through the items
of arrays.  The one thing that can go wrong on the way is a decimal.  `fieldDecimals` lists the
decimals in the order of the walk, each with the field that it is found in.

`Rendering` says what comes of a walk.  When each of its decimals can be read, there is a result,
and it shows the value (`Shows`): fields in declaration order, decimals as exact numbers, and
everything else as it came.  When one cannot, the error names the field of the first of these.
It is proved of each step and of a step after another (`Rendering.bind`), and so by induction over
the schema of the whole (`renderFields_rendering`).
-/

namespace TableFeed

/-! ## Decimals -/

namespace Schema

/-- The scale parameter of a schema, zero when it is not there. -/
def DeclaresScale (s : Schema) (scale : Nat) : Prop :=
  match s.parameter? Decimal.scaleParameter with
  | none => scale = 0
  | some raw => Text.readUnsigned (twoTo 32) (Text.trim raw) = some scale

/-- A schema declares a scale that is not too large, and a text encodes an unscaled number. -/
def ReadsDecimal (s : Schema) (text : String) : Prop :=
  (∃ scale, s.DeclaresScale scale ∧ scale ≤ Decimal.maxScale) ∧
    ∃ bytes, Decimal.Encodes text bytes

/-- Digits write the number of a text exactly. -/
def WritesDecimal (s : Schema) (text : String) (digits : List Char) : Prop :=
  ∃ scale bytes n, s.DeclaresScale scale ∧ Decimal.Encodes text bytes ∧
    Decimal.IsTwosComplement bytes n ∧ Decimal.IsExact n scale digits

theorem decimalScale_eq_ok_iff {s : Schema} {scale : Nat} :
    s.decimalScale = .ok scale ↔ s.DeclaresScale scale := by
  rw [decimalScale, DeclaresScale]
  cases s.parameter? Decimal.scaleParameter with
  | none => simp [eq_comm]
  | some raw =>
    dsimp only
    cases Text.readUnsigned (twoTo 32) (Text.trim raw) with
    | none => simp
    | some found => simp

/-- Digits that are decoded and are one number are rendered as they are. -/
theorem renderDecimal_of_decode {s : Schema} {scale : Nat} {value : Json} {digits : List Char}
    {t : Json.Reader.NumberText} (hscale : s.DeclaresScale scale)
    (hdecode : Decimal.decode value scale = .ok digits)
    (hnumber : Json.Reader.numberText? digits = some (t, [])) :
    s.renderDecimal value = .ok (.decimal digits) := by
  simp only [renderDecimal, decimalScale_eq_ok_iff.2 hscale, hdecode, bind, Except.bind, hnumber]
  rfl

/-- A decimal that can be read is rendered as its number. -/
theorem exists_renderDecimal {s : Schema} {text : String} (h : s.ReadsDecimal text) :
    ∃ digits, s.renderDecimal (.string text) = .ok (.decimal digits) ∧
      s.WritesDecimal text digits := by
  obtain ⟨⟨scale, hscale, hle⟩, bytes, hencodes⟩ := h
  have hexact := Decimal.isExact_chars (Decimal.twosComplement bytes) scale
  have hdecode : Decimal.decode (.string text) scale =
      .ok (Decimal.chars (Decimal.twosComplement bytes) scale) :=
    Decimal.decode_string_eq_ok_iff.2 ⟨hle, bytes, hencodes, rfl⟩
  obtain ⟨t, hnumber⟩ := Decimal.numberText?_of_isExact hexact
  exact ⟨_, renderDecimal_of_decode hscale hdecode hnumber, scale, bytes, _, hscale, hencodes,
    Decimal.isTwosComplement bytes, hexact⟩

theorem readsDecimal_of_renderDecimal {s : Schema} {text : String} {document : Document}
    (h : s.renderDecimal (.string text) = .ok document) : s.ReadsDecimal text := by
  simp only [renderDecimal, bind, Except.bind] at h
  split at h
  · cases h
  next scale hscale =>
  split at h
  · cases h
  next digits hdecode =>
  obtain ⟨hle, bytes, hencodes, -⟩ := Decimal.decode_string_eq_ok_iff.1 hdecode
  exact ⟨⟨scale, decimalScale_eq_ok_iff.1 hscale, hle⟩, bytes, hencodes⟩

end Schema

/-- A text where a schema of decimals expects one. -/
structure FoundDecimal where
  /-- The nearest field that it is found in. -/
  field : String
  /-- The schema of the decimal. -/
  schema : Schema
  /-- The text. -/
  text : String

/-- A decimal can be read. -/
def FoundDecimal.Sound (d : FoundDecimal) : Prop :=
  d.schema.ReadsDecimal d.text

namespace Schema

theorem not_readsDecimal_of_renderDecimal {s : Schema} {text : String} {fault : Decimal.Fault}
    (h : s.renderDecimal (.string text) = .error fault) : ¬ s.ReadsDecimal text := by
  intro hreads
  obtain ⟨digits, hdigits, -⟩ := exists_renderDecimal hreads
  rw [h] at hdigits
  cases hdigits

mutual

/-- The decimals in a value of a schema, in the order of the walk; `field` is the nearest field
around the value. -/
def decimals (field : String) (value : Json) : Schema → List FoundDecimal
  | s@⟨kind, _, name, _, _, _, _, fields, items, _, _⟩ =>
    match value with
    | .object members => if kind = .struct then fieldDecimals members fields else []
    | .array values => if kind = .array then itemDecimals field values items else []
    | .string text =>
      if kind = .bytes ∧ name = some Decimal.logicalName then [⟨field, s, text⟩] else []
    | _ => []

/-- The decimals in members that fields declare. -/
def fieldDecimals (members : List (String × Json)) : List (String × Schema) → List FoundDecimal
  | [] => []
  | (name, s) :: rest =>
    decimals name (Json.orNull (members.lookup name)) s ++ fieldDecimals members rest

/-- The decimals in the items of an array, when their schema is known. -/
def itemDecimals (field : String) (values : List Json) : Option Schema → List FoundDecimal
  | none => []
  | some s => values.flatMap fun value => decimals field value s

end

/-! ## What documents show -/

mutual

/-- A document shows a value by its schema. -/
def Shows (value : Json) (document : Document) : Schema → Prop
  | s@⟨kind, _, name, _, _, _, _, fields, items, _, _⟩ =>
    match value with
    | .object members =>
      if kind = .struct then ∃ shown, document = .record shown ∧ ShowsFields members shown fields
      else document = .value value
    | .array values =>
      if kind = .array then ShowsItems values document items else document = .value value
    | .string text =>
      if kind = .bytes ∧ name = some Decimal.logicalName then
        ∃ digits, document = .decimal digits ∧ s.WritesDecimal text digits
      else document = .value value
    | _ => document = .value value

/-- The members of a record show fields: their names in order, each with what shows the member of
its name, or null. -/
def ShowsFields (members : List (String × Json)) (shown : List (String × Document)) :
    List (String × Schema) → Prop
  | [] => shown = []
  | (name, s) :: rest => ∃ document others, shown = (name, document) :: others ∧
    Shows (Json.orNull (members.lookup name)) document s ∧ ShowsFields members others rest

/-- A document shows the items of an array, one by one when their schema is known. -/
def ShowsItems (values : List Json) (document : Document) : Option Schema → Prop
  | none => document = .value (.array values)
  | some s => ∃ items, document = .list items ∧
    List.Forall₂ (fun value item => Shows value item s) values items

end

theorem map_fst_of_showsFields {members : List (String × Json)} {fields : List (String × Schema)}
    {shown : List (String × Document)} (h : ShowsFields members shown fields) :
    shown.map Prod.fst = fields.map Prod.fst := by
  induction fields generalizing shown with
  | nil =>
    cases h
    rfl
  | cons field rest ih =>
    obtain ⟨document, others, rfl, -, hothers⟩ := h
    rw [List.map_cons, List.map_cons, ih hothers]

mutual

/-- No struct on the way through fields and items has an empty or a repeated field name. -/
def NamesFields : Schema → Prop
  | ⟨kind, _, _, _, _, _, _, fields, items, _, _⟩ =>
    (kind = .struct → (fields.map Prod.fst).Nodup ∧ EachNames fields) ∧
      (kind = .array → ItemsName items)

/-- No field has an empty name, and no struct in one has an empty or a repeated field name. -/
def EachNames : List (String × Schema) → Prop
  | [] => True
  | (name, s) :: rest => name ≠ "" ∧ NamesFields s ∧ EachNames rest

/-- No struct in an item has an empty or a repeated field name. -/
def ItemsName : Option Schema → Prop
  | none => True
  | some s => NamesFields s

end

end Schema

/-! ## Outcomes -/

/-- What comes of a walk on which decimals are found: a result that shows what was walked over when
all of them are sound, else the field of the first that is refused. -/
inductive Rendering {α : Type} (found : List FoundDecimal) (Shown : α → Prop) :
    Except SchemaError α → Prop where
  | ok {a : α} (sound : ∀ d ∈ found, d.Sound) (shows : Shown a) : Rendering found Shown (.ok a)
  | error {before after : List FoundDecimal} {d : FoundDecimal} {fault : Decimal.Fault}
    (order : found = before ++ d :: after) (sound : ∀ earlier ∈ before, earlier.Sound)
    (refused : d.schema.renderDecimal (.string d.text) = .error fault) (named : d.field ≠ "") :
    Rendering found Shown (.error (.decimal d.field fault))

namespace Rendering

variable {α β : Type} {found later : List FoundDecimal} {Shown : α → Prop} {Shown' : β → Prop}
  {result : Except SchemaError α}

theorem map {f : α → β} (h : Rendering found Shown result) (hf : ∀ a, Shown a → Shown' (f a)) :
    Rendering found Shown' (result.map f) := by
  cases h with
  | ok sound hshows => exact .ok sound (hf _ hshows)
  | error order sound refused named => exact .error order sound refused named

theorem weaken {Weaker : α → Prop} (h : Rendering found Shown result)
    (hweaker : ∀ a, Shown a → Weaker a) : Rendering found Weaker result := by
  cases h with
  | ok sound hshows => exact .ok sound (hweaker _ hshows)
  | error order sound refused named => exact .error order sound refused named

theorem bind {f : α → Except SchemaError β} (h : Rendering found Shown result)
    (hf : ∀ a, Shown a → Rendering later Shown' (f a)) :
    Rendering (found ++ later) Shown' (result.bind f) := by
  cases h with
  | @ok a sound hshows =>
    have hnext := hf a hshows
    change Rendering (found ++ later) Shown' (f a)
    generalize f a = next at hnext ⊢
    cases hnext with
    | ok soundLater hshows' =>
      exact .ok (List.forall_mem_append.2 ⟨sound, soundLater⟩) hshows'
    | @error before after d fault order soundBefore refused named =>
      refine .error (by rw [order, List.append_assoc]) ?_ refused named
      exact List.forall_mem_append.2 ⟨sound, soundBefore⟩
  | @error before after d fault order sound refused named =>
    exact .error (by rw [order, List.append_assoc, List.cons_append]) sound refused named

/-- An error that names a field keeps it when it leaves the fields around. -/
theorem atField (h : Rendering found Shown result) (field : String) :
    Rendering found Shown (result.mapError (SchemaError.atField field)) := by
  cases h with
  | ok sound hshows => exact .ok sound hshows
  | @error before after d fault order sound refused named =>
    have hkept : SchemaError.atField field (.decimal d.field fault) = .decimal d.field fault := by
      rw [SchemaError.atField, if_neg named]
    rw [Except.mapError, hkept]
    exact .error order sound refused named

theorem mapM {f : Json → Except SchemaError β} {foundIn : Json → List FoundDecimal}
    {Shown' : Json → β → Prop} (h : ∀ value, Rendering (foundIn value) (Shown' value) (f value))
    (values : List Json) :
    Rendering (values.flatMap foundIn) (List.Forall₂ Shown' values) (values.mapM f) := by
  induction values with
  | nil => exact .ok nofun .nil
  | cons value rest ih =>
    rw [List.mapM_cons, List.flatMap_cons]
    refine (h value).bind fun b hb => ?_
    exact ih.map fun others hothers => .cons hb hothers

end Rendering

theorem mapError_mapM {α β ε ε' : Type} {f : α → Except ε β} {g : ε → ε'} (items : List α) :
    (items.mapM f).mapError g = items.mapM fun item => (f item).mapError g := by
  induction items with
  | nil => rfl
  | cons item rest ih =>
    rw [List.mapM_cons, List.mapM_cons, ← ih]
    cases f item with
    | error error => rfl
    | ok b =>
      cases rest.mapM f with
      | error error => rfl
      | ok others => rfl

theorem mapError_map {α β ε ε' : Type} {f : α → β} {g : ε → ε'} (result : Except ε α) :
    (result.map f).mapError g = (result.mapError g).map f := by
  cases result with
  | error error => rfl
  | ok a => rfl

namespace Schema

theorem renderFields_cons (members : List (String × Json)) (name : String) (s : Schema)
    (rest : List (String × Schema)) (done : List (String × Document)) :
    renderFields members ((name, s) :: rest) done =
      ((render (Json.orNull (members.lookup name)) s).mapError (SchemaError.atField name)).bind
        fun document => renderFields members rest (Entries.put name document done) := by
  rw [renderFields]
  cases render (Json.orNull (members.lookup name)) s with
  | error error => rfl
  | ok document => rfl

theorem renderDecimal_rendering {field : String} (hfield : field ≠ "") (s : Schema)
    (text : String) :
    Rendering [⟨field, s, text⟩]
      (fun document => ∃ digits, document = .decimal digits ∧ s.WritesDecimal text digits)
      (((s.renderDecimal (.string text)).mapError (SchemaError.decimal "")).mapError
        (SchemaError.atField field)) := by
  cases hresult : s.renderDecimal (.string text) with
  | ok document =>
    have hreads := readsDecimal_of_renderDecimal hresult
    obtain ⟨digits, hdigits, hwrites⟩ := exists_renderDecimal hreads
    rw [hresult] at hdigits
    cases hdigits
    exact .ok (List.forall_mem_singleton.2 hreads) ⟨digits, rfl, hwrites⟩
  | error fault =>
    -- The fault comes without a name, and so it gets that of the field.
    exact .error (List.nil_append _).symm nofun hresult hfield

mutual

/-- Rendering a value in a field shows it, or names the field of its first unsound decimal. -/
theorem render_rendering {field : String} (hfield : field ≠ "") (value : Json) :
    (s : Schema) → s.NamesFields →
      Rendering (s.decimals field value) (fun document => s.Shows value document)
        ((s.render value).mapError (SchemaError.atField field))
  | s@⟨kind, _, name, _, _, _, _, fields, items, _, _⟩, h => by
    -- Three kinds of values are looked into, each by one kind of schema.  Any other pair is taken
    -- over as it is, and no decimal is found in it.
    cases value with
    | object members =>
      simp only [render, decimals, Shows]
      by_cases hkind : kind = .struct
      · obtain ⟨hnodup, hfields⟩ := h.1 hkind
        have hrendering := renderFields_rendering members fields [] hnodup hfields
        simp only [if_pos hkind]
        refine (hrendering.map ?_).atField field
        rintro _ ⟨_, rfl, hshown⟩
        exact ⟨_, rfl, hshown⟩
      · simp only [if_neg hkind]
        exact .ok nofun rfl
    | array values =>
      simp only [render, decimals, Shows]
      by_cases hkind : kind = .array
      · simp only [if_pos hkind]
        exact renderItems_rendering hfield values items (h.2 hkind)
      · simp only [if_neg hkind]
        exact .ok nofun rfl
    | string text =>
      simp only [render, decimals, Shows]
      by_cases hkind : kind = .bytes ∧ name = some Decimal.logicalName
      · simp only [if_pos hkind]
        exact renderDecimal_rendering hfield _ text
      · simp only [if_neg hkind]
        exact .ok nofun rfl
    | null => exact .ok nofun rfl
    | bool b => exact .ok nofun rfl
    | number n => exact .ok nofun rfl

/-- Rendering fields shows them after what is done, or names the field of their first unsound
decimal. -/
theorem renderFields_rendering (members : List (String × Json)) :
    (fields : List (String × Schema)) → (done : List (String × Document)) →
      (done.map Prod.fst ++ fields.map Prod.fst).Nodup → EachNames fields →
      Rendering (fieldDecimals members fields)
        (fun all => ∃ shown, all = done ++ shown ∧ ShowsFields members shown fields)
        (renderFields members fields done)
  | [], done, _, _ => .ok nofun ⟨[], (List.append_nil done).symm, rfl⟩
  | (name, s) :: rest, done, hnodup, h => by
    obtain ⟨hname, hs, hrest⟩ := h
    rw [renderFields_cons, fieldDecimals]
    refine (render_rendering hname _ s hs).bind fun document hdocument => ?_
    have hnew : name ∉ done.map Prod.fst := fun hmem =>
      (List.nodup_append.1 hnodup).2.2 name hmem name List.mem_cons_self rfl
    have hput : Entries.put name document done = done ++ [(name, document)] :=
      Entries.put_of_not_mem hnew
    have hnext : ((done ++ [(name, document)]).map Prod.fst ++ rest.map Prod.fst).Nodup := by
      simpa using hnodup
    rw [hput]
    refine (renderFields_rendering members rest _ hnext hrest).weaken ?_
    rintro _ ⟨others, rfl, hothers⟩
    exact ⟨(name, document) :: others, by simp, document, others, rfl, hdocument, hothers⟩

theorem renderItems_rendering {field : String} (hfield : field ≠ "") (values : List Json) :
    (items : Option Schema) → ItemsName items →
      Rendering (itemDecimals field values items)
        (fun document => ShowsItems values document items)
        ((renderItems values items).mapError (SchemaError.atField field))
  | none, _ => .ok nofun rfl
  | some s, h => by
    rw [renderItems, itemDecimals, mapError_map, mapError_mapM]
    have hitems := Rendering.mapM (fun value => render_rendering hfield value s h) values
    exact hitems.map fun shown hshown => ⟨shown, rfl, hshown⟩

end

end Schema

/-! ## Structs -/

/-- The text of a struct is there just when every decimal in its declared parts can be read.  It is
the text of a record that has the declared names in order and shows the payload by the schema.
When some decimal cannot be read, the error is that of the first one, under the name of the
nearest field around it. -/
theorem Struct.text_rendering {schema : Schema} {payload : Json} {s : Struct}
    (hmade : Struct.ofJson schema payload = .ok s) (hnames : schema.NamesFields) :
    ((∃ text, s.text = .ok text) ↔ ∀ d ∈ schema.decimals "" payload, d.Sound) ∧
    (∀ text, s.text = .ok text → ∃ shown, text = (Document.record shown).text ∧
      shown.map Prod.fst = schema.fieldNames ∧ schema.Shows payload (.record shown)) ∧
    ∀ error, s.text = .error error → ∃ before d after fault,
      schema.decimals "" payload = before ++ d :: after ∧
      (∀ earlier ∈ before, earlier.Sound) ∧ ¬ d.Sound ∧
      d.schema.renderDecimal (.string d.text) = .error fault ∧ error = .decimal d.field fault := by
  obtain ⟨hkind, members, rfl, -, rfl⟩ := Struct.ofJson_eq_ok_iff.1 hmade
  obtain ⟨kind, _, _, _, _, _, _, fields, _, _, _⟩ := schema
  cases hkind
  obtain ⟨hnodup, hfields⟩ := hnames.1 rfl
  have hrendering := Schema.renderFields_rendering members fields [] hnodup hfields
  rw [Schema.decimals, if_pos rfl]
  simp only [Struct.text, Struct.render]
  generalize Schema.renderFields members fields [] = result at hrendering ⊢
  cases hrendering with
  | ok sound hshows =>
    obtain ⟨_, rfl, hshown⟩ := hshows
    refine ⟨⟨fun _ => sound, fun _ => ⟨_, rfl⟩⟩, ?_, nofun⟩
    intro text htext
    cases htext
    exact ⟨_, rfl, Schema.map_fst_of_showsFields hshown, _, rfl, hshown⟩
  | @error before after d fault order sound refused named =>
    have hunsound : ¬ d.Sound := Schema.not_readsDecimal_of_renderDecimal refused
    refine ⟨⟨nofun, fun hall => ?_⟩, nofun, ?_⟩
    · rw [order] at hall
      exact absurd (hall d (List.mem_append_right _ List.mem_cons_self)) hunsound
    · intro error herror
      cases herror
      exact ⟨before, d, after, fault, order, sound, hunsound, refused, rfl⟩

/-- A struct with a decimal in the items of an array. -/
def orderSchema : Schema :=
  let price := ((Schema.ofKind .bytes).named Decimal.logicalName).withParameter
    Decimal.scaleParameter "2"
  let line := Schema.ofFields "line"
    [("price", price), ("note", (Schema.ofKind .string).asOptional)]
  let lines := { Schema.ofKind .array with items := some line }
  .ofFields "order" [("id", .ofKind .int64), ("lines", lines)]

/-- An order with one line and a member that is not declared. -/
def orderPayload : Json :=
  .object [("extra", .bool true), ("id", .number (.whole ⟨7, by decide, by decide⟩)),
    ("lines", .array [.object [("price", .string "/w==")]])]

theorem Struct.text_rendering_order :
    orderSchema.NamesFields ∧ ∃ s, Struct.ofJson orderSchema orderPayload = .ok s ∧
      ((∃ text, s.text = .ok text) ↔ ∀ d ∈ orderSchema.decimals "" orderPayload, d.Sound) ∧
      s.text =
        .ok "\x7b\"id\":7,\"lines\":[\x7b\"price\":-0.01,\"note\":null\x7d]\x7d" := by
  have hnames : orderSchema.NamesFields := by
    simp [orderSchema, Schema.ofFields, Schema.ofKind, Schema.named, Schema.withParameter,
      Schema.asOptional, Schema.NamesFields, Schema.EachNames, Schema.ItemsName]
  refine ⟨hnames, ⟨orderSchema, _⟩, by rfl, (Struct.text_rendering rfl hnames).1, ?_⟩
  decide +kernel

end TableFeed
