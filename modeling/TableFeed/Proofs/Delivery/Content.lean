import TableFeed.Proofs.Delivery.Rows
import TableFeed.Proofs.Event.Images
import TableFeed.Proofs.ValueType.Builtin

/-!
# What a row holds

A row is written name after name, so a name that comes again keeps its place and takes the
later value.  The delete sign comes last.  `Connector.RowOf` says what the members of such a
row are, without the order of writing: which keys there are and in which order, the sign's
value, and for every other name the value that the image gives (`Connector.Carries`).
`transform_rowOf` says that every row that a connector writes for a change event is the text
of such members.
-/

namespace TableFeed

/-! ## Values of an image -/

namespace Struct

/-- The value of a field as it arrived, null for one that is missing or not declared. -/
def arrived (s : Struct) (name : String) : Json :=
  match s.schema.fields.lookup name, s.members.lookup name with
  | some _, some value => value
  | _, _ => .null

/-- What the schema of a field puts in the place of null: its default, if there is one. -/
def fallback (s : Struct) (name : String) : Json :=
  match s.schema.fields.lookup name with
  | some field => field.defaultValue.getD .null
  | none => .null

theorem orNull_raw? (s : Struct) (name : String) : Json.orNull (s.raw? name) = s.arrived name := by
  rw [raw?, arrived, Schema.field?]
  cases s.schema.fields.lookup name with
  | none => rfl
  | some field =>
    cases s.members.lookup name with
    | none => rfl
    | some value => rfl

theorem orNull_get? (s : Struct) (name : String) :
    Json.orNull (s.get? name) =
      if (s.arrived name).isNull then s.fallback name else s.arrived name := by
  rw [get?, arrived, fallback, Schema.field?]
  cases s.schema.fields.lookup name with
  | none => rfl
  | some field =>
    cases hmember : s.members.lookup name with
    | none => rfl
    | some value => cases value <;> rfl

end Struct

namespace Connector

variable {c : Connector} {record : Record} {d d' : Destination} {event : Event}
  {image s : Struct} {sign : DeleteSign}

/-- The value that an image offers for a field: what arrived, unless that is null and the field is
not optional; then the default of the image's schema. -/
inductive Offers (image : Struct) (field : EventField) : Json → Prop where
  | arrived (h : field.schema.optional = true ∨ image.arrived field.name ≠ .null) :
      Offers image field (image.arrived field.name)
  | fallback (hrequired : field.schema.optional = false)
      (hnull : image.arrived field.name = .null) : Offers image field (image.fallback field.name)

/-- The value that a row carries for a field: that of the image, converted by the type of the field
and shown as the type shows it. -/
structure Carries (image : Struct) (field : EventField) (value : Json) : Prop where
  /-- It shows what the type converts the offered value to. -/
  converted : ∃ raw converted, Offers image field raw ∧
    field.type.convert field.schema raw = .ok converted ∧ field.type.ShownAs converted value
  /-- Numeric types carry numbers. -/
  number : field.type.isNumber = true → value.IsNumeric
  /-- All other types carry texts. -/
  text : field.type.isNumber = false → value.IsTextual

theorem offers_rawValue (image : Struct) (field : EventField) :
    Offers image field (rawValue image field) := by
  cases hoptional : field.schema.optional with
  | true =>
    rw [rawValue, if_pos hoptional, Struct.orNull_raw?]
    exact .arrived (.inl hoptional)
  | false =>
    rw [rawValue, if_neg (by simp [hoptional]), Struct.orNull_get?]
    split
    · next hnull => exact .fallback hoptional (Json.isNull_iff.1 hnull)
    · next hpresent => exact .arrived (.inr (mt Json.isNull_iff.2 hpresent))

theorem carries_of_rowValue {field : EventField} {value : Json}
    (htype : field.type ∈ Registry.builtinTypes) (h : rowValue image field = .ok value) :
    Carries image field value := by
  unfold rowValue at h
  split at h
  · next converted hconverted =>
    cases h
    have hshown := field.type.shownAs_rowValue converted
    refine ⟨⟨_, converted, offers_rawValue image field, hconverted, hshown⟩, ?_, hshown.isTextual⟩
    intro hnumber
    rw [hshown.eq_of_isNumber hnumber]
    exact ValueType.isNumeric_of_convert htype hnumber hconverted
  · cases h

/-! ## The members of a row -/

theorem lookup_rowMembers_of_not_mem {names : List String} {done members : List (String × Json)}
    {name : String} (hname : name ∉ names)
    (h : rowMembers event image names done = .ok members) :
    members.lookup name = done.lookup name := by
  induction names generalizing done with
  | nil =>
    cases h
    rfl
  | cons first rest ih =>
    rw [List.mem_cons, not_or] at hname
    obtain ⟨hne, hnot⟩ := hname
    obtain ⟨field, value, -, -, hrest⟩ := rowMembers_cons h
    rw [ih hnot hrest, Entries.lookup_put, if_neg hne]

/-- Every name of a row leads to the row value of the event's field. -/
theorem lookup_rowMembers_of_mem {names : List String} {done members : List (String × Json)}
    {name : String} (hname : name ∈ names)
    (h : rowMembers event image names done = .ok members) :
    ∃ field value, event.field? name = some field ∧ rowValue image field = .ok value ∧
      members.lookup name = some value := by
  induction names generalizing done with
  | nil => cases hname
  | cons first rest ih =>
    obtain ⟨field, value, hfield, hvalue, hrest⟩ := rowMembers_cons h
    -- A name that comes again is put again, and the last time counts.
    by_cases hagain : name ∈ rest
    · exact ih hagain hrest
    · cases (List.mem_cons.1 hname).resolve_right hagain
      refine ⟨field, value, hfield, hvalue, ?_⟩
      rw [lookup_rowMembers_of_not_mem hagain hrest, Entries.lookup_put, if_pos rfl]

/-- The image that the row of an event is made of, and the value of the delete sign. -/
inductive RowSource (sign : DeleteSign) (event : Event) : Struct → String → Prop where
  /-- An event that has only the image before is a deletion. -/
  | deletion {before : Struct} (hbefore : event.before = some before)
      (hafter : event.after = none) : RowSource sign event before sign.trueValue
  /-- The row of any other event is that after the change. -/
  | upsert {after : Struct} (hafter : event.after = some after) :
      RowSource sign event after sign.falseValue

/-- The members of the row of an event. -/
structure RowOf (sign : DeleteSign) (event : Event) (members : List (String × Json)) : Prop where
  /-- The keys are the names that belong to no key, then the delete sign, each once. -/
  keys : members.map Prod.fst = (event.nonKeyNames ++ [sign.field]).eraseDups
  /-- The sign tells a deletion, also where a field has its name.  Every other name carries the
  value of the image. -/
  values : ∃ image marker, RowSource sign event image marker ∧
    members.lookup sign.field = some (.string marker) ∧
    ∀ name ∈ event.nonKeyNames, name ≠ sign.field → ∃ field value,
      event.field? name = some field ∧ field.name = name ∧
      members.lookup name = some value ∧ Carries image field value

theorem rowImage_eq (h : rowImage event = .ok image) :
    (if event.isDelete then event.before else event.after) = some image := by
  unfold rowImage at h
  split at h
  · next hdelete hbefore =>
    cases h
    rw [hdelete]
    exact hbefore
  · next hdelete hafter =>
    cases h
    rw [hdelete]
    exact hafter
  · cases h

theorem rowSource_of_rowImage (sign : DeleteSign) (h : rowImage event = .ok image) :
    RowSource sign event image (if event.isDelete then sign.trueValue else sign.falseValue) := by
  have himage := rowImage_eq h
  cases hdelete : event.isDelete with
  | true =>
    rw [hdelete] at himage
    rw [Event.isDelete, Bool.and_eq_true, Option.isNone_iff_eq_none] at hdelete
    exact .deletion himage hdelete.2
  | false =>
    rw [hdelete] at himage
    exact .upsert himage

theorem rowOf_of_row {members : List (String × Json)} (hnamed : event.WellNamed)
    (htypes : ∀ name field, event.field? name = some field →
      field.type ∈ Registry.builtinTypes)
    (h : row sign event = .ok members) : RowOf sign event members := by
  obtain ⟨image, himage, hnext⟩ := exists_of_bind_eq_ok h
  obtain ⟨fields, hfields, hsigned⟩ := exists_of_bind_eq_ok hnext
  cases hsigned
  refine ⟨map_fst_row h, image, _, rowSource_of_rowImage sign himage, ?_, ?_⟩
  · rw [Entries.lookup_put, if_pos rfl]
  · intro name hname hne
    obtain ⟨field, value, hfield, hvalue, hlookup⟩ := lookup_rowMembers_of_mem hname hfields
    refine ⟨field, value, hfield, hnamed.named name field hfield, ?_, ?_⟩
    · rw [Entries.lookup_put, if_neg hne, hlookup]
    · exact carries_of_rowValue (htypes name field hfield) hvalue

namespace RowOf

variable {members : List (String × Json)}

theorem nodup (h : RowOf sign event members) : (members.map Prod.fst).Nodup := by
  rw [h.keys]
  exact nodup_eraseDups _

/-- A row is flat: it holds numbers, texts and null. -/
theorem flat (h : RowOf sign event members) :
    ∀ member ∈ members, member.2.IsNumeric ∨ member.2.IsTextual := by
  intro member hmember
  have hlookup := Entries.lookup_of_mem h.nodup hmember
  obtain ⟨image, marker, -, hsigned, hvalues⟩ := h.values
  by_cases hsign : member.1 = sign.field
  · rw [hsign, hsigned] at hlookup
    rw [← Option.some.inj hlookup]
    exact .inr (.string _)
  · have hkey : member.1 ∈ members.map Prod.fst := List.mem_map_of_mem hmember
    rw [h.keys, List.mem_eraseDups, List.mem_append, List.mem_singleton] at hkey
    obtain ⟨field, value, -, -, hfound, hcarries⟩ :=
      hvalues member.1 (hkey.resolve_right hsign) hsign
    rw [Option.some.inj (hlookup.symm.trans hfound)]
    cases hnumber : field.type.isNumber with
    | true => exact .inl (hcarries.number hnumber)
    | false => exact .inr (hcarries.text hnumber)

end RowOf

/-! ## The text of a row -/

theorem charsMembers_values (members : List (String × Json)) :
    Document.charsMembers (members.map fun member => (member.1, .value member.2)) =
      Json.charsMembers members := by
  induction members with
  | nil => rfl
  | cons member rest ih =>
    rw [List.map_cons, Document.charsMembers, ih, Json.charsMembers, Document.chars]

/-- A row is written as the object of its members. -/
theorem text_rowDocument (members : List (String × Json)) :
    (rowDocument members).text = (Json.object members).text := by
  cases members with
  | nil => rfl
  | cons member rest =>
    rw [Document.text, rowDocument, List.map_cons, Document.chars, charsMembers_values, Json.text,
      Json.chars, Document.chars]

/-! ## The row of a change event -/

theorem ofRecord_of_struct (hstruct : record.value = .struct s)
    (h : Event.ofRecord .builtin record = .ok event) :
    (∃ images, Event.images s = .ok images ∧ event.before = images.before ∧
      event.after = images.after ∧
      event.nonKeyNames =
        images.rowSchema.fieldNames.filter fun name => !Event.isKeyName record.keySchema name) ∧
    ∀ name field, event.field? name = some field → field.type ∈ Registry.builtinTypes := by
  obtain ⟨images, himages, hmade⟩ := (Event.ofRecord_eq_ok_iff hstruct).1 h
  obtain ⟨-, -, rowFields, keyFields, hrow, hkey, rfl⟩ := Event.ofImages_eq_ok_iff.1 hmade
  refine ⟨⟨images, himages, rfl, rfl, Event.nonKeyNames_ofFields hrow⟩, ?_⟩
  intro name field hfield
  exact Registry.mem_builtinTypes_of_resolve? (Event.resolve?_of_field? hrow hkey hfield)

/-- A row that a connector with the built-in types writes for a change event is the text of the
members that the event has: the names of the row's schema that belong to no key in their order, and
the delete sign. -/
theorem transform_rowOf {payload : String} (hregistry : c.registry = .builtin)
    (hmode : c.config.mode = .changeEvents) (hstruct : record.value = .struct s)
    (h : c.transform record d = (.ok (some payload), d')) :
    ∃ event images members, Event.ofRecord .builtin record = .ok event ∧
      Event.images s = .ok images ∧
      event.before = images.before ∧ event.after = images.after ∧
      event.nonKeyNames = (images.rowSchema.fieldNames.filter fun name =>
        !Event.isKeyName record.keySchema name) ∧
      payload = (Json.object members).text ∧ RowOf c.config.deleteSign event members ∧
      (members.map Prod.fst).Nodup ∧
      ∀ member ∈ members, member.2.IsNumeric ∨ member.2.IsTextual := by
  rw [transform_struct hmode hstruct] at h
  rcases hresult : c.transformEvent record d with ⟨_ | _, _⟩
  · rw [hresult] at h
    cases h
  · rw [hresult] at h
    cases h
    obtain ⟨event, table, snapshot, members, hevent, -, -, hrow, rfl⟩ :=
      transformEvent_ok hresult
    obtain ⟨-, hnamed, -⟩ := Event.ofRecord_ok hevent
    rw [hregistry] at hevent
    obtain ⟨⟨images, himages, hbefore, hafter, hnames⟩, htypes⟩ :=
      ofRecord_of_struct hstruct hevent
    have hrowOf := rowOf_of_row hnamed htypes hrow
    exact ⟨event, images, members, hevent, himages, hbefore, hafter, hnames,
      text_rowDocument members, hrowOf, hrowOf.nodup, hrowOf.flat⟩

/-- A struct with a field of the key, a field named like the delete sign, and a number that is null
and has a default. -/
def signedStruct : Struct :=
  let number := (Schema.ofKind .int64).withDefault (.number (.whole ⟨5, by decide, by decide⟩))
  ⟨.ofFields "row" [("id", .ofKind .string), (DeleteSign.default.field, .ofKind .string),
      ("n", number)],
    [("id", .string "1"), (DeleteSign.default.field, .string "x"), ("n", .null)]⟩

/-- The record of the struct. -/
def signedRecord : Record :=
  (Record.ofValue "t" 0 0 (some signedStruct.schema) (.struct signedStruct)).withKey
    (some (.ofFields "key" [("id", .ofKind .string)])) .null

/-- A record of the removal of a row with a list, a text that is null and a truth value. -/
def removedRecord : Record :=
  let row := (Schema.ofFields "row" [("id", .ofKind .string), ("tags", .ofKind .array),
    ("note", (Schema.ofKind .string).asOptional), ("done", .ofKind .boolean)]).asOptional
  let envelope := Schema.ofFields "t.Envelope" [("before", row), ("after", row)]
  let before := Json.object [("id", .string "1"), ("tags", .array [.string "x", .null]),
    ("note", .null), ("done", .bool true)]
  (Record.ofValue "t" 0 0 (some envelope) (.struct ⟨envelope, [("before", before)]⟩)).withKey
    (some (.ofFields "key" [("id", .ofKind .string)])) .null

/-- In the first row the sign stands in the place of the field that has its name, and a default in
the place of null.  In the second the sign tells a deletion, and all but null is shown as text. -/
theorem transform_rowOf_signedRecord :
    let start := Run.bareStart.destination
    let signedRow := "\x7b\"__DORIS_DELETE_SIGN__\":\"0\",\"n\":5\x7d"
    let removedRow := "\x7b\"tags\":\"[\\\"x\\\",null]\",\"note\":null,\"done\":\"true\"," ++
      "\"__DORIS_DELETE_SIGN__\":\"1\"\x7d"
    (∃ event members d, Run.eventConnector.transform signedRecord start =
        (.ok (some signedRow), d) ∧
      signedRow = (Json.object members).text ∧ RowOf .default event members) ∧
    ∃ event members d, Run.eventConnector.transform removedRecord start =
        (.ok (some removedRow), d) ∧
      removedRow = (Json.object members).text ∧ RowOf .default event members := by
  intro start signedRow removedRow
  have hsigned : Run.eventConnector.transform signedRecord start =
      (.ok (some signedRow), (Run.eventConnector.transform signedRecord start).2) :=
    Prod.ext (Run.eq_ok_of_join (by decide +kernel)) rfl
  have hremoved : Run.eventConnector.transform removedRecord start =
      (.ok (some removedRow), (Run.eventConnector.transform removedRecord start).2) :=
    Prod.ext (Run.eq_ok_of_join (by decide +kernel)) rfl
  constructor
  · obtain ⟨event, images, members, -, -, -, -, -, htext, hrow, -, -⟩ :=
      transform_rowOf rfl rfl rfl hsigned
    exact ⟨event, members, _, hsigned, htext, hrow⟩
  · obtain ⟨event, images, members, -, -, -, -, -, htext, hrow, -, -⟩ :=
      transform_rowOf rfl rfl rfl hremoved
    exact ⟨event, members, _, hremoved, htext, hrow⟩

end Connector

end TableFeed
