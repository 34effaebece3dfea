import TableFeed.Proofs.Event.Decoding
import TableFeed.Proofs.Schema.Conformance

/-!
# Events of envelopes

An envelope tells of a row before and after a change.  `ofRecord_envelope` says which
envelopes have an event, whether it is a deletion, which images it has and which schema its
fields come from.

An envelope is read by both of its images, so it must declare both, although the schema of
the row is looked for in either.  `ofRecord_afterOnly` is an envelope that declares one image
only, holds it, and has no event.
-/

namespace TableFeed

namespace Event

/-- The field of an envelope that holds the row before the change. -/
def beforeField : String := "before"

/-- The field of an envelope that holds the row after the change. -/
def afterField : String := "after"

/-- The schema of the row in an envelope: that of the image after, or of the one before where
there is no other. -/
def rowSchema? (s : Struct) : Option Schema :=
  (s.schema.field? afterField).or (s.schema.field? beforeField)

/-- A record of an envelope that agrees with its schema and declares an image.  The images that it
declares are structs, and the registry has a type for every field of the row and of the key. -/
structure OfEnvelope (registry : Registry) (record : Record) (s : Struct) : Prop where
  value : record.value = .struct s
  made : ∃ schema payload, Struct.ofJson schema payload = .ok s
  named : s.schema.nameContains envelopeMarker = true
  declared : s.Declares beforeField ∨ s.Declares afterField
  beforeKind : ∀ schema, s.schema.field? beforeField = some schema → schema.kind = .struct
  afterKind : ∀ schema, s.schema.field? afterField = some schema → schema.kind = .struct
  rowTypes : ∀ schema, rowSchema? s = some schema → ∀ field ∈ schema.fields,
    (registry.resolve? field.2).isSome = true
  keyTypes : ∀ schema, record.keySchema = some schema → ∀ field ∈ schema.fields,
    (registry.resolve? field.2).isSome = true

/-- The images are those that the envelope holds. -/
structure Images.Of (images : Images) (s : Struct) : Prop where
  before : images.before.isSome = true ↔ s.Holds beforeField
  after : images.after.isSome = true ↔ s.Holds afterField
  rowSchema : rowSchema? s = some images.rowSchema

variable {registry : Registry} {record : Record} {s : Struct}

/-! ## The images of an envelope -/

theorem images_of_envelope (hnamed : s.schema.nameContains envelopeMarker = true)
    {rowSchema : Schema} (hrow : rowSchema? s = some rowSchema) :
    images s = do
      let before ← (s.getStruct? beforeField).mapError .image
      let after ← (s.getStruct? afterField).mapError .image
      return ⟨before, after, rowSchema⟩ := by
  rw [rowSchema?, afterField, beforeField] at hrow
  rw [images, if_pos hnamed, hrow]
  rfl

namespace OfEnvelope

theorem exists_rowSchema (h : OfEnvelope registry record s) :
    ∃ rowSchema, rowSchema? s = some rowSchema ∧ rowSchema.kind = .struct := by
  cases hafter : s.schema.field? afterField with
  | some schema => exact ⟨schema, by rw [rowSchema?, hafter]; rfl, h.afterKind schema hafter⟩
  | none =>
    have hdeclared : s.Declares beforeField := by
      refine h.declared.resolve_right fun hdeclares => ?_
      rw [Struct.Declares, hafter] at hdeclares
      cases hdeclares
    obtain ⟨schema, hbefore⟩ := Option.isSome_iff_exists.1 hdeclared
    exact ⟨schema, by rw [rowSchema?, hafter, hbefore]; rfl, h.beforeKind schema hbefore⟩

/-- The images of an envelope that declares both. -/
theorem exists_images (h : OfEnvelope registry record s) (hbefore : s.Declares beforeField)
    (hafter : s.Declares afterField) : ∃ images, Event.images s = .ok images ∧ images.Of s := by
  obtain ⟨rowSchema, hrow, -⟩ := h.exists_rowSchema
  obtain ⟨schema, payload, hmade⟩ := h.made
  obtain ⟨beforeSchema, hbeforeField⟩ := Option.isSome_iff_exists.1 hbefore
  obtain ⟨afterSchema, hafterField⟩ := Option.isSome_iff_exists.1 hafter
  obtain ⟨before, hgetBefore, hbeforeIff, -⟩ :=
    Struct.getStruct?_eq_ok hmade hbeforeField (h.beforeKind _ hbeforeField)
  obtain ⟨after, hgetAfter, hafterIff, -⟩ :=
    Struct.getStruct?_eq_ok hmade hafterField (h.afterKind _ hafterField)
  refine ⟨⟨before, after, rowSchema⟩, ?_, hbeforeIff, hafterIff, hrow⟩
  rw [images_of_envelope h.named hrow, hgetBefore, hgetAfter]
  rfl

/-- An envelope is not read when it does not declare the image before. -/
theorem images_of_no_before (h : OfEnvelope registry record s)
    (hbefore : ¬ s.Declares beforeField) :
    images s = .error (.image (.unknownField beforeField)) := by
  obtain ⟨rowSchema, hrow, -⟩ := h.exists_rowSchema
  rw [images_of_envelope h.named hrow, Struct.getStruct?_of_not_declares hbefore]
  rfl

/-- An envelope is not read when it does not declare the image after. -/
theorem images_of_no_after (h : OfEnvelope registry record s) (hbefore : s.Declares beforeField)
    (hafter : ¬ s.Declares afterField) :
    images s = .error (.image (.unknownField afterField)) := by
  obtain ⟨rowSchema, hrow, -⟩ := h.exists_rowSchema
  obtain ⟨schema, payload, hmade⟩ := h.made
  obtain ⟨beforeSchema, hbeforeField⟩ := Option.isSome_iff_exists.1 hbefore
  obtain ⟨before, hgetBefore, -, -⟩ :=
    Struct.getStruct?_eq_ok hmade hbeforeField (h.beforeKind _ hbeforeField)
  rw [images_of_envelope h.named hrow, hgetBefore, Struct.getStruct?_of_not_declares hafter]
  rfl

theorem ofRecord_of_images_error (h : OfEnvelope registry record s) {cause : DecodeCause}
    (hcause : images s = .error cause) :
    ofRecord registry record = .error (.decode record.topic record.offset cause) := by
  rw [ofRecord, decode, h.value]
  simp only [hcause]
  rfl

/-- An envelope with an event declares both images, and the event is that of its images. -/
theorem exists_images_of_event (h : OfEnvelope registry record s) {event : Event}
    (hevent : ofRecord registry record = .ok event) :
    s.Declares beforeField ∧ s.Declares afterField ∧ ∃ images : Images, images.Of s ∧
      ofImages registry record.topic record.keySchema images = .ok event := by
  by_cases hbefore : s.Declares beforeField
  · by_cases hafter : s.Declares afterField
    · obtain ⟨found, hfound, himages⟩ := h.exists_images hbefore hafter
      obtain ⟨images, heq, hmade⟩ := (ofRecord_eq_ok_iff h.value).1 hevent
      cases hfound.symm.trans heq
      exact ⟨hbefore, hafter, found, himages, hmade⟩
    · have herror := h.ofRecord_of_images_error (h.images_of_no_after hbefore hafter)
      cases herror.symm.trans hevent
  · have herror := h.ofRecord_of_images_error (h.images_of_no_before hbefore)
    cases herror.symm.trans hevent

/-- The images of an envelope have an event when one of them is there. -/
theorem exists_ofImages_iff (h : OfEnvelope registry record s) {images : Images}
    (himages : images.Of s) :
    (∃ event, ofImages registry record.topic record.keySchema images = .ok event) ↔
      s.Holds beforeField ∨ s.Holds afterField := by
  rw [← himages.before, ← himages.after]
  constructor
  · rintro ⟨event, hevent⟩
    exact (ofImages_eq_ok_iff.1 hevent).2.1
  · intro hsome
    obtain ⟨rowSchema, hrow, hkind⟩ := h.exists_rowSchema
    cases hrow.symm.trans himages.rowSchema
    obtain ⟨rowFields, hrowFields⟩ :=
      exists_resolveAll (isKeyName record.keySchema) (h.rowTypes _ hrow)
    obtain ⟨keyFields, hkeyFields⟩ : ∃ resolved, resolveAll registry (fun _ => true)
        (extraFields record.keySchema images.rowSchema) = .ok resolved := by
      refine exists_resolveAll _ fun field hfield => ?_
      cases hkey : record.keySchema with
      | none =>
        rw [hkey] at hfield
        cases hfield
      | some schema =>
        rw [hkey] at hfield
        exact h.keyTypes schema hkey field (List.mem_filter.1 hfield).1
    exact ⟨_, ofImages_eq_ok_iff.2
      ⟨hkind, hsome, rowFields, keyFields, hrowFields, hkeyFields, rfl⟩⟩

end OfEnvelope

/-! ## The event of an envelope -/

/-- What an event of an envelope says of the change.  It is a deletion when the envelope holds the
image before only, and has the images that the envelope holds.  Its fields are those of the row's
schema in their order, then the further ones of the key; of two fields of the row with one name the
schema of the last counts. -/
structure Classified (keySchema : Option Schema) (s : Struct) (event : Event) : Prop where
  isDelete : event.isDelete = true ↔ s.Holds beforeField ∧ ¬ s.Holds afterField
  before : event.before.isSome = true ↔ s.Holds beforeField
  after : event.after.isSome = true ↔ s.Holds afterField
  fieldNames : ∀ rowSchema, rowSchema? s = some rowSchema →
    event.fieldNames = rowSchema.fieldNames ++ (extraFields keySchema rowSchema).map Prod.fst
  nonKeyNames : ∀ rowSchema, rowSchema? s = some rowSchema →
    event.nonKeyNames = rowSchema.fieldNames.filter fun name => !isKeyName keySchema name
  schemas : ∀ rowSchema, rowSchema? s = some rowSchema → ∀ name ∈ rowSchema.fieldNames,
    (event.field? name).map EventField.schema = rowSchema.fields.reverse.lookup name

theorem Images.Of.classified {images : Images} (himages : images.Of s) {event : Event}
    (hevent : ofImages registry record.topic record.keySchema images = .ok event) :
    event.Classified record.keySchema s := by
  obtain ⟨-, -, rowFields, keyFields, hrow, hkey, rfl⟩ := ofImages_eq_ok_iff.1 hevent
  have hbefore := himages.before
  have hafter := himages.after
  refine ⟨?_, hbefore, hafter, ?_, ?_, ?_⟩
  · rw [← hbefore, ← hafter, isDelete, Bool.and_eq_true, Option.isNone_iff_eq_none,
      Option.not_isSome_iff_eq_none]
    rfl
  · intro rowSchema hrowSchema
    cases hrowSchema.symm.trans himages.rowSchema
    exact fieldNames_ofFields hrow hkey
  · intro rowSchema hrowSchema
    cases hrowSchema.symm.trans himages.rowSchema
    exact nonKeyNames_ofFields hrow
  · intro rowSchema hrowSchema name hname
    cases hrowSchema.symm.trans himages.rowSchema
    exact field?_ofFields hrow hkey hname

/-- An envelope has an event when it declares both images and holds one of them.  Without the
declaration of an image it is refused for that, the image before first. -/
theorem ofRecord_envelope (h : OfEnvelope registry record s) :
    ((∃ event, ofRecord registry record = .ok event) ↔
      s.Declares beforeField ∧ s.Declares afterField ∧
        (s.Holds beforeField ∨ s.Holds afterField)) ∧
    (∀ event, ofRecord registry record = .ok event → event.Classified record.keySchema s) ∧
    (¬ s.Declares beforeField → ofRecord registry record =
      .error (.decode record.topic record.offset (.image (.unknownField beforeField)))) ∧
    (s.Declares beforeField → ¬ s.Declares afterField → ofRecord registry record =
      .error (.decode record.topic record.offset (.image (.unknownField afterField)))) := by
  refine ⟨⟨?_, ?_⟩, ?_, ?_, ?_⟩
  · rintro ⟨event, hevent⟩
    obtain ⟨hbefore, hafter, images, himages, hmade⟩ := h.exists_images_of_event hevent
    exact ⟨hbefore, hafter, (h.exists_ofImages_iff himages).1 ⟨event, hmade⟩⟩
  · rintro ⟨hbefore, hafter, hholds⟩
    obtain ⟨images, heq, himages⟩ := h.exists_images hbefore hafter
    obtain ⟨event, hevent⟩ := (h.exists_ofImages_iff himages).2 hholds
    exact ⟨event, (ofRecord_eq_ok_iff h.value).2 ⟨images, heq, hevent⟩⟩
  · intro event hevent
    obtain ⟨-, -, images, himages, hmade⟩ := h.exists_images_of_event hevent
    exact himages.classified hmade
  · intro hbefore
    exact h.ofRecord_of_images_error (h.images_of_no_before hbefore)
  · intro hbefore hafter
    exact h.ofRecord_of_images_error (h.images_of_no_after hbefore hafter)

/-! ## Envelopes of plain rows -/

/-- A row with a field of the key and one that may be missing. -/
def plainRow : Schema :=
  let name := ("name", (Schema.ofKind .string).asOptional)
  (Schema.ofFields "row" [("id", .ofKind .string), name]).asOptional

/-- The schema of an envelope that declares some images, each a plain row. -/
def plainEnvelope (images : List String) : Schema :=
  .ofFields "t.Envelope" (images.map fun name => (name, plainRow))

/-- A record of an envelope of plain rows, with a key. -/
def plainRecord (s : Struct) : Record :=
  (Record.ofValue "t" 0 0 (some s.schema) (.struct s)).withKey
    (some (.ofFields "key" [("id", .ofKind .string)])) .null

theorem eq_plainRow_of_field? {images : List String} {name : String} {schema : Schema}
    (h : (plainEnvelope images).field? name = some schema) : schema = plainRow := by
  obtain ⟨_, -, hpair⟩ := List.mem_map.1 (Entries.mem_of_lookup h)
  cases hpair
  rfl

theorem ofEnvelope_plainRecord {images : List String} {payload : Json}
    (hmade : Struct.ofJson (plainEnvelope images) payload = .ok s)
    (hdeclared : s.Declares beforeField ∨ s.Declares afterField) :
    OfEnvelope .builtin (plainRecord s) s := by
  obtain ⟨-, members, -, -, rfl⟩ := Struct.ofJson_eq_ok_iff.1 hmade
  have hrow : ∀ field ∈ plainRow.fields, (Registry.builtin.resolve? field.2).isSome = true := by
    decide +kernel
  have hkey : ∀ field ∈ (Schema.ofFields "key" [("id", .ofKind .string)]).fields,
      (Registry.builtin.resolve? field.2).isSome = true := by
    decide +kernel
  have hnamed : Text.contains "t.Envelope" envelopeMarker = true := by decide +kernel
  refine ⟨rfl, ⟨_, _, hmade⟩, hnamed, hdeclared, ?_, ?_, ?_, ?_⟩
  · intro schema hfield
    rw [eq_plainRow_of_field? hfield]
    rfl
  · intro schema hfield
    rw [eq_plainRow_of_field? hfield]
    rfl
  · intro schema hfield
    rcases Option.or_eq_some_iff.1 hfield with hafter | ⟨-, hbefore⟩
    · rwa [eq_plainRow_of_field? hafter]
    · rwa [eq_plainRow_of_field? hbefore]
  · intro schema hschema
    cases hschema
    exact hkey

/-- The envelope of a deletion: the image before is there and the one after is null. -/
def deletion : Struct :=
  ⟨plainEnvelope [beforeField, afterField],
    [(afterField, .null), (beforeField, .object [("id", .string "1")])]⟩

/-- A deletion has an event that says so and names the fields of the image after. -/
theorem ofRecord_envelope_deletion :
    ∃ event, ofRecord .builtin (plainRecord deletion) = .ok event ∧ event.isDelete = true ∧
      event.after.isSome = false ∧ event.fieldNames = ["id", "name"] ∧
      event.nonKeyNames = ["name"] := by
  have hmade : Struct.ofJson deletion.schema (.object deletion.members) = .ok deletion := rfl
  have hbefore : deletion.Holds beforeField := ⟨_, rfl, nofun⟩
  have hafter : ¬ deletion.Holds afterField := by
    rintro ⟨value, hraw, hne⟩
    cases hraw
    exact hne rfl
  obtain ⟨hiff, hclassified, -, -⟩ :=
    ofRecord_envelope (ofEnvelope_plainRecord hmade (.inl hbefore.declares))
  obtain ⟨event, hevent⟩ := hiff.2 ⟨hbefore.declares, by decide +kernel, .inl hbefore⟩
  obtain ⟨hdelete, -, hafterIff, hnames, hnonKey, -⟩ := hclassified event hevent
  refine ⟨event, hevent, hdelete.2 ⟨hbefore, hafter⟩, ?_, ?_, ?_⟩
  · rwa [← hafterIff, Bool.not_eq_true] at hafter
  · exact hnames plainRow rfl
  · exact hnonKey plainRow rfl

/-- An envelope that declares and holds the image after only. -/
def afterOnly : Struct :=
  ⟨plainEnvelope [afterField], [(afterField, .object [("id", .string "1")])]⟩

/-- It has no event, although one of its images is there. -/
theorem ofRecord_afterOnly :
    OfEnvelope .builtin (plainRecord afterOnly) afterOnly ∧ afterOnly.Holds afterField ∧
      ¬ ∃ event, ofRecord .builtin (plainRecord afterOnly) = .ok event := by
  have hmade : Struct.ofJson afterOnly.schema (.object afterOnly.members) = .ok afterOnly := rfl
  have hafter : afterOnly.Holds afterField := ⟨_, rfl, nofun⟩
  have himages : images afterOnly = .error (.image (.unknownField beforeField)) := rfl
  refine ⟨ofEnvelope_plainRecord hmade (.inr hafter.declares), hafter, ?_⟩
  rintro ⟨event, hevent⟩
  obtain ⟨found, hfound, -⟩ := (ofRecord_eq_ok_iff rfl).1 hevent
  cases himages.symm.trans hfound

end Event

end TableFeed
