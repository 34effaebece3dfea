import TableFeed.Proofs.Json.Trees
import TableFeed.Proofs.Schema.Conformance
import TableFeed.Schema.Printer
import TableFeed.Schema.Reader

/-!
# Writing and reading schemas

A schema is written as a tree and read back.  What is read of an object depends only on what
it holds under the eleven names of members (`ofMember?`), and a schema writes each member
under its own name, or not at all when it has nothing to say (`places`).  Each reader gives
back what its member was written from, and by induction over the schema so do the readers of
its parts (`ofMember?_eq_some`).

A default is the one member that is not read as it was written.  Null is read as no default,
and an object that opens with the key of embedded texts stands for the value of its text.
`Settled` says that no default of a schema is such a value.  A schema that is read from a
plain tree is settled (`settled_of_read?`), and a settled schema comes back as it was
(`ofJson?_toJson`).
-/

namespace TableFeed.Schema

/-! ## Defaults -/

mutual

/-- The defaults of a schema and of all its parts. -/
def defaults : Schema → List Json
  | ⟨_, _, _, _, _, defaultValue, _, fields, items, keys, values⟩ =>
    defaultValue.toList ++ (fieldDefaults fields ++
      (partDefaults items ++ (partDefaults keys ++ partDefaults values)))

/-- The defaults of fields. -/
def fieldDefaults : List (String × Schema) → List Json
  | [] => []
  | (_, s) :: rest => s.defaults ++ fieldDefaults rest

/-- The defaults of a part. -/
def partDefaults : Option Schema → List Json
  | none => []
  | some s => s.defaults

end

/-- Values that are read again as defaults are read as they were written. -/
def SettledValues (values : List Json) : Prop :=
  ∀ value ∈ values, value.isNull = false ∧ value.isPlain = true

/-- No default in a schema is null or holds an object that stands for something else. -/
def Settled (s : Schema) : Prop :=
  SettledValues s.defaults

instance (s : Schema) : Decidable s.Settled :=
  inferInstanceAs (Decidable (∀ value ∈ s.defaults, _))

theorem settledValues_append {left right : List Json} :
    SettledValues (left ++ right) ↔ SettledValues left ∧ SettledValues right :=
  List.forall_mem_append

theorem settledValues_nil : SettledValues [] := nofun

/-! ## Members by name -/

/-- A part from the member that holds it; null is none. -/
def readPart? (nested : Bool) : Option Json → Option (Option Schema)
  | none => some none
  | some value => if value.isNull then some none else (read? nested value).map some

/-- The fields from the member that holds them. -/
def readFieldList? : Option Json → Option (List (String × Schema))
  | none => some []
  | some value => readFields? value

/-- A schema from its members. -/
def ofMember? (nested : Bool) (member : String → Option Json) : Option Schema := do
  let fields ← readFieldList? (member "fields")
  let items ← readPart? nested (member "items")
  let keys ← readPart? nested (member "keys")
  let values ← readPart? nested (member "values")
  ofParts? nested member fields items keys values

theorem readFieldsMember?_eq (members : List (String × Json)) :
    readFieldsMember? members = readFieldList? (members.lookup "fields") := by
  induction members with
  | nil => rfl
  | cons member rest ih =>
    rw [readFieldsMember?, ih, Entries.lookup_cons_ite]
    by_cases hkey : member.1 = "fields"
    · rw [if_pos hkey, if_pos hkey.symm]
      rfl
    · rw [if_neg hkey, if_neg (Ne.symm hkey)]

theorem readPartMember?_eq (nested : Bool) (key : String) (members : List (String × Json)) :
    readPartMember? nested key members = readPart? nested (members.lookup key) := by
  induction members with
  | nil => rfl
  | cons member rest ih =>
    rw [readPartMember?, ih, Entries.lookup_cons_ite]
    by_cases hkey : member.1 = key
    · rw [if_pos hkey, if_pos hkey.symm]
      rfl
    · rw [if_neg hkey, if_neg (Ne.symm hkey)]

theorem read?_object (nested : Bool) (members : List (String × Json)) :
    read? nested (.object members) = ofMember? nested (List.lookup · members) := by
  simp only [read?, ofMember?, readFieldsMember?_eq, readPartMember?_eq]

/-- A field is its name and the schema that the object holds beside it. -/
theorem readField?_object {members : List (String × Json)} {name : String}
    (h : members.lookup "field" = some (.string name)) :
    readField? (.object members) =
      (ofMember? true (List.lookup · members)).map fun s => (name, s) := by
  simp only [readField?, ofMember?, readFieldsMember?_eq, readPartMember?_eq, h,
    Option.bind_eq_bind, Option.bind_some, Option.map_eq_bind, Option.bind_assoc]
  rfl

/-! ## Members as they are written -/

/-- The names of members, each with what a schema writes under it. -/
def places (s : Schema) : List (String × Option Document) :=
  [("type", some (.string s.kind.wireName)), ("optional", some (.bool s.optional)),
    ("name", s.name.map .string),
    ("version", s.version.map fun version =>
      .value ((Whole.ofInt? version.toInt).elim .null fun n => .number (.whole n))),
    ("doc", s.doc.map .string), ("default", s.defaultValue.map .value),
    ("parameters", if s.parameters.isEmpty then none else
      some (.record (s.parameters.entries.map fun (key, value) => (key, .string value)))),
    ("fields", if s.fields.isEmpty then none else some (.list (fieldDocuments s.fields))),
    ("items", partDocument? s.items), ("keys", partDocument? s.keys),
    ("values", partDocument? s.values)]

/-- The members of a schema that have something to say. -/
def members (s : Schema) : List (String × Document) :=
  s.places.flatMap fun place => memberOf place.1 place.2

theorem fieldsMember_eq (fields : List (String × Schema)) : fieldsMember fields =
    memberOf "fields" (if fields.isEmpty then none else some (.list (fieldDocuments fields))) := by
  cases fields with
  | nil => rfl
  | cons field rest => rfl

theorem toDocument_eq (s : Schema) : s.toDocument = .record s.members := by
  obtain ⟨_, _, _, _, _, _, _, fields, items, keys, values⟩ := s
  simp only [toDocument, members, places, scalarMembers, fieldsMember_eq, List.flatMap_cons,
    List.flatMap_nil, List.append_nil, List.append_assoc]
  rfl

theorem fieldDocument_eq (name : String) (s : Schema) :
    fieldDocument name s = .record (("field", .string name) :: s.members) := by
  obtain ⟨_, _, _, _, _, _, _, fields, items, keys, values⟩ := s
  simp only [fieldDocument, members, places, scalarMembers, fieldsMember_eq, List.flatMap_cons,
    List.flatMap_nil, List.append_nil, List.append_assoc]
  rfl

theorem sublist_map_fst_flatMap_memberOf (places : List (String × Option Document)) :
    ((places.flatMap fun place => memberOf place.1 place.2).map Prod.fst).Sublist
      (places.map Prod.fst) := by
  induction places with
  | nil => exact .refl _
  | cons place rest ih =>
    rw [List.flatMap_cons, List.map_append, List.map_cons]
    cases place.2 with
    | none => exact ih.cons _
    | some document => exact ih.cons_cons _

theorem lookup_flatMap_memberOf {places : List (String × Option Document)}
    (h : (places.map Prod.fst).Nodup) (key : String) :
    (places.flatMap fun place => memberOf place.1 place.2).lookup key =
      (places.lookup key).join := by
  induction places with
  | nil => rfl
  | cons place rest ih =>
    obtain ⟨hplace, hrest⟩ := List.nodup_cons.1 h
    obtain ⟨name, document⟩ := place
    rw [List.flatMap_cons, List.lookup_append, ih hrest, Entries.lookup_cons_ite]
    by_cases hkey : key = name
    · subst hkey
      rw [if_pos rfl, Entries.lookup_eq_none_of_not_mem hplace]
      cases document with
      | none => rfl
      | some document => simp [memberOf]
    · rw [if_neg hkey]
      cases document with
      | none => rfl
      | some document => simp [memberOf, Entries.lookup_cons_ite, hkey]

theorem nodup_field_memberNames : ("field" :: memberNames).Nodup := by
  decide

theorem lookup_members (s : Schema) (key : String) :
    s.members.lookup key = (s.places.lookup key).join := by
  have hnames : (s.places.map Prod.fst).Nodup := nodup_field_memberNames.of_cons
  exact lookup_flatMap_memberOf hnames key

/-- The names of a field's members do not repeat. -/
theorem nodup_field_members (s : Schema) : ("field" :: s.members.map Prod.fst).Nodup :=
  nodup_field_memberNames.sublist ((sublist_map_fst_flatMap_memberOf s.places).cons_cons "field")

/-! ## Members that are no schemas -/

theorem readText?_string (text : Option String) :
    readText? ((text.map Document.string).map Document.toJson) = some text := by
  cases text with
  | none => rfl
  | some text => rfl

theorem readVersion?_number (version : Option Int32) :
    readVersion? ((version.map fun version => Document.value
      ((Whole.ofInt? version.toInt).elim .null fun n => .number (.whole n))).map
        Document.toJson) = some version := by
  cases version with
  | none => rfl
  | some version =>
    have hlower := Int32.le_toInt version
    have hupper := Int32.toInt_lt version
    have hbits : (twoTo 31 : Int) = 2 ^ 31 ∧ (twoTo 63 : Int) = 2 ^ 63 ∧
        (twoTo 64 : Int) = 2 ^ 64 := by decide
    have hfits : -(twoTo 63 : Int) ≤ version.toInt ∧ version.toInt < twoTo 64 := by omega
    have hrange : -(twoTo 31 : Int) ≤ version.toInt ∧ version.toInt < twoTo 31 := by omega
    simp only [Option.map_some, Document.toJson, Whole.ofInt?, dif_pos hfits, Option.elim_some,
      readVersion?, int32?, if_pos hrange, Int32.ofInt_toInt]

theorem readTexts?_string (entries : List (String × String)) :
    readTexts? (entries.map fun entry => (entry.1, Json.string entry.2)) = some entries := by
  induction entries with
  | nil => rfl
  | cons entry rest ih =>
    change (readTexts? _).map _ = _
    rw [ih]
    rfl

theorem readParameters?_record (parameters : SortedMap String) :
    readParameters? ((if parameters.isEmpty then none else
      some (Document.record
        (parameters.entries.map fun entry => (entry.1, .string entry.2)))).map Document.toJson) =
      some parameters := by
  cases hempty : parameters.isEmpty with
  | true =>
    have hnone : parameters = .empty := SortedMap.ext (List.isEmpty_iff.1 hempty)
    rw [hnone]
    rfl
  | false =>
    rw [if_neg nofun, Option.map_some, Document.toJson_record_map, readParameters?]
    exact (congrArg _ (readTexts?_string parameters.entries)).trans
      (congrArg some parameters.ofList_entries)

theorem readDefault?_value {value : Option Json} (h : SettledValues value.toList) :
    readDefault? ((value.map Document.value).map Document.toJson) = some value := by
  cases value with
  | none => rfl
  | some value =>
    obtain ⟨hnull, hplain⟩ := h value (List.mem_singleton_self value)
    have hpresent : Json.present? (some value) = some value := by
      cases value with
      | null => cases hnull
      | bool b => rfl
      | number n => rfl
      | string text => rfl
      | array items => rfl
      | object members => rfl
    simp only [Option.map_some, Document.toJson, readDefault?, hpresent,
      Json.resolve?_of_isPlain value hplain]

/-! ## Schemas -/

/-- A reading of members finds what a schema writes under each of their names. -/
def FindsMembers (member : String → Option Json) (s : Schema) : Prop :=
  ∀ key ∈ memberNames, member key = (s.places.lookup key).join.map Document.toJson

theorem FindsMembers.eq {member : String → Option Json} {s : Schema} (h : FindsMembers member s)
    {key : String} {document : Option Document} (hplace : s.places.lookup key = some document) :
    member key = document.map Document.toJson := by
  have hkey : key ∈ s.places.map Prod.fst := List.mem_map_of_mem (Entries.mem_of_lookup hplace)
  rw [h key hkey, hplace]
  rfl

theorem exists_toDocument (s : Schema) : ∃ tree, s.toDocument.toJson = .object tree ∧
    FindsMembers (List.lookup · tree) s := by
  obtain ⟨tree, htree, hlookup⟩ :=
    Document.exists_toJson_record (nodup_field_members s).of_cons
  refine ⟨tree, by rw [toDocument_eq, htree], fun key _ => (hlookup key).trans ?_⟩
  rw [lookup_members]

theorem exists_fieldDocument (name : String) (s : Schema) :
    ∃ tree, (fieldDocument name s).toJson = .object tree ∧
      tree.lookup "field" = some (.string name) ∧ FindsMembers (List.lookup · tree) s := by
  have hkeys : ((("field", Document.string name) :: s.members).map Prod.fst).Nodup :=
    nodup_field_members s
  obtain ⟨tree, htree, hlookup⟩ := Document.exists_toJson_record hkeys
  refine ⟨tree, by rw [fieldDocument_eq, htree], ?_, fun key hkey => ?_⟩
  · rw [hlookup, List.lookup_cons_self]
    rfl
  · have hne : key ≠ "field" := by
      rintro rfl
      exact absurd hkey (by decide)
    refine (hlookup key).trans ?_
    rw [Entries.lookup_cons_ite, if_neg hne, lookup_members]

/-- The members that are no schemas are read as they were written. -/
theorem ofParts?_eq_some (nested : Bool) {member : String → Option Json} {s : Schema}
    (hmember : FindsMembers member s) (h : SettledValues s.defaultValue.toList) :
    ofParts? nested member s.fields s.items s.keys s.values = some s := by
  have hkind : readKind? nested (.string s.kind.wireName) = some s.kind :=
    Kind.ofWireName?_wireName s.kind
  have htype : member "type" = some (.string s.kind.wireName) := by
    rw [hmember.eq rfl]
    rfl
  have hoptional : member "optional" = some (.bool s.optional) := by
    rw [hmember.eq rfl]
    rfl
  have hname : readText? (member "name") = some s.name := by
    rw [hmember.eq rfl, readText?_string]
  have hversion : readVersion? (member "version") = some s.version := by
    rw [hmember.eq rfl, readVersion?_number]
  have hdoc : readText? (member "doc") = some s.doc := by
    rw [hmember.eq rfl, readText?_string]
  have hdefault : readDefault? (member "default") = some s.defaultValue := by
    rw [hmember.eq rfl, readDefault?_value h]
  have hparameters : readParameters? (member "parameters") = some s.parameters := by
    rw [hmember.eq rfl, readParameters?_record]
  simp only [ofParts?, htype, hoptional, hname, hversion, hdoc, hdefault, hparameters,
    Option.bind_eq_bind, Option.bind_some, hkind, readFlag?]
  cases s
  rfl

mutual

/-- From the members that a settled schema writes the same schema is read. -/
theorem ofMember?_eq_some (nested : Bool) {member : String → Option Json} :
    (s : Schema) → s.Settled → FindsMembers member s → ofMember? nested member = some s
  | ⟨kind, optional, name, version, doc, defaultValue, parameters, fields, items, keys, values⟩,
    hsettled, hmember => by
    -- A schema is written with the plain names of kinds only, so it is read in the same way within
    -- a field and outside: the parts take over `nested`, and the fields set it.
    obtain ⟨hdefault, hparts⟩ := settledValues_append.1 hsettled
    obtain ⟨hfields, hparts⟩ := settledValues_append.1 hparts
    obtain ⟨hitems, hparts⟩ := settledValues_append.1 hparts
    obtain ⟨hkeys, hvalues⟩ := settledValues_append.1 hparts
    have hmembers := ofParts?_eq_some nested hmember hdefault
    have hlist := readFieldItems?_fieldDocuments fields hfields
    have hfields : readFieldList? (member "fields") = some fields := by
      rw [hmember.eq rfl]
      cases fields with
      | nil => rfl
      | cons field rest => exact hlist
    have hitems : readPart? nested (member "items") = some items := by
      rw [hmember.eq rfl, readPart?_partDocument? nested items hitems]
    have hkeys : readPart? nested (member "keys") = some keys := by
      rw [hmember.eq rfl, readPart?_partDocument? nested keys hkeys]
    have hvalues : readPart? nested (member "values") = some values := by
      rw [hmember.eq rfl, readPart?_partDocument? nested values hvalues]
    simp only [ofMember?, hfields, hitems, hkeys, hvalues, Option.bind_eq_bind, Option.bind_some,
      hmembers]

theorem readFieldItems?_fieldDocuments : (fields : List (String × Schema)) →
    SettledValues (fieldDefaults fields) →
    readFieldItems? (Document.toJsonItems (fieldDocuments fields)) = some fields
  | [], _ => rfl
  | (name, s) :: rest, h => by
    obtain ⟨hfirst, hrest⟩ := settledValues_append.1 h
    obtain ⟨tree, htree, hname, hmember⟩ := exists_fieldDocument name s
    have hread : readField? (.object tree) = some (name, s) := by
      rw [readField?_object hname, ofMember?_eq_some true s hfirst hmember]
      rfl
    rw [fieldDocuments, Document.toJsonItems, readFieldItems?, htree, hread,
      readFieldItems?_fieldDocuments rest hrest]
    rfl

theorem readPart?_partDocument? (nested : Bool) : (part : Option Schema) →
    SettledValues (partDefaults part) →
    readPart? nested ((partDocument? part).map Document.toJson) = some part
  | none, _ => rfl
  | some s, h => by
    obtain ⟨tree, htree, hmember⟩ := exists_toDocument s
    have hread : read? nested (.object tree) = some s := by
      rw [read?_object, ofMember?_eq_some nested s h hmember]
    simp only [partDocument?, Option.map_some, htree, readPart?, Json.isNull, hread]
    rfl

end

/-! ## Plain trees -/

theorem settledValues_of_readDefault? {value default : Option Json}
    (h : readDefault? value = some default) (hplain : ∀ found ∈ value, found.isPlain = true) :
    SettledValues default.toList := by
  rw [readDefault?] at h
  cases hpresent : Json.present? value with
  | none =>
    rw [hpresent] at h
    cases h
    exact settledValues_nil
  | some found =>
    obtain ⟨hvalue, hnull⟩ := Json.present?_eq_some_iff.1 hpresent
    have hfound := hplain found hvalue
    simp only [hpresent, Json.resolve?_of_isPlain found hfound, Option.map_some] at h
    cases h
    intro value hmem
    cases List.mem_singleton.1 hmem
    exact ⟨Bool.eq_false_iff.2 fun hisNull => hnull (Json.isNull_iff.1 hisNull), hfound⟩

theorem settled_of_ofParts? {nested : Bool} {member : String → Option Json}
    {fields : List (String × Schema)} {items keys values : Option Schema} {s : Schema}
    (h : ofParts? nested member fields items keys values = some s)
    (hplain : ∀ found ∈ member "default", found.isPlain = true)
    (hfields : SettledValues (fieldDefaults fields)) (hitems : SettledValues (partDefaults items))
    (hkeys : SettledValues (partDefaults keys)) (hvalues : SettledValues (partDefaults values)) :
    s.Settled := by
  simp only [ofParts?, Option.bind_eq_bind, Option.bind_eq_some_iff] at h
  obtain ⟨_, -, _, -, _, -, _, -, _, -, _, -, default, hdefault, _, -, hs⟩ := h
  cases hs
  exact settledValues_append.2 ⟨settledValues_of_readDefault? hdefault hplain,
    settledValues_append.2 ⟨hfields, settledValues_append.2 ⟨hitems,
      settledValues_append.2 ⟨hkeys, hvalues⟩⟩⟩⟩

theorem isPlain_of_memberAt {places : List Json} (h : Json.isPlainItems places = true)
    {name : String} {found : Json} (hfound : memberAt places name = some found) :
    found.isPlain = true :=
  Json.isPlain_of_mem h (List.mem_of_getElem? hfound)

mutual

/-- What is read from a plain tree is settled. -/
theorem settled_of_read? : (value : Json) → value.isPlain = true →
    ∀ {nested s}, read? nested value = some s → s.Settled
  | .object members, h, nested, s, hread => by
    have hplain := Json.isPlainMembers_of_object h
    simp only [read?, Option.bind_eq_bind, Option.bind_eq_some_iff] at hread
    obtain ⟨fields, hfields, items, hitems, keys, hkeys, values, hvalues, hparts⟩ := hread
    exact settled_of_ofParts? hparts (fun _ => Json.isPlain_of_lookup hplain)
      (settled_of_readFieldsMember? members hplain hfields)
      (settled_of_readPartMember? members hplain hitems)
      (settled_of_readPartMember? members hplain hkeys)
      (settled_of_readPartMember? members hplain hvalues)
  | .array places, h, nested, s, hread => by
    simp only [read?, Option.bind_eq_bind, Option.bind_eq_some_iff] at hread
    obtain ⟨fields, hfields, items, hitems, keys, hkeys, values, hvalues, hparts⟩ := hread
    split at hparts
    · cases hparts
    · exact settled_of_ofParts? hparts (fun _ => isPlain_of_memberAt h)
        (settled_of_readFieldsAt? places h hfields) (settled_of_readPartAt? places h hitems)
        (settled_of_readPartAt? places h hkeys) (settled_of_readPartAt? places h hvalues)
  | .null, _, _, _, hread => nomatch hread
  | .bool _, _, _, _, hread => nomatch hread
  | .number _, _, _, _, hread => nomatch hread
  | .string _, _, _, _, hread => nomatch hread

theorem settled_of_readPartMember? : (members : List (String × Json)) →
    Json.isPlainMembers members = true → ∀ {nested key part},
      readPartMember? nested key members = some part → SettledValues (partDefaults part)
  | [], _, _, _, part, hread => by
    cases hread
    exact settledValues_nil
  | (name, value) :: rest, h, nested, key, part, hread => by
    obtain ⟨hvalue, hrest⟩ := Bool.and_eq_true_iff.1 h
    rw [readPartMember?] at hread
    split at hread
    · split at hread
      · cases hread
        exact settledValues_nil
      · obtain ⟨s, hs, rfl⟩ := Option.map_eq_some_iff.1 hread
        exact settled_of_read? value hvalue hs
    · exact settled_of_readPartMember? rest hrest hread

theorem settled_of_readPartAt? : (values : List Json) → Json.isPlainItems values = true →
    ∀ {nested place part}, readPartAt? nested place values = some part →
      SettledValues (partDefaults part)
  | [], _, _, _, part, hread => by
    cases hread
    exact settledValues_nil
  | value :: rest, h, nested, place, part, hread => by
    obtain ⟨hvalue, hrest⟩ := Bool.and_eq_true_iff.1 h
    cases place with
    | zero =>
      rw [readPartAt?] at hread
      split at hread
      · cases hread
        exact settledValues_nil
      · obtain ⟨s, hs, rfl⟩ := Option.map_eq_some_iff.1 hread
        exact settled_of_read? value hvalue hs
    | succ place => exact settled_of_readPartAt? rest hrest hread

theorem settled_of_readFieldsMember? : (members : List (String × Json)) →
    Json.isPlainMembers members = true → ∀ {fields}, readFieldsMember? members = some fields →
      SettledValues (fieldDefaults fields)
  | [], _, fields, hread => by
    cases hread
    exact settledValues_nil
  | (name, value) :: rest, h, fields, hread => by
    obtain ⟨hvalue, hrest⟩ := Bool.and_eq_true_iff.1 h
    rw [readFieldsMember?] at hread
    split at hread
    · exact settled_of_readFields? value hvalue hread
    · exact settled_of_readFieldsMember? rest hrest hread

theorem settled_of_readFieldsAt? : (values : List Json) → Json.isPlainItems values = true →
    ∀ {place fields}, readFieldsAt? place values = some fields →
      SettledValues (fieldDefaults fields)
  | [], _, _, fields, hread => by
    cases hread
    exact settledValues_nil
  | value :: rest, h, place, fields, hread => by
    obtain ⟨hvalue, hrest⟩ := Bool.and_eq_true_iff.1 h
    cases place with
    | zero => exact settled_of_readFields? value hvalue hread
    | succ place => exact settled_of_readFieldsAt? rest hrest hread

theorem settled_of_readFields? : (value : Json) → value.isPlain = true →
    ∀ {fields}, readFields? value = some fields → SettledValues (fieldDefaults fields)
  | .array items, h, _, hread => settled_of_readFieldItems? items h hread
  | .null, _, _, hread => nomatch hread
  | .bool _, _, _, hread => nomatch hread
  | .number _, _, _, hread => nomatch hread
  | .string _, _, _, hread => nomatch hread
  | .object _, _, _, hread => nomatch hread

theorem settled_of_readFieldItems? : (items : List Json) → Json.isPlainItems items = true →
    ∀ {fields}, readFieldItems? items = some fields → SettledValues (fieldDefaults fields)
  | [], _, fields, hread => by
    cases hread
    exact settledValues_nil
  | item :: rest, h, fields, hread => by
    obtain ⟨hitem, hrest⟩ := Bool.and_eq_true_iff.1 h
    simp only [readFieldItems?, Option.bind_eq_bind, Option.bind_eq_some_iff] at hread
    obtain ⟨field, hfield, others, hothers, hfields⟩ := hread
    cases hfields
    exact settledValues_append.2 ⟨settled_of_readField? item hitem hfield,
      settled_of_readFieldItems? rest hrest hothers⟩

theorem settled_of_readField? : (value : Json) → value.isPlain = true →
    ∀ {field}, readField? value = some field → field.2.Settled
  | .object members, h, field, hread => by
    have hplain := Json.isPlainMembers_of_object h
    rw [readField?] at hread
    split at hread
    · simp only [Option.bind_eq_bind, Option.bind_some, Option.bind_eq_some_iff] at hread
      obtain ⟨fields, hfields, items, hitems, keys, hkeys, values, hvalues, s, hparts, hfield⟩ :=
        hread
      cases hfield
      exact settled_of_ofParts? hparts (fun _ => Json.isPlain_of_lookup hplain)
        (settled_of_readFieldsMember? members hplain hfields)
        (settled_of_readPartMember? members hplain hitems)
        (settled_of_readPartMember? members hplain hkeys)
        (settled_of_readPartMember? members hplain hvalues)
    · cases hread
  | .null, _, _, hread => nomatch hread
  | .bool _, _, _, hread => nomatch hread
  | .number _, _, _, hread => nomatch hread
  | .string _, _, _, hread => nomatch hread
  | .array _, _, _, hread => nomatch hread

end

/-! ## Round trips -/

theorem ofJson?_of_settled {s : Schema} (h : s.Settled) :
    ofJson? s.toDocument.toJson = some s := by
  obtain ⟨tree, htree, hmember⟩ := exists_toDocument s
  rw [htree, ofJson?, read?_object, ofMember?_eq_some false s h hmember]

/-- A settled schema is read from its tree as it was written, fields in the same order.  Whatever
tree a settled schema was read from, writing it and reading it again changes nothing any more,
and every schema that is read from a plain tree is settled. -/
theorem ofJson?_toJson :
    (∀ s : Schema, s.Settled → ofJson? s.toDocument.toJson = some s) ∧
    ∀ (tree : Json) (s : Schema), ofJson? tree = some s →
      (tree.isPlain = true → s.Settled) ∧
      (s.Settled → ∃ again, ofJson? s.toDocument.toJson = some again ∧ again = s ∧
        again.toDocument.toJson = s.toDocument.toJson) := by
  constructor
  · intro s hsettled
    exact ofJson?_of_settled hsettled
  · intro tree s hread
    constructor
    · intro hplain
      exact settled_of_read? tree hplain hread
    · intro hsettled
      exact ⟨s, ofJson?_of_settled hsettled, rfl, rfl⟩

/-- A struct with a default in a field and a default in the values of a map. -/
def withInnerDefaults : Schema :=
  ofFields "totals"
    [("id", { ofKind .int64 with
        version := some 1
        defaultValue := some (.object [("a", .array [.null, .string "b"])]) }),
      ("notes", { ofKind .map with
        keys := some (ofKind .string)
        values := some (((ofKind .string).withDefault (.bool true)).withParameter "length" "5") })]

/-- The array form of an optional text schema with a default. -/
def textPlaces : Json :=
  .array [.string "string", .bool true, .null, .null, .null, .string "none"]

theorem ofJson?_toJson_nested :
    (withInnerDefaults.Settled ∧
      ofJson? withInnerDefaults.toDocument.toJson = some withInnerDefaults) ∧
    ofJson? textPlaces = some ((ofKind .string).asOptional.withDefault (.string "none")) ∧
    textPlaces.isPlain = true ∧
    ((ofKind .string).asOptional.withDefault (.string "none")).Settled ∧
    ∃ again, ofJson? ((ofKind .string).asOptional.withDefault (.string "none")).toDocument.toJson =
      some again ∧ again.kind = .string := by
  have hinner : withInnerDefaults.Settled := by decide
  have hread : ofJson? textPlaces =
      some ((ofKind .string).asOptional.withDefault (.string "none")) := by rfl
  have hplain : textPlaces.isPlain = true := by decide
  obtain ⟨hsettled, htrip⟩ := ofJson?_toJson.2 textPlaces _ hread
  obtain ⟨again, hagain, heq, -⟩ := htrip (hsettled hplain)
  exact ⟨⟨hinner, ofJson?_toJson.1 withInnerDefaults hinner⟩, hread, hplain, hsettled hplain,
    again, hagain, by rw [heq]; rfl⟩

/-- A text schema with a default that holds two members, the first of them under the key of
embedded texts. -/
def embeddedDefault : Schema :=
  (ofKind .string).withDefault
    (.object [(Json.Reader.embeddingKey, .string "1"),
      ("a", .number (.whole ⟨1, by decide, by decide⟩))])

/-- The tree of a text schema with a default that stands for null. -/
def embeddedNull : Json :=
  .object [("default", .object [(Json.Reader.embeddingKey, .string "null")]),
    ("type", .string "string")]

/-- A default that opens with the key of embedded texts does not come back, and one that stands for
null comes back as no default. -/
theorem ofJson?_toJson_embedded :
    (¬ ∀ s : Schema, (∀ value ∈ s.defaults, value ≠ .null) →
      ofJson? s.toDocument.toJson = some s) ∧
    ¬ ∀ (tree : Json) (s : Schema), ofJson? tree = some s →
      ofJson? s.toDocument.toJson = some s := by
  constructor
  · intro h
    have hread := h embeddedDefault (by simp [embeddedDefault, defaults, withDefault, ofKind,
      fieldDefaults, partDefaults])
    have hnone : ofJson? embeddedDefault.toDocument.toJson = none := by rfl
    rw [hnone] at hread
    cases hread
  · intro h
    have hread := h embeddedNull ((ofKind .string).withDefault .null) (by rfl)
    have hplain : ofJson? ((ofKind .string).withDefault .null).toDocument.toJson =
        some (ofKind .string) := by rfl
    rw [hplain] at hread
    cases hread

end TableFeed.Schema
