import TypeCatalog.Proofs.Catalog.Meaning
import TypeCatalog.Proofs.Validation.Reached

/-!
# Lists of values of a type

A type has a validator for its values and one for lists of them, and the two are built of different
schemas: the document of the type, and `Engine.listSchema`, which refers to the document by its
address. `validateList?_eq` shows that they say the same where the documents are plain that the type
reaches (`Catalog.IsPlainFrom`). A value passes `validateList?` when it is a list and its items pass
`validate?` one by one, and the errors of a list are those of its items, each behind the index of
its item (`ValueError.atIndex`).

`Catalog.Cites` is one step from a document to another one, by a `$ref` anywhere inside it. The
documents that are not reached may be anything.

Both validators are built by `Engine.compile`, which `builds_of_lookup_validators` takes apart. The
library writes the place of an error as a JSON pointer, and `ValueError.atIndex` puts the segment of
an index in front of it.
-/

set_option autoImplicit false

namespace TypeCatalog

open Result

/-! ## Errors of items -/

namespace ValueError

/-- The error of an item as an error of the list. An error that tells no place stays as it is. -/
def atIndex (i : Nat) (e : ValueError) : ValueError :=
  if e.isPlaced then { e with path := "/" ++ toString i ++ e.path } else e

/-- A number has the same digits inside a pointer. -/
theorem segment_toString (i : Nat) : segment (toString i) = "/" ++ toString i := by
  have hdigit : ∀ c ∈ (toString i).toList, c ≠ '~' ∧ c ≠ '/' := by
    have hlist : (toString i).toList = Nat.toDigits 10 i := String.toList_ofList
    intro c hc
    rw [hlist] at hc
    have hc := Nat.isDigit_of_mem_toDigits (by decide) (by decide) hc
    constructor <;> rintro rfl <;> cases hc
  -- None of the digits is escaped, so each is its own text.
  have hjoin : ∀ cs : List Char, (∀ c ∈ cs, c ≠ '~' ∧ c ≠ '/') →
      String.join (cs.map fun c => if c = '~' then "~0" else if c = '/' then "~1" else c.toString)
        = String.ofList cs := by
    intro cs
    induction cs with
    | nil => exact fun _ => rfl
    | cons c cs ih =>
        intro hcs
        rw [List.forall_mem_cons] at hcs
        rw [List.map_cons, String.join_cons, ih hcs.2, if_neg hcs.1.1, if_neg hcs.1.2,
          ← String.toList_inj, String.toList_append, Char.toString_eq_singleton,
          String.toList_singleton, String.toList_ofList, String.toList_ofList]
        rfl
  rw [segment, hjoin _ hdigit, String.ofList_toList]

/-- An error inside of the item at an index is one behind that index. -/
theorem inside_toString (i : Nat) (e : ValueError) : inside (toString i) e = e.atIndex i := by
  rw [inside, segment_toString, atIndex]

end ValueError

/-- The errors of items are those of each, behind its index. -/
theorem Schema.itemErrors_zero (check : Json → List ValueError) (xs : List Json) :
    itemErrors check 0 xs
      = xs.zipIdx.flatMap fun p => (check p.1).map (ValueError.atIndex p.2) := by
  unfold itemErrors
  exact List.flatMap_congr fun p _ => List.map_congr_left fun e _ =>
    ValueError.inside_toString p.2 e

/-! ## Plain documents -/

namespace Emitter

variable (e : Emitter) {d : Definition} {document : Document}

/-- The document of a definition names itself by the address of its type, and is plain when its
parts are. -/
theorem isPlainDocument_of_mem_documentsOf (h : document ∈ e.documentsOf d)
    (hparts : document.schema.HasPlainParts e.IsReference) :
    e.IsPlainDocument document.typeName document.schema := by
  obtain ⟨header, rest, hschema⟩ := e.exists_header_of_mem_documentsOf d h
  refine ⟨?_, ?_, hparts⟩
  · rw [hschema]
    rfl
  · rw [hschema]
    rfl

end Emitter

namespace Catalog

/-- Whether a document of a name has a reference inside it that points to a type. -/
def Cites (c : Catalog) (name t : String) : Prop :=
  Name.IsTypeName t ∧ ∃ document ∈ c.documents, document.typeName = name
    ∧ ∃ s ∈ document.schema.references, (Emitter.ofDomain c.domain).PointsTo t s

/-- Whether the documents are plain that a name reaches: the domain has no fragment, no type that is
reached has an address of the schema language, and below its top no document of such a type gives an
address or a version of its own, or refers to anything but places in itself and types of the batch.
-/
structure IsPlainFrom (c : Catalog) (name : String) : Prop where
  domain : '#' ∉ c.domain.toList
  own : ∀ document ∈ c.documents, Relation.ReflTransGen c.Cites name document.typeName →
    (Emitter.ofDomain c.domain).IsOwn document.typeName
  parts : ∀ document ∈ c.documents, Relation.ReflTransGen c.Cites name document.typeName →
    document.schema.HasPlainParts (Emitter.ofDomain c.domain).IsReference

variable {settings : Settings} {formats : List Format} {store : Store}

/-- The documents of a batch have names of types. -/
theorem isTypeName_of_mem_documents {document : Document}
    (h : document ∈ (ofStore settings formats store).documents) :
    Name.IsTypeName document.typeName := by
  obtain ⟨system, name, hname, hs, hn⟩ := exists_of_mem_documents h
  exact ⟨system, name, hs, hn, hname⟩

/-- What the engine holds at the address of a type is a document of the type. -/
theorem exists_document_of_lookup {address : String} {schema : Json}
    (h : (engineOf settings formats store).documents.lookup address = some schema) :
    ∃ document ∈ (ofStore settings formats store).documents, document.schema = schema
      ∧ address = (Emitter.ofDomain settings.domain).uri document.typeName := by
  unfold engineOf at h
  rw [Engine.ofDocuments_eq] at h
  rcases Table.mem_of_lookup_foldl_insert h with ⟨document, hmem, rfl, rfl⟩ | hnil
  · exact ⟨document, hmem, rfl, uri_of_mem_documents hmem⟩
  · cases hnil

/-- A step from one document of the engine to another is a step of the catalog. -/
theorem cites_of_cites {t u : String} (h : (Emitter.ofDomain settings.domain).Cites
    (engineOf settings formats store).documents t u) :
    (ofStore settings formats store).Cites t u := by
  obtain ⟨hu, schema, hlookup, hcites⟩ := h
  obtain ⟨document, hmem, rfl, huri⟩ := exists_document_of_lookup hlookup
  exact ⟨hu, document, hmem, (Emitter.uri_injective _ huri).symm, hcites⟩

/-- The documents of the engine that a name reaches are plain when those of the catalog are. -/
theorem IsPlainFrom.isPlainReach {name : String}
    (h : (ofStore settings formats store).IsPlainFrom name) :
    (Emitter.ofDomain settings.domain).IsPlainReach (engineOf settings formats store).documents
      name where
  named := by
    intro address schema hlookup
    obtain ⟨document, hmem, -, haddress⟩ := exists_document_of_lookup hlookup
    exact ⟨document.typeName, isTypeName_of_mem_documents hmem, haddress⟩
  plain := by
    intro t schema _ hreached hlookup
    have hreached : Relation.ReflTransGen (ofStore settings formats store).Cites name t :=
      hreached.lift id fun _ _ => cites_of_cites
    obtain ⟨document, hmem, rfl, huri⟩ := exists_document_of_lookup hlookup
    rw [Emitter.uri_injective _ huri] at hreached ⊢
    obtain ⟨d, -, hd⟩ := mem_documents.1 hmem
    exact ⟨h.own document hmem hreached,
      Emitter.isPlainDocument_of_mem_documentsOf _ hd (h.parts document hmem hreached)⟩

/-- The validators of a name are built over the documents of the batch, of the document at the
address of the name and of the schema of lists over it. -/
theorem builds_of_lookup_validators {name : String} {t : TypeValidator}
    (ht : (ofStore settings formats store).validators.lookup name = some t) :
    Name.IsTypeName name ∧ ∃ schema,
      (engineOf settings formats store).documents.lookup
          ((Emitter.ofDomain settings.domain).uri name) = some schema
        ∧ Validator.build (engineOf settings formats store).documents formats
            settings.validateFormats schema = .ok t.single
        ∧ Validator.build (engineOf settings formats store).documents formats
            settings.validateFormats
              (Engine.listSchema ((Emitter.ofDomain settings.domain).uri name)) = .ok t.list := by
  obtain ⟨-, hcompile⟩ := lookup_validators.1 ht
  -- The name leads to an address, and the address to a schema, or nothing is built.
  cases huri : (engineOf settings formats store).addresses.lookup name with
  | none =>
      rw [Engine.compile, huri] at hcompile
      cases hcompile
  | some uri =>
      cases hschema : (engineOf settings formats store).documents.lookup uri with
      | none =>
          rw [Engine.compile, huri] at hcompile
          dsimp only at hcompile
          rw [hschema] at hcompile
          cases hcompile
      | some schema =>
          obtain ⟨hsingle, hlist⟩ := build_of_compile_eq_ok huri hschema hcompile
          unfold engineOf at huri
          rw [Engine.ofDocuments_eq] at huri
          rcases Table.mem_of_lookup_foldl_insert huri with ⟨document, hmem, rfl, rfl⟩ | hnil
          · rw [uri_of_mem_documents hmem] at hschema hlist
            have hformats : (engineOf settings formats store).formats = formats
                ∧ (engineOf settings formats store).checksFormats = settings.validateFormats := by
              unfold engineOf
              rw [Engine.ofDocuments_eq]
              exact ⟨rfl, rfl⟩
            have hsingle := Engine.build_eq_ok.1 hsingle
            have hlist := Engine.build_eq_ok.1 hlist
            rw [hformats.1, hformats.2] at hsingle hlist
            exact ⟨isTypeName_of_mem_documents hmem, schema, hschema, hsingle, hlist⟩
          · cases hnil

/-- The validator of lists of a type says of a list what the validator of the type says of its
items, if no circle of references is followed for one place of a value. -/
theorem validateList?_eq {system name : String}
    (h : (ofStore settings formats store).IsPlainFrom (Name.qualify system name))
    {t : TypeValidator}
    (ht : (ofStore settings formats store).validator? system name = some t)
    (hends : t.list.Ends) (v : Json) :
    (((ofStore settings formats store).validateList? system name v).map (·.isValid) = some true
        ↔ ∃ xs, v = .array xs ∧ ∀ x ∈ xs,
          ((ofStore settings formats store).validate? system name x).map (·.isValid) = some true)
      ∧ ∀ xs, v = .array xs →
        ((ofStore settings formats store).validateList? system name v).map (·.errors)
          = some (xs.zipIdx.flatMap fun p =>
            (((ofStore settings formats store).validate? system name p.1).map (·.errors)).getD []
              |>.map (ValueError.atIndex p.2)) := by
  obtain ⟨hname, schema, hlookup, hsingle, hlist⟩ := builds_of_lookup_validators ht
  obtain ⟨herrors, hother⟩ := Validator.errors_of_build_listSchema_of_reach h.domain hname hlookup
    hlist hsingle h.isPlainReach hends
  unfold validateList? validate?
  rw [ht]
  constructor
  · show some (t.list.errors v).isEmpty = some true ↔ ∃ xs, v = .array xs ∧ ∀ x ∈ xs,
      some (t.single.errors x).isEmpty = some true
    simp only [Option.some.injEq, List.isEmpty_iff]
    constructor
    · intro hnil
      by_cases harray : ∃ xs, v = .array xs
      · obtain ⟨xs, rfl⟩ := harray
        rw [herrors] at hnil
        exact ⟨xs, rfl, Schema.itemErrors_eq_nil_iff.1 hnil⟩
      · exact absurd hnil (hother v fun xs hxs => harray ⟨xs, hxs⟩)
    · rintro ⟨xs, rfl, hall⟩
      rw [herrors]
      exact Schema.itemErrors_eq_nil_iff.2 hall
  · rintro xs rfl
    show some (t.list.errors (.array xs)) = some _
    rw [herrors, Schema.itemErrors_zero]
    rfl

/-- The document of a type at an address, which is given as a schema. -/
def headed (uri title : String) (members : List (String × Json)) : Json := .object
  ([("$schema", .string Emitter.draft), ("$id", .string uri), ("title", .string title)] ++ members)

/-- A document with these members is a schema. -/
theorem isSchema_headed {uri title : String} {members : List (String × Json)}
    (huri : Format.isReference false false uri = true)
    (hmembers : ∀ m ∈ members, MetaSchema.IsMember m.1 m.2) :
    MetaSchema.IsSchema (headed uri title members) := by
  refine .object ?_
  rw [List.forall_mem_append]
  refine ⟨?_, hmembers⟩
  simp only [List.forall_mem_cons, List.not_mem_nil, false_implies, implies_true, and_true]
  exact ⟨MetaSchema.isMember_version, .address (by simp) huri, .text _ (by simp)⟩

/-- A flag, a name for it in its own system, and a name for that in another one. -/
def markStore : Store := ⟨[
  ⟨none, .object [("kind", .string "object"), ("system", .string "shop"), ("name", .string "mark"),
    ("jsonSchema", .object [("$ref", .string "test/mark")])]⟩,
  ⟨none, .object [("kind", .string "bool"), ("system", .string "test"),
    ("name", .string "flag")]⟩,
  ⟨none, .object [("kind", .string "object"), ("system", .string "test"), ("name", .string "mark"),
    ("jsonSchema", .object [("$ref", .string "flag")])]⟩]⟩

def markUri : String := "https://jsonotron.org/test/mark"

def shopMarkUri : String := "https://jsonotron.org/shop/mark"

def flagSchema : Json := headed flagUri "Flag" [("type", .string "boolean")]

/-- The document of a name for something else. -/
def markSchema (uri target : String) : Json := headed uri "Mark" [("$ref", .string target)]

/-- The documents of the batch. -/
theorem documents_markStore : (ofStore .standard [] markStore).documents
    = [⟨"shop/mark", shopMarkUri, markSchema shopMarkUri markUri⟩,
      ⟨"test/flag", flagUri, flagSchema⟩, ⟨"test/mark", markUri, markSchema markUri flagUri⟩] := by
  unfold documents
  rw [emitted_ofStore, emittedOf, List.mergeSort_of_pairwise]
  · decide +kernel
  · decide +kernel

def markDocuments : List (String × Json) :=
  [(shopMarkUri, markSchema shopMarkUri markUri), (flagUri, flagSchema),
    (markUri, markSchema markUri flagUri)]

/-- The engine has them by their addresses. -/
theorem documents_engineOf_markStore :
    (engineOf .standard [] markStore).documents = markDocuments := by
  unfold engineOf
  rw [Engine.ofDocuments_eq, documents_markStore]
  rfl

/-- The places of the addresses in the chain, from its end. -/
def markRank (t : Target) : Nat := [flagUri, markUri, shopMarkUri].idxOf t.address

set_option maxRecDepth 100000 in
/-- The schema of the lists of the mark of the shop is read, and its references end. -/
theorem read?_shopMark_list : ((read? markDocuments (Engine.listSchema shopMarkUri)).any fun v =>
    decide (v.EndsBy markRank)) = true := by
  decide +kernel

/-- The documents have different names. -/
theorem typeNames_markStore_nodup :
    ((ofStore .standard [] markStore).documents.map (·.typeName)).Nodup := by
  rw [documents_markStore]
  decide

/-- Each document of a mark is a schema. -/
theorem isSchema_markSchema {uri target : String} (huri : Format.isReference false false uri = true)
    (htarget : Format.isReference false false target = true) :
    MetaSchema.IsSchema (markSchema uri target) :=
  isSchema_headed huri (List.forall_mem_singleton.2 (.address (by simp) htarget))

/-- All documents of the batch are plain. -/
theorem isPlainFrom_markStore (name : String) :
    (ofStore .standard [] markStore).IsPlainFrom name := by
  have hown : ∀ document ∈ (ofStore .standard [] markStore).documents,
      (Emitter.ofDomain (ofStore .standard [] markStore).domain).IsOwn document.typeName := by
    rw [documents_markStore]
    decide +kernel
  have hflat {schema : Json} (h : ∀ x ∈ schema.children, x.objects = []) :
      ∀ x ∈ schema.children, x.IsPlain
        (Emitter.ofDomain (ofStore .standard [] markStore).domain).IsReference := by
    intro x hx ms hms
    rw [h x hx] at hms
    cases hms
  suffices hparts : ∀ document ∈ (ofStore .standard [] markStore).documents,
      document.schema.HasPlainParts
        (Emitter.ofDomain (ofStore .standard [] markStore).domain).IsReference from
    ⟨by decide, fun document hmem _ => hown document hmem,
      fun document hmem _ => hparts document hmem⟩
  rw [documents_markStore] at hown ⊢
  simp only [List.forall_mem_cons, List.not_mem_nil, false_implies, implies_true,
    and_true] at hown ⊢
  refine ⟨⟨?_, hflat (by decide)⟩, ⟨?_, hflat (by decide)⟩, ⟨?_, hflat (by decide)⟩⟩
  · rintro ms hms s hs
    cases hms
    cases hs
    exact .inr ⟨"test/mark", ⟨"test", "mark", by decide, by decide, rfl⟩, hown.2.2,
      .inl (by decide)⟩
  · rintro ms hms s hs
    cases hms
    cases hs
  · rintro ms hms s hs
    cases hms
    cases hs
    exact .inr ⟨"test/flag", ⟨"test", "flag", by decide, by decide, rfl⟩, hown.2.1,
      .inl (by decide)⟩

set_option maxRecDepth 100000 in
/-- The document of the mark of the shop is read, and its references end. -/
theorem read?_shopMark : ((read? markDocuments (markSchema shopMarkUri markUri)).any fun v =>
    decide (v.EndsBy markRank)) = true := by
  decide +kernel

/-- So the mark of the shop has both validators. -/
theorem exists_validator?_shopMark :
    ∃ t, (ofStore .standard [] markStore).validator? "shop" "mark" = some t
      ∧ t.single.Ends ∧ t.list.Ends := by
  obtain ⟨single, hsingle, hends⟩ := (Option.any_eq_true _ _).1 read?_shopMark
  obtain ⟨list, hlist, hendsList⟩ := (Option.any_eq_true _ _).1 read?_shopMark_list
  rw [← documents_engineOf_markStore] at hsingle hlist
  have hdocument : ⟨"shop/mark", shopMarkUri, markSchema shopMarkUri markUri⟩
      ∈ (ofStore .standard [] markStore).documents := by
    rw [documents_markStore]
    exact List.mem_cons_self
  exact ⟨_, lookup_validators_of_read? rfl typeNames_markStore_nodup hdocument
    (isSchema_markSchema (by decide +kernel) (by decide +kernel)) (by decide +kernel) hsingle hlist,
    ⟨_, of_decide_eq_true hends⟩, ⟨_, of_decide_eq_true hendsList⟩⟩

/-- An example: a list of a flag and of something that is none. -/
theorem validateList?_markStore :
    (ofStore .standard [] markStore).IsPlainFrom (Name.qualify "shop" "mark")
    ∧ ∃ t, (ofStore .standard [] markStore).validator? "shop" "mark" = some t ∧ t.list.Ends
      ∧ (((ofStore .standard [] markStore).validateList? "shop" "mark"
            (.array [.bool true, .null])).map (·.isValid) = some true
          ↔ ∃ xs, Json.array [.bool true, .null] = .array xs ∧ ∀ x ∈ xs,
            ((ofStore .standard [] markStore).validate? "shop" "mark" x).map (·.isValid)
              = some true)
      ∧ ∀ xs, Json.array [.bool true, .null] = .array xs →
        ((ofStore .standard [] markStore).validateList? "shop" "mark"
            (.array [.bool true, .null])).map (·.errors)
          = some (xs.zipIdx.flatMap fun p =>
            (((ofStore .standard [] markStore).validate? "shop" "mark" p.1).map (·.errors)).getD []
              |>.map (ValueError.atIndex p.2)) := by
  obtain ⟨t, ht, -, hends⟩ := exists_validator?_shopMark
  exact ⟨isPlainFrom_markStore _, t, ht, hends,
    validateList?_eq (isPlainFrom_markStore _) ht hends _⟩

/-! ## Documents that are not plain

What the schema of lists refers to may be something else than the document of the type: a document
of the schema language at the same address, a part of one, or a part of the document itself. A
reference without a name may mean the schema that it is followed from, and that is not the same
schema for a list. An error that tells no place tells none in a list either. -/

/-- A batch of one type, which is given as a schema. -/
def schemaStore (system name : String) (members : List (String × Json)) : Store :=
  ⟨[⟨none, .object [("kind", .string "object"), ("system", .string system),
    ("name", .string name), ("jsonSchema", .object members)]⟩]⟩

def settingsAt (domain : String) : Settings := { Settings.standard with domain := domain }

/-- What the validators of such a batch say of a value and of the list of it alone. -/
def verdicts (domain system name : String) (members : List (String × Json)) (x : Json) :
    Option Outcome × Option Outcome :=
  let c := ofStore (settingsAt domain) [] (schemaStore system name members)
  (c.validate? system name x, c.validateList? system name (.array [x]))

/-- The errors that are read of a single document for the two. -/
def readErrors? (uri : String) (schema x : Json) : Option (List ValueError × List ValueError) :=
  (read? [(uri, schema)] schema).bind fun v =>
    (read? [(uri, schema)] (Engine.listSchema uri)).map fun w => (v.errors x, w.errors (.array [x]))

/-- The verdicts of a batch of one document are what reading its two schemas gives. -/
theorem verdicts_of_readErrors? {domain system name title : String} {members : List (String × Json)}
    {x : Json} {es listed : List ValueError}
    (hemitted : (resolved (settingsAt domain) [] (schemaStore system name members)).flatMap
        (Emitter.ofDomain (settingsAt domain).domain).documentsOf
      = [⟨Name.qualify system name, (Emitter.ofDomain domain).uri (Name.qualify system name),
        headed ((Emitter.ofDomain domain).uri (Name.qualify system name)) title members⟩])
    (huri : Format.isReference false false
      ((Emitter.ofDomain domain).uri (Name.qualify system name)) = true)
    (hmembers : ∀ m ∈ members, MetaSchema.IsMember m.1 m.2)
    (hread : readErrors? ((Emitter.ofDomain domain).uri (Name.qualify system name))
      (headed ((Emitter.ofDomain domain).uri (Name.qualify system name)) title members) x
        = some (es, listed)) :
    verdicts domain system name members x = (some ⟨es⟩, some ⟨listed⟩) := by
  generalize (Emitter.ofDomain domain).uri (Name.qualify system name) = uri
    at hemitted huri hread
  obtain ⟨single, hsingle, hread⟩ := Option.bind_eq_some_iff.1 hread
  obtain ⟨list, hlist, hread⟩ := Option.map_eq_some_iff.1 hread
  cases hread
  have hdocuments := List.perm_singleton.1 (documents_perm_resolved.trans (.of_eq hemitted))
  have hengine : (engineOf (settingsAt domain) [] (schemaStore system name members)).documents
      = [(uri, headed uri title members)] := by
    unfold engineOf
    rw [Engine.ofDocuments_eq, hdocuments]
    rfl
  rw [← hengine] at hsingle hlist
  have hnodup : ((ofStore (settingsAt domain) [] (schemaStore system name members)).documents.map
      (·.typeName)).Nodup := by
    rw [hdocuments]
    exact List.nodup_singleton _
  have hmem : ⟨Name.qualify system name, uri, headed uri title members⟩
      ∈ (ofStore (settingsAt domain) [] (schemaStore system name members)).documents := by
    rw [hdocuments]
    exact List.mem_singleton_self _
  have hvalidators := lookup_validators_of_read? rfl hnodup hmem (isSchema_headed huri hmembers)
    huri hsingle hlist
  unfold verdicts validate? validateList? validator?
  dsimp only
  rw [hvalidators]
  rfl

set_option maxRecDepth 100000 in
/-- Batches of one document that is not plain: at an address of the schema language, below a domain
that ends with a fragment, with the address of the document inside the document, and with a
reference that is not one to a type. The document of the last one is plain, but an error that tells
no place has none in a list either. -/
theorem verdicts_ne :
    verdicts "https://json-schema.org/draft/2019-09" "meta" "validation"
        [("type", .string "boolean")] (.object [])
      = (some ⟨[.here "\x7b\x7d is not of type \"boolean\""]⟩, some ⟨[]⟩)
    ∧ verdicts "http://json-schema.org/draft-07/schema#" "definitions" "nonNegativeInteger"
        [("$ref", .string "#/properties/x"),
          ("properties", .object [("x", .object [("type", .string "boolean")])])] (.ofNat 1)
      = (some ⟨[.here "1 is not of type \"boolean\""]⟩, some ⟨[]⟩)
    ∧ verdicts "https://a.org" "test" "box"
        [("properties", .object [("x", .object [("$id", .string "https://a.org/test/box"),
          ("type", .string "string")])])] (.object [])
      = (some ⟨[]⟩, some ⟨[⟨"/0", "\x7b\x7d is not of type \"string\"", true⟩]⟩)
    ∧ verdicts "https://a.org" "test" "box"
        [("$ref", .string "#/enum/0"), ("enum", .array [.object [("properties", .object
          [("p", .object [("$ref", .string "json-schema:///")])])]])]
        (.object [("p", .object [])])
      = (some ⟨[]⟩, some ⟨[⟨"/0/p", "\x7b\x7d is not of type \"array\"", true⟩]⟩)
    ∧ verdicts "https://a.org" "test" "blob"
        [("contentEncoding", .string "base64"), ("contentMediaType", .string "application/json")]
        (.string "/w==")
      = (some ⟨[.nowhere "invalid utf-8 sequence of 1 bytes from index 0"]⟩,
        some ⟨[.nowhere "invalid utf-8 sequence of 1 bytes from index 0"]⟩) := by
  have hboolean : MetaSchema.IsMember "type" (.string "boolean") := .type (by decide)
  refine ⟨?_, ?_, ?_, ?_, ?_⟩
  · refine @verdicts_of_readErrors? _ _ _ "Validation" _ _ _ _ (by decide +kernel)
      (by decide +kernel) ?_ (by decide +kernel)
    exact List.forall_mem_singleton.2 hboolean
  · refine @verdicts_of_readErrors? _ _ _ "Non Negative Integer" _ _ _ _ (by decide +kernel)
      (by decide +kernel) ?_ (by decide +kernel)
    rw [List.forall_mem_cons, List.forall_mem_singleton]
    exact ⟨.address (by simp) (by decide +kernel), .schemas (List.forall_mem_singleton.2
      (.object (List.forall_mem_singleton.2 hboolean)))⟩
  · refine @verdicts_of_readErrors? _ _ _ "Box" _ _ _ _ (by decide +kernel)
      (by decide +kernel) ?_ (by decide +kernel)
    refine List.forall_mem_singleton.2 (.schemas (List.forall_mem_singleton.2 (.object ?_)))
    rw [List.forall_mem_cons, List.forall_mem_singleton]
    exact ⟨.address (by simp) (by decide +kernel), .type (by decide)⟩
  · refine @verdicts_of_readErrors? _ _ _ "Box" _ _ _ _ (by decide +kernel)
      (by decide +kernel) ?_ (by decide +kernel)
    rw [List.forall_mem_cons, List.forall_mem_singleton]
    exact ⟨.address (by simp) (by decide +kernel), .list _ (by simp)⟩
  · refine @verdicts_of_readErrors? _ _ _ "Blob" _ _ _ _ (by decide +kernel)
      (by decide +kernel) ?_ (by decide +kernel)
    rw [List.forall_mem_cons, List.forall_mem_singleton]
    exact ⟨.text _ (by simp), .text _ (by simp)⟩

end Catalog

end TypeCatalog
