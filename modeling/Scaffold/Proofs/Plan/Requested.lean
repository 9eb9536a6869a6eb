import Scaffold.Proofs.Plan.Selection
import Scaffold.Proofs.Schema.Fields
import Scaffold.Proofs.Schema.Relations

/-!
# What becomes of requests

The columns, searches and filters of the list page are requested by name. Each request selects one
thing or is refused with a diagnostic of its own, and no diagnostic of the schema has the kind of a
refusal (`Schema.ofSchema_read`). So what is selected and what is reported divide the requests
(`Plan.requests_accounted`). The three lists differ in what is taken once: a requested column, a name
that is searched for because of a request or a mark, and the key that a filter has in the end.
-/
namespace Scaffold

open Text

/-- The tokens of the diagnostics of one kind, in their order. -/
def tokensOf (kind : DiagnosticKind) (notes : List Diagnostic) : List Text :=
  (notes.filter (·.kind == kind)).map (·.token)

/-- The tokens of more diagnostics stand behind those of the first ones. -/
theorem tokensOf_append (kind : DiagnosticKind) (notes more : List Diagnostic) :
    tokensOf kind (notes ++ more) = tokensOf kind notes ++ tokensOf kind more := by
  rw [tokensOf, List.filter_append, List.map_append]
  rfl

/-- There are no tokens of a kind that no diagnostic has. -/
theorem tokensOf_eq_nil {kind : DiagnosticKind} {notes : List Diagnostic}
    (silent : ∀ note ∈ notes, note.kind ≠ kind) : tokensOf kind notes = [] := by
  have none : notes.filter (·.kind == kind) = [] := by
    refine List.filter_eq_nil_iff.mpr fun note member same => ?_
    exact silent note member (beq_iff_eq.mp same)
  rw [tokensOf, none, List.map_nil]

/-- A diagnostic of this kind is about what is declared, not about a request of the list page. -/
def DiagnosticKind.isOfSchema : DiagnosticKind → Bool
  | unknownTableColumn | unknownField | notFilterable | notSearchable => false
  | _ => true

namespace Schema

/-- What holds of the diagnostics of every token and of every duplicate holds of all of them. -/
theorem forall_mem_readAfter_snd {α : Type} {read : Text → Option α × List Diagnostic}
    {key? : α → Option Text} {duplicate : α → Diagnostic} {holds : Diagnostic → Prop}
    (single : ∀ token, ∀ note ∈ (read token).2, holds note) (told : ∀ value, holds (duplicate value))
    {known : List α} {all : List Text} :
    ∀ note ∈ (readAfter read key? duplicate known all).2, holds note := by
  induction all generalizing known with
  | nil => simp [readAfter]
  | cons token rest ih =>
    have own := single token
    unfold readAfter
    split
    · rename_i notes found
      rw [found] at own
      intro note member
      rcases List.mem_append.mp member with here | later
      · exact own note here
      · exact ih note later
    · rename_i value notes found
      rw [found] at own
      split
      · intro note member
        rcases List.mem_append.mp member with here | there
        · exact own note here
        · rcases List.mem_cons.mp there with rfl | later
          · exact told value
          · exact ih note later
      · intro note member
        rcases List.mem_append.mp member with here | later
        · exact own note here
        · exact ih note later

/-- A field is reported for its name, its kind or its options. -/
theorem ofSchema_readField (token : Text) :
    ∀ note ∈ (readField token).2, note.kind.isOfSchema = true := by
  have kinds : ∀ declared, ∀ note ∈ (readKind (trim token) declared).2,
      note.kind.isOfSchema = true := by
    intro declared
    unfold readKind
    split
    · simp
    · split
      · simp
      · simp [DiagnosticKind.isOfSchema]
  have ignored : ∀ kind options, ∀ note ∈ (keepOptions (trim token) kind options).2,
      note.kind.isOfSchema = true := by
    intro kind options
    unfold keepOptions
    split
    · simp [DiagnosticKind.isOfSchema]
    · simp
  rw [readField_eq]
  simp only
  split
  · simp [DiagnosticKind.isOfSchema]
  · intro note member
    rcases List.mem_append.mp member with kind | options
    · exact kinds _ note kind
    · exact ignored _ _ note options

/-- A relationship is reported for its parts or its kind. -/
theorem ofSchema_readRelationship (token : Text) :
    ∀ note ∈ (readRelationship token).2, note.kind.isOfSchema = true := by
  rcases readRelationship_cases token with malformed | ⟨relationship, notes, read, -, said⟩
  · rw [malformed]
    simp [DiagnosticKind.isOfSchema]
  · rw [read]
    rcases said with rfl | ⟨type, rfl⟩
    · simp
    · simp [DiagnosticKind.isOfSchema]

/-- A relationship is reported for a parent that it does not keep. -/
theorem ofSchema_keepParent (names : List Text) (relationship : Relationship) :
    ∀ note ∈ (keepParent names relationship).2, note.kind.isOfSchema = true := by
  unfold keepParent
  split
  · simp
  · split
    · simp
    · simp [DiagnosticKind.isOfSchema]

/-- What is said about a schema is about what it declares. -/
theorem ofSchema_read (fields relationships projections : Text) :
    ∀ note ∈ (Schema.read fields relationships projections).diagnostics,
      note.kind.isOfSchema = true := by
  have ofFields : ∀ note ∈ (readFields fields).2, note.kind.isOfSchema = true := by
    rw [readFields, readFieldsAfter_eq]
    exact forall_mem_readAfter_snd ofSchema_readField fun _ => rfl
  have ofRelationships : ∀ note ∈ (readRelationships relationships).2,
      note.kind.isOfSchema = true := by
    simp only [readRelationships, readRelationshipsAfter_eq]
    intro note member
    rcases List.mem_append.mp member with read | kept
    · exact forall_mem_readAfter_snd ofSchema_readRelationship (fun _ => rfl) note read
    · obtain ⟨_, made, said⟩ := List.mem_flatMap.mp kept
      obtain ⟨relationship, -, rfl⟩ := List.mem_map.mp made
      exact ofSchema_keepParent _ relationship note said
  have ofProjections : ∀ known, ∀ note ∈ (readProjections known projections).2,
      note.kind.isOfSchema = true := by
    intro known note member
    obtain ⟨token, -, rfl⟩ := List.mem_map.mp member
    rfl
  intro note member
  rcases List.mem_append.mp member with read | projected
  · rcases List.mem_append.mp read with field | relationship
    · exact ofFields note field
    · exact ofRelationships note relationship
  · exact ofProjections _ note projected

end Schema

namespace Plan

variable {fields : List Field} {relationships : List Relationship} {projections : List Projection}
  {request : Text} {requests : List Text} {kind : DiagnosticKind}

/-- The tokens that a plan reports under one kind, in their order. -/
def reported (plan : Plan) (kind : DiagnosticKind) : List Text := tokensOf kind plan.diagnostics

/-- A plan reports requests only where it selects. -/
theorem reported_ofOptions (options : Options) (refusal : kind.isOfSchema = false) :
    (ofOptions options).reported kind =
      tokensOf kind (selectColumns (ofOptions options).fields (ofOptions options).projections
        options.tableColumns).2 ++
      tokensOf kind (selectSearches (ofOptions options).fields options.searchable).2 ++
      tokensOf kind (selectFilters (ofOptions options).fields (ofOptions options).relationships
        options.filterable).2 := by
  have schema : tokensOf kind (Schema.read options.fields options.relationships
      options.projections).diagnostics = [] := by
    refine tokensOf_eq_nil fun note member same => ?_
    have told := Schema.ofSchema_read _ _ _ note member
    rw [same, refusal] at told
    exact absurd told Bool.false_ne_true
  have reserved : tokensOf kind (dropReserved (Schema.read options.fields options.relationships
      options.projections).fields).2 = [] := by
    refine tokensOf_eq_nil fun note member same => ?_
    obtain ⟨field, -, rfl⟩ := List.mem_map.mp member
    rw [← same] at refusal
    exact absurd refusal Bool.true_eq_false.mp
  simp only [reported, ofOptions, ofSchema, tokensOf_append, schema, reserved, List.nil_append]

/-- What is decided about a request: it selects a value that has a key, or it is refused for a
reason. -/
inductive Decided {α : Type} (keyOf : α → Text) (request : Text) :
    Selected α → Option Text → Option DiagnosticKind → Prop
  /-- The request selects a value. -/
  | kept (value : α) : Decided keyOf request (.ok value) (some (keyOf value)) none
  /-- The request is reported. -/
  | refused (reason : DiagnosticKind) :
    Decided keyOf request (.error ⟨request, reason⟩) none (some reason)

section

variable {α : Type} {keyOf : α → Text}

/-- The value that is decided on has the key that is decided on. -/
theorem Decided.key_eq {answer : Selected α} {key : Option Text} {reason : Option DiagnosticKind}
    (decided : Decided keyOf request answer key reason) : answer.toOption.map keyOf = key := by
  cases decided with
  | kept value => rfl
  | refused reason => rfl

/-- The request is reported for the reason that is decided on. -/
theorem Decided.tokens_eq {answer : Selected α} {key : Option Text}
    {reason : Option DiagnosticKind} (decided : Decided keyOf request answer key reason)
    (kind : DiagnosticKind) : tokensOf kind (partition [answer]).2 =
      if reason == some kind then [request] else [] := by
  cases decided with
  | kept value => rfl
  | refused reason =>
    by_cases same : reason = kind
    · simp [tokensOf, partition, same]
    · simp [tokensOf, partition, same]

variable {select : Text → Selected α} {key? : Text → Option Text}
  {reason? : Text → Option DiagnosticKind}

/-- The selected values have the keys of the requests, in their order. -/
theorem map_partition (decided : ∀ request, Decided keyOf request (select request) (key? request)
    (reason? request)) (requests : List Text) :
    (partition (requests.map select)).1.map keyOf = requests.filterMap key? := by
  rw [partition, List.filterMap_map, List.map_filterMap]
  exact List.filterMap_congr fun request _ => (decided request).key_eq

/-- The requests that are refused for a reason are reported under it, in their order. -/
theorem tokensOf_partition (decided : ∀ request, Decided keyOf request (select request)
    (key? request) (reason? request)) (kind : DiagnosticKind) (requests : List Text) :
    tokensOf kind (partition (requests.map select)).2 =
      requests.filter (reason? · == some kind) := by
  induction requests with
  | nil => rfl
  | cons request rest ih =>
    have step : (partition ((request :: rest).map select)).2 =
        (partition [select request]).2 ++ (partition (rest.map select)).2 := by
      simp only [partition, ← List.filterMap_append, List.map_cons, List.singleton_append]
    rw [step, tokensOf_append, ih, (decided request).tokens_eq kind, List.filter_cons]
    split <;> rfl

/-- What is found by its key is listed and has it. -/
theorem of_find?_key {values : List α} {value : α}
    (found : values.find? (keyOf · == request) = some value) :
    value ∈ values ∧ keyOf value = request := by
  refine ⟨List.mem_of_find?_eq_some found, ?_⟩
  have own := List.find?_some found
  exact beq_iff_eq.mp own

/-- A key is that of some value exactly if one is found. -/
theorem any_key_eq {values : List α} :
    values.any (keyOf · == request) = (values.find? (keyOf · == request)).isSome := by
  rw [Bool.eq_iff_iff, List.find?_isSome, List.any_eq_true]

end

/-- A request is the name of a field or the key of a projection. -/
def namesColumn (fields : List Field) (projections : List Projection) (request : Text) : Bool :=
  fields.any (·.name == request) || projections.any (·.key == request)

/-- A requested column is the one that the request names. -/
theorem decided_selectColumn (fields : List Field) (projections : List Projection)
    (request : Text) : Decided TableColumn.key request (selectColumn fields projections request)
      (if namesColumn fields projections request then some request else none)
      (if namesColumn fields projections request then none else some .unknownTableColumn) := by
  unfold selectColumn namesColumn
  rw [any_key_eq, any_key_eq]
  cases named : fields.find? (·.name == request) with
  | some field =>
    obtain ⟨-, rfl⟩ := of_find?_key named
    simp only [Option.isSome_some, Bool.true_or, ↓reduceIte]
    exact .kept (TableColumn.field field)
  | none =>
    cases shown : projections.find? (·.key == request) with
    | some projection =>
      obtain ⟨-, rfl⟩ := of_find?_key shown
      simp only [Option.isSome_some, Bool.or_true, ↓reduceIte]
      exact .kept (TableColumn.relation projection)
    | none =>
      simp only [Option.isSome_none, Bool.or_false, Bool.false_eq_true, ↓reduceIte]
      exact .refused .unknownTableColumn

/-- Why a name is not searched for, if it is not. -/
def searchRefusal? (fields : List Field) (request : Text) : Option DiagnosticKind :=
  match fields.find? (·.name == request) with
  | none => some .unknownField
  | some field => if (searchMode? field).isNone then some .notSearchable else none

/-- A searched field is the one that the request names. -/
theorem decided_selectSearch (fields : List Field) (request : Text) :
    Decided (·.field.name) request (selectSearch fields request)
      (if (searchRefusal? fields request).isNone then some request else none)
      (searchRefusal? fields request) := by
  unfold selectSearch
  cases named : fields.find? (·.name == request) with
  | none =>
    simp only [searchRefusal?, named, Option.isNone_some, Bool.false_eq_true,
      ↓reduceIte]
    exact .refused .unknownField
  | some field =>
    obtain ⟨-, rfl⟩ := of_find?_key named
    cases compared : searchMode? field with
    | some mode =>
      simp only [searchRefusal?, named, compared, Option.isNone_some,
        Option.isNone_none, Bool.false_eq_true, ↓reduceIte]
      exact .kept (SearchColumn.mk field mode)
    | none =>
      simp only [searchRefusal?, named, compared, Option.isNone_some,
        Option.isNone_none, Bool.false_eq_true, ↓reduceIte]
      exact .refused .notSearchable

/-- The requests of filters that are not blank, trimmed. -/
def filterRequests (requests : List Text) : List Text :=
  (requests.map trim).filter (!·.isEmpty)

/-- The key of the filter that a request selects: a field with options, or else the key column of a
relationship that has the request for its name or its key. -/
def filterKey? (fields : List Field) (relationships : List Relationship) (request : Text) :
    Option Text :=
  match fields.find? (·.name == request) with
  | some field => if field.isFilterable then some request else none
  | none =>
    (relationships.find? fun relationship => relationship.ownsForeignKey &&
      (relationship.name == request || relationship.foreignKey == request)).map (·.foreignKey)

/-- A requested filter is the one of the key that the request selects. -/
theorem decided_selectFilter (fields : List Field) (relationships : List Relationship)
    (request : Text) : Decided Filter.key request (selectFilter fields relationships request)
      (filterKey? fields relationships request)
      (if (filterKey? fields relationships request).isSome then none else some .notFilterable) := by
  unfold selectFilter filterKey?
  cases named : fields.find? (·.name == request) with
  | some field =>
    obtain ⟨-, rfl⟩ := of_find?_key named
    cases filterable : field.isFilterable with
    | false =>
      simp only [filterable, Bool.false_eq_true, ↓reduceIte, Option.isSome_none]
      exact .refused .notFilterable
    | true =>
      simp only [filterable, ↓reduceIte, Option.isSome_some]
      cases field.hasRecords with
      | true => exact .kept (Filter.records field)
      | false => exact .kept (Filter.options field)
  | none =>
    simp only
    cases relationships.find? fun relationship => relationship.ownsForeignKey &&
        (relationship.name == request || relationship.foreignKey == request) with
    | some relationship => exact .kept (Filter.relation relationship)
    | none => exact .refused .notFilterable

/-- A request asks for the filter of a key: it is the name of a field, whose filter has that name, or
the name or the key column of a relationship, whose filter has the key column. -/
def AsksFor (plan : Plan) (request key : Text) : Prop :=
  (∃ field ∈ plan.fields, field.name = request ∧ key = field.name) ∨
  ∃ relationship ∈ plan.relationships, relationship.kind = .belongsTo ∧
    (relationship.name = request ∨ relationship.foreignKey = request) ∧
    key = relationship.foreignKey

/-- A request asks for the filter that it selects. -/
theorem asksFor_of_filterKey? {plan : Plan} {key : Text}
    (selected : filterKey? plan.fields plan.relationships request = some key) :
    plan.AsksFor request key := by
  unfold filterKey? at selected
  split at selected
  · rename_i field named
    have own := List.find?_some named
    rw [beq_iff_eq] at own
    split at selected
    · have same := Option.some.inj selected
      exact .inl ⟨field, List.mem_of_find?_eq_some named, own, by rw [own, same]⟩
    · simp at selected
  · obtain ⟨relationship, found, same⟩ := Option.map_eq_some_iff.mp selected
    have owns := List.find?_some found
    simp only [Bool.and_eq_true, Bool.or_eq_true, beq_iff_eq] at owns
    exact .inr ⟨relationship, List.mem_of_find?_eq_some found, beq_iff_eq.mp owns.1, owns.2,
      same.symm⟩

/-- The filters that are left have the first occurrences of the keys. -/
theorem map_key_distinctKeys (filters : List Filter) :
    (distinctKeys filters).map (·.key) = firstOccurrences (filters.map (·.key)) := by
  induction filters with
  | nil => rfl
  | cons first rest ih =>
    rw [distinctKeys, List.map_cons, List.map_cons, firstOccurrences, ← ih, List.filter_map]
    congr 2
    apply List.filter_congr
    intro filter _
    simp [bne, Bool.beq_eq_decide_eq]

/-- The filter is by a field with a choice and with options, or by the key of a record that this one
belongs to. -/
def Offers (plan : Plan) (filter : Filter) : Prop :=
  (∃ field ∈ plan.fields, (filter = .options field ∨ filter = .records field) ∧
    field.choice ≠ .none ∧ field.options ≠ .none) ∨
  ∃ relationship ∈ plan.relationships, filter = .relation relationship ∧
    relationship.kind = .belongsTo

/-- A field of a kind with a list of options has a choice. -/
theorem choice_ne_none {field : Field} (enumerable : field.kind.isEnumerable = true) :
    field.choice ≠ .none := by
  simp only [FieldKind.isEnumerable, Bool.and_eq_true, bne_iff_ne] at enumerable
  unfold Field.choice
  split
  · split <;> simp
  · exact enumerable.1

/-- A plan offers its filters. -/
theorem offers_of_sourced {plan : Plan} (sourced : plan.Sourced) {filter : Filter}
    (member : filter ∈ plan.filters) : plan.Offers filter := by
  have chosen : ∀ field ∈ plan.fields, field.options ≠ .none → field.choice ≠ .none :=
    fun field listed some => choice_ne_none ((sourced.options field listed).resolve_left some)
  have own := sourced.filters filter member
  cases filter with
  | options field =>
    obtain ⟨listed, labels⟩ := own
    have some : field.options ≠ .none := by
      intro none
      simp [Field.hasLabels, Field.labels?, none] at labels
    exact .inl ⟨field, listed, .inl rfl, chosen field listed some, some⟩
  | records field =>
    obtain ⟨listed, records⟩ := own
    have some : field.options ≠ .none := by
      intro none
      simp [Field.hasRecords, Field.source?, none] at records
    exact .inl ⟨field, listed, .inr rfl, chosen field listed some, some⟩
  | relation relationship => exact .inr ⟨relationship, own.1, rfl, beq_iff_eq.mp own.2⟩

/-- A list column is selected from the requests, unless there are none. -/
theorem selectColumns_eq (some : requested requests ≠ []) :
    selectColumns fields projections requests =
      partition ((requested requests).map (selectColumn fields projections)) := by
  unfold selectColumns
  split
  · rename_i none
    exact absurd none some
  · rename_i request rest listed
    rw [listed]

/-- The requested columns that there are not are reported, and nothing else about columns. -/
theorem tokensOf_selectColumns (kind : DiagnosticKind) (fields : List Field)
    (projections : List Projection) (requests : List Text) :
    tokensOf kind (selectColumns fields projections requests).2 =
      (requested requests).filter fun request =>
        (if namesColumn fields projections request then none
          else some DiagnosticKind.unknownTableColumn) == some kind := by
  by_cases none : requested requests = []
  · have silent : (selectColumns fields projections requests).2 = [] := by
      unfold selectColumns
      rw [none]
    rw [silent, none]
    rfl
  · rw [selectColumns_eq none, tokensOf_partition (decided_selectColumn fields projections)]

/-- The searches that are refused are reported. -/
theorem tokensOf_selectSearches (kind : DiagnosticKind) (fields : List Field)
    (requests : List Text) : tokensOf kind (selectSearches fields requests).2 =
      (searchRequests fields requests).filter (searchRefusal? fields · == some kind) :=
  tokensOf_partition (decided_selectSearch fields) kind _

/-- The filters that are refused are reported. -/
theorem tokensOf_selectFilters (kind : DiagnosticKind) (fields : List Field)
    (relationships : List Relationship) (requests : List Text) :
    tokensOf kind (selectFilters fields relationships requests).2 =
      (filterRequests requests).filter fun request =>
        (if (filterKey? fields relationships request).isSome then none
          else some DiagnosticKind.notFilterable) == some kind :=
  tokensOf_partition (decided_selectFilter fields relationships) kind _

/-- The filters have the keys that are requested, each once. -/
theorem map_key_selectFilters (fields : List Field) (relationships : List Relationship)
    (requests : List Text) : (selectFilters fields relationships requests).1.map (·.key) =
      firstOccurrences
        ((filterRequests requests).filterMap (filterKey? fields relationships)) := by
  rw [← map_partition (decided_selectFilter fields relationships), ← map_key_distinctKeys]
  rfl

/-- Requests that select themselves or nothing are the ones that pass a test. -/
theorem filterMap_ite_some (requests : List Text) (keeps : Text → Bool) :
    (requests.filterMap fun request => if keeps request then some request else none) =
      requests.filter keeps := by
  rw [← List.filterMap_eq_filter]
  rfl

/-- Requests that are refused for one reason are reported for it and for no other. -/
theorem filter_ite_reason (requests : List Text) (keeps : Text → Bool) (reason kind : DiagnosticKind) :
    (requests.filter fun request => (if keeps request then none else some reason) == some kind) =
      if reason = kind then requests.filter (!keeps ·) else [] := by
  split
  · rename_i same
    apply List.filter_congr
    intro request _
    cases keeps request with
    | true => rfl
    | false => simp [same]
  · rename_i apart
    refine List.filter_eq_nil_iff.mpr fun request _ same => ?_
    split at same
    · simp at same
    · exact apart (Option.some.inj (beq_iff_eq.mp same))

/-- What a plan selects and what it reports divide the requests of the options. -/
structure Accounts (plan : Plan) (options : Options) : Prop where
  /-- If a column is requested, the columns are the requests that name one, each once. -/
  columns : (∃ entry ∈ options.tableColumns, isBlankText entry = false) →
    plan.tableColumns.map (·.key) =
      (requested options.tableColumns).filter (namesColumn plan.fields plan.projections)
  /-- The other requested columns are reported. -/
  unknownColumns : plan.reported .unknownTableColumn =
    (requested options.tableColumns).filter (!namesColumn plan.fields plan.projections ·)
  /-- The searched fields are the requested and the marked ones without those that are reported. -/
  searches : plan.searchable.map (·.field.name) =
    (searchRequests plan.fields options.searchable).filter fun request =>
      !(plan.reported .unknownField ++ plan.reported .notSearchable).contains request
  /-- Searches in what is no field are reported. -/
  unknownSearches : plan.reported .unknownField =
    (searchRequests plan.fields options.searchable).filter (!plan.declares ·)
  /-- So are searches in a field that is not searched. -/
  notSearched : plan.reported .notSearchable =
    (searchRequests plan.fields options.searchable).filter fun request =>
      (plan.field? request).any fun field => (searchMode? field).isNone
  /-- The keys of the filters are those that are requested, each once. -/
  filters : plan.filters.map (·.key) = firstOccurrences
    ((filterRequests options.filterable).filterMap (filterKey? plan.fields plan.relationships))
  /-- No two filters have one key. -/
  distinctFilters : (plan.filters.map (·.key)).Nodup
  /-- The other requested filters are reported. -/
  notFiltered : plan.reported .notFilterable = (filterRequests options.filterable).filter
    fun request => !(filterKey? plan.fields plan.relationships request).isSome
  /-- A requested filter is reported, or one that it asks for is there. -/
  filtered : ∀ entry ∈ options.filterable, isBlankText entry = false →
    trim entry ∈ plan.reported .notFilterable ∨
      ∃ filter ∈ plan.filters, plan.AsksFor (trim entry) filter.key
  /-- A filter is one that the entity offers. -/
  offered : ∀ filter ∈ plan.filters, plan.Offers filter


/-- A name is refused since no field has it or since its field is not searched, or it is taken. -/
theorem searchRefusal?_cases (fields : List Field) (request : Text) :
    (fields.find? (·.name == request) = none ∧
      searchRefusal? fields request = some .unknownField) ∨
    ∃ field, fields.find? (·.name == request) = some field ∧
      ((searchMode? field).isNone = true ∧ searchRefusal? fields request = some .notSearchable ∨
        (searchMode? field).isNone = false ∧ searchRefusal? fields request = none) := by
  unfold searchRefusal?
  cases fields.find? (·.name == request) with
  | none => exact .inl ⟨rfl, rfl⟩
  | some field =>
    refine .inr ⟨field, rfl, ?_⟩
    cases uncompared : (searchMode? field).isNone with
    | true => exact .inl ⟨rfl, by simp only [uncompared, ↓reduceIte]⟩
    | false => exact .inr ⟨rfl, by simp only [uncompared, Bool.false_eq_true, ↓reduceIte]⟩

/-- Searches are refused for no third reason. -/
theorem filter_searchRefusal?_eq_nil (unknown : kind ≠ .unknownField)
    (unsearched : kind ≠ .notSearchable) (requests : List Text) :
    requests.filter (searchRefusal? fields · == some kind) = [] := by
  refine List.filter_eq_nil_iff.mpr fun request _ same => ?_
  have reason := beq_iff_eq.mp same
  rcases searchRefusal?_cases fields request with ⟨-, refused⟩ |
    ⟨field, -, ⟨-, refused⟩ | ⟨-, taken⟩⟩
  · exact unknown (Option.some.inj (reason.symm.trans refused))
  · exact unsearched (Option.some.inj (reason.symm.trans refused))
  · exact absurd (reason.symm.trans taken) (Option.some_ne_none kind)

/-- A name is not searched for exactly if no field has it. -/
theorem searchRefusal?_eq_unknownField (fields : List Field) (request : Text) :
    (searchRefusal? fields request == some .unknownField) = !fields.any (·.name == request) := by
  rw [any_key_eq]
  rcases searchRefusal?_cases fields request with ⟨none, refused⟩ |
    ⟨field, named, ⟨-, refused⟩ | ⟨-, taken⟩⟩
  · rw [none, refused]
    rfl
  · rw [named, refused]
    rfl
  · rw [named, taken]
    rfl

/-- A field is not searched exactly if there is no way to compare with it. -/
theorem searchRefusal?_eq_notSearchable (fields : List Field) (request : Text) :
    (searchRefusal? fields request == some .notSearchable) =
      (fields.find? (·.name == request)).any fun field => (searchMode? field).isNone := by
  rcases searchRefusal?_cases fields request with ⟨none, refused⟩ |
    ⟨field, named, ⟨uncompared, refused⟩ | ⟨compared, taken⟩⟩
  · rw [none, refused]
    rfl
  · rw [named, refused, Option.any_some, uncompared]
    rfl
  · rw [named, taken, Option.any_some, compared]
    rfl

/-- A request is searched for unless it is refused for one of the two reasons. -/
theorem isNone_searchRefusal? (fields : List Field) (request : Text) :
    (searchRefusal? fields request).isNone =
      !(searchRefusal? fields request == some .unknownField ||
        searchRefusal? fields request == some .notSearchable) := by
  rcases searchRefusal?_cases fields request with ⟨-, refused⟩ |
    ⟨field, -, ⟨-, refused⟩ | ⟨-, taken⟩⟩
  · rw [refused]
    rfl
  · rw [refused]
    rfl
  · rw [taken]
    rfl

/-- A plan reports each refused request under its reason, in the order of the requests. -/
theorem reported_eq (options : Options) (refusal : kind.isOfSchema = false) :
    (ofOptions options).reported kind =
      (if DiagnosticKind.unknownTableColumn = kind then
        (requested options.tableColumns).filter fun request =>
          !namesColumn (ofOptions options).fields (ofOptions options).projections request
      else []) ++
      (searchRequests (ofOptions options).fields options.searchable).filter
        (searchRefusal? (ofOptions options).fields · == some kind) ++
      (if DiagnosticKind.notFilterable = kind then
        (filterRequests options.filterable).filter fun request =>
          !(filterKey? (ofOptions options).fields (ofOptions options).relationships request).isSome
      else []) := by
  rw [reported_ofOptions options refusal, tokensOf_selectColumns, tokensOf_selectSearches,
    tokensOf_selectFilters, filter_ite_reason, filter_ite_reason]

/-- The requested columns that a plan does not have are reported as such. -/
theorem reported_unknownTableColumn (options : Options) :
    (ofOptions options).reported .unknownTableColumn =
      (requested options.tableColumns).filter fun request =>
        !namesColumn (ofOptions options).fields (ofOptions options).projections request := by
  rw [reported_eq options rfl, filter_searchRefusal?_eq_nil (by decide) (by decide), if_pos rfl,
    if_neg (by decide), List.append_nil, List.append_nil]

/-- The refused searches are reported under the reason of each. -/
theorem reported_searchRefusal (options : Options)
    (reason : kind = .unknownField ∨ kind = .notSearchable) :
    (ofOptions options).reported kind =
      (searchRequests (ofOptions options).fields options.searchable).filter
        (searchRefusal? (ofOptions options).fields · == some kind) := by
  rcases reason with rfl | rfl
  · rw [reported_eq options rfl, if_neg (by decide), if_neg (by decide), List.nil_append,
      List.append_nil]
  · rw [reported_eq options rfl, if_neg (by decide), if_neg (by decide), List.nil_append,
      List.append_nil]

/-- The requested filters that a plan does not have are reported as such. -/
theorem reported_notFilterable (options : Options) :
    (ofOptions options).reported .notFilterable =
      (filterRequests options.filterable).filter fun request =>
        !(filterKey? (ofOptions options).fields (ofOptions options).relationships
          request).isSome := by
  rw [reported_eq options rfl, filter_searchRefusal?_eq_nil (by decide) (by decide),
    if_neg (by decide), if_pos rfl, List.append_nil, List.nil_append]

/-- A filter that is requested is reported, or one that it asks for is there. -/
theorem reported_or_asksFor {plan : Plan}
    (filters : plan.filters.map (·.key) =
      firstOccurrences (requests.filterMap (filterKey? plan.fields plan.relationships)))
    (reported : plan.reported .notFilterable = requests.filter fun request =>
      !(filterKey? plan.fields plan.relationships request).isSome)
    (member : request ∈ requests) : request ∈ plan.reported .notFilterable ∨
      ∃ filter ∈ plan.filters, plan.AsksFor request filter.key := by
  cases selected : filterKey? plan.fields plan.relationships request with
  | none =>
    left
    rw [reported, List.mem_filter, selected]
    exact ⟨member, rfl⟩
  | some key =>
    right
    have there : key ∈ plan.filters.map (·.key) := by
      rw [filters, mem_firstOccurrences]
      exact List.mem_filterMap.mpr ⟨request, member, selected⟩
    obtain ⟨filter, listed, rfl⟩ := List.mem_map.mp there
    exact ⟨filter, listed, asksFor_of_filterKey? selected⟩

/-- The request of an entry that is not blank is not empty. -/
theorem mem_filterRequests {entry : Text} (listed : entry ∈ requests)
    (filled : isBlankText entry = false) : trim entry ∈ filterRequests requests := by
  have kept : trim entry ≠ [] := by
    intro empty
    rw [trim_eq_nil_iff.mp empty] at filled
    exact absurd filled (by decide)
  refine List.mem_filter.mpr ⟨List.mem_map_of_mem listed, ?_⟩
  rw [List.isEmpty_eq_false_iff.mpr kept]
  rfl

/-- Every plan accounts for what the options request of its list page: each request is selected or
reported, and nothing else is. -/
theorem requests_accounted (options : Options) : (ofOptions options).Accounts options := by
  have unknown := reported_searchRefusal options (.inl rfl)
  have unsearched := reported_searchRefusal options (.inr rfl)
  have filters : (ofOptions options).filters.map (·.key) = _ :=
    map_key_selectFilters _ _ options.filterable
  refine ⟨?_, reported_unknownTableColumn options, ?_, ?_, ?_, filters, ?_,
    reported_notFilterable options, ?_, ?_⟩
  · rintro ⟨entry, listed, filled⟩
    have some : requested options.tableColumns ≠ [] :=
      List.ne_nil_of_mem (mem_firstOccurrences.mpr (mem_filterRequests listed filled))
    have selected := map_partition
      (decided_selectColumn (ofOptions options).fields (ofOptions options).projections)
      (requested options.tableColumns)
    rw [filterMap_ite_some, ← selectColumns_eq some] at selected
    exact selected
  · have selected := map_partition (decided_selectSearch (ofOptions options).fields)
      (searchRequests (ofOptions options).fields options.searchable)
    rw [filterMap_ite_some] at selected
    refine selected.trans (List.filter_congr fun request member => ?_)
    rw [isNone_searchRefusal?, unknown, unsearched, Bool.not_inj_iff, Bool.eq_iff_iff,
      List.contains_iff_mem, List.mem_append, List.mem_filter, List.mem_filter, Bool.or_eq_true]
    simp only [member, true_and]
  · rw [unknown]
    exact List.filter_congr fun request _ => searchRefusal?_eq_unknownField _ request
  · rw [unsearched]
    exact List.filter_congr fun request _ => searchRefusal?_eq_notSearchable _ request
  · rw [filters]
    exact nodup_firstOccurrences _
  · intro entry listed filled
    exact reported_or_asksFor filters (reported_notFilterable options)
      (mem_filterRequests listed filled)
  · exact fun filter member => offers_of_sourced (sourced_ofOptions options) member

/-- An axe with a state and a proof, of which requests ask twice, in vain and by either name. -/
def axeRequests : Options where
  displayName := "Axe"
  fields := "proof:image,state:select:searchable:Sharp|Blunt"
  relationships := "lemma:belongsTo:Lemma"
  projections := "lemma.title"
  tableColumns := ["lemma.title", " state ", "gap", "state"]
  searchable := ["proof", "gap"]
  filterable := ["lemma", "state", "proof", "lemma_id"]

/-- Each request is accounted for: columns and filters are kept in order, and the rest is told. -/
theorem requests_accounted_axe :
    (ofOptions axeRequests).tableColumns.map (·.key) = ["lemma.title".toList, "state".toList] ∧
    (ofOptions axeRequests).reported .unknownTableColumn = ["gap".toList] ∧
    (ofOptions axeRequests).searchable.map (·.field.name) = ["state".toList] ∧
    (ofOptions axeRequests).filters.map (·.key) = ["lemma_id".toList, "state".toList] ∧
    "proof".toList ∈ (ofOptions axeRequests).reported .notFilterable := by
  have accounted := requests_accounted axeRequests
  rw [accounted.columns ⟨"gap", by decide, by decide⟩, accounted.unknownColumns,
    accounted.searches, accounted.filters, accounted.notFiltered]
  unfold axeRequests
  simp (disch := exact rfl) only [Text.toList_literal, -String.reduceToList]
  decide +kernel

end Plan

end Scaffold
