import KeyedQuery.Proofs.CompactText
import KeyedQuery.Proofs.WireForm

/-!
What is written is read again.

The JSON forms of orders, pages, intents, methods and configurations are legible whatever they hold.
Those of operands, qualifiers and criteria are as legible as the literals in them. A legible form is
read back from its compact text, and from every other text that spells it.
-/

set_option autoImplicit false

namespace KeyedQuery

open Json (Document)

/-- The value that a text is decoded as. -/
def readText? {Value : Type} (decode : Document → Option Value) (text : String) : Option Value :=
  (Document.ofText? text).bind decode

/-- The value is read back from what was written for it, in whatever order its members stand. -/
structure RoundTrip {Value : Type} (decode : Document → Option Value) (written : Json)
    (value : Value) : Prop where
  compact : readText? decode written.compact = some value
  spelling : ∀ text document, Document.ofText? text = some document → document.Spells written →
    readText? decode text = some value

theorem RoundTrip.of_legible {Value : Type} {decode : Document → Option Value} {written : Json}
    {value : Value} (legible : written.Legible Document.nestingLimit)
    (reads : ∀ {document : Document}, document.Spells written → decode document = some value) :
    RoundTrip decode written value := by
  have spelling : ∀ text document, Document.ofText? text = some document →
      document.Spells written → readText? decode text = some value := by
    intro text document isRead spells
    unfold readText?
    rw [isRead, Option.bind_some, reads spells]
  constructor
  · exact spelling written.compact (.ofValue written) (Json.ofText?_compact legible)
      (Document.spells_ofValue written legible.canonical)
  · exact spelling

/-! ### Legible forms -/

theorem legible_int64Json (room : Nat) (value : Int64) : (int64Json value).Legible room := by
  have least := Int64.le_toInt value
  have greatest := Int64.toInt_lt value
  apply Json.Legible.ofInt
  · rw [Word.signedBound_eq]
    exact least
  · rw [Word.unsignedBound_eq]
    exact Int.lt_trans greatest (by decide)

theorem legible_uint64Json (room : Nat) (value : UInt64) : (uint64Json value).Legible room := by
  have greatest := UInt64.toNat_lt value
  apply Json.Legible.ofInt
  · rw [Word.signedBound_eq]
    exact Int.le_trans (by decide) (Int.natCast_nonneg _)
  · rw [Word.unsignedBound_eq]
    exact Int.ofNat_lt.mpr greatest

theorem OrderKey.legible_toJson (key : OrderKey) : key.toJson.Legible 1 := by
  apply Json.Legible.object (.of_names ["direction", "field"] rfl (by decide))
  simp [Direction.toJson]

theorem OrderBy.legible_toJson (order : OrderBy) : order.toJson.Legible 2 := by
  apply Json.Legible.array_map
  intro key _
  exact key.legible_toJson

theorem Pageable.legible_toJson (pageable : Pageable) : pageable.toJson.Legible 2 := by
  cases pageable with
  | unpaged => exact .string 2 _
  | paged offset pageSize =>
      have contents : (Json.object [("offset", int64Json offset),
          ("page_size", int64Json pageSize)]).Legible 1 := by
        apply Json.Legible.object (.of_names ["offset", "page_size"] rfl (by decide))
        simp [legible_int64Json]
      apply Json.Legible.object (.of_names ["Paged"] rfl (by decide))
      simp [contents]

theorem Parameter.legible_toJson (parameter : Parameter) : parameter.toJson.Legible 1 := by
  apply Json.Legible.object (.of_names ["index", "name"] rfl (by decide))
  simp [legible_uint64Json]

theorem Method.legible_toJson (method : Method) : method.toJson.Legible 3 := by
  have parameters : (Json.array (method.parameters.map Parameter.toJson)).Legible 2 := by
    apply Json.Legible.array_map
    intro parameter _
    exact parameter.legible_toJson
  apply Json.Legible.object
    (.of_names ["dynamic_projection", "entity_type", "name", "parameters", "returned_type"] rfl
      (by decide))
  simp [RecordType.toJson, parameters]

theorem Part.legible_toJson (part : Part) : part.toJson.Legible 1 := by
  apply Json.Legible.object (.of_names ["operator", "property"] rfl (by decide))
  simp [Operator.toJson]

theorem Branch.legible_toJson (branch : Branch) : branch.toJson.Legible 3 := by
  have parts : (Json.array (branch.parts.map Part.toJson)).Legible 2 := by
    apply Json.Legible.array_map
    intro part _
    exact part.legible_toJson
  apply Json.Legible.object (.of_names ["parts"] rfl (by decide))
  simp [parts]

theorem Intent.legible_toJson (intent : Intent) : intent.toJson.Legible 5 := by
  have tree : (Json.array (intent.tree.map Branch.toJson)).Legible 4 := by
    apply Json.Legible.array_map
    intro branch _
    exact branch.legible_toJson
  have maxResults : (Json.ofOption (intent.maxResults.map uint64Json)).Legible 4 := by
    cases intent.maxResults with
    | none => exact .null 4
    | some maxResults => exact legible_uint64Json 4 maxResults
  have order : intent.order.toJson.Legible 4 := intent.order.legible_toJson.mono (by decide)
  apply Json.Legible.object (.of_names ["distinct", "max_results", "sort", "tree"] rfl (by decide))
  simp [tree, maxResults, order]

theorem Config.legible_toJson (config : Config) : config.toJson.Legible 1 := by
  apply Json.Legible.object (.of_names [keyFieldName, logQueriesName] rfl (by decide))
  simp

/-- Nothing is lost on the wire: operands, qualifiers and criteria are read back as far as their
literals are legible, and everything else whatever it holds. -/
theorem written_forms_are_read_back :
    (∀ operand : Operand, operand.toJson.Legible Document.nestingLimit →
      RoundTrip Operand.ofDocument? operand.toJson operand) ∧
    (∀ qualifier : Qualifier, qualifier.toJson.Legible Document.nestingLimit →
      RoundTrip Qualifier.ofDocument? qualifier.toJson qualifier) ∧
    (∀ criteria : Criteria, criteria.toJson.Legible Document.nestingLimit →
      RoundTrip Criteria.ofDocument? criteria.toJson criteria) ∧
    (∀ order : OrderBy, RoundTrip OrderBy.ofDocument? order.toJson order) ∧
    (∀ pageable : Pageable, RoundTrip Pageable.ofDocument? pageable.toJson pageable) ∧
    (∀ intent : Intent, RoundTrip Intent.ofDocument? intent.toJson intent) ∧
    (∀ method : Method, RoundTrip Method.ofDocument? method.toJson method) ∧
    ∀ config : Config, RoundTrip Config.ofDocument? config.toJson config := by
  refine ⟨?_, ?_, ?_, ?_, ?_, ?_, ?_, ?_⟩
  · intro operand legible
    exact .of_legible legible Operand.ofDocument?_of_spells
  · intro qualifier legible
    exact .of_legible legible qualifier.ofDocument?_of_spells
  · intro criteria legible
    exact .of_legible legible Criteria.ofDocument?_of_spells
  · intro order
    exact .of_legible (order.legible_toJson.mono (by decide)) OrderBy.ofDocument?_of_spells
  · intro pageable
    exact .of_legible (pageable.legible_toJson.mono (by decide)) Pageable.ofDocument?_of_spells
  · intro intent
    exact .of_legible (intent.legible_toJson.mono (by decide)) Intent.ofDocument?_of_spells
  · intro method
    exact .of_legible (method.legible_toJson.mono (by decide)) Method.ofDocument?_of_spells
  · intro config
    exact .of_legible (config.legible_toJson.mono (by decide)) Config.ofDocument?_of_spells

/-- A null literal, a literal that looks like a qualifier, a second operand without a first, and an
empty group are all kept apart. -/
theorem deceptive_group_read_back :
    let literal : Json := .object [("operator", .string "EQ"), ("qualifiers", .array [.ofInt 7])]
    let leaf : Qualifier := .leaf ⟨some "rank", .equal, none, some (.literal .null)⟩
    let empty : Qualifier := .group ⟨none, .between, some (.literal literal), none⟩ []
    let group : Qualifier := .group ⟨none, .or, none, none⟩ [leaf, empty]
    RoundTrip Qualifier.ofDocument? group.toJson group := by
  intro literal leaf empty group
  have seven : (Json.Number.whole 7).ReadsBack :=
    Json.Number.readsBack_whole (by decide) (by decide)
  have legible : group.toJson.Legible Document.nestingLimit := by
    refine ⟨?_, ?_, ?_⟩
    · decide
    · decide
    · simp [group, leaf, empty, literal, Qualifier.toJson, Qualifier.listToJson,
        Qualifier.memberJson, Qualifier.optionalMember, Operator.toJson, Operand.toJson,
        Json.NumbersReadBack, Json.NumbersOfItemsReadBack, Json.NumbersOfMembersReadBack,
        Json.ofInt, seven]
  exact written_forms_are_read_back.2.1 group legible

end KeyedQuery
