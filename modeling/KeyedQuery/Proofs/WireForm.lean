import KeyedQuery.Proofs.Spelling
import KeyedQuery.Wire.Config
import KeyedQuery.Wire.Method

/-!
The JSON forms lose nothing.

Every spelling of what `toJson` writes is read by `ofDocument?` as the value that was written. What
a qualifier leaves out is read as absent, a group without members stays a group, and a literal is
the value that stands under its name, be that a null or the form of another qualifier.
-/

set_option autoImplicit false

namespace KeyedQuery

open Json (Document)
open Json.Document (FieldList Spells)

/-! ### Records -/

namespace Json.Document

variable {Value Result : Type} {members : List (String × Json)} {name : String}
  {decode : Document → Option Value} {result : Result} {fields : FieldList}

theorem Spells.record?_bind_eq_some {document : Document} {names : List String} {needed : Nat}
    {next : FieldList → Option Result} (spells : document.Spells (.object members))
    (areKnown : ∀ name ∈ members.map Prod.fst, name ∈ names)
    (rest : ∀ fields : FieldList, fields.Spell members → next fields = some result) :
    (document.record? names needed >>= next) = some result := by
  obtain ⟨fields, isRecord, spell⟩ := exists_record_of_spells spells areKnown needed
  rw [isRecord]
  exact rest fields spell

theorem FieldList.Spell.exists_of_lookup {json : Json} (spell : fields.Spell members)
    (found : members.lookup name = some json) :
    ∃ document, fields.lookup name = some document ∧ document.Spells json := by
  have related := spell name
  rw [found] at related
  generalize fields.lookup name = field at related
  cases related with
  | some spells => exact ⟨_, rfl, spells⟩

theorem FieldList.Spell.lookup_eq_none (spell : fields.Spell members)
    (absent : members.lookup name = none) : fields.lookup name = none := by
  have related := spell name
  rw [absent] at related
  generalize fields.lookup name = field at related
  cases related with
  | none => rfl

/-- Where a field is read as it was written, only the rest has to be. -/
theorem FieldList.Spell.required?_bind_eq_some {next : Value → Option Result} {json : Json}
    {value : Value} (spell : fields.Spell members) (found : members.lookup name = some json)
    (reads : ∀ {document : Document}, document.Spells json → decode document = some value)
    (rest : next value = some result) :
    (fields.required? name decode >>= next) = some result := by
  obtain ⟨document, foundField, spells⟩ := spell.exists_of_lookup found
  unfold FieldList.required?
  rw [foundField, Option.bind_some, reads spells]
  exact rest

theorem FieldList.Spell.defaulted?_bind_eq_some {next : Value → Option Result} {json : Json}
    {value default : Value} (spell : fields.Spell members)
    (found : members.lookup name = some json)
    (reads : ∀ {document : Document}, document.Spells json → decode document = some value)
    (rest : next value = some result) :
    (fields.defaulted? name default decode >>= next) = some result := by
  obtain ⟨document, foundField, spells⟩ := spell.exists_of_lookup found
  unfold FieldList.defaulted?
  rw [foundField]
  dsimp only
  rw [reads spells]
  exact rest

/-- A field that may be left out is read as it was written. What is absent may also be written as
a null, and nothing that is present is. -/
theorem FieldList.Spell.optional?_bind_eq_some {next : Option Value → Option Result}
    {write : Value → Json} {value : Option Value} (spell : fields.Spell members)
    (found : (members.lookup name).getD .null = .ofOption (value.map write))
    (notNull : ∀ present, write present ≠ .null)
    (reads : ∀ present ∈ value, ∀ {document : Document}, document.Spells (write present) →
      decode document = some present)
    (rest : next value = some result) :
    (fields.optional? name decode >>= next) = some result := by
  have isRead : fields.optional? name decode = some value := by
    cases written : members.lookup name with
    | none =>
        rw [optional?_of_absent (spell.lookup_eq_none written)]
        cases value with
        | none => rfl
        | some present =>
            rw [written] at found
            exact absurd found.symm (notNull present)
    | some json =>
        obtain ⟨document, foundField, spells⟩ := spell.exists_of_lookup written
        rw [written] at found
        cases value with
        | none =>
            have isNull : json = .null := found
            subst isNull
            rw [spells.eq_ofValue rfl (by simp)] at foundField
            rw [optional?_of_null foundField]
        | some present =>
            have isPresent : json = write present := found
            subst isPresent
            have notNullField : document ≠ .null := by
              intro isNull
              subst isNull
              exact notNull present (Option.some.inj spells.value).symm
            rw [optional?_of_found foundField notNullField, reads present rfl spells,
              Option.map_some]
  rw [isRead]
  exact rest

/-! ### Scalars -/

variable {document : Document}

theorem Spells.string? {text : String} (spells : document.Spells (.string text)) :
    document.string? = some text := by
  rw [spells.eq_ofValue rfl (by simp)]
  rfl

theorem Spells.choice? {text : String} (spells : document.Spells (.string text)) :
    document.choice? = some text := by
  rw [spells.eq_ofValue rfl (by simp)]
  rfl

theorem Spells.bool? {value : Bool} (spells : document.Spells (.bool value)) :
    document.bool? = some value := by
  rw [spells.eq_ofValue rfl (by simp)]
  rfl

theorem Spells.int64? {value : Int64} (spells : document.Spells (int64Json value)) :
    document.int64? = some value := by
  have within : -Int.ofNat Word.signedBound ≤ value.toInt ∧
      value.toInt < Int.ofNat Word.signedBound := by
    rw [Word.signedBound_eq]
    exact ⟨Int64.le_toInt value, Int64.toInt_lt value⟩
  rw [spells.eq_ofValue rfl (by simp [int64Json, Json.ofInt])]
  change Word.signed? value.toInt = some value
  unfold Word.signed?
  rw [if_pos within, Int64.ofInt_toInt]

theorem Spells.uint64? {value : UInt64} (spells : document.Spells (uint64Json value)) :
    document.uint64? = some value := by
  have within : 0 ≤ Int.ofNat value.toNat ∧
      Int.ofNat value.toNat < Int.ofNat Word.unsignedBound := by
    rw [Word.unsignedBound_eq]
    exact ⟨Int.natCast_nonneg _, Int.ofNat_lt.mpr (UInt64.toNat_lt value)⟩
  rw [spells.eq_ofValue rfl (by simp [uint64Json, Json.ofNat, Json.ofInt])]
  change Word.unsigned? (Int.ofNat value.toNat) = some value
  unfold Word.unsigned?
  rw [if_pos within]
  exact congrArg some UInt64.ofNat_toNat

end Json.Document

/-! ### Orders and pages -/

variable {document : Document}

theorem Operator.ofDocument?_of_spells {operator : Operator}
    (spells : document.Spells operator.toJson) :
    Operator.ofDocument? document = some operator := by
  unfold ofDocument?
  rw [spells.choice?, Option.bind_some, ofWireName?_wireName]

theorem Direction.ofDocument?_of_spells {direction : Direction}
    (spells : document.Spells direction.toJson) :
    Direction.ofDocument? document = some direction := by
  unfold ofDocument?
  rw [spells.choice?]
  cases direction <;> rfl

theorem OrderKey.ofDocument?_of_spells {key : OrderKey} (spells : document.Spells key.toJson) :
    OrderKey.ofDocument? document = some key := by
  unfold ofDocument?
  refine spells.record?_bind_eq_some (by simp) ?_
  intro fields spell
  refine spell.required?_bind_eq_some rfl Spells.string? ?_
  exact spell.required?_bind_eq_some rfl Direction.ofDocument?_of_spells rfl

theorem OrderBy.ofDocument?_of_spells {order : OrderBy} (spells : document.Spells order.toJson) :
    OrderBy.ofDocument? document = some order := by
  unfold ofDocument?
  rw [spells.list? fun key _ _ => OrderKey.ofDocument?_of_spells]
  rfl

theorem Pageable.ofDocument?_of_spells {pageable : Pageable}
    (spells : document.Spells pageable.toJson) :
    Pageable.ofDocument? document = some pageable := by
  cases pageable with
  | unpaged =>
      rw [spells.eq_ofValue rfl (by simp [toJson])]
      rfl
  | paged offset pageSize =>
      obtain ⟨contents, isObject, contentsSpell⟩ := Document.exists_member_of_spells spells
      subst isObject
      change ofContents? contents = _
      unfold ofContents?
      refine contentsSpell.record?_bind_eq_some (by simp) ?_
      intro fields spell
      refine spell.required?_bind_eq_some rfl Spells.int64? ?_
      exact spell.required?_bind_eq_some rfl Spells.int64? rfl

/-! ### Methods and intents -/

theorem RecordType.ofDocument?_of_spells {type : RecordType}
    (spells : document.Spells type.toJson) :
    RecordType.ofDocument? document = some type := by
  unfold ofDocument?
  rw [spells.string?]
  rfl

theorem Parameter.ofDocument?_of_spells {parameter : Parameter}
    (spells : document.Spells parameter.toJson) :
    Parameter.ofDocument? document = some parameter := by
  unfold ofDocument?
  refine spells.record?_bind_eq_some (by simp) ?_
  intro fields spell
  refine spell.required?_bind_eq_some rfl Spells.string? ?_
  exact spell.required?_bind_eq_some rfl Spells.uint64? rfl

theorem Method.ofDocument?_of_spells {method : Method} (spells : document.Spells method.toJson) :
    Method.ofDocument? document = some method := by
  have readsParameters {other : Document}
      (spelled : other.Spells (.array (method.parameters.map Parameter.toJson))) :
      other.list? Parameter.ofDocument? = some method.parameters :=
    spelled.list? fun parameter _ _ => Parameter.ofDocument?_of_spells
  unfold ofDocument?
  refine spells.record?_bind_eq_some (by simp [memberNames]) ?_
  intro fields spell
  refine spell.required?_bind_eq_some rfl Spells.string? ?_
  refine spell.required?_bind_eq_some rfl RecordType.ofDocument?_of_spells ?_
  refine spell.required?_bind_eq_some rfl RecordType.ofDocument?_of_spells ?_
  refine spell.required?_bind_eq_some rfl readsParameters ?_
  exact spell.required?_bind_eq_some rfl Spells.bool? rfl

theorem Part.ofDocument?_of_spells {part : Part} (spells : document.Spells part.toJson) :
    Part.ofDocument? document = some part := by
  unfold ofDocument?
  refine spells.record?_bind_eq_some (by simp) ?_
  intro fields spell
  refine spell.required?_bind_eq_some rfl Spells.string? ?_
  exact spell.required?_bind_eq_some rfl Operator.ofDocument?_of_spells rfl

theorem Branch.ofDocument?_of_spells {branch : Branch} (spells : document.Spells branch.toJson) :
    Branch.ofDocument? document = some branch := by
  have readsParts {other : Document}
      (spelled : other.Spells (.array (branch.parts.map Part.toJson))) :
      other.list? Part.ofDocument? = some branch.parts :=
    spelled.list? fun part _ _ => Part.ofDocument?_of_spells
  unfold ofDocument?
  refine spells.record?_bind_eq_some (by simp) ?_
  intro fields spell
  exact spell.required?_bind_eq_some rfl readsParts rfl

theorem Intent.ofDocument?_of_spells {intent : Intent} (spells : document.Spells intent.toJson) :
    Intent.ofDocument? document = some intent := by
  have readsTree {other : Document}
      (spelled : other.Spells (.array (intent.tree.map Branch.toJson))) :
      other.list? Branch.ofDocument? = some intent.tree :=
    spelled.list? fun branch _ _ => Branch.ofDocument?_of_spells
  unfold ofDocument?
  refine spells.record?_bind_eq_some (by simp [memberNames]) ?_
  intro fields spell
  refine spell.required?_bind_eq_some rfl readsTree ?_
  refine spell.required?_bind_eq_some rfl Spells.bool? ?_
  refine spell.optional?_bind_eq_some rfl (by simp [uint64Json, Json.ofNat, Json.ofInt])
    (fun _ _ _ => Spells.uint64?) ?_
  exact spell.required?_bind_eq_some rfl OrderBy.ofDocument?_of_spells rfl

theorem Config.ofDocument?_of_spells {config : Config} (spells : document.Spells config.toJson) :
    Config.ofDocument? document = some config := by
  unfold ofDocument?
  refine spells.record?_bind_eq_some (by simp) ?_
  intro fields spell
  refine spell.defaulted?_bind_eq_some rfl Spells.string? ?_
  exact spell.defaulted?_bind_eq_some rfl Spells.bool? rfl

/-! ### Operands -/

theorem Operand.ofDocument?_of_contents {kind : String} {contents : Json} {operand : Operand}
    (spells : document.Spells (.object [(kindName, .string kind), (contentsName, contents)]))
    (reads : ∀ {other : Document}, other.Spells contents → ofContents? kind other = some operand) :
    Operand.ofDocument? document = some operand := by
  obtain ⟨_, isObject, _⟩ := Document.exists_object_of_spells spells
  rw [isObject, ofDocument?_object, ← isObject]
  refine spells.record?_bind_eq_some (by simp [memberNames]) ?_
  intro fields spell
  have isWritten : [(kindName, Json.string kind), (contentsName, contents)].lookup contentsName =
      some contents := rfl
  obtain ⟨other, found, contentsSpell⟩ := spell.exists_of_lookup isWritten
  refine spell.required?_bind_eq_some rfl Spells.choice? ?_
  rw [found]
  exact reads contentsSpell

theorem Operand.ofDocument?_of_spells {operand : Operand}
    (spells : document.Spells operand.toJson) :
    Operand.ofDocument? document = some operand := by
  cases operand with
  | literal value =>
      apply ofDocument?_of_contents spells
      intro other contentsSpell
      unfold ofContents?
      rw [if_pos rfl, contentsSpell.value, Option.map_some]
  | expression source =>
      apply ofDocument?_of_contents spells
      intro other contentsSpell
      unfold ofContents?
      rw [if_neg (by decide), if_pos rfl, contentsSpell.string?, Option.map_some]

/-! ### Qualifiers -/

namespace Qualifier

/-- The members that a qualifier is written with. -/
def writtenMembers (condition : Condition) (nested : Option (List Json)) : List (String × Json) :=
  optionalMember "field" (condition.field.map .string) ++
    [("operator", condition.operator.toJson)] ++
    optionalMember "qualifiers" (nested.map .array) ++
    optionalMember "value1" (condition.value1.map Operand.toJson) ++
    optionalMember "value2" (condition.value2.map Operand.toJson)

theorem memberJson_eq (condition : Condition) (nested : Option (List Json)) :
    memberJson condition nested = .object (writtenMembers condition nested) := rfl

theorem lookup_optionalMember (name wanted : String) (value : Option Json) :
    (optionalMember name value).lookup wanted = if wanted = name then value else none := by
  cases value with
  | none => simp [optionalMember]
  | some json => exact lookup_entry_cons wanted (name, json) []

variable (condition : Condition) (nested : Option (List Json))

/-- What is found among the members under a name. -/
theorem lookup_writtenMembers (wanted : String) :
    (writtenMembers condition nested).lookup wanted =
      if wanted = "field" then condition.field.map .string
      else if wanted = "operator" then some condition.operator.toJson
      else if wanted = "qualifiers" then nested.map .array
      else if wanted = "value1" then condition.value1.map Operand.toJson
      else if wanted = "value2" then condition.value2.map Operand.toJson
      else none := by
  unfold writtenMembers
  simp only [List.lookup_append, lookup_optionalMember, lookup_entry_cons, List.lookup_nil]
  split
  · rename_i isField
    subst isField
    simp
  split
  · rename_i isOperator
    subst isOperator
    simp
  split
  · rename_i areQualifiers
    subst areQualifiers
    simp
  split
  · rename_i isValue1
    subst isValue1
    simp
  · rfl

theorem names_writtenMembers :
    ∀ name ∈ (writtenMembers condition nested).map Prod.fst, name ∈ memberNames := by
  intro name written
  by_cases known : name ∈ memberNames
  · exact known
  · have absent : (writtenMembers condition nested).lookup name = none := by
      simp only [memberNames, List.mem_cons, List.not_mem_nil, or_false, not_or] at known
      obtain ⟨notField, notOperator, notValue1, notValue2, notQualifiers⟩ := known
      rw [lookup_writtenMembers, if_neg notField, if_neg notOperator, if_neg notQualifiers,
        if_neg notValue1, if_neg notValue2]
    obtain ⟨member, isMember, isName⟩ := List.mem_map.mp written
    have different := List.lookup_eq_none_iff.mp absent member isMember
    rw [isName, bne_self_eq_false] at different
    cases different

variable {condition : Condition}

/-- A written condition is read again, whatever is nested beside it. -/
theorem conditionOfFields?_of_spell {nested : Option (List Json)} {fields : FieldList}
    (spell : fields.Spell (writtenMembers condition nested)) :
    conditionOfFields? fields = some condition := by
  have found := lookup_writtenMembers condition nested
  have notNull (operand : Operand) : operand.toJson ≠ .null := by
    cases operand <;> simp [Operand.toJson]
  unfold conditionOfFields?
  refine spell.optional?_bind_eq_some (by rw [found]; rfl) (by simp)
    (fun _ _ _ => Spells.string?) ?_
  refine spell.required?_bind_eq_some (found "operator") Operator.ofDocument?_of_spells ?_
  refine spell.optional?_bind_eq_some (by rw [found]; rfl) notNull
    (fun _ _ _ => Operand.ofDocument?_of_spells) ?_
  exact spell.optional?_bind_eq_some (by rw [found]; rfl) notNull
    (fun _ _ _ => Operand.ofDocument?_of_spells) rfl

theorem ofDocument?_of_spells_memberJson {nested : Option (List Qualifier)}
    (spells : document.Spells (memberJson condition (nested.map listToJson)))
    (readsNested : ∀ qualifiers ∈ nested, ∀ {other : Document},
      other.Spells (.array (listToJson qualifiers)) →
        other.list? ofDocument? = some qualifiers) :
    ofDocument? document = some (ofParts condition nested) := by
  have found := lookup_writtenMembers condition (nested.map listToJson) "qualifiers"
  rw [memberJson_eq] at spells
  rw [ofDocument?_eq]
  refine spells.record?_bind_eq_some (names_writtenMembers _ _) ?_
  intro fields spell
  unfold ofFields?
  rw [conditionOfFields?_of_spell spell, Option.bind_eq_bind, Option.bind_some]
  refine spell.optional?_bind_eq_some ?_ (by simp) readsNested rfl
  rw [found]
  cases nested <;> rfl

theorem listToJson_eq_map (qualifiers : List Qualifier) :
    listToJson qualifiers = qualifiers.map toJson := by
  induction qualifiers with
  | nil => rfl
  | cons head tail ih =>
      unfold listToJson
      rw [ih, List.map_cons]

mutual

theorem ofDocument?_of_spells (qualifier : Qualifier) {document : Document}
    (spells : document.Spells qualifier.toJson) : ofDocument? document = some qualifier := by
  match qualifier with
  | .leaf condition =>
      exact @ofDocument?_of_spells_memberJson document condition none spells
        fun _ absent => nomatch absent
  | .group head nested =>
      refine @ofDocument?_of_spells_memberJson document head (some nested) spells ?_
      intro qualifiers isNested other spelled
      cases isNested
      rw [listToJson_eq_map] at spelled
      exact spelled.list? (ofDocument?_of_spells_nested nested)

theorem ofDocument?_of_spells_nested (qualifiers : List Qualifier) :
    ∀ qualifier ∈ qualifiers, ∀ {document : Document}, document.Spells qualifier.toJson →
      ofDocument? document = some qualifier := by
  match qualifiers with
  | [] => exact fun _ member => nomatch member
  | head :: tail =>
      rw [List.forall_mem_cons]
      exact ⟨ofDocument?_of_spells head, ofDocument?_of_spells_nested tail⟩

end

end Qualifier

theorem Criteria.ofDocument?_of_spells {criteria : Criteria}
    (spells : document.Spells criteria.toJson) :
    Criteria.ofDocument? document = some criteria := by
  unfold ofDocument?
  rw [Qualifier.ofDocument?_of_spells criteria.root spells]
  rfl

end KeyedQuery
