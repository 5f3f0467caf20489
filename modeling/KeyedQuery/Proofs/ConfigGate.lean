import KeyedQuery.Proofs.CompactText
import KeyedQuery.Registration
import KeyedQuery.Wire.Config

/-!
Which configurations are accepted.

A configuration has to name a key field: some character of the name can be seen, and the name is not
the one that stands for criteria about no single field. A written configuration and one that is
given to a registration meet the same gate. What a configuration is written as is read back up to
the gate, and no text at all leads past it with another configuration.
-/

set_option autoImplicit false

namespace KeyedQuery

/-! ### The gate -/

namespace Config

/-- Some character of the key field's name can be seen, and the name is not reserved. -/
structure NamesKeyField (config : Config) : Prop where
  visible : ∃ character ∈ config.keyField.toList, Text.isBlank character = false
  unreserved : config.keyField ≠ combinedField

/-- The outcome is as expected of a configuration that names a key field. Any other configuration is
refused, and as an invalid one. -/
structure Gates (config : Config) {Value : Type} (expected : Value → Prop)
    (outcome : Except QueryError Value) : Prop where
  succeeds_iff : (∃ value, outcome = .ok value) ↔ config.NamesKeyField
  expects : ∀ value, outcome = .ok value → expected value
  refuses : ∀ cause, outcome = .error cause → ∃ reason, cause = .invalidConfig reason

theorem isEmpty_trim_iff (name : String) :
    (Text.trim name).isEmpty = true ↔
      ¬ ∃ character ∈ name.toList, Text.isBlank character = false := by
  have trimmed : (Text.trim name).isEmpty = true ↔ Text.trimChars name.toList = [] := by
    unfold Text.trim
    simp
  rw [trimmed, Text.trimChars_eq_nil_iff]
  simp

theorem validate_eq_ok_iff (config : Config) : config.validate = .ok () ↔ config.NamesKeyField := by
  unfold validate
  by_cases blank : (Text.trim config.keyField).isEmpty = true
  · rw [if_pos blank]
    apply iff_of_false
    · intro accepted
      cases accepted
    · intro names
      exact (isEmpty_trim_iff config.keyField).mp blank names.visible
  · rw [if_neg blank]
    rw [isEmpty_trim_iff, Classical.not_not] at blank
    by_cases reserved : config.keyField = combinedField
    · rw [if_pos reserved]
      apply iff_of_false
      · intro accepted
        cases accepted
      · intro names
        exact names.unreserved reserved
    · rw [if_neg reserved]
      exact iff_of_true rfl ⟨blank, reserved⟩

/-- A name is taken with its blanks, so this one is not the reserved name. -/
example : (withKeyField " combined").validate = .ok () :=
  rfl

theorem exists_reason_of_validate {config : Config} {cause : QueryError}
    (refused : config.validate = .error cause) : ∃ reason, cause = .invalidConfig reason := by
  unfold validate at refused
  repeat' split at refused
  all_goals cases refused
  · exact ⟨_, rfl⟩
  · exact ⟨_, rfl⟩

/-- What succeeds with an accepted configuration, and passes the refusal on, has the gate. -/
theorem Gates.of_validate {config : Config} {Value : Type} {expected : Value → Prop}
    {outcome : Except QueryError Value}
    (accepted : config.validate = .ok () → ∃ value, outcome = .ok value ∧ expected value)
    (refused : ∀ cause, config.validate = .error cause → outcome = .error cause) :
    config.Gates expected outcome := by
  cases validated : config.validate with
  | ok _ =>
      obtain ⟨value, succeeds, isExpected⟩ := accepted validated
      have names : config.NamesKeyField := config.validate_eq_ok_iff.mp validated
      subst succeeds
      refine ⟨iff_of_true ⟨value, rfl⟩ names, ?_, ?_⟩
      · intro other same
        cases same
        exact isExpected
      · intro cause same
        cases same
  | error cause =>
      have fails := refused cause validated
      have unnamed : ¬ config.NamesKeyField := by
        rw [← validate_eq_ok_iff, validated]
        intro same
        cases same
      subst fails
      refine ⟨iff_of_false ?_ unnamed, ?_, ?_⟩
      · rintro ⟨value, same⟩
        cases same
      · intro value same
        cases same
      · intro other same
        cases same
        exact exists_reason_of_validate validated

end Config

/-! ### Registrations -/

namespace Registration

variable (method : Method) (intent : Intent) (binder : Binder) {config : Config}

theorem value_register_of_accepted (accepted : config.validate = .ok ()) :
    (register method intent binder config).value =
      .ok ⟨method, intent, binder, parameterContext, config, accepted⟩ := by
  unfold register
  split
  · rename_i refused
    rw [accepted] at refused
    cases refused
  · rfl

theorem value_register_of_refused {cause : QueryError} (refused : config.validate = .error cause) :
    (register method intent binder config).value = .error cause := by
  unfold register
  split
  · rename_i other same
    rw [refused] at same
    cases same
    rfl
  · rename_i accepted
    rw [refused] at accepted
    cases accepted

theorem gates_register (config : Config) :
    config.Gates (fun registration => registration.keyField = config.keyField)
      (register method intent binder config).value := by
  apply Config.Gates.of_validate
  · intro accepted
    exact ⟨_, value_register_of_accepted method intent binder accepted, rfl⟩
  · intro cause refused
    exact value_register_of_refused method intent binder refused

end Registration

/-! ### Written configurations -/

namespace Json

theorem reads_string (text : String) (more : List Char) :
    Reads (readString (text.toList.flatMap escapeChar ++ '"' :: more)) text more := by
  obtain ⟨after, areRead, left⟩ := reads_chars text.toList more
  unfold readString
  rw [areRead]
  refine ⟨after, ?_, left⟩
  change Except.ok (String.ofList text.toList, after) = _
  rw [String.ofList_toList]

end Json

namespace Config

open Json (Reads nextChar nextChar_cons quote escapeChar)

theorem reads_colon (text : List Char) :
    ∃ after, readColon (':' :: text) = .ok after ∧ after.val = text := by
  have noSpace : Json.isSpace ':' = false := by decide
  unfold readColon
  simp only [nextChar_cons noSpace, ↓reduceIte]
  exact ⟨_, rfl, rfl⟩

theorem reads_stringValue (value : String) (more : List Char) :
    Reads (readStringValue ((quote value).toList ++ more)) value more := by
  have noSpace : Json.isSpace '"' = false := by decide
  obtain ⟨after, isRead, left⟩ := Json.reads_string value more
  rw [Json.quote_eq_cons]
  unfold readStringValue
  simp only [nextChar_cons noSpace, ↓reduceIte, isRead]
  exact ⟨_, rfl, left⟩

theorem reads_boolValue (value : Bool) (more : List Char) :
    Reads (readBoolValue ((Json.compact (.bool value)).toList ++ more)) value more := by
  cases value with
  | true =>
      have noSpace : Json.isSpace 't' = false := by decide
      obtain ⟨_, isRead, left⟩ := Json.readWord_append ['r', 'u', 'e'] more
      change Reads (readBoolValue ('t' :: (['r', 'u', 'e'] ++ more))) true more
      unfold readBoolValue
      simp only [nextChar_cons noSpace, ↓reduceIte, isRead]
      exact ⟨_, rfl, left⟩
  | false =>
      have noSpace : Json.isSpace 'f' = false := by decide
      obtain ⟨_, isRead, left⟩ := Json.readWord_append ['a', 'l', 's', 'e'] more
      change Reads (readBoolValue ('f' :: (['a', 'l', 's', 'e'] ++ more))) false more
      unfold readBoolValue
      simp only [nextChar_cons noSpace, Char.reduceEq, ↓reduceIte, isRead]
      exact ⟨_, rfl, left⟩

theorem reads_keyFieldValue (fields : Fields) (missing : fields.keyField = none) (value : String)
    (more : List Char) :
    Reads (readMemberValue fields keyFieldName (':' :: ((quote value).toList ++ more)))
      { fields with keyField := some value } more := by
  obtain ⟨afterColon, colonRead, behindColon⟩ := reads_colon ((quote value).toList ++ more)
  have readsValue := reads_stringValue value more
  rw [← behindColon] at readsValue
  obtain ⟨after, valueRead, left⟩ := readsValue
  unfold readMemberValue
  rw [if_pos rfl, missing, colonRead]
  simp only [Option.isSome_none, Bool.false_eq_true, ↓reduceIte, bind, Except.bind, valueRead]
  exact ⟨_, rfl, left⟩

theorem reads_logQueriesValue (fields : Fields) (missing : fields.logQueries = none) (value : Bool)
    (more : List Char) :
    Reads (readMemberValue fields logQueriesName
      (':' :: ((Json.compact (.bool value)).toList ++ more)))
      { fields with logQueries := some value } more := by
  have otherName : logQueriesName ≠ keyFieldName := by decide
  obtain ⟨afterColon, colonRead, behindColon⟩ :=
    reads_colon ((Json.compact (.bool value)).toList ++ more)
  have readsValue := reads_boolValue value more
  rw [← behindColon] at readsValue
  obtain ⟨after, valueRead, left⟩ := readsValue
  unfold readMemberValue
  rw [if_neg otherName, if_pos rfl, missing, colonRead]
  simp only [Option.isSome_none, Bool.false_eq_true, ↓reduceIte, bind, Except.bind, valueRead]
  exact ⟨_, rfl, left⟩

theorem reads_member {fields read : Fields} {text more : List Char} (key : String)
    (readsValue : Reads (readMemberValue fields key text) read more) :
    Reads (readMember fields (key.toList.flatMap escapeChar ++ '"' :: text)) read more := by
  obtain ⟨afterKey, keyRead, behindKey⟩ := Json.reads_string key text
  rw [← behindKey] at readsValue
  obtain ⟨after, valueRead, left⟩ := readsValue
  unfold readMember
  simp only [keyRead, bind, Except.bind, valueRead]
  exact ⟨_, rfl, left⟩

theorem reads_last_member {fields read : Fields} {text more : List Char}
    (reads : Reads (readMember fields text) read ('}' :: more)) :
    Reads (readMembers fields text) read more := by
  obtain ⟨⟨_, _⟩, isRead, rfl⟩ := reads
  have noSpace : Json.isSpace '}' = false := by decide
  rw [readMembers]
  simp only [isRead, nextChar_cons noSpace, ↓reduceIte]
  exact ⟨_, rfl, rfl⟩

theorem reads_more_members {fields read all : Fields} {text further more : List Char}
    (reads : Reads (readMember fields text) read (',' :: '"' :: further))
    (readsFurther : Reads (readMembers read further) all more) :
    Reads (readMembers fields text) all more := by
  obtain ⟨⟨_, _⟩, isRead, rfl⟩ := reads
  obtain ⟨_, areRead, left⟩ := readsFurther
  have noSpace : Json.isSpace ',' = false := by decide
  have alsoNoSpace : Json.isSpace '"' = false := by decide
  rw [readMembers]
  simp only [isRead, nextChar_cons noSpace, Char.reduceEq, ↓reduceIte, readNextQuote,
    nextChar_cons alsoNoSpace, areRead]
  exact ⟨_, rfl, left⟩

theorem reads_object {fields : Fields} {text more : List Char}
    (reads : Reads (readMembers {} text) fields more) :
    Reads (readFields ('{' :: '"' :: text)) fields more := by
  obtain ⟨_, areRead, left⟩ := reads
  have noSpace : Json.isSpace '{' = false := by decide
  have alsoNoSpace : Json.isSpace '"' = false := by decide
  unfold readFields
  simp only [nextChar_cons noSpace, ↓reduceIte, readObject, nextChar_cons alsoNoSpace,
    Char.reduceEq, areRead]
  exact ⟨_, rfl, left⟩

theorem toList_text (config : Config) :
    config.text.toList =
      '{' :: '"' :: (keyFieldName.toList.flatMap escapeChar ++
        '"' :: ':' :: ((quote config.keyField).toList ++
          ',' :: '"' :: (logQueriesName.toList.flatMap escapeChar ++
            '"' :: ':' :: ((Json.compact (.bool config.logQueries)).toList ++ ['}'])))) := by
  unfold text toJson
  rw [Json.toList_compact_object, Json.compactMembers_eq_map, List.map_cons, List.map_singleton,
    Json.commaText_cons_cons, Json.commaText_singleton, List.append_assoc, List.cons_append,
    Json.toList_member, Json.toList_member]
  rfl

/-- Whatever a configuration holds, it is read back before it comes to the gate. -/
theorem parse_text (config : Config) : parse config.text = .ok config := by
  have second := reads_logQueriesValue { keyField := some config.keyField } rfl config.logQueries
    ['}']
  have first := reads_keyFieldValue {} rfl config.keyField
    (',' :: '"' :: (logQueriesName.toList.flatMap escapeChar ++
      '"' :: ':' :: ((Json.compact (.bool config.logQueries)).toList ++ ['}'])))
  have whole := reads_object (reads_more_members (reads_member _ first)
    (reads_last_member (reads_member _ second)))
  rw [← toList_text] at whole
  obtain ⟨after, areRead, left⟩ := whole
  have ends : (nextChar after.val).isNone = true := by
    rw [left]
    rfl
  unfold parse
  rw [areRead]
  simp only [bind, Except.bind, ends, ↓reduceIte]
  rfl

theorem gates_ofText_text (config : Config) : config.Gates (· = config) (ofText config.text) := by
  apply Gates.of_validate
  · intro accepted
    refine ⟨config, ?_, rfl⟩
    unfold ofText
    rw [parse_text]
    simp only [accepted]
  · intro cause refused
    unfold ofText
    rw [parse_text]
    simp only [refused]

theorem ofText_cases (text : String) :
    (∃ config, ofText text = .ok config ∧ config.validate = .ok ()) ∨
      ∃ reason, ofText text = .error (.invalidConfig reason) := by
  unfold ofText
  cases parse text with
  | error cause => exact .inr ⟨_, rfl⟩
  | ok config =>
      cases validated : config.validate with
      | ok _ => exact .inl ⟨config, by simp only [validated], validated⟩
      | error cause =>
          obtain ⟨reason, rfl⟩ := exists_reason_of_validate validated
          exact .inr ⟨reason, by simp only [validated]⟩

end Config

/-- A configuration comes through each of the three doors just when it names a key field: it is read
back from its own text, and methods are registered with its key field. Nothing but an accepted
configuration comes out of any text. -/
theorem every_door_has_the_gate :
    (∀ (config : Config) (method : Method) (intent : Intent) (read : Method → Intent)
        (binder : Binder),
      config.Gates (· = config) (Config.ofText config.text) ∧
      config.Gates (fun registration => registration.keyField = config.keyField)
        (Registration.register method intent binder config).value ∧
      config.Gates (fun registration => registration.keyField = config.keyField)
        (Registration.registerParsed method read binder config).value) ∧
    ∀ text : String,
      (∃ config, Config.ofText text = .ok config ∧ config.validate = .ok ()) ∨
        ∃ reason, Config.ofText text = .error (.invalidConfig reason) := by
  constructor
  · intro config method intent read binder
    refine ⟨config.gates_ofText_text, ?_, ?_⟩
    · exact Registration.gates_register method intent binder config
    · exact Registration.gates_register method (read method) binder config
  · exact Config.ofText_cases

end KeyedQuery
