import Legality.Proofs.Data.Reading
import Legality.Proofs.Text.Basic
import Legality.Wire.Progression

/-!
The two readers of intents. One explains what is wrong with a record and trims the id, the other takes an intent as it
is written; they accept the same records, apart from blank ids, and what the one refuses it refuses for a field that is
missing or is no text.
-/
namespace Legality

inductive TextFault (fields : List (String × Value)) (name : String) : StructureError → Prop
  | missing (absent : Value.field? fields name = none) : TextFault fields name (.missingField name)
  | null (null : Value.field? fields name = some .null) : TextFault fields name (.missingField name)
  | mistyped {value : Value} (found : Value.field? fields name = some value) (present : value ≠ .null)
      (other : value.text? = none) : TextFault fields name (.wrongType name "string")

/-- What is wrong with a field that should hold an id. -/
inductive IdFault (fields : List (String × Value)) (name : String) : StructureError → Prop
  | unreadable {fault : StructureError} (unreadable : TextFault fields name fault) : IdFault fields name fault
  | blank {content : String} (found : Value.field? fields name = some (.text content))
      (blank : Text.isBlankText content = true) : IdFault fields name (.missingField name)

theorem IdFault.shape {fields : List (String × Value)} {name : String} {fault : StructureError}
    (wrong : IdFault fields name fault) : fault = .missingField name ∨ fault = .wrongType name "string" := by
  cases wrong with
  | unreadable unreadable =>
    cases unreadable with
    | missing | null => exact .inl rfl
    | mistyped => exact .inr rfl
  | blank => exact .inl rfl

namespace Intent

def withSubject : Intent → String → Intent
  | chooseTalent _ => chooseTalent
  | chooseFeat _ => chooseFeat
  | chooseSkill _ => chooseSkill
  | levelUp _ => levelUp

def trimmed (intent : Intent) : Intent := intent.withSubject (Text.trim intent.subject)

@[simp] theorem kind_withSubject (intent : Intent) (id : String) : (intent.withSubject id).kind = intent.kind := by
  cases intent <;> rfl

@[simp] theorem subject_withSubject (intent : Intent) (id : String) : (intent.withSubject id).subject = id := by
  cases intent <;> rfl

@[simp] theorem subjectField_withSubject (intent : Intent) (id : String) :
    (intent.withSubject id).subjectField = intent.subjectField := by
  cases intent <;> rfl

@[simp] theorem withSubject_withSubject (intent : Intent) (id other : String) :
    (intent.withSubject id).withSubject other = intent.withSubject other := by
  cases intent <;> rfl

variable {fields : List (String × Value)} {name : String}

theorem text_unique {content other : String} (found : Value.field? fields name = some (.text content))
    (again : Value.field? fields name = some (.text other)) : content = other :=
  Value.text.inj (Option.some.inj (found.symm.trans again))

theorem mem_kinds_iff {kind : String} : kind ∈ kinds ↔ ∃ intent : Intent, intent.kind = kind := by
  constructor
  · intro member
    simp only [kinds, List.mem_cons, List.not_mem_nil, or_false] at member
    rcases member with rfl | rfl | rfl | rfl
    · exact ⟨chooseTalent "", rfl⟩
    · exact ⟨chooseFeat "", rfl⟩
    · exact ⟨chooseSkill "", rfl⟩
    · exact ⟨levelUp "", rfl⟩
  · rintro ⟨intent, rfl⟩
    cases intent <;> simp [kinds, Intent.kind]

theorem textField_ok_iff {content : String} :
    textField fields name = .ok content ↔ Value.field? fields name = some (.text content) := by
  rw [textField]
  cases Value.field? fields name with
  | none => simp
  | some value => cases value <;> simp

theorem textField_error_iff {fault : StructureError} :
    textField fields name = .error fault ↔ TextFault fields name fault := by
  constructor
  · intro refused
    rw [textField] at refused
    split at refused
    next absent => exact Except.error.inj refused ▸ .missing absent
    next null => exact Except.error.inj refused ▸ .null null
    next content text => contradiction
    next value present notText found =>
      refine Except.error.inj refused ▸ .mistyped found present ?_
      cases value with
      | text content => exact absurd rfl (notText content)
      | null | bool flag | int number | decimal digits | list items | record inner => rfl
  · intro wrong
    cases wrong with
    | missing absent => rw [textField, absent]
    | null null => rw [textField, null]
    | @mistyped value found present other =>
      rw [textField, found]
      cases value with
      | null => exact absurd rfl present
      | text content => contradiction
      | bool flag | int number | decimal digits | list items | record inner => rfl

theorem idField_ok_iff {id : String} : idField fields name = .ok id ↔
    ∃ content, Value.field? fields name = some (.text content) ∧ Text.isBlankText content = false ∧
      id = Text.trim content := by
  rw [idField]
  cases read : textField fields name with
  | error fault =>
    have absent (content : String) : Value.field? fields name ≠ some (.text content) := by
      rw [Ne, ← textField_ok_iff, read]
      exact nofun
    simp [absent]
  | ok content =>
    simp only [textField_ok_iff.mp read, Text.trim_isEmpty]
    cases blank : Text.isBlankText content with
    | true => simp [blank]
    | false =>
      rw [if_neg Bool.false_ne_true]
      constructor
      · intro accepted
        exact ⟨content, rfl, blank, (Except.ok.inj accepted).symm⟩
      · rintro ⟨other, same, -, rfl⟩
        rw [Value.text.inj (Option.some.inj same)]

theorem idField_error_iff {fault : StructureError} :
    idField fields name = .error fault ↔ IdFault fields name fault := by
  constructor
  · intro refused
    rw [idField] at refused
    split at refused
    next unreadable => exact Except.error.inj refused ▸ .unreadable (textField_error_iff.mp unreadable)
    next content read =>
      rw [Text.trim_isEmpty] at refused
      split at refused
      next blank => exact Except.error.inj refused ▸ .blank (textField_ok_iff.mp read) blank
      next solid => contradiction
  · intro wrong
    cases wrong with
    | unreadable unreadable => rw [idField, textField_error_iff.mpr unreadable]
    | @blank content found blank => simp only [idField, textField_ok_iff.mpr found, Text.trim_isEmpty, if_pos blank]

theorem explain_of_kind {intent : Intent} (typed : Value.field? fields "type" = some (.text intent.kind)) :
    explain (.record fields) = withId intent.withSubject fields intent.subjectField := by
  cases intent <;> simp [explain, textField, typed, kind, subjectField, withSubject]

theorem explain_of_unknown {kind : String} (typed : Value.field? fields "type" = some (.text kind))
    (unknown : kind ∉ kinds) : explain (.record fields) = .error (.unknownIntent kind) := by
  simp only [kinds, List.mem_cons, List.not_mem_nil, or_false, not_or] at unknown
  simp [explain, textField, typed, unknown]

theorem ofValue?_of_kind {intent : Intent} (typed : Value.field? fields "type" = some (.text intent.kind)) :
    ofValue? .json (.record fields) =
      ((Value.field? fields intent.subjectField).bind Value.text?).map intent.withSubject := by
  have known : intent.kind ∈ kinds := mem_kinds_iff.mpr ⟨intent, rfl⟩
  simp only [ofValue?, Tagged.ofValue?, typed, Option.map_some, Option.bind_eq_bind, Option.bind_some,
    Tagged.alternative?_text known, Tagged.fits, if_true]
  cases intent <;> simp [ofFields?, kind, subjectField, withSubject, Fields.required_named]

theorem ofValue?_of_unknown {kind : String} (typed : Value.field? fields "type" = some (.text kind))
    (unknown : kind ∉ kinds) : ofValue? .json (.record fields) = none := by
  have absent : ¬kinds.contains kind = true := fun known => unknown (List.contains_iff_mem.mp known)
  simp only [ofValue?, Tagged.ofValue?, typed, Option.map_some, Option.bind_eq_bind, Option.bind_some,
    Tagged.alternative?, if_neg absent, Option.bind_none]

theorem ofValue?_of_untyped {fault : StructureError} (wrong : TextFault fields "type" fault) :
    ofValue? .json (.record fields) = none := by
  rw [ofValue?, Tagged.ofValue?]
  cases wrong with
  | missing absent => rw [absent]; rfl
  | null null => rw [null]; rfl
  | @mistyped value found present other =>
    rw [found]
    cases value with
    | text kind => contradiction
    | null | bool flag | int number | decimal digits | list items | record inner => rfl

/-- What the two readers make of a record. -/
inductive Readings (fields : List (String × Value)) : Except CompileError Intent → Option Intent → Prop
  | untyped {fault : StructureError} (wrong : TextFault fields "type" fault) :
      Readings fields (.error (.malformed fault)) none
  | unknown {kind : String} (typed : Value.field? fields "type" = some (.text kind)) (unknown : kind ∉ kinds) :
      Readings fields (.error (.unknownIntent kind)) none
  | faulty {intent : Intent} {fault : StructureError} {read? : Option Intent}
      (typed : Value.field? fields "type" = some (.text intent.kind)) (wrong : IdFault fields intent.subjectField fault)
      (blank : ∀ read ∈ read?, Text.isBlankText read.subject = true) :
      Readings fields (.error (.malformed fault)) read?
  | read {intent : Intent} (typed : Value.field? fields "type" = some (.text intent.kind))
      (found : Value.field? fields intent.subjectField = some (.text intent.subject))
      (solid : Text.isBlankText intent.subject = false) : Readings fields (.ok intent.trimmed) (some intent)

theorem readings_of_kind {intent : Intent} (typed : Value.field? fields "type" = some (.text intent.kind)) :
    Readings fields (explain (.record fields)) (ofValue? .json (.record fields)) := by
  rw [explain_of_kind typed, ofValue?_of_kind typed, withId]
  cases read : idField fields intent.subjectField with
  | ok id =>
    obtain ⟨content, found, solid, rfl⟩ := idField_ok_iff.mp read
    have reading : Readings fields (.ok (intent.withSubject content).trimmed) (some (intent.withSubject content)) :=
      .read (by simpa using typed) (by simpa using found) (by simpa using solid)
    rw [found]
    simpa [trimmed, Value.text?] using reading
  | error fault =>
    have wrong := idField_error_iff.mp read
    refine .faulty typed wrong ?_
    intro typedRead member
    obtain ⟨content, text, rfl⟩ := Option.map_eq_some_iff.mp member
    by_contra solid
    rw [subject_withSubject, Bool.not_eq_true] at solid
    have accepted := idField_ok_iff.mpr ⟨content, Value.bind_text?_eq_some_iff.mp text, solid, rfl⟩
    rw [read] at accepted
    contradiction

theorem readings (fields : List (String × Value)) :
    Readings fields (explain (.record fields)) (ofValue? .json (.record fields)) := by
  cases read : textField fields "type" with
  | ok kind =>
    have typed := textField_ok_iff.mp read
    by_cases known : kind ∈ kinds
    · obtain ⟨intent, rfl⟩ := mem_kinds_iff.mp known
      exact readings_of_kind typed
    · rw [explain_of_unknown typed known, ofValue?_of_unknown typed known]
      exact .unknown typed known
  | error fault =>
    have wrong := textField_error_iff.mp read
    rw [ofValue?_of_untyped wrong, explain, read]
    exact .untyped wrong

theorem subjectField_of_kind {intent other : Intent} (same : intent.kind = other.kind) :
    intent.subjectField = other.subjectField := by
  cases intent <;> cases other <;> simp_all [kind, subjectField]

theorem not_text_of_textFault {fault : StructureError} {content : String} (wrong : TextFault fields name fault) :
    Value.field? fields name ≠ some (.text content) := by
  intro found
  have read := textField_ok_iff.mpr found
  rw [textField_error_iff.mpr wrong] at read
  contradiction

namespace Readings

variable {explained : Except CompileError Intent} {read? : Option Intent}

theorem ok_iff (readings : Readings fields explained read?) {intent : Intent} : explained = .ok intent ↔
    ∃ read, read? = some read ∧ Text.isBlankText read.subject = false ∧ intent = read.trimmed := by
  cases readings with
  | untyped wrong | unknown typed unknown => simp
  | faulty typed wrong blank =>
    refine ⟨nofun, ?_⟩
    rintro ⟨read, isRead, solid, -⟩
    rw [blank read isRead] at solid
    contradiction
  | @read read typed found solid =>
    constructor
    · intro accepted
      exact ⟨read, rfl, solid, (Except.ok.inj accepted).symm⟩
    · rintro ⟨other, same, -, rfl⟩
      rw [Option.some.inj same]

theorem unknown_iff (readings : Readings fields explained read?) {kind : String} :
    explained = .error (.unknownIntent kind) ↔
      Value.field? fields "type" = some (.text kind) ∧ kind ∉ kinds := by
  have known {intent : Intent} (typed : Value.field? fields "type" = some (.text intent.kind)) :
      ¬(Value.field? fields "type" = some (.text kind) ∧ kind ∉ kinds) := by
    rintro ⟨same, unknown⟩
    exact unknown (mem_kinds_iff.mpr ⟨intent, text_unique typed same⟩)
  cases readings with
  | untyped wrong => simp [not_text_of_textFault wrong]
  | unknown typed unknown =>
    constructor
    · intro same
      obtain rfl := CompileError.unknownIntent.inj (Except.error.inj same)
      exact ⟨typed, unknown⟩
    · rintro ⟨same, -⟩
      rw [text_unique typed same]
  | faulty typed wrong blank => exact iff_of_false nofun (known typed)
  | read typed found solid => exact iff_of_false nofun (known typed)

theorem malformed_iff (readings : Readings fields explained read?) {fault : StructureError} :
    explained = .error (.malformed fault) ↔ TextFault fields "type" fault ∨
      ∃ intent : Intent, Value.field? fields "type" = some (.text intent.kind) ∧
        IdFault fields intent.subjectField fault := by
  have ofKind {intent : Intent} (typed : Value.field? fields "type" = some (.text intent.kind)) :
      (TextFault fields "type" fault ∨ ∃ other : Intent, Value.field? fields "type" = some (.text other.kind) ∧
        IdFault fields other.subjectField fault) ↔ IdFault fields intent.subjectField fault := by
    constructor
    · rintro (wrong | ⟨other, same, wrong⟩)
      · exact absurd typed (not_text_of_textFault wrong)
      · rwa [subjectField_of_kind (text_unique typed same)]
    · exact fun wrong => .inr ⟨intent, typed, wrong⟩
  cases readings with
  | untyped wrong =>
    simp only [not_text_of_textFault wrong, false_and, exists_false, or_false]
    rw [← textField_error_iff, textField_error_iff.mpr wrong]
    simp
  | unknown typed unknown =>
    refine iff_of_false nofun ?_
    rintro (wrong | ⟨intent, same, -⟩)
    · exact not_text_of_textFault wrong typed
    · exact unknown (mem_kinds_iff.mpr ⟨intent, text_unique same typed⟩)
  | @faulty intent found read? typed wrong blank =>
    rw [ofKind typed, ← idField_error_iff, idField_error_iff.mpr wrong]
    simp
  | @read intent typed found solid =>
    rw [ofKind typed, ← idField_error_iff, idField_ok_iff.mpr ⟨_, found, solid, rfl⟩]
    simp

theorem error_cases (readings : Readings fields explained read?) {error : CompileError}
    (refused : explained = .error error) : (∃ kind, error = .unknownIntent kind) ∨
      ∃ name, error = .malformed (.missingField name) ∨ error = .malformed (.wrongType name "string") := by
  have shaped {name : String} {fault : StructureError} (wrong : IdFault fields name fault) :
      ∃ name, (CompileError.malformed fault = .malformed (.missingField name)) ∨
        (CompileError.malformed fault = .malformed (.wrongType name "string")) :=
    ⟨name, wrong.shape.imp (congrArg _) (congrArg _)⟩
  cases readings with
  | untyped wrong => exact .inr (Except.error.inj refused ▸ shaped (.unreadable wrong))
  | unknown typed unknown => exact .inl ⟨_, (Except.error.inj refused).symm⟩
  | faulty typed wrong blank => exact .inr (Except.error.inj refused ▸ shaped wrong)
  | read typed found solid => contradiction

end Readings

/-- The two readers of intents agree on every record. One accepts it exactly if the other does with an id that is not
blank, and reads the same intent, with its id trimmed. Of the others it says that the type is unknown exactly if the
type is a text and not one of the known ones, and that a field is missing or no text exactly of the type, or of the
id that goes with the type; a blank id is missing. It says nothing else. -/
theorem readers_agree (fields : List (String × Value)) :
    (∀ intent, explain (.record fields) = .ok intent ↔
      ∃ read, ofValue? .json (.record fields) = some read ∧ Text.isBlankText read.subject = false ∧
        intent = read.trimmed) ∧
    (∀ kind, explain (.record fields) = .error (.unknownIntent kind) ↔
      Value.field? fields "type" = some (.text kind) ∧ kind ∉ kinds) ∧
    (∀ fault, explain (.record fields) = .error (.malformed fault) ↔
      TextFault fields "type" fault ∨ ∃ intent : Intent, Value.field? fields "type" = some (.text intent.kind) ∧
        IdFault fields intent.subjectField fault) ∧
    ∀ error, explain (.record fields) = .error error →
      (∃ kind, error = .unknownIntent kind) ∨
        ∃ name, error = .malformed (.missingField name) ∨ error = .malformed (.wrongType name "string") := by
  have readings := readings fields
  exact ⟨fun _ => readings.ok_iff, fun _ => readings.unknown_iff, fun _ => readings.malformed_iff,
    fun _ => readings.error_cases⟩

end Intent

end Legality
