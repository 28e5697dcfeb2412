import Legality.Governance.State
import Legality.Time.Timestamp
import Legality.Wire.Character

/-!
Governance as data. Instants are written as timestamps.
-/
namespace Legality

def Instant.toValue (instant : Instant) : Value := .text (Timestamp.print instant)

def Instant.ofValue? (value : Value) : Option Instant := value.text?.bind Timestamp.read?

namespace Mode

def toValue (mode : Mode) : Value := .text mode.label

def ofValue? (dialect : Dialect) (value : Value) : Option Mode :=
  value.oneOf? dialect (Value.labelled? all label)

end Mode

namespace Visibility

def toValue (visibility : Visibility) : Value := .text visibility.label

def ofValue? (dialect : Dialect) (value : Value) : Option Visibility :=
  value.oneOf? dialect (Value.labelled? [banner, visualTheme, hidden] label)

end Visibility

namespace Role

def toValue (role : Role) : Value := .text role.label

def ofValue? (dialect : Dialect) (value : Value) : Option Role :=
  value.oneOf? dialect (Value.labelled? all label)

end Role

def Actor.ofValue? (dialect : Dialect) (value : Value) : Option Actor := do
  let fields ← Fields.ofValue? dialect 3 value
  let id ← fields.required 0 "id" Value.text?
  let name ← fields.required 1 "name" Value.text?
  let role ← fields.required 2 "role" (Role.ofValue? dialect)
  some ⟨id, name, role⟩

namespace GovernanceState

def toValue (state : GovernanceState) : Value :=
  .recordOf
    [ ("mode", some state.mode.toValue),
      ("visibility", some state.visibility.toValue),
      ("approvedBy", state.approvedBy.map .text),
      ("reason", state.reason.map .text),
      ("changedAt", state.changedAt.map Instant.toValue) ]

def ofValue? (dialect : Dialect) (value : Value) : Option GovernanceState := do
  let fields ← Fields.ofValue? dialect 5 value
  let mode ← fields.required 0 "mode" (Mode.ofValue? dialect)
  let visibility ← fields.required 1 "visibility" (Visibility.ofValue? dialect)
  let approvedBy ← fields.optional 2 "approvedBy" Value.text?
  let reason ← fields.optional 3 "reason" Value.text?
  let changedAt ← fields.optional 4 "changedAt" Instant.ofValue?
  some ⟨mode, visibility, approvedBy, reason, changedAt⟩

end GovernanceState

namespace TransitionRecord

def toValue (record : TransitionRecord) : Value :=
  .record
    [ ("characterId", .text record.characterId),
      ("oldMode", record.oldMode.toValue),
      ("newMode", record.newMode.toValue),
      ("reason", .text record.reason),
      ("approvedBy", .text record.approvedBy),
      ("timestamp", record.timestamp.toValue) ]

def ofValue? (dialect : Dialect) (value : Value) : Option TransitionRecord := do
  let fields ← Fields.ofValue? dialect 6 value
  let characterId ← fields.required 0 "characterId" Value.text?
  let oldMode ← fields.required 1 "oldMode" (Mode.ofValue? dialect)
  let newMode ← fields.required 2 "newMode" (Mode.ofValue? dialect)
  let reason ← fields.required 3 "reason" Value.text?
  let approvedBy ← fields.required 4 "approvedBy" Value.text?
  let timestamp ← fields.required 5 "timestamp" Instant.ofValue?
  some ⟨characterId, oldMode, newMode, reason, approvedBy, timestamp⟩

end TransitionRecord

end Legality
