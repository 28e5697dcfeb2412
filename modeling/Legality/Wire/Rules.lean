import Legality.Rules.Layout
import Legality.Toml.Reader
import Legality.Wire.Character
import Legality.Wire.Config

/-!
Published content as data, and rule tables as documents. The top of a table document knows all of its keys; the
entries skip those that they do not know.
-/
namespace Legality

namespace AbilityDefinition

def toValue (definition : AbilityDefinition) : Value :=
  .recordOf
    [ ("id", some (.text definition.id)),
      ("name", some (.text definition.name)),
      ("kind", some definition.kind.toValue),
      ("tree", definition.tree.map .text),
      ("prerequisite", definition.prerequisite.map Prerequisite.toValue),
      ("repeatable", some (.bool definition.repeatable)) ]

def ofValue? (dialect : Dialect) (value : Value) : Option AbilityDefinition := do
  let fields ← Fields.ofValue? dialect 6 value
  let id ← fields.required 0 "id" Value.text?
  let name ← fields.required 1 "name" Value.text?
  let kind ← fields.required 2 "kind" (AbilityKind.ofValue? dialect)
  let tree ← fields.optional 3 "tree" Value.text?
  let prerequisite ← fields.optional 4 "prerequisite" (Prerequisite.ofValue? dialect)
  let repeatable ← fields.orElse 5 "repeatable" false Value.bool?
  some ⟨id, name, kind, tree, prerequisite, repeatable⟩

end AbilityDefinition

namespace ClassDefinition

def toValue (definition : ClassDefinition) : Value :=
  .recordOf
    [ ("id", some (.text definition.id)),
      ("name", some (.text definition.name)),
      ("prestige", some (.bool definition.prestige)),
      ("prerequisite", definition.prerequisite.map Prerequisite.toValue) ]

def ofValue? (dialect : Dialect) (value : Value) : Option ClassDefinition := do
  let fields ← Fields.ofValue? dialect 4 value
  let id ← fields.required 0 "id" Value.text?
  let name ← fields.required 1 "name" Value.text?
  let prestige ← fields.orElse 2 "prestige" false Value.bool?
  let prerequisite ← fields.optional 3 "prerequisite" (Prerequisite.ofValue? dialect)
  some ⟨id, name, prestige, prerequisite⟩

end ClassDefinition

def AbilityEntry.ofValue? (dialect : Dialect) (value : Value) : Option AbilityEntry := do
  let fields ← Fields.ofValue? dialect 6 value
  let id ← fields.required 0 "id" Value.text?
  let name ← fields.required 1 "name" Value.text?
  let kind ← fields.optional 2 "kind" (AbilityKind.ofValue? dialect)
  let tree ← fields.optional 3 "tree" Value.text?
  let prerequisite ← fields.optional 4 "prerequisite" (Prerequisite.ofValue? dialect)
  let repeatable ← fields.orElse 5 "repeatable" false Value.bool?
  some ⟨id, name, kind, tree, prerequisite, repeatable⟩

def ClassEntry.ofValue? (dialect : Dialect) (value : Value) : Option ClassEntry := do
  let fields ← Fields.ofValue? dialect 4 value
  let id ← fields.required 0 "id" Value.text?
  let name ← fields.required 1 "name" Value.text?
  let prestige ← fields.orElse 2 "prestige" false Value.bool?
  let prerequisite ← fields.optional 3 "prerequisite" (Prerequisite.ofValue? dialect)
  some ⟨id, name, prestige, prerequisite⟩

namespace RuleLayout

def keys : List String := ["house_rules", "include_prestige", "feat", "talent", "class"]

/-- Reads a layout. A key that no table has is refused. -/
def ofValue? (dialect : Dialect) : Value → Option RuleLayout
  | .record named =>
    if named.any fun field => !keys.contains field.1 then none
    else do
      let fields := Fields.named named
      let houseRules ← fields.orElse 0 "house_rules" .empty (HouseRulesSettings.ofValue? dialect)
      let includePrestige ← fields.orElse 1 "include_prestige" false Value.bool?
      let feats ← fields.orElse 2 "feat" [] (Value.list? (AbilityEntry.ofValue? dialect))
      let talents ← fields.orElse 3 "talent" [] (Value.list? (AbilityEntry.ofValue? dialect))
      let classes ← fields.orElse 4 "class" [] (Value.list? (ClassEntry.ofValue? dialect))
      some ⟨houseRules, includePrestige, feats, talents, classes⟩
  | _ => none

end RuleLayout

namespace RuleTable

def ofDocument (document : String) : Except RuleDataError RuleTable :=
  match (Toml.read? document).bind (RuleLayout.ofValue? .toml) with
  | none => .error (.parse "not a rule table")
  | some layout => ofLayout layout

def ofFile (path : String) : FileState → Except RuleDataError RuleTable
  | .content document => ofDocument document
  | _ => .error (.unreadable path)

end RuleTable

end Legality
