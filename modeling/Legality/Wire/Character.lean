import Legality.Character.Snapshot
import Legality.Data.Value
import Legality.Prerequisite.Expression

/-!
Prerequisites as data. Nodes carry the tag `op` and leaves the tag `type`; rules text is a bare text.
-/
namespace Legality

/-- The ability of a name or of a three-letter abbreviation, both in lower case. -/
def Ability.ofLabel? (name : String) : Option Ability :=
  if name = "strength" ∨ name = "str" then some .strength
  else if name = "dexterity" ∨ name = "dex" then some .dexterity
  else if name = "constitution" ∨ name = "con" then some .constitution
  else if name = "intelligence" ∨ name = "int" then some .intelligence
  else if name = "wisdom" ∨ name = "wis" then some .wisdom
  else if name = "charisma" ∨ name = "cha" then some .charisma
  else none

def Ability.ofValue? (dialect : Dialect) (value : Value) : Option Ability :=
  value.oneOf? dialect Ability.ofLabel?

def Ability.toValue (ability : Ability) : Value := .text ability.label

namespace Threshold

def toValue : Threshold → Value
  | atLeast score => .record [("at_least", .nat score.toNat)]
  | equalsWisdom => .text "equals_wisdom"

def ofValue? (dialect : Dialect) : Value → Option Threshold
  | .text name => if name = "equals_wisdom" then some equalsWisdom else none
  | .record [(name, payload)] =>
    if name = "at_least" then payload.uint32?.map atLeast
    else if name = "equals_wisdom" && dialect.emptyPayload payload then some equalsWisdom
    else none
  | _ => none

end Threshold

namespace Condition

def tags : List String :=
  ["feat", "talent", "talents_from_tree", "attribute", "trained_skill", "base_attack_bonus", "level",
    "dark_side_score", "species", "droid_systems"]

def tagged (tag : String) (fields : List (String × Value)) : Value := .record (("type", .text tag) :: fields)

def toValue : Condition → Value
  | feat name => tagged "feat" [("name", .text name)]
  | talent name => tagged "talent" [("name", .text name)]
  | talentsFromTree trees count =>
    tagged "talents_from_tree" [("trees", .texts trees), ("count", .nat count.toNat)]
  | abilityScore ability least =>
    tagged "attribute" [("ability", ability.toValue), ("min", .nat least.toNat)]
  | trainedSkill skill => tagged "trained_skill" [("skill", .text skill)]
  | baseAttackBonus least => tagged "base_attack_bonus" [("min", .int least.toInt)]
  | level least => tagged "level" [("min", .nat least.toNat)]
  | darkSideScore threshold => tagged "dark_side_score" [("threshold", threshold.toValue)]
  | species allowed => tagged "species" [("allowed", .texts allowed)]
  | droidSystems systems => tagged "droid_systems" [("systems", .texts systems)]

/-- Reads the fields of a condition of one tag. Inside a tagged value the inner dialect is spoken. -/
def ofFields? (dialect : Dialect) (tag : String) (fields : Fields) : Option Condition :=
  if tag = "feat" then (fields.required 0 "name" Value.text?).map feat
  else if tag = "talent" then (fields.required 0 "name" Value.text?).map talent
  else if tag = "talents_from_tree" then do
    let trees ← fields.required 0 "trees" (Value.list? Value.text?)
    let count ← fields.required 1 "count" Value.uint32?
    some (talentsFromTree trees count)
  else if tag = "attribute" then do
    let ability ← fields.required 0 "ability" (Ability.ofValue? dialect)
    let least ← fields.required 1 "min" Value.uint8?
    some (abilityScore ability least)
  else if tag = "trained_skill" then (fields.required 0 "skill" Value.text?).map trainedSkill
  else if tag = "base_attack_bonus" then (fields.required 0 "min" Value.int32?).map baseAttackBonus
  else if tag = "level" then (fields.required 0 "min" Value.uint32?).map level
  else if tag = "dark_side_score" then
    (fields.required 0 "threshold" (Threshold.ofValue? dialect)).map darkSideScore
  else if tag = "species" then (fields.required 0 "allowed" (Value.list? Value.text?)).map species
  else if tag = "droid_systems" then
    (fields.required 0 "systems" (Value.list? Value.text?)).map droidSystems
  else none

def arity (tag : String) : Nat :=
  if tag = "talents_from_tree" ∨ tag = "attribute" then 2 else 1

def ofValue? (dialect : Dialect) (value : Value) : Option Condition := do
  let tagged ← Tagged.ofValue? "type" value
  let tag ← tagged.alternative? dialect tags
  if tagged.fits (arity tag) then ofFields? dialect.inner tag tagged.fields else none

end Condition

namespace Expression

def tags : List String := ["all", "any", "condition"]

mutual

def toValue : Expression → Value
  | all items => .record [("op", .text "all"), ("items", .list (itemValues items))]
  | any items => .record [("op", .text "any"), ("items", .list (itemValues items))]
  | condition leaf => .record [("op", .text "condition"), ("condition", leaf.toValue)]

def itemValues : List Expression → List Value
  | [] => []
  | item :: rest => toValue item :: itemValues rest

end

/-- Reads a tree out of a value of at most `fuel` levels. -/
def ofValueWithin? : Nat → Dialect → Value → Option Expression
  | 0, _, _ => none
  | fuel + 1, dialect, value => do
    let tagged ← Tagged.ofValue? "op" value
    let tag ← tagged.alternative? dialect tags
    if !tagged.fits 1 then none
    else if tag = "condition" then
      (tagged.fields.required 0 "condition" (Condition.ofValue? dialect.inner)).map condition
    else
      let items ← tagged.fields.required 0 "items" (Value.list? (ofValueWithin? fuel dialect.inner))
      some (if tag = "all" then all items else any items)

def ofValue? (dialect : Dialect) (value : Value) : Option Expression :=
  ofValueWithin? value.depth dialect value

end Expression

namespace Prerequisite

def toValue : Prerequisite → Value
  | legacy text => .text text
  | structured expression => expression.toValue

/-- Reads a prerequisite. A tree is read in the inner dialect, because it might have been a text. -/
def ofValue? (dialect : Dialect) : Value → Option Prerequisite
  | .text text => some (legacy text)
  | value => (Expression.ofValue? dialect.inner value).map structured

end Prerequisite

/-!
Characters as data. What a record does not say takes its default; sets and maps come back in order.
-/

def Value.recordOf (fields : List (String × Option Value)) : Value :=
  .record (fields.filterMap fun field => field.2.map fun value => (field.1, value))

namespace AbilityKind

def ofLabel? (name : String) : Option AbilityKind := Value.labelled? all label name

def toValue (kind : AbilityKind) : Value := .text kind.label

def ofValue? (dialect : Dialect) (value : Value) : Option AbilityKind := value.oneOf? dialect ofLabel?

end AbilityKind

namespace Scores

def toValue (scores : Scores) : Value :=
  .record (Ability.all.map fun ability => (ability.label, .nat (scores.score ability).toNat))

def ofValue? (dialect : Dialect) (value : Value) : Option Scores := do
  let fields ← Fields.ofValue? dialect 6 value
  let strength ← fields.required 0 "strength" Value.uint8?
  let dexterity ← fields.required 1 "dexterity" Value.uint8?
  let constitution ← fields.required 2 "constitution" Value.uint8?
  let intelligence ← fields.required 3 "intelligence" Value.uint8?
  let wisdom ← fields.required 4 "wisdom" Value.uint8?
  let charisma ← fields.required 5 "charisma" Value.uint8?
  some ⟨strength, dexterity, constitution, intelligence, wisdom, charisma⟩

end Scores

namespace OwnedAbility

def toValue (owned : OwnedAbility) : Value :=
  .recordOf
    [ ("id", some (.text owned.id)),
      ("name", some (.text owned.name)),
      ("kind", some owned.kind.toValue),
      ("tree", owned.tree.map .text),
      ("prerequisite", owned.prerequisite.map Prerequisite.toValue) ]

def ofValue? (dialect : Dialect) (value : Value) : Option OwnedAbility := do
  let fields ← Fields.ofValue? dialect 5 value
  let id ← fields.required 0 "id" Value.text?
  let name ← fields.required 1 "name" Value.text?
  let kind ← fields.required 2 "kind" (AbilityKind.ofValue? dialect)
  let tree ← fields.optional 3 "tree" Value.text?
  let prerequisite ← fields.optional 4 "prerequisite" (Prerequisite.ofValue? dialect)
  some ⟨id, name, kind, tree, prerequisite⟩

end OwnedAbility

namespace Snapshot

def toValue (snapshot : Snapshot) : Value :=
  .record
    [ ("schemaVersion", .nat snapshot.schemaVersion.toNat),
      ("characterId", .text snapshot.characterId),
      ("name", .text snapshot.name),
      ("level", .nat snapshot.level.toNat),
      ("baseAttackBonus", .int snapshot.baseAttackBonus.toInt),
      ("abilities", snapshot.abilities.toValue),
      ("darkSideScore", .nat snapshot.darkSideScore.toNat),
      ("species", .text snapshot.species),
      ("isDroid", .bool snapshot.isDroid),
      ("droidSystems", .texts (SortedSet.toList snapshot.droidSystems)),
      ("classLevels", .record (snapshot.classLevels.entries.map fun entry => (entry.1, .nat entry.2.toNat))),
      ("owned", .list (snapshot.owned.map OwnedAbility.toValue)),
      ("trainedSkills", .texts (SortedSet.toList snapshot.trainedSkills)) ]

def ofValue? (dialect : Dialect) (value : Value) : Option Snapshot := do
  let fields ← Fields.ofValue? dialect 13 value
  let schemaVersion ← fields.required 0 "schemaVersion" Value.uint32?
  let characterId ← fields.required 1 "characterId" Value.text?
  let name ← fields.orElse 2 "name" "" Value.text?
  let level ← fields.required 3 "level" Value.uint32?
  let baseAttackBonus ← fields.orElse 4 "baseAttackBonus" 0 Value.int32?
  let abilities ← fields.orElse 5 "abilities" (Scores.uniform 10) (Scores.ofValue? dialect)
  let darkSideScore ← fields.orElse 6 "darkSideScore" 0 Value.uint32?
  let species ← fields.orElse 7 "species" "" Value.text?
  let isDroid ← fields.orElse 8 "isDroid" false Value.bool?
  let droidSystems ← fields.orElse 9 "droidSystems" SortedMap.empty Value.textSet?
  let classLevels ← fields.orElse 10 "classLevels" SortedMap.empty (Value.map? some Value.uint32?)
  let owned ← fields.orElse 11 "owned" [] (Value.list? (OwnedAbility.ofValue? dialect))
  let trainedSkills ← fields.orElse 12 "trainedSkills" SortedMap.empty Value.textSet?
  some ⟨schemaVersion, characterId, name, level, baseAttackBonus, abilities, darkSideScore, species, isDroid,
    droidSystems, classLevels, owned, trainedSkills⟩

end Snapshot

end Legality
