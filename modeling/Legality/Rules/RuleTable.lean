import Legality.Character.Snapshot
import Legality.Config.Settings

/-!
Published content: feats, talents, force abilities and classes, each with the prerequisite for taking it.
-/
namespace Legality

/-- A feat, a talent or a force ability. A repeatable one may be taken more than once. -/
structure AbilityDefinition where
  id : String
  name : String
  kind : AbilityKind
  tree : Option String
  prerequisite : Option Prerequisite
  repeatable : Bool
  deriving Repr, Inhabited

def AbilityDefinition.owned (definition : AbilityDefinition) : OwnedAbility where
  id := definition.id
  name := definition.name
  kind := definition.kind
  tree := definition.tree
  prerequisite := definition.prerequisite

structure ClassDefinition where
  id : String
  name : String
  prestige : Bool
  prerequisite : Option Prerequisite
  deriving Repr, Inhabited

def ClassDefinition.owned (definition : ClassDefinition) : OwnedAbility where
  id := definition.id
  name := definition.name
  kind := .characterClass
  tree := none
  prerequisite := definition.prerequisite

/-!
The core prestige classes and what they ask for.
-/
namespace Prestige

open Expression

def define (id name : String) (requirements : List Expression) : ClassDefinition :=
  ⟨id, name, true, some (.structured (.all requirements))⟩

def forceTrees : List String := ["Alter", "Control", "Sense", "Dark Side", "Light Side"]

def classes : List ClassDefinition :=
  [ define "ace-pilot" "Ace Pilot" [level 7, trained "Pilot", feat "Vehicular Combat"],
    define "bounty-hunter" "Bounty Hunter" [level 7, trained "Survival", talentsFrom ["Awareness"] 2],
    define "crime-lord" "Crime Lord"
      [level 7, trained "Deception", trained "Persuasion",
        talentsFrom ["Fortune", "Lineage", "Misfortune"] 1],
    define "elite-trooper" "Elite Trooper"
      [attackBonus 7, feat "Armor Proficiency (Medium)", feat "Martial Arts I",
        any [feat "Point-Blank Shot", feat "Flurry"],
        talentsFrom ["Armor Specialist", "Commando", "Weapon Specialist"] 1],
    define "force-adept" "Force Adept"
      [level 12, trained "Use the Force", feat "Force Sensitivity", talentsFrom forceTrees 3],
    define "gunslinger" "Gunslinger"
      [level 7, feat "Point-Blank Shot", feat "Precise Shot", feat "Quick Draw",
        feat "Weapon Proficiency (Pistols)"],
    define "jedi-knight" "Jedi Knight"
      [attackBonus 7, trained "Use the Force", feat "Force Sensitivity",
        feat "Weapon Proficiency (Lightsabers)"],
    define "officer" "Officer"
      [level 7, trained "Knowledge (Tactics)", talentsFrom ["Leadership", "Commando", "Veteran"] 1],
    define "sith-apprentice" "Sith Apprentice"
      [trained "Use the Force", feat "Force Sensitivity", feat "Weapon Proficiency (Lightsabers)",
        condition (.darkSideScore .equalsWisdom)],
    define "independent-droid" "Independent Droid"
      [level 7, trained "Use Computer", condition (.droidSystems ["Heuristic Processor"])] ]

end Prestige

/-!
Rule tables: the content that a table plays with, found by id, and its house rules. Every entry stands under
its own id.
-/

/-- Entries under their own ids. -/
structure Catalogue (α : Type) (idOf : α → String) where
  entries : SortedMap String α
  filed : ∀ entry ∈ entries.entries, idOf entry.2 = entry.1

namespace Catalogue

variable {α : Type} {idOf : α → String}

def empty : Catalogue α idOf := ⟨SortedMap.empty, fun _ member => absurd member List.not_mem_nil⟩

instance : Inhabited (Catalogue α idOf) := ⟨empty⟩

def find? (catalogue : Catalogue α idOf) (id : String) : Option α := catalogue.entries.get? id

def file (catalogue : Catalogue α idOf) (entry : α) : Catalogue α idOf where
  entries := catalogue.entries.insert (idOf entry) entry
  filed := by
    intro other member
    cases SortedMap.mem_insertEntry member with
    | inl same => exact same ▸ rfl
    | inr earlier => exact catalogue.filed other earlier

def contains (catalogue : Catalogue α idOf) (id : String) : Bool := catalogue.entries.contains id

def size (catalogue : Catalogue α idOf) : Nat := catalogue.entries.size

end Catalogue

inductive RuleDataError
  | parse (detail : String)
  | duplicate (kind id : String)
  | invalidEntry (id reason : String)
  | unreadable (path : String)
  deriving DecidableEq, Repr

namespace RuleDataError

def message : RuleDataError → String
  | parse detail => "Rule table parse error: " ++ detail
  | duplicate kind id => "Duplicate rule entry: " ++ kind ++ " " ++ id
  | invalidEntry id reason => "Invalid rule entry " ++ id ++ ": " ++ reason
  | unreadable path => "Rule table not readable: " ++ path

def code (_ : RuleDataError) : String := "RULE_DATA_ERROR"

end RuleDataError

/-- Feats, talents and classes by id, and the house rules. Force abilities stand among the talents. -/
structure RuleTable where
  feats : Catalogue AbilityDefinition AbilityDefinition.id
  talents : Catalogue AbilityDefinition AbilityDefinition.id
  classes : Catalogue ClassDefinition ClassDefinition.id
  houseRules : HouseRules

namespace RuleTable

def empty : RuleTable := ⟨.empty, .empty, .empty, default⟩

instance : Inhabited RuleTable := ⟨empty⟩

def fileFeat (table : RuleTable) (definition : AbilityDefinition) : RuleTable :=
  { table with feats := table.feats.file definition }

def fileTalent (table : RuleTable) (definition : AbilityDefinition) : RuleTable :=
  { table with talents := table.talents.file definition }

def fileClass (table : RuleTable) (definition : ClassDefinition) : RuleTable :=
  { table with classes := table.classes.file definition }

def withHouseRules (table : RuleTable) (houseRules : HouseRules) : RuleTable :=
  { table with houseRules := houseRules }

def prestige : RuleTable := Prestige.classes.foldl fileClass empty

def insertFeat (table : RuleTable) (definition : AbilityDefinition) : Except RuleDataError RuleTable :=
  if definition.kind ≠ .feat then
    .error (.invalidEntry definition.id ("expected a feat, found " ++ definition.kind.label))
  else if table.feats.contains definition.id then .error (.duplicate "feat" definition.id)
  else .ok (table.fileFeat definition)

def insertTalent (table : RuleTable) (definition : AbilityDefinition) : Except RuleDataError RuleTable :=
  if definition.kind = .feat ∨ definition.kind = .characterClass then
    .error (.invalidEntry definition.id
      ("expected a talent or force ability, found " ++ definition.kind.label))
  else if table.talents.contains definition.id then .error (.duplicate "talent" definition.id)
  else .ok (table.fileTalent definition)

def insertClass (table : RuleTable) (definition : ClassDefinition) : Except RuleDataError RuleTable :=
  if table.classes.contains definition.id then .error (.duplicate "class" definition.id)
  else .ok (table.fileClass definition)

end RuleTable

end Legality
