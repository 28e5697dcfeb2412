import Legality.Rules.RuleTable
import Legality.Text.Basic

/-!
Rule tables as they are laid out on disk, and the table that a layout stands for. A layout is loaded entry by
entry: feats first, then talents, then classes. The first entry that cannot be taken ends it.
-/
namespace Legality

/-- A feat or a talent as it is laid out. -/
structure AbilityEntry where
  id : String
  name : String
  kind : Option AbilityKind
  tree : Option String
  prerequisite : Option Prerequisite
  repeatable : Bool
  deriving Repr

structure ClassEntry where
  id : String
  name : String
  prestige : Bool
  prerequisite : Option Prerequisite
  deriving Repr

/-- A rule table as it is laid out. -/
structure RuleLayout where
  houseRules : HouseRulesSettings
  includePrestige : Bool
  feats : List AbilityEntry
  talents : List AbilityEntry
  classes : List ClassEntry

namespace RuleLayout

/-- Every entry needs an id and a name. An entry without an id is reported under its name. -/
def namingFault? (id name : String) : Option RuleDataError :=
  if Text.isBlankText id then some (.invalidEntry name "id must not be blank")
  else if Text.isBlankText name then some (.invalidEntry id "name must not be blank")
  else none

end RuleLayout

/-- The definition of an entry, whose kind is `usual` unless it names another. A talent needs a tree. -/
def AbilityEntry.define (entry : AbilityEntry) (usual : AbilityKind) :
    Except RuleDataError AbilityDefinition :=
  let kind := entry.kind.getD usual
  match RuleLayout.namingFault? entry.id entry.name with
  | some fault => .error fault
  | none =>
    if kind = .talent ∧ entry.tree = none then .error (.invalidEntry entry.id "talents must name a tree")
    else .ok ⟨entry.id, entry.name, kind, entry.tree, entry.prerequisite, entry.repeatable⟩

def ClassEntry.define (entry : ClassEntry) : Except RuleDataError ClassDefinition :=
  match RuleLayout.namingFault? entry.id entry.name with
  | some fault => .error fault
  | none => .ok ⟨entry.id, entry.name, entry.prestige, entry.prerequisite⟩

namespace RuleTable

def takeEach {α : Type} (take : RuleTable → α → Except RuleDataError RuleTable) (table : RuleTable) :
    List α → Except RuleDataError RuleTable
  | [] => .ok table
  | entry :: rest =>
    match take table entry with
    | .error error => .error error
    | .ok table => takeEach take table rest

def takeFeat (table : RuleTable) (entry : AbilityEntry) : Except RuleDataError RuleTable :=
  (entry.define .feat).bind table.insertFeat

def takeTalent (table : RuleTable) (entry : AbilityEntry) : Except RuleDataError RuleTable :=
  (entry.define .talent).bind table.insertTalent

def takeClass (table : RuleTable) (entry : ClassEntry) : Except RuleDataError RuleTable :=
  entry.define.bind table.insertClass

def ofLayout (layout : RuleLayout) : Except RuleDataError RuleTable :=
  let start := (if layout.includePrestige then prestige else empty).withHouseRules layout.houseRules.resolve
  ((takeEach takeFeat start layout.feats).bind fun table =>
    takeEach takeTalent table layout.talents).bind fun table =>
      takeEach takeClass table layout.classes

end RuleTable

end Legality
