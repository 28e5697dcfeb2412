import Legality.Character.Ability

/-!
Prerequisites as trees of conditions. A leaf names one requirement; a node asks for all or for any of its
items. A prerequisite that is still rules text is kept as text until it is evaluated.
-/
namespace Legality

/-- What the dark side score is compared with. The rules text speaks of a score equal to Wisdom; a score
above it counts as well. -/
inductive Threshold
  | atLeast (score : UInt32)
  | equalsWisdom
  deriving DecidableEq, Repr

/-- A single requirement. -/
inductive Condition
  | feat (name : String)
  | talent (name : String)
  | talentsFromTree (trees : List String) (count : UInt32)
  | abilityScore (ability : Ability) (least : UInt8)
  | trainedSkill (skill : String)
  | baseAttackBonus (least : Int32)
  | level (least : UInt32)
  | darkSideScore (threshold : Threshold)
  | species (allowed : List String)
  | droidSystems (systems : List String)
  deriving DecidableEq, Repr

/-- A tree of requirements. -/
inductive Expression
  | all (items : List Expression)
  | any (items : List Expression)
  | condition (leaf : Condition)
  deriving Repr, Inhabited, BEq

namespace Expression

mutual

def depth : Expression → Nat
  | condition _ => 1
  | all items => 1 + depthOfItems items
  | any items => 1 + depthOfItems items

def depthOfItems : List Expression → Nat
  | [] => 0
  | item :: rest => max (depth item) (depthOfItems rest)

end

mutual

def conditionCount : Expression → Nat
  | condition _ => 1
  | all items => conditionCountOfItems items
  | any items => conditionCountOfItems items

def conditionCountOfItems : List Expression → Nat
  | [] => 0
  | item :: rest => conditionCount item + conditionCountOfItems rest

end

def feat (name : String) : Expression := condition (.feat name)

def talentsFrom (trees : List String) (count : UInt32) : Expression :=
  condition (.talentsFromTree trees count)

def abilityScore (ability : Ability) (least : UInt8) : Expression := condition (.abilityScore ability least)

def trained (skill : String) : Expression := condition (.trainedSkill skill)

def attackBonus (least : Int32) : Expression := condition (.baseAttackBonus least)

def level (least : UInt32) : Expression := condition (.level least)

def named (name : String) : Expression := any [condition (.feat name), condition (.talent name)]

end Expression

/-- The prerequisite of an ability: rules text, or a tree. -/
inductive Prerequisite
  | legacy (text : String)
  | structured (expression : Expression)
  deriving Repr, Inhabited

end Legality
