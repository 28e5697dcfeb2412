import Legality.Data.SortedMap
import Legality.Prerequisite.Expression
import Legality.Text.Key

/-!
Characters at one point in time. A snapshot is built once and never changed; what follows from it is
computed from it. Skills are found without regard to case and punctuation, owned abilities by exact id.
-/
namespace Legality

inductive AbilityKind
  | feat
  | talent
  | characterClass
  | forcePower
  | forceTechnique
  | forceSecret
  deriving DecidableEq, Repr, Inhabited

namespace AbilityKind

def all : List AbilityKind := [feat, talent, characterClass, forcePower, forceTechnique, forceSecret]

def label : AbilityKind → String
  | feat => "feat"
  | talent => "talent"
  | characterClass => "class"
  | forcePower => "forcePower"
  | forceTechnique => "forceTechnique"
  | forceSecret => "forceSecret"

def rank : AbilityKind → Nat
  | feat => 0
  | talent => 1
  | characterClass => 2
  | forcePower => 3
  | forceTechnique => 4
  | forceSecret => 5

theorem rank_injective {a b : AbilityKind} (same : a.rank = b.rank) : a = b := by
  cases a <;> cases b <;> simp_all [rank]

instance : OrderedKey AbilityKind where
  lt a b := a.rank < b.rank
  decidableLT a b := Nat.decLt a.rank b.rank
  decidableEq := inferInstance
  irrefl a := Nat.lt_irrefl a.rank
  trans := Nat.lt_trans
  connected notBelow different :=
    Nat.lt_of_le_of_ne (Nat.not_lt.mp notBelow) fun same => different (rank_injective same.symm)

end AbilityKind

/-- An ability that a character owns, with the prerequisite that it came with. -/
structure OwnedAbility where
  id : String
  name : String
  kind : AbilityKind
  tree : Option String
  prerequisite : Option Prerequisite
  deriving Repr, Inhabited

/-- A character at one point in time. -/
structure Snapshot where
  schemaVersion : UInt32
  characterId : String
  name : String
  level : UInt32
  baseAttackBonus : Int32
  abilities : Scores
  darkSideScore : UInt32
  species : String
  isDroid : Bool
  droidSystems : SortedSet String
  classLevels : SortedMap String UInt32
  owned : List OwnedAbility
  trainedSkills : SortedSet String

namespace Snapshot

/-- The layout of snapshots that this library reads. -/
def supportedSchema : UInt32 := 1

def blank (characterId : String) : Snapshot where
  schemaVersion := supportedSchema
  characterId := characterId
  name := ""
  level := 0
  baseAttackBonus := 0
  abilities := Scores.uniform 10
  darkSideScore := 0
  species := ""
  isDroid := false
  droidSystems := SortedMap.empty
  classLevels := SortedMap.empty
  owned := []
  trainedSkills := SortedMap.empty

instance : Inhabited Snapshot := ⟨blank ""⟩

def ability? (snapshot : Snapshot) (id : String) : Option OwnedAbility :=
  snapshot.owned.find? fun owned => owned.id == id

def owns (snapshot : Snapshot) (id : String) : Bool :=
  snapshot.owned.any fun owned => owned.id == id

def ownedOfKind (snapshot : Snapshot) (kind : AbilityKind) : List OwnedAbility :=
  snapshot.owned.filter fun owned => owned.kind == kind

def classLevel (snapshot : Snapshot) (id : String) : UInt32 :=
  (snapshot.classLevels.get? id).getD 0

/-- Whether the character is trained in a skill of that name, spelled in any way. -/
def isTrainedIn (snapshot : Snapshot) (skill : String) : Bool :=
  (SortedSet.toList snapshot.trainedSkills).any fun trained => Text.key trained == Text.key skill

/-- Adds up levels in 64 bits. It takes more than 2 ^ 32 classes to leave that range, which no character in memory has;
a total that would stays at the largest number. -/
def addLevels (total : UInt64) (levels : UInt32) : UInt64 :=
  if total.toNat + levels.toNat < UInt64.size then total + levels.toUInt64 else 0xFFFFFFFFFFFFFFFF

def classLevelTotal (snapshot : Snapshot) : UInt64 :=
  snapshot.classLevels.values.foldl addLevels 0

def asDroid (snapshot : Snapshot) (systems : List String) : Snapshot :=
  { snapshot with isDroid := true, droidSystems := systems.foldl SortedSet.add snapshot.droidSystems }

def setClassLevel (snapshot : Snapshot) (id : String) (levels : UInt32) : Snapshot :=
  { snapshot with classLevels := snapshot.classLevels.insert id levels }

def acquire (snapshot : Snapshot) (ability : OwnedAbility) : Snapshot :=
  { snapshot with owned := snapshot.owned ++ [ability] }

def train (snapshot : Snapshot) (skill : String) : Snapshot :=
  { snapshot with trainedSkills := SortedSet.add snapshot.trainedSkills skill }

end Snapshot

end Legality
