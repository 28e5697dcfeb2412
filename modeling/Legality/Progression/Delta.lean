import Legality.Character.Validity
import Legality.Data.Value
import Legality.Rules.RuleTable

/-!
Deltas: changes of a character that are described and not yet made. A delta sets fields and adds items to
collections; both are kept in ascending order, so equal changes have one form. A preview is the character that a
delta would lead to.
-/
namespace Legality

/-- A change of a character: values by field, and items by collection. -/
structure Delta where
  set : SortedMap String Value
  add : SortedMap String (List String)

namespace Delta

def empty : Delta := ⟨SortedMap.empty, SortedMap.empty⟩

instance : Inhabited Delta := ⟨empty⟩

def setting (delta : Delta) (field : String) (value : Value) : Delta :=
  { delta with set := delta.set.insert field value }

def added (delta : Delta) (collection : String) : List String := (delta.add.get? collection).getD []

def adding (delta : Delta) (collection item : String) : Delta :=
  { delta with add := delta.add.insert collection (delta.added collection ++ [item]) }

def isEmpty (delta : Delta) : Bool := delta.set.isEmpty && delta.add.values.all List.isEmpty

def levelField : String := "level"

def classLevelsStem : String := "classLevels."

def classLevelField (classId : String) : String := classLevelsStem ++ classId

def dropStem? : List Char → List Char → Option (List Char)
  | [], rest => some rest
  | _ :: _, [] => none
  | s :: stem, c :: rest => if s = c then dropStem? stem rest else none

def classOfField? (field : String) : Option String :=
  (dropStem? classLevelsStem.toList field.toList).map String.ofList

def levelValue (field : String) (value : Value) : Except StructureError UInt32 :=
  match value.uint32? with
  | some level => .ok level
  | none => .error (.wrongType field "unsigned integer")

def setField (snapshot : Snapshot) (field : String) (value : Value) : Except StructureError Snapshot :=
  if field = levelField then
    (levelValue field value).map fun level => { snapshot with level := level }
  else
    match classOfField? field with
    | some classId => (levelValue field value).map (snapshot.setClassLevel classId)
    | none => .error (.invalidValue field "unsupported field")

/-- The collections of a character to which a delta can add. Pending grants are left to whoever applies it. -/
inductive Collection
  | feats
  | talents
  | classes
  | trainedSkills
  | pendingGrants
  deriving DecidableEq, Repr

namespace Collection

def label : Collection → String
  | feats => "feats"
  | talents => "talents"
  | classes => "classes"
  | trainedSkills => "trainedSkills"
  | pendingGrants => "pendingGrants"

def ofLabel? (name : String) : Option Collection :=
  if name = "feats" then some feats
  else if name = "talents" then some talents
  else if name = "classes" then some classes
  else if name = "trainedSkills" then some trainedSkills
  else if name = "pendingGrants" then some pendingGrants
  else none

end Collection

/-- Acquires published content, unless the character that the delta started from owns it. -/
def acquireFrom (start snapshot : Snapshot) (collection : Collection) (noun id : String)
    (found : Option OwnedAbility) : Except StructureError Snapshot :=
  if start.owns id then .ok snapshot
  else
    match found with
    | some owned => .ok (snapshot.acquire owned)
    | none => .error (.invalidValue collection.label ("unknown " ++ noun ++ " " ++ id))

def addItem (rules : RuleTable) (start snapshot : Snapshot) (collection item : String) :
    Except StructureError Snapshot :=
  match Collection.ofLabel? collection with
  | some .feats =>
    acquireFrom start snapshot .feats "feat" item ((rules.feats.find? item).map AbilityDefinition.owned)
  | some .talents =>
    acquireFrom start snapshot .talents "talent" item ((rules.talents.find? item).map AbilityDefinition.owned)
  | some .classes =>
    acquireFrom start snapshot .classes "class" item ((rules.classes.find? item).map ClassDefinition.owned)
  | some .trainedSkills => .ok (snapshot.train item)
  | some .pendingGrants => .ok snapshot
  | none => .error (.invalidValue collection "unsupported collection")

def setFields (snapshot : Snapshot) : List (String × Value) → Except StructureError Snapshot
  | [] => .ok snapshot
  | (field, value) :: rest =>
    match setField snapshot field value with
    | .error fault => .error fault
    | .ok snapshot => setFields snapshot rest

def addItems (rules : RuleTable) (start snapshot : Snapshot) (collection : String) :
    List String → Except StructureError Snapshot
  | [] => .ok snapshot
  | item :: rest =>
    match addItem rules start snapshot collection item with
    | .error fault => .error fault
    | .ok snapshot => addItems rules start snapshot collection rest

def addCollections (rules : RuleTable) (start snapshot : Snapshot) :
    List (String × List String) → Except StructureError Snapshot
  | [] => .ok snapshot
  | (collection, items) :: rest =>
    match addItems rules start snapshot collection items with
    | .error fault => .error fault
    | .ok snapshot => addCollections rules start snapshot rest

/-- The character that a delta leads to, which has to be one that breaks no rule. -/
def preview (delta : Delta) (rules : RuleTable) (start : Snapshot) : Except StructureError Snapshot :=
  match setFields start delta.set.entries with
  | .error fault => .error fault
  | .ok snapshot =>
    match addCollections rules start snapshot delta.add.entries with
    | .error fault => .error fault
    | .ok snapshot => snapshot.checked

end Delta

end Legality
