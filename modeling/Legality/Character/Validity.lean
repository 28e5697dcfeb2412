import Legality.Character.Snapshot

/-!
Errors of shape: a payload that is missing a field, or holds one that cannot be meant. They are found before
anything is evaluated.
-/
namespace Legality

inductive StructureError
  | missingField (field : String)
  | wrongType (field expected : String)
  | invalidValue (field reason : String)
  | duplicateAbility (id : String)
  | unsupportedSchema (found supported : UInt32)
  deriving DecidableEq, Repr

namespace StructureError

def message : StructureError → String
  | missingField field => "Missing required field: " ++ field
  | wrongType field expected => "Field " ++ field ++ " has the wrong type: expected " ++ expected
  | invalidValue field reason => "Invalid value for " ++ field ++ ": " ++ reason
  | duplicateAbility id => "Duplicate ability id: " ++ id
  | unsupportedSchema found supported =>
    "Unsupported snapshot schema version " ++ toString found.toNat ++ " (supported: " ++
      toString supported.toNat ++ ")"

def code (_ : StructureError) : String := "STRUCTURE_ERROR"

end StructureError

end Legality

/-!
Which snapshots the library reasons about. The rules are checked in a fixed order and the first one that is
broken is reported.
-/
namespace Legality.Snapshot

def maximumScore : UInt8 := 60

def schemaFault? (snapshot : Snapshot) : Option StructureError :=
  if snapshot.schemaVersion = supportedSchema then none
  else some (.unsupportedSchema snapshot.schemaVersion supportedSchema)

def identityFault? (snapshot : Snapshot) : Option StructureError :=
  if Text.isBlankText snapshot.characterId then some (.missingField "characterId") else none

def scoreTooHigh (ability : Ability) : StructureError :=
  .invalidValue ("abilities." ++ ability.label)
    ("score must not exceed " ++ toString maximumScore.toNat)

def scoreFault? (snapshot : Snapshot) : Option StructureError :=
  (Ability.all.find? fun ability => maximumScore < snapshot.abilities.score ability).map scoreTooHigh

/-- Owned abilities have ids, and no two the same; `seen` holds the ids that came earlier. -/
def ownedFault? (seen : List String) : List OwnedAbility → Option StructureError
  | [] => none
  | owned :: rest =>
    if Text.isBlankText owned.id then some (.missingField "owned[].id")
    else if owned.id ∈ seen then some (.duplicateAbility owned.id)
    else ownedFault? (owned.id :: seen) rest

def classLevelFault? (snapshot : Snapshot) : Option StructureError :=
  if snapshot.classLevelTotal ≤ snapshot.level.toUInt64 then none
  else some (.invalidValue "classLevels"
    ("class levels sum to " ++ toString snapshot.classLevelTotal.toNat ++ " but character level is " ++
      toString snapshot.level.toNat))

def fault? (snapshot : Snapshot) : Option StructureError :=
  snapshot.schemaFault? <|> snapshot.identityFault? <|> snapshot.scoreFault? <|>
    ownedFault? [] snapshot.owned <|> snapshot.classLevelFault?

def checked (snapshot : Snapshot) : Except StructureError Snapshot :=
  match snapshot.fault? with
  | some fault => .error fault
  | none => .ok snapshot

end Legality.Snapshot

/-!
Characters under their ids. Only snapshots that break no rule are kept, each under its own id.
-/
namespace Legality

inductive RepositoryError
  | notFound (id : String)
  | malformed (fault : StructureError)
  | unavailable (reason : String)
  deriving DecidableEq, Repr

namespace RepositoryError

def message : RepositoryError → String
  | notFound id => "Character not found: " ++ id
  | malformed fault => "Stored character is malformed: " ++ fault.message
  | unavailable reason => "Repository unavailable: " ++ reason

def code : RepositoryError → String
  | malformed fault => fault.code
  | _ => "REPOSITORY_ERROR"

end RepositoryError

structure Repository where
  characters : SortedMap String Snapshot

namespace Repository

def empty : Repository := ⟨SortedMap.empty⟩

instance : Inhabited Repository := ⟨empty⟩

def put (repository : Repository) (snapshot : Snapshot) : Except RepositoryError Repository :=
  match snapshot.fault? with
  | some fault => .error (.malformed fault)
  | none => .ok ⟨repository.characters.insert snapshot.characterId snapshot⟩

def load (repository : Repository) (id : String) : Except RepositoryError Snapshot :=
  match repository.characters.get? id with
  | some snapshot => .ok snapshot
  | none => .error (.notFound id)

def size (repository : Repository) : Nat := repository.characters.size

end Repository

end Legality
