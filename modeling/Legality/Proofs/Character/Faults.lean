import Legality.Proofs.Character.Validity
import Mathlib.Algebra.Order.BigOperators.Group.List
import Mathlib.Algebra.Order.Group.Nat
import Mathlib.Tactic.Common

/-!
Faults of snapshots. The rules of shape stand in a fixed order; the check reports how the first broken one is broken, and
the pass over owned abilities reports the first of them that has no id or one of an earlier ability.
-/
namespace Legality.Snapshot

inductive ShapeRule
  | schema
  | identity
  | scores
  | owned
  | classLevels
  deriving DecidableEq

namespace ShapeRule

def order : List ShapeRule := [schema, identity, scores, owned, classLevels]

def fault? (snapshot : Snapshot) : ShapeRule → Option StructureError
  | schema => snapshot.schemaFault?
  | identity => snapshot.identityFault?
  | scores => snapshot.scoreFault?
  | owned => ownedFault? [] snapshot.owned
  | classLevels => snapshot.classLevelFault?

end ShapeRule

def Keeps (snapshot : Snapshot) : ShapeRule → Prop
  | .schema => snapshot.schemaVersion = supportedSchema
  | .identity => Text.isBlankText snapshot.characterId = false
  | .scores => ∀ ability, snapshot.abilities.score ability ≤ maximumScore
  | .owned => Distinct snapshot.owned
  | .classLevels => snapshot.classLevelSum ≤ snapshot.level.toNat

/-- How a snapshot breaks a rule. Of scores and of owned abilities the first bad one counts. -/
inductive Breach (snapshot : Snapshot) : ShapeRule → StructureError → Prop
  | schema (unsupported : snapshot.schemaVersion ≠ supportedSchema) :
      Breach snapshot .schema (.unsupportedSchema snapshot.schemaVersion supportedSchema)
  | identity (blank : Text.isBlankText snapshot.characterId = true) :
      Breach snapshot .identity (.missingField "characterId")
  | score {before after : List Ability} {ability : Ability} (place : Ability.all = before ++ ability :: after)
      (lower : ∀ earlier ∈ before, snapshot.abilities.score earlier ≤ maximumScore)
      (high : maximumScore < snapshot.abilities.score ability) :
      Breach snapshot .scores (scoreTooHigh ability)
  | unidentified {before after : List OwnedAbility} {owned : OwnedAbility}
      (place : snapshot.owned = before ++ owned :: after) (fine : Distinct before)
      (blank : Text.isBlankText owned.id = true) : Breach snapshot .owned (.missingField "owned[].id")
  | repeated {before after : List OwnedAbility} {owned : OwnedAbility}
      (place : snapshot.owned = before ++ owned :: after) (fine : Distinct before)
      (identified : Text.isBlankText owned.id = false) (again : owned.id ∈ before.map OwnedAbility.id) :
      Breach snapshot .owned (.duplicateAbility owned.id)
  | classLevels (excess : snapshot.level.toNat < snapshot.classLevelSum) :
      Breach snapshot .classLevels (.invalidValue "classLevels"
        ("class levels sum to " ++ toString snapshot.classLevelSum ++ " but character level is " ++
          toString snapshot.level.toNat))

variable {snapshot : Snapshot} {error : StructureError}

theorem schemaFault?_eq_some_iff : snapshot.schemaFault? = some error ↔ snapshot.Breach .schema error := by
  unfold schemaFault?
  constructor
  · intro found
    split at found
    next => cases found
    next unsupported => exact Option.some.inj found ▸ .schema unsupported
  · intro (.schema unsupported)
    exact if_neg unsupported

theorem identityFault?_eq_some_iff : snapshot.identityFault? = some error ↔ snapshot.Breach .identity error := by
  unfold identityFault?
  constructor
  · intro found
    split at found
    next blank => exact Option.some.inj found ▸ .identity blank
    next => cases found
  · intro (.identity blank)
    exact if_pos blank

theorem scoreFault?_eq_some_iff : snapshot.scoreFault? = some error ↔ snapshot.Breach .scores error := by
  unfold scoreFault?
  constructor
  · intro found
    obtain ⟨ability, first, rfl⟩ := Option.map_eq_some_iff.mp found
    obtain ⟨high, before, after, place, lower⟩ := List.find?_eq_some_iff_append.mp first
    refine .score place ?_ (of_decide_eq_true high)
    intro earlier member
    simpa using lower earlier member
  · intro (.score place lower high)
    refine Option.map_eq_some_iff.mpr ⟨_, List.find?_eq_some_iff_append.mpr ⟨decide_eq_true high, _, _, place, ?_⟩, rfl⟩
    intro earlier member
    simpa using lower earlier member

theorem ownedFault?_append {seen : List String} {before : List OwnedAbility} (fine : ownedFault? seen before = none)
    (rest : List OwnedAbility) :
    ownedFault? seen (before ++ rest) = ownedFault? ((before.map OwnedAbility.id).reverse ++ seen) rest := by
  induction before generalizing seen with
  | nil => rfl
  | cons owned before ih =>
    rw [ownedFault?] at fine
    split at fine
    next => cases fine
    next identified =>
    split at fine
    next => cases fine
    next new =>
    rw [List.cons_append, ownedFault?, if_neg identified, if_neg new, ih fine, List.map_cons, List.reverse_cons,
      List.append_assoc, List.singleton_append]

theorem breach_of_ownedFault? {before rest : List OwnedAbility} (fine : Distinct before)
    (whole : snapshot.owned = before ++ rest)
    (found : ownedFault? (before.map OwnedAbility.id).reverse rest = some error) : snapshot.Breach .owned error := by
  -- The ids that the pass has seen are those of `before`, which stays distinct as it grows.
  induction rest generalizing before with
  | nil => cases found
  | cons owned rest ih =>
    rw [ownedFault?] at found
    split at found
    next blank => exact Option.some.inj found ▸ .unidentified whole fine blank
    next identified =>
    have named : Text.isBlankText owned.id = false := Bool.eq_false_iff.mpr identified
    split at found
    next again => exact Option.some.inj found ▸ .repeated whole fine named (List.mem_reverse.mp again)
    next new =>
    apply ih (fine.snoc named fun earlier => new (List.mem_reverse.mpr earlier))
    · rw [whole, List.append_assoc, List.singleton_append]
    · rw [List.map_append, List.map_singleton, List.reverse_append, List.reverse_singleton, List.singleton_append]
      exact found

theorem ownedFault?_eq_some_iff : ownedFault? [] snapshot.owned = some error ↔ snapshot.Breach .owned error := by
  constructor
  · have fine : Distinct [] := ownedFault?_nil_iff.mp rfl
    exact breach_of_ownedFault? fine rfl
  · intro breach
    cases breach with
    | unidentified place fine blank =>
      rw [place, ownedFault?_append (ownedFault?_nil_iff.mpr fine), ownedFault?, if_pos blank]
    | repeated place fine identified again =>
      have seen := List.mem_append_left [] (List.mem_reverse.mpr again)
      rw [place, ownedFault?_append (ownedFault?_nil_iff.mpr fine), ownedFault?,
        if_neg (Bool.eq_false_iff.mp identified), if_pos seen]

theorem classLevelSum_lt (few : snapshot.classLevels.size < 2 ^ 32) : snapshot.classLevelSum < 2 ^ 64 := by
  have length : snapshot.classLevels.values.length = snapshot.classLevels.size := List.length_map ..
  have each : ∀ levels ∈ snapshot.classLevels.values.map UInt32.toNat, levels ≤ 2 ^ 32 := by
    intro levels member
    obtain ⟨word, -, rfl⟩ := List.mem_map.mp member
    exact Nat.le_of_lt word.toNat_lt
  have bounded := List.sum_le_card_nsmul _ _ each
  rw [List.length_map, length, Nat.nsmul_eq_mul] at bounded
  rw [classLevelSum]
  omega

theorem toNat_classLevelTotal_of_few (few : snapshot.classLevels.size < 2 ^ 32) :
    snapshot.classLevelTotal.toNat = snapshot.classLevelSum := by
  have small := classLevelSum_lt few
  rw [toNat_classLevelTotal]
  omega

theorem classLevelFault?_eq_some_iff (few : snapshot.classLevels.size < 2 ^ 32) :
    snapshot.classLevelFault? = some error ↔ snapshot.Breach .classLevels error := by
  unfold classLevelFault?
  simp only [classLevelTotal_le_iff, toNat_classLevelTotal_of_few few]
  constructor
  · intro found
    split at found
    next => cases found
    next excess => exact Option.some.inj found ▸ .classLevels (Nat.lt_of_not_le excess)
  · intro (.classLevels excess)
    exact if_neg (Nat.not_le_of_lt excess)

namespace ShapeRule

variable {rule : ShapeRule}

theorem fault?_eq_some_iff (few : snapshot.classLevels.size < 2 ^ 32) :
    rule.fault? snapshot = some error ↔ snapshot.Breach rule error := by
  cases rule with
  | schema => exact schemaFault?_eq_some_iff
  | identity => exact identityFault?_eq_some_iff
  | scores => exact scoreFault?_eq_some_iff
  | owned => exact ownedFault?_eq_some_iff
  | classLevels => exact classLevelFault?_eq_some_iff few

theorem fault?_eq_none_iff : rule.fault? snapshot = none ↔ snapshot.Keeps rule := by
  cases rule with
  | schema => simp [fault?, schemaFault?, Keeps]
  | identity => simp [fault?, identityFault?, Keeps]
  | scores => exact scoreFault?_eq_none_iff
  | owned => exact ownedFault?_nil_iff
  | classLevels => exact classLevelFault?_eq_none_iff

end ShapeRule

theorem fault?_eq_findSome? : snapshot.fault? = ShapeRule.order.findSome? (ShapeRule.fault? snapshot) := by
  simp only [fault?, ShapeRule.order, List.findSome?_cons, List.findSome?_nil, ShapeRule.fault?]
  cases snapshot.schemaFault? with
  | some fault => rfl
  | none =>
  cases snapshot.identityFault? with
  | some fault => rfl
  | none =>
  cases snapshot.scoreFault? with
  | some fault => rfl
  | none =>
  cases ownedFault? [] snapshot.owned with
  | some fault => rfl
  | none => cases snapshot.classLevelFault? <;> rfl

theorem checked_error_iff : snapshot.checked = .error error ↔ snapshot.fault? = some error := by
  rw [checked]
  cases snapshot.fault? with
  | some fault => simp
  | none => simp

theorem fault?_eq_none_iff_keeps : snapshot.fault? = none ↔ ∀ rule, snapshot.Keeps rule := by
  rw [fault?_eq_findSome?, List.findSome?_eq_none_iff]
  constructor
  · intro none rule
    have checked : rule ∈ ShapeRule.order := by
      cases rule <;> decide
    exact ShapeRule.fault?_eq_none_iff.mp (none rule checked)
  · intro keeps rule _
    exact ShapeRule.fault?_eq_none_iff.mpr (keeps rule)

/-- A snapshot is accepted exactly if it keeps every rule, and one that is not is refused for the first rule that it breaks.
The sum of class levels that the check forms in 64 bits is the exact one. -/
theorem checked_exact (few : snapshot.classLevels.size < 2 ^ 32) :
    snapshot.classLevelTotal.toNat = snapshot.classLevelSum ∧
      (snapshot.checked = .ok snapshot ↔ ∀ rule, snapshot.Keeps rule) ∧
        ∀ error, snapshot.checked = .error error ↔
          ∃ before rule after, ShapeRule.order = before ++ rule :: after ∧ (∀ earlier ∈ before, snapshot.Keeps earlier) ∧
            snapshot.Breach rule error := by
  refine ⟨toNat_classLevelTotal_of_few few, ?_, ?_⟩
  · rw [checked_ok_iff, ← fault?_eq_none_iff, fault?_eq_none_iff_keeps]
    exact and_iff_left rfl
  · intro error
    rw [checked_error_iff, fault?_eq_findSome?, List.findSome?_eq_some_iff]
    constructor
    · intro ⟨before, rule, after, place, found, passed⟩
      exact ⟨before, rule, after, place, fun earlier member => ShapeRule.fault?_eq_none_iff.mp (passed earlier member),
        (ShapeRule.fault?_eq_some_iff few).mp found⟩
    · intro ⟨before, rule, after, place, keeps, breach⟩
      exact ⟨before, rule, after, place, (ShapeRule.fault?_eq_some_iff few).mpr breach,
        fun earlier member => ShapeRule.fault?_eq_none_iff.mpr (keeps earlier member)⟩

def pretender : Snapshot :=
  let dodge (id : String) : OwnedAbility := ⟨id, "Dodge", .feat, none, none⟩
  let owning := (((blank "pc").acquire (dodge "dodge")).acquire (dodge "dodge")).acquire (dodge " ")
  (owning.setClassLevel "jedi" 4294967295).setClassLevel "scout" 1

theorem checked_exact_pretender :
    pretender.classLevelTotal = 4294967296 ∧ pretender.checked = .error (.duplicateAbility "dodge") := by
  have few : pretender.classLevels.size < 2 ^ 32 := by decide
  have total : pretender.classLevelSum = 4294967296 := by decide
  obtain ⟨summed, -, refused⟩ := checked_exact few
  refine ⟨UInt64.toNat_inj.mp (summed.trans total), (refused _).mpr ?_⟩
  have schema : pretender.Keeps .schema := rfl
  have identity : pretender.Keeps .identity := by
    show Text.isBlankText "pc" = false
    decide
  have scores : pretender.Keeps .scores := by
    intro ability
    cases ability <;> decide
  have place : pretender.owned = [⟨"dodge", "Dodge", .feat, none, none⟩] ++
      ⟨"dodge", "Dodge", .feat, none, none⟩ :: [⟨" ", "Dodge", .feat, none, none⟩] := rfl
  have fine : Distinct [⟨"dodge", "Dodge", .feat, none, none⟩] := ⟨by decide, by decide⟩
  exact ⟨[.schema, .identity, .scores], .owned, [.classLevels], rfl, by simp [schema, identity, scores],
    .repeated place fine (by decide) (by decide)⟩

end Legality.Snapshot
