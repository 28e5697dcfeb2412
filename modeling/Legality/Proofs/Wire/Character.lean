import Legality.Proofs.Data.Reading
import Legality.Proofs.Prerequisite.Tree
import Legality.Wire.Character

/-!
Prerequisites survive being written and read, whatever the dialect. A condition is told by its tag. A tree is read with
as many levels of recursion as its data has, which is enough at every node; and the data of a tree is never a bare
text, so rules text and trees are not mistaken for each other.
-/
namespace Legality

theorem Ability.ofValue?_toValue (dialect : Dialect) (ability : Ability) :
    Ability.ofValue? dialect ability.toValue = some ability := by
  cases ability <;> rfl

theorem Threshold.ofValue?_toValue (dialect : Dialect) (threshold : Threshold) :
    Threshold.ofValue? dialect threshold.toValue = some threshold := by
  cases threshold with
  | atLeast score => simp [toValue, ofValue?]
  | equalsWisdom => rfl

namespace Condition

theorem ofValue?_tagged (dialect : Dialect) {tag : String} (known : tag ∈ tags) (fields : List (String × Value)) :
    ofValue? dialect (tagged tag fields) = ofFields? dialect.inner tag (.named (("type", .text tag) :: fields)) := by
  simp [ofValue?, tagged, Tagged.ofValue?, Value.field?, Tagged.alternative?_text known, Tagged.fits]

theorem ofValue?_toValue (dialect : Dialect) (condition : Condition) :
    ofValue? dialect condition.toValue = some condition := by
  cases condition with
  | feat name | talent name | trainedSkill skill =>
    rw [toValue, ofValue?_tagged dialect (by decide)]
    simp [ofFields?, Fields.required, Fields.get?, Value.field?, Value.text?]
  | talentsFromTree trees count =>
    rw [toValue, ofValue?_tagged dialect (by decide)]
    simp [ofFields?, Fields.required, Fields.get?, Value.field?]
  | abilityScore ability least =>
    rw [toValue, ofValue?_tagged dialect (by decide)]
    simp [ofFields?, Fields.required, Fields.get?, Value.field?, Ability.ofValue?_toValue]
  | darkSideScore threshold =>
    rw [toValue, ofValue?_tagged dialect (by decide)]
    simp [ofFields?, Fields.required, Fields.get?, Value.field?, Threshold.ofValue?_toValue]
  | baseAttackBonus least | level least | species allowed | droidSystems systems =>
    rw [toValue, ofValue?_tagged dialect (by decide)]
    simp [ofFields?, Fields.required, Fields.get?, Value.field?]

end Condition

namespace Expression

theorem itemValues_eq (items : List Expression) : itemValues items = items.map toValue := by
  induction items with
  | nil => rfl
  | cons item rest ih => rw [itemValues, ih, List.map_cons]

theorem list?_itemValues {fuel : Nat} {items : List Expression} (dialect : Dialect)
    (undone : ∀ item ∈ items, item.toValue.depth ≤ fuel → ofValueWithin? fuel dialect item.toValue = some item)
    (deep : Value.depthOfItems (itemValues items) ≤ fuel) :
    (Value.list (itemValues items)).list? (ofValueWithin? fuel dialect) = some items := by
  rw [itemValues_eq] at deep ⊢
  apply Value.list?_map
  intro item member
  apply undone item member
  exact Nat.le_trans (Value.depth_le_depthOfItems (List.mem_map_of_mem member)) deep

/-- The data of a node has one level for the node and one for the list of its items above theirs. -/
theorem depth_node (tag : String) (items : List Value) :
    (Value.record [("op", .text tag), ("items", .list items)]).depth = Value.depthOfItems items + 2 := by
  simp only [Value.depth, Value.depthOfFields]
  omega

theorem ofValueWithin?_node {fuel : Nat} {dialect : Dialect} {tag : String} {values : List Value}
    {items : List Expression} (known : tag ∈ tags) (node : tag ≠ "condition")
    (undone : (Value.list values).list? (ofValueWithin? fuel dialect.inner) = some items) :
    ofValueWithin? (fuel + 1) dialect (.record [("op", .text tag), ("items", .list values)]) =
      some (if tag = "all" then all items else any items) := by
  simp [ofValueWithin?, Tagged.ofValue?, Value.field?, Tagged.alternative?_text known, Tagged.fits, node,
    Fields.required, Fields.get?, undone]

theorem ofValueWithin?_toValue {fuel : Nat} {expression : Expression} (deep : expression.toValue.depth ≤ fuel)
    (dialect : Dialect) : ofValueWithin? fuel dialect expression.toValue = some expression := by
  induction expression generalizing fuel dialect with
  | condition leaf =>
    have known : "condition" ∈ tags := by decide
    rw [toValue, Value.depth] at deep
    obtain ⟨left, rfl⟩ : ∃ left, fuel = left + 1 := ⟨fuel - 1, by omega⟩
    simp [toValue, ofValueWithin?, Tagged.ofValue?, Value.field?, Tagged.alternative?_text known, Tagged.fits,
      Fields.required, Fields.get?, Condition.ofValue?_toValue]
  | all items ih | any items ih =>
    rw [toValue, depth_node] at deep
    obtain ⟨left, rfl⟩ : ∃ left, fuel = left + 1 := ⟨fuel - 1, by omega⟩
    have undone := list?_itemValues dialect.inner (fun item member deep => ih item member deep dialect.inner)
      (show _ ≤ left by omega)
    rw [toValue, ofValueWithin?_node (by decide) (by decide) undone]
    rfl

theorem ofValue?_toValue (dialect : Dialect) (expression : Expression) :
    ofValue? dialect expression.toValue = some expression :=
  ofValueWithin?_toValue (Nat.le_refl _) dialect

end Expression

namespace Prerequisite

theorem toValue_ne_null (prerequisite : Prerequisite) : prerequisite.toValue ≠ .null := by
  cases prerequisite with
  | legacy text => nofun
  | structured expression => cases expression <;> nofun

theorem ofValue?_toValue (dialect : Dialect) (prerequisite : Prerequisite) :
    ofValue? dialect prerequisite.toValue = some prerequisite := by
  cases prerequisite with
  | legacy text => rfl
  | structured expression =>
    have undone := Expression.ofValue?_toValue dialect.inner expression
    cases expression with
    | all items | any items | condition leaf => exact congrArg (Option.map structured) undone

end Prerequisite

/-!
Characters survive being written and read. What an ability does not have is left out and comes back as missing; sets
and maps come back from their members in order; everything else is read from the field that it was written to.
-/

theorem AbilityKind.ofLabel?_label (kind : AbilityKind) : ofLabel? kind.label = some kind := by
  cases kind <;> rfl

theorem AbilityKind.ofValue?_toValue (dialect : Dialect) (kind : AbilityKind) :
    ofValue? dialect kind.toValue = some kind :=
  ofLabel?_label kind

theorem Scores.ofValue?_toValue (dialect : Dialect) (scores : Scores) :
    ofValue? dialect scores.toValue = some scores := by
  simp [ofValue?, toValue, Ability.all, Ability.label, score, Fields.ofValue?, Fields.required, Fields.get?,
    Value.field?]

theorem OwnedAbility.ofValue?_toValue (dialect : Dialect) (owned : OwnedAbility) :
    ofValue? dialect owned.toValue = some owned := by
  obtain ⟨id, name, kind, tree, prerequisite⟩ := owned
  cases tree <;> cases prerequisite <;>
    simp [ofValue?, toValue, Value.recordOf, Fields.ofValue?, Fields.required, Fields.optional, Fields.orElse,
      Fields.get?, Value.field?, Value.text?, AbilityKind.ofValue?_toValue, Value.option?_of_ne_null,
      Prerequisite.toValue_ne_null, Prerequisite.ofValue?_toValue]

theorem Snapshot.ofValue?_toValue (dialect : Dialect) (snapshot : Snapshot) :
    ofValue? dialect snapshot.toValue = some snapshot := by
  have owned : (Value.list (snapshot.owned.map OwnedAbility.toValue)).list? (OwnedAbility.ofValue? dialect) =
      some snapshot.owned :=
    Value.list?_map fun owned _ => OwnedAbility.ofValue?_toValue dialect owned
  have classLevels : (Value.record (snapshot.classLevels.entries.map fun entry => (entry.1, .nat entry.2.toNat))).map?
      some Value.uint32? = some snapshot.classLevels :=
    Value.map?_record id (fun levels : UInt32 => .nat levels.toNat) (fun _ => rfl) fun entry _ =>
      Value.uint32?_nat entry.2
  refine Fields.ofValue?_bind ?_
  refine Fields.required_bind rfl (Value.uint32?_nat snapshot.schemaVersion) ?_
  refine Fields.required_bind rfl (rfl : Value.text? (.text snapshot.characterId) = _) ?_
  refine Fields.orElse_bind rfl (rfl : Value.text? (.text snapshot.name) = _) ?_
  refine Fields.required_bind rfl (Value.uint32?_nat snapshot.level) ?_
  refine Fields.orElse_bind rfl (Value.int32?_int snapshot.baseAttackBonus) ?_
  refine Fields.orElse_bind rfl (Scores.ofValue?_toValue dialect snapshot.abilities) ?_
  refine Fields.orElse_bind rfl (Value.uint32?_nat snapshot.darkSideScore) ?_
  refine Fields.orElse_bind rfl (rfl : Value.text? (.text snapshot.species) = _) ?_
  refine Fields.orElse_bind rfl (rfl : Value.bool? (.bool snapshot.isDroid) = _) ?_
  refine Fields.orElse_bind rfl (Value.textSet?_texts snapshot.droidSystems) ?_
  refine Fields.orElse_bind rfl classLevels ?_
  refine Fields.orElse_bind rfl owned ?_
  refine Fields.orElse_bind rfl (Value.textSet?_texts snapshot.trainedSkills) ?_
  rfl

/-- What is written is read as what it was, in each dialect: a character with all that it owns, and each prerequisite by
itself, whether rules text or a tree, down to the expressions and conditions of the tree. -/
theorem Snapshot.survives_writing (dialect : Dialect) :
    (∀ snapshot : Snapshot, Snapshot.ofValue? dialect snapshot.toValue = some snapshot) ∧
      (∀ prerequisite : Prerequisite, Prerequisite.ofValue? dialect prerequisite.toValue = some prerequisite) ∧
      (∀ expression : Expression, Expression.ofValue? dialect expression.toValue = some expression) ∧
      ∀ condition : Condition, Condition.ofValue? dialect condition.toValue = some condition :=
  ⟨Snapshot.ofValue?_toValue dialect, Prerequisite.ofValue?_toValue dialect, Expression.ofValue?_toValue dialect,
    Condition.ofValue?_toValue dialect⟩

end Legality
