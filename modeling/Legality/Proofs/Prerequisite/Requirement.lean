import Legality.Proofs.Prerequisite.Outcome

/-!
What single requirements mean: when a character meets one, and when no progress can make up for one. Only a
species and the chassis of a droid are beyond progress.
-/
namespace Legality.Condition

def isMet (snapshot : Snapshot) (exclude : Option String) (leaf : Condition) : Bool :=
  (leaf.check snapshot exclude).satisfied

/-- Whether a requirement is met or can still be met by further progress. -/
def isReachable (snapshot : Snapshot) (exclude : Option String) (leaf : Condition) : Bool :=
  !(leaf.check snapshot exclude).permanent

variable {snapshot : Snapshot} {exclude : Option String}

/-- The outcomes of single requirements: met, or one line about what is missing or out of reach. -/
inductive Single : Outcome → Prop
  | met : Single .met
  | missing (line : String) : Single (.missing line)
  | impossible (line : String) : Single (.impossible line)

theorem check_single (snapshot : Snapshot) (exclude : Option String) (leaf : Condition) :
    Single (leaf.check snapshot exclude) := by
  cases leaf with
  | darkSideScore threshold =>
    cases threshold <;> simp only [check, checkDarkSide] <;> split <;> constructor
  | species allowed =>
    simp only [check, checkSpecies]
    split <;> constructor
  | droidSystems systems =>
    simp only [check, checkSystems]
    split
    · constructor
    · split <;> constructor
  | _ =>
    simp only [check]
    split <;> constructor

theorem Single.coherent {outcome : Outcome} (single : Single outcome) : outcome.Coherent := by
  cases single with
  | met => exact .met
  | missing line => exact .unsatisfied line false
  | impossible line => exact .unsatisfied line true

theorem isReachable_of_isMet {leaf : Condition} (met : isMet snapshot exclude leaf = true) :
    isReachable snapshot exclude leaf = true := by
  rw [isReachable, (check_single snapshot exclude leaf).coherent.reachable met]
  rfl

theorem satisfied_ite (test : Prop) [Decidable test] (line : String) :
    (if test then Outcome.met else Outcome.missing line).satisfied = decide test := by
  split <;> simp_all [Outcome.met, Outcome.missing]

@[simp] theorem isMet_feat (name : String) : isMet snapshot exclude (feat name) = snapshot.hasNamed .feat name := by
  simp [isMet, check, satisfied_ite]

@[simp] theorem isMet_talent (name : String) :
    isMet snapshot exclude (talent name) = snapshot.hasNamed .talent name := by
  simp [isMet, check, satisfied_ite]

@[simp] theorem isMet_talentsFromTree (trees : List String) (count : UInt32) :
    isMet snapshot exclude (talentsFromTree trees count) =
      decide (count.toNat ≤ snapshot.talentsInTrees trees exclude) := by
  simp [isMet, check, satisfied_ite]

@[simp] theorem isMet_abilityScore (ability : Ability) (least : UInt8) :
    isMet snapshot exclude (abilityScore ability least) = decide (least ≤ snapshot.abilities.score ability) := by
  simp [isMet, check, satisfied_ite]

@[simp] theorem isMet_trainedSkill (skill : String) :
    isMet snapshot exclude (trainedSkill skill) = snapshot.isTrainedIn skill := by
  simp [isMet, check, satisfied_ite]

@[simp] theorem isMet_baseAttackBonus (least : Int32) :
    isMet snapshot exclude (baseAttackBonus least) = decide (least ≤ snapshot.baseAttackBonus) := by
  simp [isMet, check, satisfied_ite]

@[simp] theorem isMet_level (least : UInt32) :
    isMet snapshot exclude (level least) = decide (least ≤ snapshot.level) := by
  simp [isMet, check, satisfied_ite]

@[simp] theorem isMet_darkSide_atLeast (score : UInt32) :
    isMet snapshot exclude (darkSideScore (.atLeast score)) = decide (score ≤ snapshot.darkSideScore) := by
  simp [isMet, check, checkDarkSide, satisfied_ite]

@[simp] theorem isMet_darkSide_equalsWisdom :
    isMet snapshot exclude (darkSideScore .equalsWisdom) =
      decide (snapshot.abilities.wisdom.toNat ≤ snapshot.darkSideScore.toNat) := by
  simp [isMet, check, checkDarkSide, satisfied_ite]

@[simp] theorem isMet_species (allowed : List String) :
    isMet snapshot exclude (species allowed) =
      (allowed.isEmpty || allowed.any fun name => Text.key name == Text.key snapshot.species) := by
  simp only [isMet, check, checkSpecies]
  split
  next known => exact known.symm
  next unknown => exact (Bool.eq_false_iff.mpr unknown).symm

@[simp] theorem isMet_droidSystems (systems : List String) :
    isMet snapshot exclude (droidSystems systems) = (snapshot.isDroid && systems.all snapshot.hasSystem) := by
  have installed : (systems.filter fun system => !snapshot.hasSystem system).isEmpty =
      systems.all snapshot.hasSystem := by
    rw [Bool.eq_iff_iff, List.isEmpty_iff, List.filter_eq_nil_iff, List.all_eq_true]
    simp
  simp only [isMet, check, checkSystems, installed]
  cases snapshot.isDroid with
  | false => rfl
  | true => cases systems.all snapshot.hasSystem <;> rfl

@[simp] theorem isReachable_species (allowed : List String) :
    isReachable snapshot exclude (species allowed) = isMet snapshot exclude (species allowed) := by
  simp only [isReachable, isMet, check, checkSpecies]
  split <;> rfl

@[simp] theorem isReachable_droidSystems (systems : List String) :
    isReachable snapshot exclude (droidSystems systems) = snapshot.isDroid := by
  simp only [isReachable, check, checkSystems]
  cases snapshot.isDroid with
  | false => rfl
  | true => simp only [Bool.not_true, Bool.false_eq_true, if_false]; split <;> rfl

/-- Whether a requirement is about what a character is and not about what it has acquired. -/
def isStructural : Condition → Bool
  | species _ => true
  | droidSystems _ => true
  | _ => false

theorem permanent_ite (test : Prop) [Decidable test] (line : String) :
    (if test then Outcome.met else Outcome.missing line).permanent = false := by
  split <;> rfl

theorem isReachable_of_acquirable {leaf : Condition} (acquirable : leaf.isStructural = false) :
    isReachable snapshot exclude leaf = true := by
  cases leaf with
  | species allowed => exact Bool.noConfusion acquirable
  | droidSystems systems => exact Bool.noConfusion acquirable
  | darkSideScore threshold =>
    cases threshold <;> simp only [isReachable, check, checkDarkSide, permanent_ite, Bool.not_false]
  | _ => simp only [isReachable, check, permanent_ite, Bool.not_false]

/-- What is within reach depends on nothing but the species and the chassis. -/
theorem isReachable_congr {other : Snapshot} (sameSpecies : other.species = snapshot.species)
    (sameChassis : other.isDroid = snapshot.isDroid) (leaf : Condition) :
    isReachable other exclude leaf = isReachable snapshot exclude leaf := by
  cases leaf with
  | species allowed => rw [isReachable_species, isReachable_species, isMet_species, isMet_species, sameSpecies]
  | droidSystems systems => rw [isReachable_droidSystems, isReachable_droidSystems, sameChassis]
  | _ => rw [isReachable_of_acquirable rfl, isReachable_of_acquirable rfl]

end Legality.Condition
