import Legality.Config.Layers
import Mathlib

/-!
Resolution of settings. Settings are told apart by name, so that one statement covers all of them: a layer over another
has a value for each setting of its own, and the layers of a project are ordered lists of values. Layers form a monoid
under being put one over another, and only what they amount to is checked.
-/
namespace Legality

inductive Setting
  | strictEnforcement
  | skillPointsPerLevel
  | increaseMethod
  | maxDepth
  | legacyDiagnostics
  | requireReason
  | decisionCacheCapacity
  deriving DecidableEq

namespace Setting

def Content : Setting → Type
  | strictEnforcement | legacyDiagnostics | requireReason => Bool
  | skillPointsPerLevel => UInt32
  | increaseMethod => IncreaseMethod
  | maxDepth | decisionCacheCapacity => Nat

def nameInEnvironment? : Setting → Option String
  | strictEnforcement => some "SAGA_STRICT_ENFORCEMENT"
  | skillPointsPerLevel => some "SAGA_SKILL_POINTS_PER_LEVEL"
  | increaseMethod => some "SAGA_ABILITY_INCREASE_METHOD"
  | maxDepth => some "SAGA_MAX_EXPRESSION_DEPTH"
  | requireReason => some "SAGA_GOVERNANCE_REQUIRE_REASON"
  | legacyDiagnostics | decisionCacheCapacity => none

def read? : (setting : Setting) → String → Option setting.Content
  | strictEnforcement, text | legacyDiagnostics, text | requireReason, text => Settings.readFlag? text
  | skillPointsPerLevel, text => (Text.readUnsigned? UInt32.size text).map UInt32.ofNat
  | increaseMethod, text => IncreaseMethod.ofLabel? (String.ofList (text.toList.map Char.toLower))
  | maxDepth, text | decisionCacheCapacity, text => Text.readUnsigned? UInt64.size text

def inEnvironment? (setting : Setting) (environment : String → Option String) : Option setting.Content :=
  (setting.nameInEnvironment?.bind environment).bind setting.read?

end Setting

def Overrides.value? (overrides : Overrides) : (setting : Setting) → Option setting.Content
  | .strictEnforcement => overrides.strictEnforcement
  | .skillPointsPerLevel => overrides.skillPointsPerLevel
  | .maxDepth => overrides.maxDepth
  | .increaseMethod | .legacyDiagnostics | .requireReason | .decisionCacheCapacity => none

namespace Settings

variable {settings upper lower user project : Settings} {setting : Setting}

def value? (settings : Settings) : (setting : Setting) → Option setting.Content
  | .strictEnforcement => settings.houseRules.strictEnforcement
  | .skillPointsPerLevel => settings.houseRules.skillPointsPerLevel
  | .increaseMethod => settings.houseRules.increaseMethod
  | .maxDepth => settings.evaluation.maxDepth
  | .legacyDiagnostics => settings.evaluation.legacyDiagnostics
  | .requireReason => settings.governance.requireReason
  | .decisionCacheCapacity => settings.policy.decisionCacheCapacity

theorem ext_value? {first second : Settings} (same : ∀ setting, first.value? setting = second.value? setting) :
    first = second := by
  obtain ⟨⟨strict, points, method⟩, ⟨depth, diagnostics⟩, ⟨reason⟩, ⟨capacity⟩⟩ := first
  obtain ⟨⟨strict', points', method'⟩, ⟨depth', diagnostics'⟩, ⟨reason'⟩, ⟨capacity'⟩⟩ := second
  cases (same .strictEnforcement : strict = strict')
  cases (same .skillPointsPerLevel : points = points')
  cases (same .increaseMethod : method = method')
  cases (same .maxDepth : depth = depth')
  cases (same .legacyDiagnostics : diagnostics = diagnostics')
  cases (same .requireReason : reason = reason')
  cases (same .decisionCacheCapacity : capacity = capacity')
  rfl

/-- A setting is what the upper layer sets, and what the lower one sets only if the upper one does not. -/
theorem value?_above (upper lower : Settings) (setting : Setting) :
    (upper.above lower).value? setting = (upper.value? setting).or (lower.value? setting) := by
  cases setting <;> exact Option.orElse_eq_or

theorem value?_empty (setting : Setting) : empty.value? setting = none := by
  cases setting <;> rfl

theorem value?_ofVariables (environment : String → Option String) (setting : Setting) :
    (ofVariables environment).value? setting = setting.inEnvironment? environment := by
  cases setting with
  | skillPointsPerLevel => exact Option.map_bind
  | _ => rfl

theorem value?_ofOverrides (overrides : Overrides) (setting : Setting) :
    (ofOverrides overrides).value? setting = overrides.value? setting := by
  cases setting <;> rfl

theorem above_assoc (first second third : Settings) :
    (first.above second).above third = first.above (second.above third) := by
  apply ext_value?
  intro setting
  simp only [value?_above, Option.or_assoc]

theorem above_empty (settings : Settings) : settings.above empty = settings := by
  apply ext_value?
  intro setting
  rw [value?_above, value?_empty, Option.or_none]

theorem empty_above (settings : Settings) : empty.above settings = settings := by
  apply ext_value?
  intro setting
  rw [value?_above, value?_empty, Option.none_or]

/-- The bounds on settings. A setting that is left open keeps them. -/
structure Valid (settings : Settings) : Prop where
  points : ∀ points : UInt32, settings.value? .skillPointsPerLevel = some points → 0 < points
  depth : ∀ depth : Nat, settings.value? .maxDepth = some depth → 1 ≤ depth ∧ depth ≤ 256
  capacity : ∀ capacity : Nat, settings.value? .decisionCacheCapacity = some capacity → 0 < capacity

theorem guard_eq_none_iff {condition : Prop} [Decidable condition] {fault : ConfigError} {rest : Option ConfigError} :
    (if condition then some fault else rest) = none ↔ ¬ condition ∧ rest = none := by
  by_cases holds : condition
  · rw [if_pos holds]
    exact iff_of_false nofun fun ⟨fails, _⟩ => fails holds
  · rw [if_neg holds]
    exact (and_iff_right holds).symm

theorem fault?_eq_none_iff : settings.fault? = none ↔ settings.Valid := by
  have points : ¬ settings.houseRules.skillPointsPerLevel = some 0 ↔
      ∀ points : UInt32, settings.value? .skillPointsPerLevel = some points → 0 < points := by
    constructor
    · intro positive points set
      exact UInt32.pos_iff_ne_zero.mpr fun zero => positive (zero ▸ set)
    · intro positive zero
      exact absurd (positive 0 zero) (by decide)
  have depth : ¬ (settings.evaluation.maxDepth.any fun depth => depth < 1 || 256 < depth) = true ↔
      ∀ depth : Nat, settings.value? .maxDepth = some depth → 1 ≤ depth ∧ depth ≤ 256 := by
    show _ ↔ ∀ depth : Nat, settings.evaluation.maxDepth = some depth → _
    cases settings.evaluation.maxDepth with
    | none => simp
    | some depth => simp [Nat.one_le_iff_ne_zero]
  have capacity : ¬ settings.policy.decisionCacheCapacity = some 0 ↔
      ∀ capacity : Nat, settings.value? .decisionCacheCapacity = some capacity → 0 < capacity := by
    constructor
    · intro positive capacity set
      exact Nat.pos_of_ne_zero fun zero => positive (zero ▸ set)
    · intro positive zero
      exact absurd (positive 0 zero) (Nat.lt_irrefl 0)
  rw [fault?, guard_eq_none_iff, guard_eq_none_iff, guard_eq_none_iff, points, depth, capacity]
  constructor
  · intro ⟨points, depth, capacity, _⟩
    exact ⟨points, depth, capacity⟩
  · intro valid
    exact ⟨valid.points, valid.depth, valid.capacity, rfl⟩

theorem checked_ok_iff {other : Settings} : settings.checked = .ok other ↔ other = settings ∧ settings.Valid := by
  rw [checked, ← fault?_eq_none_iff]
  cases settings.fault? with
  | none => simp [eq_comm]
  | some fault => simp

theorem checked_error_iff : (∃ error, settings.checked = .error error) ↔ ¬ settings.Valid := by
  rw [checked, ← fault?_eq_none_iff]
  cases settings.fault? with
  | none => simp
  | some fault => simp

def fileLayer? : FileState → Option Settings
  | .absent => some empty
  | .content text => ofDocument? text
  | .unreadable => none

def userFile (surroundings : Surroundings) : FileState :=
  match userPath? surroundings.environment with
  | none => .absent
  | some path => surroundings.file path

theorem ofFile_eq_ok {state : FileState} (read : fileLayer? state = some settings) (path : String) :
    ofFile path state = .ok settings := by
  cases state with
  | absent => exact congrArg Except.ok (Option.some.inj read)
  | content text =>
    rw [fileLayer?] at read
    rw [ofFile, read]
  | unreadable => cases read

theorem ofUser_eq_ok {surroundings : Surroundings} (read : fileLayer? (userFile surroundings) = some settings) :
    ofUser surroundings = .ok settings := by
  unfold userFile at read
  unfold ofUser
  cases home : userPath? surroundings.environment with
  | none =>
    rw [home] at read
    exact congrArg Except.ok (Option.some.inj read)
  | some path =>
    rw [home] at read
    simp only [ofFile_eq_ok read path]

/-- The values that the layers of a project have for a setting, the highest layer first. -/
def layers (surroundings : Surroundings) (overrides : Overrides) (project user : Settings) (setting : Setting) :
    List (Option setting.Content) :=
  [overrides.value? setting, setting.inEnvironment? surroundings.environment, project.value? setting, user.value? setting]

def resolved (surroundings : Surroundings) (overrides : Overrides) (project user : Settings) : Settings :=
  (ofOverrides overrides).above ((ofVariables surroundings.environment).above (project.above user))

theorem findSome?_cons_eq_or {α : Type} (first : Option α) (rest : List (Option α)) :
    (first :: rest).findSome? id = first.or (rest.findSome? id) := by
  cases first <;> rfl

theorem value?_resolved (surroundings : Surroundings) (overrides : Overrides) (project user : Settings)
    (setting : Setting) :
    (resolved surroundings overrides project user).value? setting =
      (layers surroundings overrides project user setting).findSome? id := by
  rw [resolved, value?_above, value?_above, value?_above, value?_ofOverrides, value?_ofVariables, layers]
  simp only [findSome?_cons_eq_or, List.findSome?_nil, Option.or_none]

theorem load_eq {surroundings : Surroundings} {root : String}
    (userRead : fileLayer? (userFile surroundings) = some user)
    (projectRead : fileLayer? (surroundings.file (projectPath root)) = some project) (overrides : Overrides) :
    load root surroundings overrides = (resolved surroundings overrides project user).checked := by
  rw [load, ofUser_eq_ok userRead]
  simp only [ofFile_eq_ok projectRead]
  rfl

/-- The settings of a project are, one by one, what the highest layer with a value says. They are refused exactly if these
values are out of bounds, whatever lower layers say. Putting layers over one another is associative, and a layer without
settings changes nothing. -/
theorem load_resolves :
    (∀ (root : String) (surroundings : Surroundings) (overrides : Overrides) (project user : Settings),
      fileLayer? (userFile surroundings) = some user →
        fileLayer? (surroundings.file (projectPath root)) = some project →
          ∃ resolved : Settings,
            (∀ setting, resolved.value? setting =
              (layers surroundings overrides project user setting).findSome? id) ∧
            (∀ settings, load root surroundings overrides = .ok settings ↔ settings = resolved ∧ resolved.Valid) ∧
            ((∃ error, load root surroundings overrides = .error error) ↔ ¬ resolved.Valid)) ∧
      (∀ first second third : Settings, (first.above second).above third = first.above (second.above third)) ∧
        ∀ settings : Settings, settings.above empty = settings ∧ empty.above settings = settings := by
  refine ⟨?_, above_assoc, fun settings => ⟨above_empty settings, empty_above settings⟩⟩
  intro root surroundings overrides project user userRead projectRead
  rw [load_eq userRead projectRead]
  exact ⟨resolved surroundings overrides project user, value?_resolved surroundings overrides project user,
    fun settings => checked_ok_iff, checked_error_iff⟩

def homeAndTable (points : Option String) : Surroundings where
  file path :=
    if path = "/home/gm/.saga/config.toml" then .content "[house_rules]\nskill_points_per_level=0\n"
    else if path = "/table/saga.toml" then .content "[evaluation]\nmax_expression_depth=16\n"
    else .absent
  environment name :=
    if name = "HOME" then some "/home/gm" else if name = "SAGA_SKILL_POINTS_PER_LEVEL" then points else none

/-- Bad skill points are harmless below a variable, and refused without one. -/
theorem load_resolves_points :
    (∃ settings, load "/table" (homeAndTable (some "6")) ⟨some true, none, none⟩ = .ok settings ∧
      settings.value? .strictEnforcement = some true ∧ settings.value? .skillPointsPerLevel = some (6 : UInt32) ∧
        settings.value? .maxDepth = some (16 : Nat) ∧ settings.value? .requireReason = none) ∧
      ∃ error, load "/table" (homeAndTable none) ⟨some true, none, none⟩ = .error error := by
  have userRead (points : Option String) : fileLayer? (userFile (homeAndTable points)) =
      some ⟨⟨none, some 0, none⟩, ⟨none, none⟩, ⟨none⟩, ⟨none⟩⟩ := by
    have read : Toml.read? "[house_rules]\nskill_points_per_level=0\n" =
        some (.record [("house_rules", .record [("skill_points_per_level", .int 0)])]) := by
      cbv
    show (Toml.read? "[house_rules]\nskill_points_per_level=0\n").bind (ofValue? .toml) = _
    rw [read]
    rfl
  have projectRead (points : Option String) : fileLayer? ((homeAndTable points).file (projectPath "/table")) =
      some ⟨⟨none, none, none⟩, ⟨some 16, none⟩, ⟨none⟩, ⟨none⟩⟩ := by
    have read : Toml.read? "[evaluation]\nmax_expression_depth=16\n" =
        some (.record [("evaluation", .record [("max_expression_depth", .int 16)])]) := by
      cbv
    show (Toml.read? "[evaluation]\nmax_expression_depth=16\n").bind (ofValue? .toml) = _
    rw [read]
    rfl
  constructor
  · obtain ⟨resolved, values, loads, -⟩ := load_resolves.1 "/table" (homeAndTable (some "6")) ⟨some true, none, none⟩ _ _
      (userRead (some "6")) (projectRead (some "6"))
    have points : resolved.value? .skillPointsPerLevel = some (6 : UInt32) := values .skillPointsPerLevel
    have depth : resolved.value? .maxDepth = some (16 : Nat) := values .maxDepth
    have capacity : resolved.value? .decisionCacheCapacity = none := values .decisionCacheCapacity
    have valid : resolved.Valid := by
      refine ⟨?_, ?_, ?_⟩
      · intro other same
        cases points.symm.trans same
        decide
      · intro other same
        cases depth.symm.trans same
        decide
      · intro other same
        cases capacity.symm.trans same
    exact ⟨resolved, (loads resolved).mpr ⟨rfl, valid⟩, values .strictEnforcement, points, depth, values .requireReason⟩
  · obtain ⟨resolved, values, -, fails⟩ := load_resolves.1 "/table" (homeAndTable none) ⟨some true, none, none⟩ _ _
      (userRead none) (projectRead none)
    have points : resolved.value? .skillPointsPerLevel = some (0 : UInt32) := values .skillPointsPerLevel
    exact fails.mpr fun valid => absurd (valid.points 0 points) (by decide)

end Settings

end Legality
