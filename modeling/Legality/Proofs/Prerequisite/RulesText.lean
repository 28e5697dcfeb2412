import Legality.Proofs.Prerequisite.Clauses
import Legality.Proofs.Prerequisite.Truth
import Mathlib.Data.Option.Basic

/-!
Evaluation of rules text. A clause that is recognised asks for something that can be acquired, and its tree is shallow and
offers an alternative wherever it has to; so rules text can always be evaluated and blocks nothing for good, whatever it
says. What is not recognised is listed and asks for nothing.
-/
namespace Legality

namespace RulesText

/-- The trees that clauses stand for: single requirements for what can be acquired, and a feat or a talent of one name. -/
inductive Recognised : Expression → Prop
  | abilityScore (ability : Ability) (least : UInt8) : Recognised (.abilityScore ability least)
  | attackBonus (least : Int32) : Recognised (.attackBonus least)
  | level (least : UInt32) : Recognised (.level least)
  | trained (skill : String) : Recognised (.trained skill)
  | named (name : String) : Recognised (.named name)

variable {clause : List Char} {item : Expression}

theorem exists_of_abilityClause? (found : abilityClause? clause = some item) :
    ∃ ability least, item = .abilityScore ability least := by
  simp only [abilityClause?, Option.bind_eq_bind, Option.bind_eq_some_iff] at found
  obtain ⟨ability, -, rest, -, ⟨least, more⟩, -, read⟩ := found
  split at read
  next => exact ⟨ability, _, (Option.some.inj read).symm⟩
  next => contradiction

theorem exists_of_attackBonusClause? (found : attackBonusClause? clause = some item) :
    ∃ least, item = .attackBonus least := by
  simp only [attackBonusClause?, Option.bind_eq_bind, Option.bind_eq_some_iff] at found
  obtain ⟨rest, -, ⟨least, more⟩, -, read⟩ := found
  split at read
  next => exact ⟨_, (Option.some.inj read).symm⟩
  next => contradiction

theorem exists_of_levelClause? (found : levelClause? clause = some item) : ∃ least, item = .level least := by
  simp only [levelClause?, Option.bind_eq_bind, Option.bind_eq_some_iff] at found
  obtain ⟨rest, -, ⟨least, more⟩, -, read⟩ := found
  split at read
  next => exact ⟨_, (Option.some.inj read).symm⟩
  next => contradiction

theorem exists_of_ordinalLevelClause? (found : ordinalLevelClause? clause = some item) :
    ∃ least, item = .level least := by
  simp only [ordinalLevelClause?, Option.bind_eq_bind, Option.bind_eq_some_iff] at found
  obtain ⟨⟨least, more⟩, -, rest, -, read⟩ := found
  split at read
  next => contradiction
  next =>
    obtain ⟨remainder, -, read⟩ := Option.bind_eq_some_iff.mp read
    split at read
    next => exact ⟨_, (Option.some.inj read).symm⟩
    next => contradiction

theorem exists_of_trainedClause? (found : trainedClause? clause = some item) : ∃ skill, item = .trained skill := by
  simp only [trainedClause?, Option.bind_eq_bind, Option.bind_eq_some_iff] at found
  obtain ⟨rest, -, name, -, read⟩ := found
  exact ⟨name, (Option.some.inj read).symm⟩

theorem exists_of_requiresClause? (found : requiresClause? clause = some item) : ∃ name, item = .named name := by
  simp only [requiresClause?, Option.bind_eq_bind, Option.bind_eq_some_iff] at found
  obtain ⟨rest, -, name, -, read⟩ := found
  exact ⟨name, (Option.some.inj read).symm⟩

theorem clause?_recognised (found : clause? clause = some item) : Recognised item := by
  simp only [clause?, Option.orElse_eq_some] at found
  rcases found with found | ⟨-, found | ⟨-, found | ⟨-, found | ⟨-, found | ⟨-, found⟩⟩⟩⟩⟩
  · obtain ⟨ability, least, rfl⟩ := exists_of_abilityClause? found
    exact .abilityScore ability least
  · obtain ⟨least, rfl⟩ := exists_of_attackBonusClause? found
    exact .attackBonus least
  · obtain ⟨least, rfl⟩ := exists_of_levelClause? found
    exact .level least
  · obtain ⟨least, rfl⟩ := exists_of_ordinalLevelClause? found
    exact .level least
  · obtain ⟨skill, rfl⟩ := exists_of_trainedClause? found
    exact .trained skill
  · obtain ⟨name, rfl⟩ := exists_of_requiresClause? found
    exact .named name

theorem clause?_eq_abilityScore_iff {ability : Ability} {least : UInt8} :
    clause? clause = some (.abilityScore ability least) ↔ abilityClause? clause = some (.abilityScore ability least) := by
  simp only [clause?, Option.orElse_eq_some]
  constructor
  · rintro (found | ⟨-, found | ⟨-, found | ⟨-, found | ⟨-, found | ⟨-, found⟩⟩⟩⟩⟩)
    · exact found
    · obtain ⟨least, other⟩ := exists_of_attackBonusClause? found
      cases other
    · obtain ⟨least, other⟩ := exists_of_levelClause? found
      cases other
    · obtain ⟨least, other⟩ := exists_of_ordinalLevelClause? found
      cases other
    · obtain ⟨skill, other⟩ := exists_of_trainedClause? found
      cases other
    · obtain ⟨name, other⟩ := exists_of_requiresClause? found
      cases other
  · exact .inl

namespace Recognised

variable {snapshot : Snapshot} {exclude : Option String}

theorem depth_le (recognised : Recognised item) : item.depth ≤ 2 := by
  cases recognised with
  | named name => exact Nat.le_refl 2
  | _ => exact Nat.le_succ 1

theorem offered (recognised : Recognised item) : .any [] ∉ item.subtrees := by
  cases recognised with
  | named name => simp [Expression.named, Expression.subtrees, Expression.subtreesOfItems]
  | _ => exact List.not_mem_cons_of_ne_of_not_mem Expression.noConfusion List.not_mem_nil

theorem reachable (recognised : Recognised item) : item.holds (Condition.isReachable snapshot exclude) = true := by
  cases recognised with
  | named name =>
    rw [Expression.named, Expression.holds_any, List.any_cons, Expression.holds_condition,
      Condition.isReachable_of_acquirable rfl, Bool.true_or]
  | _ => exact Condition.isReachable_of_acquirable rfl

end Recognised

variable (text : String)

theorem items_eq :
    (read text).items = ((clauses text.toList).filter fun clause => (clause? clause).isSome).filterMap clause? := by
  rw [List.filterMap_filter]
  apply List.filterMap_congr
  intro clause _
  cases clause? clause <;> rfl

theorem recognised_of_mem (member : item ∈ (read text).items) : Recognised item := by
  obtain ⟨clause, -, found⟩ := List.mem_filterMap.mp member
  exact clause?_recognised found

theorem expression_depth_le : (read text).expression.depth ≤ 3 := by
  rw [Reading.expression, Expression.depth]
  have shallow := Expression.depthOfItems_le fun item member => (recognised_of_mem text member).depth_le
  omega

theorem expression_offered : .any [] ∉ (read text).expression.subtrees :=
  Expression.offered_all.mpr fun _ member => (recognised_of_mem text member).offered

theorem expression_reachable (snapshot : Snapshot) (exclude : Option String) :
    (read text).expression.holds (Condition.isReachable snapshot exclude) = true := by
  rw [Reading.expression, Expression.holds_all, List.all_eq_true]
  exact fun item member => (recognised_of_mem text member).reachable

end RulesText

theorem Expression.outcomeAt_all_append {snapshot : Snapshot} {exclude : Option String} {limit depth : Nat}
    {items others : List Expression} {before after : Outcome}
    (evaluated : outcomeAt snapshot exclude limit depth (.all items) = .ok before)
    (evaluatedOthers : outcomeAt snapshot exclude limit depth (.all others) = .ok after) :
    outcomeAt snapshot exclude limit depth (.all (items ++ others)) =
      .ok { satisfied := before.satisfied && after.satisfied
            unmet := before.unmet ++ after.unmet.filter fun line => !before.unmet.contains line
            permanent := before.permanent || after.permanent } := by
  obtain ⟨shallow, outcomes, each, rfl⟩ := outcomeAt_all_ok.mp evaluated
  obtain ⟨-, more, eachMore, rfl⟩ := outcomeAt_all_ok.mp evaluatedOthers
  have whole : outcomesAt snapshot exclude limit (depth + 1) (items ++ others) = .ok (outcomes ++ more) :=
    outcomesAt_append_ok.mpr ⟨outcomes, more, each, eachMore, rfl⟩
  exact outcomeAt_all_ok.mpr ⟨shallow, outcomes ++ more, whole, Outcome.conjunction_append outcomes more⟩

namespace Evaluator

variable {evaluator : Evaluator}

theorem evaluateRulesText_total (deep : 3 ≤ evaluator.maxDepth) (snapshot : Snapshot) (exclude : Option String)
    (text : String) : ∃ result, evaluator.evaluatePrerequisite snapshot (.legacy text) exclude = .ok result := by
  have shallow : (RulesText.read text).expression.depth ≤ evaluator.maxDepth :=
    Nat.le_trans (RulesText.expression_depth_le text) deep
  obtain ⟨found, inner⟩ := evaluate_total snapshot exclude (RulesText.expression_offered text) shallow
  exact ⟨{ found with diagnostics := (RulesText.read text).unparsed },
    evaluateRulesText_ok_iff.mpr ⟨(evaluate_ok_iff.mp inner).1, rfl⟩⟩

/-- Rules text can be evaluated for every character, whatever it says, if trees of three levels can, and it blocks nothing
for good. Its diagnostics are the clauses that no pattern recognises, in order; and these decide nothing, since every text
with the same recognised clauses is satisfied by the same characters and lists the same unmet lines. -/
theorem rulesText_never_blocks (deep : 3 ≤ evaluator.maxDepth) (snapshot : Snapshot) (exclude : Option String)
    (text : String) :
    ∃ result, evaluator.evaluatePrerequisite snapshot (.legacy text) exclude = .ok result ∧
      result.permanentlyBlocked = false ∧
      result.diagnostics = ((RulesText.clauses text.toList).filter fun clause =>
        (RulesText.clause? clause).isNone).map String.ofList ∧
      ∀ other : String,
        ((RulesText.clauses other.toList).filter fun clause => (RulesText.clause? clause).isSome) =
          ((RulesText.clauses text.toList).filter fun clause => (RulesText.clause? clause).isSome) →
        ∃ again, evaluator.evaluatePrerequisite snapshot (.legacy other) exclude = .ok again ∧
          again.satisfied = result.satisfied ∧ again.unmet = result.unmet := by
  obtain ⟨result, evaluated⟩ := evaluateRulesText_total deep snapshot exclude text
  obtain ⟨root, listed⟩ := evaluateRulesText_ok_iff.mp evaluated
  refine ⟨result, evaluated, ?_, listed, ?_⟩
  · have blocked := Expression.outcomeAt_permanent root
    rw [RulesText.expression_reachable] at blocked
    exact blocked
  · intro other same
    obtain ⟨again, evaluatedAgain⟩ := evaluateRulesText_total deep snapshot exclude other
    obtain ⟨rootAgain, -⟩ := evaluateRulesText_ok_iff.mp evaluatedAgain
    -- The tree is made of the recognised clauses alone, so both texts have the same one.
    rw [RulesText.Reading.expression, RulesText.items_eq, same, ← RulesText.items_eq] at rootAgain
    have outcome : again.outcome = result.outcome := Except.ok.inj (rootAgain.symm.trans root)
    exact ⟨again, evaluatedAgain, congrArg Outcome.satisfied outcome, congrArg Outcome.unmet outcome⟩

/-- An ability whose name is spelled with a long s, a level, a clause about nothing that is known, and a score with a digit
of another script. -/
def inscription : String := "\u017ftr 13, Level 7, Mind Trick; Dex 1\u0663"

theorem rulesText_never_blocks_inscription :
    ∃ result, standard.evaluatePrerequisite (.blank "pc") (.legacy inscription) none = .ok result ∧
      result.permanentlyBlocked = false ∧
      result.diagnostics = ["\u017ftr 13", "Mind Trick", "Dex 1\u0663"] ∧
      ∃ again, standard.evaluatePrerequisite (.blank "pc") (.legacy "Level 7") none = .ok again ∧
        again.satisfied = result.satisfied ∧ again.unmet = result.unmet := by
  have setAside : ((RulesText.clauses inscription.toList).filter fun clause =>
      (RulesText.clause? clause).isNone).map String.ofList = ["\u017ftr 13", "Mind Trick", "Dex 1\u0663"] := by
    decide
  have kept : ((RulesText.clauses "Level 7".toList).filter fun clause => (RulesText.clause? clause).isSome) =
      (RulesText.clauses inscription.toList).filter fun clause => (RulesText.clause? clause).isSome := by
    decide
  have deep : 3 ≤ standard.maxDepth := by decide
  obtain ⟨result, evaluated, free, listed, same⟩ := rulesText_never_blocks deep (.blank "pc") none inscription
  exact ⟨result, evaluated, free, listed.trans setAside, same "Level 7" kept⟩

/-- Rules text is read clause by clause. Where all parentheses are closed at the end of a text, a separator and another text
can follow: the requirements of both are found in order, and so are the clauses that are not recognised. So a character
satisfies the whole exactly if it satisfies both texts; the unmet lines are those of the first and after them the ones that
only the second has, each once, and the diagnostics are those of both. -/
theorem rulesText_joined (first second : String) {separator : Char} (isSeparator : separator = ',' ∨ separator = ';')
    (closed : RulesText.depthAtEnd 0 first.toList = 0) :
    let joined := first.push separator ++ second
    (RulesText.read joined).items = (RulesText.read first).items ++ (RulesText.read second).items ∧
      (RulesText.read joined).unparsed = (RulesText.read first).unparsed ++ (RulesText.read second).unparsed ∧
      ∀ (evaluator : Evaluator) (snapshot : Snapshot) (exclude : Option String), 3 ≤ evaluator.maxDepth →
        ∃ before after result,
          evaluator.evaluatePrerequisite snapshot (.legacy first) exclude = .ok before ∧
          evaluator.evaluatePrerequisite snapshot (.legacy second) exclude = .ok after ∧
          evaluator.evaluatePrerequisite snapshot (.legacy joined) exclude = .ok result ∧
          result.satisfied = (before.satisfied && after.satisfied) ∧
          result.unmet = before.unmet ++ after.unmet.filter (fun line => !before.unmet.contains line) ∧
          result.unmet.Nodup ∧
          result.diagnostics = before.diagnostics ++ after.diagnostics := by
  intro joined
  have read := RulesText.read_joined first second isSeparator closed
  refine ⟨congrArg RulesText.Reading.items read, congrArg RulesText.Reading.unparsed read, ?_⟩
  intro evaluator snapshot exclude deep
  obtain ⟨before, evaluatedFirst⟩ := evaluateRulesText_total deep snapshot exclude first
  obtain ⟨after, evaluatedSecond⟩ := evaluateRulesText_total deep snapshot exclude second
  obtain ⟨result, evaluated⟩ := evaluateRulesText_total deep snapshot exclude joined
  obtain ⟨rootFirst, listedFirst⟩ := evaluateRulesText_ok_iff.mp evaluatedFirst
  obtain ⟨rootSecond, listedSecond⟩ := evaluateRulesText_ok_iff.mp evaluatedSecond
  obtain ⟨root, listed⟩ := evaluateRulesText_ok_iff.mp evaluated
  have nodup : result.unmet.Nodup := (Expression.outcomeAt_coherent root).nodup
  rw [read] at root listed
  have outcome := Except.ok.inj (root.symm.trans (Expression.outcomeAt_all_append rootFirst rootSecond))
  refine ⟨before, after, result, evaluatedFirst, evaluatedSecond, evaluated, ?_, ?_, nodup, ?_⟩
  · exact congrArg Outcome.satisfied outcome
  · exact congrArg Outcome.unmet outcome
  · rw [listed, listedFirst, listedSecond]

def preamble : String := "Requires Dodge (Pistols, Rifles), Mind Trick"

theorem rulesText_joined_preamble :
    ∃ result, standard.evaluatePrerequisite (.blank "pc")
        (.legacy (preamble.push ';' ++ " Dex 13; requires Dodge (Pistols, Rifles).")) none = .ok result ∧
      result.satisfied = false ∧
      result.unmet = ["One of: Feat: Dodge (Pistols, Rifles) or Talent: Dodge (Pistols, Rifles)",
        "Dexterity 13 (you have 10)"] ∧
      result.diagnostics = ["Mind Trick"] := by
  have first : standard.evaluatePrerequisite (.blank "pc") (.legacy preamble) none =
      .ok ⟨false, ["One of: Feat: Dodge (Pistols, Rifles) or Talent: Dodge (Pistols, Rifles)"], false,
        ["Mind Trick"]⟩ := by
    decide +kernel
  have second : standard.evaluatePrerequisite (.blank "pc") (.legacy " Dex 13; requires Dodge (Pistols, Rifles).") none =
      .ok ⟨false, ["Dexterity 13 (you have 10)",
        "One of: Feat: Dodge (Pistols, Rifles) or Talent: Dodge (Pistols, Rifles)"], false, []⟩ := by
    decide +kernel
  have isSeparator : ';' = ',' ∨ ';' = ';' := .inr rfl
  obtain ⟨-, -, evaluates⟩ := rulesText_joined preamble " Dex 13; requires Dodge (Pistols, Rifles)." isSeparator
    (by decide)
  obtain ⟨before, after, result, evaluatedFirst, evaluatedSecond, evaluated, satisfied, unmet, -, diagnostics⟩ :=
    evaluates standard (.blank "pc") none (by decide)
  obtain rfl := Except.ok.inj (first.symm.trans evaluatedFirst)
  obtain rfl := Except.ok.inj (second.symm.trans evaluatedSecond)
  exact ⟨result, evaluated, satisfied, unmet.trans (by decide), diagnostics⟩

end Evaluator

end Legality
