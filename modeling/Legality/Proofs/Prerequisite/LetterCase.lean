import Legality.Proofs.Prerequisite.Clauses
import Legality.Proofs.Prerequisite.Respelling

/-!
Letter case of rules text. Separators and parentheses have no case and words are compared by their folded letters, so a
text in capitals is cut into the same clauses, and each of them is recognised as the same requirement with its name in
capitals or set aside as before.
-/
namespace Legality

namespace RulesText

open Text

theorem fold_toUpper (c : Char) : fold c.toUpper = fold c :=
  apply_toUpper fold (by decide) c

theorem isLetter_toUpper (c : Char) : isLetter c.toUpper = isLetter c :=
  apply_toUpper isLetter (by decide) c

theorem isOrdinalGap_toUpper (c : Char) : isOrdinalGap c.toUpper = isOrdinalGap c :=
  apply_toUpper isOrdinalGap (by decide) c

theorem toUpper_eq_iff (mark : Char)
    (punctuation : smallLetters.map (fun c => c.toUpper == mark) = smallLetters.map (· == mark)) (c : Char) :
    c.toUpper = mark ↔ c = mark := by
  have same : (c.toUpper == mark) = (c == mark) := apply_toUpper (· == mark) punctuation c
  rw [← beq_iff_eq, same, beq_iff_eq]

theorem endsClause_toUpper (depth : Nat) (c : Char) : endsClause depth c.toUpper = endsClause depth c := by
  have comma := toUpper_eq_iff ',' (by decide) c
  have semicolon := toUpper_eq_iff ';' (by decide) c
  rw [Bool.eq_iff_iff, endsClause_iff, endsClause_iff, comma, semicolon]

theorem depthAfter_toUpper (depth : Nat) (c : Char) : depthAfter depth c.toUpper = depthAfter depth c := by
  have opening := toUpper_eq_iff '(' (by decide) c
  have closing := toUpper_eq_iff ')' (by decide) c
  simp only [depthAfter, opening, closing]

theorem consFirst_capitals (c : Char) (parts : List (List Char)) :
    consFirst c.toUpper (parts.map capitals) = (consFirst c parts).map capitals := by
  cases parts <;> rfl

theorem pieces_capitals (depth : Nat) (text : List Char) :
    pieces depth (capitals text) = (pieces depth text).map capitals := by
  induction text generalizing depth with
  | nil => rfl
  | cons c rest ih =>
    rw [capitals_cons, pieces, pieces, endsClause_toUpper, depthAfter_toUpper, ih, ih, consFirst_capitals]
    split <;> rfl

theorem trimClause_capitals (piece : List Char) : trimClause (capitals piece) = capitals (trimClause piece) := by
  have period (c : Char) : (c.toUpper == '.') = (c == '.') := apply_toUpper (· == '.') (by decide) c
  rw [trimClause, trimChars_capitals, dropEndWhile_capitals period, trimChars_capitals, trimClause]

theorem clauses_capitals (text : List Char) : clauses (capitals text) = (clauses text).map capitals := by
  have trimmed : trimClause ∘ capitals = capitals ∘ trimClause := funext trimClause_capitals
  have kept : (fun clause : List Char => !clause.isEmpty) ∘ capitals = fun clause => !clause.isEmpty :=
    funext fun clause => by simp [capitals]
  rw [clauses, pieces_capitals, List.map_map, trimmed, ← List.map_map, List.filter_map, kept, clauses]

/-- Whether a reader finds the same in capitals and leaves what follows in capitals. -/
def Caseless (read : List Char → Option (List Char)) : Prop :=
  ∀ cs, read (capitals cs) = (read cs).map capitals

namespace Caseless

variable {first second : List Char → Option (List Char)}

theorem bind (caseless : Caseless first) (alsoCaseless : Caseless second) :
    Caseless fun cs => (first cs).bind second := by
  intro cs
  simp only [caseless cs]
  cases first cs with
  | none => rfl
  | some rest => exact alsoCaseless rest

theorem orElse (caseless : Caseless first) (alsoCaseless : Caseless second) :
    Caseless fun cs => first cs <|> second cs := by
  intro cs
  simp only [caseless cs, alsoCaseless cs]
  cases first cs <;> rfl

theorem getD (caseless : Caseless first) (cs : List Char) :
    (first (capitals cs)).getD (capitals cs) = capitals ((first cs).getD cs) := by
  rw [caseless cs]
  cases first cs <;> rfl

end Caseless

theorem dropWord?_caseless (word : List Char) : Caseless (dropWord? word) := by
  intro cs
  induction word generalizing cs with
  | nil => rfl
  | cons w word ih =>
    cases cs with
    | nil => rfl
    | cons c rest =>
      rw [capitals_cons, dropWord?, dropWord?, fold_toUpper, ih]
      split <;> rfl

theorem dropGap?_caseless : Caseless dropGap? := by
  intro cs
  cases cs with
  | nil => rfl
  | cons c rest =>
    rw [capitals_cons, dropGap?, dropGap?, isBlank_toUpper, dropWhile_capitals isBlank_toUpper]
    split <;> rfl

theorem dropWordGap?_caseless (word : String) : Caseless (dropWordGap? word) :=
  (dropWord?_caseless word.toList).bind dropGap?_caseless

theorem dropAttackBonus?_caseless : Caseless dropAttackBonus? := by
  intro cs
  unfold dropAttackBonus?
  rw [dropWordGap?_caseless "base" cs]
  cases dropWordGap? "base" cs with
  | none => exact dropWord?_caseless "bab".toList cs
  | some rest => exact (dropWordGap?_caseless "attack").bind (dropWord?_caseless "bonus".toList) rest

theorem dropOrdinalEnding?_caseless : Caseless dropOrdinalEnding? :=
  (((dropWord?_caseless "st".toList).orElse (dropWord?_caseless "nd".toList)).orElse
    (dropWord?_caseless "rd".toList)).orElse (dropWord?_caseless "th".toList)

theorem dropLevelQualifier_capitals (cs : List Char) :
    dropLevelQualifier (capitals cs) = capitals (dropLevelQualifier cs) :=
  (((dropWordGap?_caseless "minimum").orElse (dropWordGap?_caseless "character")).orElse
    (dropWordGap?_caseless "heroic")).getD cs

theorem dropPlus_capitals (cs : List Char) : dropPlus (capitals cs) = capitals (dropPlus cs) := by
  cases cs with
  | nil => rfl
  | cons c rest =>
    have plus := toUpper_eq_iff '+' (by decide) c
    by_cases sign : c = '+'
    · rw [sign]
      rfl
    · have other : c.toUpper ≠ '+' := fun same => sign (plus.mp same)
      rw [capitals_cons, dropPlus.eq_2 _ (by simpa using other), dropPlus.eq_2 _ (by simpa using sign), capitals_cons]

theorem isOptionalPlus_capitals (cs : List Char) : isOptionalPlus (capitals cs) = isOptionalPlus cs := by
  have plus (cs : List Char) : (capitals cs == ['+']) = (cs == ['+']) := by
    cases cs with
    | nil => rfl
    | cons c rest =>
      have sign : (c.toUpper == '+') = (c == '+') := apply_toUpper (· == '+') (by decide) c
      cases rest with
      | nil => simpa [capitals] using sign
      | cons d more => simp [capitals]
  cases cs with
  | nil => rfl
  | cons c rest =>
    rw [isOptionalPlus.eq_2 _ (by simp), isOptionalPlus.eq_2 _ (by simp), dropWhile_capitals isBlank_toUpper, plus]

theorem shortNumber?_capitals (cs : List Char) :
    shortNumber? (capitals cs) = (shortNumber? cs).map (Prod.map id capitals) := by
  cases cs with
  | nil => rfl
  | cons c rest =>
    rw [capitals_cons, shortNumber?, shortNumber?, digitValue?_toUpper]
    cases digitValue? c with
    | none => rfl
    | some tens =>
      cases rest with
      | nil => rfl
      | cons d more =>
        simp only [capitals_cons, digitValue?_toUpper]
        cases digitValue? d <;> rfl

theorem ofLetters?_capitals (word : List Char) : Ability.ofLetters? (capitals word) = Ability.ofLetters? word := by
  have lower : (capitals word).map Char.toLower = word.map Char.toLower := by
    rw [capitals, List.map_map]
    exact List.map_congr_left fun c _ => toLower_toUpper c
  rw [Ability.ofLetters?, lower, Ability.ofLetters?]

theorem trailingName?_capitals (cs : List Char) :
    trailingName? (capitals cs) = (trailingName? cs).map String.toUpper := by
  have lineFeed (name : List Char) : (capitals name).contains '\n' = name.contains '\n' := by
    have same := toUpper_eq_iff '\n' (by decide)
    simp [capitals, same]
  unfold trailingName?
  simp only [(dropWordGap?_caseless "the").getD, isEmpty_capitals, lineFeed, trimChars_capitals, ofList_capitals]
  split <;> rfl

theorem bind_respelled {α β : Type} {found : Option α} {respell : α → α} {next spelled : α → Option β}
    {finish : β → β} (goesOn : ∀ part, spelled (respell part) = (next part).map finish) :
    (found.map respell).bind spelled = (found.bind next).map finish := by
  cases found with
  | none => rfl
  | some part => exact goesOn part

variable (clause : List Char)

theorem abilityClause?_capitals :
    abilityClause? (capitals clause) = (abilityClause? clause).map Expression.inCapitals := by
  unfold abilityClause?
  rw [takeWhile_capitals isLetter_toUpper, ofLetters?_capitals, dropWhile_capitals isLetter_toUpper,
    dropGap?_caseless (clause.dropWhile isLetter)]
  cases Ability.ofLetters? (clause.takeWhile isLetter) with
  | none => rfl
  | some ability =>
    apply bind_respelled
    intro rest
    rw [shortNumber?_capitals]
    apply bind_respelled
    intro (least, rest)
    simp only [Prod.map, dropWhile_capitals isBlank_toUpper, dropPlus_capitals, isEmpty_capitals]
    split <;> rfl

theorem attackBonusClause?_capitals :
    attackBonusClause? (capitals clause) = (attackBonusClause? clause).map Expression.inCapitals := by
  unfold attackBonusClause?
  rw [dropAttackBonus?_caseless clause]
  apply bind_respelled
  intro rest
  simp only [dropWhile_capitals isBlank_toUpper, dropPlus_capitals, shortNumber?_capitals]
  apply bind_respelled
  intro (least, rest)
  simp only [Prod.map, isEmpty_capitals]
  split <;> rfl

theorem levelClause?_capitals :
    levelClause? (capitals clause) = (levelClause? clause).map Expression.inCapitals := by
  unfold levelClause?
  rw [dropLevelQualifier_capitals, dropWordGap?_caseless "level"]
  apply bind_respelled
  intro rest
  rw [shortNumber?_capitals]
  apply bind_respelled
  intro (least, rest)
  simp only [Prod.map, isOptionalPlus_capitals]
  split <;> rfl

theorem ordinalLevelClause?_capitals :
    ordinalLevelClause? (capitals clause) = (ordinalLevelClause? clause).map Expression.inCapitals := by
  unfold ordinalLevelClause?
  rw [shortNumber?_capitals]
  apply bind_respelled
  intro (least, rest)
  simp only [Prod.map, dropOrdinalEnding?_caseless rest]
  apply bind_respelled
  intro rest
  simp only [takeWhile_capitals isOrdinalGap_toUpper, isEmpty_capitals, dropWhile_capitals isOrdinalGap_toUpper,
    dropWord?_caseless "level".toList (rest.dropWhile isOrdinalGap)]
  split
  next => rfl
  next =>
    apply bind_respelled
    intro rest
    simp only [isEmpty_capitals]
    split <;> rfl

theorem trainedClause?_capitals :
    trainedClause? (capitals clause) = (trainedClause? clause).map Expression.inCapitals := by
  have words := (dropWordGap?_caseless "trained").bind (dropWordGap?_caseless "in") clause
  simp only at words
  unfold trainedClause?
  rw [words]
  apply bind_respelled
  intro rest
  rw [trailingName?_capitals]
  cases trailingName? rest <;> rfl

theorem requiresClause?_capitals :
    requiresClause? (capitals clause) = (requiresClause? clause).map Expression.inCapitals := by
  have words := (dropWordGap?_caseless "requires").orElse (dropWordGap?_caseless "require") clause
  simp only at words
  unfold requiresClause?
  rw [words]
  apply bind_respelled
  intro rest
  rw [trailingName?_capitals]
  cases trailingName? rest <;> rfl

theorem clause?_capitals : clause? (capitals clause) = (clause? clause).map Expression.inCapitals := by
  have either (first second : Option Expression) :
      (first.map Expression.inCapitals <|> second.map Expression.inCapitals) =
        (first <|> second).map Expression.inCapitals := by
    cases first <;> rfl
  unfold clause?
  rw [abilityClause?_capitals, attackBonusClause?_capitals, levelClause?_capitals, ordinalLevelClause?_capitals,
    trainedClause?_capitals, requiresClause?_capitals]
  simp only [either]

/-- A text in capitals is read as the same requirements and the same unrecognised clauses, all of them in capitals. -/
theorem read_toUpper (text : String) :
    read text.toUpper = ⟨(read text).items.map Expression.inCapitals, (read text).unparsed.map String.toUpper⟩ := by
  have recognised : clause? ∘ capitals = fun clause => (clause? clause).map Expression.inCapitals :=
    funext clause?_capitals
  have unrecognised : (fun clause => (clause? clause).isNone) ∘ capitals = fun clause => (clause? clause).isNone :=
    funext fun clause => by simp [clause?_capitals]
  have written : String.ofList ∘ capitals = String.toUpper ∘ String.ofList := funext ofList_capitals
  simp only [read, toList_toUpper, clauses_capitals, List.filterMap_map, recognised, List.filter_map, unrecognised,
    List.map_map, List.map_filterMap, written]

theorem expression_toUpper (text : String) : (read text.toUpper).expression = (read text).expression.inCapitals := by
  rw [read_toUpper, Reading.expression, Reading.expression, Expression.inCapitals, Expression.itemsInCapitals_eq]

end RulesText

namespace Evaluator

variable {evaluator : Evaluator} {snapshot : Snapshot} {exclude : Option String}

theorem evaluateRulesText_error_iff {text : String} {error : EvaluationError} :
    evaluator.evaluatePrerequisite snapshot (.legacy text) exclude = .error error ↔
      (RulesText.read text).expression.outcomeAt snapshot exclude evaluator.maxDepth 1 = .error error := by
  simp only [evaluatePrerequisite, evaluate]
  cases (RulesText.read text).expression.outcomeAt snapshot exclude evaluator.maxDepth 1 <;> simp

/-- Rules text can be spelled in capitals. It fails with the error with which it failed before, or it is satisfied by the
characters that satisfied it before, and the clauses that are not recognised are the same in capitals. -/
theorem rulesText_toUpper (evaluator : Evaluator) (snapshot : Snapshot) (exclude : Option String) (text : String) :
    (∃ error, evaluator.evaluatePrerequisite snapshot (.legacy text) exclude = .error error ∧
      evaluator.evaluatePrerequisite snapshot (.legacy text.toUpper) exclude = .error error) ∨
    ∃ result spelled, evaluator.evaluatePrerequisite snapshot (.legacy text) exclude = .ok result ∧
      evaluator.evaluatePrerequisite snapshot (.legacy text.toUpper) exclude = .ok spelled ∧
      spelled.satisfied = result.satisfied ∧
      spelled.diagnostics = result.diagnostics.map String.toUpper ∧
      spelled.diagnostics.length = result.diagnostics.length := by
  let tree := (RulesText.read text).expression
  have same : tree.inCapitals.verdictAt snapshot exclude evaluator.maxDepth 1 =
      tree.verdictAt snapshot exclude evaluator.maxDepth 1 := tree.verdictAt_inCapitals
  rw [← RulesText.expression_toUpper] at same
  cases evaluated : evaluator.evaluatePrerequisite snapshot (.legacy text) exclude with
  | error error =>
    have root := Expression.verdictAt_error_iff.mpr (evaluateRulesText_error_iff.mp evaluated)
    have rootAgain := Expression.verdictAt_error_iff.mp (same.trans root)
    exact .inl ⟨error, rfl, evaluateRulesText_error_iff.mpr rootAgain⟩
  | ok result =>
    obtain ⟨root, listed⟩ := evaluateRulesText_ok_iff.mp evaluated
    have verdict := Expression.verdictAt_ok_iff.mpr ⟨result.outcome, root, rfl⟩
    obtain ⟨outcome, rootAgain, satisfied⟩ := Expression.verdictAt_ok_iff.mp (same.trans verdict)
    let spelled : EvaluationResult :=
      ⟨outcome.satisfied, outcome.unmet, outcome.permanent, (RulesText.read text.toUpper).unparsed⟩
    have diagnostics : spelled.diagnostics = result.diagnostics.map String.toUpper := by
      rw [listed]
      exact congrArg RulesText.Reading.unparsed (RulesText.read_toUpper text)
    refine .inr ⟨result, spelled, rfl, evaluateRulesText_ok_iff.mpr ⟨rootAgain, rfl⟩, satisfied, diagnostics, ?_⟩
    rw [diagnostics, List.length_map]

/-- Letter case may decide how many lines are unmet, since lines are told apart as they are spelled. -/
example :
    (standard.evaluatePrerequisite (.blank "pc") (.legacy "Trained in Stealth, trained in stealth") none).map
        EvaluationResult.unmetCount = .ok 2 ∧
      (standard.evaluatePrerequisite (.blank "pc") (.legacy "TRAINED IN STEALTH, TRAINED IN STEALTH") none).map
        EvaluationResult.unmetCount = .ok 1 := by
  decide +kernel

end Evaluator

end Legality
