import Legality.Proofs.Prerequisite.Clauses
import Legality.Proofs.Text.Basic
import Mathlib.Data.List.Infix

/-!
The wording of requirements. A requirement that is written out is a clause as it stands, and the patterns recognise it as
what it was: none that is tried before its own takes it, and no name is cut or shortened.
-/
namespace Legality.RulesText

open Text

/-- A name as rules text can give it back: one trimmed line without an article in front and without a period at its end,
whose parentheses enclose its commas and semicolons. -/
structure Name where
  text : String
  nonempty : text.toList ≠ []
  trimmed : trimChars text.toList = text.toList
  oneLine : '\n' ∉ text.toList
  unstopped : text.toList.getLast? ≠ some '.'
  noArticle : (text.toList.take 3).map Char.toLower = "the".toList → (text.toList.drop 3).head?.any isBlank = false
  balanced : Balanced text.toList

/-- A requirement that rules text can state. -/
inductive Requirement
  | abilityScore (ability : Ability) (least : Fin 100)
  | attackBonus (least : Fin 100)
  | level (least : Fin 100)
  | trained (skill : Name)
  | named (name : Name)

namespace Requirement

def words : Requirement → String
  | abilityScore ability _ => ability.title ++ " "
  | attackBonus _ => "Base attack bonus +"
  | level _ => "Level "
  | trained _ => "Trained in "
  | named _ => "Requires "

def object : Requirement → String
  | abilityScore _ least | attackBonus least | level least => toString least.val
  | trained name | named name => name.text

def text (requirement : Requirement) : String := requirement.words ++ requirement.object

def expression : Requirement → Expression
  | abilityScore ability least => .abilityScore ability (UInt8.ofNat least)
  | attackBonus least => .attackBonus (Int32.ofNat least)
  | level least => .level (UInt32.ofNat least)
  | trained skill => .trained skill.text
  | named name => .any [.condition (.feat name.text), .condition (.talent name.text)]

end Requirement

/-- A text that is a clause as it stands. -/
structure Standing (clause : List Char) : Prop where
  whole : isWhole 0 clause = true
  closed : depthAtEnd 0 clause = 0
  started : clause.dropWhile isBlank = clause
  ended : dropEndWhile isBlank clause = clause
  unstopped : dropEndWhile (· == '.') clause = clause

variable {depth : Nat} {c : Char} {clause words back : List Char}

theorem standing_of_isDigit (digits : ∀ c ∈ clause, c.isDigit = true) : Standing clause := by
  have plain : clause.all isPlain = true := by
    apply List.all_eq_true.mpr
    intro c member
    have digit := digits c member
    simp only [isPlain, Bool.and_eq_true, bne_iff_ne]
    refine ⟨⟨⟨?_, ?_⟩, ?_⟩, ?_⟩ <;> rintro rfl <;> exact absurd digit (by decide)
  have solid : ∀ c ∈ clause, ¬ isBlank c = true := fun c member =>
    Bool.eq_false_iff.mp (not_isBlank_of_isDigit (digits c member))
  refine ⟨isWhole_of_isPlain plain, depthAtEnd_of_isPlain plain, ?_, ?_, ?_⟩
  · exact List.dropWhile_eq_self_iff.mpr fun nonempty => solid _ (List.getElem_mem nonempty)
  · exact List.rdropWhile_eq_self_iff.mpr fun nonempty => solid _ (List.getLast_mem nonempty)
  · apply List.rdropWhile_eq_self_iff.mpr
    intro nonempty period
    have digit := digits _ (List.getLast_mem nonempty)
    rw [beq_iff_eq.mp period] at digit
    exact absurd digit (by decide)

theorem Name.standing (name : Name) : Standing name.text.toList where
  whole := name.balanced.isWhole_eq_true
  closed := name.balanced.depthAtEnd_eq_zero
  started := (trimChars_eq_self_iff.mp name.trimmed).1
  ended := (trimChars_eq_self_iff.mp name.trimmed).2
  unstopped := by
    apply List.rdropWhile_eq_self_iff.mpr
    intro nonempty period
    apply name.unstopped
    rw [List.getLast?_eq_getLast_of_ne_nil nonempty, beq_iff_eq.mp period]

theorem Standing.after (standing : Standing back) (nonempty : back ≠ []) (plain : words.all isPlain = true)
    (started : words.dropWhile isBlank = words) : Standing (words ++ back) where
  whole := by rw [isWhole_append, isWhole_of_isPlain plain, depthAtEnd_of_isPlain plain, standing.whole]; rfl
  closed := by rw [depthAtEnd_append, depthAtEnd_of_isPlain plain, standing.closed]
  started := dropWhile_append_self started standing.started
  ended := dropEndWhile_append nonempty standing.ended words
  unstopped := dropEndWhile_append nonempty standing.unstopped words

theorem standing_number (n : Nat) : Standing (Nat.toDigits 10 n) :=
  standing_of_isDigit fun _ => Nat.isDigit_of_mem_toDigits (by decide) (by decide)

namespace Requirement

variable (requirement : Requirement)

theorem toList_text : requirement.text.toList = requirement.words.toList ++ requirement.object.toList :=
  String.toList_append

theorem words_isPlain : requirement.words.toList.all isPlain = true := by
  cases requirement with
  | abilityScore ability =>
    rw [words]
    cases ability <;> rfl
  | _ =>
    rw [words]
    rfl

theorem words_started : requirement.words.toList.dropWhile isBlank = requirement.words.toList := by
  cases requirement with
  | abilityScore ability =>
    rw [words]
    cases ability <;> rfl
  | _ =>
    rw [words]
    rfl

theorem object_standing : Standing requirement.object.toList ∧ requirement.object.toList ≠ [] := by
  cases requirement with
  | abilityScore _ least | attackBonus least | level least =>
    rw [object, toList_toString]
    exact ⟨standing_number least, Nat.toDigits_ne_nil⟩
  | trained name | named name => exact ⟨name.standing, name.nonempty⟩

theorem standing : Standing requirement.text.toList := by
  rw [toList_text]
  obtain ⟨standing, nonempty⟩ := requirement.object_standing
  exact standing.after nonempty requirement.words_isPlain requirement.words_started

end Requirement

theorem shortNumber?_toDigits {n : Nat} (short : n < 100) :
    shortNumber? ((Nat.toDigits 10 n).dropWhile isBlank) = some (n, []) := by
  rw [(standing_number n).started, Nat.toDigits_eq_if (by decide)]
  split
  next small =>
    rw [shortNumber?, digitValue?_digitChar small]
  next large =>
    rw [Nat.toDigits_of_lt_base (by omega), List.singleton_append]
    simp only [shortNumber?, digitValue?_digitChar (show n / 10 < 10 by omega),
      digitValue?_digitChar (show n % 10 < 10 by omega), Nat.div_add_mod']

theorem abilityClause?_title (ability : Ability) {n : Nat} (short : n < 100) :
    abilityClause? ((ability.title ++ " ").toList ++ Nat.toDigits 10 n) =
      some (.abilityScore ability (UInt8.ofNat n)) := by
  -- The word ends at the space, so the digits are not looked at.
  have letters : Ability.ofLetters? (((ability.title ++ " ").toList ++ Nat.toDigits 10 n).takeWhile isLetter) =
      some ability := by
    cases ability <;> rfl
  have gap : dropGap? (((ability.title ++ " ").toList ++ Nat.toDigits 10 n).dropWhile isLetter) =
      some ((Nat.toDigits 10 n).dropWhile isBlank) := by
    cases ability <;> rfl
  simp only [abilityClause?, letters, gap, shortNumber?_toDigits short, Option.bind_eq_bind, Option.bind_some]
  rfl

theorem attackBonusClause?_words {n : Nat} (short : n < 100) :
    attackBonusClause? ("Base attack bonus +".toList ++ Nat.toDigits 10 n) = some (.attackBonus (Int32.ofNat n)) := by
  have words : dropAttackBonus? ("Base attack bonus +".toList ++ Nat.toDigits 10 n) =
      some (' ' :: '+' :: Nat.toDigits 10 n) := rfl
  have sign : (dropPlus ((' ' :: '+' :: Nat.toDigits 10 n).dropWhile isBlank)).dropWhile isBlank =
      (Nat.toDigits 10 n).dropWhile isBlank := rfl
  simp only [attackBonusClause?, words, sign, shortNumber?_toDigits short, Option.bind_eq_bind, Option.bind_some]
  rfl

theorem levelClause?_words {n : Nat} (short : n < 100) :
    levelClause? ("Level ".toList ++ Nat.toDigits 10 n) = some (.level (UInt32.ofNat n)) := by
  have words : dropWordGap? "level" (dropLevelQualifier ("Level ".toList ++ Nat.toDigits 10 n)) =
      some ((Nat.toDigits 10 n).dropWhile isBlank) := rfl
  simp only [levelClause?, words, shortNumber?_toDigits short, Option.bind_eq_bind, Option.bind_some]
  rfl

theorem dropWord?_eq_some {word rest : List Char} (dropped : dropWord? word clause = some rest) :
    ∃ front, clause = front ++ rest ∧ front.map fold = word := by
  induction word generalizing clause with
  | nil => exact ⟨[], Option.some.inj dropped, rfl⟩
  | cons w word ih =>
    cases clause with
    | nil => contradiction
    | cons c clause =>
      rw [dropWord?] at dropped
      split at dropped
      next same =>
        obtain ⟨front, rfl, folded⟩ := ih dropped
        exact ⟨c :: front, rfl, by rw [List.map_cons, same, folded]⟩
      next => contradiction

theorem toLower_eq_fold (noLongS : fold c ≠ 's') (noKelvin : fold c ≠ 'k') : c.toLower = fold c := by
  unfold fold at noLongS noKelvin ⊢
  split
  next longS => exact absurd (if_pos longS) noLongS
  next short =>
    rw [if_neg short] at noKelvin
    split
    next kelvin => exact absurd (if_pos kelvin) noKelvin
    next => rfl

namespace Name

variable (name : Name)

theorem dropArticle : dropWordGap? "the" name.text.toList = none := by
  rw [dropWordGap?]
  cases dropped : dropWord? "the".toList name.text.toList with
  | none => rfl
  | some rest =>
    obtain ⟨front, whole, folded⟩ := dropWord?_eq_some dropped
    have length : front.length = 3 := by rw [← List.length_map fold, folded]; rfl
    have lower : front.map Char.toLower = "the".toList := by
      rw [← folded]
      apply List.map_congr_left
      intro c member
      have letter : fold c ∈ "the".toList := folded ▸ List.mem_map_of_mem member
      apply toLower_eq_fold <;> intro other <;> rw [other] at letter <;> exact absurd letter (by decide)
    -- The first word may go on, as in Theory; it is an article only if white space follows.
    have noGap := name.noArticle
    rw [whole, List.take_left' length, List.drop_left' length] at noGap
    cases rest with
    | nil => rfl
    | cons c rest =>
      have solid : isBlank c = false := noGap lower
      rw [Option.bind_some, dropGap?, solid]
      rfl

theorem trailingName?_text : trailingName? name.text.toList = some name.text := by
  have empty : name.text.toList.isEmpty = false := List.isEmpty_eq_false_iff.mpr name.nonempty
  have oneLine : name.text.toList.contains '\n' = false := by
    rw [List.contains_eq_mem]
    exact decide_eq_false name.oneLine
  simp only [trailingName?, name.dropArticle, Option.getD_none, empty, oneLine, name.trimmed, String.ofList_toList]
  rfl

theorem trainedClause?_text : trainedClause? ("Trained in ".toList ++ name.text.toList) = some (.trained name.text) := by
  have words : (dropWordGap? "trained" ("Trained in ".toList ++ name.text.toList)).bind (dropWordGap? "in") =
      some (name.text.toList.dropWhile isBlank) := rfl
  simp only [trainedClause?, words, name.standing.started, name.trailingName?_text, Option.bind_eq_bind,
    Option.bind_some]

theorem requiresClause?_text : requiresClause? ("Requires ".toList ++ name.text.toList) = some (.named name.text) := by
  have words : (dropWordGap? "requires" ("Requires ".toList ++ name.text.toList) <|>
      dropWordGap? "require" ("Requires ".toList ++ name.text.toList)) = some (name.text.toList.dropWhile isBlank) := rfl
  simp only [requiresClause?, words, name.standing.started, name.trailingName?_text, Option.bind_eq_bind,
    Option.bind_some]

end Name

theorem Requirement.clause?_text (requirement : Requirement) :
    clause? requirement.text.toList = some requirement.expression := by
  rw [toList_text]
  -- Every other pattern that is tried before fails at the first word, whatever number or name follows.
  cases requirement with
  | abilityScore ability least =>
    rw [words, object, toList_toString, clause?, abilityClause?_title ability least.isLt]
    rfl
  | attackBonus least =>
    have other : abilityClause? ("Base attack bonus +".toList ++ Nat.toDigits 10 least) = none := rfl
    rw [words, object, toList_toString, clause?, other, attackBonusClause?_words least.isLt]
    rfl
  | level least =>
    have noAbility : abilityClause? ("Level ".toList ++ Nat.toDigits 10 least) = none := rfl
    have noBonus : attackBonusClause? ("Level ".toList ++ Nat.toDigits 10 least) = none := rfl
    rw [words, object, toList_toString, clause?, noAbility, noBonus, levelClause?_words least.isLt]
    rfl
  | trained skill =>
    rw [words, object, clause?, skill.trainedClause?_text]
    rfl
  | named name =>
    rw [words, object, clause?, name.requiresClause?_text]
    rfl

end Legality.RulesText
