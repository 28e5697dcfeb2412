import Legality.Proofs.Prerequisite.Canonical
import Legality.Proofs.Prerequisite.RulesText
import Legality.Proofs.Text.Key
import Legality.Proofs.Text.LetterCase

/-!
Names of abilities. An ability is read off the first three letters of a word, wherever the word goes from there. So its
full name and its abbreviation are read, and so is any other word that starts alike.
-/
namespace Legality

open Text

namespace Ability

def abbreviation (ability : Ability) : List Char := ability.label.toList.take 3

/-- Whether a text is the full name of an ability or its abbreviation, in any letter case. -/
def IsName (ability : Ability) (text : List Char) : Prop :=
  text.map Char.toLower = ability.label.toList ∨ text.map Char.toLower = ability.abbreviation

instance (ability : Ability) (text : List Char) : Decidable (ability.IsName text) :=
  inferInstanceAs (Decidable (_ ∨ _))

variable {ability : Ability} {word : List Char}

theorem ofLetters?_eq_some_iff : ofLetters? word = some ability ↔ ability.abbreviation <+: word.map Char.toLower := by
  unfold ofLetters?
  generalize word.map Char.toLower = small
  constructor
  · intro found
    split at found <;> cases found <;> exact ⟨_, rfl⟩
  · rintro ⟨rest, rfl⟩
    cases ability <;> rfl

theorem IsName.starts (named : ability.IsName word) : ability.abbreviation <+: word.map Char.toLower := by
  rcases named with whole | short
  · rw [whole]
    exact List.take_prefix 3 _
  · rw [short]

theorem parse?_eq_some_iff {text : String} :
    parse? text = some ability ↔ ability.abbreviation <+: (trim text).toList.map Char.toLower := by
  rw [parse?, ofLetters?_eq_some_iff, trim, String.toList_ofList]

end Ability

namespace RulesText

/-- A word of ASCII letters and, after white space, a number. -/
structure NumberedWord where
  word : List Char
  gap : List Char
  digits : List Char
  word_ne_nil : word ≠ []
  gap_ne_nil : gap ≠ []
  digits_ne_nil : digits ≠ []
  letters : ∀ c ∈ word, c.isAlpha = true
  blanks : ∀ c ∈ gap, isBlank c = true
  decimal : ∀ c ∈ digits, c.isDigit = true

variable {c : Char}

theorem letter_of_isAlpha (letter : c.isAlpha = true) : isLetter c = true ∧ isPlain c = true ∧ isBlank c = false := by
  have inside : inRanges [(0x41, 0x5A), (0x61, 0x7A)] c.toNat = true := by
    simp only [inRanges, List.any_cons, List.any_nil, Bool.or_eq_true, Bool.and_eq_true, decide_eq_true_eq]
    rcases Bool.or_eq_true_iff.mp letter with capital | small
    · exact .inl (isUpper_iff.mp capital)
    · exact .inr (.inl (isLower_iff.mp small))
  exact forall_of_inRanges (fun c => isLetter c = true ∧ isPlain c = true ∧ isBlank c = false) (by decide) inside

theorem gap_of_isBlank (blank : isBlank c = true) : isLetter c = false ∧ isPlain c = true := by
  rw [isBlank_eq] at blank
  exact forall_of_inRanges (fun c => isLetter c = false ∧ isPlain c = true) (by decide) blank

theorem shortNumber?_digits {digits : List Char} (decimal : ∀ c ∈ digits, c.isDigit = true) :
    ((shortNumber? digits).bind fun (least, rest) =>
      if (dropPlus (rest.dropWhile isBlank)).isEmpty then some least else none) =
      if digits.length ≤ 2 then readDigits? digits else none := by
  match digits with
  | [] => rfl
  | [c] =>
    have known := digitValue?_of_isDigit (decimal c (by simp))
    simp [shortNumber?, readDigits?, readDigitsFrom, known, dropPlus]
  | [c, d] =>
    have known := digitValue?_of_isDigit (decimal c (by simp))
    have knownNext := digitValue?_of_isDigit (decimal d (by simp))
    simp [shortNumber?, readDigits?, readDigitsFrom, known, knownNext, dropPlus]
  | c :: d :: third :: rest =>
    have known := digitValue?_of_isDigit (decimal c (by simp))
    have knownNext := digitValue?_of_isDigit (decimal d (by simp))
    have digit : third.isDigit = true := decimal third (by simp)
    have kept : dropPlus (third :: rest) = third :: rest := by
      unfold dropPlus
      split
      next starts =>
        rw [(List.cons.inj starts).1] at digit
        contradiction
      next => rfl
    simp [shortNumber?, known, knownNext, not_isBlank_of_isDigit digit, kept]

namespace NumberedWord

variable (numbered : NumberedWord)

def chars : List Char := numbered.word ++ (numbered.gap ++ numbered.digits)

def text : String := String.ofList numbered.chars

theorem standing : Standing numbered.chars := by
  have plain : (numbered.word ++ numbered.gap).all isPlain = true := by
    rw [List.all_append, Bool.and_eq_true, List.all_eq_true, List.all_eq_true]
    exact ⟨fun c member => (letter_of_isAlpha (numbered.letters c member)).2.1,
      fun c member => (gap_of_isBlank (numbered.blanks c member)).2⟩
  have started : (numbered.word ++ numbered.gap).dropWhile isBlank = numbered.word ++ numbered.gap := by
    obtain ⟨first, rest, starts⟩ := List.exists_cons_of_ne_nil numbered.word_ne_nil
    have letter : first.isAlpha = true := numbered.letters first (by simp [starts])
    rw [starts, List.cons_append, List.dropWhile_cons_of_neg]
    simp [(letter_of_isAlpha letter).2.2]
  unfold chars
  rw [← List.append_assoc]
  exact (standing_of_isDigit numbered.decimal).after numbered.digits_ne_nil plain started

theorem clauses_text : clauses numbered.text.toList = [numbered.chars] := by
  have whole := numbered.standing.clauses_eq (List.forall_mem_nil _) (.inl rfl)
  rw [List.nil_append, List.append_nil] at whole
  rw [text, String.toList_ofList, whole]
  simp [chars, numbered.word_ne_nil]

theorem gap_starts : ∃ first rest, numbered.gap = first :: rest ∧ isBlank first = true ∧ ∀ c ∈ rest, isBlank c = true := by
  obtain ⟨first, rest, starts⟩ := List.exists_cons_of_ne_nil numbered.gap_ne_nil
  exact ⟨first, rest, starts, List.forall_mem_cons.mp (starts ▸ numbered.blanks)⟩

theorem takeWhile_isLetter : numbered.chars.takeWhile isLetter = numbered.word := by
  obtain ⟨first, rest, starts, blank, -⟩ := numbered.gap_starts
  unfold chars
  rw [List.takeWhile_append_of_pos fun c member => (letter_of_isAlpha (numbered.letters c member)).1, starts,
    List.cons_append, List.takeWhile_cons_of_neg (by simp [(gap_of_isBlank blank).1]), List.append_nil]

theorem dropWhile_isLetter : numbered.chars.dropWhile isLetter = numbered.gap ++ numbered.digits := by
  obtain ⟨first, rest, starts, blank, -⟩ := numbered.gap_starts
  unfold chars
  rw [List.dropWhile_append_of_pos fun c member => (letter_of_isAlpha (numbered.letters c member)).1, starts,
    List.cons_append, List.dropWhile_cons_of_neg (by simp [(gap_of_isBlank blank).1])]

theorem dropGap? : dropGap? (numbered.gap ++ numbered.digits) = some numbered.digits := by
  obtain ⟨first, rest, starts, blank, later⟩ := numbered.gap_starts
  rw [starts, List.cons_append, RulesText.dropGap?, if_pos blank, List.dropWhile_append_of_pos later,
    (standing_of_isDigit numbered.decimal).started]

theorem abilityClause?_eq : abilityClause? numbered.chars =
    (Ability.ofLetters? numbered.word).bind fun ability =>
      (if numbered.digits.length ≤ 2 then readDigits? numbered.digits else none).map fun least =>
        .abilityScore ability (UInt8.ofNat least) := by
  rw [← shortNumber?_digits numbered.decimal]
  simp only [abilityClause?, numbered.takeWhile_isLetter, numbered.dropWhile_isLetter, numbered.dropGap?,
    Option.bind_eq_bind, Option.bind_some]
  congr
  funext ability
  cases shortNumber? numbered.digits with
  | none => rfl
  | some found =>
    simp only [Option.bind_some]
    split <;> rfl

theorem items_text_iff {ability : Ability} {least : UInt8} :
    (read numbered.text).items = [.abilityScore ability least] ↔
      ability.abbreviation <+: numbered.word.map Char.toLower ∧
        numbered.digits.length ≤ 2 ∧ (readDigits? numbered.digits).map UInt8.ofNat = some least := by
  have items : (read numbered.text).items = [.abilityScore ability least] ↔
      clause? numbered.chars = some (.abilityScore ability least) := by
    simp only [read, numbered.clauses_text]
    cases found : clause? numbered.chars <;> simp [found]
  rw [items, clause?_eq_abilityScore_iff, abilityClause?_eq, ← Ability.ofLetters?_eq_some_iff]
  simp [Expression.abilityScore, Option.bind_eq_some_iff, Option.ite_none_right_eq_some, and_assoc]

end NumberedWord

end RulesText

/-- Abilities are read by their first three letters. A text is read as an ability exactly if its trimmed form starts with
the abbreviation of that ability in some letter case; so the full name and the abbreviation always are. And a word with a
number behind it, as rules text, asks for a score exactly if the word starts so and the number has one or two digits. -/
theorem Ability.read_by_letters (ability : Ability) :
    (∀ text, parse? text = some ability ↔ ability.abbreviation <+: (trim text).toList.map Char.toLower) ∧
    (∀ text, ability.IsName (trim text).toList → parse? text = some ability) ∧
    ∀ (numbered : RulesText.NumberedWord) (least : UInt8),
      (RulesText.read numbered.text).items = [.abilityScore ability least] ↔
        ability.abbreviation <+: numbered.word.map Char.toLower ∧
          numbered.digits.length ≤ 2 ∧ (readDigits? numbered.digits).map UInt8.ofNat = some least :=
  ⟨fun _ => parse?_eq_some_iff, fun _ named => parse?_eq_some_iff.mpr named.starts,
    fun numbered _ => numbered.items_text_iff⟩

def RulesText.wise : NumberedWord where
  word := ['w', 'I', 's']
  gap := ['\u2003', '\t']
  digits := ['0', '7']
  word_ne_nil := by decide
  gap_ne_nil := by decide
  digits_ne_nil := by decide
  letters := List.all_eq_true.mp (by decide)
  blanks := List.all_eq_true.mp (by decide)
  decimal := List.all_eq_true.mp (by decide)

theorem Ability.read_by_letters_wise :
    parse? " WISDOM\n" = some wisdom ∧ (RulesText.read RulesText.wise.text).items = [.abilityScore .wisdom 7] := by
  obtain ⟨-, byName, inRulesText⟩ := read_by_letters wisdom
  constructor
  · exact byName " WISDOM\n" (by decide)
  · exact (inRulesText RulesText.wise 7).mpr (by decide)

/-- What only starts like an ability is no name of one, and is read as one all the same. -/
theorem Ability.read_by_letters_strange :
    parse? "Strange" = some strength ∧ (∀ ability : Ability, ¬ ability.IsName (trim "Strange").toList) ∧
      RulesText.read "Strange 13" = ⟨[.abilityScore .strength 13], []⟩ := by
  refine ⟨by decide, ?_, by rfl⟩
  intro ability
  cases ability <;> decide

end Legality
