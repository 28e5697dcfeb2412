import Legality.Proofs.Text.Basic
import Legality.Proofs.Text.Key
import Legality.Proofs.Text.Lowercase
import Mathlib.Logic.Relation

/-!
The words of a name. Once its punctuation is deleted, a name is cut at its separators, and whatever is not empty between two
cuts is a word. A key is the lower case of the words with single spaces between them, so names have one key exactly if their
words agree in lower case. How a name is punctuated shows in no word: punctuation, the choice and number of the separators
in a gap, and separators at either end are all that two names with the same words can differ in.
-/
namespace Legality.Text

/-- What separators divide, empty pieces included, once punctuation is deleted. -/
def pieces (cs : List Char) : List (List Char) := (cs.filter isKept).splitOnP isSeparator

def filled (pieces : List (List Char)) : List (List Char) := pieces.filter fun piece => !piece.isEmpty

def words (cs : List Char) : List (List Char) := filled (pieces cs)

/-- The lower case of a word: that of each of its characters, whatever stands beside it. -/
def lowered (word : List Char) : List Char := word.flatMap lower

def spaced (words : List (List Char)) : List Char := [' '].intercalate words

def trailing (words : List (List Char)) : List Char := words.flatMap (' ' :: ·)

section Spacing

variable {parts front back : List (List Char)}

theorem trailing_cons (word : List Char) (rest : List (List Char)) :
    trailing (word :: rest) = ' ' :: word ++ trailing rest := rfl

theorem spaced_cons (word : List Char) (rest : List (List Char)) : spaced (word :: rest) = word ++ trailing rest := by
  induction rest generalizing word with
  | nil => rw [spaced, List.intercalate_singleton, trailing, List.flatMap_nil, List.append_nil]
  | cons next rest ih =>
    rw [spaced, List.intercalate_cons_cons, ← spaced, ih next, trailing_cons, List.append_assoc]
    rfl

theorem spaced_nil_cons (some : parts ≠ []) : spaced ([] :: parts) = ' ' :: spaced parts :=
  List.intercalate_cons_of_ne_nil some

theorem spaced_append (someFront : front ≠ []) (someBack : back ≠ []) :
    spaced (front ++ back) = spaced front ++ [' '] ++ spaced back := by
  obtain ⟨first, front, rfl⟩ := List.exists_cons_of_ne_nil someFront
  obtain ⟨next, back, rfl⟩ := List.exists_cons_of_ne_nil someBack
  rw [List.cons_append, spaced_cons, spaced_cons, spaced_cons, trailing, List.flatMap_append, List.flatMap_cons]
  simp only [trailing, List.append_assoc, List.cons_append, List.nil_append]

theorem filled_append (front back : List (List Char)) : filled (front ++ back) = filled front ++ filled back :=
  List.filter_append ..

theorem filled_nil_cons (rest : List (List Char)) : filled ([] :: rest) = filled rest := rfl

theorem filled_cons_cons (c : Char) (word : List Char) (rest : List (List Char)) :
    filled ((c :: word) :: rest) = (c :: word) :: filled rest := rfl

theorem filled_eq_self (nonempty : ∀ word ∈ parts, word ≠ []) : filled parts = parts := by
  apply List.filter_eq_self.mpr
  intro word member
  simpa using nonempty word member

theorem filled_splitOn_spaced (nonempty : ∀ word ∈ parts, word ≠ []) (solid : ∀ word ∈ parts, ' ' ∉ word) :
    filled ((spaced parts).splitOn ' ') = parts := by
  by_cases empty : parts = []
  · subst empty
    rfl
  · rw [spaced, List.splitOn_intercalate ' ' solid empty, filled_eq_self nonempty]

end Spacing

section Words

variable {c : Char} {cs word : List Char}

theorem pieces_ne_nil (cs : List Char) : pieces cs ≠ [] := List.splitOnP_ne_nil _ _

theorem exists_pieces_cons_letter (letter : isAlphanumeric c = true) (rest : List Char) :
    ∃ first later, pieces rest = first :: later ∧ pieces (c :: rest) = (c :: first) :: later := by
  obtain ⟨first, later, cut⟩ := List.exists_cons_of_ne_nil (pieces_ne_nil rest)
  refine ⟨first, later, cut, ?_⟩
  rw [pieces, List.filter_cons_of_pos (isKept_of_isAlphanumeric letter), List.splitOnP_cons_eq_if_modifyHead,
    isSeparator_of_isAlphanumeric letter, if_neg Bool.false_ne_true, ← pieces, cut, List.modifyHead_cons]

theorem pieces_append_separator (separator : isSeparator c = true) (front back : List Char) :
    pieces (front ++ c :: back) = pieces front ++ pieces back := by
  rw [pieces, List.filter_append, List.filter_cons_of_pos (isKept_of_isSeparator separator),
    List.splitOnP_append_cons _ _ separator, pieces, pieces]

theorem pieces_cons_separator (separator : isSeparator c = true) (rest : List Char) :
    pieces (c :: rest) = [] :: pieces rest :=
  pieces_append_separator separator [] rest

theorem pieces_append_punctuation (punctuation : isKept c = false) (front back : List Char) :
    pieces (front ++ c :: back) = pieces (front ++ back) := by
  have deleted : (front ++ c :: back).filter isKept = (front ++ back).filter isKept := by
    rw [List.filter_append, List.filter_append, List.filter_cons_of_neg (Bool.eq_false_iff.mp punctuation)]
  rw [pieces, deleted, pieces]

theorem pieces_cons_punctuation (punctuation : isKept c = false) (rest : List Char) :
    pieces (c :: rest) = pieces rest :=
  pieces_append_punctuation punctuation [] rest

theorem isAlphanumeric_of_mem_pieces (cs : List Char) : ∀ piece ∈ pieces cs, ∀ c ∈ piece, isAlphanumeric c = true := by
  induction cs using induction_on_characters with
  | nil =>
    intro piece member
    rw [List.mem_singleton.mp member]
    exact List.forall_mem_nil _
  | letter c rest letter ih =>
    obtain ⟨first, later, cut, extended⟩ := exists_pieces_cons_letter letter rest
    rw [cut, List.forall_mem_cons] at ih
    rw [extended, List.forall_mem_cons, List.forall_mem_cons]
    exact ⟨⟨letter, ih.1⟩, ih.2⟩
  | separator c rest separator ih =>
    rw [pieces_cons_separator separator, List.forall_mem_cons]
    exact ⟨List.forall_mem_nil _, ih⟩
  | punctuation c rest punctuation ih =>
    rwa [pieces_cons_punctuation punctuation]

theorem ne_nil_of_mem_words (member : word ∈ words cs) : word ≠ [] := by
  simpa using (List.mem_filter.mp member).2

theorem isAlphanumeric_of_mem_words (member : word ∈ words cs) : ∀ c ∈ word, isAlphanumeric c = true :=
  isAlphanumeric_of_mem_pieces cs word (List.mem_filter.mp member).1

theorem words_append_separator (separator : isSeparator c = true) (front back : List Char) :
    words (front ++ c :: back) = words front ++ words back := by
  rw [words, pieces_append_separator separator, filled_append, words, words]

theorem words_append_punctuation (punctuation : isKept c = false) (front back : List Char) :
    words (front ++ c :: back) = words (front ++ back) := by
  rw [words, pieces_append_punctuation punctuation, words]

theorem words_cons_separator (separator : isSeparator c = true) (rest : List Char) : words (c :: rest) = words rest :=
  words_append_separator separator [] rest

theorem words_cons_punctuation (punctuation : isKept c = false) (rest : List Char) : words (c :: rest) = words rest :=
  words_append_punctuation punctuation [] rest

variable {separators : List Char} (all : ∀ c ∈ separators, isSeparator c = true)
include all

theorem words_separators_append (cs : List Char) : words (separators ++ cs) = words cs := by
  induction separators with
  | nil => rfl
  | cons c rest ih =>
    obtain ⟨first, later⟩ := List.forall_mem_cons.mp all
    rw [List.cons_append, words_cons_separator first, ih later]

theorem words_append_separators (cs : List Char) : words (cs ++ separators) = words cs := by
  cases separators with
  | nil => rw [List.append_nil]
  | cons c rest =>
    obtain ⟨first, later⟩ := List.forall_mem_cons.mp all
    have none : words rest = [] := by
      have alone := words_separators_append later []
      rwa [List.append_nil] at alone
    rw [words_append_separator first, none, List.append_nil]

end Words

section Keys

theorem lowered_cons (c : Char) (word : List Char) : lowered (c :: word) = lower c ++ lowered word := rfl

/-- Once a letter has been written, the pass goes on with the rest of a word as long as no separator is pending; the words
behind a separator have a space in front of each. -/
theorem keyChars_started {first : List Char} {later : List (List Char)} (cs : List Char)
    (cut : pieces cs = first :: later) :
    keyChars true false cs = lowered first ++ trailing ((filled later).map lowered) ∧
      keyChars true true cs = trailing ((words cs).map lowered) := by
  induction cs using induction_on_characters generalizing first later with
  | nil =>
    obtain ⟨rfl, rfl⟩ := List.cons.inj cut
    exact ⟨rfl, rfl⟩
  | letter c rest letter ih =>
    obtain ⟨next, behind, cutRest, extended⟩ := exists_pieces_cons_letter letter rest
    obtain ⟨within, -⟩ := ih cutRest
    obtain ⟨rfl, rfl⟩ := List.cons.inj (extended.symm.trans cut)
    have found : words (c :: rest) = (c :: next) :: filled behind := by rw [words, extended, filled_cons_cons]
    rw [keyChars_cons_letter letter, keyChars_cons_letter letter, within, found, List.map_cons, trailing_cons, lowered_cons]
    simp
  | separator c rest separator ih =>
    obtain ⟨next, behind, cutRest⟩ := List.exists_cons_of_ne_nil (pieces_ne_nil rest)
    obtain ⟨-, pending⟩ := ih cutRest
    rw [pieces_cons_separator separator] at cut
    obtain ⟨rfl, rfl⟩ := List.cons.inj cut
    rw [keyChars_cons_separator separator, keyChars_cons_separator separator, pending, words_cons_separator separator]
    exact ⟨rfl, rfl⟩
  | punctuation c rest punctuation ih =>
    rw [pieces_cons_punctuation punctuation] at cut
    rw [keyChars_cons_punctuation punctuation, keyChars_cons_punctuation punctuation, words_cons_punctuation punctuation]
    exact ih cut

/-- The pass over a name writes the lower case of its words with single spaces between them. -/
theorem keyChars_eq_spaced (cs : List Char) : keyChars false false cs = spaced ((words cs).map lowered) := by
  induction cs using induction_on_characters with
  | nil => rfl
  | letter c rest letter _ =>
    obtain ⟨next, behind, cut, extended⟩ := exists_pieces_cons_letter letter rest
    obtain ⟨within, -⟩ := keyChars_started rest cut
    have found : words (c :: rest) = (c :: next) :: filled behind := by rw [words, extended, filled_cons_cons]
    rw [keyChars_cons_letter letter, within, found, List.map_cons, spaced_cons, lowered_cons]
    simp
  | separator c rest separator ih =>
    rw [keyChars_cons_separator separator, keyChars_pending, ih, words_cons_separator separator]
  | punctuation c rest punctuation ih =>
    rw [keyChars_cons_punctuation punctuation, ih, words_cons_punctuation punctuation]

theorem space_notMem_lower {c : Char} (letter : isAlphanumeric c = true) : ' ' ∉ lower c := by
  intro space
  obtain ⟨-, isDot⟩ := (mem_lower_iff letter (isAlphanumeric_of_isBlank (by decide))).mp space
  exact absurd isDot (by decide)

theorem filled_splitOn_keyChars (cs : List Char) :
    filled ((keyChars false false cs).splitOn ' ') = (words cs).map lowered := by
  rw [keyChars_eq_spaced]
  apply filled_splitOn_spaced
  · intro word member
    obtain ⟨source, listed, rfl⟩ := List.mem_map.mp member
    obtain ⟨c, rest, rfl⟩ := List.exists_cons_of_ne_nil (ne_nil_of_mem_words listed)
    rw [lowered_cons]
    exact List.append_ne_nil_of_left_ne_nil (lower_ne_nil c) _
  · intro word member space
    obtain ⟨source, listed, rfl⟩ := List.mem_map.mp member
    obtain ⟨c, held, written⟩ := List.mem_flatMap.mp space
    exact space_notMem_lower (isAlphanumeric_of_mem_words listed c held) written

/-- Names have one key exactly if their words agree in lower case. -/
theorem key_eq_key_iff {name other : String} :
    key name = key other ↔ (words name.toList).map lowered = (words other.toList).map lowered := by
  rw [key, key, String.ofList_inj]
  constructor
  · intro same
    rw [← filled_splitOn_keyChars, same, filled_splitOn_keyChars]
  · intro same
    rw [keyChars_eq_spaced, same, ← keyChars_eq_spaced]

theorem key_trim (name : String) : key (trim name) = key name := by
  obtain ⟨left, right, whole, leftBlank, rightBlank⟩ := exists_trimChars name.toList
  have same : words name.toList = words (trimChars name.toList) := by
    calc
      words name.toList = words (left ++ trimChars name.toList ++ right) := by rw [← whole]
      _ = words (left ++ trimChars name.toList) :=
        words_append_separators (fun c member => isSeparator_of_isBlank (rightBlank c member)) _
      _ = words (trimChars name.toList) :=
        words_separators_append (fun c member => isSeparator_of_isBlank (leftBlank c member)) _
  rw [key_eq_key_iff, trim, String.toList_ofList, same]

end Keys

section Punctuating

/-- A gap between words: one or more separators. -/
structure IsGap (cs : List Char) : Prop where
  nonempty : cs ≠ []
  separators : ∀ c ∈ cs, isSeparator c = true

/-- One change in how a name is punctuated: punctuation is deleted, a gap is written with other separators, or separators at
an end are left out. -/
inductive Repunctuation : List Char → List Char → Prop where
  | deletion (front back : List Char) {c : Char} (punctuation : isKept c = false) :
      Repunctuation (front ++ c :: back) (front ++ back)
  | gap (front back : List Char) {old new : List Char} (before : IsGap old) (after : IsGap new) :
      Repunctuation (front ++ old ++ back) (front ++ new ++ back)
  | leading (cs : List Char) {separators : List Char} (all : ∀ c ∈ separators, isSeparator c = true) :
      Repunctuation (separators ++ cs) cs
  | trailing (cs : List Char) {separators : List Char} (all : ∀ c ∈ separators, isSeparator c = true) :
      Repunctuation (cs ++ separators) cs

/-- Names that differ in punctuation only: changes, made or undone, lead from one to the other. -/
def Repunctuated : List Char → List Char → Prop := Relation.EqvGen Repunctuation

variable {cs others : List Char}

theorem IsGap.words_append {gap : List Char} (isGap : IsGap gap) (front back : List Char) :
    words (front ++ gap ++ back) = words front ++ words back := by
  obtain ⟨c, rest, rfl⟩ := List.exists_cons_of_ne_nil isGap.nonempty
  obtain ⟨first, later⟩ := List.forall_mem_cons.mp isGap.separators
  rw [List.append_assoc, List.cons_append, words_append_separator first, words_separators_append later]

theorem IsGap.append {first second : List Char} (isGap : IsGap first) (more : IsGap second) : IsGap (first ++ second) where
  nonempty := List.append_ne_nil_of_left_ne_nil isGap.nonempty second
  separators := List.forall_mem_append.mpr ⟨isGap.separators, more.separators⟩

theorem isGap_singleton {c : Char} (separator : isSeparator c = true) : IsGap [c] :=
  ⟨List.cons_ne_nil _ _, List.forall_mem_singleton.mpr separator⟩

theorem isGap_space : IsGap [' '] := isGap_singleton (by decide)

theorem Repunctuation.words_eq (change : Repunctuation cs others) : words cs = words others := by
  cases change with
  | deletion front back punctuation => exact words_append_punctuation punctuation front back
  | gap front back before after => rw [before.words_append, after.words_append]
  | leading _ all => exact words_separators_append all others
  | trailing _ all => exact words_append_separators all others

namespace Repunctuated

theorem words_eq (alike : Repunctuated cs others) : words cs = words others := by
  induction alike with
  | rel _ _ change => exact change.words_eq
  | refl _ => rfl
  | symm _ _ _ ih => exact ih.symm
  | trans _ _ _ _ _ first second => exact first.trans second

/-- Punctuation can be deleted and every separator written as a space, from the first character on. -/
theorem to_pieces (front cs : List Char) : Repunctuated (front ++ cs) (front ++ spaced (pieces cs)) := by
  induction cs using induction_on_characters generalizing front with
  | nil => exact .refl _
  | letter c rest letter ih =>
    obtain ⟨first, later, cut, extended⟩ := exists_pieces_cons_letter letter rest
    have written : spaced (pieces (c :: rest)) = c :: spaced (pieces rest) := by
      rw [extended, cut, spaced_cons, spaced_cons, List.cons_append]
    rw [written, List.append_cons front c rest, List.append_cons front c (spaced (pieces rest))]
    exact ih (front ++ [c])
  | separator c rest separator ih =>
    have change : Repunctuation (front ++ [c] ++ rest) (front ++ [' '] ++ rest) :=
      .gap front rest (isGap_singleton separator) isGap_space
    rw [pieces_cons_separator separator, spaced_nil_cons (pieces_ne_nil rest), List.append_cons front c rest,
      List.append_cons front ' ' (spaced (pieces rest))]
    exact .trans _ _ _ (.rel _ _ change) (ih (front ++ [' ']))
  | punctuation c rest punctuation ih =>
    rw [pieces_cons_punctuation punctuation]
    exact .trans _ _ _ (.rel _ _ (.deletion front rest punctuation)) (ih front)

theorem drop_nil (front back : List (List Char)) :
    Repunctuated (spaced (front ++ [] :: back)) (spaced (front ++ back)) := by
  by_cases noFront : front = []
  · subst noFront
    by_cases noBack : back = []
    · subst noBack
      exact .refl _
    · rw [List.nil_append, List.nil_append, spaced_nil_cons noBack]
      exact .rel _ _ (.leading (spaced back) isGap_space.separators)
  · rw [spaced_append noFront (List.cons_ne_nil _ _)]
    by_cases noBack : back = []
    · subst noBack
      have alone : spaced [[]] = [] := rfl
      rw [alone, List.append_nil, List.append_nil]
      exact .rel _ _ (.trailing (spaced front) isGap_space.separators)
    · have twice : spaced front ++ [' '] ++ spaced ([] :: back) = spaced front ++ ([' '] ++ [' ']) ++ spaced back := by
        rw [spaced_nil_cons noBack, List.append_cons, List.append_assoc (spaced front)]
      rw [twice, spaced_append noFront noBack]
      exact .rel _ _ (.gap (spaced front) (spaced back) (isGap_space.append isGap_space) isGap_space)

theorem to_filled (front parts : List (List Char)) :
    Repunctuated (spaced (front ++ parts)) (spaced (front ++ filled parts)) := by
  induction parts generalizing front with
  | nil => exact .refl _
  | cons piece rest ih =>
    cases piece with
    | nil =>
      rw [filled_nil_cons]
      exact .trans _ _ _ (drop_nil front rest) (ih front)
    | cons c word =>
      rw [filled_cons_cons, List.append_cons front _ rest, List.append_cons front _ (filled rest)]
      exact ih (front ++ [c :: word])

theorem to_words (cs : List Char) : Repunctuated cs (spaced (words cs)) :=
  .trans _ _ _ (to_pieces [] cs) (to_filled [] (pieces cs))

end Repunctuated

/-- Names differ in punctuation only exactly if they have the same words. -/
theorem repunctuated_iff : Repunctuated cs others ↔ words cs = words others := by
  constructor
  · exact Repunctuated.words_eq
  · intro same
    have back := Repunctuated.to_words others
    rw [← same] at back
    exact .trans _ _ _ (Repunctuated.to_words cs) (.symm _ _ back)

/-- The key of a name is the lower case of its words with single spaces between them: punctuation is deleted, what is left is
cut at white space, hyphens, underscores and slashes, and empty pieces are dropped. So names that differ in punctuation only
have one key. -/
theorem key_eq_spaced_words (name : String) :
    key name = String.ofList (spaced ((words name.toList).map lowered)) ∧
      ∀ other : String, Repunctuated name.toList other.toList → key name = key other := by
  constructor
  · rw [key, keyChars_eq_spaced]
  · intro other alike
    rw [key_eq_key_iff, alike.words_eq]

theorem key_eq_spaced_words_pistols :
    Repunctuated "Weapon Proficiency (Pistols)".toList "_Weapon/ Proficiency - Pistol's/".toList ∧
      key "Weapon Proficiency (Pistols)" = key "_Weapon/ Proficiency - Pistol's/" := by
  have alike : Repunctuated "Weapon Proficiency (Pistols)".toList "_Weapon/ Proficiency - Pistol's/".toList :=
    repunctuated_iff.mpr (by decide +kernel)
  exact ⟨alike, (key_eq_spaced_words _).2 _ alike⟩

/-- A sigma has one lower case, also at the end of a word. -/
example : key "ΟΔΟΣ--Σ" = "οδοσ σ" := by decide +kernel

end Punctuating

end Legality.Text
