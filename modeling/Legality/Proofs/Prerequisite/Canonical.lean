import Legality.Proofs.Prerequisite.Wording

/-!
Rules text in its canonical form. Requirements that are written out, and joined by commas and semicolons, are read back as
they were: as many, in their order, and nothing besides.
-/
namespace Legality.RulesText

open Text

/-- What stands between two requirements. -/
inductive Joint
  | comma
  | semicolon

namespace Joint

def separator : Joint → Char
  | comma => ','
  | semicolon => ';'

def text (joint : Joint) : String := String.ofList [joint.separator, ' ']

end Joint

/-- Requirements in words, each with the joint between it and the next one; the joint of the last is not written. -/
def sheet : List (Requirement × Joint) → String
  | [] => ""
  | [(last, _)] => last.text
  | (requirement, joint) :: next :: rest => requirement.text ++ joint.text ++ sheet (next :: rest)

variable {clause : List Char}

theorem isPlain_of_spaces {lead : List Char} (spaces : ∀ c ∈ lead, c = ' ') : lead.all isPlain = true := by
  apply List.all_eq_true.mpr
  intro c member
  rw [spaces c member]
  rfl

section Surroundings

variable {lead stop : List Char} (spaces : ∀ c ∈ lead, c = ' ') (stops : stop = [] ∨ stop = ['.'])
include spaces stops

namespace Standing

theorem trimClause_eq (standing : Standing clause) : trimClause (lead ++ (clause ++ stop)) = clause := by
  have blank : ∀ c ∈ lead, isBlank c = true := by
    intro c member
    rw [spaces c member]
    decide
  have trimmed : trimChars (clause ++ stop) = clause ++ stop := by
    apply trimChars_eq_self_iff.mpr
    rcases stops with rfl | rfl
    · rw [List.append_nil]
      exact ⟨standing.started, standing.ended⟩
    · exact ⟨dropWhile_append_self standing.started rfl, dropEndWhile_append (List.cons_ne_nil _ _) rfl clause⟩
  have unstopped : dropEndWhile (· == '.') (clause ++ stop) = clause := by
    rcases stops with rfl | rfl
    · rw [List.append_nil, standing.unstopped]
    · rw [dropEndWhile, List.reverse_concat, List.dropWhile_cons_of_pos rfl]
      exact standing.unstopped
  rw [trimClause, trimChars_blanks_append blank, trimmed, unstopped]
  exact trimChars_eq_self_iff.mpr ⟨standing.started, standing.ended⟩

theorem clauses_eq (standing : Standing clause) :
    clauses (lead ++ (clause ++ stop)) = [clause].filter fun clause => !clause.isEmpty := by
  have plainStop : stop.all isPlain = true := by rcases stops with rfl | rfl <;> rfl
  have whole : isWhole 0 (lead ++ (clause ++ stop)) = true := by
    rw [isWhole_append, isWhole_append, isWhole_of_isPlain (isPlain_of_spaces spaces),
      depthAtEnd_of_isPlain (isPlain_of_spaces spaces), standing.whole, isWhole_of_isPlain plainStop]
    rfl
  rw [clauses, pieces_of_isWhole whole, List.map_singleton, standing.trimClause_eq spaces stops]

end Standing

theorem Requirement.clauses_text (requirement : Requirement) :
    clauses (lead ++ (requirement.text.toList ++ stop)) = [requirement.text.toList] := by
  have nonempty : requirement.text.toList.isEmpty = false := by
    apply List.isEmpty_eq_false_iff.mpr
    intro empty
    have found := requirement.clause?_text
    rw [empty] at found
    contradiction
  rw [requirement.standing.clauses_eq spaces stops, List.filter_singleton, nonempty]
  rfl

/-- The clauses of a sheet are its requirements. Each is followed by its separator outside parentheses, and the space after
that stands in front of the next one. -/
theorem clauses_sheet (entries : List (Requirement × Joint)) :
    clauses (lead ++ ((sheet entries).toList ++ stop)) = entries.map fun entry => entry.1.text.toList := by
  induction entries using sheet.induct generalizing lead with
  | case1 =>
    have empty : Standing [] := ⟨rfl, rfl, rfl, rfl, rfl⟩
    exact empty.clauses_eq spaces stops
  | case2 last joint => exact last.clauses_text spaces stops
  | case3 requirement joint next rest ih =>
    have split : lead ++ ((sheet ((requirement, joint) :: next :: rest)).toList ++ stop) =
        (lead ++ (requirement.text.toList ++ [])) ++
          joint.separator :: ([' '] ++ ((sheet (next :: rest)).toList ++ stop)) := by
      simp only [sheet, Joint.text, String.toList_append, String.toList_ofList, List.append_assoc, List.append_nil,
        List.cons_append, List.nil_append]
    have isSeparator : joint.separator = ',' ∨ joint.separator = ';' := by cases joint <;> decide
    have closed : depthAtEnd 0 (lead ++ (requirement.text.toList ++ [])) = 0 := by
      rw [List.append_nil, depthAtEnd_append, depthAtEnd_of_isPlain (isPlain_of_spaces spaces),
        requirement.standing.closed]
    rw [split, clauses_joined isSeparator closed, requirement.clauses_text spaces (.inl rfl),
      ih fun c => List.mem_singleton.mp]
    rfl

end Surroundings

/-- Requirements of every kind, however many and with any names that rules text can give back, are read back from the sheet
that they were written on: the tree asks for all of them in order, and no clause is set aside. -/
theorem read_sheet (entries : List (Requirement × Joint)) (period : Bool) :
    let text := sheet entries ++ if period then "." else ""
    (read text).expression = .all (entries.map fun entry => entry.1.expression) ∧ (read text).unparsed = [] := by
  intro text
  have stops : (if period then "." else "").toList = [] ∨ (if period then "." else "").toList = ['.'] := by
    cases period
    · exact .inl rfl
    · exact .inr rfl
  have found : clauses text.toList = entries.map fun entry => entry.1.text.toList := by
    have noSpaces : ∀ c ∈ ([] : List Char), c = ' ' := List.forall_mem_nil _
    have whole := clauses_sheet noSpaces stops entries
    rwa [List.nil_append, ← String.toList_append] at whole
  constructor
  · have items : (read text).items = entries.map fun entry => entry.1.expression := by
      rw [← List.filterMap_eq_map, read, found, List.filterMap_map]
      exact List.filterMap_congr fun entry _ => Requirement.clause?_text entry.1
    rw [Reading.expression, items]
  · rw [read, found, List.map_eq_nil_iff, List.filter_eq_nil_iff]
    intro clause member
    obtain ⟨entry, -, rfl⟩ := List.mem_map.mp member
    rw [entry.1.clause?_text]
    exact Bool.false_ne_true

def proficiency : Name where
  text := "Proficiency (the Pistols, St. Rifles)"
  nonempty := by decide
  trimmed := by decide
  oneLine := by decide
  unstopped := by decide
  noArticle := by decide
  balanced := ⟨by decide, by decide, by decide⟩

def mixed : List (Requirement × Joint) :=
  [(.abilityScore .dexterity 13, .comma), (.level 7, .semicolon), (.trained proficiency, .comma),
    (.attackBonus 0, .semicolon), (.named proficiency, .comma)]

theorem read_sheet_mixed :
    let text := "Dexterity 13, Level 7; Trained in Proficiency (the Pistols, St. Rifles), Base attack bonus +0; " ++
      "Requires Proficiency (the Pistols, St. Rifles)."
    (read text).expression =
        .all [.abilityScore .dexterity 13, .level 7, .trained "Proficiency (the Pistols, St. Rifles)", .attackBonus 0,
          .any [.condition (.feat "Proficiency (the Pistols, St. Rifles)"),
            .condition (.talent "Proficiency (the Pistols, St. Rifles)")]] ∧
      (read text).unparsed = [] := by
  intro text
  have written : (sheet mixed ++ if true then "." else "") = text := by decide
  rw [← written]
  exact read_sheet mixed true

end Legality.RulesText
