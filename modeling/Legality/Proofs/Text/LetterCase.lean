import Legality.Text.Basic
import Legality.Text.Key
import Mathlib.Tactic.Common

/-!
Letter case. Only the small letters of ASCII have a capital to be written in, so whatever reads each of them as it reads
its capital cannot tell a text from the same text in capitals. White space, digits and the keys of names are read so.
-/
namespace Legality.Text

def smallLetters : List Char := (List.range 26).map fun place => Char.ofNat (97 + place)

theorem isLower_iff {c : Char} : c.isLower = true ↔ 97 ≤ c.toNat ∧ c.toNat ≤ 122 := by
  show (decide (97 ≤ c.val) && decide (c.val ≤ 122)) = true ↔ _
  rw [Bool.and_eq_true, decide_eq_true_iff, decide_eq_true_iff]
  rfl

theorem isUpper_iff {c : Char} : c.isUpper = true ↔ 65 ≤ c.toNat ∧ c.toNat ≤ 90 := by
  show decide (65 ≤ c.val ∧ c.val ≤ 90) = true ↔ _
  rw [decide_eq_true_iff]
  rfl

theorem mem_smallLetters {c : Char} (small : c.isLower = true) : c ∈ smallLetters := by
  obtain ⟨low, high⟩ := isLower_iff.mp small
  have place : 97 + (c.toNat - 97) = c.toNat := by omega
  refine List.mem_map.mpr ⟨c.toNat - 97, List.mem_range.mpr (by omega), ?_⟩
  rw [place, Char.ofNat_toNat]

/-- What reads every small letter as its capital does not depend on letter case. -/
theorem apply_toUpper {α : Type} (read : Char → α)
    (same : smallLetters.map (fun c => read c.toUpper) = smallLetters.map read) (c : Char) :
    read c.toUpper = read c := by
  by_cases small : c.isLower = true
  · exact List.map_inj_left.mp same c (mem_smallLetters small)
  · have unchanged : c.toUpper = c := dif_neg fun between => small (isLower_iff.mpr between)
    rw [unchanged]

theorem toLower_toUpper (c : Char) : c.toUpper.toLower = c.toLower :=
  apply_toUpper Char.toLower (by decide) c

theorem isBlank_toUpper (c : Char) : isBlank c.toUpper = isBlank c :=
  apply_toUpper isBlank (by decide) c

theorem digitValue?_toUpper (c : Char) : digitValue? c.toUpper = digitValue? c :=
  apply_toUpper digitValue? (by decide) c

theorem isSeparator_toUpper (c : Char) : isSeparator c.toUpper = isSeparator c :=
  apply_toUpper isSeparator (by decide) c

theorem isAlphanumeric_toUpper (c : Char) : isAlphanumeric c.toUpper = isAlphanumeric c :=
  apply_toUpper isAlphanumeric (by decide) c

theorem lower_toUpper (c : Char) : lower c.toUpper = lower c :=
  apply_toUpper lower (by decide) c

def capitals (cs : List Char) : List Char := cs.map Char.toUpper

@[simp] theorem capitals_cons (c : Char) (rest : List Char) : capitals (c :: rest) = c.toUpper :: capitals rest := rfl

theorem isEmpty_capitals (cs : List Char) : (capitals cs).isEmpty = cs.isEmpty := List.isEmpty_map

theorem toList_toUpper (text : String) : text.toUpper.toList = capitals text.toList := by
  rw [String.toUpper, String.toList_map, capitals]

theorem ofList_capitals (cs : List Char) : String.ofList (capitals cs) = (String.ofList cs).toUpper := by
  apply String.toList_injective
  rw [toList_toUpper, String.toList_ofList, String.toList_ofList]

variable {p : Char → Bool}

theorem dropWhile_capitals (same : ∀ c, p c.toUpper = p c) (cs : List Char) :
    (capitals cs).dropWhile p = capitals (cs.dropWhile p) := by
  have unread : p ∘ Char.toUpper = p := funext same
  rw [capitals, List.dropWhile_map, unread, capitals]

theorem takeWhile_capitals (same : ∀ c, p c.toUpper = p c) (cs : List Char) :
    (capitals cs).takeWhile p = capitals (cs.takeWhile p) := by
  have unread : p ∘ Char.toUpper = p := funext same
  rw [capitals, List.takeWhile_map, unread, capitals]

theorem dropEndWhile_capitals (same : ∀ c, p c.toUpper = p c) (cs : List Char) :
    dropEndWhile p (capitals cs) = capitals (dropEndWhile p cs) := by
  have reversed (cs : List Char) : (capitals cs).reverse = capitals cs.reverse := List.map_reverse.symm
  rw [dropEndWhile, reversed, dropWhile_capitals same, reversed, dropEndWhile]

theorem trimChars_capitals (cs : List Char) : trimChars (capitals cs) = capitals (trimChars cs) := by
  rw [trimChars, dropWhile_capitals isBlank_toUpper, dropEndWhile_capitals isBlank_toUpper, trimChars]

theorem keyChars_capitals (started pending : Bool) (cs : List Char) :
    keyChars started pending (capitals cs) = keyChars started pending cs := by
  induction cs generalizing started pending with
  | nil => rfl
  | cons c rest ih =>
    rw [capitals_cons, keyChars, keyChars, isAlphanumeric_toUpper, isSeparator_toUpper, lower_toUpper, ih, ih, ih]

@[simp] theorem key_toUpper (name : String) : key name.toUpper = key name := by
  rw [key, key, toList_toUpper, keyChars_capitals]

end Legality.Text
