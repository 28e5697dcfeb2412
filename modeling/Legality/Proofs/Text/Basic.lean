import Legality.Text.Basic
import Mathlib.Data.List.DropRight
import Mathlib.Data.List.TakeWhile
import Mathlib.Data.Nat.Digits.Defs

/-!
Trimmed texts. What is left by trimming neither starts nor ends with white space, so trimming it again leaves it
as it is; of blank texts nothing is left.
-/
namespace Legality.Text

theorem dropWhile_dropEndWhile (p : Char → Bool) (cs : List Char) :
    (dropEndWhile p (cs.dropWhile p)).dropWhile p = dropEndWhile p (cs.dropWhile p) := by
  have kept : dropEndWhile p (cs.dropWhile p) <+: cs.dropWhile p := List.rdropWhile_prefix p _
  cases trimmed : dropEndWhile p (cs.dropWhile p) with
  | nil => rfl
  | cons first rest =>
    have starts : (cs.dropWhile p).head? = some first := by
      rw [trimmed] at kept
      obtain ⟨dropped, whole⟩ := kept
      rw [← whole]
      rfl
    have solid : p first = false := by
      have headed := List.head?_dropWhile_not p cs
      rw [starts] at headed
      exact headed
    rw [List.dropWhile_cons_of_neg]
    simp [solid]

theorem trimChars_trimChars (cs : List Char) : trimChars (trimChars cs) = trimChars cs := by
  calc
    trimChars (trimChars cs) = dropEndWhile isBlank (trimChars cs) := by
      rw [trimChars, trimChars, dropWhile_dropEndWhile]
    _ = trimChars cs := List.rdropWhile_idempotent isBlank (cs.dropWhile isBlank)

theorem not_isBlank_of_isDigit {c : Char} (digit : c.isDigit = true) : isBlank c = false := by
  obtain ⟨low, high⟩ : 48 ≤ c.toNat ∧ c.toNat ≤ 57 := by
    simpa [Char.isDigit, UInt32.le_iff_toNat_le] using digit
  simp only [isBlank]
  simp
  omega

theorem trimChars_eq_self_iff {cs : List Char} :
    trimChars cs = cs ↔ cs.dropWhile isBlank = cs ∧ dropEndWhile isBlank cs = cs := by
  constructor
  · intro trimmed
    have front := dropWhile_dropEndWhile isBlank cs
    have back : dropEndWhile isBlank (trimChars cs) = trimChars cs :=
      List.rdropWhile_idempotent isBlank (cs.dropWhile isBlank)
    rw [← trimChars, trimmed] at front
    rw [trimmed] at back
    exact ⟨front, back⟩
  · rintro ⟨front, back⟩
    rw [trimChars, front, back]

theorem trimChars_blanks_append {blanks : List Char} (blank : ∀ c ∈ blanks, isBlank c = true) (cs : List Char) :
    trimChars (blanks ++ cs) = trimChars cs := by
  rw [trimChars, List.dropWhile_append_of_pos blank, trimChars]

theorem dropWhile_append_self {p : Char → Bool} {front back : List Char} (keptFront : front.dropWhile p = front)
    (keptBack : back.dropWhile p = back) : (front ++ back).dropWhile p = front ++ back := by
  rw [List.dropWhile_append, keptFront, keptBack]
  split
  next empty => rw [List.isEmpty_iff.mp empty, List.nil_append]
  next => rfl

theorem dropEndWhile_append {p : Char → Bool} {back : List Char} (some : back ≠ []) (kept : dropEndWhile p back = back)
    (front : List Char) : dropEndWhile p (front ++ back) = front ++ back := by
  apply List.rdropWhile_eq_self_iff.mpr
  intro whole
  rw [List.getLast_append_of_ne_nil whole some]
  exact List.rdropWhile_eq_self_iff.mp kept some

theorem exists_trimChars (cs : List Char) : ∃ left right, cs = left ++ trimChars cs ++ right ∧
    (∀ c ∈ left, isBlank c = true) ∧ ∀ c ∈ right, isBlank c = true := by
  refine ⟨cs.takeWhile isBlank, ((cs.dropWhile isBlank).reverse.takeWhile isBlank).reverse, ?_, ?_, ?_⟩
  · rw [List.append_assoc, trimChars, dropEndWhile, ← List.reverse_append, List.takeWhile_append_dropWhile,
      List.reverse_reverse, List.takeWhile_append_dropWhile]
  · exact fun c member => List.mem_takeWhile_imp member
  · intro c member
    exact List.mem_takeWhile_imp (List.mem_reverse.mp member)

theorem trim_trim (text : String) : trim (trim text) = trim text := by
  rw [trim, trim, String.toList_ofList, trimChars_trimChars]

theorem trim_isEmpty (text : String) : (trim text).isEmpty = isBlankText text := by
  have edges : (text.toList.dropWhile isBlank).all isBlank = text.toList.all isBlank := by
    rw [List.all_eq_not_any_not, List.any_dropWhile, Bool.not_not]
  have empty : (trimChars text.toList = []) ↔ (text.toList.all isBlank = true) := by
    rw [← edges, trimChars, dropEndWhile, List.reverse_eq_nil_iff, List.dropWhile_eq_nil_iff, List.all_eq_true]
    simp only [List.mem_reverse]
  rw [Bool.eq_iff_iff, isBlankText, ← empty, trim, String.isEmpty_iff]
  exact String.ofList_eq_empty_iff

/-!
Decimal digits are read as the number that they were written from, however many zeros stand before them.
-/

theorem toList_toString (n : Nat) : (toString n).toList = Nat.toDigits 10 n := Nat.toList_repr

theorem digitValue?_digitChar {digit : Nat} (small : digit < 10) : digitValue? digit.digitChar = some digit := by
  decide +revert

theorem digitValue?_of_isDigit {c : Char} (digit : c.isDigit = true) : digitValue? c = some (c.toNat - 48) :=
  if_pos (by simpa [Char.isDigit, Char.le_def] using digit)

theorem readDigitsFrom_digitChar (acc : Nat) {digit : Nat} (small : digit < 10) :
    readDigitsFrom acc [digit.digitChar] = some (acc * 10 + digit) := by
  rw [readDigitsFrom, digitValue?_digitChar small]
  rfl

theorem readDigitsFrom_append (acc : Nat) (front back : List Char) :
    readDigitsFrom acc (front ++ back) = (readDigitsFrom acc front).bind (readDigitsFrom · back) := by
  induction front generalizing acc with
  | nil => rfl
  | cons c front ih =>
    rw [List.cons_append, readDigitsFrom, readDigitsFrom]
    cases digitValue? c with
    | none => rfl
    | some digit => exact ih (acc * 10 + digit)

theorem readDigitsFrom_toDigits (n : Nat) : readDigitsFrom 0 (Nat.toDigits 10 n) = some n := by
  induction n using Nat.strongRecOn with
  | ind n ih =>
    rw [Nat.toDigits_eq_if (by decide)]
    split
    next small => rw [readDigitsFrom_digitChar 0 small, Nat.zero_mul, Nat.zero_add]
    next large =>
      rw [readDigitsFrom_append, ih (n / 10) (by omega), Option.bind_some,
        readDigitsFrom_digitChar _ (Nat.mod_lt n (by decide)), Nat.div_add_mod']

theorem readDigitsFrom_zeros (count : Nat) (digits : List Char) :
    readDigitsFrom 0 (List.replicate count '0' ++ digits) = readDigitsFrom 0 digits := by
  induction count with
  | zero => rfl
  | succ count ih => exact ih

theorem readDigits?_toDigits (zeros n : Nat) :
    readDigits? (List.replicate zeros '0' ++ Nat.toDigits 10 n) = some n := by
  have read : readDigitsFrom 0 (List.replicate zeros '0' ++ Nat.toDigits 10 n) = some n := by
    rw [readDigitsFrom_zeros, readDigitsFrom_toDigits]
  cases digits : List.replicate zeros '0' ++ Nat.toDigits 10 n with
  | nil => exact absurd (List.append_eq_nil_iff.mp digits).2 Nat.toDigits_ne_nil
  | cons first rest => rwa [digits] at read

end Legality.Text
