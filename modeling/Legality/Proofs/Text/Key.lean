import Legality.Text.Alphanumeric
import Legality.Text.Basic
import Legality.Text.Key
import Mathlib.Data.List.Chain
import Mathlib.Data.List.TakeWhile

/-!
Ranges of code points. Two ascending lists of ranges are told apart by one walk along both, which is short enough to
be evaluated for the tables of letters, numbers and white space.
-/
namespace Legality.Text

def blankRanges : List (Nat × Nat) :=
  [(9, 13), (0x20, 0x20), (0x85, 0x85), (0xA0, 0xA0), (0x1680, 0x1680), (0x2000, 0x200A), (0x2028, 0x2028),
    (0x2029, 0x2029), (0x202F, 0x202F), (0x205F, 0x205F), (0x3000, 0x3000)]

theorem isBlank_eq (c : Char) : isBlank c = inRanges blankRanges c.toNat := by
  have single (n m : Nat) : (n == m) = (decide (m ≤ n) && decide (n ≤ m)) := by
    rw [Bool.eq_iff_iff, beq_iff_eq, Bool.and_eq_true, decide_eq_true_iff, decide_eq_true_iff]
    omega
  simp only [isBlank, single, inRanges, blankRanges, List.any_cons, List.any_nil, Bool.or_false, Bool.or_assoc]

/-- Whether no range of an ascending list meets one of another, found in one walk along both. -/
def areApart : List (Nat × Nat) → List (Nat × Nat) → Bool
  | [], _ => true
  | range :: rest, others =>
    let left := others.dropWhile fun other => other.2 < range.1
    left.head?.all (fun other => range.2 < other.1) && areApart rest left

theorem inRanges_of_all {ranges : List (Nat × Nat)} {n : Nat}
    (outside : ∀ range ∈ ranges, range.2 < n ∨ n < range.1) : inRanges ranges n = false := by
  apply List.any_eq_false.mpr
  intro range member
  have apart := outside range member
  simp only [Bool.and_eq_true, decide_eq_true_eq]
  omega

theorem lt_of_head {ranges : List (Nat × Nat)} {n : Nat} (ascending : (ranges.map Prod.fst).Pairwise (· ≤ ·))
    (first : ranges.head?.all (fun range => n < range.1) = true) : ∀ range ∈ ranges, n < range.1 := by
  cases ranges with
  | nil => exact fun range member => absurd member List.not_mem_nil
  | cons head rest =>
    have below : n < head.1 := of_decide_eq_true first
    obtain ⟨least, -⟩ := List.pairwise_cons.mp ascending
    intro range member
    rcases List.mem_cons.mp member with rfl | later
    · exact below
    · exact Nat.lt_of_lt_of_le below (least range.1 (List.mem_map_of_mem later))

/-- What lies in one of two lists of ranges that are apart does not lie in the other. -/
theorem inRanges_of_areApart {ranges others : List (Nat × Nat)} {n : Nat}
    (ascending : (ranges.map Prod.fst).Pairwise (· ≤ ·)) (othersAscending : (others.map Prod.fst).Pairwise (· ≤ ·))
    (apart : areApart ranges others = true) (inside : inRanges ranges n = true) : inRanges others n = false := by
  induction ranges generalizing others with
  | nil => contradiction
  | cons range rest ih =>
    obtain ⟨least, restAscending⟩ := List.pairwise_cons.mp ascending
    obtain ⟨gap, restApart⟩ := Bool.and_eq_true_iff.mp apart
    let left := others.dropWhile fun other => other.2 < range.1
    have leftAscending : (left.map Prod.fst).Pairwise (· ≤ ·) :=
      othersAscending.sublist ((List.dropWhile_sublist _).map Prod.fst)
    have whole : inRanges others n = (inRanges (others.takeWhile fun other => other.2 < range.1) n || inRanges left n) := by
      rw [inRanges, inRanges, inRanges, ← List.any_append, List.takeWhile_append_dropWhile]
    rw [whole, Bool.or_eq_false_iff]
    rw [inRanges, List.any_cons, Bool.or_eq_true] at inside
    constructor
    · -- What ends before this range ends before all that follow it.
      have atLeast : range.1 ≤ n := by
        rcases inside with here | later
        · exact of_decide_eq_true (Bool.and_eq_true_iff.mp here).1
        · obtain ⟨following, member, within⟩ := List.any_eq_true.mp later
          have start := least following.1 (List.mem_map_of_mem member)
          exact Nat.le_trans start (of_decide_eq_true (Bool.and_eq_true_iff.mp within).1)
      apply inRanges_of_all
      intro other member
      have ended : other.2 < range.1 := by simpa using List.mem_takeWhile_imp member
      exact .inl (Nat.lt_of_lt_of_le ended atLeast)
    · rcases inside with here | later
      · have atMost : n ≤ range.2 := of_decide_eq_true (Bool.and_eq_true_iff.mp here).2
        apply inRanges_of_all
        intro other member
        exact .inr (Nat.lt_of_le_of_lt atMost (lt_of_head leftAscending gap other member))
      · exact ih restAscending leftAscending restApart later

theorem forall_of_inRanges {ranges : List (Nat × Nat)} (p : Char → Prop)
    (each : ∀ range ∈ ranges, ∀ n ∈ List.range' range.1 (range.2 + 1 - range.1), p (Char.ofNat n)) {c : Char}
    (inside : inRanges ranges c.toNat = true) : p c := by
  obtain ⟨range, member, within⟩ := List.any_eq_true.mp inside
  simp only [Bool.and_eq_true, decide_eq_true_eq] at within
  have listed : c.toNat ∈ List.range' range.1 (range.2 + 1 - range.1) := List.mem_range'_1.mpr (by omega)
  have holds := each range member c.toNat listed
  rwa [Char.ofNat_toNat] at holds

theorem alphanumericRanges_ascending : (alphanumericRanges.map Prod.fst).Pairwise (· ≤ ·) := by
  rw [← List.isChain_iff_pairwise]
  decide +kernel

theorem isAlphanumeric_of_isBlank {c : Char} (blank : isBlank c = true) : isAlphanumeric c = false := by
  have ascending : (blankRanges.map Prod.fst).Pairwise (· ≤ ·) := by decide
  have apart : areApart blankRanges alphanumericRanges = true := by decide
  exact inRanges_of_areApart ascending alphanumericRanges_ascending apart (isBlank_eq c ▸ blank)

theorem ne_of_isAlphanumeric {c mark : Char} (letter : isAlphanumeric c = true) (apart : isAlphanumeric mark = false) :
    c ≠ mark := by
  rintro rfl
  rw [apart] at letter
  contradiction

/-!
Keys, one character at a time. The pass over a name writes the lower case of a letter or number, remembers a separator and
passes over punctuation; each of the three is one equation, and an induction on names has a case for each.
-/

def isKept (c : Char) : Bool := isAlphanumeric c || isSeparator c

section Characters

variable {c : Char}

theorem isSeparator_of_isBlank (blank : isBlank c = true) : isSeparator c = true := by
  rw [isSeparator, blank]
  rfl

theorem isAlphanumeric_of_isSeparator (separator : isSeparator c = true) : isAlphanumeric c = false := by
  simp only [isSeparator, Bool.or_eq_true, beq_iff_eq] at separator
  rcases separator with ((blank | rfl) | rfl) | rfl
  · exact isAlphanumeric_of_isBlank blank
  all_goals decide +kernel

theorem isSeparator_of_isAlphanumeric (letter : isAlphanumeric c = true) : isSeparator c = false := by
  by_contra separator
  rw [isAlphanumeric_of_isSeparator (Bool.not_eq_false _ ▸ separator)] at letter
  contradiction

theorem isKept_of_isAlphanumeric (letter : isAlphanumeric c = true) : isKept c = true := by
  rw [isKept, letter, Bool.true_or]

theorem isKept_of_isSeparator (separator : isSeparator c = true) : isKept c = true := by
  rw [isKept, separator, Bool.or_true]

/-- Induction on a name whose first character is a letter or number, a separator, or punctuation. -/
theorem induction_on_characters {p : List Char → Prop} (nil : p [])
    (letter : ∀ c rest, isAlphanumeric c = true → p rest → p (c :: rest))
    (separator : ∀ c rest, isSeparator c = true → p rest → p (c :: rest))
    (punctuation : ∀ c rest, isKept c = false → p rest → p (c :: rest)) (cs : List Char) : p cs := by
  induction cs with
  | nil => exact nil
  | cons c rest ih =>
    by_cases isLetter : isAlphanumeric c = true
    · exact letter c rest isLetter ih
    by_cases isSeparator : isSeparator c = true
    · exact separator c rest isSeparator ih
    · exact punctuation c rest (by simp [isKept, isLetter, isSeparator]) ih

theorem keyChars_cons_letter (letter : isAlphanumeric c = true) (started pending : Bool) (rest : List Char) :
    keyChars started pending (c :: rest) =
      (if started && pending then [' '] else []) ++ lower c ++ keyChars true false rest := by
  rw [keyChars, if_pos letter]

theorem keyChars_cons_separator (separator : isSeparator c = true) (started pending : Bool) (rest : List Char) :
    keyChars started pending (c :: rest) = keyChars started true rest := by
  rw [keyChars, if_neg (Bool.eq_false_iff.mp (isAlphanumeric_of_isSeparator separator)), if_pos separator]

theorem keyChars_cons_punctuation (punctuation : isKept c = false) (started pending : Bool) (rest : List Char) :
    keyChars started pending (c :: rest) = keyChars started pending rest := by
  obtain ⟨noLetter, noSeparator⟩ := Bool.or_eq_false_iff.mp punctuation
  rw [keyChars, if_neg (Bool.eq_false_iff.mp noLetter), if_neg (Bool.eq_false_iff.mp noSeparator)]

end Characters

theorem keyChars_pending (pending : Bool) (cs : List Char) : keyChars false pending cs = keyChars false false cs := by
  induction cs generalizing pending with
  | nil => rfl
  | cons c rest ih =>
    simp only [keyChars, Bool.false_and]
    rw [ih true, ih pending]

end Legality.Text
