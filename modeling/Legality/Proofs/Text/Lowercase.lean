import Legality.Proofs.Text.Key
import Legality.Text.Key

/-!
Lower case is reached in one step. The lower case of a letter is a letter again, and no run of capitals holds it, so it is
its own lower case. Only the capital I with a dot is apart: its lower case is a letter and a mark that is none.
-/
namespace Legality.Text

namespace CaseRun

def small (run : CaseRun) (n : Nat) : Nat := Int.toNat (n + run.offset)

/-- Whether the lower cases of a run are code points of characters, and the capital I with a dot is not among them. -/
def isEncoded (run : CaseRun) : Bool :=
  0 < run.small run.first &&
    (run.small run.last < 0xD800 || 0xDFFF < run.small run.first && run.small run.last < 0x110000) &&
    (run.small run.last < 0x130 || 0x130 < run.small run.first)

def isLettered (run : CaseRun) : Bool :=
  -- Compared by ble, which is quickly evaluated along both tables.
  alphanumericRanges.any fun range => range.1.ble (run.small run.first) && (run.small run.last).ble range.2

/-- Whether the lower cases of a run are outside all of some runs in ascending order, or stand between the capitals of one
that holds every second code point. -/
def isClear (run : CaseRun) : List CaseRun → Bool
  | [] => true
  | other :: rest =>
    if other.last < run.small run.first then isClear run rest
    else if run.small run.last < other.first then true
    else other.stride == 2 && (run.stride == 2 || run.first == run.last) &&
      run.small run.first % 2 != other.first % 2 && isClear run rest

variable {run other : CaseRun} {runs : List CaseRun} {n : Nat}

theorem covers_iff : run.covers n = true ↔ run.first ≤ n ∧ n ≤ run.last ∧ (n - run.first) % run.stride = 0 := by
  simp [covers, and_assoc]

theorem small_bounds (covered : run.covers n = true) :
    run.small run.first ≤ run.small n ∧ run.small n ≤ run.small run.last := by
  obtain ⟨low, high, -⟩ := covers_iff.mp covered
  unfold small
  omega

theorem not_covers_outside (covered : run.covers n = true)
    (outside : other.last < run.small run.first ∨ run.small run.last < other.first) :
    ¬ other.covers (run.small n) = true := by
  intro covers
  have bounds := small_bounds covered
  have within := covers_iff.mp covers
  omega

theorem not_covers_between (positive : 0 < run.small run.first) (covered : run.covers n = true)
    (spaced : run.stride = 2 ∨ run.first = run.last) (second : other.stride = 2)
    (parity : run.small run.first % 2 ≠ other.first % 2) : ¬ other.covers (run.small n) = true := by
  intro covers
  have source := covers_iff.mp covered
  have within := covers_iff.mp covers
  rw [second] at within
  unfold small at *
  rcases spaced with alike | single
  · rw [alike] at source
    omega
  · omega

theorem not_covers_small (positive : 0 < run.small run.first) (covered : run.covers n = true)
    (ascending : (runs.map CaseRun.first).Pairwise (· ≤ ·)) (clear : run.isClear runs = true) :
    ∀ other ∈ runs, ¬ other.covers (run.small n) = true := by
  induction runs with
  | nil => exact List.forall_mem_nil _
  | cons other rest ih =>
    obtain ⟨least, restAscending⟩ := List.pairwise_cons.mp ascending
    rw [isClear] at clear
    split at clear
    next below => exact List.forall_mem_cons.mpr ⟨not_covers_outside covered (.inl below), ih restAscending clear⟩
    next =>
      split at clear
      next above =>
        -- All that follow start even later.
        refine List.forall_mem_cons.mpr ⟨not_covers_outside covered (.inr above), ?_⟩
        intro following member
        have start := least following.first (List.mem_map_of_mem member)
        exact not_covers_outside covered (.inr (Nat.lt_of_lt_of_le above start))
      next =>
        simp only [Bool.and_eq_true, Bool.or_eq_true, beq_iff_eq, bne_iff_ne] at clear
        obtain ⟨⟨⟨second, spaced⟩, parity⟩, restClear⟩ := clear
        exact List.forall_mem_cons.mpr
          ⟨not_covers_between positive covered spaced second parity, ih restAscending restClear⟩

end CaseRun

theorem caseRuns_ascending : (caseRuns.map CaseRun.first).Pairwise (· ≤ ·) := by
  rw [← List.isChain_iff_pairwise]
  decide +kernel

theorem caseRuns_isEncoded : caseRuns.all CaseRun.isEncoded = true := by decide

theorem caseRuns_isLettered : caseRuns.all CaseRun.isLettered = true := by decide +kernel

theorem caseRuns_isClear : caseRuns.all (fun run => run.isClear caseRuns) = true := by decide +kernel

section Image

variable {run : CaseRun} {n : Nat} (member : run ∈ caseRuns) (covered : run.covers n = true)
include member covered

theorem toNat_small : (Char.ofNat (run.small n)).toNat = run.small n ∧ run.small n ≠ 0x130 := by
  obtain ⟨low, high⟩ := CaseRun.small_bounds covered
  have encoded := List.all_eq_true.mp caseRuns_isEncoded run member
  simp only [CaseRun.isEncoded, Bool.and_eq_true, Bool.or_eq_true, decide_eq_true_eq] at encoded
  have valid : (run.small n).isValidChar := by
    unfold Nat.isValidChar
    omega
  constructor
  · rw [Char.ofNat, dif_pos valid]
    rfl
  · omega

theorem inRanges_small : inRanges alphanumericRanges (run.small n) = true := by
  obtain ⟨low, high⟩ := CaseRun.small_bounds covered
  obtain ⟨range, listed, within⟩ := List.any_eq_true.mp (List.all_eq_true.mp caseRuns_isLettered run member)
  rw [Bool.and_eq_true, Nat.ble_eq, Nat.ble_eq] at within
  apply List.any_eq_true.mpr
  refine ⟨range, listed, ?_⟩
  simp only [Bool.and_eq_true, decide_eq_true_eq]
  omega

theorem small_uncovered : ∀ other ∈ caseRuns, ¬ other.covers (run.small n) = true := by
  have encoded := List.all_eq_true.mp caseRuns_isEncoded run member
  simp only [CaseRun.isEncoded, Bool.and_eq_true, decide_eq_true_eq] at encoded
  exact CaseRun.not_covers_small encoded.1.1 covered caseRuns_ascending
    (List.all_eq_true.mp caseRuns_isClear run member)

end Image

variable {c : Char}

theorem lower_ne_nil (c : Char) : lower c ≠ [] := by
  unfold lower
  split
  · exact List.cons_ne_nil _ _
  · split <;> exact List.cons_ne_nil _ _

theorem lower_eq_self (plain : c ≠ '\u0130') (uncovered : ∀ run ∈ caseRuns, ¬ run.covers c.toNat = true) :
    lower c = [c] := by
  rw [lower, if_neg plain, List.find?_eq_none.mpr uncovered]

/-- Every letter or number but the capital I with a dot has a single lower case, which is a letter or number as well and
which is its own lower case. -/
theorem exists_lower (plain : c ≠ '\u0130') (letter : isAlphanumeric c = true) :
    ∃ small, lower c = [small] ∧ lower small = [small] ∧ isAlphanumeric small = true := by
  cases found : caseRuns.find? (·.covers c.toNat) with
  | none =>
    have own : lower c = [c] := lower_eq_self plain (List.find?_eq_none.mp found)
    exact ⟨c, own, own, letter⟩
  | some run =>
    have member : run ∈ caseRuns := List.mem_of_find?_eq_some found
    have covered : run.covers c.toNat = true := by simpa using List.find?_some found
    obtain ⟨decoded, other⟩ := toNat_small member covered
    refine ⟨Char.ofNat (run.small c.toNat), ?_, ?_, ?_⟩
    · rw [lower, if_neg plain, found]
      rfl
    · apply lower_eq_self
      · intro dotted
        rw [dotted] at decoded
        exact other decoded.symm
      · rw [decoded]
        exact small_uncovered member covered
    · rw [isAlphanumeric, decoded]
      exact inRanges_small member covered

theorem mem_lower_iff {mark : Char} (letter : isAlphanumeric c = true) (apart : isAlphanumeric mark = false) :
    mark ∈ lower c ↔ c = '\u0130' ∧ mark = '\u0307' := by
  by_cases dotted : c = '\u0130'
  · subst dotted
    have other : 'i' ≠ mark := ne_of_isAlphanumeric (by decide) apart
    have parts : lower '\u0130' = ['i', '\u0307'] := rfl
    rw [parts, List.mem_cons, List.mem_singleton, or_iff_right other.symm, and_iff_right rfl]
  · obtain ⟨small, lowered, -, smallLetter⟩ := exists_lower dotted letter
    have other := ne_of_isAlphanumeric smallLetter apart
    rw [lowered, List.mem_singleton]
    exact iff_of_false other.symm fun both => dotted both.1

end Legality.Text
