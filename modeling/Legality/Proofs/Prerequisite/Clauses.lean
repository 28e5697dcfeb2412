import Legality.Prerequisite.RulesText
import Mathlib.Data.List.Infix
import Mathlib.Tactic.Common

/-!
Clauses of rules text. Parentheses are all that a text hands on from one clause to the next, so where none is open a text
can be cut: what stands before a separator there and what stands after it are read as if each stood alone. A text that has
no separator outside its parentheses is a single piece; plain words are such a text, and so is what is balanced.
-/
namespace Legality.RulesText

open Text

def depthAtEnd (depth : Nat) (text : List Char) : Nat := text.foldl depthAfter depth

/-- Whether a text that starts at a depth has no separator outside parentheses. -/
def isWhole (depth : Nat) : List Char → Bool
  | [] => true
  | c :: rest => !endsClause depth c && isWhole (depthAfter depth c) rest

def isPlain (c : Char) : Bool := c != '(' && c != ')' && c != ',' && c != ';'

/-- Every parenthesis is opened and closed again, and every separator stands inside a pair. -/
structure Balanced (text : List Char) : Prop where
  opened : ∀ front ∈ text.inits, front.count ')' ≤ front.count '('
  closed : text.count ')' = text.count '('
  enclosed : ∀ front ∈ text.inits, front.getLast? = some ',' ∨ front.getLast? = some ';' →
    front.count ')' < front.count '('

variable {depth : Nat} {c separator : Char} {text first second : List Char}

theorem endsClause_iff : endsClause depth c = true ↔ depth = 0 ∧ (c = ',' ∨ c = ';') := by
  simp [endsClause]

theorem depthAfter_separator (isSeparator : c = ',' ∨ c = ';') : depthAfter depth c = depth := by
  rcases isSeparator with rfl | rfl <;> rfl

@[simp] theorem depthAtEnd_nil : depthAtEnd depth [] = depth := rfl

@[simp] theorem depthAtEnd_cons : depthAtEnd depth (c :: first) = depthAtEnd (depthAfter depth c) first := rfl

theorem depthAtEnd_append : depthAtEnd depth (first ++ second) = depthAtEnd (depthAtEnd depth first) second :=
  List.foldl_append ..

theorem pieces_ne_nil (depth : Nat) (text : List Char) : pieces depth text ≠ [] := by
  cases text with
  | nil => exact List.cons_ne_nil _ _
  | cons c rest =>
    rw [pieces]
    split
    next => exact List.cons_ne_nil _ _
    next => cases pieces (depthAfter depth c) rest <;> exact List.cons_ne_nil _ _

theorem consFirst_append {parts : List (List Char)} (some : parts ≠ []) (more : List (List Char)) :
    consFirst c (parts ++ more) = consFirst c parts ++ more := by
  cases parts with
  | nil => contradiction
  | cons part parts => rfl

theorem pieces_joined (isSeparator : separator = ',' ∨ separator = ';') (closed : depthAtEnd depth first = 0) :
    pieces depth (first ++ separator :: second) = pieces depth first ++ pieces 0 second := by
  induction first generalizing depth with
  | nil =>
    obtain rfl : depth = 0 := closed
    rw [List.nil_append, pieces, pieces, if_pos (endsClause_iff.mpr ⟨rfl, isSeparator⟩)]
    rfl
  | cons c rest ih =>
    rw [List.cons_append, pieces, pieces]
    split
    next ends =>
      -- A cut leaves the depth at zero, where the pieces after it start.
      rw [depthAtEnd_cons, depthAfter_separator (endsClause_iff.mp ends).2] at closed
      rw [ih closed, List.cons_append]
    next goesOn => rw [ih closed, consFirst_append (pieces_ne_nil _ _)]

theorem pieces_of_isWhole (whole : isWhole depth first = true) : pieces depth first = [first] := by
  induction first generalizing depth with
  | nil => rfl
  | cons c rest ih =>
    rw [isWhole, Bool.and_eq_true, Bool.not_eq_true'] at whole
    rw [pieces, whole.1, ih whole.2]
    rfl

theorem isWhole_append :
    isWhole depth (first ++ second) = (isWhole depth first && isWhole (depthAtEnd depth first) second) := by
  induction first generalizing depth with
  | nil => exact (Bool.true_and _).symm
  | cons c rest ih => rw [List.cons_append, isWhole, ih, isWhole, depthAtEnd_cons, Bool.and_assoc]

theorem clauses_joined (isSeparator : separator = ',' ∨ separator = ';') (closed : depthAtEnd 0 first = 0) :
    clauses (first ++ separator :: second) = clauses first ++ clauses second := by
  rw [clauses, pieces_joined isSeparator closed, List.map_append, List.filter_append]
  rfl

theorem read_joined (first second : String) (isSeparator : separator = ',' ∨ separator = ';')
    (closed : depthAtEnd 0 first.toList = 0) :
    read (first.push separator ++ second) =
      ⟨(read first).items ++ (read second).items, (read first).unparsed ++ (read second).unparsed⟩ := by
  have text : (first.push separator ++ second).toList = first.toList ++ separator :: second.toList := by
    rw [String.toList_append, String.toList_push, List.append_assoc, List.singleton_append]
  simp only [read, text, clauses_joined isSeparator closed, List.filterMap_append, List.filter_append, List.map_append]

theorem depthAfter_of_isPlain (plain : isPlain c = true) : depthAfter depth c = depth := by
  simp only [isPlain, Bool.and_eq_true, bne_iff_ne] at plain
  rw [depthAfter, if_neg plain.1.1.1, if_neg plain.1.1.2]

theorem endsClause_of_isPlain (plain : isPlain c = true) : endsClause depth c = false := by
  simp only [isPlain, Bool.and_eq_true, bne_iff_ne] at plain
  simp [endsClause, plain.1.2, plain.2]

theorem depthAtEnd_of_isPlain (plain : text.all isPlain = true) : depthAtEnd depth text = depth := by
  induction text with
  | nil => rfl
  | cons c rest ih =>
    rw [List.all_cons, Bool.and_eq_true] at plain
    rw [depthAtEnd_cons, depthAfter_of_isPlain plain.1, ih plain.2]

theorem isWhole_of_isPlain (plain : text.all isPlain = true) : isWhole depth text = true := by
  induction text with
  | nil => rfl
  | cons c rest ih =>
    rw [List.all_cons, Bool.and_eq_true] at plain
    rw [isWhole, depthAfter_of_isPlain plain.1, endsClause_of_isPlain plain.1, ih plain.2]
    rfl

theorem mem_inits_append (begins : first ∈ text.inits) (more : List Char) : first ∈ (text ++ more).inits :=
  (List.mem_inits _ _).mpr (((List.mem_inits _ _).mp begins).trans (List.prefix_append _ _))

theorem self_mem_inits (text : List Char) : text ∈ text.inits := (List.mem_inits _ _).mpr List.prefix_rfl

/-- Where no parenthesis is closed before it is opened, the depth is the number of those that are open. -/
theorem depthAtEnd_eq_sub (opened : ∀ front ∈ text.inits, front.count ')' ≤ front.count '(') :
    depthAtEnd 0 text = text.count '(' - text.count ')' := by
  -- From the end, since the hypothesis is about what comes before.
  induction text using List.reverseRecOn with
  | nil => rfl
  | append_singleton front c ih =>
    have openedFront : ∀ part ∈ front.inits, part.count ')' ≤ part.count '(' := fun part begins =>
      opened part (mem_inits_append begins [c])
    have fewer := openedFront front (self_mem_inits front)
    rw [depthAtEnd_append, ih openedFront, List.count_append, List.count_append]
    simp only [depthAtEnd_cons, depthAtEnd_nil, depthAfter, List.count_singleton, beq_iff_eq]
    split
    next parenthesis =>
      subst parenthesis
      simp
      omega
    next =>
      split
      next => omega
      next => rfl

theorem isWhole_of_enclosed (opened : ∀ front ∈ text.inits, front.count ')' ≤ front.count '(')
    (enclosed : ∀ front ∈ text.inits, front.getLast? = some ',' ∨ front.getLast? = some ';' →
      front.count ')' < front.count '(') : isWhole 0 text = true := by
  induction text using List.reverseRecOn with
  | nil => rfl
  | append_singleton front c ih =>
    have openedFront : ∀ part ∈ front.inits, part.count ')' ≤ part.count '(' := fun part begins =>
      opened part (mem_inits_append begins [c])
    have whole := ih openedFront fun part begins => enclosed part (mem_inits_append begins [c])
    have inside : endsClause (depthAtEnd 0 front) c = false := by
      apply Bool.eq_false_iff.mpr
      intro ends
      obtain ⟨outside, isSeparator⟩ := endsClause_iff.mp ends
      -- Outside parentheses as many are closed as are opened, against what is known of a separator.
      have fewer := enclosed (front ++ [c]) (self_mem_inits _) (by simpa using isSeparator)
      rw [List.count_append, List.count_append] at fewer
      rw [depthAtEnd_eq_sub openedFront] at outside
      rcases isSeparator with rfl | rfl <;> simp at fewer <;> omega
    rw [isWhole_append, whole, isWhole, isWhole, inside]
    rfl

namespace Balanced

theorem depthAtEnd_eq_zero (balanced : Balanced text) : depthAtEnd 0 text = 0 := by
  rw [depthAtEnd_eq_sub balanced.opened, balanced.closed, Nat.sub_self]

theorem isWhole_eq_true (balanced : Balanced text) : isWhole 0 text = true :=
  isWhole_of_enclosed balanced.opened balanced.enclosed

end Balanced

end Legality.RulesText
