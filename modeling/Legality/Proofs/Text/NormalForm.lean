import Legality.Proofs.Text.Key
import Legality.Proofs.Text.Lowercase

/-!
Keys of keys. What a key is made of is kept when it is made into a key again, but for one mark: the dot that the lower case
of the capital I with a dot ends in is neither a letter nor a separator. The second key is free of it, and final.
-/
namespace Legality.Text

def dot : Char := '\u0307'

def undotted (cs : List Char) : List Char := cs.filter (· ≠ dot)

theorem undotted_append (front back : List Char) : undotted (front ++ back) = undotted front ++ undotted back :=
  List.filter_append ..

theorem undotted_undotted (cs : List Char) : undotted (undotted cs) = undotted cs := by
  unfold undotted
  rw [List.filter_filter]
  simp

theorem undotted_eq_self_iff {cs : List Char} : undotted cs = cs ↔ dot ∉ cs := by
  unfold undotted
  rw [List.filter_eq_self]
  constructor
  · intro kept member
    exact of_decide_eq_true (kept dot member) rfl
  · intro undotted c member
    apply decide_eq_true
    rintro rfl
    exact undotted member

theorem isAlphanumeric_dot : isAlphanumeric dot = false := by decide +kernel

theorem keyChars_dot (started pending : Bool) (rest : List Char) :
    keyChars started pending (dot :: rest) = keyChars started pending rest := by
  have punctuation : isKept dot = false := by
    rw [isKept, isAlphanumeric_dot, Bool.false_or]
    decide
  exact keyChars_cons_punctuation punctuation started pending rest

/-- The lower case of a letter is kept in a key, without its dot. -/
theorem keyChars_lower {c : Char} (letter : isAlphanumeric c = true) (started pending : Bool) (rest : List Char) :
    keyChars started pending (lower c ++ rest) =
      (if started && pending then [' '] else []) ++ undotted (lower c) ++ keyChars true false rest := by
  by_cases dotted : c = '\u0130'
  · subst dotted
    have parts : lower '\u0130' = ['i', dot] := rfl
    have first : isAlphanumeric 'i' = true := by decide
    have own : lower 'i' = ['i'] := by decide
    rw [parts, List.cons_append, List.cons_append, List.nil_append, keyChars_cons_letter first, keyChars_dot, own]
    rfl
  · obtain ⟨small, lowered, own, smallLetter⟩ := exists_lower dotted letter
    have kept : undotted [small] = [small] := by simp [undotted, ne_of_isAlphanumeric smallLetter isAlphanumeric_dot]
    rw [lowered, List.singleton_append, keyChars_cons_letter smallLetter, own, kept]

theorem keyChars_keyChars (started pending : Bool) (cs : List Char) :
    keyChars started false (keyChars started pending cs) = undotted (keyChars started pending cs) := by
  induction cs using induction_on_characters generalizing started pending with
  | nil => rfl
  | letter c rest letter ih =>
    -- A separator meets the second pass only as the space that the first one wrote for it.
    rw [keyChars_cons_letter letter, undotted_append, undotted_append, ← ih true false]
    cases spaced : started && pending with
    | false =>
      rw [if_neg Bool.false_ne_true, List.nil_append, keyChars_lower letter, Bool.and_false]
      rfl
    | true =>
      obtain ⟨rfl, rfl⟩ := Bool.and_eq_true_iff.mp spaced
      rw [if_pos rfl, List.append_assoc, List.singleton_append, keyChars_cons_separator (by decide),
        keyChars_lower letter]
      rfl
  | separator c rest separator ih =>
    rw [keyChars_cons_separator separator]
    exact ih started true
  | punctuation c rest punctuation ih =>
    rw [keyChars_cons_punctuation punctuation]
    exact ih started pending

theorem dot_mem_lower {c : Char} (letter : isAlphanumeric c = true) : dot ∈ lower c ↔ c = '\u0130' :=
  (mem_lower_iff letter isAlphanumeric_dot).trans (and_iff_left rfl)

theorem dot_mem_keyChars (started pending : Bool) (cs : List Char) :
    dot ∈ keyChars started pending cs ↔ '\u0130' ∈ cs := by
  have capital : isAlphanumeric '\u0130' = true := by decide
  induction cs using induction_on_characters generalizing started pending with
  | nil => simp [keyChars]
  | letter c rest letter ih =>
    have noSpace : dot ∉ if started && pending then [' '] else [] := by split <;> decide
    rw [keyChars_cons_letter letter, List.mem_cons, List.mem_append, List.mem_append, or_iff_right noSpace,
      dot_mem_lower letter]
    exact or_congr eq_comm (ih true false)
  | separator c rest separator ih =>
    have apart := ne_of_isAlphanumeric capital (isAlphanumeric_of_isSeparator separator)
    rw [keyChars_cons_separator separator, List.mem_cons, or_iff_right apart]
    exact ih started true
  | punctuation c rest punctuation ih =>
    have apart := ne_of_isAlphanumeric capital (Bool.or_eq_false_iff.mp punctuation).1
    rw [keyChars_cons_punctuation punctuation, List.mem_cons, or_iff_right apart]
    exact ih started pending

/-- The key of a key is the key without its combining dots, and its own key. It is the same key exactly if the capital I with
a dot is not in the name. -/
theorem key_key (name : String) :
    key (key name) = String.ofList (undotted (key name).toList) ∧
      (key (key name) = key name ↔ '\u0130' ∉ name.toList) ∧ key (key (key name)) = key (key name) := by
  have again (name : String) : key (key name) = String.ofList (undotted (key name).toList) := by
    rw [key, key, String.toList_ofList, keyChars_keyChars]
  have dots : dot ∈ (key name).toList ↔ '\u0130' ∈ name.toList := by
    rw [key, String.toList_ofList, dot_mem_keyChars]
  refine ⟨again name, ?_, ?_⟩
  · calc
      key (key name) = key name ↔ String.ofList (undotted (key name).toList) = String.ofList (key name).toList := by
        rw [again, String.ofList_toList]
      _ ↔ undotted (key name).toList = (key name).toList := String.ofList_inj
      _ ↔ '\u0130' ∉ name.toList := undotted_eq_self_iff.trans (not_congr dots)
  · rw [again (key name), again name, String.toList_ofList, undotted_undotted]

/-- The lower case of the capital I with a dot is a key that does not stand for itself. -/
theorem key_key_dotted : key "\u0130" = "i\u0307" ∧ key (key "\u0130") = "i" ∧ key (key "\u0130") ≠ key "\u0130" := by
  decide +kernel

end Legality.Text
