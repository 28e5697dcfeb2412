import Legality.Enforcement.Policy

/-!
Remembered decisions. A cache may lose any of its decisions at any time, and it may make a decision anew although it
remembers it. Whatever it does, all that it remembers of a case is the decision of that case, so whoever asks it cannot
tell whether a decision was remembered or made.
-/
namespace Legality.DecisionCache

/-- What a cache may become between two calls: decisions may be lost, and none is added. -/
structure Sheds (cache after : DecisionCache) : Prop where
  capacity : after.capacity = cache.capacity
  entries : after.entries ⊆ cache.entries

/-- What a cache may answer for a case, and what may become of it: a decision that it remembers under the case is given
out, or the decision is made and remembered. What is remembered beyond the capacity is lost later. -/
inductive Answers (cache : DecisionCache) (facts : Case) : Decision → DecisionCache → Prop
  | remembered {decision : Decision} (kept : (facts, decision) ∈ cache.entries) : cache.Answers facts decision cache
  | made : cache.Answers facts facts.decide { cache with entries := (facts, facts.decide) :: cache.entries }

/-- The answers that a cache of a capacity has given since it was empty, and what has become of it. -/
inductive Session (capacity : Nat) : List (Case × Decision) → DecisionCache → Prop
  | opening : Session capacity [] (withCapacity capacity)
  | shed {given : List (Case × Decision)} {cache after : DecisionCache} (earlier : Session capacity given cache)
      (sheds : cache.Sheds after) : Session capacity given after
  | ask {given : List (Case × Decision)} {cache after : DecisionCache} {facts : Case} {decision : Decision}
      (earlier : Session capacity given cache) (answers : cache.Answers facts decision after) :
      Session capacity (given ++ [(facts, decision)]) after

def Faithful (cache : DecisionCache) : Prop := ∀ entry ∈ cache.entries, entry.2 = entry.1.decide

variable {capacity : Nat} {cache after : DecisionCache} {facts : Case} {decision : Decision}
  {given : List (Case × Decision)}

theorem Faithful.sheds (faithful : cache.Faithful) (sheds : cache.Sheds after) : after.Faithful :=
  fun entry left => faithful entry (sheds.entries left)

theorem Faithful.answers (faithful : cache.Faithful) (answers : cache.Answers facts decision after) :
    decision = facts.decide ∧ after.Faithful := by
  cases answers with
  | remembered kept => exact ⟨faithful _ kept, faithful⟩
  | made => exact ⟨rfl, List.forall_mem_cons.mpr ⟨rfl, faithful⟩⟩

theorem Session.faithful (session : Session capacity given cache) :
    (∀ answer ∈ given, answer.2 = answer.1.decide) ∧ cache.Faithful := by
  induction session with
  | opening => exact ⟨List.forall_mem_nil _, List.forall_mem_nil _⟩
  | shed earlier sheds ih => exact ⟨ih.1, ih.2.sheds sheds⟩
  | ask earlier answers ih =>
    obtain ⟨asDecided, faithful⟩ := ih.2.answers answers
    exact ⟨List.forall_mem_append.mpr ⟨ih.1, List.forall_mem_singleton.mpr asDecided⟩, faithful⟩

theorem mem_of_remembered? (found : cache.remembered? facts = some decision) :
    (facts, decision) ∈ cache.entries := by
  obtain ⟨entry, first, rfl⟩ := Option.map_eq_some_iff.mp found
  have same : entry.1 = facts := by simpa using List.find?_some first
  rw [← same]
  exact List.mem_of_find?_eq_some first

/-- The cache that stops remembering when it is full is one of those that may lose decisions. -/
theorem answers_decide (cache : DecisionCache) (facts : Case) :
    ∃ middle, cache.Answers facts (cache.decide facts).1 middle ∧ middle.Sheds (cache.decide facts).2 := by
  unfold DecisionCache.decide
  cases found : cache.remembered? facts with
  | some decision => exact ⟨cache, .remembered (mem_of_remembered? found), rfl, List.Subset.refl _⟩
  | none =>
    refine ⟨_, .made, ?_⟩
    show Sheds _ (cache.remember facts facts.decide)
    unfold remember
    split
    next room => exact ⟨rfl, List.Subset.refl _⟩
    next full => exact ⟨rfl, List.subset_cons_self _ _⟩

theorem Session.decide (session : Session capacity given cache) (facts : Case) :
    Session capacity (given ++ [(facts, (cache.decide facts).1)]) (cache.decide facts).2 := by
  obtain ⟨middle, answers, sheds⟩ := answers_decide cache facts
  exact (session.ask answers).shed sheds

/-- A cache cannot be noticed. Whatever its capacity, whatever it was asked and whatever it has lost in between, it has
answered each case with the decision of that case, and it answers the next one so. -/
theorem decisions_unaffected (session : Session capacity given cache) :
    (∀ answer ∈ given, answer.2 = answer.1.decide) ∧
      ∀ facts, (cache.decide facts).1 = facts.decide ∧
        Session capacity (given ++ [(facts, facts.decide)]) (cache.decide facts).2 := by
  refine ⟨session.faithful.1, ?_⟩
  intro facts
  have next := session.decide facts
  have answered : (cache.decide facts).1 = facts.decide := next.faithful.1 _ List.mem_concat_self
  rw [answered] at next
  exact ⟨answered, next⟩

def lenient : Case := ⟨.normal, false, .warning, 2⟩

def stern : Case := { lenient with strict := true }

/-- A cache for one decision remembers the lenient case, loses it, and remembers the stern one in its place. -/
theorem decisions_unaffected_lapse :
    Session 1 [(lenient, lenient.decide), (lenient, lenient.decide), (stern, stern.decide)] ⟨1, [(stern, stern.decide)]⟩ ∧
      (DecisionCache.decide ⟨1, [(stern, stern.decide)]⟩ lenient).1 =
        ⟨.warn, "2 violation(s) detected; proceeding with warning.", lenient⟩ ∧
      (DecisionCache.decide ⟨1, [(stern, stern.decide)]⟩ stern).1 =
        ⟨.block, "Strict enforcement: 2 violation(s) must be resolved.", stern⟩ := by
  have first : Session 1 [(lenient, lenient.decide)] ⟨1, [(lenient, lenient.decide)]⟩ := Session.opening.ask .made
  have again : Session 1 [(lenient, lenient.decide), (lenient, lenient.decide)] ⟨1, [(lenient, lenient.decide)]⟩ :=
    first.ask (.remembered List.mem_cons_self)
  have lapsed : Session 1 [(lenient, lenient.decide), (lenient, lenient.decide)] ⟨1, []⟩ :=
    again.shed ⟨rfl, List.nil_subset _⟩
  have session : Session 1 [(lenient, lenient.decide), (lenient, lenient.decide), (stern, stern.decide)]
      ⟨1, [(stern, stern.decide)]⟩ := lapsed.ask .made
  have unaffected := (decisions_unaffected session).2
  exact ⟨session, (unaffected lenient).1.trans (by decide), (unaffected stern).1.trans (by decide)⟩

end Legality.DecisionCache
