import Mathlib.Data.List.Basic
import Schemata.Proofs.Rules.Priority
import Schemata.Rules.Explain

/-!
# Explanations are true

An explanation goes through all candidates where resolution stops at the first one that matches.
Both see the same candidates in the same order, so the explanation marks the one that resolution
applies.

## Main definitions

* `Explanation.Tells` : what an explanation has to do with the resolution of a field.

## Main results

* `RuleSet.winner_explain` : the winner is the source of the resolved validator.
* `RuleSet.tells_explain` : every explanation tells what resolution does.
-/

namespace Schemata

/-- One source is of the tier of another one or of an earlier tier. -/
def RuleSource.NotLater (a b : RuleSource) : Prop :=
  ∃ s t, a.tier? = some s ∧ b.tier? = some t ∧ s.rank ≤ t.rank

/-- An explanation tells how a field is resolved, whatever its validator is without rules. -/
structure Explanation.Tells (e : Explanation) (rules : RuleSet) (field : String)
    (context : Option String) : Prop where
  winner : ∀ base, (rules.resolve field base context).source = e.winner
  /-- At most one candidate is selected. -/
  single : e.candidates.countP (·.selected) ≤ 1
  /-- It is the first one that matches. -/
  first : e.selected? = e.candidates.find? (·.outcome = .matched)
  /-- Its expression and its message are the ones that are applied. -/
  applied : ∀ c, e.selected? = some c → ∃ expression, c.expression = some expression ∧
    ∀ base, rules.resolve field base context
      = ⟨Rule.over ⟨expression, c.message⟩ base, c.source, c.message⟩
  /-- Nothing is applied if there is none. -/
  unapplied : e.selected? = none → ∀ base, rules.resolve field base context = ⟨base, .default, none⟩
  /-- Candidates of an earlier tier come first. -/
  ordered : (e.candidates.map ExplainedCandidate.source).Pairwise RuleSource.NotLater

/-! ### Marks -/

theorem countP_selected_markFirst (found : Bool) (candidates : List Candidate) :
    (markFirst found candidates).countP (·.selected) ≤ if found then 0 else 1 := by
  induction candidates generalizing found with
  | nil => simp [markFirst]
  | cons c rest ih =>
    have later := ih (found || c.isMatched)
    cases found <;> cases matched : c.isMatched <;>
      simp_all [markFirst, Candidate.explained]

/-- The candidate that is marked is the first one that matches. -/
theorem find?_selected_markFirst (candidates : List Candidate) :
    (markFirst false candidates).find? (·.selected)
      = (candidates.find? (·.isMatched)).map (·.explained true) := by
  induction candidates with
  | nil => rfl
  | cons c rest ih =>
    cases matched : c.isMatched <;> simp [markFirst, Candidate.explained, matched, ih]

theorem find?_matched_markFirst (candidates : List Candidate) :
    (markFirst false candidates).find? (·.outcome = .matched)
      = (candidates.find? (·.isMatched)).map (·.explained true) := by
  induction candidates with
  | nil => rfl
  | cons c rest ih =>
    have outcome (selected : Bool) :
        decide ((c.explained selected).outcome = .matched) = c.isMatched := rfl
    cases matched : c.isMatched <;> simp [markFirst, outcome, matched, ih]

/-- Marks change neither the candidates nor their order. -/
theorem map_source_markFirst (found : Bool) (candidates : List Candidate) :
    (markFirst found candidates).map ExplainedCandidate.source
      = candidates.map Candidate.source := by
  induction candidates generalizing found with
  | nil => rfl
  | cons c rest ih => simp [markFirst, Candidate.explained, ih]

/-! ### Candidates in order -/

namespace RuleSet

variable (rules : RuleSet) (field : String) (context : Option String)

/-- Candidates come in the order of their tiers. -/
theorem pairwise_source_candidates :
    ((rules.candidates field context).map Candidate.source).Pairwise RuleSource.NotLater := by
  rw [List.pairwise_map]
  have across {s t : Tier} {as bs : List Candidate} (ha : ∀ a ∈ as, a.Sound s)
      (hb : ∀ b ∈ bs, b.Sound t) (le : s.rank ≤ t.rank) :
      ∀ a ∈ as, ∀ b ∈ bs, a.source.NotLater b.source :=
    fun a memberA b memberB => ⟨s, t, (ha a memberA).tier, (hb b memberB).tier, le⟩
  have within {s : Tier} {as : List Candidate} (ha : ∀ a ∈ as, a.Sound s) :
      as.Pairwise fun a b => a.source.NotLater b.source :=
    List.pairwise_of_forall_mem_list (across ha ha (Nat.le_refl _))
  have fieldExact := rules.sound_fieldExactCandidates field
  have fieldPattern := rules.sound_fieldPatternCandidates field
  have late := List.pairwise_append.mpr ⟨within fieldExact, within fieldPattern,
    across fieldExact fieldPattern (by decide)⟩
  unfold candidates
  rw [List.append_assoc]
  cases context with
  | none => exact late
  | some context =>
    have contextExact := rules.sound_contextExactCandidates field context
    have contextPattern := rules.sound_contextPatternCandidates field context
    refine List.pairwise_append.mpr ⟨List.pairwise_append.mpr ⟨within contextExact,
      within contextPattern, across contextExact contextPattern (by decide)⟩, late, ?_⟩
    intro a memberA b memberB
    rcases List.mem_append.mp memberA with memberA | memberA <;>
      rcases List.mem_append.mp memberB with memberB | memberB
    · exact across contextExact fieldExact (by decide) a memberA b memberB
    · exact across contextExact fieldPattern (by decide) a memberA b memberB
    · exact across contextPattern fieldExact (by decide) a memberA b memberB
    · exact across contextPattern fieldPattern (by decide) a memberA b memberB

/-! ### Explanations -/

/-- What is resolved, by the first candidate that matches. -/
theorem resolve_of_find? (base : Validator) {c : Candidate}
    (found : (rules.candidates field context).find? (·.isMatched) = some c) :
    ∃ rule, c.rule = some rule ∧
      rules.resolve field base context = ⟨rule.over base, c.source, rule.message⟩ := by
  have matched : c.isMatched := List.find?_some found
  obtain ⟨_, sound⟩ := rules.exists_sound_of_mem_candidates field (List.mem_of_find?_eq_some found)
  obtain ⟨rule, has⟩ := Option.isSome_iff_exists.mp (sound.matched.mp matched)
  refine ⟨rule, has, ?_⟩
  unfold resolve winner?
  rw [found]
  simp only [Option.bind_some, has, Option.map_some, applyRule_eq_over]

theorem resolve_of_find?_eq_none (base : Validator)
    (none : (rules.candidates field context).find? (·.isMatched) = none) :
    rules.resolve field base context = ⟨base, .default, Option.none⟩ := by
  unfold resolve winner?
  rw [none]
  rfl

/-- The winner is the source of the resolved validator. -/
theorem winner_explain (base : Validator) :
    (rules.resolve field base context).source = (rules.explain field context).winner := by
  unfold explain
  dsimp only
  cases found : (rules.candidates field context).find? (·.isMatched) with
  | none => rw [rules.resolve_of_find?_eq_none field context base found]; rfl
  | some c =>
    obtain ⟨rule, -, resolved⟩ := rules.resolve_of_find? field context base found
    rw [resolved]
    rfl

/-- An explanation tells what resolution does. -/
theorem tells_explain : (rules.explain field context).Tells rules field context where
  winner := rules.winner_explain field context
  single := countP_selected_markFirst false _
  first := (find?_selected_markFirst _).trans (find?_matched_markFirst _).symm
  applied c selected := by
    obtain ⟨candidate, found, rfl⟩ :=
      Option.map_eq_some_iff.mp ((find?_selected_markFirst _).symm.trans selected)
    obtain ⟨rule, has, -⟩ := rules.resolve_of_find? field context .any found
    refine ⟨rule.expression, by simp [Candidate.explained, has], fun base => ?_⟩
    obtain ⟨rule', has', resolved⟩ := rules.resolve_of_find? field context base found
    obtain rfl : rule = rule' := Option.some.inj (has.symm.trans has')
    simp [resolved, Candidate.explained, has]
  unapplied none base := by
    have unmarked := (find?_selected_markFirst (rules.candidates field context)).symm.trans none
    exact rules.resolve_of_find?_eq_none field context base (Option.map_eq_none_iff.mp unmarked)
  ordered := (map_source_markFirst false _).symm ▸ rules.pairwise_source_candidates field context

end RuleSet

end Schemata
