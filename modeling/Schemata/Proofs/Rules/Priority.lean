import Mathlib.Data.List.Infix
import Schemata.Proofs.OrderedMap
import Schemata.Rules.Resolve

/-!
# The rule that applies

A rule set is made for look-ups, with exact keys in maps.  What it gives for a field can be read off
the table that it is made from: the last entry under an exact name, or the first one under a pattern
that matches, contexts before fields and exact names before patterns.  A context that says nothing
about the field leaves the choice to what comes after it.

## Main definitions

* `RuleTable.pick` : the rule that a table has for a field, read off its entries in order.
* `RuleTable.readable` : a table without the entries whose pattern cannot be read.
* `Rule.over` : a rule put in place of a validator.

## Main results

* `RuleSet.exists_sound_of_mem_candidates` : candidates that match are those with a rule.
* `RuleSet.winner?_ofTable` : a rule set finds the rule that is read off its table.
* `RuleSet.resolve_ofTable` : the validator of a field, and what entries it depends on.
-/

namespace Schemata

/-! ### Reading a table -/

/-- Is the text a pattern that matches a name? -/
def keyMatches (key name : String) : Bool :=
  (Pattern.compile? key).any (·.isMatch name)

/-- The last rule that is listed for a field. -/
def ContextEntry.rule? (entry : ContextEntry) (field : String) : Option Rule :=
  entry.fields.reverse.lookup field

namespace RuleTable

/-- The last entry under the exact name of the context, if it lists the field. -/
def pickContextExact (table : RuleTable) (field context : String) : Option (RuleSource × Rule) := do
  let entry ← table.contexts.findRev? fun e => !e.pattern && e.key = context
  let rule ← entry.rule? field
  return (.contextExact context field, rule)

/-- The first entry under a pattern that matches the context, of those that list the field. -/
def pickContextPattern (table : RuleTable) (field context : String) :
    Option (RuleSource × Rule) := do
  let entry ← table.contexts.find? fun e =>
    e.pattern && keyMatches e.key context && (e.rule? field).isSome
  let rule ← entry.rule? field
  return (.contextPattern entry.key field, rule)

/-- The last entry under the exact name of the field. -/
def pickFieldExact (table : RuleTable) (field : String) : Option (RuleSource × Rule) := do
  let entry ← table.fields.findRev? fun e => !e.pattern && e.key = field
  return (.fieldExact field, entry.rule)

/-- The first entry under a pattern that matches the field. -/
def pickFieldPattern (table : RuleTable) (field : String) : Option (RuleSource × Rule) := do
  let entry ← table.fields.find? fun e => e.pattern && keyMatches e.key field
  return (.fieldPattern entry.key, entry.rule)

/-- The rule for a field, with its source: the first of the four that there is. -/
def pick (table : RuleTable) (field : String) (context : Option String) :
    Option (RuleSource × Rule) :=
  (context.bind (table.pickContextExact field)).or
    ((context.bind (table.pickContextPattern field)).or
      ((table.pickFieldExact field).or (table.pickFieldPattern field)))

/-- The table without the entries whose key should be a pattern and is none. -/
def readable (table : RuleTable) : RuleTable where
  fields := table.fields.filter fun e => !e.pattern || (Pattern.compile? e.key).isSome
  contexts := table.contexts.filter fun e => !e.pattern || (Pattern.compile? e.key).isSome

end RuleTable

/-- The expression of a rule, around the validator where it says so, and the message on top. -/
def Rule.over (rule : Rule) (base : Validator) : Validator :=
  .mk (if "\x7bbase\x7d".toList <:+: rule.expression.toList then .template rule.expression base
    else .expression rule.expression) (rule.message.toList.map .message)

/-! ### Candidates -/

/-- A text has the place of a base validator somewhere. -/
theorem Validator.hasBase_iff (text : List Char) :
    hasBase text ↔ "\x7bbase\x7d".toList <:+: text := by
  have token : "\x7bbase\x7d".toList = ['{', 'b', 'a', 's', 'e', '}'] := rfl
  rw [token]
  fun_induction hasBase text with
  | case1 => simp
  | case2 rest => exact iff_of_true rfl ⟨[], rest, rfl⟩
  | case3 first rest other ih =>
    rw [List.infix_cons_iff]
    refine ih.trans (or_iff_right fun starts => ?_).symm
    obtain ⟨after, same⟩ := starts
    obtain ⟨rfl, tails⟩ := List.cons.inj same
    exact other after rfl tails.symm

theorem RuleSet.applyRule_eq_over (rule : Rule) (base : Validator) :
    applyRule rule base = rule.over base := by
  obtain ⟨expression, message⟩ := rule
  unfold applyRule Rule.over Validator.expression
  by_cases wraps : "\x7bbase\x7d".toList <:+: expression.toList
  · cases message <;> simp only [(Validator.hasBase_iff _).mpr wraps, wraps, if_true] <;> rfl
  · have plain : Validator.hasBase expression.toList = false :=
      Bool.eq_false_iff.mpr fun h => wraps ((Validator.hasBase_iff _).mp h)
    cases message <;> simp only [plain, wraps, if_false, Bool.false_eq_true] <;> rfl

namespace Candidate

/-- The rule that a candidate comes with, and its source. -/
def offer? (c : Candidate) : Option (RuleSource × Rule) :=
  c.rule.map (c.source, ·)

theorem offer?_ofRule? (source : RuleSource) (rule : Option Rule) :
    (ofRule? source rule).offer? = rule.map (source, ·) := by
  cases rule <;> rfl

/-- A candidate under a pattern offers what is behind the pattern, if the pattern matches. -/
theorem offer?_ofPattern_ofKey (source : RuleSource) (key name : String) (found : Candidate) :
    (ofPattern source (.ofKey key) name found).offer?
      = if keyMatches key name then found.offer? else none := by
  unfold ofPattern KeyPattern.ofKey keyMatches
  dsimp only
  cases Pattern.compile? key with
  | none => rfl
  | some pattern =>
    simp only [Option.any_some]
    split <;> rfl

/-- A candidate belongs to a tier, and it matches if and only if it comes with a rule. -/
structure Sound (c : Candidate) (tier : Tier) : Prop where
  tier : c.source.tier? = some tier
  matched : c.isMatched ↔ c.rule.isSome

section Sound

variable {tier : Tier} {source : RuleSource} (belongs : source.tier? = some tier)

include belongs

theorem sound_matched (rule : Rule) : Sound ⟨source, .matched, some rule⟩ tier :=
  ⟨belongs, by simp [isMatched]⟩

theorem sound_ofRule? (rule : Option Rule) : (ofRule? source rule).Sound tier := by
  cases rule with
  | none => exact ⟨belongs, by simp [ofRule?, isMatched]⟩
  | some rule => exact sound_matched belongs rule

theorem sound_ofPattern (key : KeyPattern) (name : String) {found : Candidate}
    (h : found.Sound tier) : (ofPattern source key name found).Sound tier := by
  unfold ofPattern
  split
  · exact ⟨belongs, by simp [isMatched]⟩
  · split
    · exact h
    · exact ⟨belongs, by simp [isMatched]⟩

end Sound

end Candidate

namespace RuleSet

section Candidates

variable (rules : RuleSet) (field context : String)

theorem sound_contextExactCandidates :
    ∀ c ∈ rules.contextExactCandidates field context, c.Sound .contextExact := by
  unfold contextExactCandidates
  split
  · simp
  · exact List.forall_mem_singleton.mpr (Candidate.sound_ofRule? rfl _)

theorem sound_contextPatternCandidates :
    ∀ c ∈ rules.contextPatternCandidates field context, c.Sound .contextPattern :=
  List.forall_mem_map.mpr fun _ _ =>
    Candidate.sound_ofPattern rfl _ _ (Candidate.sound_ofRule? rfl _)

theorem sound_fieldExactCandidates :
    ∀ c ∈ rules.fieldExactCandidates field, c.Sound .fieldExact := by
  unfold fieldExactCandidates
  split
  · simp
  · exact List.forall_mem_singleton.mpr (Candidate.sound_matched rfl _)

theorem sound_fieldPatternCandidates :
    ∀ c ∈ rules.fieldPatternCandidates field, c.Sound .fieldPattern :=
  List.forall_mem_map.mpr fun _ _ =>
    Candidate.sound_ofPattern rfl _ _ (Candidate.sound_matched rfl _)

/-- Every candidate belongs to a tier. -/
theorem exists_sound_of_mem_candidates {context : Option String} {c : Candidate}
    (member : c ∈ rules.candidates field context) : ∃ tier, c.Sound tier := by
  unfold candidates at member
  rcases List.mem_append.mp member with member | pattern
  · rcases List.mem_append.mp member with inContext | exact_
    · cases context with
      | none => cases inContext
      | some context =>
        rcases List.mem_append.mp inContext with exact_ | pattern
        · exact ⟨_, rules.sound_contextExactCandidates field context c exact_⟩
        · exact ⟨_, rules.sound_contextPatternCandidates field context c pattern⟩
    · exact ⟨_, rules.sound_fieldExactCandidates field c exact_⟩
  · exact ⟨_, rules.sound_fieldPatternCandidates field c pattern⟩

/-- The rule that applies is the first one that a candidate offers. -/
theorem winner?_eq_findSome? (context : Option String) :
    rules.winner? field context = (rules.candidates field context).findSome? Candidate.offer? := by
  have sound : ∀ c ∈ rules.candidates field context, ∃ tier, c.Sound tier :=
    fun _ member => rules.exists_sound_of_mem_candidates field member
  unfold winner?
  generalize rules.candidates field context = candidates at sound ⊢
  induction candidates with
  | nil => rfl
  | cons c rest ih =>
    obtain ⟨_, own⟩ := sound c List.mem_cons_self
    have ih := ih fun c member => sound c (List.mem_cons_of_mem _ member)
    cases rule : c.rule with
    | none =>
      have other : ¬ c.isMatched := by simp [own.matched, rule]
      have offer : c.offer? = none := by rw [Candidate.offer?, rule]; rfl
      rw [List.find?_cons_of_neg other, ih, List.findSome?_cons, offer]
    | some rule' =>
      have matched : c.isMatched := by simp [own.matched, rule]
      have offer : c.offer? = some (c.source, rule') := by rw [Candidate.offer?, rule]; rfl
      rw [List.find?_cons_of_pos matched, List.findSome?_cons, offer]
      exact offer

end Candidates

/-! ### Rule sets of tables -/

section Table

variable (table : RuleTable) (field context : String)

/-- The last value under a name, of those that are kept. -/
private theorem lookup_reverse_map_filter {α β : Type} (items : List α) (keep : α → Bool)
    (key : α → String) (value : α → β) (name : String) :
    ((items.filter keep).map fun a => (key a, value a)).reverse.lookup name
      = (items.findRev? fun a => keep a && key a = name).map value := by
  rw [List.findRev?_eq_find?_reverse, ← List.map_reverse, ← List.filter_reverse]
  induction items.reverse with
  | nil => rfl
  | cons a rest ih =>
    by_cases kept : keep a
    · by_cases same : name = key a
      · simp [kept, same]
      · have hne : (name == key a) = false := by simpa using same
        simp [kept, List.lookup_cons, hne, Ne.symm same, ih]
    · simp [kept, ih]

/-- The first result of those that are kept, if exactly the chosen ones have a result. -/
private theorem findSome?_filter_eq_find?_bind {α β : Type} (items : List α)
    {keep choose : α → Bool} {f g : α → Option β} (kept : ∀ a, choose a → keep a)
    (chosen : ∀ a, choose a → g a = f a ∧ (f a).isSome)
    (others : ∀ a, keep a → choose a = false → g a = none) :
    (items.filter keep).findSome? g = (items.find? choose).bind f := by
  induction items with
  | nil => rfl
  | cons a rest ih =>
    by_cases ha : choose a
    · obtain ⟨same, some⟩ := chosen a ha
      obtain ⟨b, hb⟩ := Option.isSome_iff_exists.mp some
      simp [kept a ha, ha, same, hb]
    · have ha : choose a = false := by simpa using ha
      by_cases hk : keep a
      · simp [hk, ha, others a hk ha, ih]
      · simp [hk, ha, ih]

theorem findSome?_contextExactCandidates :
    ((ofTable table).contextExactCandidates field context).findSome? Candidate.offer?
      = table.pickContextExact field context := by
  have found : (ofTable table).contextExact.get? context
      = (table.contexts.findRev? fun e => !e.pattern && e.key = context).map
        fun e => .ofList e.fields := by
    simp only [ofTable]
    rw [OrderedMap.get?_ofList, lookup_reverse_map_filter]
  unfold contextExactCandidates RuleTable.pickContextExact
  rw [found]
  cases table.contexts.findRev? fun e => !e.pattern && e.key = context with
  | none => rfl
  | some entry =>
    simp only [Option.map_some, OrderedMap.get?_ofList, List.findSome?_singleton,
      Candidate.offer?_ofRule?]
    change (entry.rule? field).map _ = (entry.rule? field).bind _
    cases entry.rule? field <;> rfl

theorem findSome?_contextPatternCandidates :
    ((ofTable table).contextPatternCandidates field context).findSome? Candidate.offer?
      = table.pickContextPattern field context := by
  have offers (e : ContextEntry) : (Candidate.ofPattern (.contextPattern e.key field)
      (.ofKey e.key) context (.ofRule? (.contextPattern e.key field)
        ((OrderedMap.ofList e.fields).get? field))).offer?
      = if keyMatches e.key context then
          (e.rule? field).map (RuleSource.contextPattern e.key field, ·) else none := by
    rw [Candidate.offer?_ofPattern_ofKey, Candidate.offer?_ofRule?, OrderedMap.get?_ofList]
    rfl
  unfold contextPatternCandidates RuleTable.pickContextPattern
  simp only [ofTable, List.map_map, List.findSome?_map]
  refine findSome?_filter_eq_find?_bind _ (fun e chosen => ?_) (fun e chosen => ?_)
    fun e pattern other => (offers e).trans ?_
  · simp only [Bool.and_eq_true] at chosen
    exact chosen.1.1
  · simp only [Bool.and_eq_true] at chosen
    obtain ⟨rule, listed⟩ := Option.isSome_iff_exists.mp chosen.2
    refine ⟨(offers e).trans ?_, ?_⟩
    · rw [if_pos chosen.1.2, listed]
      rfl
    · rw [listed]
      rfl
  · by_cases matched : keyMatches e.key context
    · have unlisted : e.rule? field = none := by simpa [pattern, matched] using other
      rw [if_pos matched, unlisted]
      rfl
    · rw [if_neg matched]

theorem findSome?_fieldExactCandidates :
    ((ofTable table).fieldExactCandidates field).findSome? Candidate.offer?
      = table.pickFieldExact field := by
  have found : (ofTable table).fieldExact.get? field
      = (table.fields.findRev? fun e => !e.pattern && e.key = field).map FieldEntry.rule := by
    simp only [ofTable]
    rw [OrderedMap.get?_ofList, lookup_reverse_map_filter]
  unfold fieldExactCandidates RuleTable.pickFieldExact
  rw [found]
  cases table.fields.findRev? fun e => !e.pattern && e.key = field <;> rfl

theorem findSome?_fieldPatternCandidates :
    ((ofTable table).fieldPatternCandidates field).findSome? Candidate.offer?
      = table.pickFieldPattern field := by
  have offers (e : FieldEntry) : (Candidate.ofPattern (.fieldPattern e.key) (.ofKey e.key) field
      ⟨.fieldPattern e.key, .matched, some e.rule⟩).offer?
      = if keyMatches e.key field then some (.fieldPattern e.key, e.rule) else none :=
    Candidate.offer?_ofPattern_ofKey _ _ _ _
  unfold fieldPatternCandidates RuleTable.pickFieldPattern
  simp only [ofTable, List.map_map, List.findSome?_map]
  refine findSome?_filter_eq_find?_bind _ (fun e chosen => ?_) (fun e chosen => ?_)
    fun e pattern other => (offers e).trans ?_
  · exact (Bool.and_eq_true _ _ ▸ chosen).1
  · refine ⟨(offers e).trans ?_, rfl⟩
    rw [if_pos (Bool.and_eq_true _ _ ▸ chosen).2]
    rfl
  · have unmatched : ¬ keyMatches e.key field := by simpa [pattern] using other
    rw [if_neg unmatched]

/-- A rule set finds the rule that is read off its table. -/
theorem winner?_ofTable (context : Option String) :
    (ofTable table).winner? field context = table.pick field context := by
  rw [winner?_eq_findSome?]
  unfold candidates RuleTable.pick
  rw [List.findSome?_append, List.findSome?_append, findSome?_fieldExactCandidates,
    findSome?_fieldPatternCandidates, Option.or_assoc]
  cases context with
  | none => rfl
  | some context =>
    rw [List.findSome?_append, findSome?_contextExactCandidates,
      findSome?_contextPatternCandidates, Option.or_assoc]
    rfl

/-- Dropping what is never chosen changes neither the first nor the last choice. -/
private theorem find?_filter_of_imp {α : Type} (items : List α) {keep choose : α → Bool}
    (kept : ∀ a, choose a → keep a) : (items.filter keep).find? choose = items.find? choose := by
  rw [List.find?_filter]
  congr 1
  funext a
  by_cases chosen : choose a
  · simp [chosen, kept a chosen]
  · simp [chosen]

private theorem findRev?_filter_of_imp {α : Type} (items : List α) {keep choose : α → Bool}
    (kept : ∀ a, choose a → keep a) :
    (items.filter keep).findRev? choose = items.findRev? choose := by
  rw [List.findRev?_eq_find?_reverse, List.findRev?_eq_find?_reverse, ← List.filter_reverse,
    find?_filter_of_imp _ kept]

theorem isSome_of_keyMatches {key name : String} (h : keyMatches key name) :
    (Pattern.compile? key).isSome := by
  unfold keyMatches at h
  cases compiled : Pattern.compile? key with
  | none => simp [compiled] at h
  | some pattern => rfl

/-- Entries whose pattern cannot be read are never picked. -/
theorem pick_readable (context : Option String) :
    table.readable.pick field context = table.pick field context := by
  have fieldExact : table.readable.pickFieldExact field = table.pickFieldExact field := by
    unfold RuleTable.pickFieldExact RuleTable.readable
    rw [findRev?_filter_of_imp]
    simp +contextual
  have fieldPattern : table.readable.pickFieldPattern field = table.pickFieldPattern field := by
    unfold RuleTable.pickFieldPattern RuleTable.readable
    rw [find?_filter_of_imp]
    intro e chosen
    have matched : keyMatches e.key field := (Bool.and_eq_true _ _ ▸ chosen).2
    simp [isSome_of_keyMatches matched]
  have contextExact (context : String) :
      table.readable.pickContextExact field context = table.pickContextExact field context := by
    unfold RuleTable.pickContextExact RuleTable.readable
    rw [findRev?_filter_of_imp]
    simp +contextual
  have contextPattern (context : String) :
      table.readable.pickContextPattern field context
        = table.pickContextPattern field context := by
    unfold RuleTable.pickContextPattern RuleTable.readable
    rw [find?_filter_of_imp]
    intro e chosen
    simp only [Bool.and_eq_true] at chosen
    simp [isSome_of_keyMatches chosen.1.2]
  unfold RuleTable.pick
  rw [fieldExact, fieldPattern]
  cases context with
  | none => rfl
  | some context => simp only [Option.bind_some, contextExact, contextPattern]

/-- The validator of a field is that of the rule that is read off the table, put in place of the
base, or the base itself if there is none; and entries whose pattern cannot be read might as well
not be there. -/
theorem resolve_ofTable (base : Validator) (context : Option String) :
    (ofTable table).resolve field base context
        = (match table.pick field context with
          | some (source, rule) => ⟨rule.over base, source, rule.message⟩
          | none => ⟨base, .default, none⟩) ∧
      (ofTable table.readable).resolve field base context
        = (ofTable table).resolve field base context := by
  constructor
  · unfold resolve
    rw [winner?_ofTable]
    cases table.pick field context with
    | none => rfl
    | some picked =>
      obtain ⟨source, rule⟩ := picked
      simp only [applyRule_eq_over]
  · unfold resolve
    rw [winner?_ofTable, winner?_ofTable, pick_readable]

end Table

end RuleSet

end Schemata
