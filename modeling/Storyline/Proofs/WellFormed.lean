import Storyline.Resolved.Check

/-!
# Well-formed goals

What the check of a resolved goal stands for, said without its order: every symbol has as many
arguments as its arity, slots carry their own positions, variables point at slots, and rules and
completions belong to the goal. `Goal.check_eq_ok_iff` is the agreement of the two.

`Rule.Mentions` lists the places where a variable can stand, so that `Goal.check_decides` needs no
view of a rule. In a goal that passes, whoever follows a variable finds the slot with its number.
-/

namespace Storyline.Resolved

def Value.references : Value → List Variable
  | .constant _ => []
  | .reference v => [v]

def references (vs : List Value) : List Variable := vs.flatMap Value.references

def Condition.values : Condition → List Value
  | .query c => c.args
  | .comparison c => [c.left, c.right]

def Condition.calls : Condition → List Call
  | .query c => [c]
  | .comparison _ => []

def Action.calls : Action → List Call
  | .completion _ => []
  | .call c => [c]

namespace Rule

/-- Conditions before actions, the left side of a comparison before its right side. -/
def values (r : Rule) : List Value :=
  r.conditions.flatMap Condition.values ++ r.actions.flatMap Action.args

def references (r : Rule) : List Variable := Resolved.references r.values

def calls (r : Rule) : List Call :=
  r.conditions.flatMap Condition.calls ++ r.actions.flatMap Action.calls

structure WellFormed (goal : GoalId) (r : Rule) : Prop where
  owner : r.goal = goal
  dense : ∀ (i : Nat) (slot : Slot), r.slots[i]? = some slot → slot.index.toNat = i
  arity : ∀ c ∈ r.calls, c.symbol.arity.toNat = c.args.length
  bound : ∀ v ∈ r.references, v.index.toNat < r.slots.length
  completion : ∀ target, .completion target ∈ r.actions → target = goal

end Rule

structure Goal.WellFormed (g : Goal) : Prop where
  fact : ∀ f ∈ g.initFacts ++ g.exitFacts, f.database.arity.toNat = f.elements.length
  rule : ∀ r ∈ g.rules, r.WellFormed g.id

theorem check_bind_eq_ok_iff {x y : Check} : (do x; y) = .ok () ↔ x = .ok () ∧ y = .ok () := by
  cases x <;> simp [bind, Except.bind]

theorem checkAll_eq_ok_iff {α : Type} (check : α → Check) (as : List α) :
    checkAll check as = .ok () ↔ ∀ a ∈ as, check a = .ok () := by
  induction as with
  | nil => simp [checkAll]
  | cons a as ih => rw [checkAll, check_bind_eq_ok_iff, ih, List.forall_mem_cons]

theorem checkArity_eq_ok_iff (s : Symbol) (args : Nat) :
    checkArity s args = .ok () ↔ s.arity.toNat = args := by
  by_cases h : s.arity.toNat = args <;> simp [checkArity, h]

namespace Rule

variable (rule : Nat) (r : Rule)

theorem checkSlots_eq_ok_iff (position : Nat) (slots : List Slot) :
    checkSlots rule position slots = .ok () ↔
      ∀ (i : Nat) (slot : Slot), slots[i]? = some slot → slot.index.toNat = position + i := by
  induction slots generalizing position with
  | nil => simp [checkSlots]
  | cons s rest ih =>
    by_cases h : s.index.toNat = position
    · rw [checkSlots, if_pos h, ih]
      constructor
      · intro hrest i slot hi
        cases i with
        | zero => simp_all
        | succ i =>
          have := hrest i slot hi
          omega
      · intro hall i slot hi
        have := hall (i + 1) slot hi
        omega
    · rw [checkSlots, if_neg h]
      constructor
      · intro he
        cases he
      · intro hall
        exact absurd (hall 0 s rfl) h

theorem checkValue_eq_ok_iff (v : Value) :
    r.checkValue rule v = .ok () ↔ ∀ x ∈ v.references, x.index.toNat < r.slots.length := by
  cases v with
  | constant c => simp [checkValue, Value.references]
  | reference x =>
    simp only [checkValue, Value.references, List.mem_singleton, forall_eq, slot?]
    by_cases h : x.index.toNat < r.slots.length <;> simp [h]

theorem checkValues_eq_ok_iff (vs : List Value) :
    checkAll (r.checkValue rule) vs = .ok () ↔
      ∀ x ∈ Resolved.references vs, x.index.toNat < r.slots.length := by
  simp only [checkAll_eq_ok_iff, checkValue_eq_ok_iff, Resolved.references, List.mem_flatMap]
  exact ⟨fun h x ⟨v, hv, hx⟩ => h v hv x hx, fun h v hv x hx => h x ⟨v, hv, hx⟩⟩

theorem checkCall_eq_ok_iff (c : Call) :
    r.checkCall rule c = .ok () ↔ c.symbol.arity.toNat = c.args.length ∧
      ∀ x ∈ Resolved.references c.args, x.index.toNat < r.slots.length := by
  rw [checkCall, check_bind_eq_ok_iff, checkArity_eq_ok_iff, checkValues_eq_ok_iff]

theorem checkCondition_eq_ok_iff (c : Condition) :
    r.checkCondition rule c = .ok () ↔
      (∀ call ∈ c.calls, call.symbol.arity.toNat = call.args.length) ∧
        ∀ x ∈ Resolved.references c.values, x.index.toNat < r.slots.length := by
  cases c with
  | query c => simp [checkCondition, checkCall_eq_ok_iff, Condition.calls, Condition.values]
  | comparison c =>
    rw [checkCondition, check_bind_eq_ok_iff, checkValue_eq_ok_iff, checkValue_eq_ok_iff]
    simp [Condition.calls, Condition.values, Resolved.references, or_imp, forall_and]

theorem checkAction_eq_ok_iff (goal : GoalId) (a : Action) :
    r.checkAction rule goal a = .ok () ↔
      (∀ call ∈ a.calls, call.symbol.arity.toNat = call.args.length) ∧
        (∀ x ∈ Resolved.references a.args, x.index.toNat < r.slots.length) ∧
          ∀ target, a = .completion target → target = goal := by
  cases a with
  | completion target =>
    by_cases h : target = goal <;>
      simp [checkAction, h, Action.calls, Action.args, Resolved.references]
  | call c => simp [checkAction, checkCall_eq_ok_iff, Action.calls, Action.args]

variable {r} in
theorem forall_mem_references {P : Variable → Prop} :
    (∀ x ∈ r.references, P x) ↔
      (∀ c ∈ r.conditions, ∀ x ∈ Resolved.references c.values, P x) ∧
        ∀ a ∈ r.actions, ∀ x ∈ Resolved.references a.args, P x := by
  simp only [references, values, Resolved.references, List.flatMap_append, List.flatMap_assoc,
    List.forall_mem_append, List.forall_mem_flatMap]

variable {r} in
theorem forall_mem_calls {P : Call → Prop} :
    (∀ c ∈ r.calls, P c) ↔
      (∀ c ∈ r.conditions, ∀ call ∈ c.calls, P call) ∧
        ∀ a ∈ r.actions, ∀ call ∈ a.calls, P call := by
  simp only [calls, List.forall_mem_append, List.forall_mem_flatMap]

theorem check_eq_ok_iff (goal : GoalId) : r.check rule goal = .ok () ↔ r.WellFormed goal := by
  by_cases h : r.goal = goal
  · have hcheck : r.check rule goal = (do
        checkSlots rule 0 r.slots
        checkAll (r.checkCondition rule) r.conditions
        checkAll (r.checkAction rule goal) r.actions) := by
      simp [check, h]
    simp only [hcheck, check_bind_eq_ok_iff, checkSlots_eq_ok_iff, checkAll_eq_ok_iff,
      checkCondition_eq_ok_iff, checkAction_eq_ok_iff, Nat.zero_add]
    constructor
    · rintro ⟨hslots, hconditions, hactions⟩
      exact {
        owner := h
        dense := hslots
        arity := forall_mem_calls.mpr
          ⟨fun c hc => (hconditions c hc).1, fun a ha => (hactions a ha).1⟩
        bound := forall_mem_references.mpr
          ⟨fun c hc => (hconditions c hc).2, fun a ha => (hactions a ha).2.1⟩
        completion := fun target htarget => (hactions _ htarget).2.2 target rfl }
    · intro hr
      obtain ⟨hcalls, hcalls'⟩ := forall_mem_calls.mp hr.arity
      obtain ⟨hbound, hbound'⟩ := forall_mem_references.mp hr.bound
      refine ⟨hr.dense, fun c hc => ⟨hcalls c hc, hbound c hc⟩,
        fun a ha => ⟨hcalls' a ha, hbound' a ha, ?_⟩⟩
      rintro target rfl
      exact hr.completion target ha
  · have hcheck : r.check rule goal = .error (.foreignRule rule r.goal) := by
      rw [check, if_pos h]
      rfl
    rw [hcheck]
    constructor
    · intro he
      cases he
    · intro hr
      exact absurd hr.owner h

end Rule

theorem Goal.firstViolation_eq (g : Goal) :
    g.firstViolation = (do
      checkAll Fact.check g.initFacts
      checkAll Fact.check g.exitFacts
      checkAll (fun p => p.1.check p.2 g.id) g.rules.zipIdx) := rfl

theorem Goal.check_eq_ok_iff (g : Goal) : g.check = .ok () ↔ g.WellFormed := by
  have hcheck : g.check = .ok () ↔ g.firstViolation = .ok () := by
    rw [check]
    cases g.firstViolation with
    | error e => exact ⟨fun h => (nomatch h), fun h => (nomatch h)⟩
    | ok u => exact ⟨fun _ => rfl, fun _ => rfl⟩
  have hrules : (∀ p ∈ g.rules.zipIdx, p.1.WellFormed g.id) ↔ ∀ r ∈ g.rules, r.WellFormed g.id := by
    rw [← List.forall_mem_map (P := Rule.WellFormed g.id), List.zipIdx_map_fst]
  rw [hcheck, firstViolation, check_bind_eq_ok_iff, check_bind_eq_ok_iff, checkAll_eq_ok_iff,
    checkAll_eq_ok_iff, checkAll_eq_ok_iff]
  simp only [Fact.check, checkArity_eq_ok_iff, Rule.check_eq_ok_iff, hrules]
  constructor
  · rintro ⟨hinit, hexit, hrules⟩
    exact ⟨List.forall_mem_append.mpr ⟨hinit, hexit⟩, hrules⟩
  · intro hg
    obtain ⟨hinit, hexit⟩ := List.forall_mem_append.mp hg.fact
    exact ⟨hinit, hexit, hg.rule⟩

theorem mem_references_iff {vs : List Value} {v : Variable} :
    v ∈ references vs ↔ .reference v ∈ vs := by
  simp only [references, List.mem_flatMap]
  constructor
  · rintro ⟨value, hvalue, hv⟩
    cases value with
    | constant c => cases hv
    | reference w => rwa [List.mem_singleton.mp hv]
  · intro hv
    exact ⟨.reference v, hv, List.mem_singleton_self v⟩

namespace Rule

inductive Mentions (r : Rule) (v : Variable) : Prop where
  | query (c : Call) (hc : .query c ∈ r.conditions) (hv : .reference v ∈ c.args)
  | left (c : Comparison) (hc : .comparison c ∈ r.conditions) (hv : c.left = .reference v)
  | right (c : Comparison) (hc : .comparison c ∈ r.conditions) (hv : c.right = .reference v)
  | call (c : Call) (hc : .call c ∈ r.actions) (hv : .reference v ∈ c.args)

theorem mem_references_iff_mentions {r : Rule} {v : Variable} :
    v ∈ r.references ↔ r.Mentions v := by
  rw [references, mem_references_iff, values, List.mem_append, List.mem_flatMap,
    List.mem_flatMap]
  constructor
  · rintro (⟨c, hc, hv⟩ | ⟨a, ha, hv⟩)
    · cases c with
      | query c => exact .query c hc hv
      | comparison c =>
        have hside : .reference v = c.left ∨ .reference v = c.right := by
          simpa [Condition.values] using hv
        rcases hside with hleft | hright
        · exact .left c hc hleft.symm
        · exact .right c hc hright.symm
    · cases a with
      | completion target => cases hv
      | call c => exact .call c ha hv
  · intro h
    cases h with
    | query c hc hv => exact Or.inl ⟨_, hc, hv⟩
    | left c hc hv => exact Or.inl ⟨_, hc, by simp [Condition.values, hv]⟩
    | right c hc hv => exact Or.inl ⟨_, hc, by simp [Condition.values, hv]⟩
    | call c hc hv => exact Or.inr ⟨_, hc, hv⟩

theorem mem_calls_iff {r : Rule} {c : Call} :
    c ∈ r.calls ↔ .query c ∈ r.conditions ∨ .call c ∈ r.actions := by
  rw [calls, List.mem_append, List.mem_flatMap, List.mem_flatMap]
  constructor
  · rintro (⟨d, hd, hc⟩ | ⟨a, ha, hc⟩)
    · cases d with
      | query d => exact Or.inl (List.mem_singleton.mp hc ▸ hd)
      | comparison d => cases hc
    · cases a with
      | completion target => cases hc
      | call d => exact Or.inr (List.mem_singleton.mp hc ▸ ha)
  · rintro (hc | hc)
    · exact Or.inl ⟨_, hc, List.mem_singleton_self c⟩
    · exact Or.inr ⟨_, hc, List.mem_singleton_self c⟩

/-- A variable that is bound points at a slot, and a dense table gives that slot its number. -/
theorem WellFormed.slot?_of_mentions {goal : GoalId} {r : Rule} {v : Variable}
    (h : r.WellFormed goal) (hv : r.Mentions v) :
    ∃ slot, r.slot? v.index = some slot ∧ slot.index = v.index := by
  have hlt := h.bound v (mem_references_iff_mentions.mpr hv)
  have hslot : r.slots[v.index.toNat]? = some r.slots[v.index.toNat] :=
    List.getElem?_eq_getElem hlt
  exact ⟨_, hslot, UInt32.toNat_inj.mp (h.dense _ _ hslot)⟩

end Rule

/-- The check passes exactly for the goals in which nothing is wrong anywhere. In such a goal every
variable leads to the slot that carries its number. -/
theorem Goal.check_decides (g : Goal) :
    (g.check = .ok () ↔
      (∀ f, f ∈ g.initFacts ∨ f ∈ g.exitFacts → f.database.arity.toNat = f.elements.length) ∧
      ∀ r ∈ g.rules, r.goal = g.id ∧
        (∀ (i : Nat) (slot : Slot), r.slots[i]? = some slot → slot.index.toNat = i) ∧
        (∀ c, .query c ∈ r.conditions ∨ .call c ∈ r.actions →
          c.symbol.arity.toNat = c.args.length) ∧
        (∀ v, r.Mentions v → v.index.toNat < r.slots.length) ∧
        ∀ target, .completion target ∈ r.actions → target = g.id) ∧
    (g.check = .ok () → ∀ r ∈ g.rules, ∀ v, r.Mentions v →
      ∃ slot, r.slot? v.index = some slot ∧ slot.index = v.index) := by
  refine ⟨?_, ?_⟩
  · rw [check_eq_ok_iff]
    constructor
    · intro hg
      refine ⟨fun f hf => hg.fact f (List.mem_append.mpr hf), fun r hr => ?_⟩
      have hrule := hg.rule r hr
      exact ⟨hrule.owner, hrule.dense, fun c hc => hrule.arity c (Rule.mem_calls_iff.mpr hc),
        fun v hv => hrule.bound v (Rule.mem_references_iff_mentions.mpr hv), hrule.completion⟩
    · rintro ⟨hfacts, hrules⟩
      refine ⟨fun f hf => hfacts f (List.mem_append.mp hf), fun r hr => ?_⟩
      obtain ⟨howner, hdense, harity, hbound, hcompletion⟩ := hrules r hr
      exact {
        owner := howner
        dense := hdense
        arity := fun c hc => harity c (Rule.mem_calls_iff.mp hc)
        bound := fun v hv => hbound v (Rule.mem_references_iff_mentions.mp hv)
        completion := hcompletion }
  · intro hcheck r hr v hv
    exact ((check_eq_ok_iff g).mp hcheck).rule r hr |>.slot?_of_mentions hv

def Rule.rivals : Rule where
  goal := ⟨3⟩
  kind := .rule
  conditions := [
    .query ⟨⟨"Met", 1⟩, false, [.reference ⟨0, none⟩]⟩,
    .comparison ⟨.reference ⟨0, none⟩, .notEqual, .reference ⟨1, some .string⟩⟩]
  actions := [
    .call ⟨⟨"Duel", 2⟩, false, [.reference ⟨0, none⟩, .reference ⟨1, some .string⟩]⟩,
    .completion ⟨3⟩]
  slots := [⟨0, "x", none⟩, ⟨1, "y", some .string⟩]

/-- The variable on the right of a comparison is found; without its slot the goal is refused. -/
theorem Goal.check_rivals :
    (Goal.mk ⟨3⟩ "Rivals" [] [.rivals] [] []).check = .ok () ∧
      Rule.rivals.Mentions ⟨1, some .string⟩ ∧
      (∃ slot, Rule.rivals.slot? 1 = some slot ∧ slot.index = 1) ∧
      (Goal.mk ⟨3⟩ "Rivals" [] [{ Rule.rivals with slots := [⟨0, "x", none⟩] }] [] []).check ≠
        .ok () := by
  have hcheck : (Goal.mk ⟨3⟩ "Rivals" [] [.rivals] [] []).check = .ok () := rfl
  have hmentions : Rule.rivals.Mentions ⟨1, some .string⟩ :=
    .right ⟨.reference ⟨0, none⟩, .notEqual, .reference ⟨1, some .string⟩⟩ (by decide) rfl
  refine ⟨hcheck, hmentions, ?_, ?_⟩
  · exact (check_decides _).2 hcheck _ (List.mem_singleton_self _) _ hmentions
  · intro hbad
    have hrule := ((check_decides _).1.mp hbad).2 _ (List.mem_singleton_self _)
    have hlt := hrule.2.2.2.1 ⟨1, some .string⟩
      (.right ⟨.reference ⟨0, none⟩, .notEqual, .reference ⟨1, some .string⟩⟩ (by decide) rfl)
    exact absurd hlt (by decide)

end Storyline.Resolved
