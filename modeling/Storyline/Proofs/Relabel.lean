import Storyline.Proofs.LoweringEffects
import Storyline.Proofs.Outcome

/-!
# The identifier of a goal is a label

A resolved goal names its identifier in three places: the goal itself, each rule, and each
completion. `relabel` writes another one into all of them. Resolving a goal under two identifiers is
the same run with relabelled results, whatever the goal. The check does not care which identifier a
goal has as long as its rules and completions have the same one. So lowering under two identifiers
gives the same goal up to its label, or the same fault, after the same reports.
-/

namespace Storyline

namespace Resolved

def Action.relabel (id : GoalId) : Action → Action
  | .completion _ => .completion id
  | .call c => .call c

def Rule.relabel (id : GoalId) (r : Rule) : Rule :=
  { r with goal := id, actions := r.actions.map (Action.relabel id) }

def Goal.relabel (id : GoalId) (g : Goal) : Goal :=
  { g with id := id, rules := g.rules.map (Rule.relabel id) }

/-- The last label is the one that stays. -/
theorem Goal.relabel_relabel (a b : GoalId) (g : Goal) : (g.relabel b).relabel a = g.relabel a := by
  have haction : Action.relabel a ∘ Action.relabel b = Action.relabel a := by
    funext x
    cases x <;> rfl
  have hrule : Rule.relabel a ∘ Rule.relabel b = Rule.relabel a := by
    funext r
    simp only [Rule.relabel, Function.comp_apply, List.map_map, haction]
  simp only [relabel, List.map_map, hrule]

theorem checkAll_map {α β : Type} {check : β → Check} {check' : α → Check} {f : α → β}
    {as : List α} (h : ∀ a ∈ as, check (f a) = check' a) :
    checkAll check (as.map f) = checkAll check' as := by
  induction as with
  | nil => rfl
  | cons a as ih =>
    have ha := h a List.mem_cons_self
    have has := ih fun b hb => h b (List.mem_cons_of_mem a hb)
    rw [List.map_cons, checkAll, checkAll, ha, has]

namespace Rule

/-- The rule and its completions name the goal. -/
structure Owned (goal : GoalId) (r : Rule) : Prop where
  owner : r.goal = goal
  completion : ∀ target, .completion target ∈ r.actions → target = goal

theorem relabel_owned (r : Rule) (id : GoalId) : (r.relabel id).Owned id where
  owner := rfl
  completion := by
    intro target htarget
    obtain ⟨x, _, hx⟩ := List.mem_map.mp htarget
    cases x with
    | completion other => exact (Action.completion.inj hx).symm
    | call c => cases hx

variable {goal : GoalId} {r : Rule} (rule : Nat) (id : GoalId)

/-- Only the slots of a rule matter for its values. -/
theorem checkCall_relabel (r : Rule) (c : Call) :
    (r.relabel id).checkCall rule c = r.checkCall rule c := rfl

theorem checkCondition_relabel (r : Rule) (c : Condition) :
    (r.relabel id).checkCondition rule c = r.checkCondition rule c := by
  cases c <;> rfl

theorem checkAction_relabel (h : r.Owned goal) {a : Action} (ha : a ∈ r.actions) :
    (r.relabel id).checkAction rule id (a.relabel id) = r.checkAction rule goal a := by
  cases a with
  | completion target =>
    rw [h.completion target ha]
    simp [Action.relabel, checkAction]
  | call c => exact checkCall_relabel rule id r c

theorem check_relabel (h : r.Owned goal) : (r.relabel id).check rule id = r.check rule goal := by
  have hconditions : checkAll ((r.relabel id).checkCondition rule) r.conditions =
      checkAll (r.checkCondition rule) r.conditions :=
    congrArg (checkAll · r.conditions) (funext (checkCondition_relabel rule id r))
  have hactions : checkAll ((r.relabel id).checkAction rule id)
      (r.actions.map (Action.relabel id)) = checkAll (r.checkAction rule goal) r.actions :=
    checkAll_map fun a ha => checkAction_relabel rule id h ha
  have howner : (r.relabel id).goal = id := rfl
  rw [check, check, if_neg (not_not_intro howner), if_neg (not_not_intro h.owner)]
  change (do checkSlots rule 0 r.slots; checkAll _ r.conditions; checkAll _ (r.actions.map _)) = _
  rw [hconditions, hactions]

end Rule

end Resolved

def Fault.relabel (id : GoalId) : Fault → Fault
  | .missingBuiltin type kind => .missingBuiltin type kind
  | .malformed _ violation => .malformed id violation

namespace Resolved.Goal

theorem firstViolation_relabel (id : GoalId) {g : Goal} (h : ∀ r ∈ g.rules, r.Owned g.id) :
    (g.relabel id).firstViolation = g.firstViolation := by
  have hrules : checkAll (fun p => p.1.check p.2 (g.relabel id).id) (g.relabel id).rules.zipIdx =
      checkAll (fun p => p.1.check p.2 g.id) g.rules.zipIdx := by
    rw [relabel, List.zipIdx_map]
    apply checkAll_map
    intro p hp
    exact p.1.check_relabel p.2 id (h p.1 (List.fst_mem_of_mem_zipIdx hp))
  rw [firstViolation_eq, firstViolation_eq, hrules]
  rfl

theorem check_relabel (id : GoalId) {g : Goal} (h : ∀ r ∈ g.rules, r.Owned g.id) :
    (g.relabel id).check = g.check.mapError (Fault.relabel id) := by
  rw [check, check, firstViolation_relabel id h]
  cases g.firstViolation <;> rfl

end Resolved.Goal

namespace Source

variable (ctx : Context) (a b : GoalId)

theorem Action.lower_relabel (s : Scope) (x : Action) :
    x.lower ctx a s = (fun p => (p.1.relabel a, p.2)) <$> x.lower ctx b s := by
  cases x with
  | completion span => exact (map_pure _ _).symm
  | call c =>
    simp only [lower, map_bind, map_pure]
    rfl

theorem Rule.lower_relabel (position : Nat) (r : Rule) :
    r.lower ctx a position = Resolved.Rule.relabel a <$> r.lower ctx b position := by
  have hactions : ∀ s, Run.thread (Action.lower ctx a) s r.actions =
      (fun p => (p.1.map (Resolved.Action.relabel a), p.2)) <$>
        Run.thread (Action.lower ctx b) s r.actions := by
    intro s
    rw [← Run.thread_map]
    exact congrArg (Run.thread · s r.actions) (funext₂ (Action.lower_relabel ctx a b))
  simp only [lower, hactions, bind_map_left, map_bind, map_pure, List.length_map]
  rfl

theorem forEach_rule_relabel (rs : List Rule) :
    Run.forEach (fun (r, position) => Rule.lower ctx a position r) rs.zipIdx =
      List.map (Resolved.Rule.relabel a) <$>
        Run.forEach (fun (r, position) => Rule.lower ctx b position r) rs.zipIdx := by
  rw [← Run.forEach_map]
  exact congrArg (Run.forEach · rs.zipIdx) (funext fun p => p.1.lower_relabel ctx a b p.2)

namespace Goal

/-- The two runs do the same, and their results differ by the label only. -/
theorem resolve_relabel (g : Goal) :
    g.resolve ctx a = Resolved.Goal.relabel a <$> g.resolve ctx b := by
  simp only [resolve, forEach_rule_relabel ctx a b, bind_map_left, map_bind, map_pure]
  rfl

variable {ctx b} {g : Goal}

/-- A resolved goal is its own label throughout, since relabelling it changes nothing. -/
theorem resolve_owned {r : Resolved.Goal} (h : (g.resolve ctx b).outcome = .ok r) :
    ∀ rule ∈ r.rules, rule.Owned r.id := by
  have hself := congrArg Run.outcome (g.resolve_relabel ctx b b)
  rw [Run.outcome_map, h] at hself
  obtain hr : r = r.relabel b := Except.ok.inj hself
  rw [hr]
  intro rule hrule
  obtain ⟨x, _, rfl⟩ := List.mem_map.mp hrule
  exact x.relabel_owned b

variable (ctx b) (g)

/-- An outcome of lowering under another identifier. -/
def relabelOutcome (id : GoalId) (r : Except Fault Resolved.Goal) : Except Fault Resolved.Goal :=
  (r.mapError (Fault.relabel id)).map (Resolved.Goal.relabel id)

theorem lower_outcome_relabel :
    (g.lower ctx a).outcome = relabelOutcome a (g.lower ctx b).outcome := by
  rw [lower_outcome_eq, lower_outcome_eq, resolve_relabel ctx a b, Run.outcome_map]
  cases h : (g.resolve ctx b).outcome with
  | error e =>
    -- a missing builtin type names no goal
    obtain ⟨type, kind, rfl⟩ := (g.resolve_plain ctx b).fault e h
    rfl
  | ok r =>
    have hcheck := Resolved.Goal.check_relabel a (resolve_owned h)
    rw [Except.map, Except.bind, Except.bind, hcheck]
    cases r.check <;> rfl

theorem lower_diagnostics_relabel :
    (g.lower ctx a).diagnostics = (g.lower ctx b).diagnostics := by
  rw [lower_diagnostics_eq_resolve, lower_diagnostics_eq_resolve, resolve_relabel ctx a b,
    Run.diagnostics_map]

end Goal

end Source

end Storyline
