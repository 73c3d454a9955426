import Storyline.Proofs.WellFormed

/-!
# The first violation

A resolved goal has sites, places where a rule of structure has to be kept: symbols with their
arguments, the owners of rules, slots, references and completions. `Goal.sites` lists them in a fixed
order, the facts first, then rule by rule. What is wrong at a site is said without the others, so
the violations of a goal form a list, and it has all of them.

The check is made of loops inside loops and leaves them at the first violation. It gives the head of
that list: a check that follows another one goes on where that one found nothing, as the sites of
the second follow those of the first.
-/

namespace Storyline.Resolved

/-- Something to check in a goal. A `rule` is the position of a rule. -/
inductive Site where
  | symbol (s : Symbol) (args : Nat)
  | owner (rule : Nat) (goal : GoalId)
  | slot (rule position : Nat) (s : Slot)
  | reference (rule : Nat) (v : Variable) (slots : Nat)
  | completion (rule : Nat) (target : GoalId)
deriving DecidableEq, Repr

def Site.violation? (goal : GoalId) : Site → Option Violation
  | .symbol s args => if s.arity.toNat = args then none else some (.arityMismatch s.text args)
  | .owner rule found => if found = goal then none else some (.foreignRule rule found)
  | .slot rule position s =>
    if s.index.toNat = position then none else some (.sparseSlots rule position s.index)
  | .reference rule v slots =>
    if v.index.toNat < slots then none else some (.unboundVariable rule v.index slots)
  | .completion rule target =>
    if target = goal then none else some (.foreignCompletion rule target)

section Sites

def Fact.site (f : Fact) : Site := .symbol f.database f.elements.length

def Call.site (c : Call) : Site := .symbol c.symbol c.args.length

namespace Rule

variable (rule : Nat) (r : Rule)

def valueSites (vs : List Value) : List Site :=
  (Resolved.references vs).map fun v => .reference rule v r.slots.length

def conditionSites : Condition → List Site
  | .query c => c.site :: r.valueSites rule c.args
  | .comparison c => r.valueSites rule [c.left, c.right]

def actionSites : Action → List Site
  | .completion target => [.completion rule target]
  | .call c => c.site :: r.valueSites rule c.args

def bodySites : List Site :=
  r.conditions.flatMap (r.conditionSites rule) ++ r.actions.flatMap (r.actionSites rule)

def slotSites (position : Nat) (slots : List Slot) : List Site :=
  (slots.zipIdx position).map fun p => .slot rule p.2 p.1

def sites : List Site := .owner rule r.goal :: slotSites rule 0 r.slots ++ r.bodySites rule

end Rule

def Goal.sites (g : Goal) : List Site :=
  (g.initFacts ++ g.exitFacts).map Fact.site ++ g.rules.zipIdx.flatMap fun p => p.1.sites p.2

/-- All that is wrong in a goal, in the order of its sites. -/
def Goal.violations (g : Goal) : List Violation := g.sites.filterMap (Site.violation? g.id)

end Sites

section Order

/-- The check that fails with the first violation among the sites. -/
def report (goal : GoalId) (sites : List Site) : Check :=
  (sites.filterMap (Site.violation? goal)).head?.elim (.ok ()) .error

variable (goal : GoalId)

theorem report_append (ss ts : List Site) :
    report goal (ss ++ ts) = (do report goal ss; report goal ts) := by
  rw [report, List.filterMap_append, report]
  cases ss.filterMap (Site.violation? goal) <;> rfl

theorem report_cons (s : Site) (ss : List Site) :
    report goal (s :: ss) = (do report goal [s]; report goal ss) :=
  report_append goal [s] ss

variable {goal} in
/-- A loop of checks looks at the sites of its elements one after another. -/
theorem checkAll_eq_report {α : Type} {check : α → Check} {sites : α → List Site} {as : List α}
    (h : ∀ a ∈ as, check a = report goal (sites a)) :
    checkAll check as = report goal (as.flatMap sites) := by
  induction as with
  | nil => rfl
  | cons a as ih =>
    obtain ⟨ha, has⟩ := List.forall_mem_cons.mp h
    rw [checkAll, ha, ih has, List.flatMap_cons, report_append]

theorem checkArity_eq_report (s : Symbol) (args : Nat) :
    checkArity s args = report goal [.symbol s args] := by
  by_cases h : s.arity.toNat = args <;> simp [checkArity, report, Site.violation?, h]

namespace Rule

variable (rule : Nat) (r : Rule)

theorem checkSlots_eq_report (position : Nat) (slots : List Slot) :
    checkSlots rule position slots = report goal (slotSites rule position slots) := by
  induction slots generalizing position with
  | nil => rfl
  | cons s rest ih =>
    rw [slotSites, List.zipIdx_cons, List.map_cons, report_cons, ← slotSites, ← ih]
    by_cases h : s.index.toNat = position
    · have hsite : report goal [.slot rule position s] = .ok () := by
        simp [report, Site.violation?, h]
      rw [checkSlots, if_pos h, hsite]
      rfl
    · have hsite : report goal [.slot rule position s] =
          .error (.sparseSlots rule position s.index) := by
        simp [report, Site.violation?, h]
      rw [checkSlots, if_neg h, hsite]
      rfl

theorem checkValue_eq_report (v : Value) :
    r.checkValue rule v = report goal (r.valueSites rule [v]) := by
  cases v with
  | constant c => rfl
  | reference x =>
    by_cases h : x.index.toNat < r.slots.length <;>
      simp [checkValue, slot?, valueSites, Resolved.references, Value.references, report,
        Site.violation?, h]

theorem checkValues_eq_report (vs : List Value) :
    checkAll (r.checkValue rule) vs = report goal (r.valueSites rule vs) := by
  rw [checkAll_eq_report fun v _ => r.checkValue_eq_report goal rule v]
  simp [valueSites, Resolved.references, List.map_flatMap]

theorem checkCall_eq_report (c : Call) :
    r.checkCall rule c = report goal (c.site :: r.valueSites rule c.args) := by
  rw [report_cons, ← checkValues_eq_report, Call.site, ← checkArity_eq_report, checkCall]

theorem checkCondition_eq_report (c : Condition) :
    r.checkCondition rule c = report goal (r.conditionSites rule c) := by
  cases c with
  | query c => exact r.checkCall_eq_report goal rule c
  | comparison c =>
    have hsites : r.valueSites rule [c.left, c.right] =
        r.valueSites rule [c.left] ++ r.valueSites rule [c.right] := by
      simp [valueSites, Resolved.references]
    rw [conditionSites, hsites, report_append, ← checkValue_eq_report, ← checkValue_eq_report,
      checkCondition]

theorem checkAction_eq_report (a : Action) :
    r.checkAction rule goal a = report goal (r.actionSites rule a) := by
  cases a with
  | completion target =>
    by_cases h : target = goal <;> simp [checkAction, actionSites, report, Site.violation?, h]
  | call c => exact r.checkCall_eq_report goal rule c

theorem check_eq_report : r.check rule goal = report goal (r.sites rule) := by
  have hbody : report goal (r.bodySites rule) = (do
      checkAll (r.checkCondition rule) r.conditions
      checkAll (r.checkAction rule goal) r.actions) := by
    rw [checkAll_eq_report fun c _ => r.checkCondition_eq_report goal rule c,
      checkAll_eq_report fun a _ => r.checkAction_eq_report goal rule a, bodySites, report_append]
  rw [sites, List.cons_append, report_cons, report_append, ← checkSlots_eq_report, hbody]
  by_cases h : r.goal = goal
  · have howner : report goal [.owner rule r.goal] = .ok () := by
      simp [report, Site.violation?, h]
    rw [check, if_neg (not_not_intro h), howner]
    rfl
  · have howner : report goal [.owner rule r.goal] = .error (.foreignRule rule r.goal) := by
      simp [report, Site.violation?, h]
    rw [check, if_pos h, howner]
    rfl

end Rule

theorem Goal.firstViolation_eq_report (g : Goal) : g.firstViolation = report g.id g.sites := by
  have hfacts : ∀ fs : List Fact, checkAll Fact.check fs = report g.id (fs.map Fact.site) := by
    intro fs
    rw [List.map_eq_flatMap]
    exact checkAll_eq_report fun f _ => checkArity_eq_report g.id f.database f.elements.length
  have hrules : checkAll (fun p => p.1.check p.2 g.id) g.rules.zipIdx =
      report g.id (g.rules.zipIdx.flatMap fun p => p.1.sites p.2) :=
    checkAll_eq_report fun p _ => p.1.check_eq_report g.id p.2
  rw [firstViolation_eq, hfacts, hfacts, hrules, sites, report_append, List.map_append,
    report_append, bind_assoc]

/-- The check gives the first of the violations, if there are any. -/
theorem Goal.check_eq_head (g : Goal) :
    g.check = g.violations.head?.elim (.ok ()) fun v => .error (.malformed g.id v) := by
  rw [check, firstViolation_eq_report, report, ← violations]
  cases g.violations <;> rfl

end Order

section Completeness

namespace Rule

variable {rule : Nat} {r : Rule} {P : Site → Prop}

theorem forall_mem_valueSites {vs : List Value} :
    (∀ s ∈ r.valueSites rule vs, P s) ↔
      ∀ v ∈ Resolved.references vs, P (.reference rule v r.slots.length) :=
  List.forall_mem_map

theorem forall_mem_conditionSites {c : Condition} :
    (∀ s ∈ r.conditionSites rule c, P s) ↔ (∀ call ∈ c.calls, P call.site) ∧
      ∀ v ∈ Resolved.references c.values, P (.reference rule v r.slots.length) := by
  cases c with
  | query c =>
    rw [conditionSites, List.forall_mem_cons, forall_mem_valueSites, Condition.calls,
      List.forall_mem_singleton, Condition.values]
  | comparison c => simp only [conditionSites, forall_mem_valueSites, Condition.calls,
      List.not_mem_nil, false_imp_iff, implies_true, true_and, Condition.values]

theorem forall_mem_actionSites {a : Action} :
    (∀ s ∈ r.actionSites rule a, P s) ↔ (∀ call ∈ a.calls, P call.site) ∧
      (∀ v ∈ Resolved.references a.args, P (.reference rule v r.slots.length)) ∧
      ∀ target, a = .completion target → P (.completion rule target) := by
  cases a with
  | completion target => simp [actionSites, Action.calls, Action.args, Resolved.references]
  | call c =>
    simp [actionSites, forall_mem_valueSites, Action.calls, Action.args]

theorem forall_mem_bodySites :
    (∀ s ∈ r.bodySites rule, P s) ↔ (∀ c ∈ r.calls, P c.site) ∧
      (∀ v ∈ r.references, P (.reference rule v r.slots.length)) ∧
      ∀ target, .completion target ∈ r.actions → P (.completion rule target) := by
  simp only [bodySites, List.forall_mem_append, List.forall_mem_flatMap, forall_mem_conditionSites,
    forall_mem_actionSites, forall_mem_calls, forall_mem_references]
  constructor
  · rintro ⟨hconditions, hactions⟩
    exact ⟨⟨fun c hc => (hconditions c hc).1, fun a ha => (hactions a ha).1⟩,
      ⟨fun c hc => (hconditions c hc).2, fun a ha => (hactions a ha).2.1⟩,
      fun target htarget => (hactions _ htarget).2.2 target rfl⟩
  · rintro ⟨⟨hcalls, hcalls'⟩, ⟨hvalues, hvalues'⟩, hcompletion⟩
    refine ⟨fun c hc => ⟨hcalls c hc, hvalues c hc⟩,
      fun a ha => ⟨hcalls' a ha, hvalues' a ha, ?_⟩⟩
    rintro target rfl
    exact hcompletion target ha

theorem forall_mem_slotSites {slots : List Slot} :
    (∀ s ∈ slotSites rule 0 slots, P s) ↔
      ∀ (i : Nat) (slot : Slot), slots[i]? = some slot → P (.slot rule i slot) := by
  simp only [slotSites, List.forall_mem_map, Prod.forall, List.mem_zipIdx_iff_getElem?]
  exact forall_comm

theorem forall_mem_sites :
    (∀ s ∈ r.sites rule, P s) ↔ P (.owner rule r.goal) ∧
      (∀ (i : Nat) (slot : Slot), r.slots[i]? = some slot → P (.slot rule i slot)) ∧
      ∀ s ∈ r.bodySites rule, P s := by
  rw [sites, List.cons_append, List.forall_mem_cons, List.forall_mem_append, forall_mem_slotSites]

end Rule

theorem Goal.forall_mem_sites {P : Site → Prop} {g : Goal} :
    (∀ s ∈ g.sites, P s) ↔ (∀ f ∈ g.initFacts ++ g.exitFacts, P f.site) ∧
      ∀ (i : Nat) (r : Rule), g.rules[i]? = some r → ∀ s ∈ r.sites i, P s := by
  simp only [sites, List.forall_mem_append, List.forall_mem_map, List.forall_mem_flatMap,
    Prod.forall, List.mem_zipIdx_iff_getElem?]
  exact and_congr_right fun _ => forall_comm

/-- A violation that is really there, with the figures of the place where it is. -/
inductive Goal.Breaks (g : Goal) : Violation → Prop where
  | fact {f : Fact} (hf : f ∈ g.initFacts ∨ f ∈ g.exitFacts)
    (h : f.database.arity.toNat ≠ f.elements.length) :
    g.Breaks (.arityMismatch f.database.text f.elements.length)
  | owner {i : Nat} {r : Rule} (hr : g.rules[i]? = some r) (h : r.goal ≠ g.id) :
    g.Breaks (.foreignRule i r.goal)
  | slot {i j : Nat} {r : Rule} {s : Slot} (hr : g.rules[i]? = some r) (hs : r.slots[j]? = some s)
    (h : s.index.toNat ≠ j) : g.Breaks (.sparseSlots i j s.index)
  | call {i : Nat} {r : Rule} {c : Call} (hr : g.rules[i]? = some r)
    (hc : .query c ∈ r.conditions ∨ .call c ∈ r.actions)
    (h : c.symbol.arity.toNat ≠ c.args.length) :
    g.Breaks (.arityMismatch c.symbol.text c.args.length)
  | reference {i : Nat} {r : Rule} {v : Variable} (hr : g.rules[i]? = some r) (hv : r.Mentions v)
    (h : r.slots.length ≤ v.index.toNat) :
    g.Breaks (.unboundVariable i v.index r.slots.length)
  | completion {i : Nat} {r : Rule} {target : GoalId} (hr : g.rules[i]? = some r)
    (ht : .completion target ∈ r.actions) (h : target ≠ g.id) :
    g.Breaks (.foreignCompletion i target)

namespace Goal

variable {g : Goal} {v : Violation}

theorem breaks_of_mem_violations (hv : v ∈ g.violations) : g.Breaks v := by
  have hsites : ∀ s ∈ g.sites, ∀ v, s.violation? g.id = some v → g.Breaks v := by
    simp only [forall_mem_sites, Rule.forall_mem_sites, Rule.forall_mem_bodySites, Fact.site,
      Call.site, Site.violation?, Option.ite_none_left_eq_some, Option.some.injEq]
    refine ⟨?_, fun i r hr => ⟨?_, ?_, ?_, ?_, ?_⟩⟩
    · rintro f hf _ ⟨h, rfl⟩
      exact .fact (List.mem_append.mp hf) h
    · rintro _ ⟨h, rfl⟩
      exact .owner hr h
    · rintro j s hs _ ⟨h, rfl⟩
      exact .slot hr hs h
    · rintro c hc _ ⟨h, rfl⟩
      exact .call hr (Rule.mem_calls_iff.mp hc) h
    · rintro x hx _ ⟨h, rfl⟩
      exact .reference hr (Rule.mem_references_iff_mentions.mp hx) (Nat.le_of_not_lt h)
    · rintro target ht _ ⟨h, rfl⟩
      exact .completion hr ht h
  obtain ⟨s, hs, hsite⟩ := List.mem_filterMap.mp hv
  exact hsites s hs v hsite

theorem mem_violations_of_breaks (hv : g.Breaks v) : v ∈ g.violations := by
  have hsite : ∀ s ∈ g.sites, s.violation? g.id = some v → v ∈ g.violations :=
    fun s hs hv => List.mem_filterMap.mpr ⟨s, hs, hv⟩
  simp only [forall_mem_sites, Rule.forall_mem_sites, Rule.forall_mem_bodySites, Fact.site,
    Call.site, Site.violation?, Option.ite_none_left_eq_some, Option.some.injEq] at hsite
  obtain ⟨hfacts, hrules⟩ := hsite
  cases hv with
  | fact hf h => exact hfacts _ (List.mem_append.mpr hf) ⟨h, rfl⟩
  | owner hr h => exact (hrules _ _ hr).1 ⟨h, rfl⟩
  | slot hr hs h => exact (hrules _ _ hr).2.1 _ _ hs ⟨h, rfl⟩
  | call hr hc h => exact (hrules _ _ hr).2.2.1 _ (Rule.mem_calls_iff.mpr hc) ⟨h, rfl⟩
  | reference hr hx h =>
    exact (hrules _ _ hr).2.2.2.1 _ (Rule.mem_references_iff_mentions.mpr hx)
      ⟨Nat.not_lt_of_le h, rfl⟩
  | completion hr ht h => exact (hrules _ _ hr).2.2.2.2 _ ht ⟨h, rfl⟩

end Goal

end Completeness

section FirstSlot

variable {goal : GoalId} {v : Violation} {rule rule' position : Nat} {index : UInt32}

theorem exists_site_of_report {sites : List Site} (h : report goal sites = .error v) :
    ∃ s ∈ sites, s.violation? goal = some v := by
  rw [report] at h
  cases hhead : (sites.filterMap (Site.violation? goal)).head? with
  | none => simp [hhead] at h
  | some w =>
    obtain rfl : w = v := by simpa [hhead] using h
    exact List.mem_filterMap.mp (List.mem_of_head? hhead)

theorem report_append_eq_error {ss ts : List Site} (h : report goal (ss ++ ts) = .error v) :
    report goal ss = .error v ∨ report goal ts = .error v := by
  rw [report_append] at h
  cases hss : report goal ss with
  | ok u =>
    rw [hss] at h
    exact Or.inr h
  | error w =>
    rw [hss] at h
    exact Or.inl h

theorem report_flatMap_eq_error {α : Type} {sites : α → List Site} {as : List α}
    (h : report goal (as.flatMap sites) = .error v) :
    ∃ a ∈ as, report goal (sites a) = .error v := by
  induction as with
  | nil => cases h
  | cons a as ih =>
    rw [List.flatMap_cons] at h
    rcases report_append_eq_error h with hhead | htail
    · exact ⟨a, List.mem_cons_self, hhead⟩
    · obtain ⟨b, hb, herror⟩ := ih htail
      exact ⟨b, List.mem_cons_of_mem a hb, herror⟩

theorem Site.eq_slot_of_violation? {s : Site}
    (h : s.violation? goal = some (.sparseSlots rule position index)) :
    ∃ slot, s = .slot rule position slot := by
  cases s with
  | slot rule' position' slot =>
    simp only [violation?, Option.ite_none_left_eq_some, Option.some.injEq,
      Violation.sparseSlots.injEq] at h
    obtain ⟨_, rfl, rfl, _⟩ := h
    exact ⟨slot, rfl⟩
  | symbol s args => simp [violation?] at h
  | owner rule found => simp [violation?] at h
  | reference rule v slots => simp [violation?] at h
  | completion rule target => simp [violation?] at h

/-- The slots that the loop has passed carry their own positions. -/
theorem Rule.checkSlots_eq_error {start : Nat} {slots : List Slot}
    (h : checkSlots rule start slots = .error (.sparseSlots rule' position index)) :
    rule' = rule ∧ ∃ i slot, position = start + i ∧ slots[i]? = some slot ∧ slot.index = index ∧
      index.toNat ≠ position ∧
      ∀ j < i, ∀ s, slots[j]? = some s → s.index.toNat = start + j := by
  induction slots generalizing start with
  | nil => cases h
  | cons s rest ih =>
    by_cases hs : s.index.toNat = start
    · rw [checkSlots, if_pos hs] at h
      obtain ⟨hrule, i, slot, hposition, hslot, hindex, hne, hbefore⟩ := ih h
      refine ⟨hrule, i + 1, slot, by omega, hslot, hindex, hne, ?_⟩
      intro j hj s' hs'
      cases j with
      | zero =>
        obtain rfl : s = s' := Option.some.inj hs'
        exact hs
      | succ j =>
        have hj' := hbefore j (by omega) s' hs'
        omega
    · rw [checkSlots, if_neg hs] at h
      cases h
      exact ⟨rfl, 0, s, rfl, rfl, rfl, hs, fun j hj => absurd hj (Nat.not_lt_zero j)⟩

/-- Only slots can be sparse. -/
theorem report_ne_sparseSlots {sites : List Site}
    (h : ∀ s ∈ sites, ∀ slot, s ≠ .slot rule position slot) :
    report goal sites ≠ .error (.sparseSlots rule position index) := by
  intro herror
  obtain ⟨s, hs, hviolation⟩ := exists_site_of_report herror
  obtain ⟨slot, rfl⟩ := Site.eq_slot_of_violation? hviolation
  exact h _ hs slot rfl

theorem Rule.checkSlots_of_check {r : Rule}
    (h : r.check rule goal = .error (.sparseSlots rule' position index)) :
    checkSlots rule 0 r.slots = .error (.sparseSlots rule' position index) := by
  have howner : ∀ s ∈ [Site.owner rule r.goal], ∀ slot, s ≠ .slot rule' position slot := by simp
  have hbody : ∀ s ∈ r.bodySites rule, ∀ slot, s ≠ .slot rule' position slot :=
    forall_mem_bodySites.mpr (by simp [Call.site])
  rw [check_eq_report, sites, List.cons_append, ← List.singleton_append] at h
  rcases report_append_eq_error h with hfirst | hrest
  · exact absurd hfirst (report_ne_sparseSlots howner)
  · rcases report_append_eq_error hrest with hslots | hlast
    · rwa [checkSlots_eq_report goal]
    · exact absurd hlast (report_ne_sparseSlots hbody)

theorem Goal.firstSlot_of_check {g : Goal}
    (h : g.check = .error (.malformed g.id (.sparseSlots rule position index))) :
    ∃ r slot, g.rules[rule]? = some r ∧ r.slots[position]? = some slot ∧ slot.index = index ∧
      index.toNat ≠ position ∧ ∀ j < position, ∀ s, r.slots[j]? = some s → s.index.toNat = j := by
  have hfacts : ∀ s ∈ (g.initFacts ++ g.exitFacts).map Fact.site, ∀ slot,
      s ≠ .slot rule position slot :=
    List.forall_mem_map.mpr (by simp [Fact.site])
  have hreport : report g.id g.sites = .error (.sparseSlots rule position index) := by
    rw [check, firstViolation_eq_report] at h
    cases hr : report g.id g.sites with
    | ok u =>
      rw [hr] at h
      cases h
    | error w =>
      rw [hr] at h
      cases h
      rfl
  rcases report_append_eq_error hreport with hfact | hrule
  · exact absurd hfact (report_ne_sparseSlots hfacts)
  · obtain ⟨⟨r, i⟩, hmem, herror⟩ := report_flatMap_eq_error hrule
    rw [← Rule.check_eq_report] at herror
    obtain ⟨rfl, j, slot, hposition, hslot, hindex, hne, hbefore⟩ :=
      Rule.checkSlots_eq_error (Rule.checkSlots_of_check herror)
    obtain rfl : position = j := by omega
    refine ⟨r, slot, List.mem_zipIdx_iff_getElem?.mp hmem, hslot, hindex, hne, ?_⟩
    intro k hk s hs
    rw [hbefore k hk s hs, Nat.zero_add]

end FirstSlot

/-- The check fails with the first violation of the goal and passes if there is none. The list of
violations has those that are there and no others, each with the figures of its place; and among the
slots of a rule the first one that is out of place is named. -/
theorem Goal.check_first_violation (g : Goal) :
    g.check = g.violations.head?.elim (.ok ()) (fun v => .error (.malformed g.id v)) ∧
    (∀ v, v ∈ g.violations ↔ g.Breaks v) ∧
    ∀ rule position index, g.check = .error (.malformed g.id (.sparseSlots rule position index)) →
      ∃ r slot, g.rules[rule]? = some r ∧ r.slots[position]? = some slot ∧ slot.index = index ∧
        index.toNat ≠ position ∧
        ∀ j < position, ∀ s, r.slots[j]? = some s → s.index.toNat = j := by
  refine ⟨g.check_eq_head, ?_, fun _ _ _ => firstSlot_of_check⟩
  intro v
  exact ⟨breaks_of_mem_violations, mem_violations_of_breaks⟩

/-- The first rule is sound, and everything is wrong in the second one that can be. -/
def Goal.botched (owner : GoalId) (exitFacts : List Fact) : Goal where
  id := ⟨3⟩
  name := "Botched"
  initFacts := []
  rules := [.rivals, {
    goal := owner
    kind := .proc
    conditions := [
      .comparison ⟨.reference ⟨2, none⟩, .less, .reference ⟨7, none⟩⟩,
      .query ⟨⟨"Met", 1⟩, false, [.reference ⟨0, none⟩, .reference ⟨9, none⟩]⟩]
    actions := [.completion ⟨8⟩, .call ⟨⟨"Duel", 0⟩, true, [.reference ⟨5, none⟩]⟩]
    slots := [⟨0, "x", none⟩, ⟨3, "y", none⟩, ⟨1, "z", some .string⟩] }]
  exitFacts := exitFacts
  parents := []

theorem Goal.botched_first :
    (∃ g, g = botched ⟨4⟩ [⟨⟨"Done", 2⟩, false, []⟩] ∧
      g.violations = [.arityMismatch "Done/2" 0, .foreignRule 1 ⟨4⟩, .sparseSlots 1 1 3,
        .sparseSlots 1 2 1, .unboundVariable 1 7 3, .arityMismatch "Met/1" 2,
        .unboundVariable 1 9 3, .foreignCompletion 1 ⟨8⟩, .arityMismatch "Duel/0" 1,
        .unboundVariable 1 5 3] ∧
      g.check = .error (.malformed ⟨3⟩ (.arityMismatch "Done/2" 0)) ∧
      g.Breaks (.unboundVariable 1 9 3)) ∧
    (botched ⟨3⟩ []).check = .error (.malformed ⟨3⟩ (.sparseSlots 1 1 3)) ∧
    ∃ r slot, (botched ⟨3⟩ []).rules[1]? = some r ∧ r.slots[1]? = some slot ∧ slot.index = 3 ∧
      ∀ j < 1, ∀ s, r.slots[j]? = some s → s.index.toNat = j := by
  have hcheck : (botched ⟨3⟩ []).check = .error (.malformed ⟨3⟩ (.sparseSlots 1 1 3)) := rfl
  refine ⟨⟨_, rfl, by decide, ?_, ?_⟩, hcheck, ?_⟩
  · exact (check_first_violation _).1.trans rfl
  · exact ((check_first_violation _).2.1 _).mp (by decide)
  · obtain ⟨r, slot, hr, hslot, hindex, _, hbefore⟩ := (check_first_violation _).2.2 1 1 3 hcheck
    exact ⟨r, slot, hr, hslot, hindex, hbefore⟩

end Storyline.Resolved
