import Storyline.Proofs.StoredTypes

/-!
# Facts and rules are lowered independently

The items of a goal are its facts and its rules. A goal with a single item shows what that item
gives when nothing stands before it or after it. Lowering any goal is no more than that, item by
item: the scope of a rule ends with the rule, so the variables of one rule and their type names are
of no concern to another.

That the values of a goal can be typed and that it is within the limits are facts about its items.
The rules of a goal can therefore change in one place, and what comes from the others stays.
-/

namespace Storyline.Source

inductive Item where
  | init (f : Fact)
  | rule (r : Rule)
  | exit (f : Fact)

/-- The goal that has the item and no other, under the name and the parents of `frame`. -/
def Item.alone (frame : Goal) : Item → Goal
  | .init f => { frame with initFacts := [f], rules := [], exitFacts := [] }
  | .rule r => { frame with initFacts := [], rules := [r], exitFacts := [] }
  | .exit f => { frame with initFacts := [], rules := [], exitFacts := [f] }

namespace Goal

def items (g : Goal) : List Item :=
  g.initFacts.map .init ++ g.rules.map .rule ++ g.exitFacts.map .exit

def Lowers (ctx : Context) (id : GoalId) (g : Goal) : Prop :=
  ∃ r, (g.lower ctx id).outcome = .ok r

variable {ctx : Context} {id : GoalId} {g : Goal} {r : Resolved.Goal}

theorem forall_mem_items {P : Item → Prop} :
    (∀ item ∈ g.items, P item) ↔
      (∀ f ∈ g.initFacts, P (.init f)) ∧ (∀ r ∈ g.rules, P (.rule r)) ∧
        ∀ f ∈ g.exitFacts, P (.exit f) := by
  simp only [items, List.forall_mem_append, List.forall_mem_map, and_assoc]

theorem flatMap_items {α : Type} (f : Item → List α) :
    g.items.flatMap f = g.initFacts.flatMap (fun x => f (.init x)) ++
      g.rules.flatMap (fun x => f (.rule x)) ++ g.exitFacts.flatMap (fun x => f (.exit x)) := by
  simp only [items, List.flatMap_append, List.flatMap_map]

section Whole

variable (frame : Goal)

theorem occurrences_eq_items :
    g.occurrences = g.items.flatMap fun item => (item.alone frame).occurrences := by
  rw [flatMap_items]
  simp only [occurrences, Item.alone, List.flatMap_nil, List.flatMap_singleton, List.nil_append,
    List.append_nil]

theorem withinLimits_iff : g.WithinLimits ↔
    (∀ f ∈ g.initFacts, f.elements.length < UInt32.size) ∧ (∀ r ∈ g.rules, r.WithinLimits) ∧
      ∀ f ∈ g.exitFacts, f.elements.length < UInt32.size := by
  constructor
  · intro h
    obtain ⟨hinit, hexit⟩ := List.forall_mem_append.mp h.elements
    exact ⟨hinit, h.rule, hexit⟩
  · rintro ⟨hinit, hrules, hexit⟩
    exact ⟨List.forall_mem_append.mpr ⟨hinit, hexit⟩, hrules⟩

theorem withinLimits_iff_items :
    g.WithinLimits ↔ ∀ item ∈ g.items, (item.alone frame).WithinLimits := by
  rw [forall_mem_items, withinLimits_iff]
  simp only [withinLimits_iff, Item.alone, List.forall_mem_singleton, List.not_mem_nil,
    false_imp_iff, implies_true, and_true, true_and]

theorem lowers_iff : g.Lowers ctx id ↔
    g.WithinLimits ∧ ∀ o ∈ g.occurrences, ¬ o.value.Untypable ctx.types := by
  constructor
  · rintro ⟨r, hr⟩
    exact (lower_of_ok hr).2
  · rintro ⟨hlimits, htyped⟩
    exact ⟨_, lower_of_typable hlimits htyped⟩

theorem lowers_iff_items :
    g.Lowers ctx id ↔ ∀ item ∈ g.items, (item.alone frame).Lowers ctx id := by
  simp only [lowers_iff, withinLimits_iff_items (g := g) frame, occurrences_eq_items (g := g) frame,
    List.forall_mem_flatMap, forall_and]

theorem Lowers.diagnostics (h : g.Lowers ctx id) :
    (g.lower ctx id).diagnostics = g.occurrences.flatMap (Occurrence.findings ctx) := by
  obtain ⟨hlimits, htyped⟩ := lowers_iff.mp h
  exact lower_diagnostics_of_typable hlimits.numerable htyped

theorem lower_diagnostics_eq_items (h : g.Lowers ctx id) :
    (g.lower ctx id).diagnostics =
      g.items.flatMap fun item => ((item.alone frame).lower ctx id).diagnostics := by
  have halone : ∀ item ∈ g.items, ((item.alone frame).lower ctx id).diagnostics =
      (item.alone frame).occurrences.flatMap (Occurrence.findings ctx) :=
    fun item hitem => ((lowers_iff_items frame).mp h item hitem).diagnostics
  -- an occurrence knows only the references before it in its own rule
  rw [h.diagnostics, occurrences_eq_items frame, List.flatMap_assoc]
  exact (List.flatMap_congr halone).symm

end Whole

/-- Each fact and each rule of the result is the one that the goal with only this item has. -/
structure Assembled (ctx : Context) (id : GoalId) (g frame : Goal) (r : Resolved.Goal) : Prop where
  initFacts : List.Forall₂ (fun f x => ∃ part,
    (((Item.init f).alone frame).lower ctx id).outcome = .ok part ∧ part.initFacts = [x])
    g.initFacts r.initFacts
  rules : List.Forall₂ (fun f x => ∃ part,
    (((Item.rule f).alone frame).lower ctx id).outcome = .ok part ∧ part.rules = [x])
    g.rules r.rules
  exitFacts : List.Forall₂ (fun f x => ∃ part,
    (((Item.exit f).alone frame).lower ctx id).outcome = .ok part ∧ part.exitFacts = [x])
    g.exitFacts r.exitFacts

theorem lower_assembled (frame : Goal) (hr : (g.lower ctx id).outcome = .ok r) :
    g.Assembled ctx id frame r := by
  have halone := (lowers_iff_items frame).mp ⟨r, hr⟩
  have hpart : ∀ item ∈ g.items, ((item.alone frame).lower ctx id).outcome =
      .ok ((item.alone frame).canonical ctx.types id) := by
    intro item hitem
    obtain ⟨part, hp⟩ := halone item hitem
    rw [hp, (lower_of_ok hp).1]
  obtain ⟨hinit, hrules, hexit⟩ := forall_mem_items.mp hpart
  obtain ⟨rfl, _⟩ := lower_of_ok hr
  exact {
    initFacts := forall₂_map fun f hf => ⟨_, hinit f hf, rfl⟩
    rules := forall₂_map fun f hf => ⟨_, hrules f hf, rfl⟩
    exitFacts := forall₂_map fun f hf => ⟨_, hexit f hf, rfl⟩ }

section Rules

def withRules (g : Goal) (rules : List Rule) : Goal := { g with rules := rules }

/-- Whether a goal is lowered is decided by its facts and, apart from them, by each of its rules. -/
theorem lowers_withRules_iff (frame : Goal) (rules : List Rule) :
    (g.withRules rules).Lowers ctx id ↔ (g.withRules []).Lowers ctx id ∧
      ∀ rule ∈ rules, ((Item.rule rule).alone frame).Lowers ctx id := by
  rw [lowers_iff_items frame, lowers_iff_items (g := g.withRules []) frame]
  simp only [forall_mem_items, withRules, List.not_mem_nil, false_imp_iff, implies_true, true_and,
    and_assoc]
  exact and_congr_right fun _ => and_comm

variable {before old new after : List Rule} {r' : Resolved.Goal}

theorem lowers_append_iff {front back : List Rule} :
    (g.withRules (front ++ back)).Lowers ctx id ↔
      (g.withRules front).Lowers ctx id ∧ (g.withRules back).Lowers ctx id := by
  rw [lowers_withRules_iff g, lowers_withRules_iff g front, lowers_withRules_iff g back,
    List.forall_mem_append]
  exact and_and_left

theorem lower_append_rules {front back : List Rule} {rf rb : Resolved.Goal}
    (hr : ((g.withRules (front ++ back)).lower ctx id).outcome = .ok r)
    (hf : ((g.withRules front).lower ctx id).outcome = .ok rf)
    (hb : ((g.withRules back).lower ctx id).outcome = .ok rb) : r.rules = rf.rules ++ rb.rules := by
  obtain ⟨rfl, _⟩ := lower_of_ok hr
  obtain ⟨rfl, _⟩ := lower_of_ok hf
  obtain ⟨rfl, _⟩ := lower_of_ok hb
  exact List.map_append

theorem lowers_edited_iff (frame : Goal)
    (h : (g.withRules (before ++ old ++ after)).Lowers ctx id) :
    (g.withRules (before ++ new ++ after)).Lowers ctx id ↔
      ∀ rule ∈ new, ((Item.rule rule).alone frame).Lowers ctx id := by
  rw [lowers_withRules_iff frame] at h ⊢
  simp only [List.forall_mem_append] at h ⊢
  obtain ⟨hfacts, ⟨hbefore, _⟩, hafter⟩ := h
  exact ⟨fun hnew => hnew.2.1.2, fun hnew => ⟨hfacts, ⟨hbefore, hnew⟩, hafter⟩⟩

/-- Other rules in one place of a goal: the rules before and after it give what they gave, the facts
and the rest of the result are the same, and so are the reports before and after those of the rules
in that place. -/
structure EditedAt (ctx : Context) (id : GoalId) (g frame : Goal) (before old new after : List Rule)
    (r r' : Resolved.Goal) : Prop where
  result : ∃ front middle middle' back, front.length = before.length ∧
    middle.length = old.length ∧ middle'.length = new.length ∧ back.length = after.length ∧
    r = { r with rules := front ++ middle ++ back } ∧
    r' = { r with rules := front ++ middle' ++ back }
  reports : ∃ earlier later,
    ((g.withRules (before ++ old ++ after)).lower ctx id).diagnostics = earlier ++
      old.flatMap (fun rule => (((Item.rule rule).alone frame).lower ctx id).diagnostics) ++ later ∧
    ((g.withRules (before ++ new ++ after)).lower ctx id).diagnostics = earlier ++
      new.flatMap (fun rule => (((Item.rule rule).alone frame).lower ctx id).diagnostics) ++ later

theorem flatMap_items_withRules {α : Type} (f : Item → List α) (before middle after : List Rule) :
    (g.withRules (before ++ middle ++ after)).items.flatMap f =
      (g.initFacts.map Item.init ++ before.map Item.rule).flatMap f ++
        middle.flatMap (fun rule => f (.rule rule)) ++
        (after.map Item.rule ++ g.exitFacts.map Item.exit).flatMap f := by
  simp only [flatMap_items, withRules, List.flatMap_append, List.flatMap_map, List.append_assoc]

theorem lower_editedAt (frame : Goal)
    (hr : ((g.withRules (before ++ old ++ after)).lower ctx id).outcome = .ok r)
    (hr' : ((g.withRules (before ++ new ++ after)).lower ctx id).outcome = .ok r') :
    g.EditedAt ctx id frame before old new after r r' := by
  have hreports := lower_diagnostics_eq_items frame ⟨r, hr⟩
  have hreports' := lower_diagnostics_eq_items frame ⟨r', hr'⟩
  rw [flatMap_items_withRules] at hreports hreports'
  -- a canonical form goes through the rules one by one and has no memory of the last one
  obtain ⟨rfl, _⟩ := lower_of_ok hr
  obtain ⟨rfl, _⟩ := lower_of_ok hr'
  have hrules (middle : List Rule) :
      (g.withRules (before ++ middle ++ after)).canonical ctx.types id =
        { (g.withRules (before ++ old ++ after)).canonical ctx.types id with
          rules := before.map (Rule.canonical ctx.types id) ++
            middle.map (Rule.canonical ctx.types id) ++
            after.map (Rule.canonical ctx.types id) } := by
    simp only [canonical, withRules, List.map_append]
  exact {
    result := ⟨_, _, _, _, List.length_map _, List.length_map _, List.length_map _,
      List.length_map _, hrules old, hrules new⟩
    reports := ⟨_, _, hreports, hreports'⟩ }

end Rules

/-- Lowering goes item by item. It succeeds exactly if each one-item goal is lowered; the result is
put together from theirs, and their reports follow one another. So the rules of two lists together
give what the lists give, and other rules in one place change nothing in the others. -/
theorem lower_itemwise (ctx : Context) (id : GoalId) (g frame : Goal) :
    (g.Lowers ctx id ↔ ∀ item ∈ g.items, (item.alone frame).Lowers ctx id) ∧
    (∀ r, (g.lower ctx id).outcome = .ok r → g.Assembled ctx id frame r ∧
      (g.lower ctx id).diagnostics =
        g.items.flatMap fun item => ((item.alone frame).lower ctx id).diagnostics) ∧
    (∀ front back : List Rule,
      ((g.withRules (front ++ back)).Lowers ctx id ↔
        (g.withRules front).Lowers ctx id ∧ (g.withRules back).Lowers ctx id) ∧
      ∀ r rf rb, ((g.withRules (front ++ back)).lower ctx id).outcome = .ok r →
        ((g.withRules front).lower ctx id).outcome = .ok rf →
        ((g.withRules back).lower ctx id).outcome = .ok rb → r.rules = rf.rules ++ rb.rules) ∧
    ∀ (before old new after : List Rule) (r : Resolved.Goal),
      ((g.withRules (before ++ old ++ after)).lower ctx id).outcome = .ok r →
      ((g.withRules (before ++ new ++ after)).Lowers ctx id ↔
        ∀ rule ∈ new, ((Item.rule rule).alone frame).Lowers ctx id) ∧
      ∀ r', ((g.withRules (before ++ new ++ after)).lower ctx id).outcome = .ok r' →
        g.EditedAt ctx id frame before old new after r r' := by
  refine ⟨lowers_iff_items frame, ?_, ?_, ?_⟩
  · intro r hr
    exact ⟨lower_assembled frame hr, lower_diagnostics_eq_items frame ⟨r, hr⟩⟩
  · intro front back
    exact ⟨lowers_append_iff, fun r rf rb => lower_append_rules⟩
  · intro before old new after r hr
    exact ⟨lowers_edited_iff frame ⟨r, hr⟩, fun r' => lower_editedAt frame hr⟩

/-- Three rules, each with an `x` of its own; only the last one disagrees with itself. -/
def namesakes : Goal where
  name := "Namesakes"
  rules := [
    { conditions := [.query { name := "Counts", args := [
        .reference { name := "x", typeName := some "INTEGER", span := ⟨10, 11⟩ }] }] },
    { conditions := [.query { name := "Calls", args := [
        .reference { name := "x", typeName := some "STRING", span := ⟨20, 21⟩ },
        .constant { typeName := some "GONE", literal := .unknown }] }] },
    { conditions := [.query { name := "Asks", args := [
        .reference { name := "x", span := ⟨30, 31⟩ }] }]
      actions := [.call { name := "Answers", args := [
        .reference { name := "x", typeName := some "REAL", span := ⟨40, 41⟩ }] }] }]
  exitFacts := [{ database := "Done", elements := [{ literal := .text "end" }] }]

theorem namesakes_itemwise :
    (∀ item ∈ namesakes.items, (item.alone {}).Lowers { policy := .warn } ⟨3⟩) ∧
    namesakes.Assembled { policy := .warn } ⟨3⟩ {} (namesakes.canonical .builtins ⟨3⟩) ∧
    (namesakes.items.map fun item =>
      ((item.alone {}).lower { policy := .warn } ⟨3⟩).diagnostics.map (·.code)) =
        [[], [.typeUnresolved], [.annotationConflict], []] ∧
    (namesakes.lower { policy := .warn } ⟨3⟩).diagnostics.map (·.code) =
      [.typeUnresolved, .annotationConflict] ∧
    ∃ first second third, namesakes.rules = [first, second, third] ∧
      namesakes.EditedAt { policy := .warn } ⟨3⟩ {} [first] [second] [] [third]
        (namesakes.canonical .builtins ⟨3⟩)
        ((namesakes.withRules [first, third]).canonical .builtins ⟨3⟩) ∧
      ((namesakes.withRules [first, third]).lower { policy := .warn } ⟨3⟩).diagnostics.map
        (·.code) = [.annotationConflict] := by
  have hr : (namesakes.lower { policy := .warn } ⟨3⟩).outcome =
      .ok (namesakes.canonical .builtins ⟨3⟩) := by decide
  obtain ⟨hiff, hwhole, _, hedit⟩ := lower_itemwise { policy := .warn } ⟨3⟩ namesakes {}
  obtain ⟨hassembled, hreports⟩ := hwhole _ hr
  refine ⟨hiff.mp ⟨_, hr⟩, hassembled, by decide, ?_, _, _, _, rfl, ?_, by decide⟩
  · rw [hreports]
    decide
  · exact (hedit [_] [_] [] [_] _ hr).2 _ (by decide)

end Goal

end Storyline.Source
