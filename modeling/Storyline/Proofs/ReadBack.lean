import Mathlib.Data.List.Basic
import Storyline.Proofs.Outcome

/-!
# Reading a resolved goal back

A resolved goal still says everything its source said, apart from spans and type names. `readBack?`
puts the name of a slot in the place of every variable that points at it, and drops types and
arities; it fails where a variable points at no slot. `erased` is a source goal without its spans
and type names; only the spans of parent edges stay. Reading back what lowering gave yields the
erased source, node by node and in the same order.
-/

namespace Storyline

namespace Source

def Constant.erased (c : Constant) : Constant := { literal := c.literal }

def Variable.erased (v : Variable) : Variable := { name := v.name }

def Value.erased : Value → Value
  | .constant c => .constant c.erased
  | .reference v => .reference v.erased

def Fact.erased (f : Fact) : Fact :=
  { database := f.database, negated := f.negated, elements := f.elements.map Constant.erased }

def Call.erased (c : Call) : Call :=
  { name := c.name, negated := c.negated, args := c.args.map Value.erased }

def Condition.erased : Condition → Condition
  | .query c => .query c.erased
  | .comparison c =>
    .comparison { left := c.left.erased, relation := c.relation, right := c.right.erased }

def Action.erased : Action → Action
  | .completion _ => .completion .dummy
  | .call c => .call c.erased

def Rule.erased (r : Rule) : Rule :=
  { kind := r.kind
    conditions := r.conditions.map Condition.erased
    actions := r.actions.map Action.erased }

def Goal.erased (g : Goal) : Goal :=
  { name := g.name
    initFacts := g.initFacts.map Fact.erased
    rules := g.rules.map Rule.erased
    exitFacts := g.exitFacts.map Fact.erased
    parents := g.parents }

/-- The symbols that a goal applies, each with the number of its arguments. -/
def Goal.applications (g : Goal) : List (String × Nat) :=
  g.initFacts.map (fun f => (f.database, f.elements.length)) ++
    g.rules.flatMap (fun r => r.calls.map fun c => (c.name, c.args.length)) ++
    g.exitFacts.map (fun f => (f.database, f.elements.length))

end Source

namespace Resolved

def Constant.readBack (c : Constant) : Source.Constant := { literal := c.literal }

def Fact.readBack (f : Fact) : Source.Fact :=
  { database := f.database.name
    negated := f.negated
    elements := f.elements.map Constant.readBack }

def Value.readBack? (slots : List Slot) : Value → Option Source.Value
  | .constant c => some (.constant c.readBack)
  | .reference v => do
    let slot ← slots[v.index.toNat]?
    return .reference { name := slot.name }

def Call.readBack? (slots : List Slot) (c : Call) : Option Source.Call := do
  let args ← c.args.mapM (Value.readBack? slots)
  return { name := c.symbol.name, negated := c.negated, args }

def Condition.readBack? (slots : List Slot) : Condition → Option Source.Condition
  | .query c => do
    let c ← c.readBack? slots
    return .query c
  | .comparison c => do
    let left ← c.left.readBack? slots
    let right ← c.right.readBack? slots
    return .comparison { left, relation := c.relation, right }

def Action.readBack? (slots : List Slot) : Action → Option Source.Action
  | .completion _ => some (.completion .dummy)
  | .call c => do
    let c ← c.readBack? slots
    return .call c

def Rule.readBack? (r : Rule) : Option Source.Rule := do
  let conditions ← r.conditions.mapM (Condition.readBack? r.slots)
  let actions ← r.actions.mapM (Action.readBack? r.slots)
  return { kind := r.kind, conditions, actions }

def ParentEdge.readBack (e : ParentEdge) : Source.ParentEdge := ⟨e.goal, e.span⟩

def Goal.readBack? (g : Goal) : Option Source.Goal := do
  let rules ← g.rules.mapM Rule.readBack?
  return {
    name := g.name
    initFacts := g.initFacts.map Fact.readBack
    rules
    exitFacts := g.exitFacts.map Fact.readBack
    parents := g.parents.map ParentEdge.readBack }

def Goal.symbols (g : Goal) : List Symbol :=
  g.initFacts.map (·.database) ++ g.rules.flatMap (fun r => r.calls.map (·.symbol)) ++
    g.exitFacts.map (·.database)

end Resolved

theorem mapM_map_eq_some {α β γ : Type} {f : α → β} {g : β → Option γ} {h : α → γ} {as : List α}
    (hg : ∀ a ∈ as, g (f a) = some (h a)) : (as.map f).mapM g = some (as.map h) := by
  induction as with
  | nil => rfl
  | cons a as ih =>
    have ha := hg a List.mem_cons_self
    have has := ih fun b hb => hg b (List.mem_cons_of_mem a hb)
    rw [List.map_cons, List.mapM_cons, ha, has]
    rfl

namespace Source

variable (types : TypeTable) (id : GoalId) {refs : List Variable}

theorem Fact.readBack_canonical (f : Fact) : (f.canonical types).readBack = f.erased := by
  have helements : f.elements.map (Resolved.Constant.readBack ∘ Constant.canonical types) =
      f.elements.map Constant.erased := by
    apply List.map_congr_left
    intro c _
    rw [Function.comp_apply, Constant.canonical]
    cases c.typeName <;> rfl
  simp only [Fact.canonical, Resolved.Fact.readBack, List.map_map, helements, Symbol.ofArgs, erased]

theorem Value.readBack_canonical (hrefs : Numerable refs) {v : Value}
    (hv : ∀ x ∈ v.references, x ∈ refs) :
    (v.canonical types refs).readBack? (slots types refs) = some v.erased := by
  cases v with
  | constant c =>
    rw [canonical, Resolved.Value.readBack?, Constant.canonical]
    cases c.typeName <;> rfl
  | reference x =>
    have hx : x.name ∈ names refs := List.mem_map_of_mem (hv x List.mem_cons_self)
    rw [canonical, Resolved.Value.readBack?, slots_getElem?_canonical types hrefs hx]
    rfl

theorem Call.readBack_canonical (hrefs : Numerable refs) {c : Call}
    (hc : ∀ x ∈ references c.args, x ∈ refs) :
    (c.canonical types refs).readBack? (slots types refs) = some c.erased := by
  have hargs : (c.args.map (Value.canonical types refs)).mapM
      (Resolved.Value.readBack? (slots types refs)) = some (c.args.map Value.erased) := by
    apply mapM_map_eq_some
    intro v hv
    exact v.readBack_canonical types hrefs fun x hx => hc x (List.mem_flatMap.mpr ⟨v, hv, hx⟩)
  rw [canonical, Resolved.Call.readBack?, hargs]
  rfl

theorem Condition.readBack_canonical (hrefs : Numerable refs) {c : Condition}
    (hc : ∀ x ∈ references c.values, x ∈ refs) :
    (c.canonical types refs).readBack? (slots types refs) = some c.erased := by
  cases c with
  | query c =>
    rw [canonical, Resolved.Condition.readBack?, c.readBack_canonical types hrefs hc]
    rfl
  | comparison c =>
    have hleft : ∀ x ∈ c.left.references, x ∈ refs := fun x hx => hc x (by simp [values, hx])
    have hright : ∀ x ∈ c.right.references, x ∈ refs := fun x hx => hc x (by simp [values, hx])
    rw [canonical, Resolved.Condition.readBack?, c.left.readBack_canonical types hrefs hleft,
      c.right.readBack_canonical types hrefs hright]
    rfl

theorem Action.readBack_canonical (hrefs : Numerable refs) {a : Action}
    (ha : ∀ x ∈ references a.values, x ∈ refs) :
    (a.canonical types refs id).readBack? (slots types refs) = some a.erased := by
  cases a with
  | completion span => rfl
  | call c =>
    rw [canonical, Resolved.Action.readBack?, c.readBack_canonical types hrefs ha]
    rfl

namespace Rule

variable {r : Rule}

theorem readBack_canonical (hrefs : Numerable r.references) :
    (r.canonical types id).readBack? = some r.erased := by
  have hconditions : (r.conditions.map (Condition.canonical types r.references)).mapM
      (Resolved.Condition.readBack? (slots types r.references)) =
      some (r.conditions.map Condition.erased) :=
    mapM_map_eq_some fun c hc => c.readBack_canonical types hrefs (mem_references_of_condition hc)
  have hactions : (r.actions.map (Action.canonical types r.references id)).mapM
      (Resolved.Action.readBack? (slots types r.references)) =
      some (r.actions.map Action.erased) :=
    mapM_map_eq_some fun a ha => a.readBack_canonical types id hrefs (mem_references_of_action ha)
  rw [canonical, Resolved.Rule.readBack?, hconditions, hactions]
  rfl

end Rule

namespace Goal

variable {g : Goal}

theorem readBack_canonical (hg : g.Numerable) :
    (g.canonical types id).readBack? = some g.erased := by
  have hrules : (g.rules.map (Rule.canonical types id)).mapM Resolved.Rule.readBack? =
      some (g.rules.map Rule.erased) :=
    mapM_map_eq_some fun r hr => Rule.readBack_canonical types id (hg r hr)
  have hfacts : ∀ fs : List Fact,
      (fs.map (Fact.canonical types)).map Resolved.Fact.readBack = fs.map Fact.erased := by
    intro fs
    rw [List.map_map]
    exact List.map_congr_left fun f _ => f.readBack_canonical types
  have hparents :
      (g.parents.map ParentEdge.lower).map Resolved.ParentEdge.readBack = g.parents := by
    rw [List.map_map]
    exact List.map_id g.parents
  rw [Resolved.Goal.readBack?, canonical, hrules]
  simp only [hfacts, hparents]
  rfl

theorem ofArgs_eq {name : String} {n : Nat} (h : n < UInt32.size) :
    ((Symbol.ofArgs name n).name, (Symbol.ofArgs name n).arity.toNat) = (name, n) := by
  simp only [Symbol.ofArgs, (toNat_ofNatClamp_eq_iff n).mpr h]

theorem symbols_canonical (hg : g.WithinLimits) :
    (g.canonical types id).symbols.map (fun s => (s.name, s.arity.toNat)) = g.applications := by
  have hfacts : ∀ fs : List Fact, (∀ f ∈ fs, f.elements.length < UInt32.size) →
      ((fs.map (Fact.canonical types)).map (·.database)).map (fun s => (s.name, s.arity.toNat)) =
        fs.map fun f => (f.database, f.elements.length) := by
    intro fs hfs
    rw [List.map_map, List.map_map]
    exact List.map_congr_left fun f hf => ofArgs_eq (hfs f hf)
  have hcalls : ∀ r ∈ g.rules,
      ((r.canonical types id).calls.map (·.symbol)).map (fun s => (s.name, s.arity.toNat)) =
        r.calls.map fun c => (c.name, c.args.length) := by
    intro r hr
    rw [Rule.canonical_calls, List.map_map, List.map_map]
    exact List.map_congr_left fun c hc => ofArgs_eq ((hg.rule r hr).arguments c hc)
  obtain ⟨hinit, hexit⟩ := List.forall_mem_append.mp hg.elements
  simp only [Resolved.Goal.symbols, canonical, List.map_append, hfacts _ hinit, hfacts _ hexit,
    List.flatMap_map, List.map_flatMap, applications]
  rw [List.flatMap_congr hcalls]

/-- Read back through its slots, the resolved goal is the source without spans and type names. It
has the same symbols at the same arities, and all that names a goal in it names `id`. -/
structure ReadsBack (id : GoalId) (g : Goal) (r : Resolved.Goal) : Prop where
  source : r.readBack? = some g.erased
  symbols : r.symbols.map (fun s => (s.name, s.arity.toNat)) = g.applications
  label : r.id = id
  rules : ∀ rule ∈ r.rules, rule.goal = id ∧
    ∀ target, .completion target ∈ rule.actions → target = id

theorem canonical_readsBack (hg : g.WithinLimits) : g.ReadsBack id (g.canonical types id) where
  source := readBack_canonical types id hg.numerable
  symbols := symbols_canonical types id hg
  label := rfl
  rules := by
    intro rule hrule
    obtain ⟨r, _, rfl⟩ := List.mem_map.mp hrule
    exact ⟨rfl, r.canonical_completion types id⟩

variable {ctx : Context} {r : Resolved.Goal}

/-- Lowering loses nothing and invents nothing. -/
theorem lower_readBack (h : (g.lower ctx id).outcome = .ok r) : g.ReadsBack id r := by
  obtain ⟨rfl, hg, _⟩ := lower_of_ok h
  exact canonical_readsBack ctx.types id hg

/-- Without the check the limits have to be known beforehand. -/
theorem lowerUnchecked_readBack (hg : g.WithinLimits)
    (h : (g.lowerUnchecked ctx id).outcome = .ok r) : g.ReadsBack id r := by
  rw [← lower_eq_lowerUnchecked fun _ => check_of_resolve hg] at h
  obtain ⟨rfl, _, _⟩ := lower_of_ok h
  exact canonical_readsBack ctx.types id hg

theorem clash_readBack :
    (clash.lower {} ⟨7⟩).outcome = .ok (clash.canonical .builtins ⟨7⟩) ∧
      (clash.canonical .builtins ⟨7⟩).readBack? = some clash.erased ∧
      clash.applications = [("DB", 1), ("P", 1), ("Q", 2), ("Done", 1)] := by
  have h : (clash.lower {} ⟨7⟩).outcome = .ok (clash.canonical .builtins ⟨7⟩) := rfl
  exact ⟨h, (lower_readBack ⟨7⟩ h).source, by decide⟩

end Goal

end Source

end Storyline
