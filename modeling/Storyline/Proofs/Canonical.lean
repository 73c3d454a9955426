import Storyline.Proofs.Binding

/-!
# Lowering without a scope

The resolved form of a goal can be said without running anything: a constant has the type of its
type name or of its literal, a variable has the number and the type that the references of its whole
rule give it. This is the canonical form. Lowering a part of a rule treats its occurrences one after
another, each in the scope of the references before it, and leaves the scope of all of them.
`Treats` says so, and that it gives the canonical form of the part as long as the names of the rule
can be numbered. `Rule.lower_eq` is the same for a whole rule. The slots of a rule are the canonical
ones even when there are too many names, which is how the check finds out.
-/

namespace Storyline.Source

section Canonical

variable (types : TypeTable) (refs : List Variable)

def Fact.canonical (f : Fact) : Resolved.Fact :=
  ⟨Symbol.ofArgs f.database f.elements.length, f.negated, f.elements.map (Constant.canonical types)⟩

def Value.canonical : Value → Resolved.Value
  | .constant c => .constant (c.canonical types)
  | .reference v => .reference (v.canonical types refs)

def Call.canonical (c : Call) : Resolved.Call :=
  ⟨Symbol.ofArgs c.name c.args.length, c.negated, c.args.map (Value.canonical types refs)⟩

def Condition.canonical : Condition → Resolved.Condition
  | .query c => .query (c.canonical types refs)
  | .comparison c =>
    .comparison ⟨c.left.canonical types refs, c.relation, c.right.canonical types refs⟩

def Action.canonical (id : GoalId) : Action → Resolved.Action
  | .completion _ => .completion id
  | .call c => .call (c.canonical types refs)

def slots : List Resolved.Slot :=
  (firstReferences refs).mapIdx fun i v => ⟨UInt32.ofNatClamp i, v.name, v.writtenType? types⟩

def Rule.canonical (id : GoalId) (r : Rule) : Resolved.Rule :=
  ⟨id, r.kind, r.conditions.map (Condition.canonical types r.references),
    r.actions.map (Action.canonical types r.references id), slots types r.references⟩

def Goal.canonical (id : GoalId) (g : Goal) : Resolved.Goal :=
  ⟨id, g.name, g.initFacts.map (Fact.canonical types), g.rules.map (Rule.canonical types id),
    g.exitFacts.map (Fact.canonical types), g.parents.map ParentEdge.lower⟩

end Canonical

variable (ctx : Context)

namespace Value

theorem lower_constant (s : Scope) (c : Constant) :
    Value.lower ctx s (.constant c) = (fun c => (.constant c, s)) <$> c.lower ctx := by
  rw [← bind_pure_comp]
  rfl

theorem lower_reference (s : Scope) (v : Variable) :
    Value.lower ctx s (.reference v) = (fun p => (.reference p.1, p.2)) <$> s.bind ctx v := by
  rw [← bind_pure_comp]
  rfl

theorem lower_outcome_of_typable {earlier refs : List Variable} {v : Value}
    (hrefs : earlier ++ v.references <+: refs) (h : ¬ v.Untypable ctx.types) :
    ∃ x, (v.lower ctx (.ofReferences ctx.types earlier)).outcome =
        .ok (x, .ofReferences ctx.types (earlier ++ v.references)) ∧
      (Numerable refs → x = v.canonical ctx.types refs) := by
  cases v with
  | constant c =>
    refine ⟨.constant (c.canonical ctx.types), ?_, fun _ => rfl⟩
    rw [lower_constant, Run.outcome_map, Constant.lower_outcome_of_typable ctx h, references,
      List.append_nil]
    rfl
  | reference v =>
    obtain ⟨x, hx, hcanonical⟩ := Scope.bind_outcome ctx earlier v
    refine ⟨.reference x, ?_, ?_⟩
    · rw [lower_reference, Run.outcome_map, hx]
      rfl
    · intro hnumerable
      have hearlier := hnumerable.mono ((List.prefix_append _ _).trans hrefs)
      obtain ⟨more, rfl⟩ := hrefs
      have hmem : v.name ∈ names (earlier ++ [v]) := by simp
      rw [hcanonical hearlier, canonical, Variable.canonical, Variable.canonical, references,
        slotNumber_append hmem, typeOf_append ctx.types hmem]

theorem lower_outcome_of_untypable {v : Value} (s : Scope) (h : v.Untypable ctx.types) :
    ∃ c id, v = .constant c ∧ c.literal.kind.builtinType? = some id ∧
      (v.lower ctx s).outcome = .error (.missingBuiltin id c.literal.kind) := by
  cases v with
  | constant c =>
    obtain ⟨id, htype, hc⟩ := Constant.lower_outcome_of_untypable ctx h
    refine ⟨c, id, rfl, htype, ?_⟩
    rw [lower_constant, Run.outcome_map, hc]
    rfl
  | reference v => exact h.elim

theorem lower_diagnostics {earlier : List Variable} (hearlier : Numerable earlier) (v : Value) :
    (v.lower ctx (.ofReferences ctx.types earlier)).diagnostics =
      Occurrence.findings ctx ⟨earlier, v⟩ := by
  cases v with
  | constant c => rw [lower_constant, Run.diagnostics_map, Constant.lower_diagnostics ctx earlier]
  | reference v => rw [lower_reference, Run.diagnostics_map, Scope.bind_diagnostics ctx hearlier]

end Value

/-- What lowering does at an occurrence, apart from the value it gives. -/
def Occurrence.treat (o : Occurrence) : Run Fault Unit :=
  (o.value.lower ctx (.ofReferences ctx.types o.earlier)).discard

/-- From the scope of `earlier`, the run treats the values one by one and leaves the scope of all
the references so far. It gives `b`, provided that the names of the whole rule can be numbered. -/
def Treats {β : Type} (refs earlier : List Variable) (vs : List Value) (r : Run Fault (β × Scope))
    (b : β) : Prop :=
  ∃ x, (Numerable refs → x = b) ∧ r = do
    Run.all ((occurrencesAfter earlier vs).map (Occurrence.treat ctx))
    return (x, .ofReferences ctx.types (earlier ++ references vs))

namespace Treats

variable {ctx} {α β γ : Type} {refs earlier : List Variable} {vs ws : List Value}

theorem bind {r : Run Fault (β × Scope)} {b : β} {next : β × Scope → Run Fault (γ × Scope)} {c : γ}
    (hr : Treats ctx refs earlier vs r b)
    (hnext : ∀ x, (Numerable refs → x = b) → Treats ctx refs (earlier ++ references vs) ws
      (next (x, .ofReferences ctx.types (earlier ++ references vs))) c) :
    Treats ctx refs earlier (vs ++ ws) (r >>= next) c := by
  obtain ⟨x, hx, rfl⟩ := hr
  obtain ⟨y, hy, hnext⟩ := hnext x hx
  refine ⟨y, hy, ?_⟩
  rw [bind_assoc, pure_bind, hnext, occurrencesAfter_append, List.map_append, Run.all_append,
    bind_assoc, references_append, List.append_assoc]

theorem none {x b : β} (earlier : List Variable) (hx : Numerable refs → x = b) :
    Treats ctx refs earlier [] (pure (x, .ofReferences ctx.types earlier)) b :=
  ⟨x, hx, by simp [occurrencesAfter]⟩

/-- What is made of the value that a run gives is no business of the scope. -/
theorem map {r : Run Fault (β × Scope)} {b : β} {next : β × Scope → Run Fault (γ × Scope)}
    {f : β → γ} {c : γ} (hr : Treats ctx refs earlier vs r b)
    (hnext : ∀ x s, next (x, s) = pure (f x, s)) (hc : Numerable refs → f b = c) :
    Treats ctx refs earlier vs (r >>= next) c := by
  have h : Treats ctx refs earlier (vs ++ []) (r >>= next) c := by
    apply hr.bind
    intro x hx
    rw [hnext]
    exact none _ fun hrefs => by rw [hx hrefs, hc hrefs]
  rwa [List.append_nil] at h

/-- A loop that carries the scope along treats the values of its elements in their order. -/
theorem thread {f : Scope → α → Run Fault (β × Scope)} {values : α → List Value} {g : α → β}
    {as : List α}
    (h : ∀ earlier, ∀ a ∈ as, earlier ++ references (values a) <+: refs →
      Treats ctx refs earlier (values a) (f (.ofReferences ctx.types earlier) a) (g a))
    (hrefs : earlier ++ references (as.flatMap values) <+: refs) :
    Treats ctx refs earlier (as.flatMap values)
      (Run.thread f (.ofReferences ctx.types earlier) as) (as.map g) := by
  -- `refs` belongs to the whole rule and stays, while the references read so far grow
  induction as generalizing earlier with
  | nil => exact none earlier fun _ => rfl
  | cons a as ih =>
    rw [List.flatMap_cons, references_append, ← List.append_assoc] at hrefs
    have ha := h earlier a List.mem_cons_self ((List.prefix_append _ _).trans hrefs)
    have has := ih (fun e b hb => h e b (List.mem_cons_of_mem a hb)) hrefs
    rw [List.flatMap_cons]
    apply ha.bind
    intro x hx
    exact has.map (fun xs s => rfl) fun hnumerable => by rw [hx hnumerable, List.map_cons]

end Treats

theorem Value.lower_treats {earlier refs : List Variable} {v : Value}
    (hrefs : earlier ++ v.references <+: refs) :
    Treats ctx refs earlier [v] (v.lower ctx (.ofReferences ctx.types earlier))
      (v.canonical ctx.types refs) := by
  have hvalue : ∃ x, (Numerable refs → x = v.canonical ctx.types refs) ∧
      ∀ p, (v.lower ctx (.ofReferences ctx.types earlier)).outcome = .ok p →
        p = (x, .ofReferences ctx.types (earlier ++ v.references)) := by
    by_cases h : v.Untypable ctx.types
    · obtain ⟨c, id, _, _, herror⟩ := lower_outcome_of_untypable ctx
        (.ofReferences ctx.types earlier) h
      refine ⟨_, fun _ => rfl, ?_⟩
      intro p hp
      rw [herror] at hp
      cases hp
    · obtain ⟨x, hx, hcanonical⟩ := lower_outcome_of_typable ctx hrefs h
      refine ⟨x, hcanonical, ?_⟩
      intro p hp
      exact Except.ok.inj (hp.symm.trans hx)
  obtain ⟨x, hx, hvalue⟩ := hvalue
  refine ⟨x, hx, ?_⟩
  rw [references_cons, references_nil, List.append_nil]
  simp only [occurrencesAfter, List.map_cons, List.map_nil, Run.all_singleton]
  exact Run.eq_discard_bind hvalue

theorem Call.lower_treats {earlier refs : List Variable} {c : Call}
    (hrefs : earlier ++ references c.args <+: refs) :
    Treats ctx refs earlier c.args (c.lower ctx (.ofReferences ctx.types earlier))
      (c.canonical ctx.types refs) := by
  have hsingle : c.args.flatMap (fun v => [v]) = c.args := by simp
  have hargs : Treats ctx refs earlier (c.args.flatMap fun v => [v])
      (Run.thread (Value.lower ctx) (.ofReferences ctx.types earlier) c.args)
      (c.args.map (Value.canonical ctx.types refs)) := by
    apply Treats.thread
    · intro earlier v _ hv
      rw [references_cons, references_nil, List.append_nil] at hv
      exact v.lower_treats ctx hv
    · rwa [hsingle]
  rw [hsingle] at hargs
  exact hargs.map (fun args s => rfl) fun _ => rfl

theorem Condition.lower_treats {earlier refs : List Variable} {c : Condition}
    (hrefs : earlier ++ references c.values <+: refs) :
    Treats ctx refs earlier c.values (c.lower ctx (.ofReferences ctx.types earlier))
      (c.canonical ctx.types refs) := by
  cases c with
  | query c => exact (c.lower_treats ctx hrefs).map (fun x s => rfl) fun _ => rfl
  | comparison c =>
    simp only [values, references_cons, references_nil, List.append_nil,
      ← List.append_assoc] at hrefs
    have hleft := c.left.lower_treats ctx ((List.prefix_append _ _).trans hrefs)
    have hright := c.right.lower_treats ctx hrefs
    apply Treats.bind hleft
    intro left hx
    rw [references_cons, references_nil, List.append_nil]
    exact hright.map (fun right s => rfl) fun hnumerable => by rw [hx hnumerable, canonical]

theorem Action.lower_treats (id : GoalId) {earlier refs : List Variable} {a : Action}
    (hrefs : earlier ++ references a.values <+: refs) :
    Treats ctx refs earlier a.values (a.lower ctx id (.ofReferences ctx.types earlier))
      (a.canonical ctx.types refs id) := by
  cases a with
  | completion span => exact Treats.none earlier fun _ => rfl
  | call c => exact (c.lower_treats ctx hrefs).map (fun x s => rfl) fun _ => rfl

theorem ofReferences_slots (types : TypeTable) (refs : List Variable) :
    (Scope.ofReferences types refs).slots = slots types refs := rfl

theorem slots_map_name (types : TypeTable) (refs : List Variable) :
    (slots types refs).map (·.name) = (firstReferences refs).map (·.name) := by
  apply List.ext_getElem?
  intro i
  simp only [slots, List.getElem?_map, List.getElem?_mapIdx, Option.map_map]
  rfl

def Rule.lowered (position : Nat) (r : Rule) : Event :=
  .ruleLowered position r.kind r.conditions.length r.actions.length
    (firstReferences r.references).length

/-- The slots of a rule are known in any case, the rest as long as its names can be numbered. -/
theorem Rule.lower_treats (id : GoalId) (position : Nat) (r : Rule) :
    ∃ s : Resolved.Rule, s.slots = Source.slots ctx.types r.references ∧
      (Numerable r.references → s = r.canonical ctx.types id) ∧
      r.lower ctx id position = do
        Run.all (r.occurrences.map (Occurrence.treat ctx))
        Run.note (.ruleLowered position r.kind s.conditions.length s.actions.length s.slots.length)
        return s := by
  have hrefs : Source.references (r.conditions.flatMap Condition.values) ++
      Source.references (r.actions.flatMap Action.values) = r.references := by
    rw [references, values, references_append]
  have hconditions : Treats ctx r.references [] (r.conditions.flatMap Condition.values)
      (Run.thread (Condition.lower ctx) .empty r.conditions)
      (r.conditions.map (Condition.canonical ctx.types r.references)) := by
    apply Treats.thread fun earlier c _ hc => c.lower_treats ctx hc
    exact ⟨_, hrefs⟩
  have hactions : Treats ctx r.references
      ([] ++ Source.references (r.conditions.flatMap Condition.values))
      (r.actions.flatMap Action.values) (Run.thread (Action.lower ctx id) (.ofReferences ctx.types
        ([] ++ Source.references (r.conditions.flatMap Condition.values))) r.actions)
      (r.actions.map (Action.canonical ctx.types r.references id)) := by
    apply Treats.thread fun earlier a _ ha => a.lower_treats ctx id ha
    exact ⟨[], (List.append_nil _).trans hrefs⟩
  obtain ⟨conditions, hc, hconditions⟩ := hconditions
  obtain ⟨actions, ha, hactions⟩ := hactions
  rw [List.nil_append] at hconditions hactions
  refine ⟨⟨id, r.kind, conditions, actions, slots ctx.types r.references⟩, rfl, ?_, ?_⟩
  · intro hnumerable
    rw [hc hnumerable, ha hnumerable, canonical]
  · rw [lower, hconditions]
    simp only [bind_assoc, pure_bind, hactions]
    rw [occurrences, values, occurrencesAfter_append, List.map_append, Run.all_append, bind_assoc,
      List.nil_append, hrefs, ofReferences_slots]
    rfl

theorem Rule.lower_eq (id : GoalId) (position : Nat) {r : Rule} (h : Numerable r.references) :
    r.lower ctx id position = do
      Run.all (r.occurrences.map (Occurrence.treat ctx))
      Run.note (r.lowered position)
      return r.canonical ctx.types id := by
  obtain ⟨s, _, hs, hlower⟩ := r.lower_treats ctx id position
  rw [hlower, hs h, lowered, canonical, List.length_map, List.length_map, slots,
    List.length_mapIdx]

theorem Rule.slots_of_lower {ctx : Context} {id : GoalId} {position : Nat} {r : Rule}
    {s : Resolved.Rule} (h : (r.lower ctx id position).outcome = .ok s) :
    s.slots = Source.slots ctx.types r.references := by
  obtain ⟨x, hslots, _, hlower⟩ := r.lower_treats ctx id position
  rw [hlower, ← bind_assoc] at h
  rw [← (Run.eq_of_bind_pure h).2, hslots]

end Storyline.Source
