import Mathlib.Data.List.Forall2
import Storyline.Proofs.LoweringEffects
import Storyline.Proofs.Outcome
import Storyline.Trace

/-!
# The trace of a lowering

A lowering that succeeds leaves three things behind: the resolved goal, the diagnostics, and the
events of its trace. They are written at different places, and they tell one story. A rule ends with
an event that counts its parts, and before it stand the events of its slots. Every unknown type name
has an event and a report. The goal ends with the number of all the slots.

`Goal.steps` lists what lowering a goal does, one step for each occurrence and one for the end of
each rule, and `Occurrence.treat_events` says what is noted at an occurrence. Everything else is
read off these two, and the records of the trace, with their names and fields, are read off the
events.
-/

namespace Storyline

open Source

def Event.isBinding : Event → Bool
  | .variableBound _ => true
  | _ => false

/-- The events that tell of a rule: its slots and its end. -/
def Event.isOfRule : Event → Bool
  | .variableBound _ => true
  | .ruleLowered _ _ _ _ _ => true
  | _ => false

def Event.isUnresolved : Event → Bool
  | .typeUnresolved _ _ => true
  | _ => false

/-- The event of an unknown type name and the report that quotes it. -/
def Event.Announces (e : Event) (d : Diagnostic) : Prop :=
  ∃ typeName span, e = .typeUnresolved typeName span ∧
    d.message = "type `" ++ typeName ++ "` does not exist" ∧
    d.labels = if span = .dummy then [] else [⟨span, "unknown type", true⟩]

namespace Trace

/-- A plain effect is no step into a region or out of one, so records stay at their depth. -/
theorem ofEffects_append {xs : List Effect} (h : ∀ x ∈ xs, x.Plain) (depth : Nat)
    (ys : List Effect) :
    ofEffects depth (xs ++ ys) =
      (eventsOf xs).map (fun e => ⟨ofEvent e, depth⟩) ++ ofEffects depth ys := by
  induction xs with
  | nil => rfl
  | cons x xs ih =>
    obtain ⟨hx, hxs⟩ := List.forall_mem_cons.mp h
    have htail := ih hxs
    cases x with
    | note e => exact congrArg (_ :: ·) htail
    | report d => exact htail
    | request path => exact hx.elim
    | enter region => exact hx.elim
    | leave => exact hx.elim

/-- The record of an unknown type name and the report that quotes it. -/
def Entry.Announces (x : Entry) (d : Diagnostic) : Prop :=
  ∃ typeName span,
    x = ⟨false, "unresolved type annotation", .debug,
      [("type_name", typeName), ("span", span.text)]⟩ ∧
    d.message = "type `" ++ typeName ++ "` does not exist" ∧
    d.labels = if span = .dummy then [] else [⟨span, "unknown type", true⟩]

theorem announces_ofEvent {e : Event} {d : Diagnostic} (h : e.Announces d) :
    (ofEvent e).Announces d := by
  obtain ⟨typeName, span, rfl, hmessage, hlabels⟩ := h
  exact ⟨typeName, span, rfl, hmessage, hlabels⟩

section Names

variable (e : Event)

theorem ofEvent_name_ofRule :
    decide ((ofEvent e).name ∈ ["bound variable", "lowered rule"]) = e.isOfRule := by
  cases e <;> simp [ofEvent, Event.isOfRule]

theorem ofEvent_name_unresolved :
    decide ((ofEvent e).name = "unresolved type annotation") = e.isUnresolved := by
  cases e <;> simp [ofEvent, Event.isUnresolved]

theorem ofEvent_name_isBinding :
    decide ((ofEvent e).name = "bound variable") = e.isBinding := by
  cases e <;> simp [ofEvent, Event.isBinding]

end Names

end Trace

namespace Run

variable {ε α β : Type}

theorem effects_bind_of_ok {r : Run ε α} {a : α} (h : r.outcome = .ok a) (next : α → Run ε β) :
    (r >>= next).effects = r.effects ++ (next a).effects := by
  rw [bind_of_ok h]

theorem eventsOf_flatMap (rs : List (Run ε Unit)) :
    eventsOf (rs.flatMap effects) = rs.flatMap events :=
  List.filterMap_flatMap

end Run

namespace Source.Occurrence

section Parts

variable (types : TypeTable)

/-- The type name of a value if nothing declares it, with its place. -/
def unknownNames (o : Occurrence) : List (String × Span) :=
  match o.value.typeName with
  | none => []
  | some typeName =>
    match types.lookup? typeName with
    | none => [(typeName, o.value.span)]
    | some _ => []

/-- The slot that a first reference opens. -/
def opened (o : Occurrence) : List Resolved.Slot :=
  match o.value with
  | .constant _ => []
  | .reference v =>
    if v.name ∈ names o.earlier then []
    else [⟨.ofNatClamp (firstReferences o.earlier).length, v.name, v.writtenType? types⟩]

variable {o : Occurrence} {typeName : String} {type : TypeId} {refs : List Variable} {v : Variable}

theorem unknownNames_of_unnamed (h : o.value.typeName = none) : o.unknownNames types = [] := by
  simp only [unknownNames, h]

theorem unknownNames_of_unknown (h : o.value.typeName = some typeName)
    (hlookup : types.lookup? typeName = none) :
    o.unknownNames types = [(typeName, o.value.span)] := by
  simp only [unknownNames, h, hlookup]

theorem unknownNames_of_known (h : o.value.typeName = some typeName)
    (hlookup : types.lookup? typeName = some type) : o.unknownNames types = [] := by
  simp only [unknownNames, h, hlookup]

theorem opened_of_mem (h : v.name ∈ names refs) : opened types ⟨refs, .reference v⟩ = [] := if_pos h

theorem opened_of_notMem (h : v.name ∉ names refs) : opened types ⟨refs, .reference v⟩ =
    [⟨.ofNatClamp (firstReferences refs).length, v.name, v.writtenType? types⟩] := if_neg h

end Parts

variable (ctx : Context)

theorem resolveName?_events (o : Occurrence) :
    (ctx.types.resolveName? o.value.typeName o.value.span).events =
      (o.unknownNames ctx.types).map fun p => .typeUnresolved p.1 p.2 := by
  cases hname : o.value.typeName with
  | none =>
    rw [unknownNames_of_unnamed ctx.types hname]
    rfl
  | some typeName =>
    rw [TypeTable.resolveName?, TypeTable.resolveName]
    cases hlookup : ctx.types.lookup? typeName with
    | none =>
      rw [unknownNames_of_unknown ctx.types hname hlookup]
      rfl
    | some type =>
      rw [unknownNames_of_known ctx.types hname hlookup]
      rfl

theorem constant_events (c : Constant) :
    (c.lower ctx).events = (ctx.types.resolveName? c.typeName c.span).events := by
  rw [Run.events, Constant.lower_eq_map, Run.effects_map]
  cases c.typeName with
  | some typeName => rw [TypeTable.typing, Run.effects_map, TypeTable.resolveName?, Run.events]
  | none =>
    rw [TypeTable.typing, Run.effects_map]
    cases ctx.types.inferType c.literal.kind <;> rfl

/-- A conflict is a report and no event. -/
theorem reviseType_events (b : Scope.Binding) (typeName : String) (span : Span) :
    (Scope.reviseType ctx b typeName span).events =
      (ctx.types.resolveName typeName span).events := by
  rw [Run.events, Scope.reviseType, Run.effects_bind_of_ok (TypeTable.resolveName_outcome _ _ _),
    eventsOf_append]
  cases ctx.types.lookup? typeName with
  | none => exact List.append_nil _
  | some type =>
    dsimp only
    split <;> exact List.append_nil _

theorem bind_events (refs : List Variable) (v : Variable) :
    ((Scope.ofReferences ctx.types refs).bind ctx v).events =
      (ctx.types.resolveName? v.typeName v.span).events ++
        (opened ctx.types ⟨refs, .reference v⟩).map .variableBound := by
  by_cases hmem : v.name ∈ names refs
  · obtain ⟨first, hfind, _⟩ := Scope.ofReferences_find?_of_mem ctx.types hmem
    rw [Run.events, (Scope.bind_of_find? ctx _ hfind).2, opened_of_mem ctx.types hmem, List.map_nil,
      List.append_nil]
    cases v.typeName with
    | none => rfl
    | some typeName => exact reviseType_events ctx _ typeName v.span
  · have hfind := Scope.ofReferences_find?_of_notMem ctx.types hmem
    rw [Run.events, (Scope.bind_of_find?_eq_none ctx _ hfind).2, opened_of_notMem ctx.types hmem,
      eventsOf_append, Scope.nextIndex, Scope.ofReferences_size]
    rfl

/-- All that is noted at an occurrence: that its type name is unknown, and then the slot that a
first reference opens. -/
theorem treat_events (o : Occurrence) :
    (o.treat ctx).events = ((o.unknownNames ctx.types).map fun p => .typeUnresolved p.1 p.2) ++
      (o.opened ctx.types).map .variableBound := by
  rw [← resolveName?_events]
  obtain ⟨refs, value⟩ := o
  change (value.lower ctx (.ofReferences ctx.types refs)).events = _
  cases value with
  | constant c =>
    rw [Run.events, Value.lower_constant, Run.effects_map]
    exact (constant_events ctx c).trans (List.append_nil _).symm
  | reference v =>
    rw [Run.events, Value.lower_reference, Run.effects_map]
    exact bind_events ctx refs v

theorem findings_filter (o : Occurrence) :
    (o.findings ctx).filter (·.code = .typeUnresolved) =
      (o.unknownNames ctx.types).map fun p => unknownType p.1 p.2 := by
  cases hname : o.value.typeName with
  | none =>
    rw [unknownNames_of_unnamed ctx.types hname, findings_of_unnamed ctx hname]
    rfl
  | some typeName =>
    cases hlookup : ctx.types.lookup? typeName with
    | none =>
      rw [unknownNames_of_unknown ctx.types hname hlookup, findings_of_unknown ctx hname hlookup]
      rfl
    | some type =>
      rw [unknownNames_of_known ctx.types hname hlookup, findings_of_known ctx hname hlookup]
      apply List.filter_eq_nil_iff.mpr
      intro d hd
      simp [conflicts_code hd]

theorem treat_events_ofRule (o : Occurrence) :
    (o.treat ctx).events.filter Event.isOfRule = (o.opened ctx.types).map .variableBound := by
  rw [treat_events, List.filter_append, List.filter_map, List.filter_map]
  simp [Function.comp_def, Event.isOfRule]

theorem treat_events_unresolved (o : Occurrence) :
    (o.treat ctx).events.filter Event.isUnresolved =
      (o.unknownNames ctx.types).map fun p => .typeUnresolved p.1 p.2 := by
  rw [treat_events, List.filter_append, List.filter_map, List.filter_map]
  simp [Function.comp_def, Event.isUnresolved]

end Source.Occurrence

/-- The events of a rule: its slots in their order, then its end. -/
def Resolved.Rule.events (position : Nat) (r : Resolved.Rule) : List Event :=
  r.slots.map .variableBound ++
    [.ruleLowered position r.kind r.conditions.length r.actions.length r.slots.length]

/-- What the records of a rule say. -/
def Resolved.Rule.entries (position : Nat) (r : Resolved.Rule) : List Trace.Entry :=
  (r.slots.map fun slot => ⟨false, "bound variable", .trace,
      [("variable", slot.name), ("index", toString slot.index.toNat),
        ("ty", Trace.optionalType slot.type)]⟩) ++
    [⟨false, "lowered rule", .trace,
      [("rule", toString position), ("rule_type", r.kind.word),
        ("conditions", toString r.conditions.length), ("actions", toString r.actions.length),
        ("variables", toString r.slots.length)]⟩]

theorem Resolved.Rule.map_ofEvent_events (position : Nat) (r : Resolved.Rule) :
    (r.events position).map Trace.ofEvent = r.entries position := by
  rw [events, List.map_append, List.map_map]
  rfl

namespace Source

section Slots

variable (types : TypeTable)

theorem slots_snoc (refs : List Variable) (v : Variable) :
    slots types (refs ++ [v]) =
      slots types refs ++ Occurrence.opened types ⟨refs, .reference v⟩ := by
  by_cases hmem : v.name ∈ names refs
  · rw [Occurrence.opened_of_mem types hmem, List.append_nil, slots, slots,
      firstReferences_snoc_of_mem hmem]
  · rw [Occurrence.opened_of_notMem types hmem, slots, slots, firstReferences_snoc_of_notMem hmem,
      List.mapIdx_append]
    simp

/-- Slots are opened one by one, in the order of the occurrences. -/
theorem slots_append_references (earlier : List Variable) (vs : List Value) :
    slots types (earlier ++ references vs) =
      slots types earlier ++ (occurrencesAfter earlier vs).flatMap (Occurrence.opened types) := by
  induction vs generalizing earlier with
  | nil => simp only [references_nil, List.append_nil, occurrencesAfter, List.flatMap_nil]
  | cons v vs ih =>
    have hv : slots types (earlier ++ v.references) =
        slots types earlier ++ Occurrence.opened types ⟨earlier, v⟩ := by
      cases v with
      | constant c =>
        rw [Value.references, List.append_nil]
        exact (List.append_nil _).symm
      | reference v => exact slots_snoc types earlier v
    rw [references_cons, ← List.append_assoc, ih, hv, occurrencesAfter, List.flatMap_cons,
      List.append_assoc]

theorem Rule.flatMap_opened (r : Rule) :
    r.occurrences.flatMap (Occurrence.opened types) = slots types r.references :=
  (slots_append_references types [] r.values).symm

theorem Fact.flatMap_opened (f : Fact) : f.occurrences.flatMap (Occurrence.opened types) = [] := by
  rw [Fact.occurrences_eq, List.flatMap_map]
  exact List.flatMap_eq_nil_iff.mpr fun _ _ => rfl

end Slots

section Steps

variable (ctx : Context)

def Rule.steps (position : Nat) (r : Rule) : List (Run Fault Unit) :=
  r.occurrences.map (Occurrence.treat ctx) ++ [Run.note (r.lowered position)]

def Goal.steps (g : Goal) : List (Run Fault Unit) :=
  (g.initFacts.flatMap Fact.occurrences).map (Occurrence.treat ctx) ++
    g.rules.zipIdx.flatMap (fun p => p.1.steps ctx p.2) ++
    (g.exitFacts.flatMap Fact.occurrences).map (Occurrence.treat ctx)

theorem Rule.lower_eq_steps (id : GoalId) (position : Nat) {r : Rule}
    (hr : Numerable r.references) :
    r.lower ctx id position = do
      Run.all (r.steps ctx position)
      return r.canonical ctx.types id := by
  rw [lower_eq ctx id position hr, steps, Run.all_append, Run.all_singleton]
  simp only [bind_assoc]

theorem forEach_fact_steps (fs : List Fact) :
    Run.forEach (Fact.lower ctx) fs = do
      Run.all ((fs.flatMap Fact.occurrences).map (Occurrence.treat ctx))
      return fs.map (Fact.canonical ctx.types) := by
  rw [List.map_flatMap]
  exact Run.forEach_eq_all fun f _ => f.lower_eq ctx

theorem forEach_rule_steps (id : GoalId) {rs : List Rule}
    (hrs : ∀ r ∈ rs, Numerable r.references) :
    Run.forEach (fun (r, position) => Rule.lower ctx id position r) rs.zipIdx = do
      Run.all (rs.zipIdx.flatMap fun p => p.1.steps ctx p.2)
      return rs.map (Rule.canonical ctx.types id) := by
  rw [← Run.map_zipIdx_fst]
  apply Run.forEach_eq_all
  intro p hp
  exact Rule.lower_eq_steps ctx id p.2 (hrs p.1 (List.fst_mem_of_mem_zipIdx hp))

/-- Resolving a goal is one step after another; what it gives is known from the start. -/
theorem Goal.resolve_eq_steps (id : GoalId) {g : Goal} (hg : g.Numerable) :
    g.resolve ctx id = do
      Run.all (g.steps ctx)
      return g.canonical ctx.types id := by
  simp only [resolve, forEach_fact_steps, forEach_rule_steps ctx id hg, steps, Run.all_append,
    bind_assoc, pure_bind]
  rfl

variable {ctx} {g : Goal}

theorem Occurrence.treat_outcome_of_typable {o : Occurrence} (h : ¬ o.value.Untypable ctx.types) :
    (o.treat ctx).outcome = .ok () :=
  o.report_outcome_of_typable ctx h

theorem Goal.forall_mem_steps {P : Run Fault Unit → Prop}
    (htreat : ∀ o ∈ g.occurrences, P (o.treat ctx)) (hnote : ∀ e, P (Run.note e)) :
    ∀ s ∈ g.steps ctx, P s := by
  simp only [occurrences, List.forall_mem_append, List.forall_mem_flatMap] at htreat
  simp only [steps, Rule.steps, List.forall_mem_append, List.forall_mem_map,
    List.forall_mem_flatMap, List.forall_mem_singleton]
  obtain ⟨⟨hinit, hrules⟩, hexit⟩ := htreat
  exact ⟨⟨hinit, fun p hp => ⟨hrules p.1 (List.fst_mem_of_mem_zipIdx hp), hnote _⟩⟩, hexit⟩

theorem Goal.resolve_events (id : GoalId) (hg : g.Numerable)
    (h : ∀ o ∈ g.occurrences, ¬ o.value.Untypable ctx.types) :
    (g.resolve ctx id).events = (g.steps ctx).flatMap Run.events := by
  have hsteps : ∀ s ∈ g.steps ctx, s.outcome = .ok () :=
    forall_mem_steps (fun o ho => Occurrence.treat_outcome_of_typable (h o ho)) fun _ => rfl
  rw [Run.events, resolve_eq_steps ctx id hg, bind_pure_comp, Run.effects_map,
    Run.all_of_ok hsteps, ← Run.eventsOf_flatMap]

end Steps

namespace Goal

variable {ctx : Context} {id : GoalId} {g : Goal} {r : Resolved.Goal}

theorem lower_effects (h : (g.lower ctx id).outcome = .ok r) :
    (g.lower ctx id).effects = .enter (g.region id) :: ((g.resolve ctx id).effects ++
      [.note (.goalLowered (r.rules.flatMap (·.slots)).length)] ++ [.leave]) := by
  obtain ⟨rfl, hlimits, htyped⟩ := lower_of_ok h
  have hresolve := (resolve_of_typable ctx id hlimits.numerable htyped).1
  have hcheck := check_of_resolve hlimits hresolve
  rw [lower, Run.within, Run.effects_bind_of_ok hresolve, hcheck]
  rfl

theorem lower_events (h : (g.lower ctx id).outcome = .ok r) :
    (g.lower ctx id).events = (g.resolve ctx id).events ++
      [.goalLowered (r.rules.flatMap (·.slots)).length] := by
  rw [Run.events, lower_effects h]
  change eventsOf (_ ++ _ ++ _) = _
  rw [eventsOf_append, eventsOf_append]
  exact List.append_nil _

theorem lower_events_eq_steps (h : (g.lower ctx id).outcome = .ok r) :
    (g.lower ctx id).events = (g.steps ctx).flatMap Run.events ++
      [.goalLowered (r.rules.flatMap (·.slots)).length] := by
  obtain ⟨_, hlimits, htyped⟩ := lower_of_ok h
  rw [lower_events h, resolve_events id hlimits.numerable htyped]

end Goal

section Filters

variable (ctx : Context)

theorem treat_all_ofRule (os : List Occurrence) :
    ((os.map (Occurrence.treat ctx)).flatMap Run.events).filter Event.isOfRule =
      (os.flatMap (Occurrence.opened ctx.types)).map .variableBound := by
  simp only [List.flatMap_map, List.filter_flatMap, Occurrence.treat_events_ofRule,
    List.map_flatMap]

theorem treat_all_unresolved (os : List Occurrence) :
    ((os.map (Occurrence.treat ctx)).flatMap Run.events).filter Event.isUnresolved =
      (os.flatMap (Occurrence.unknownNames ctx.types)).map fun p => .typeUnresolved p.1 p.2 := by
  simp only [List.flatMap_map, List.filter_flatMap, Occurrence.treat_events_unresolved,
    List.map_flatMap]

theorem Rule.steps_ofRule (id : GoalId) (position : Nat) (r : Rule) :
    ((r.steps ctx position).flatMap Run.events).filter Event.isOfRule =
      (r.canonical ctx.types id).events position := by
  have hslots : (r.canonical ctx.types id).slots = slots ctx.types r.references := rfl
  have hlength : (slots ctx.types r.references).length = (firstReferences r.references).length :=
    List.length_mapIdx
  rw [steps, List.flatMap_append, List.filter_append, treat_all_ofRule, flatMap_opened,
    Resolved.Rule.events, hslots, hlength, canonical, List.length_map, List.length_map]
  rfl

theorem facts_ofRule (fs : List Fact) :
    (((fs.flatMap Fact.occurrences).map (Occurrence.treat ctx)).flatMap Run.events).filter
      Event.isOfRule = [] := by
  rw [treat_all_ofRule, List.flatMap_assoc]
  simp only [Fact.flatMap_opened, List.flatMap_eq_nil_iff.mpr fun _ _ => rfl, List.map_nil]

theorem Goal.steps_ofRule (id : GoalId) (g : Goal) :
    ((g.steps ctx).flatMap Run.events).filter Event.isOfRule =
      (g.canonical ctx.types id).rules.zipIdx.flatMap fun p => p.1.events p.2 := by
  have hrules : (g.canonical ctx.types id).rules.zipIdx =
      g.rules.zipIdx.map fun p => (p.1.canonical ctx.types id, p.2) := List.zipIdx_map
  rw [steps, List.flatMap_append, List.flatMap_append, List.filter_append, List.filter_append,
    facts_ofRule, facts_ofRule, List.nil_append, List.append_nil, List.flatMap_assoc,
    List.filter_flatMap, hrules, List.flatMap_map]
  simp only [Rule.steps_ofRule ctx id]

theorem Rule.steps_unresolved (position : Nat) (r : Rule) :
    ((r.steps ctx position).flatMap Run.events).filter Event.isUnresolved =
      (r.occurrences.flatMap (Occurrence.unknownNames ctx.types)).map
        fun p => .typeUnresolved p.1 p.2 := by
  rw [steps, List.flatMap_append, List.filter_append, treat_all_unresolved]
  exact List.append_nil _

theorem Goal.steps_unresolved (g : Goal) :
    ((g.steps ctx).flatMap Run.events).filter Event.isUnresolved =
      (g.occurrences.flatMap (Occurrence.unknownNames ctx.types)).map
        fun p => .typeUnresolved p.1 p.2 := by
  have hrules : ((g.rules.zipIdx.flatMap fun p => p.1.steps ctx p.2).flatMap Run.events).filter
      Event.isUnresolved = ((g.rules.flatMap Rule.occurrences).flatMap
        (Occurrence.unknownNames ctx.types)).map fun p => .typeUnresolved p.1 p.2 := by
    rw [List.flatMap_assoc, List.filter_flatMap]
    simp only [Rule.steps_unresolved]
    rw [List.flatMap_assoc, List.map_flatMap]
    exact Run.flatMap_zipIdx_fst (fun r : Rule => (r.occurrences.flatMap
      (Occurrence.unknownNames ctx.types)).map fun p => Event.typeUnresolved p.1 p.2) g.rules
  rw [steps, List.flatMap_append, List.flatMap_append, List.filter_append, List.filter_append,
    treat_all_unresolved, hrules, treat_all_unresolved, occurrences, List.flatMap_append,
    List.flatMap_append, List.map_append, List.map_append]

end Filters

namespace Goal

def trace (ctx : Context) (id : GoalId) (g : Goal) : List Trace.Record :=
  Trace.ofEffects 0 (g.lower ctx id).effects

/-- The trace of a lowering, held against the result and the diagnostics: first its events, then its
records as they are written. -/
structure TraceAgrees (ctx : Context) (id : GoalId) (g : Goal) (r : Resolved.Goal) : Prop where
  records : g.trace ctx id = ⟨Trace.ofRegion (g.region id), 0⟩ ::
    (g.lower ctx id).events.map fun e => ⟨Trace.ofEvent e, 1⟩
  rules : (g.lower ctx id).events.filter Event.isOfRule =
    r.rules.zipIdx.flatMap fun p => p.1.events p.2
  dense : ∀ rule ∈ r.rules, ∀ (i : Nat) (slot : Resolved.Slot), rule.slots[i]? = some slot →
    slot.index.toNat = i
  unresolved : List.Forall₂ Event.Announces ((g.lower ctx id).events.filter Event.isUnresolved)
    ((g.lower ctx id).diagnostics.filter (·.code = .typeUnresolved))
  last : ∃ slots, (g.lower ctx id).events.getLast? = some (.goalLowered slots) ∧
    slots = r.rules.foldr (fun rule n => rule.slots.length + n) 0 ∧
    slots = (g.lower ctx id).events.countP Event.isBinding
  ruleRecords : ((g.trace ctx id).filter fun x =>
      x.entry.name ∈ ["bound variable", "lowered rule"]).map (·.entry) =
    r.rules.zipIdx.flatMap fun p => p.1.entries p.2
  unresolvedRecords : List.Forall₂ Trace.Entry.Announces
    (((g.trace ctx id).filter (·.entry.name = "unresolved type annotation")).map (·.entry))
    ((g.lower ctx id).diagnostics.filter (·.code = .typeUnresolved))
  lastRecord : ∃ slots, (g.trace ctx id).getLast? =
      some ⟨⟨false, "lowered goal", .debug, [("variables", toString slots)]⟩, 1⟩ ∧
    slots = r.rules.foldr (fun rule n => rule.slots.length + n) 0 ∧
    slots = (g.trace ctx id).countP (·.entry.name = "bound variable")

variable {ctx : Context} {id : GoalId} {g : Goal} {r : Resolved.Goal}

theorem lower_records (h : (g.lower ctx id).outcome = .ok r) :
    g.trace ctx id = ⟨Trace.ofRegion (g.region id), 0⟩ ::
      (g.lower ctx id).events.map fun e => ⟨Trace.ofEvent e, 1⟩ := by
  rw [trace, lower_events h, lower_effects h, Trace.ofEffects, List.append_assoc,
    Trace.ofEffects_append (g.resolve_plain ctx id).effects, List.map_append]
  rfl

theorem lower_events_ofRule (h : (g.lower ctx id).outcome = .ok r) :
    (g.lower ctx id).events.filter Event.isOfRule =
      r.rules.zipIdx.flatMap fun p => p.1.events p.2 := by
  rw [lower_events_eq_steps h, List.filter_append, steps_ofRule ctx id, (lower_of_ok h).1]
  exact List.append_nil _

theorem lower_events_unresolved (h : (g.lower ctx id).outcome = .ok r) :
    List.Forall₂ Event.Announces ((g.lower ctx id).events.filter Event.isUnresolved)
      ((g.lower ctx id).diagnostics.filter (·.code = .typeUnresolved)) := by
  have hevents : (g.lower ctx id).events.filter Event.isUnresolved =
      (g.occurrences.flatMap (Occurrence.unknownNames ctx.types)).map
        fun p => .typeUnresolved p.1 p.2 := by
    rw [lower_events_eq_steps h, List.filter_append, steps_unresolved]
    exact List.append_nil _
  have hreports : (g.lower ctx id).diagnostics.filter (·.code = .typeUnresolved) =
      (g.occurrences.flatMap (Occurrence.unknownNames ctx.types)).map
        fun p => unknownType p.1 p.2 := by
    obtain ⟨_, hlimits, htyped⟩ := lower_of_ok h
    rw [lower_diagnostics_of_typable hlimits.numerable htyped, List.filter_flatMap,
      List.map_flatMap]
    simp only [Occurrence.findings_filter]
  rw [hevents, hreports, List.forall₂_map_left_iff, List.forall₂_map_right_iff, List.forall₂_same]
  intro p _
  refine ⟨p.1, p.2, rfl, rfl, ?_⟩
  simp [unknownType, labelAt, Span.isDummy]

theorem length_flatMap_slots (rules : List Resolved.Rule) :
    (rules.flatMap (·.slots)).length = rules.foldr (fun rule n => rule.slots.length + n) 0 := by
  induction rules with
  | nil => rfl
  | cons rule rules ih => rw [List.flatMap_cons, List.length_append, ih, List.foldr_cons]

/-- Every slot has an event, and only slots have. -/
theorem countP_isBinding (rules : List Resolved.Rule) (position : Nat) :
    ((rules.zipIdx position).flatMap fun p => p.1.events p.2).countP Event.isBinding =
      (rules.flatMap (·.slots)).length := by
  induction rules generalizing position with
  | nil => rfl
  | cons rule rules ih =>
    have hrule : (rule.events position).countP Event.isBinding = rule.slots.length := by
      rw [Resolved.Rule.events, List.countP_append, List.countP_map]
      simp [Function.comp_def, Event.isBinding]
    rw [List.zipIdx_cons, List.flatMap_cons, List.countP_append, hrule, ih, List.flatMap_cons,
      List.length_append]

theorem lower_events_isBinding (h : (g.lower ctx id).outcome = .ok r) :
    (g.lower ctx id).events.countP Event.isBinding = (r.rules.flatMap (·.slots)).length := by
  rw [← countP_isBinding r.rules 0, ← lower_events_ofRule h, List.countP_filter]
  apply List.countP_congr
  intro e _
  cases e <;> simp [Event.isBinding, Event.isOfRule]

/-- The records with a given kind of name are those of the events; the region has another name. -/
theorem trace_filter (h : (g.lower ctx id).outcome = .ok r) (p : String → Bool)
    (hregion : p "lower_goal_with" = false) :
    (g.trace ctx id).filter (fun x => p x.entry.name) =
      ((g.lower ctx id).events.filter fun e => p (Trace.ofEvent e).name).map
        fun e => ⟨Trace.ofEvent e, 1⟩ := by
  have hfirst : p (Trace.ofRegion (g.region id)).name = false := hregion
  rw [lower_records h, List.filter_cons, hfirst, List.filter_map]
  rfl

theorem trace_ofRule (h : (g.lower ctx id).outcome = .ok r) :
    ((g.trace ctx id).filter fun x =>
        x.entry.name ∈ ["bound variable", "lowered rule"]).map (·.entry) =
      r.rules.zipIdx.flatMap fun p => p.1.entries p.2 := by
  rw [trace_filter h (· ∈ ["bound variable", "lowered rule"]) (by decide),
    funext Trace.ofEvent_name_ofRule, lower_events_ofRule h, List.map_map]
  simp only [← Resolved.Rule.map_ofEvent_events, ← List.map_flatMap]
  rfl

theorem trace_unresolved (h : (g.lower ctx id).outcome = .ok r) :
    List.Forall₂ Trace.Entry.Announces
      (((g.trace ctx id).filter (·.entry.name = "unresolved type annotation")).map (·.entry))
      ((g.lower ctx id).diagnostics.filter (·.code = .typeUnresolved)) := by
  rw [trace_filter h (· = "unresolved type annotation") (by decide),
    funext Trace.ofEvent_name_unresolved, List.map_map, List.forall₂_map_left_iff]
  exact (lower_events_unresolved h).imp fun _ _ => Trace.announces_ofEvent

theorem trace_countP_isBinding (h : (g.lower ctx id).outcome = .ok r) :
    (g.trace ctx id).countP (·.entry.name = "bound variable") =
      (r.rules.flatMap (·.slots)).length := by
  rw [List.countP_eq_length_filter, trace_filter h (· = "bound variable") (by decide),
    List.length_map, funext Trace.ofEvent_name_isBinding, ← List.countP_eq_length_filter,
    lower_events_isBinding h]

/-- The trace of a goal that is lowered agrees with the result and with the diagnostics. The events
of its rules are the slots of each rule in their order and then the end of the rule, with its
position and the lengths of its lists. The unknown type names have one event and one report each, in
the same order. The last event counts the slots of all the rules, which are as many as their events.
The records of the trace say so under their names and in their fields. -/
theorem lower_traceAgrees (h : (g.lower ctx id).outcome = .ok r) : g.TraceAgrees ctx id r := by
  have hlast := lower_events h
  obtain ⟨rfl, hlimits, _⟩ := lower_of_ok h
  exact {
    records := lower_records h
    rules := lower_events_ofRule h
    dense := by
      have hwf := (g.canonical_wellFormed_iff ctx.types id).mpr hlimits
      exact fun rule hrule => (hwf.rule rule hrule).dense
    unresolved := lower_events_unresolved h
    last := by
      refine ⟨_, ?_, length_flatMap_slots _, (lower_events_isBinding h).symm⟩
      rw [hlast]
      exact List.getLast?_concat
    ruleRecords := trace_ofRule h
    unresolvedRecords := trace_unresolved h
    lastRecord := by
      refine ⟨_, ?_, length_flatMap_slots _, (trace_countP_isBinding h).symm⟩
      rw [lower_records h, hlast, List.map_append, ← List.cons_append]
      exact List.getLast?_concat }

/-- A second rule after the clash, whose variable has an unknown type from the start. -/
def encore : Goal :=
  { clash with rules := [.clash, { actions := [.call { name := "Again", args := [
      .reference { name := "x", typeName := some "NOPE", span := ⟨60, 61⟩ }] }] }] }

theorem encore_traceAgrees :
    (encore.lower { policy := .warn } ⟨7⟩).outcome = .ok (encore.canonical .builtins ⟨7⟩) ∧
      encore.TraceAgrees { policy := .warn } ⟨7⟩ (encore.canonical .builtins ⟨7⟩) ∧
      (encore.lower { policy := .warn } ⟨7⟩).events = [
        .typeUnresolved "NOPE" ⟨3, 7⟩,
        .variableBound ⟨0, "x", none⟩, .variableBound ⟨1, "y", some .string⟩,
        .variableBound ⟨2, "z", none⟩, .typeUnresolved "GONE" .dummy, .ruleLowered 0 .proc 2 2 3,
        .typeUnresolved "NOPE" ⟨60, 61⟩, .variableBound ⟨0, "x", none⟩, .ruleLowered 1 .rule 0 1 1,
        .goalLowered 4] := by
  have h : (encore.lower { policy := .warn } ⟨7⟩).outcome =
      .ok (encore.canonical .builtins ⟨7⟩) := by decide
  exact ⟨h, lower_traceAgrees h, by decide⟩

end Goal

end Source

end Storyline
