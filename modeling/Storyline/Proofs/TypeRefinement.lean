import Mathlib.Data.List.Flatten
import Storyline.Proofs.StoredTypes
import Storyline.Proofs.TableGrowth

/-!
# Lowering with more types

A goal is lowered once with a table of types and once with a table that has grown out of it. Names
that stood for a type still stand for the same one; names that stood for nothing may have been
declared. So the second result refines the first: a type that was missing although it was written
down may be there now, and everything else is the same. `Goal.Refines` goes through the source goal
and the two resolved goals side by side and says so node by node.

The reports about unknown types become fewer, while a name that has become known can disagree with
the first reference to its variable, which the policy `warn` reports. Where nothing was unknown, the
two runs give the same goal and the same reports.
-/

namespace Storyline.Source

/-- Three lists of one length, related place by place. -/
inductive Forall₃ {α β γ : Type} (R : α → β → γ → Prop) : List α → List β → List γ → Prop where
  | nil : Forall₃ R [] [] []
  | cons {a : α} {b : β} {c : γ} {as : List α} {bs : List β} {cs : List γ} (head : R a b c)
    (tail : Forall₃ R as bs cs) : Forall₃ R (a :: as) (b :: bs) (c :: cs)

theorem forall₃_map {α β γ : Type} {R : α → β → γ → Prop} {f : α → β} {g : α → γ} {as : List α}
    (h : ∀ a ∈ as, R a (f a) (g a)) : Forall₃ R as (as.map f) (as.map g) := by
  induction as with
  | nil => exact .nil
  | cons a as ih =>
    exact .cons (h a List.mem_cons_self) (ih fun b hb => h b (List.mem_cons_of_mem a hb))

section Relation

/-- A type is as it was, or it was missing where one is written and has been found. -/
inductive Filled (isWritten : Prop) : Option TypeId → Option TypeId → Prop where
  | same (type : Option TypeId) : Filled isWritten type type
  | found (h : isWritten) (type : TypeId) : Filled isWritten none (some type)

theorem Filled.mono {p q : Prop} {old new : Option TypeId} (h : Filled p old new) (hpq : p → q) :
    Filled q old new := by
  cases h with
  | same => exact .same old
  | found hp type => exact .found (hpq hp) type

structure Constant.Refines (c : Constant) (d d' : Resolved.Constant) : Prop where
  literal : d'.literal = d.literal
  inferred : d'.inferred = d.inferred
  type : Filled (c.typeName ≠ none) d.type d'.type

variable (refs : List Variable)

/-- The first reference to the name has a type name. -/
def FirstTyped (name : String) : Prop :=
  ∃ first, refs.find? (·.name = name) = some first ∧ first.typeName ≠ none

structure Variable.Refines (v : Variable) (x x' : Resolved.Variable) : Prop where
  index : x'.index = x.index
  type : Filled (FirstTyped refs v.name) x.type x'.type

inductive Value.Refines : Value → Resolved.Value → Resolved.Value → Prop where
  | constant {c : Constant} {d d' : Resolved.Constant} (h : c.Refines d d') :
    Value.Refines (.constant c) (.constant d) (.constant d')
  | reference {v : Variable} {x x' : Resolved.Variable} (h : v.Refines refs x x') :
    Value.Refines (.reference v) (.reference x) (.reference x')

structure Call.Refines (c : Call) (d d' : Resolved.Call) : Prop where
  symbol : d'.symbol = d.symbol
  negated : d'.negated = d.negated
  args : Forall₃ (Value.Refines refs) c.args d.args d'.args

inductive Condition.Refines : Condition → Resolved.Condition → Resolved.Condition → Prop where
  | query {c : Call} {d d' : Resolved.Call} (h : c.Refines refs d d') :
    Condition.Refines (.query c) (.query d) (.query d')
  | comparison {c : Comparison} {d d' : Resolved.Comparison} (relation : d'.relation = d.relation)
    (left : c.left.Refines refs d.left d'.left) (right : c.right.Refines refs d.right d'.right) :
    Condition.Refines (.comparison c) (.comparison d) (.comparison d')

inductive Action.Refines : Action → Resolved.Action → Resolved.Action → Prop where
  | completion (span : Span) (goal : GoalId) :
    Action.Refines (.completion span) (.completion goal) (.completion goal)
  | call {c : Call} {d d' : Resolved.Call} (h : c.Refines refs d d') :
    Action.Refines (.call c) (.call d) (.call d')

structure SlotRefines (s s' : Resolved.Slot) : Prop where
  index : s'.index = s.index
  name : s'.name = s.name
  type : Filled (FirstTyped refs s.name) s.type s'.type

structure Fact.Refines (f : Fact) (d d' : Resolved.Fact) : Prop where
  database : d'.database = d.database
  negated : d'.negated = d.negated
  elements : Forall₃ Constant.Refines f.elements d.elements d'.elements

structure Rule.Refines (r : Rule) (d d' : Resolved.Rule) : Prop where
  goal : d'.goal = d.goal
  kind : d'.kind = d.kind
  conditions : Forall₃ (Condition.Refines r.references) r.conditions d.conditions d'.conditions
  actions : Forall₃ (Action.Refines r.references) r.actions d.actions d'.actions
  slots : List.Forall₂ (SlotRefines r.references) d.slots d'.slots

structure Goal.Refines (g : Goal) (d d' : Resolved.Goal) : Prop where
  id : d'.id = d.id
  name : d'.name = d.name
  initFacts : Forall₃ Fact.Refines g.initFacts d.initFacts d'.initFacts
  rules : Forall₃ Rule.Refines g.rules d.rules d'.rules
  exitFacts : Forall₃ Fact.Refines g.exitFacts d.exitFacts d'.exitFacts
  parents : d'.parents = d.parents

end Relation

variable {t t' : TypeTable} {g : Goal} {id : GoalId}

section Canonical

variable (h : t.Indexed) (hkept : t.KeptIn t')

include h hkept

theorem lookup?_filled (typeName : String) {isWritten : Prop} (hw : isWritten) :
    Filled isWritten (t.lookup? typeName) (t'.lookup? typeName) := by
  cases hold : t.lookup? typeName with
  | some type =>
    rw [hkept.lookup?_of_some h hold]
    exact .same _
  | none =>
    cases t'.lookup? typeName with
    | none => exact .same _
    | some type => exact .found hw type

theorem Variable.writtenType?_filled (v : Variable) :
    Filled (v.typeName ≠ none) (v.writtenType? t) (v.writtenType? t') := by
  rw [writtenType?, writtenType?]
  cases hname : v.typeName with
  | none => exact .same _
  | some typeName => exact lookup?_filled h hkept typeName (by simp)

theorem typeOf_filled (refs : List Variable) (name : String) :
    Filled (FirstTyped refs name) (typeOf t refs name) (typeOf t' refs name) := by
  rw [typeOf, typeOf]
  cases hfirst : refs.find? (·.name = name) with
  | none => exact .same _
  | some first => exact (first.writtenType?_filled h hkept).mono fun hname => ⟨first, hfirst, hname⟩

/-- Types that are inferred do not change, since they were there. -/
theorem Constant.builtin?_of_typable {c : Constant} (hname : c.typeName = none)
    (hc : ¬ c.Untypable t) :
    c.literal.kind.builtinType?.bind t'.builtin? = c.literal.kind.builtinType?.bind t.builtin? := by
  cases htype : c.literal.kind.builtinType? with
  | none => rfl
  | some type =>
    obtain ⟨e, he⟩ := exists_builtin?_of_typable hname hc htype
    rw [Option.bind_some, Option.bind_some, he, hkept.builtin?_of_some h he]

theorem Constant.typable_of_keptIn {c : Constant} (hc : ¬ c.Untypable t) : ¬ c.Untypable t' := by
  rintro ⟨hname, hkind, hbuiltin⟩
  rw [c.builtin?_of_typable h hkept hname hc] at hbuiltin
  exact hc ⟨hname, hkind, hbuiltin⟩

theorem Value.typable_of_keptIn {v : Value} (hv : ¬ v.Untypable t) : ¬ v.Untypable t' := by
  cases v with
  | constant c => exact c.typable_of_keptIn h hkept hv
  | reference v => exact hv

theorem Constant.canonical_refines {c : Constant} (hc : ¬ c.Untypable t) :
    c.Refines (c.canonical t) (c.canonical t') := by
  rw [canonical, canonical]
  cases hname : c.typeName with
  | some typeName =>
    exact ⟨rfl, rfl, lookup?_filled h hkept typeName (by simp [hname])⟩
  | none =>
    refine ⟨rfl, rfl, ?_⟩
    rw [c.builtin?_of_typable h hkept hname hc]
    exact .same _

theorem Value.canonical_refines (refs : List Variable) {v : Value} (hv : ¬ v.Untypable t) :
    v.Refines refs (v.canonical t refs) (v.canonical t' refs) := by
  cases v with
  | constant c => exact .constant (c.canonical_refines h hkept hv)
  | reference v => exact .reference ⟨rfl, typeOf_filled h hkept refs v.name⟩

theorem Call.canonical_refines (refs : List Variable) {c : Call}
    (hc : ∀ v ∈ c.args, ¬ v.Untypable t) :
    c.Refines refs (c.canonical t refs) (c.canonical t' refs) :=
  ⟨rfl, rfl, forall₃_map fun v hv => v.canonical_refines h hkept refs (hc v hv)⟩

theorem Condition.canonical_refines (refs : List Variable) {c : Condition}
    (hc : ∀ v ∈ c.values, ¬ v.Untypable t) :
    c.Refines refs (c.canonical t refs) (c.canonical t' refs) := by
  cases c with
  | query c => exact .query (c.canonical_refines h hkept refs hc)
  | comparison c =>
    have hleft := hc c.left List.mem_cons_self
    have hright := hc c.right (List.mem_cons_of_mem _ List.mem_cons_self)
    exact .comparison rfl (c.left.canonical_refines h hkept refs hleft)
      (c.right.canonical_refines h hkept refs hright)

theorem Action.canonical_refines (refs : List Variable) (id : GoalId) {a : Action}
    (ha : ∀ v ∈ a.values, ¬ v.Untypable t) :
    a.Refines refs (a.canonical t refs id) (a.canonical t' refs id) := by
  cases a with
  | completion span => exact .completion span id
  | call c => exact .call (c.canonical_refines h hkept refs ha)

theorem slots_refine (refs : List Variable) :
    List.Forall₂ (SlotRefines refs) (slots t refs) (slots t' refs) := by
  rw [List.forall₂_iff_get]
  refine ⟨by rw [slots, slots, List.length_mapIdx, List.length_mapIdx], ?_⟩
  intro i hi hi'
  have hlt : i < (firstReferences refs).length := by rwa [slots, List.length_mapIdx] at hi
  have hfirst : (firstReferences refs)[i]? = some (firstReferences refs)[i] :=
    List.getElem?_eq_getElem hlt
  have hfind : refs.find? (·.name = (firstReferences refs)[i].name) =
      some (firstReferences refs)[i] := by
    rw [← getElem?_slotNumber, slotNumber_of_getElem? hfirst, hfirst]
  simp only [slots, List.get_eq_getElem, List.getElem_mapIdx]
  exact ⟨rfl, rfl, ((firstReferences refs)[i].writtenType?_filled h hkept).mono
    fun hname => ⟨_, hfind, hname⟩⟩

theorem Rule.canonical_refines (id : GoalId) {r : Rule} (hr : ∀ v ∈ r.values, ¬ v.Untypable t) :
    r.Refines (r.canonical t id) (r.canonical t' id) := by
  simp only [values, List.forall_mem_append, List.forall_mem_flatMap] at hr
  obtain ⟨hconditions, hactions⟩ := hr
  exact {
    goal := rfl
    kind := rfl
    conditions := forall₃_map fun c hc => c.canonical_refines h hkept _ (hconditions c hc)
    actions := forall₃_map fun a ha => a.canonical_refines h hkept _ id (hactions a ha)
    slots := slots_refine h hkept r.references }

theorem Goal.canonical_refines (id : GoalId)
    (hg : ∀ o ∈ g.occurrences, ¬ o.value.Untypable t) :
    g.Refines (g.canonical t id) (g.canonical t' id) := by
  obtain ⟨hfacts, hrules⟩ := (forall_mem_occurrences (P := fun v => ¬ v.Untypable t)).mp hg
  obtain ⟨hinit, hexit⟩ := List.forall_mem_append.mp hfacts
  have hfact : ∀ f : Fact, (∀ c ∈ f.elements, ¬ c.Untypable t) →
      f.Refines (f.canonical t) (f.canonical t') :=
    fun f hf => ⟨rfl, rfl, forall₃_map fun c hc => c.canonical_refines h hkept (hf c hc)⟩
  exact {
    id := rfl
    name := rfl
    initFacts := forall₃_map fun f hf => hfact f (hinit f hf)
    rules := forall₃_map fun r hr => r.canonical_refines h hkept id (hrules r hr)
    exitFacts := forall₃_map fun f hf => hfact f (hexit f hf)
    parents := rfl }

end Canonical

section Known

/-- A type name that is written on the value stands for a type. -/
def Value.Known (t : TypeTable) (v : Value) : Prop :=
  ∀ typeName, v.typeName = some typeName → ∃ type, t.lookup? typeName = some type

theorem Occurrence.known_of_findings {ctx : Context} {o : Occurrence}
    (ho : ∀ d ∈ o.findings ctx, d.code ≠ .typeUnresolved) : o.value.Known ctx.types := by
  intro typeName hname
  cases hlookup : ctx.types.lookup? typeName with
  | some type => exact ⟨type, rfl⟩
  | none =>
    rw [findings_of_unknown _ hname hlookup] at ho
    exact absurd rfl (ho _ List.mem_cons_self)

variable (h : t.Indexed) (hkept : t.KeptIn t')

include h hkept

theorem lookup?_eq_of_known {v : Value} {typeName : String} (hv : v.Known t)
    (hname : v.typeName = some typeName) : t'.lookup? typeName = t.lookup? typeName := by
  obtain ⟨type, htype⟩ := hv typeName hname
  rw [htype, hkept.lookup?_of_some h htype]

theorem Constant.canonical_eq_of_known {c : Constant} (hc : Value.Known t (.constant c))
    (htyped : ¬ c.Untypable t) : c.canonical t' = c.canonical t := by
  rw [canonical, canonical]
  cases hname : c.typeName with
  | some typeName => simp only [lookup?_eq_of_known h hkept hc hname]
  | none => simp only [c.builtin?_of_typable h hkept hname htyped]

theorem Variable.writtenType?_eq_of_known {v : Variable} (hv : Value.Known t (.reference v)) :
    v.writtenType? t' = v.writtenType? t := by
  rw [writtenType?, writtenType?]
  cases hname : v.typeName with
  | none => rfl
  | some typeName => exact lookup?_eq_of_known h hkept hv hname

end Known

section Congruence

/-- Both tables give the value the same type. -/
def Value.SameType (t t' : TypeTable) : Value → Prop
  | .constant c => c.canonical t' = c.canonical t
  | .reference v => v.writtenType? t' = v.writtenType? t

variable {refs : List Variable} (hrefs : ∀ v ∈ refs, v.writtenType? t' = v.writtenType? t)

include hrefs

theorem typeOf_congr (name : String) : typeOf t' refs name = typeOf t refs name := by
  rw [typeOf, typeOf]
  cases hfirst : refs.find? (·.name = name) with
  | none => rfl
  | some first => exact hrefs first (List.mem_of_find?_eq_some hfirst)

theorem slots_congr : slots t' refs = slots t refs := by
  apply List.ext_getElem?
  intro i
  rw [slots, slots, List.getElem?_mapIdx, List.getElem?_mapIdx]
  cases hv : (firstReferences refs)[i]? with
  | none => rfl
  | some v =>
    have hmem := (firstReferences_sublist refs).subset (List.mem_of_getElem? hv)
    rw [Option.map_some, Option.map_some, hrefs v hmem]

theorem Value.canonical_congr {v : Value} (hv : v.SameType t t') :
    v.canonical t' refs = v.canonical t refs := by
  cases v with
  | constant c => exact congrArg Resolved.Value.constant hv
  | reference v =>
    rw [canonical, canonical, Variable.canonical, Variable.canonical, typeOf_congr hrefs]

theorem Call.canonical_congr {c : Call} (hc : ∀ v ∈ c.args, v.SameType t t') :
    c.canonical t' refs = c.canonical t refs := by
  rw [canonical, canonical, List.map_congr_left fun v hv => v.canonical_congr hrefs (hc v hv)]

theorem Condition.canonical_congr {c : Condition} (hc : ∀ v ∈ c.values, v.SameType t t') :
    c.canonical t' refs = c.canonical t refs := by
  cases c with
  | query c => exact congrArg Resolved.Condition.query (c.canonical_congr hrefs hc)
  | comparison c =>
    have hleft := hc c.left List.mem_cons_self
    have hright := hc c.right (List.mem_cons_of_mem _ List.mem_cons_self)
    rw [canonical, canonical, c.left.canonical_congr hrefs hleft,
      c.right.canonical_congr hrefs hright]

theorem Action.canonical_congr (id : GoalId) {a : Action} (ha : ∀ v ∈ a.values, v.SameType t t') :
    a.canonical t' refs id = a.canonical t refs id := by
  cases a with
  | completion span => rfl
  | call c => exact congrArg Resolved.Action.call (c.canonical_congr hrefs ha)

omit hrefs

theorem Rule.canonical_congr (id : GoalId) {r : Rule} (hr : ∀ v ∈ r.values, v.SameType t t') :
    r.canonical t' id = r.canonical t id := by
  have hrefs : ∀ v ∈ r.references, v.writtenType? t' = v.writtenType? t :=
    fun v hv => hr (.reference v) (mem_references_iff.mp hv)
  simp only [values, List.forall_mem_append, List.forall_mem_flatMap] at hr
  obtain ⟨hconditions, hactions⟩ := hr
  have hconditions' : r.conditions.map (Condition.canonical t' r.references) =
      r.conditions.map (Condition.canonical t r.references) :=
    List.map_congr_left fun c hc => c.canonical_congr hrefs (hconditions c hc)
  have hactions' : r.actions.map (Action.canonical t' r.references id) =
      r.actions.map (Action.canonical t r.references id) :=
    List.map_congr_left fun a ha => a.canonical_congr hrefs id (hactions a ha)
  rw [canonical, canonical, hconditions', hactions', slots_congr hrefs]

theorem Goal.canonical_congr (id : GoalId) (hg : ∀ o ∈ g.occurrences, o.value.SameType t t') :
    g.canonical t' id = g.canonical t id := by
  obtain ⟨hfacts, hrules⟩ := (forall_mem_occurrences (P := Value.SameType t t')).mp hg
  obtain ⟨hinit, hexit⟩ := List.forall_mem_append.mp hfacts
  have hfacts' : ∀ fs : List Fact,
      (∀ f ∈ fs, ∀ c ∈ f.elements, Value.SameType t t' (.constant c)) →
      fs.map (Fact.canonical t') = fs.map (Fact.canonical t) := by
    intro fs hfs
    apply List.map_congr_left
    intro f hf
    rw [Fact.canonical, Fact.canonical, List.map_congr_left (hfs f hf)]
  have hrules' : g.rules.map (Rule.canonical t' id) = g.rules.map (Rule.canonical t id) :=
    List.map_congr_left fun r hr => r.canonical_congr id (hrules r hr)
  rw [canonical, canonical, hfacts' _ hinit, hfacts' _ hexit, hrules']

end Congruence

namespace Occurrence

theorem conflicts_ignore (o : Occurrence) (typeName : String) (type : TypeId) :
    o.conflicts ⟨t, .ignore⟩ typeName type = [] := by
  obtain ⟨earlier, value⟩ := o
  cases value with
  | constant c => rfl
  | reference v => cases hfirst : first? ⟨earlier, .reference v⟩ v.name <;> simp [conflicts, hfirst]

/-- The reports about unknown types are those that every policy makes. -/
theorem findings_unresolved (ctx : Context) (o : Occurrence) :
    (o.findings ctx).filter (·.code = .typeUnresolved) = o.findings ⟨ctx.types, .ignore⟩ := by
  cases hname : o.value.typeName with
  | none => rw [findings_of_unnamed _ hname, findings_of_unnamed _ hname, List.filter_nil]
  | some typeName =>
    cases hlookup : ctx.types.lookup? typeName with
    | none =>
      rw [findings_of_unknown _ hname hlookup,
        findings_of_unknown ⟨ctx.types, .ignore⟩ hname hlookup]
      rfl
    | some type =>
      rw [findings_of_known _ hname hlookup,
        findings_of_known ⟨ctx.types, .ignore⟩ hname hlookup, conflicts_ignore,
        List.filter_eq_nil_iff]
      intro d hd
      simp [conflicts_code hd]

variable (h : t.Indexed) (hkept : t.KeptIn t')

include h hkept

theorem findings_sublist (o : Occurrence) :
    (o.findings ⟨t', .ignore⟩).Sublist (o.findings ⟨t, .ignore⟩) := by
  cases hname : o.value.typeName with
  | none =>
    rw [findings_of_unnamed _ hname]
    exact List.nil_sublist _
  | some typeName =>
    cases hnew : t'.lookup? typeName with
    | some type =>
      rw [findings_of_known ⟨t', .ignore⟩ hname hnew, conflicts_ignore]
      exact List.nil_sublist _
    | none =>
      have hold : t.lookup? typeName = none := by
        cases hlookup : t.lookup? typeName with
        | none => rfl
        | some type =>
          rw [hkept.lookup?_of_some h hlookup] at hnew
          cases hnew
      rw [findings_of_unknown ⟨t', .ignore⟩ hname hnew,
        findings_of_unknown ⟨t, .ignore⟩ hname hold]

/-- A conflict is told in the same words, since the type that the variable has keeps its name. -/
theorem ignoredTypeName_eq_of_known {first : Variable} (hfirst : Value.Known t (.reference first))
    (v : Variable) (typeName : String) :
    ignoredTypeName t' first v typeName = ignoredTypeName t first v typeName := by
  have hphrase : typePhrase t' (first.writtenType? t) = typePhrase t (first.writtenType? t) := by
    rw [typePhrase, typePhrase, Variable.writtenType?]
    cases hname : first.typeName with
    | none => rfl
    | some name =>
      obtain ⟨type, htype⟩ := hfirst name hname
      simp only [Option.bind_some, htype, hkept.name?_of_lookup? h htype]
  rw [ignoredTypeName, ignoredTypeName, first.writtenType?_eq_of_known h hkept hfirst, hphrase]

theorem findings_eq_of_known {o : Occurrence} (policy : ConflictPolicy) (ho : o.value.Known t)
    (hearlier : ∀ v ∈ o.earlier, Value.Known t (.reference v)) :
    o.findings ⟨t', policy⟩ = o.findings ⟨t, policy⟩ := by
  cases hname : o.value.typeName with
  | none => rw [findings_of_unnamed _ hname, findings_of_unnamed _ hname]
  | some typeName =>
    obtain ⟨type, hlookup⟩ := ho typeName hname
    rw [findings_of_known ⟨t, policy⟩ hname hlookup,
      findings_of_known ⟨t', policy⟩ hname (hkept.lookup?_of_some h hlookup)]
    obtain ⟨earlier, value⟩ := o
    cases value with
    | constant c => rfl
    | reference v =>
      cases hfirst : first? ⟨earlier, .reference v⟩ v.name with
      | none => simp only [conflicts, hfirst]
      | some first =>
        have hknown := hearlier first (List.mem_of_find?_eq_some hfirst)
        simp only [conflicts, hfirst, first.writtenType?_eq_of_known h hkept hknown,
          ignoredTypeName_eq_of_known h hkept hknown]

end Occurrence

namespace Goal

variable {policy : ConflictPolicy} {r : Resolved.Goal}

section KeptIn

variable (h : t.Indexed) (hkept : t.KeptIn t') (hr : (g.lower ⟨t, policy⟩ id).outcome = .ok r)

include h hkept hr

theorem lower_of_keptIn :
    (g.lower ⟨t', policy⟩ id).outcome = .ok (g.canonical t' id) ∧
      g.Refines r (g.canonical t' id) := by
  obtain ⟨rfl, hlimits, htyped⟩ := lower_of_ok hr
  have htyped' : ∀ o ∈ g.occurrences, ¬ o.value.Untypable t' :=
    fun o ho => o.value.typable_of_keptIn h hkept (htyped o ho)
  exact ⟨lower_of_typable hlimits htyped', canonical_refines h hkept id htyped⟩

/-- What both runs report, occurrence by occurrence. -/
theorem lower_diagnostics_of_keptIn :
    (g.lower ⟨t, policy⟩ id).diagnostics =
        g.occurrences.flatMap (Occurrence.findings ⟨t, policy⟩) ∧
      (g.lower ⟨t', policy⟩ id).diagnostics =
        g.occurrences.flatMap (Occurrence.findings ⟨t', policy⟩) := by
  obtain ⟨_, hlimits, htyped⟩ := lower_of_ok hr
  obtain ⟨_, _, htyped'⟩ := lower_of_ok (lower_of_keptIn h hkept hr).1
  exact ⟨lower_diagnostics_of_typable hlimits.numerable htyped,
    lower_diagnostics_of_typable hlimits.numerable htyped'⟩

theorem lower_unresolved_sublist :
    ((g.lower ⟨t', policy⟩ id).diagnostics.filter (·.code = .typeUnresolved)).Sublist
      ((g.lower ⟨t, policy⟩ id).diagnostics.filter (·.code = .typeUnresolved)) := by
  obtain ⟨hold, hnew⟩ := lower_diagnostics_of_keptIn h hkept hr
  rw [hold, hnew, List.filter_flatMap, List.filter_flatMap]
  apply List.Sublist.flatMap_right
  intro o _
  rw [Occurrence.findings_unresolved, Occurrence.findings_unresolved]
  exact o.findings_sublist h hkept

theorem lower_eq_of_resolved
    (hreports : ∀ d ∈ (g.lower ⟨t, policy⟩ id).diagnostics, d.code ≠ .typeUnresolved) :
    g.canonical t' id = r ∧
      (g.lower ⟨t', policy⟩ id).diagnostics = (g.lower ⟨t, policy⟩ id).diagnostics := by
  obtain ⟨hold, hnew⟩ := lower_diagnostics_of_keptIn h hkept hr
  obtain ⟨rfl, _, htyped⟩ := lower_of_ok hr
  rw [hold] at hreports
  have hknown : ∀ o ∈ g.occurrences, o.value.Known t := fun o ho =>
    o.known_of_findings fun d hd => hreports d (List.mem_flatMap.mpr ⟨o, ho, hd⟩)
  have hearlier := forall_mem_earlier hknown
  constructor
  · apply canonical_congr
    intro o ho
    cases hvalue : o.value with
    | constant c =>
      have htypedc : ¬ Value.Untypable t (.constant c) := hvalue ▸ htyped o ho
      exact c.canonical_eq_of_known h hkept (hvalue ▸ hknown o ho) htypedc
    | reference v => exact v.writtenType?_eq_of_known h hkept (hvalue ▸ hknown o ho)
  · rw [hold, hnew]
    apply List.flatMap_congr
    intro o ho
    exact Occurrence.findings_eq_of_known h hkept policy (hknown o ho) (hearlier o ho)

end KeptIn

/-- Declaring more types does no harm. The table answers what it answered, a goal that was lowered
is lowered still, and all that can change in it is that a type is found that was written down and
unknown before. The reports about unknown types that remain are some of those there were; and if
there were none, nothing changes. -/
theorem lower_afterAll (ht : t.Reachable) (ds : List TypeTable.Declaration) :
    t.KeptIn (t.afterAll ds) ∧
    ∀ (g : Goal) (id : GoalId) (policy : ConflictPolicy) (r : Resolved.Goal),
      (g.lower ⟨t, policy⟩ id).outcome = .ok r →
      ∃ r', (g.lower ⟨t.afterAll ds, policy⟩ id).outcome = .ok r' ∧ g.Refines r r' ∧
        ((g.lower ⟨t.afterAll ds, policy⟩ id).diagnostics.filter
          (·.code = .typeUnresolved)).Sublist
            ((g.lower ⟨t, policy⟩ id).diagnostics.filter (·.code = .typeUnresolved)) ∧
        (policy = .ignore → (g.lower ⟨t.afterAll ds, policy⟩ id).diagnostics.Sublist
          (g.lower ⟨t, policy⟩ id).diagnostics) ∧
        ((∀ d ∈ (g.lower ⟨t, policy⟩ id).diagnostics, d.code ≠ .typeUnresolved) →
          r' = r ∧ (g.lower ⟨t.afterAll ds, policy⟩ id).diagnostics =
            (g.lower ⟨t, policy⟩ id).diagnostics) := by
  have hkept := ht.keptIn_afterAll ds
  have hindexed := ht.consistent.indexed
  refine ⟨hkept, ?_⟩
  intro g id policy r hr
  obtain ⟨hlower, hrefines⟩ := lower_of_keptIn hindexed hkept hr
  refine ⟨_, hlower, hrefines, lower_unresolved_sublist hindexed hkept hr, ?_,
    lower_eq_of_resolved hindexed hkept hr⟩
  rintro rfl
  obtain ⟨hold, hnew⟩ := lower_diagnostics_of_keptIn hindexed hkept hr
  rw [hold, hnew]
  exact List.Sublist.flatMap_right _ fun o _ => o.findings_sublist hindexed hkept

/-- A type that is not declared yet: on a constant, on a first reference and on a later one. -/
def promotion : Goal where
  name := "Promotion"
  initFacts := [{ database := "Grade", elements := [
    { typeName := some "RANK", literal := .integer 3, span := ⟨4, 8⟩ }] }]
  rules := [{
    conditions := [.query { name := "Serves", args := [
      .reference { name := "grade", typeName := some "RANK" },
      .reference { name := "years", typeName := some "INTEGER", span := ⟨20, 25⟩ }] }]
    actions := [.call { name := "Promote", args := [
      .reference { name := "years", typeName := some "RANK", span := ⟨30, 35⟩ },
      .constant { typeName := some "GONE", literal := .unknown }] }] }]

theorem promotion_afterAll :
    TypeTable.builtins.Reachable ∧
    (promotion.lower { policy := .warn } ⟨2⟩).outcome = .ok (promotion.canonical .builtins ⟨2⟩) ∧
    (promotion.canonical .builtins ⟨2⟩).types = [.integer, .integer, .integer] ∧
    (promotion.lower { policy := .warn } ⟨2⟩).diagnostics.map (·.code) =
      [.typeUnresolved, .typeUnresolved, .typeUnresolved, .typeUnresolved] ∧
    ∃ types r', types = TypeTable.builtins.afterAll [.alias "RANK" .integer] ∧
      (promotion.lower ⟨types, .warn⟩ ⟨2⟩).outcome = .ok r' ∧
      r'.types = [⟨16⟩, ⟨16⟩, .integer, .integer, ⟨16⟩, .integer] ∧
      promotion.Refines (promotion.canonical .builtins ⟨2⟩) r' ∧
      (promotion.lower ⟨types, .warn⟩ ⟨2⟩).diagnostics.map (·.code) =
        [.annotationConflict, .typeUnresolved] := by
  have hr : (promotion.lower { policy := .warn } ⟨2⟩).outcome =
      .ok (promotion.canonical .builtins ⟨2⟩) := by decide
  obtain ⟨_, hlower⟩ := lower_afterAll .builtins [.alias "RANK" .integer]
  obtain ⟨r', hr', hrefines, _⟩ := hlower promotion ⟨2⟩ .warn _ hr
  obtain ⟨rfl, _⟩ := lower_of_ok hr'
  exact ⟨.builtins, hr, by decide, by decide, _, _, rfl, hr', by decide, hrefines, by decide⟩

end Goal

end Storyline.Source
