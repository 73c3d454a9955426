import Mathlib.Data.List.Forall2
import Storyline.Proofs.Outcome
import Storyline.Proofs.TypeTable

/-!
# The types in a lowered goal

A resolved goal stores types in its constants, its variables and its slots. Each of them comes out of
the table of types, either through the index of names or as the builtin type of a literal, and a
consistent table knows what it gives out: such a type has an entry, and its alias links end at a
builtin type.

`Goal.Typed` goes through a source goal and a resolved one side by side. It says how the type of
every constant came about: a constant with a type name has the type of that name, whatever its
literal is, and a constant without one has the builtin type of its literal.
-/

namespace Storyline

namespace Resolved

def Value.constant? : Value → Option Constant
  | .constant c => some c
  | .reference _ => none

def Rule.constants (r : Rule) : List Constant := r.values.filterMap Value.constant?

def Goal.constants (g : Goal) : List Constant :=
  g.initFacts.flatMap (·.elements) ++ g.rules.flatMap Rule.constants ++
    g.exitFacts.flatMap (·.elements)

def Rule.variableTypes (r : Rule) : List TypeId :=
  r.references.filterMap (·.type) ++ r.slots.filterMap (·.type)

/-- Every type that a goal stores, of whatever node. -/
def Goal.types (g : Goal) : List TypeId :=
  g.constants.filterMap (·.type) ++ g.rules.flatMap Rule.variableTypes

theorem Rule.mem_constants_iff {r : Rule} {c : Constant} :
    c ∈ r.constants ↔ .constant c ∈ r.values := by
  rw [constants, List.mem_filterMap]
  constructor
  · rintro ⟨v, hv, hc⟩
    cases v with
    | constant d => rwa [← Option.some.inj hc]
    | reference x => cases hc
  · intro hv
    exact ⟨.constant c, hv, rfl⟩

theorem Goal.mem_constants_iff {g : Goal} {c : Constant} :
    c ∈ g.constants ↔ (∃ f ∈ g.initFacts ++ g.exitFacts, c ∈ f.elements) ∨
      ∃ r ∈ g.rules, .constant c ∈ r.values := by
  simp only [constants, List.mem_append, List.mem_flatMap, Rule.mem_constants_iff, or_and_right,
    exists_or]
  exact or_right_comm

end Resolved

namespace TypeTable

variable {t : TypeTable} {e : Entry} {id : TypeId} {name : String}

def Declares (t : TypeTable) (id : TypeId) : Prop := ∃ e ∈ t.entries, e.id = id

theorem Indexed.declares_of_lookup? (h : t.Indexed) (hname : t.lookup? name = some id) :
    t.Declares id := by
  obtain ⟨e, he, _, hid⟩ := (h.ids name id).mp hname
  exact ⟨e, he, hid⟩

theorem Indexed.id_of_builtin? (h : t.Indexed) (he : t.builtin? id = some e) :
    e ∈ t.entries ∧ e.id = id :=
  h.get?_eq_some_iff.mp (builtin?_eq_some_iff.mp he).1

theorem Consistent.of_declares (h : t.Consistent) (hid : t.Declares id) :
    (t.get? id).isSome ∧ (∃ b, t.base? id = some b ∧ (t.builtin? b).isSome) ∧ id ≠ .unknown := by
  obtain ⟨e, he, rfl⟩ := hid
  refine ⟨?_, h.base?_of_mem he, h.numbered.known he⟩
  rw [h.indexed.get?_eq_some_iff.mpr ⟨he, rfl⟩, Option.isSome_some]

end TypeTable

namespace Source

variable {types : TypeTable} {g : Goal} {id : GoalId}

section Correspondence

variable (types)

structure Constant.Typed (c : Constant) (d : Resolved.Constant) : Prop where
  literal : d.literal = c.literal
  inferred : d.inferred = true ↔ c.typeName = none
  deduced : d.inferred = true →
    d.type = d.literal.kind.builtinType? ∧ (d.type = none ↔ d.literal = .unknown)
  written : d.inferred = false → ∃ typeName, c.typeName = some typeName ∧
    d.type = types.lookup? typeName

inductive Value.Typed : Value → Resolved.Value → Prop where
  | constant {c : Constant} {d : Resolved.Constant} (h : c.Typed types d) :
    Value.Typed (.constant c) (.constant d)
  | reference (v : Variable) (x : Resolved.Variable) : Value.Typed (.reference v) (.reference x)

inductive Condition.Typed : Condition → Resolved.Condition → Prop where
  | query {c : Call} {d : Resolved.Call} (args : List.Forall₂ (Value.Typed types) c.args d.args) :
    Condition.Typed (.query c) (.query d)
  | comparison {c : Comparison} {d : Resolved.Comparison} (left : c.left.Typed types d.left)
    (right : c.right.Typed types d.right) : Condition.Typed (.comparison c) (.comparison d)

inductive Action.Typed : Action → Resolved.Action → Prop where
  | completion (span : Span) (goal : GoalId) : Action.Typed (.completion span) (.completion goal)
  | call {c : Call} {d : Resolved.Call} (args : List.Forall₂ (Value.Typed types) c.args d.args) :
    Action.Typed (.call c) (.call d)

def Fact.Typed (f : Fact) (d : Resolved.Fact) : Prop :=
  List.Forall₂ (Constant.Typed types) f.elements d.elements

structure Rule.Typed (r : Rule) (d : Resolved.Rule) : Prop where
  conditions : List.Forall₂ (Condition.Typed types) r.conditions d.conditions
  actions : List.Forall₂ (Action.Typed types) r.actions d.actions

structure Goal.Typed (g : Goal) (d : Resolved.Goal) : Prop where
  initFacts : List.Forall₂ (Fact.Typed types) g.initFacts d.initFacts
  rules : List.Forall₂ (Rule.Typed types) g.rules d.rules
  exitFacts : List.Forall₂ (Fact.Typed types) g.exitFacts d.exitFacts

end Correspondence

theorem forall₂_map {α β : Type} {R : α → β → Prop} {f : α → β} {as : List α}
    (h : ∀ a ∈ as, R a (f a)) : List.Forall₂ R as (as.map f) :=
  List.forall₂_map_right_iff.mpr (List.forall₂_same.mpr h)

section Canonical

variable (h : types.Indexed)

include h

theorem Constant.inferredType_eq {c : Constant} (hname : c.typeName = none)
    (hc : ¬ c.Untypable types) :
    (c.literal.kind.builtinType?.bind types.builtin?).map (·.id) =
      c.literal.kind.builtinType? := by
  cases htype : c.literal.kind.builtinType? with
  | none => rfl
  | some id =>
    obtain ⟨e, he⟩ := exists_builtin?_of_typable hname hc htype
    rw [Option.bind_some, he, Option.map_some, (h.id_of_builtin? he).2]

omit h in
theorem builtinType?_eq_none_iff (l : Literal) : l.kind.builtinType? = none ↔ l = .unknown := by
  cases l <;> simp [Literal.kind, Literal.Kind.builtinType?]

theorem Constant.canonical_typed {c : Constant} (hc : ¬ c.Untypable types) :
    c.Typed types (c.canonical types) := by
  rw [canonical]
  cases hname : c.typeName with
  | some typeName =>
    exact {
      literal := rfl
      inferred := by simp [hname]
      deduced := by
        intro hinferred
        cases hinferred
      written := fun _ => ⟨typeName, hname, rfl⟩ }
  | none =>
    have htype := c.inferredType_eq h hname hc
    exact {
      literal := rfl
      inferred := by simp [hname]
      deduced := fun _ => ⟨htype, by rw [htype, builtinType?_eq_none_iff]⟩
      written := by
        intro hwritten
        cases hwritten }

theorem Value.canonical_typed (refs : List Variable) {v : Value} (hv : ¬ v.Untypable types) :
    v.Typed types (v.canonical types refs) := by
  cases v with
  | constant c => exact .constant (c.canonical_typed h hv)
  | reference v => exact .reference v _

theorem Condition.canonical_typed (refs : List Variable) {c : Condition}
    (hc : ∀ v ∈ c.values, ¬ v.Untypable types) : c.Typed types (c.canonical types refs) := by
  cases c with
  | query c => exact .query (forall₂_map fun v hv => v.canonical_typed h refs (hc v hv))
  | comparison c =>
    have hleft := hc c.left List.mem_cons_self
    have hright := hc c.right (List.mem_cons_of_mem _ List.mem_cons_self)
    exact .comparison (c.left.canonical_typed h refs hleft) (c.right.canonical_typed h refs hright)

theorem Action.canonical_typed (refs : List Variable) (id : GoalId) {a : Action}
    (ha : ∀ v ∈ a.values, ¬ v.Untypable types) : a.Typed types (a.canonical types refs id) := by
  cases a with
  | completion span => exact .completion span id
  | call c => exact .call (forall₂_map fun v hv => v.canonical_typed h refs (ha v hv))

theorem Rule.canonical_typed (id : GoalId) {r : Rule} (hr : ∀ v ∈ r.values, ¬ v.Untypable types) :
    r.Typed types (r.canonical types id) := by
  simp only [values, List.forall_mem_append, List.forall_mem_flatMap] at hr
  obtain ⟨hconditions, hactions⟩ := hr
  exact {
    conditions := forall₂_map fun c hc => c.canonical_typed h _ (hconditions c hc)
    actions := forall₂_map fun a ha => a.canonical_typed h _ id (hactions a ha) }

theorem Goal.canonical_typed (id : GoalId)
    (hg : ∀ o ∈ g.occurrences, ¬ o.value.Untypable types) : g.Typed types (g.canonical types id) := by
  obtain ⟨hfacts, hrules⟩ :=
    (forall_mem_occurrences (P := fun v => ¬ v.Untypable types)).mp hg
  obtain ⟨hinit, hexit⟩ := List.forall_mem_append.mp hfacts
  have hfact : ∀ f : Fact, (∀ c ∈ f.elements, ¬ c.Untypable types) →
      f.Typed types (f.canonical types) :=
    fun f hf => forall₂_map fun c hc => c.canonical_typed h (hf c hc)
  exact {
    initFacts := forall₂_map fun f hf => hfact f (hinit f hf)
    rules := forall₂_map fun r hr => Rule.canonical_typed h id (hrules r hr)
    exitFacts := forall₂_map fun f hf => hfact f (hexit f hf) }

theorem Constant.declares_of_canonical {c : Constant} {type : TypeId}
    (htype : (c.canonical types).type = some type) : types.Declares type := by
  rw [canonical] at htype
  cases hname : c.typeName with
  | some typeName =>
    rw [hname] at htype
    exact h.declares_of_lookup? htype
  | none =>
    rw [hname] at htype
    obtain ⟨e, he, rfl⟩ := Option.map_eq_some_iff.mp htype
    obtain ⟨id, _, hentry⟩ := Option.bind_eq_some_iff.mp he
    exact ⟨e, (h.id_of_builtin? hentry).1, rfl⟩

theorem Variable.declares_of_writtenType? {v : Variable} {type : TypeId}
    (htype : v.writtenType? types = some type) : types.Declares type := by
  obtain ⟨typeName, _, hlookup⟩ := Option.bind_eq_some_iff.mp htype
  exact h.declares_of_lookup? hlookup

theorem Rule.declares_of_variableTypes {r : Rule} {type : TypeId}
    (htype : type ∈ (r.canonical types id).variableTypes) : types.Declares type := by
  rw [Resolved.Rule.variableTypes, List.mem_append, List.mem_filterMap, List.mem_filterMap] at htype
  rcases htype with ⟨x, hx, htype⟩ | ⟨slot, hslot, htype⟩
  · rw [canonical_references] at hx
    obtain ⟨v, _, rfl⟩ := List.mem_map.mp hx
    obtain ⟨first, _, hwritten⟩ := Option.bind_eq_some_iff.mp htype
    exact first.declares_of_writtenType? h hwritten
  · obtain ⟨i, hi, rfl⟩ := List.mem_mapIdx.mp hslot
    exact Variable.declares_of_writtenType? h htype

omit h in
/-- The constants of the canonical form are those of the source, one by one. -/
theorem Goal.mem_canonical_constants {d : Resolved.Constant}
    (hd : d ∈ (g.canonical types id).constants) :
    ∃ o ∈ g.occurrences, ∃ c, o.value = .constant c ∧ d = c.canonical types := by
  obtain ⟨hfacts, hrules⟩ := (forall_mem_occurrences
    (P := fun v => ∃ o ∈ g.occurrences, o.value = v)).mp fun o ho => ⟨o, ho, rfl⟩
  rcases Resolved.Goal.mem_constants_iff.mp hd with ⟨e, he, hmem⟩ | ⟨s, hs, hmem⟩
  · rw [canonical, ← List.map_append] at he
    obtain ⟨f, hf, rfl⟩ := List.mem_map.mp he
    obtain ⟨c, hc, rfl⟩ := List.mem_map.mp hmem
    obtain ⟨o, ho, hvalue⟩ := hfacts f hf c hc
    exact ⟨o, ho, c, hvalue, rfl⟩
  · obtain ⟨r, hr, rfl⟩ := List.mem_map.mp hs
    rw [Rule.canonical_values] at hmem
    obtain ⟨v, hv, hcanonical⟩ := List.mem_map.mp hmem
    obtain ⟨o, ho, hvalue⟩ := hrules r hr v hv
    cases v with
    | constant c => exact ⟨o, ho, c, hvalue, (Resolved.Value.constant.inj hcanonical).symm⟩
    | reference v => cases hcanonical

theorem Goal.declares_of_types {type : TypeId} (htype : type ∈ (g.canonical types id).types) :
    types.Declares type := by
  rcases List.mem_append.mp htype with hconstant | hvariable
  · obtain ⟨d, hd, htype⟩ := List.mem_filterMap.mp hconstant
    obtain ⟨_, _, c, _, rfl⟩ := mem_canonical_constants hd
    exact c.declares_of_canonical h htype
  · obtain ⟨r, hr, htype⟩ := List.mem_flatMap.mp hvariable
    obtain ⟨r, _, rfl⟩ := List.mem_map.mp hr
    exact r.declares_of_variableTypes h htype

end Canonical

/-- Whatever declarations made the table, a lowered goal stores only types that it knows, each with
a builtin type at the end of its links; and a type was inferred exactly where none was written. -/
theorem Goal.lower_types {ctx : Context} {r : Resolved.Goal} (ht : ctx.types.Reachable)
    (h : (g.lower ctx id).outcome = .ok r) :
    (∀ type ∈ r.types, (ctx.types.get? type).isSome ∧
      (∃ b, ctx.types.base? type = some b ∧ (ctx.types.builtin? b).isSome) ∧ type ≠ .unknown) ∧
    g.Typed ctx.types r := by
  have hconsistent := ht.consistent
  obtain ⟨rfl, _, htyped⟩ := lower_of_ok h
  refine ⟨?_, canonical_typed hconsistent.indexed id htyped⟩
  intro type htype
  exact hconsistent.of_declares (declares_of_types hconsistent.indexed htype)

/-- A number that is called a player, a name and an unknown literal without types, and a variable
whose type is an alias. -/
def Goal.escort : Goal where
  name := "Escort"
  initFacts := [{ database := "Hero", elements := [
    { typeName := some "PLAYER", literal := .integer 1 }, { literal := .unknown }] }]
  rules := [{
    conditions := [.query { name := "Near", args := [
      .reference { name := "who", typeName := some "CHARACTERGUID" },
      .constant { literal := .name "S_Hero" }] }] }]

theorem Goal.escort_types :
    TypeTable.guids.Reachable ∧ ∃ r, (escort.lower { types := .guids } ⟨0⟩).outcome = .ok r ∧
      r.types = [⟨17⟩, .guidString, ⟨16⟩, ⟨16⟩] ∧
      (∃ b, TypeTable.guids.base? ⟨17⟩ = some b ∧ (TypeTable.guids.builtin? b).isSome) ∧
      escort.Typed .guids r := by
  have hreachable : TypeTable.guids.Reachable :=
    ((((TypeTable.Reachable.builtins.after _).after _).after _).after _).after _
  have houtcome : (escort.lower { types := .guids } ⟨0⟩).outcome =
      .ok (escort.canonical .guids ⟨0⟩) := by decide
  have htypes : (escort.canonical .guids ⟨0⟩).types = [⟨17⟩, .guidString, ⟨16⟩, ⟨16⟩] := by decide
  obtain ⟨hlive, htyped⟩ := lower_types hreachable houtcome
  have hplayer : ⟨17⟩ ∈ (escort.canonical .guids ⟨0⟩).types := by
    rw [htypes]
    exact List.mem_cons_self
  exact ⟨hreachable, _, houtcome, htypes, (hlive ⟨17⟩ hplayer).2.1, htyped⟩

end Source

end Storyline
