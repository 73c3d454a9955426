import Storyline.Proofs.Canonical
import Storyline.Proofs.WellFormed

/-!
# Limits

Arities and slot numbers are 32-bit numbers, and a count that does not fit stays at the largest one.
A goal is within its limits when no argument list reaches `2 ^ 32` entries and no rule has more than
`2 ^ 32` variables. These are exactly the goals whose canonical form is well formed: nothing else
that the check looks for can go wrong in a canonical form.
-/

namespace Storyline.Source

section Views

def Condition.calls : Condition → List Call
  | .query c => [c]
  | .comparison _ => []

def Action.calls : Action → List Call
  | .completion _ => []
  | .call c => [c]

def Rule.calls (r : Rule) : List Call :=
  r.conditions.flatMap Condition.calls ++ r.actions.flatMap Action.calls

variable (types : TypeTable) (refs : List Variable) (id : GoalId)

theorem Condition.canonical_values (c : Condition) :
    (c.canonical types refs).values = c.values.map (Value.canonical types refs) := by
  cases c <;> rfl

theorem Action.canonical_args (a : Action) :
    (a.canonical types refs id).args = a.values.map (Value.canonical types refs) := by
  cases a <;> rfl

theorem Condition.canonical_calls (c : Condition) :
    (c.canonical types refs).calls = c.calls.map (Call.canonical types refs) := by
  cases c <;> rfl

theorem Action.canonical_calls (a : Action) :
    (a.canonical types refs id).calls = a.calls.map (Call.canonical types refs) := by
  cases a <;> rfl

theorem references_canonical (vs : List Value) :
    Resolved.references (vs.map (Value.canonical types refs)) =
      (references vs).map (Variable.canonical types refs) := by
  rw [Resolved.references, references, List.flatMap_map, List.map_flatMap]
  congr 1
  funext v
  cases v <;> rfl

namespace Rule

variable (r : Rule)

theorem canonical_values :
    (r.canonical types id).values = r.values.map (Value.canonical types r.references) := by
  simp only [canonical, Resolved.Rule.values, values, List.flatMap_map, List.map_append,
    List.map_flatMap, Condition.canonical_values, Action.canonical_args]

theorem canonical_references :
    (r.canonical types id).references =
      r.references.map (Variable.canonical types r.references) := by
  rw [Resolved.Rule.references, canonical_values, references_canonical]
  rfl

theorem canonical_calls :
    (r.canonical types id).calls = r.calls.map (Call.canonical types r.references) := by
  simp only [canonical, Resolved.Rule.calls, calls, List.flatMap_map, List.map_append,
    List.map_flatMap, Condition.canonical_calls, Action.canonical_calls]

theorem canonical_slots_length :
    (r.canonical types id).slots.length = (firstReferences r.references).length :=
  List.length_mapIdx

end Rule

end Views

theorem Variable.canonical_index (types : TypeTable) {refs : List Variable} {v : Variable}
    (hrefs : Numerable refs) (hv : v.name ∈ names refs) :
    (v.canonical types refs).index.toNat = slotNumber refs v.name :=
  UInt32.toNat_ofNatClamp_of_lt (slotNumber_lt_size hrefs hv)

/-- The slot that a variable points at is the slot of its own name and has its type. -/
theorem slots_getElem?_canonical (types : TypeTable) {refs : List Variable} {v : Variable}
    (hrefs : Numerable refs) (hv : v.name ∈ names refs) :
    (slots types refs)[(v.canonical types refs).index.toNat]? =
      some ⟨(v.canonical types refs).index, v.name, (v.canonical types refs).type⟩ := by
  obtain ⟨first, hfirst, _, hname⟩ := find?_of_mem hv
  rw [v.canonical_index types hrefs hv, slots, List.getElem?_mapIdx, getElem?_slotNumber, hfirst,
    Option.map_some, hname]
  simp only [Variable.canonical, typeOf, hfirst, Option.bind_some]

/-- Slots carry their own positions exactly if there are enough numbers for them. -/
theorem slots_dense_iff (types : TypeTable) (refs : List Variable) :
    (∀ (i : Nat) (slot : Resolved.Slot), (slots types refs)[i]? = some slot →
      slot.index.toNat = i) ↔ Numerable refs := by
  have hslots : ∀ i : Nat, (slots types refs)[i]? = (firstReferences refs)[i]?.map fun v =>
      ⟨UInt32.ofNatClamp i, v.name, v.writtenType? types⟩ := fun i => List.getElem?_mapIdx
  constructor
  · intro h
    apply Nat.le_of_not_lt
    intro hsize
    -- the first slot past the largest number is clamped below its own position
    have hslot := hslots UInt32.size
    rw [List.getElem?_eq_getElem hsize, Option.map_some] at hslot
    exact absurd ((toNat_ofNatClamp_eq_iff _).mp (h _ _ hslot)) (Nat.lt_irrefl _)
  · intro h i slot hslot
    rw [hslots] at hslot
    obtain ⟨v, hv, rfl⟩ := Option.map_eq_some_iff.mp hslot
    exact UInt32.toNat_ofNatClamp_of_lt (Nat.lt_of_lt_of_le (List.getElem?_eq_some_iff.mp hv).1 h)

structure Rule.WithinLimits (r : Rule) : Prop where
  arguments : ∀ c ∈ r.calls, c.args.length < UInt32.size
  names : (Source.names r.references).eraseDups.length ≤ UInt32.size

structure Goal.WithinLimits (g : Goal) : Prop where
  elements : ∀ f ∈ g.initFacts ++ g.exitFacts, f.elements.length < UInt32.size
  rule : ∀ r ∈ g.rules, r.WithinLimits

instance (r : Rule) : Decidable r.WithinLimits :=
  decidable_of_iff ((∀ c ∈ r.calls, c.args.length < UInt32.size) ∧
    (names r.references).eraseDups.length ≤ UInt32.size)
    ⟨fun h => ⟨h.1, h.2⟩, fun h => ⟨h.arguments, h.names⟩⟩

instance (g : Goal) : Decidable g.WithinLimits :=
  decidable_of_iff ((∀ f ∈ g.initFacts ++ g.exitFacts, f.elements.length < UInt32.size) ∧
    ∀ r ∈ g.rules, r.WithinLimits)
    ⟨fun h => ⟨h.1, h.2⟩, fun h => ⟨h.elements, h.rule⟩⟩

theorem Rule.WithinLimits.numerable {r : Rule} (h : r.WithinLimits) : Numerable r.references := by
  rw [Numerable, length_firstReferences]
  exact h.names

theorem Goal.WithinLimits.numerable {g : Goal} (h : g.WithinLimits) : g.Numerable :=
  fun r hr => (h.rule r hr).numerable

variable (types : TypeTable) (id : GoalId)

namespace Rule

variable (r : Rule)

theorem canonical_bound :
    ∀ x ∈ (r.canonical types id).references,
      x.index.toNat < (r.canonical types id).slots.length := by
  intro x hx
  rw [canonical_references] at hx
  obtain ⟨v, hv, rfl⟩ := List.mem_map.mp hx
  rw [canonical_slots_length]
  exact Nat.lt_of_le_of_lt (toNat_ofNatClamp_le _) (slotNumber_lt (List.mem_map_of_mem hv))

theorem canonical_completion (target : GoalId)
    (h : .completion target ∈ (r.canonical types id).actions) : target = id := by
  obtain ⟨a, _, ha⟩ := List.mem_map.mp h
  cases a with
  | completion span => exact (Resolved.Action.completion.inj ha).symm
  | call c => cases ha

theorem canonical_wellFormed_iff : (r.canonical types id).WellFormed id ↔ r.WithinLimits := by
  have harity : (∀ c ∈ (r.canonical types id).calls, c.symbol.arity.toNat = c.args.length) ↔
      ∀ c ∈ r.calls, c.args.length < UInt32.size := by
    rw [canonical_calls, List.forall_mem_map]
    simp only [Call.canonical, Symbol.ofArgs, List.length_map, toNat_ofNatClamp_eq_iff]
  constructor
  · intro h
    refine ⟨harity.mp h.arity, ?_⟩
    rw [← length_firstReferences]
    exact (slots_dense_iff types r.references).mp h.dense
  · intro h
    exact {
      owner := rfl
      dense := (slots_dense_iff types r.references).mpr h.numerable
      arity := harity.mpr h.arguments
      bound := r.canonical_bound types id
      completion := r.canonical_completion types id }

end Rule

theorem Goal.canonical_wellFormed_iff (g : Goal) :
    (g.canonical types id).WellFormed ↔ g.WithinLimits := by
  have hfacts : (∀ f ∈ (g.canonical types id).initFacts ++ (g.canonical types id).exitFacts,
      f.database.arity.toNat = f.elements.length) ↔
      ∀ f ∈ g.initFacts ++ g.exitFacts, f.elements.length < UInt32.size := by
    simp only [canonical, ← List.map_append, List.forall_mem_map, Fact.canonical, Symbol.ofArgs,
      List.length_map, toNat_ofNatClamp_eq_iff]
  have hrules : (∀ r ∈ (g.canonical types id).rules, r.WellFormed id) ↔
      ∀ r ∈ g.rules, r.WithinLimits := by
    simp only [canonical, List.forall_mem_map, Rule.canonical_wellFormed_iff]
  constructor
  · intro h
    exact ⟨hfacts.mp h.fact, hrules.mp h.rule⟩
  · intro h
    exact ⟨hfacts.mpr h.elements, hrules.mpr h.rule⟩

end Storyline.Source
