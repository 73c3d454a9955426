import Mathlib.Data.List.Forall2
import Storyline.Proofs.GoalRun
import Storyline.Proofs.Limits

/-!
# The table of variables of a rule

The slots of a lowered rule are the distinct names that its source refers to, in the order of their
first references, each with the type that its first reference gives. Every variable of the lowered
rule points at the slot of its own name. No slot is left unused, and a variable's number is never
more than one past the numbers that were used before it.
-/

namespace Storyline.Source.Rule

structure VariableTable (types : TypeTable) (r : Rule) (s : Resolved.Rule) : Prop where
  distinct : s.slots.map (·.name) = (names r.references).eraseDups
  dense : ∀ (i : Nat) (slot : Resolved.Slot), s.slots[i]? = some slot → slot.index.toNat = i
  typed : ∀ slot ∈ s.slots, ∃ first, r.references.find? (·.name = slot.name) = some first ∧
    slot.type = first.typeName.bind types.lookup?
  own : List.Forall₂ (fun v x => s.slot? x.index = some ⟨x.index, v.name, x.type⟩)
    r.references s.references
  used : ∀ slot ∈ s.slots, ∃ x ∈ s.references, x.index = slot.index
  growing : ∀ before x after, s.references = before ++ x :: after →
    (before = [] → x.index = 0) ∧
      (before ≠ [] → ∃ y ∈ before, x.index.toNat ≤ y.index.toNat + 1)

variable {ctx : Context} {types : TypeTable} {id : GoalId} {r : Rule}

theorem lower_of_ok {position : Nat} {s : Resolved.Rule} (hr : Numerable r.references)
    (h : (r.lower ctx id position).outcome = .ok s) : s = r.canonical ctx.types id := by
  rw [← Run.restrict_outcome Run.isReport, lower_reports ctx id position hr] at h
  exact (Run.eq_of_bind_pure h).2.symm

theorem canonical_slot {slot : Resolved.Slot} (h : slot ∈ (r.canonical types id).slots) :
    ∃ first ∈ r.references, r.references.find? (·.name = slot.name) = some first ∧
      (first.canonical types r.references).index = slot.index ∧
      slot.type = first.writtenType? types := by
  obtain ⟨i, hi, rfl⟩ := List.mem_mapIdx.mp h
  have hget := List.getElem?_eq_getElem hi
  have hmem := (firstReferences_sublist r.references).subset (List.getElem_mem hi)
  have hnumber := slotNumber_of_getElem? hget
  refine ⟨_, hmem, ?_, ?_, rfl⟩
  · rw [← getElem?_slotNumber, hnumber, hget]
  · rw [Variable.canonical, hnumber]

theorem canonical_growing (hr : Numerable r.references)
    (before : List Resolved.Variable) (x : Resolved.Variable) (after : List Resolved.Variable)
    (h : (r.canonical types id).references = before ++ x :: after) :
    (before = [] → x.index = 0) ∧
      (before ≠ [] → ∃ y ∈ before, x.index.toNat ≤ y.index.toNat + 1) := by
  -- the split of the resolved references comes from a split of the written ones
  rw [canonical_references] at h
  obtain ⟨earlier, rest, hsplit, rfl, hrest⟩ := List.map_eq_append_iff.mp h
  obtain ⟨v, later, rfl, rfl, _⟩ := List.map_eq_cons_iff.mp hrest
  have hindex : ∀ w ∈ earlier ++ v :: later, (w.canonical types r.references).index.toNat =
      slotNumber (earlier ++ v :: later) w.name := by
    intro w hw
    rw [← hsplit] at hw ⊢
    exact w.canonical_index types hr (List.mem_map_of_mem hw)
  have hv := hindex v (by simp)
  obtain ⟨hfirst, hnext⟩ := slotNumber_le_succ earlier later v
  constructor
  · intro he
    have hzero : (v.canonical types r.references).index.toNat = 0 := by
      rw [hv, hfirst (List.map_eq_nil_iff.mp he)]
    exact UInt32.toNat_inj.mp hzero
  · intro hne
    obtain ⟨w, hw, hle⟩ := hnext (by simpa using hne)
    refine ⟨_, List.mem_map_of_mem hw, ?_⟩
    rw [hv, hindex w (List.mem_append_left _ hw)]
    exact hle

/-- Whatever the later references say, the table of a lowered rule is the canonical one. -/
theorem lower_variableTable {position : Nat} {s : Resolved.Rule}
    (hr : (names r.references).eraseDups.length ≤ UInt32.size)
    (h : (r.lower ctx id position).outcome = .ok s) : VariableTable ctx.types r s := by
  rw [← length_firstReferences] at hr
  obtain rfl := lower_of_ok hr h
  exact {
    distinct := by
      rw [← map_name_firstReferences]
      exact slots_map_name ctx.types r.references
    dense := (slots_dense_iff ctx.types r.references).mpr hr
    typed := by
      intro slot hslot
      obtain ⟨first, _, hfirst, _, htype⟩ := canonical_slot hslot
      exact ⟨first, hfirst, htype⟩
    own := by
      rw [canonical_references, List.forall₂_map_right_iff, List.forall₂_same]
      intro v hv
      exact slots_getElem?_canonical ctx.types hr (List.mem_map_of_mem hv)
    used := by
      intro slot hslot
      obtain ⟨first, hmem, _, hindex, _⟩ := canonical_slot hslot
      rw [canonical_references]
      exact ⟨_, List.mem_map_of_mem hmem, hindex⟩
    growing := canonical_growing hr }

theorem clash_variableTable :
    (names clash.references).eraseDups.length ≤ UInt32.size ∧
      (clash.lower {} ⟨7⟩ 0).outcome = .ok (clash.canonical .builtins ⟨7⟩) ∧
      (clash.canonical .builtins ⟨7⟩).slots =
        [⟨0, "x", none⟩, ⟨1, "y", some .string⟩, ⟨2, "z", none⟩] ∧
      VariableTable .builtins clash (clash.canonical .builtins ⟨7⟩) := by
  have hr : (names clash.references).eraseDups.length ≤ UInt32.size := by decide
  have h : (clash.lower {} ⟨7⟩ 0).outcome = .ok (clash.canonical .builtins ⟨7⟩) := rfl
  exact ⟨hr, h, by decide, lower_variableTable hr h⟩

end Storyline.Source.Rule
