import Mathlib.Data.List.Nodup
import Storyline.Proofs.Binding

/-!
# The parts of a scope fit together

A scope keeps its slots, the spans of their first references and its index of names apart. Binding
asks the index for the number of a name and then reads the two lists at that position; a first
reference adds to each of the three. `Represents` says what the parts tell about the references that
were bound: the two lists are of one length, the index knows exactly the names of the slots and
gives their positions, and a slot's number is its position.

Binding references one by one ends in the scope that the list of references describes, whatever
types and policy it is bound under, and that scope represents them if there are no more names than
numbers. The index has 32-bit numbers as the slots do, so past that bound it would give the same
position for several names.
-/

namespace Storyline.Scope

open Source

structure Represents (s : Scope) (refs : List Variable) : Prop where
  aligned : s.firstSpans.length = s.slots.length
  indexed : ∀ (name : String) (i : Nat), (s.positions.lookup name).map UInt32.toNat = some i ↔
    ∃ slot, s.slots[i]? = some slot ∧ slot.name = name
  unrepeated : (s.positions.map (·.1)).Nodup
  numbered : ∀ (i : Nat) (slot : Resolved.Slot), s.slots[i]? = some slot → slot.index.toNat = i
  first : ∀ (i : Nat) (slot : Resolved.Slot), s.slots[i]? = some slot →
    ∃ v, refs.find? (·.name = slot.name) = some v ∧ s.firstSpans[i]? = some v.span
  inBounds : ∀ (name : String) (index : UInt32), s.positions.lookup name = some index →
    index.toNat < s.slots.length ∧ index.toNat < s.firstSpans.length
  found : ∀ (name : String) (index : UInt32), s.positions.lookup name = some index →
    ∃ b, s.find? name = some b ∧ s.slots[index.toNat]? = some b.slot ∧
      s.firstSpans[index.toNat]? = some b.firstSpan

/-- The scopes that binding a variable may leave behind. -/
inductive AfterBinding (s : Scope) (v : Variable) : Scope → Prop
  | unchanged {index : UInt32} (known : s.positions.lookup v.name = some index) : AfterBinding s v s
  | opened (new : s.positions.lookup v.name = none) (type : Option TypeId) :
    AfterBinding s v
      { slots := s.slots ++ [⟨s.nextIndex, v.name, type⟩]
        firstSpans := s.firstSpans ++ [v.span]
        positions := (v.name, s.nextIndex) :: s.positions }

/-! ## Runs of bindings -/

theorem thread_bind_outcome (ctx : Context) (earlier refs : List Variable) :
    ∃ vs, (Run.thread (bind ctx) (ofReferences ctx.types earlier) refs).outcome =
      .ok (vs, ofReferences ctx.types (earlier ++ refs)) := by
  induction refs generalizing earlier with
  | nil =>
    rw [List.append_nil]
    exact ⟨[], rfl⟩
  | cons v refs ih =>
    obtain ⟨x, hbind, _⟩ := bind_outcome ctx earlier v
    obtain ⟨vs, hrest⟩ := ih (earlier ++ [v])
    rw [← List.append_cons] at hrest
    refine ⟨x :: vs, ?_⟩
    rw [Run.thread, Run.outcome_bind_of_ok hbind]
    dsimp only
    rw [Run.outcome_bind_of_ok hrest]
    rfl

theorem bind_afterBinding (ctx : Context) (refs : List Variable) (v : Variable) :
    ∃ x s, ((ofReferences ctx.types refs).bind ctx v).outcome = .ok (x, s) ∧
      AfterBinding (ofReferences ctx.types refs) v s := by
  obtain ⟨x, hbind, _⟩ := bind_outcome ctx refs v
  refine ⟨x, _, hbind, ?_⟩
  by_cases h : v.name ∈ names refs
  · rw [ofReferences_snoc_of_mem ctx.types refs h]
    exact .unchanged (ofReferences_lookup_of_mem ctx.types h)
  · rw [ofReferences_snoc_of_notMem ctx.types refs h]
    exact .opened (ofReferences_lookup_of_notMem ctx.types h) _

/-! ## The scope of a list of references -/

section OfReferences

variable (types : TypeTable) {refs : List Variable} {i : Nat} {slot : Resolved.Slot}

theorem ofReferences_getElem? (h : (ofReferences types refs).slots[i]? = some slot) :
    ∃ v, (firstReferences refs)[i]? = some v ∧ refs.find? (·.name = v.name) = some v ∧
      (ofReferences types refs).firstSpans[i]? = some v.span ∧
      slot = ⟨UInt32.ofNatClamp i, v.name, v.writtenType? types⟩ := by
  obtain ⟨v, hv, rfl⟩ : ∃ v, (firstReferences refs)[i]? = some v ∧ _ = slot := by
    simpa [ofReferences] using h
  refine ⟨v, hv, ?_, ?_, rfl⟩
  · rw [← getElem?_slotNumber, slotNumber_of_getElem? hv, hv]
  · rw [ofReferences, List.getElem?_map, hv, Option.map_some]

theorem ofReferences_position_of_mem (hrefs : Numerable refs) {name : String}
    (h : name ∈ names refs) :
    ((ofReferences types refs).positions.lookup name).map UInt32.toNat =
      some (slotNumber refs name) := by
  rw [ofReferences_lookup_of_mem types h, Option.map_some,
    UInt32.toNat_ofNatClamp_of_lt (slotNumber_lt_size hrefs h)]

theorem ofReferences_position_iff (hrefs : Numerable refs) (name : String) (i : Nat) :
    ((ofReferences types refs).positions.lookup name).map UInt32.toNat = some i ↔
      ∃ slot, (ofReferences types refs).slots[i]? = some slot ∧ slot.name = name := by
  constructor
  · intro h
    by_cases hname : name ∈ names refs
    · obtain ⟨first, hfirst, _, hsame⟩ := find?_of_mem hname
      rw [ofReferences_position_of_mem types hrefs hname] at h
      obtain rfl := Option.some.inj h
      refine ⟨⟨UInt32.ofNatClamp (slotNumber refs name), first.name, first.writtenType? types⟩, ?_,
        hsame⟩
      rw [ofReferences, List.getElem?_mapIdx, getElem?_slotNumber, hfirst]
      rfl
    · rw [ofReferences_lookup_of_notMem types hname] at h
      cases h
  · rintro ⟨slot, hslot, rfl⟩
    obtain ⟨v, hv, hfind, _, rfl⟩ := ofReferences_getElem? types hslot
    rw [ofReferences_position_of_mem types hrefs (mem_names_of_find? hfind),
      slotNumber_of_getElem? hv]

theorem ofReferences_positions_map_fst (refs : List Variable) :
    (ofReferences types refs).positions.map (·.1) =
      ((firstReferences refs).map (·.name)).reverse := by
  rw [ofReferences, List.map_reverse]
  congr 1
  apply List.ext_getElem?
  intro i
  simp only [List.getElem?_map, List.getElem?_mapIdx, Option.map_map]
  rfl

theorem ofReferences_represents (h : Numerable refs) :
    (ofReferences types refs).Represents refs where
  aligned := by simp [ofReferences]
  indexed := ofReferences_position_iff types h
  unrepeated := by
    rw [ofReferences_positions_map_fst, List.nodup_reverse]
    exact firstReferences_nodup refs
  numbered := by
    intro i slot hslot
    obtain ⟨v, hv, _, _, rfl⟩ := ofReferences_getElem? types hslot
    have hi : i < (firstReferences refs).length := (List.getElem?_eq_some_iff.mp hv).1
    exact UInt32.toNat_ofNatClamp_of_lt (Nat.lt_of_lt_of_le hi h)
  first := by
    intro i slot hslot
    obtain ⟨v, _, hfind, hspan, rfl⟩ := ofReferences_getElem? types hslot
    exact ⟨v, hfind, hspan⟩
  inBounds := by
    intro name index hlookup
    obtain ⟨slot, hslot, _⟩ :=
      (ofReferences_position_iff types h name _).mp (congrArg (Option.map UInt32.toNat) hlookup)
    obtain ⟨v, _, _, hspan, _⟩ := ofReferences_getElem? types hslot
    exact ⟨(List.getElem?_eq_some_iff.mp hslot).1, (List.getElem?_eq_some_iff.mp hspan).1⟩
  found := by
    intro name index hlookup
    obtain ⟨slot, hslot, _⟩ :=
      (ofReferences_position_iff types h name _).mp (congrArg (Option.map UInt32.toNat) hlookup)
    obtain ⟨v, _, _, hspan, _⟩ := ofReferences_getElem? types hslot
    refine ⟨⟨slot, v.span⟩, ?_, hslot, hspan⟩
    rw [find?, hlookup, Option.bind_some, binding?, hslot, Option.bind_some, hspan, Option.map_some]

end OfReferences

theorem parts_fit (ctx : Context) (refs : List Variable) (h : refs.length < UInt32.size) :
    ∃ vs s, (Run.thread (bind ctx) .empty refs).outcome = .ok (vs, s) ∧ s.Represents refs ∧
      ∀ v, ∃ x s', (s.bind ctx v).outcome = .ok (x, s') ∧ s.AfterBinding v s' := by
  obtain ⟨vs, hrun⟩ := thread_bind_outcome ctx [] refs
  have hrefs : Numerable refs :=
    Nat.le_trans (firstReferences_sublist refs).length_le (Nat.le_of_lt h)
  exact ⟨vs, ofReferences ctx.types refs, hrun, ofReferences_represents ctx.types hrefs,
    bind_afterBinding ctx refs⟩

/-- The third reference writes another type than the first one. -/
def disputed : List Variable :=
  [⟨"x", some "INTEGER", ⟨2, 11⟩⟩, ⟨"y", none, ⟨12, 13⟩⟩, ⟨"x", some "STRING", ⟨20, 26⟩⟩]

def disputedScope : Scope where
  slots := [⟨0, "x", some .integer⟩, ⟨1, "y", none⟩]
  firstSpans := [⟨2, 11⟩, ⟨12, 13⟩]
  positions := [("y", 1), ("x", 0)]

theorem disputed_parts_fit :
    disputed.length < UInt32.size ∧
      (Run.thread (bind { policy := .warn }) .empty disputed).outcome =
        .ok ([⟨0, some .integer⟩, ⟨1, none⟩, ⟨0, some .integer⟩], disputedScope) ∧
      disputedScope.Represents disputed ∧
      ∃ x s, (disputedScope.bind { policy := .warn } ⟨"z", some "REAL", ⟨30, 37⟩⟩).outcome =
        .ok (x, s) ∧ disputedScope.AfterBinding ⟨"z", some "REAL", ⟨30, 37⟩⟩ s := by
  have hlength : disputed.length < UInt32.size := by decide
  have hrun : (Run.thread (bind { policy := .warn }) .empty disputed).outcome =
      .ok ([⟨0, some .integer⟩, ⟨1, none⟩, ⟨0, some .integer⟩], disputedScope) := rfl
  obtain ⟨vs, s, houtcome, hrepresents, hstep⟩ := parts_fit { policy := .warn } disputed hlength
  obtain ⟨_, rfl⟩ := Prod.mk.inj (Except.ok.inj (houtcome.symm.trans hrun))
  exact ⟨hlength, hrun, hrepresents, hstep _⟩

end Storyline.Scope
