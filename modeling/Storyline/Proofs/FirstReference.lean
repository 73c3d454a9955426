import Mathlib.Data.List.Induction
import Storyline.Proofs.Occurrence

/-!
# First references

The variables of a rule are numbered by their first references. `firstReferences` keeps the first
reference to every name, `slotNumber` is the place of a name among them, and `typeOf` is the type
that the first reference gives. References that come later add slots at the end and leave the number
and the type of every name already there as they are.

Slot numbers are written with 32 bits. As long as there are no more names than such numbers, a list
of references is `Numerable`, and every name has a number of its own.

All of this speaks about lists of references only. That a scope does the same, one reference at a
time, is shown where scopes are.
-/

namespace Storyline.Source

def names (refs : List Variable) : List String := refs.map (·.name)

@[simp] theorem names_nil : names [] = [] := rfl

@[simp] theorem names_cons (v : Variable) (vs : List Variable) :
    names (v :: vs) = v.name :: names vs := rfl

@[simp] theorem names_append (vs ws : List Variable) : names (vs ++ ws) = names vs ++ names ws :=
  List.map_append

def firstReferences : List Variable → List Variable
  | [] => []
  | v :: vs => v :: (firstReferences vs).filter fun w => w.name ≠ v.name

def slotNumber (refs : List Variable) (name : String) : Nat :=
  (firstReferences refs).findIdx (·.name = name)

def typeOf (types : TypeTable) (refs : List Variable) (name : String) : Option TypeId :=
  (refs.find? (·.name = name)).bind (Variable.writtenType? types)

def Numerable (refs : List Variable) : Prop := (firstReferences refs).length ≤ UInt32.size

theorem toNat_ofNatClamp_eq_iff (n : Nat) : (UInt32.ofNatClamp n).toNat = n ↔ n < UInt32.size := by
  constructor
  · intro h
    rw [← h]
    exact UInt32.toNat_lt_size _
  · exact UInt32.toNat_ofNatClamp_of_lt

theorem toNat_ofNatClamp_le (n : Nat) : (UInt32.ofNatClamp n).toNat ≤ n := by
  rcases Nat.lt_or_ge n UInt32.size with h | h
  · exact Nat.le_of_eq (UInt32.toNat_ofNatClamp_of_lt h)
  · rw [UInt32.toNat_ofNatClamp_of_le h]
    omega

variable {refs more : List Variable} {name : String}

theorem find?_firstReferences (refs : List Variable) (name : String) :
    (firstReferences refs).find? (·.name = name) = refs.find? (·.name = name) := by
  induction refs with
  | nil => rfl
  | cons v vs ih =>
    by_cases hv : v.name = name
    · simp only [firstReferences, List.find?_cons, hv, decide_true]
    · -- the filter drops only variables of another name
      have hfilter : (fun w : Variable => decide (decide (w.name ≠ v.name) = true ∧
          decide (w.name = name) = true)) = fun w => decide (w.name = name) := by
        funext w
        by_cases hw : w.name = name <;> simp [hw, Ne.symm hv]
      simp only [firstReferences, List.find?_cons, hv, decide_false, List.find?_filter, hfilter, ih]

theorem firstReferences_append (refs more : List Variable) :
    firstReferences (refs ++ more) =
      firstReferences refs ++ (firstReferences more).filter fun w => w.name ∉ names refs := by
  induction refs with
  | nil => exact (List.filter_eq_self.mpr (by simp)).symm
  | cons v vs ih =>
    simp only [List.cons_append, firstReferences, ih, List.filter_append, List.filter_filter,
      names_cons, List.mem_cons, not_or, Bool.decide_and]

theorem Numerable.mono (h : Numerable more) (hrefs : refs <+: more) : Numerable refs := by
  obtain ⟨rest, rfl⟩ := hrefs
  rw [Numerable, firstReferences_append, List.length_append] at h
  exact Nat.le_of_add_right_le h

theorem firstReferences_snoc_of_mem {v : Variable} (h : v.name ∈ names refs) :
    firstReferences (refs ++ [v]) = firstReferences refs := by
  simp [firstReferences_append, firstReferences, h]

theorem firstReferences_snoc_of_notMem {v : Variable} (h : v.name ∉ names refs) :
    firstReferences (refs ++ [v]) = firstReferences refs ++ [v] := by
  simp [firstReferences_append, firstReferences, h]

theorem find?_eq_none_iff : refs.find? (·.name = name) = none ↔ name ∉ names refs := by
  simp [names]

theorem mem_names_of_find? {v : Variable} (h : refs.find? (·.name = name) = some v) :
    name ∈ names refs := by
  have hv : v.name = name := by simpa using List.find?_some h
  exact List.mem_map.mpr ⟨v, List.mem_of_find?_eq_some h, hv⟩

theorem find?_of_mem (h : name ∈ names refs) :
    ∃ v, refs.find? (·.name = name) = some v ∧ v ∈ refs ∧ v.name = name := by
  cases hv : refs.find? (·.name = name) with
  | none => exact absurd h (find?_eq_none_iff.mp hv)
  | some v => exact ⟨v, rfl, List.mem_of_find?_eq_some hv, by simpa using List.find?_some hv⟩

theorem getElem?_slotNumber (refs : List Variable) (name : String) :
    (firstReferences refs)[slotNumber refs name]? = refs.find? (·.name = name) := by
  rw [slotNumber, ← List.find?_eq_getElem?_findIdx, find?_firstReferences]

theorem slotNumber_lt (h : name ∈ names refs) :
    slotNumber refs name < (firstReferences refs).length := by
  obtain ⟨v, hv, _⟩ := find?_of_mem h
  rw [← getElem?_slotNumber] at hv
  exact (List.getElem?_eq_some_iff.mp hv).1

theorem slotNumber_lt_size (hrefs : Numerable refs) (h : name ∈ names refs) :
    slotNumber refs name < UInt32.size :=
  Nat.lt_of_lt_of_le (slotNumber_lt h) hrefs

/-- Later references do not renumber the names already there. -/
theorem slotNumber_append (h : name ∈ names refs) :
    slotNumber (refs ++ more) name = slotNumber refs name := by
  rw [slotNumber, firstReferences_append, List.findIdx_append]
  exact if_pos (slotNumber_lt h)

theorem slotNumber_snoc_of_notMem {v : Variable} (h : v.name ∉ names refs) :
    slotNumber (refs ++ [v]) v.name = (firstReferences refs).length := by
  have hnone :
      ¬ (firstReferences refs).findIdx (·.name = v.name) < (firstReferences refs).length := by
    rw [List.findIdx_lt_length, ← List.find?_isSome, find?_firstReferences,
      find?_eq_none_iff.mpr h]
    simp
  rw [slotNumber, firstReferences_snoc_of_notMem h, List.findIdx_append, if_neg hnone]
  simp

theorem typeOf_append (types : TypeTable) (h : name ∈ names refs) :
    typeOf types (refs ++ more) name = typeOf types refs name := by
  obtain ⟨v, hv, _⟩ := find?_of_mem h
  simp only [typeOf, List.find?_append, hv, Option.some_or]

theorem typeOf_snoc_of_notMem (types : TypeTable) {v : Variable} (h : v.name ∉ names refs) :
    typeOf types (refs ++ [v]) v.name = v.writtenType? types := by
  simp [typeOf, List.find?_append, find?_eq_none_iff.mpr h]

theorem map_name_firstReferences (refs : List Variable) :
    (firstReferences refs).map (·.name) = (names refs).eraseDups := by
  induction refs using List.reverseRecOn with
  | nil => rfl
  | append_singleton refs v ih =>
    rw [names_append, List.eraseDups_append, ← ih]
    by_cases h : v.name ∈ names refs
    · simp [firstReferences_snoc_of_mem h, List.removeAll, h]
    · simp [firstReferences_snoc_of_notMem h, List.removeAll, h, List.eraseDups_cons]

theorem length_firstReferences (refs : List Variable) :
    (firstReferences refs).length = (names refs).eraseDups.length := by
  rw [← map_name_firstReferences, List.length_map]

theorem firstReferences_sublist (refs : List Variable) : (firstReferences refs).Sublist refs := by
  induction refs with
  | nil => exact List.Sublist.slnil
  | cons v vs ih => exact (List.filter_sublist.trans ih).cons_cons v

theorem firstReferences_nodup (refs : List Variable) :
    ((firstReferences refs).map (·.name)).Nodup := by
  induction refs with
  | nil => exact List.nodup_nil
  | cons v vs ih =>
    rw [firstReferences, List.map_cons, List.nodup_cons]
    constructor
    · simp
    · exact ih.sublist (List.filter_sublist.map _)

/-- The first references stand at the numbers of their names. -/
theorem slotNumber_of_getElem? {i : Nat} {v : Variable} (h : (firstReferences refs)[i]? = some v) :
    slotNumber refs v.name = i := by
  have hmem : v ∈ firstReferences refs := List.mem_of_getElem? h
  have hname : v.name ∈ names refs :=
    List.mem_map_of_mem ((firstReferences_sublist refs).subset hmem)
  obtain ⟨first, hfirst, _, hsame⟩ := find?_of_mem hname
  have hlt : slotNumber refs v.name < ((firstReferences refs).map (·.name)).length := by
    rw [List.length_map]
    exact slotNumber_lt hname
  apply (List.getElem?_inj hlt (firstReferences_nodup refs)).mp
  rw [List.getElem?_map, List.getElem?_map, getElem?_slotNumber, hfirst, h, Option.map_some,
    Option.map_some, hsame]

/-- A name that was not referred to before gets the next number. -/
theorem slotNumber_le_succ (before after : List Variable) (v : Variable) :
    (before = [] → slotNumber (before ++ v :: after) v.name = 0) ∧
      (before ≠ [] → ∃ w ∈ before, slotNumber (before ++ v :: after) v.name ≤
        slotNumber (before ++ v :: after) w.name + 1) := by
  by_cases hmem : v.name ∈ names before
  · obtain ⟨w, _, hw, hname⟩ := find?_of_mem hmem
    constructor
    · rintro rfl
      simp at hmem
    · intro _
      exact ⟨w, hw, by rw [hname]; omega⟩
  · have hnew : slotNumber (before ++ v :: after) v.name = (firstReferences before).length := by
      have hv : v.name ∈ names (before ++ [v]) := by simp
      rw [List.append_cons, slotNumber_append hv, slotNumber_snoc_of_notMem hmem]
    rw [hnew]
    constructor
    · rintro rfl
      rfl
    · intro hne
      -- the last of the first references so far has the number before
      obtain ⟨u, us, rfl⟩ := List.exists_cons_of_ne_nil hne
      obtain ⟨w, hw⟩ : ∃ w, (firstReferences (u :: us)).getLast? = some w := by
        rw [firstReferences]
        exact ⟨_, List.getLast?_eq_some_getLast (List.cons_ne_nil _ _)⟩
      have hwmem : w ∈ u :: us :=
        (firstReferences_sublist _).subset (List.mem_of_getLast? hw)
      rw [List.getLast?_eq_getElem?] at hw
      have hnumber : slotNumber (u :: us ++ v :: after) w.name =
          (firstReferences (u :: us)).length - 1 := by
        rw [slotNumber_append (List.mem_map_of_mem hwmem), slotNumber_of_getElem? hw]
      exact ⟨w, hwmem, by omega⟩

/-- The names of every rule can be numbered. -/
def Goal.Numerable (g : Goal) : Prop := ∀ r ∈ g.rules, Source.Numerable r.references

theorem Goal.Numerable.earlier {g : Goal} (hg : g.Numerable) :
    ∀ o ∈ g.occurrences, Source.Numerable o.earlier := by
  have hfact : ∀ f : Fact, ∀ o ∈ f.occurrences, Source.Numerable o.earlier := by
    intro f o ho
    have hnone : references f.values = [] := by simp [Fact.values, references, Value.references]
    have hempty := occurrencesAfter_earlier o ho
    rw [hnone, List.append_nil, List.prefix_nil] at hempty
    rw [hempty]
    exact Nat.zero_le _
  simp only [occurrences, List.forall_mem_append, List.forall_mem_flatMap]
  exact ⟨⟨fun f _ => hfact f, fun r hr o ho => (hg r hr).mono (occurrencesAfter_earlier o ho)⟩,
    fun f _ => hfact f⟩

end Storyline.Source
