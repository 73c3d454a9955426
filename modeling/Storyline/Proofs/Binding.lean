import Storyline.Proofs.FirstReference
import Storyline.Proofs.Typing

/-!
# Binding in the scope of a list of references

`Scope.ofReferences` is the scope that a list of references ought to leave behind, said by first
references alone. Binding one more variable in it never fails and leaves the scope of the longer
list. If the names can be numbered, it gives the variable the number and the type of its first
reference and reports exactly the findings of that occurrence. With more names than numbers, a name
may be found at the slot of another one.
-/

namespace Storyline

open Source

namespace Scope

theorem conflict_of_first (types : TypeTable) (index : UInt32) {first v : Variable}
    (typeName : String) (hname : first.name = v.name) :
    conflict types ⟨⟨index, first.name, first.writtenType? types⟩, first.span⟩ typeName v.span =
      ignoredTypeName types first v typeName := by
  rw [conflict_eq, ignoredTypeName, hname]

theorem reviseType_outcome (ctx : Context) (b : Binding) (typeName : String) (span : Span) :
    (reviseType ctx b typeName span).outcome = .ok () := by
  rw [reviseType, Run.outcome_bind_of_ok (TypeTable.resolveName_outcome _ _ _)]
  cases ctx.types.lookup? typeName with
  | none => rfl
  | some type =>
    dsimp only
    split <;> rfl

def ofReferences (types : TypeTable) (refs : List Variable) : Scope where
  slots := (firstReferences refs).mapIdx fun i v =>
    ⟨UInt32.ofNatClamp i, v.name, v.writtenType? types⟩
  firstSpans := (firstReferences refs).map (·.span)
  positions := ((firstReferences refs).mapIdx fun i v => (v.name, UInt32.ofNatClamp i)).reverse

variable (types : TypeTable) (refs : List Variable)

theorem ofReferences_size : (ofReferences types refs).size = (firstReferences refs).length :=
  List.length_mapIdx

theorem ofReferences_snoc_of_mem {v : Variable} (h : v.name ∈ names refs) :
    ofReferences types (refs ++ [v]) = ofReferences types refs := by
  rw [ofReferences, ofReferences, firstReferences_snoc_of_mem h]

theorem ofReferences_snoc_of_notMem {v : Variable} (h : v.name ∉ names refs) :
    ofReferences types (refs ++ [v]) = (ofReferences types refs).insert
      ⟨⟨(ofReferences types refs).nextIndex, v.name, v.writtenType? types⟩, v.span⟩ := by
  rw [insert, nextIndex, ofReferences_size, ofReferences, firstReferences_snoc_of_notMem h,
    List.mapIdx_append, List.mapIdx_append, List.reverse_append, List.map_append]
  simp [ofReferences]

variable {refs} in
theorem ofReferences_lookup_of_notMem {name : String} (h : name ∉ names refs) :
    (ofReferences types refs).positions.lookup name = none := by
  rw [List.lookup_eq_none_iff]
  intro p hp
  obtain ⟨i, hi, rfl⟩ := List.mem_mapIdx.mp (List.mem_reverse.mp hp)
  have hmem := (firstReferences_sublist refs).subset (List.getElem_mem hi)
  simp only [bne_iff_ne]
  rintro rfl
  exact h (List.mem_map_of_mem hmem)

variable {refs} in
theorem ofReferences_lookup_of_mem {name : String} (h : name ∈ names refs) :
    (ofReferences types refs).positions.lookup name =
      some (UInt32.ofNatClamp (slotNumber refs name)) := by
  induction refs using List.reverseRecOn with
  | nil => simp at h
  | append_singleton refs v ih =>
    -- only a first reference adds a pair, and it hides no older one
    have hname : name ≠ v.name → name ∈ names refs := by simpa [or_iff_not_imp_right] using h
    by_cases hv : v.name ∈ names refs
    · have hmem : name ∈ names refs := by
        by_cases hsame : name = v.name
        · rwa [hsame]
        · exact hname hsame
      rw [ofReferences_snoc_of_mem types refs hv, ih hmem, slotNumber_append hmem]
    · rw [ofReferences_snoc_of_notMem types refs hv, insert, nextIndex, ofReferences_size,
        List.lookup_cons]
      by_cases hsame : name = v.name
      · subst hsame
        rw [beq_self_eq_true, slotNumber_snoc_of_notMem hv]
      · rw [beq_false_of_ne hsame, slotNumber_append (hname hsame)]
        exact ih (hname hsame)

theorem ofReferences_binding? (position : Nat) :
    (ofReferences types refs).binding? position = (firstReferences refs)[position]?.map fun v =>
      ⟨⟨UInt32.ofNatClamp position, v.name, v.writtenType? types⟩, v.span⟩ := by
  simp only [binding?, ofReferences, List.getElem?_mapIdx, List.getElem?_map]
  cases (firstReferences refs)[position]? <;> rfl

variable {refs}

theorem ofReferences_find?_of_notMem {name : String} (h : name ∉ names refs) :
    (ofReferences types refs).find? name = none := by
  rw [find?, ofReferences_lookup_of_notMem types h, Option.bind_none]

/-- A name that has been referred to is found, and what is found is the first reference to it unless
the numbers have run out. -/
theorem ofReferences_find?_of_mem {name : String} (h : name ∈ names refs) :
    ∃ first, (ofReferences types refs).find? name =
        some ⟨⟨UInt32.ofNatClamp (slotNumber refs name), first.name, first.writtenType? types⟩,
          first.span⟩ ∧
      (Numerable refs → refs.find? (·.name = name) = some first) := by
  have hlt : (UInt32.ofNatClamp (slotNumber refs name)).toNat < (firstReferences refs).length :=
    Nat.lt_of_le_of_lt (toNat_ofNatClamp_le _) (slotNumber_lt h)
  obtain ⟨first, hget⟩ : ∃ first, (firstReferences refs)[
      (UInt32.ofNatClamp (slotNumber refs name)).toNat]? = some first :=
    ⟨_, List.getElem?_eq_getElem hlt⟩
  refine ⟨first, ?_, ?_⟩
  · rw [find?, ofReferences_lookup_of_mem types h, Option.bind_some, ofReferences_binding?, hget,
      UInt32.ofNatClamp_toNat]
    rfl
  · intro hrefs
    rw [← hget, UInt32.toNat_ofNatClamp_of_lt (slotNumber_lt_size hrefs h), getElem?_slotNumber]

end Scope

def Source.Variable.canonical (types : TypeTable) (refs : List Variable) (v : Variable) :
    Resolved.Variable :=
  ⟨UInt32.ofNatClamp (slotNumber refs v.name), typeOf types refs v.name⟩

namespace Scope

variable (ctx : Context) (refs : List Variable) (v : Variable)

theorem resolveName?_outcome :
    (ctx.types.resolveName? v.typeName v.span).outcome = .ok (v.writtenType? ctx.types) := by
  cases h : v.typeName with
  | none => simp [TypeTable.resolveName?, Variable.writtenType?, h]
  | some typeName => simp [TypeTable.resolveName?, Variable.writtenType?, h]

variable {refs v}

theorem canonical_snoc_of_find? (types : TypeTable) {first : Variable}
    (hfirst : refs.find? (·.name = v.name) = some first) :
    v.canonical types (refs ++ [v]) =
      ⟨UInt32.ofNatClamp (slotNumber refs v.name), first.writtenType? types⟩ := by
  have hmem := mem_names_of_find? hfirst
  rw [Variable.canonical, slotNumber_append hmem, typeOf_append types hmem, typeOf, hfirst,
    Option.bind_some]

section AnyScope

variable (s : Scope) {b : Binding}

theorem bind_of_find? (hfind : s.find? v.name = some b) :
    (s.bind ctx v).outcome = .ok (b.reference, s) ∧
      (s.bind ctx v).effects =
        v.typeName.elim [] fun typeName => (reviseType ctx b typeName v.span).effects := by
  rw [bind, hfind]
  cases v.typeName with
  | none => exact ⟨rfl, rfl⟩
  | some typeName =>
    dsimp only
    rw [Run.bind_of_ok (reviseType_outcome ctx b typeName v.span)]
    exact ⟨rfl, List.append_nil _⟩

theorem bind_of_find?_eq_none (hfind : s.find? v.name = none) :
    (s.bind ctx v).outcome = .ok (⟨s.nextIndex, v.writtenType? ctx.types⟩,
        s.insert ⟨⟨s.nextIndex, v.name, v.writtenType? ctx.types⟩, v.span⟩) ∧
      (s.bind ctx v).effects = (ctx.types.resolveName? v.typeName v.span).effects ++
        [.note (.variableBound ⟨s.nextIndex, v.name, v.writtenType? ctx.types⟩)] := by
  rw [bind, hfind]
  dsimp only
  rw [Run.bind_of_ok (resolveName?_outcome ctx v)]
  exact ⟨rfl, rfl⟩

end AnyScope

/-- Binding never fails, and the scope it leaves is known in any case. -/
theorem bind_outcome (refs : List Variable) (v : Variable) :
    ∃ x, ((ofReferences ctx.types refs).bind ctx v).outcome =
        .ok (x, ofReferences ctx.types (refs ++ [v])) ∧
      (Numerable refs → x = v.canonical ctx.types (refs ++ [v])) := by
  by_cases h : v.name ∈ names refs
  · obtain ⟨first, hfind, hfirst⟩ := ofReferences_find?_of_mem ctx.types h
    refine ⟨_, ?_, fun hrefs => (canonical_snoc_of_find? ctx.types (hfirst hrefs)).symm⟩
    rw [(bind_of_find? ctx _ hfind).1, ofReferences_snoc_of_mem ctx.types refs h]
    rfl
  · have hfind := ofReferences_find?_of_notMem ctx.types h
    refine ⟨v.canonical ctx.types (refs ++ [v]), ?_, fun _ => rfl⟩
    rw [(bind_of_find?_eq_none ctx _ hfind).1, ofReferences_snoc_of_notMem ctx.types refs h,
      Variable.canonical, slotNumber_snoc_of_notMem h, typeOf_snoc_of_notMem ctx.types h, nextIndex,
      ofReferences_size]

section Findings

theorem reviseType_diagnostics {first : Variable} {typeName : String} (index : UInt32)
    (htype : v.typeName = some typeName) (hfirst : refs.find? (·.name = v.name) = some first) :
    (reviseType ctx ⟨⟨index, first.name, first.writtenType? ctx.types⟩, first.span⟩ typeName
      v.span).diagnostics = Occurrence.findings ctx ⟨refs, .reference v⟩ := by
  have hname : first.name = v.name := by simpa using List.find?_some hfirst
  rw [reviseType, Run.diagnostics_bind_of_ok (TypeTable.resolveName_outcome _ _ _)]
  simp only [Occurrence.findings, Value.typeName, htype, Occurrence.conflicts, Occurrence.first?,
    hfirst]
  cases hlookup : ctx.types.lookup? typeName with
  | none =>
    rw [TypeTable.resolveName_diagnostics_of_none _ _ _ hlookup]
    rfl
  | some type =>
    rw [TypeTable.resolveName_diagnostics_of_some _ _ _ hlookup]
    dsimp only
    rw [conflict_of_first ctx.types index typeName hname]
    split <;> rfl

theorem resolveName?_diagnostics_of_notMem (h : v.name ∉ names refs) :
    (ctx.types.resolveName? v.typeName v.span).diagnostics =
      Occurrence.findings ctx ⟨refs, .reference v⟩ := by
  have hnone := find?_eq_none_iff.mpr h
  simp only [Occurrence.findings, Value.typeName, Occurrence.conflicts, Occurrence.first?, hnone]
  cases htype : v.typeName with
  | none => rfl
  | some typeName =>
    dsimp only [TypeTable.resolveName?]
    cases hlookup : ctx.types.lookup? typeName with
    | none => exact TypeTable.resolveName_diagnostics_of_none _ _ _ hlookup
    | some type => exact TypeTable.resolveName_diagnostics_of_some _ _ _ hlookup

theorem bind_diagnostics (hrefs : Numerable refs) (v : Variable) :
    ((ofReferences ctx.types refs).bind ctx v).diagnostics =
      Occurrence.findings ctx ⟨refs, .reference v⟩ := by
  by_cases h : v.name ∈ names refs
  · -- only the type name of a later reference can be worth a report
    obtain ⟨first, hfind, hfirst⟩ := ofReferences_find?_of_mem ctx.types h
    rw [Run.diagnostics, (bind_of_find? ctx _ hfind).2]
    cases htype : v.typeName with
    | none => exact (Occurrence.findings_of_unnamed (o := ⟨refs, .reference v⟩) ctx htype).symm
    | some typeName => exact reviseType_diagnostics ctx _ htype (hfirst hrefs)
  · have hfind := ofReferences_find?_of_notMem ctx.types h
    rw [Run.diagnostics, (bind_of_find?_eq_none ctx _ hfind).2, diagnosticsOf_append,
      ← resolveName?_diagnostics_of_notMem ctx h]
    exact List.append_nil _

end Findings

end Scope

end Storyline
