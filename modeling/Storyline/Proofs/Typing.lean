import Storyline.Lowering
import Storyline.Proofs.Occurrence
import Storyline.Proofs.Sequence

/-!
# Types of names and constants

Looking up a type name never fails; it reports an unknown name as the finding says. A constant that
can be typed gets its canonical form: the type of its type name, or else the builtin type of its
literal. An untypable constant is a fault that names the missing type, and nothing is reported.
-/

namespace Storyline

open Source

theorem Diagnostic.addLabel_unless_dummy (d : Diagnostic) (span : Span) (text : String)
    (isPrimary : Bool) : (if span.isDummy then d else d.addLabel ⟨span, text, isPrimary⟩) =
      { d with labels := d.labels ++ labelAt span text isPrimary } := by
  by_cases h : span.isDummy
  · rw [labelAt, if_pos h, if_pos h, List.append_nil]
  · rw [labelAt, if_neg h, if_neg h, Diagnostic.addLabel]

theorem Diagnostic.addPrimaryAt_eq (d : Diagnostic) (span : Span) (text : String) :
    d.addPrimaryAt span text = { d with labels := d.labels ++ labelAt span text true } :=
  d.addLabel_unless_dummy span text true

theorem Diagnostic.typeUnresolved_eq (typeName : String) (span : Span) :
    Diagnostic.typeUnresolved typeName span = unknownType typeName span := by
  rw [Diagnostic.typeUnresolved, Diagnostic.addPrimaryAt_eq]
  rfl

theorem Scope.conflict_eq (types : TypeTable) (b : Binding) (typeName : String) (span : Span) :
    conflict types b typeName span = {
      code := .annotationConflict
      severity := .warning
      message := "variable `" ++ b.slot.name ++ "` is annotated `" ++ typeName ++
        "` but is already bound with " ++ typePhrase types b.slot.type
      labels := labelAt span "annotation ignored" true ++
        labelAt b.firstSpan "first bound here" false
      notes := ["the first annotation of a variable decides its type"] } := by
  have hthere := fun d : Diagnostic => d.addLabel_unless_dummy b.firstSpan "first bound here" false
  simp only [conflict, Diagnostic.addPrimaryAt_eq, Diagnostic.addSecondary, hthere, typePhrase]
  rfl

namespace TypeTable

variable (t : TypeTable) (typeName : String) (span : Span)

@[simp] theorem resolveName_outcome :
    (t.resolveName typeName span).outcome = .ok (t.lookup? typeName) := by
  cases h : t.lookup? typeName with
  | none => simp only [resolveName, h]; rfl
  | some id => simp only [resolveName, h]; rfl

theorem resolveName_diagnostics_of_some {id : TypeId} (h : t.lookup? typeName = some id) :
    (t.resolveName typeName span).diagnostics = [] := by
  simp only [resolveName, h]
  rfl

theorem resolveName_diagnostics_of_none (h : t.lookup? typeName = none) :
    (t.resolveName typeName span).diagnostics = [unknownType typeName span] := by
  simp only [resolveName, h, ← Diagnostic.typeUnresolved_eq]
  rfl

end TypeTable

namespace Source.Constant

def canonical (types : TypeTable) (c : Constant) : Resolved.Constant :=
  match c.typeName with
  | some typeName => ⟨c.literal, types.lookup? typeName, false⟩
  | none => ⟨c.literal, (c.literal.kind.builtinType?.bind types.builtin?).map (·.id), true⟩

variable (ctx : Context)

theorem lower_eq_map (c : Constant) :
    c.lower ctx = (fun typing => ⟨c.literal, typing.type, typing.inferred⟩) <$>
      ctx.types.typing c.typeName c.literal.kind c.span := by
  rw [← bind_pure_comp]
  rfl

theorem lower_outcome_of_untypable {c : Constant} (h : c.Untypable ctx.types) :
    ∃ id, c.literal.kind.builtinType? = some id ∧
      (c.lower ctx).outcome = .error (.missingBuiltin id c.literal.kind) := by
  obtain ⟨hname, hkind, hbuiltin⟩ := h
  cases htype : c.literal.kind.builtinType? with
  | none => cases hk : c.literal.kind <;> simp_all [Literal.Kind.builtinType?]
  | some id =>
    rw [htype, Option.bind_some] at hbuiltin
    refine ⟨id, rfl, ?_⟩
    simp only [lower_eq_map, Run.outcome_map, TypeTable.typing, hname, TypeTable.inferType, htype,
      hbuiltin]
    rfl

theorem exists_builtin?_of_typable {types : TypeTable} {c : Constant} {id : TypeId}
    (hname : c.typeName = none) (h : ¬ c.Untypable types)
    (htype : c.literal.kind.builtinType? = some id) : ∃ e, types.builtin? id = some e := by
  cases hentry : types.builtin? id with
  | some e => exact ⟨e, rfl⟩
  | none =>
    have hkind : c.literal.kind ≠ .unknown := by
      intro hk
      rw [hk] at htype
      cases htype
    exact absurd ⟨hname, hkind, by rw [htype, Option.bind_some, hentry]⟩ h

theorem inferType_of_typable {c : Constant} (hname : c.typeName = none)
    (h : ¬ c.Untypable ctx.types) :
    ctx.types.inferType c.literal.kind =
      .ok ((c.literal.kind.builtinType?.bind ctx.types.builtin?).map (·.id)) := by
  rw [TypeTable.inferType]
  cases htype : c.literal.kind.builtinType? with
  | none => rfl
  | some id =>
    obtain ⟨e, he⟩ := exists_builtin?_of_typable hname h htype
    simp only [he, Option.bind_some, Option.map_some]

theorem lower_outcome_of_typable {c : Constant} (h : ¬ c.Untypable ctx.types) :
    (c.lower ctx).outcome = .ok (c.canonical ctx.types) := by
  rw [lower_eq_map, Run.outcome_map, canonical]
  cases hname : c.typeName with
  | some typeName =>
    simp only [TypeTable.typing, Run.outcome_map, TypeTable.resolveName_outcome]
    rfl
  | none =>
    simp only [TypeTable.typing, Run.outcome_map, inferType_of_typable ctx hname h]
    rfl

theorem lower_diagnostics (earlier : List Variable) (c : Constant) :
    (c.lower ctx).diagnostics = Occurrence.findings ctx ⟨earlier, .constant c⟩ := by
  rw [lower_eq_map, Run.diagnostics_map, Occurrence.findings, Value.typeName]
  cases hname : c.typeName with
  | none =>
    simp only [TypeTable.typing, Run.diagnostics_map]
    cases ctx.types.inferType c.literal.kind <;> rfl
  | some typeName =>
    simp only [TypeTable.typing, Run.diagnostics_map]
    cases hlookup : ctx.types.lookup? typeName with
    | none => exact TypeTable.resolveName_diagnostics_of_none _ _ _ hlookup
    | some type => exact TypeTable.resolveName_diagnostics_of_some _ _ _ hlookup

end Source.Constant

end Storyline
