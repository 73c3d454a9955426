import Mathlib.Data.List.Basic
import Storyline.Proofs.Canonical

/-!
# The run of a goal

Lowering a goal treats its occurrences in their order and notes the end of each rule; what it gives
is the canonical form of the goal. As far as reports and the outcome go, the notes can be left out:
the run is the treatment of the occurrences and nothing else. So there are two ways it can go. If
every constant can be typed, the run succeeds and reports the findings of all the occurrences; else
it stops at the first constant that cannot, with the findings before it. All this is said of goals
whose variables can be numbered.
-/

namespace Storyline.Source

variable (ctx : Context)

theorem Constant.lower_eq (c : Constant) :
    c.lower ctx = do
      Occurrence.treat ctx ⟨[], .constant c⟩
      return c.canonical ctx.types := by
  have htreat : Occurrence.treat ctx ⟨[], .constant c⟩ = (c.lower ctx).discard := by
    simp only [Occurrence.treat, Value.lower_constant, Run.discard, Run.effects_map,
      Run.outcome_map]
    cases (c.lower ctx).outcome <;> rfl
  rw [htreat]
  apply Run.eq_discard_bind
  intro b hb
  by_cases h : c.Untypable ctx.types
  · obtain ⟨id, _, herror⟩ := lower_outcome_of_untypable ctx h
    rw [herror] at hb
    cases hb
  · rw [lower_outcome_of_typable ctx h] at hb
    exact (Except.ok.inj hb).symm

theorem Fact.occurrences_eq (f : Fact) :
    f.occurrences = f.elements.map fun c => ⟨[], .constant c⟩ := by
  rw [occurrences, values]
  induction f.elements with
  | nil => rfl
  | cons c cs ih =>
    simp only [List.map_cons, occurrencesAfter, Value.references, List.nil_append, ih]

theorem Fact.lower_eq (f : Fact) :
    f.lower ctx = do
      Run.all (f.occurrences.map (Occurrence.treat ctx))
      return f.canonical ctx.types := by
  have helements : Run.forEach (Constant.lower ctx) f.elements = do
      Run.all (f.elements.flatMap fun c => [Occurrence.treat ctx ⟨[], .constant c⟩])
      return f.elements.map (Constant.canonical ctx.types) := by
    apply Run.forEach_eq_all
    intro c _
    rw [Run.all_singleton, Constant.lower_eq]
  rw [lower, helements, occurrences_eq, List.map_map, ← List.map_eq_flatMap]
  simp only [bind_assoc, pure_bind]
  rfl

/-- What lowering reports at an occurrence. -/
def Occurrence.report (o : Occurrence) : Run Fault Unit :=
  (o.treat ctx).restrict Run.isReport

theorem Occurrence.report_diagnostics {o : Occurrence} (ho : Numerable o.earlier) :
    (o.report ctx).diagnostics = o.findings ctx := by
  rw [report, Run.diagnostics_restrict]
  exact Value.lower_diagnostics ctx ho o.value

theorem Occurrence.report_outcome_of_typable {o : Occurrence} (h : ¬ o.value.Untypable ctx.types) :
    (o.report ctx).outcome = .ok () := by
  obtain ⟨x, hx, _⟩ := Value.lower_outcome_of_typable ctx
    (List.prefix_rfl : o.earlier ++ o.value.references <+: _) h
  rw [report, Run.restrict_outcome, treat, Run.discard_outcome, hx]
  rfl

theorem Occurrence.report_outcome_of_untypable {o : Occurrence} (h : o.value.Untypable ctx.types) :
    ∃ c id, o.value = .constant c ∧ c.literal.kind.builtinType? = some id ∧
      (o.report ctx).outcome = .error (.missingBuiltin id c.literal.kind) := by
  obtain ⟨c, id, hvalue, htype, herror⟩ := Value.lower_outcome_of_untypable ctx
    (.ofReferences ctx.types o.earlier) h
  refine ⟨c, id, hvalue, htype, ?_⟩
  rw [report, Run.restrict_outcome, treat, Run.discard_outcome, herror]
  rfl

/-- Nothing is reported where the run stops. -/
theorem Occurrence.findings_of_untypable {o : Occurrence} (h : o.value.Untypable ctx.types) :
    o.findings ctx = [] := by
  obtain ⟨earlier, value⟩ := o
  cases value with
  | constant c => simp only [findings, Value.typeName, h.1]
  | reference v => exact h.elim

theorem Fact.lower_reports (f : Fact) :
    (f.lower ctx).restrict Run.isReport = do
      Run.all (f.occurrences.map (Occurrence.report ctx))
      return f.canonical ctx.types := by
  rw [lower_eq, Run.restrict_bind, Run.restrict_all, List.map_map]
  rfl

theorem Rule.lower_reports (id : GoalId) (position : Nat) {r : Rule} (hr : Numerable r.references) :
    (r.lower ctx id position).restrict Run.isReport = do
      Run.all (r.occurrences.map (Occurrence.report ctx))
      return r.canonical ctx.types id := by
  rw [lower_eq ctx id position hr, Run.restrict_bind, Run.restrict_all, List.map_map]
  rfl

theorem forEach_fact_reports (fs : List Fact) :
    (Run.forEach (Fact.lower ctx) fs).restrict Run.isReport = do
      Run.all ((fs.flatMap Fact.occurrences).map (Occurrence.report ctx))
      return fs.map (Fact.canonical ctx.types) := by
  rw [Run.restrict_forEach, List.map_flatMap]
  exact Run.forEach_eq_all fun f _ => f.lower_reports ctx

theorem forEach_rule_reports (id : GoalId) {rs : List Rule}
    (hrs : ∀ r ∈ rs, Numerable r.references) :
    (Run.forEach (fun (r, position) => Rule.lower ctx id position r) rs.zipIdx).restrict
        Run.isReport = do
      Run.all ((rs.flatMap Rule.occurrences).map (Occurrence.report ctx))
      return rs.map (Rule.canonical ctx.types id) := by
  rw [Run.restrict_forEach, List.map_flatMap]
  apply Run.forEach_zipIdx_eq_all
  intro p hp
  exact Rule.lower_reports ctx id p.2 (hrs p.1 (List.fst_mem_of_mem_zipIdx hp))

namespace Goal

variable {g : Goal} (id : GoalId)

theorem resolve_reports (hg : g.Numerable) :
    (g.resolve ctx id).restrict Run.isReport = do
      Run.all (g.occurrences.map (Occurrence.report ctx))
      return g.canonical ctx.types id := by
  simp only [resolve, Run.restrict_bind, forEach_fact_reports, forEach_rule_reports ctx id hg,
    occurrences, List.map_append, Run.all_append, bind_assoc, pure_bind]
  rfl

theorem resolve_outcome (hg : g.Numerable) :
    (g.resolve ctx id).outcome = (do
      Run.all (g.occurrences.map (Occurrence.report ctx))
      return g.canonical ctx.types id : Run Fault Resolved.Goal).outcome := by
  rw [← resolve_reports ctx id hg, Run.restrict_outcome]

theorem resolve_diagnostics (hg : g.Numerable) :
    (g.resolve ctx id).diagnostics =
      (Run.all (g.occurrences.map (Occurrence.report ctx))).diagnostics := by
  rw [← Run.diagnostics_restrict, resolve_reports ctx id hg, bind_pure_comp, Run.diagnostics_map]

theorem flatMap_report_diagnostics {os : List Occurrence}
    (hos : ∀ o ∈ os, Source.Numerable o.earlier) :
    diagnosticsOf ((os.map (Occurrence.report ctx)).flatMap Run.effects) =
      os.flatMap (Occurrence.findings ctx) := by
  rw [Run.diagnosticsOf_flatMap, List.flatMap_map]
  exact List.flatMap_congr fun o ho => Occurrence.report_diagnostics ctx (hos o ho)

theorem report_outcomes_of_typable {os : List Occurrence}
    (h : ∀ o ∈ os, ¬ o.value.Untypable ctx.types) :
    ∀ r ∈ os.map (Occurrence.report ctx), r.outcome = .ok () := by
  intro r hr
  obtain ⟨o, ho, rfl⟩ := List.mem_map.mp hr
  exact Occurrence.report_outcome_of_typable ctx (h o ho)

/-- Every constant of the goal can be typed. -/
theorem resolve_of_typable (hg : g.Numerable)
    (h : ∀ o ∈ g.occurrences, ¬ o.value.Untypable ctx.types) :
    (g.resolve ctx id).outcome = .ok (g.canonical ctx.types id) ∧
      (g.resolve ctx id).diagnostics = g.occurrences.flatMap (Occurrence.findings ctx) := by
  have hall := Run.all_of_ok (report_outcomes_of_typable ctx h)
  constructor
  · rw [resolve_outcome ctx id hg, Run.outcome_bind_of_ok (congrArg Run.outcome hall)]
    rfl
  · rw [resolve_diagnostics ctx id hg, hall]
    exact flatMap_report_diagnostics ctx hg.earlier

/-- The constant of `o` is the first one of the goal that cannot be typed. -/
theorem resolve_of_untypable (hg : g.Numerable) {before after : List Occurrence} {o : Occurrence}
    (hsplit : g.occurrences = before ++ o :: after)
    (hbefore : ∀ p ∈ before, ¬ p.value.Untypable ctx.types) (ho : o.value.Untypable ctx.types) :
    (∃ c type, o.value = .constant c ∧ c.literal.kind.builtinType? = some type ∧
      (g.resolve ctx id).outcome = .error (.missingBuiltin type c.literal.kind)) ∧
      (g.resolve ctx id).diagnostics = before.flatMap (Occurrence.findings ctx) := by
  obtain ⟨c, type, hvalue, htype, herror⟩ := Occurrence.report_outcome_of_untypable ctx ho
  have hall := Run.all_of_error (report_outcomes_of_typable ctx hbefore) herror
    (after.map (Occurrence.report ctx))
  rw [← List.map_cons, ← List.map_append, ← hsplit] at hall
  have hearlier := hg.earlier
  simp only [hsplit, List.forall_mem_append, List.forall_mem_cons] at hearlier
  refine ⟨⟨c, type, hvalue, htype, ?_⟩, ?_⟩
  · rw [resolve_outcome ctx id hg, Run.bind_of_error (congrArg Run.outcome hall)]
  · have hfindings := (Occurrence.report_diagnostics ctx hearlier.2.1).trans
      (Occurrence.findings_of_untypable ctx ho)
    rw [resolve_diagnostics ctx id hg, hall, Run.diagnostics, diagnosticsOf_append,
      flatMap_report_diagnostics ctx hearlier.1]
    exact (congrArg (_ ++ ·) hfindings).trans (List.append_nil _)

end Goal

end Storyline.Source
