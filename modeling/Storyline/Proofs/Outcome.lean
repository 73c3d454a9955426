import Storyline.Proofs.GoalRun
import Storyline.Proofs.Limits

/-!
# Outcome and reports of lowering

Lowering a goal resolves it and checks the result. The check reports nothing, and it passes for
every goal within the limits, so what lowering gives and what it reports is decided by the
occurrences of the goal: all of them have their findings reported, unless there is a constant that
cannot be typed. Then the first such constant is the fault, and only the findings before it are
reported. Lowering without the check is the same run.

Nothing that is too large gets past the check: a goal that is lowered is within the limits.
-/

namespace Storyline.Source.Goal

variable {ctx : Context} {id : GoalId} {g : Goal}

/-- The check of a resolved goal, as a part of lowering: it reports nothing. -/
theorem check_diagnostics (r : Resolved.Goal) :
    (do
      Run.ofExcept r.check
      Run.note (.goalLowered (r.rules.flatMap (·.slots)).length)
      return r : Run Fault Resolved.Goal).diagnostics = [] := by
  cases r.check <;> rfl

theorem check_outcome (r : Resolved.Goal) :
    (do
      Run.ofExcept r.check
      Run.note (.goalLowered (r.rules.flatMap (·.slots)).length)
      return r : Run Fault Resolved.Goal).outcome = r.check.map fun _ => r := by
  cases r.check <;> rfl

theorem lower_diagnostics_eq_resolve (ctx : Context) (id : GoalId) (g : Goal) :
    (g.lower ctx id).diagnostics = (g.resolve ctx id).diagnostics := by
  rw [lower, Run.diagnostics_within]
  cases hresolve : (g.resolve ctx id).outcome with
  | error e =>
    rw [Run.bind_of_error hresolve]
    rfl
  | ok r => rw [Run.diagnostics_bind_of_ok hresolve, check_diagnostics, List.append_nil]

theorem lower_outcome_eq (ctx : Context) (id : GoalId) (g : Goal) :
    (g.lower ctx id).outcome = (g.resolve ctx id).outcome.bind fun r => r.check.map fun _ => r := by
  change (g.resolve ctx id >>= _).outcome = _
  cases hresolve : (g.resolve ctx id).outcome with
  | error e =>
    rw [Run.bind_of_error hresolve]
    rfl
  | ok r =>
    rw [Run.outcome_bind_of_ok hresolve, check_outcome]
    rfl

theorem lower_of_typable (hg : g.WithinLimits)
    (h : ∀ o ∈ g.occurrences, ¬ o.value.Untypable ctx.types) :
    (g.lower ctx id).outcome = .ok (g.canonical ctx.types id) := by
  have hcheck : (g.canonical ctx.types id).check = .ok () :=
    (Resolved.Goal.check_eq_ok_iff _).mpr ((g.canonical_wellFormed_iff ctx.types id).mpr hg)
  rw [lower_outcome_eq, (resolve_of_typable ctx id hg.numerable h).1, Except.bind, hcheck]
  rfl

theorem lower_diagnostics_of_typable (hg : g.Numerable)
    (h : ∀ o ∈ g.occurrences, ¬ o.value.Untypable ctx.types) :
    (g.lower ctx id).diagnostics = g.occurrences.flatMap (Occurrence.findings ctx) := by
  rw [lower_diagnostics_eq_resolve]
  exact (resolve_of_typable ctx id hg h).2

theorem lower_of_untypable (hg : g.Numerable) {before after : List Occurrence} {o : Occurrence}
    (hsplit : g.occurrences = before ++ o :: after)
    (hbefore : ∀ p ∈ before, ¬ p.value.Untypable ctx.types) (ho : o.value.Untypable ctx.types) :
    (∃ c type, o.value = .constant c ∧ c.literal.kind.builtinType? = some type ∧
      (g.lower ctx id).outcome = .error (.missingBuiltin type c.literal.kind)) ∧
      (g.lower ctx id).diagnostics = before.flatMap (Occurrence.findings ctx) := by
  obtain ⟨⟨c, type, hvalue, htype, herror⟩, hreports⟩ :=
    resolve_of_untypable ctx id hg hsplit hbefore ho
  refine ⟨⟨c, type, hvalue, htype, ?_⟩, ?_⟩
  · rw [lower_outcome_eq, herror, Except.bind]
  · rw [lower_diagnostics_eq_resolve, hreports]

/-- Whatever else is wrong with a goal, the check sees that a rule has too many variables. -/
theorem numerable_of_check {r : Resolved.Goal} (h : (g.resolve ctx id).outcome = .ok r)
    (hcheck : r.check = .ok ()) : g.Numerable := by
  have hwf := (Resolved.Goal.check_eq_ok_iff r).mp hcheck
  obtain ⟨initFacts, _, h⟩ := Run.exists_of_bind_ok h
  obtain ⟨rules, hrules, h⟩ := Run.exists_of_bind_ok h
  obtain ⟨exitFacts, _, h⟩ := Run.exists_of_bind_ok h
  obtain rfl := Except.ok.inj h
  intro rule hrule
  rw [← List.zipIdx_map_fst 0 g.rules] at hrule
  obtain ⟨p, hp, rfl⟩ := List.mem_map.mp hrule
  obtain ⟨s, hs, hlower⟩ := Run.exists_of_forEach_ok hrules p hp
  have hdense := (hwf.rule s hs).dense
  rw [Rule.slots_of_lower hlower] at hdense
  exact (slots_dense_iff ctx.types p.1.references).mp hdense

theorem lower_of_ok {r : Resolved.Goal} (h : (g.lower ctx id).outcome = .ok r) :
    r = g.canonical ctx.types id ∧ g.WithinLimits ∧
      ∀ o ∈ g.occurrences, ¬ o.value.Untypable ctx.types := by
  rw [lower_outcome_eq] at h
  obtain ⟨hresolve, hcheck⟩ : (g.resolve ctx id).outcome = .ok r ∧ r.check = .ok () := by
    cases hresolve : (g.resolve ctx id).outcome with
    | error e =>
      rw [hresolve] at h
      cases h
    | ok r' =>
      rw [hresolve, Except.bind] at h
      cases hcheck : r'.check with
      | error e =>
        rw [hcheck] at h
        cases h
      | ok u =>
        rw [hcheck] at h
        obtain rfl := Except.ok.inj h
        exact ⟨rfl, hcheck⟩
  have hg := numerable_of_check hresolve hcheck
  rcases typable_or_first_untypable ctx.types g.occurrences with htyped | hfirst
  · obtain rfl : g.canonical ctx.types id = r :=
      Except.ok.inj ((resolve_of_typable ctx id hg htyped).1.symm.trans hresolve)
    have hwf := (Resolved.Goal.check_eq_ok_iff _).mp hcheck
    exact ⟨rfl, (g.canonical_wellFormed_iff ctx.types id).mp hwf, htyped⟩
  · obtain ⟨before, o, after, hsplit, hbefore, ho⟩ := hfirst
    obtain ⟨⟨c, type, _, _, herror⟩, _⟩ := resolve_of_untypable ctx id hg hsplit hbefore ho
    rw [herror] at hresolve
    cases hresolve

/-- A goal that is lowered has the findings of all its occurrences reported, in their order, and
nothing else. -/
theorem lower_reports_findings {r : Resolved.Goal} (h : (g.lower ctx id).outcome = .ok r) :
    (g.lower ctx id).diagnostics = g.occurrences.flatMap (Occurrence.findings ctx) := by
  obtain ⟨_, hg, htyped⟩ := lower_of_ok h
  exact lower_diagnostics_of_typable hg.numerable htyped

theorem clash_reports :
    (clash.lower { policy := .warn } ⟨7⟩).outcome = .ok (clash.canonical .builtins ⟨7⟩) ∧
      (clash.lower { policy := .warn } ⟨7⟩).diagnostics = [
        { code := .typeUnresolved, severity := .error, message := "type `NOPE` does not exist"
          labels := [⟨⟨3, 7⟩, "unknown type", true⟩] },
        { code := .annotationConflict, severity := .warning
          message := "variable `x` is annotated `INTEGER` but is already bound with no type"
          labels := [⟨⟨20, 21⟩, "annotation ignored", true⟩, ⟨⟨10, 11⟩, "first bound here", false⟩]
          notes := ["the first annotation of a variable decides its type"] },
        { code := .typeUnresolved, severity := .error
          message := "type `GONE` does not exist" }] := by
  have h : (clash.lower { policy := .warn } ⟨7⟩).outcome =
      .ok (clash.canonical .builtins ⟨7⟩) := rfl
  exact ⟨h, (lower_reports_findings h).trans (by decide)⟩

/-- The faults of lowering: there is one exactly if a constant cannot be typed. It names the builtin
type that the first such constant lacks, and what stands before that constant has been reported. -/
theorem lower_fault (hg : g.WithinLimits) :
    ((∃ e, (g.lower ctx id).outcome = .error e) ↔
      ∃ o ∈ g.occurrences, o.value.Untypable ctx.types) ∧
    (∀ e, (g.lower ctx id).outcome = .error e →
      ∃ before earlier c after type,
        g.occurrences = before ++ ⟨earlier, .constant c⟩ :: after ∧
        (∀ p ∈ before, ¬ p.value.Untypable ctx.types) ∧ c.Untypable ctx.types ∧
        c.literal.kind.builtinType? = some type ∧ e = .missingBuiltin type c.literal.kind ∧
        (g.lower ctx id).diagnostics = before.flatMap (Occurrence.findings ctx)) ∧
    ((∀ type ∈ [TypeId.integer, .real, .string, .guidString], (ctx.types.builtin? type).isSome) →
      ∃ r, (g.lower ctx id).outcome = .ok r) := by
  refine ⟨?_, ?_, ?_⟩
  · constructor
    · rintro ⟨e, he⟩
      by_contra hnone
      have htyped : ∀ o ∈ g.occurrences, ¬ o.value.Untypable ctx.types :=
        fun o ho hu => hnone ⟨o, ho, hu⟩
      rw [lower_of_typable hg htyped] at he
      cases he
    · rintro ⟨o, ho, hu⟩
      rcases typable_or_first_untypable ctx.types g.occurrences with htyped | hfirst
      · exact absurd hu (htyped o ho)
      · obtain ⟨before, p, after, hsplit, hbefore, hp⟩ := hfirst
        obtain ⟨⟨c, type, _, _, herror⟩, _⟩ := lower_of_untypable hg.numerable hsplit hbefore hp
        exact ⟨_, herror⟩
  · intro e he
    rcases typable_or_first_untypable ctx.types g.occurrences with htyped | hfirst
    · rw [lower_of_typable hg htyped] at he
      cases he
    · obtain ⟨before, ⟨earlier, value⟩, after, hsplit, hbefore, hp⟩ := hfirst
      obtain ⟨⟨c, type, rfl, htype, herror⟩, hreports⟩ :=
        lower_of_untypable hg.numerable hsplit hbefore hp
      rw [herror] at he
      exact ⟨before, earlier, c, after, type, hsplit, hbefore, hp, htype,
        (Except.error.inj he).symm, hreports⟩
  · intro hbuiltins
    exact ⟨_, lower_of_typable hg fun o _ => o.value.typable_of_builtins hbuiltins⟩

/-- Without any type, the text at the end is the first constant that cannot be typed. -/
theorem clash_fault :
    clash.WithinLimits ∧ (∃ e, (clash.lower { types := .empty } ⟨7⟩).outcome = .error e) ∧
      (clash.lower { types := .empty } ⟨7⟩).outcome = .error (.missingBuiltin .string .text) ∧
      (clash.lower { types := .empty } ⟨7⟩).diagnostics.map (·.message) =
        ["type `NOPE` does not exist", "type `STRING` does not exist",
          "type `INTEGER` does not exist", "type `GONE` does not exist"] := by
  have hg : clash.WithinLimits := by decide
  exact ⟨hg, (lower_fault hg).1.mpr (by decide), rfl, by decide⟩

/-- The resolved goal is handed out as it is. -/
def lowerUnchecked (ctx : Context) (id : GoalId) (g : Goal) : Run Fault Resolved.Goal :=
  Run.within (g.region id) do
    let resolved ← g.resolve ctx id
    Run.note (.goalLowered (resolved.rules.flatMap (·.slots)).length)
    return resolved

theorem resolve_of_ok (hg : g.Numerable) {r : Resolved.Goal}
    (h : (g.resolve ctx id).outcome = .ok r) : r = g.canonical ctx.types id := by
  rw [resolve_outcome ctx id hg] at h
  exact (Run.eq_of_bind_pure h).2.symm

theorem check_of_resolve (hg : g.WithinLimits) {r : Resolved.Goal}
    (h : (g.resolve ctx id).outcome = .ok r) : r.check = .ok () := by
  obtain rfl := resolve_of_ok hg.numerable h
  rw [Resolved.Goal.check_eq_ok_iff, canonical_wellFormed_iff]
  exact hg

/-- A check that passes leaves no mark on the run. -/
theorem lower_eq_lowerUnchecked
    (h : ∀ r, (g.resolve ctx id).outcome = .ok r → r.check = .ok ()) :
    g.lower ctx id = g.lowerUnchecked ctx id := by
  rw [lower, lowerUnchecked]
  cases hresolve : (g.resolve ctx id).outcome with
  | error e => rw [Run.bind_of_error hresolve, Run.bind_of_error hresolve]
  | ok r =>
    have hcheck : (Run.ofExcept r.check : Run Fault Unit) = pure () := by
      rw [h r hresolve]
      rfl
    rw [Run.bind_of_ok hresolve, Run.bind_of_ok hresolve, hcheck, pure_bind]

/-- What lowering builds within the limits passes the check. So lowering never fails as malformed,
and in outcome, reports and notes it is the run without the check. -/
theorem lower_never_malformed (hg : g.WithinLimits) :
    (∀ r, (g.resolve ctx id).outcome = .ok r → r.check = .ok ()) ∧
    (∀ goal violation, (g.lower ctx id).outcome ≠ .error (.malformed goal violation)) ∧
    g.lower ctx id = g.lowerUnchecked ctx id := by
  have hcheck : ∀ r, (g.resolve ctx id).outcome = .ok r → r.check = .ok () :=
    fun r => check_of_resolve hg
  refine ⟨hcheck, ?_, lower_eq_lowerUnchecked hcheck⟩
  intro goal violation hlower
  rcases typable_or_first_untypable ctx.types g.occurrences with htyped | hfirst
  · rw [lower_of_typable hg htyped] at hlower
    cases hlower
  · obtain ⟨before, o, after, hsplit, hbefore, ho⟩ := hfirst
    obtain ⟨⟨c, type, _, _, herror⟩, _⟩ := lower_of_untypable hg.numerable hsplit hbefore ho
    rw [herror] at hlower
    cases hlower

theorem clash_unchecked :
    clash.WithinLimits ∧
      (clash.resolve { policy := .warn } ⟨7⟩).outcome = .ok (clash.canonical .builtins ⟨7⟩) ∧
      (clash.canonical .builtins ⟨7⟩).check = .ok () ∧
      (clash.lowerUnchecked { policy := .warn } ⟨7⟩).outcome =
        .ok (clash.canonical .builtins ⟨7⟩) ∧
      clash.lower { policy := .warn } ⟨7⟩ = clash.lowerUnchecked { policy := .warn } ⟨7⟩ := by
  have hg : clash.WithinLimits := by decide
  have h : (clash.resolve { policy := .warn } ⟨7⟩).outcome =
      .ok (clash.canonical .builtins ⟨7⟩) := rfl
  obtain ⟨hcheck, _, heq⟩ := @lower_never_malformed { policy := .warn } ⟨7⟩ clash hg
  exact ⟨hg, h, hcheck _ h, rfl, heq⟩

end Storyline.Source.Goal
