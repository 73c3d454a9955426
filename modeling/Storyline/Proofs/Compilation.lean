import Storyline.Compilation
import Storyline.Proofs.Relabel

/-!
# The compilation of a goal

A compilation asks its parser for the source of one path, once. There are three ways it can go on:
the path has no source, or lowering fails, or the goal is lowered. `Compilation.run_unparsed`,
`run_failed` and `run_lowered` say for each all that is done, from which follow what is asked for
and what is reported. Lowering itself asks for nothing.

Two compilations of one path differ by the identifiers of their goals and in nothing else.
-/

namespace Storyline

theorem Run.requests_within {ε α : Type} (region : Region) (r : Run ε α) :
    (within region r).requests = r.requests := by
  change requestsOf (r.effects ++ [.leave]) = requestsOf r.effects
  rw [requestsOf_append]
  exact List.append_nil _

theorem Source.Goal.lower_requests (ctx : Context) (id : GoalId) (g : Goal) :
    (g.lower ctx id).requests = [] := by
  have hresolve : requestsOf (g.resolve ctx id).effects = [] := (g.resolve_plain ctx id).requests
  rw [lower, Run.requests_within, Run.requests]
  cases houtcome : (g.resolve ctx id).outcome with
  | error e => rw [Run.bind_of_error houtcome, hresolve]
  | ok r =>
    rw [Run.bind_of_ok houtcome, requestsOf_append, hresolve]
    cases r.check <;> rfl

namespace Compilation

variable {parse : Parser} {ctx : Context} {path : String} {id : GoalId} {g : Source.Goal}

theorem run_unparsed (h : parse path = none) :
    run parse ctx path id = Run.within (.compiling path id)
      ⟨[.request path, .note .parsingFailed, .report (unparsed path)], .error (.unparsed path)⟩ := by
  simp only [run, h]
  rfl

theorem run_failed {fault : Fault} (h : parse path = some g)
    (hlower : (g.lower ctx id).outcome = .error fault) :
    run parse ctx path id = Run.within (.compiling path id)
      ⟨.request path :: ((g.lower ctx id).effects ++
        [.note (.loweringAborted fault.message), .report fault.diagnostic]),
        .error (.lowering fault)⟩ := by
  simp only [run, h, Run.rescue, hlower]
  rfl

theorem run_lowered {r : Resolved.Goal} (h : parse path = some g)
    (hlower : (g.lower ctx id).outcome = .ok r) :
    run parse ctx path id = Run.within (.compiling path id)
      ⟨.request path :: (g.lower ctx id).effects, .ok r⟩ := by
  simp only [run, h, Run.rescue, hlower]
  rfl

/-- The source of its own path is all that a compilation sees of the parser. -/
theorem run_congr {other : Parser} (ctx : Context) (id : GoalId) (h : other path = parse path) :
    run other ctx path id = run parse ctx path id := by
  simp only [run, h]

theorem run_requests (parse : Parser) (ctx : Context) (path : String) (id : GoalId) :
    (run parse ctx path id).requests = [path] := by
  cases h : parse path with
  | none =>
    rw [run_unparsed h]
    rfl
  | some g =>
    have hlower : requestsOf (g.lower ctx id).effects = [] := g.lower_requests ctx id
    cases houtcome : (g.lower ctx id).outcome with
    | error fault =>
      rw [run_failed h houtcome, Run.requests_within]
      change path :: requestsOf ((g.lower ctx id).effects ++ _) = _
      rw [requestsOf_append, hlower]
      rfl
    | ok r =>
      rw [run_lowered h houtcome, Run.requests_within]
      exact congrArg (path :: ·) hlower

/-- What is reported about a failure, after everything else. -/
def failureReport : Result → List Diagnostic
  | .error (.unparsed path) => [unparsed path]
  | .error (.lowering fault) => [fault.diagnostic]
  | .error (.tooManyGoals _) => []
  | .ok _ => []

theorem run_diagnostics (parse : Parser) (ctx : Context) (path : String) (id : GoalId) :
    (run parse ctx path id).diagnostics =
      ((parse path).elim [] fun g => (g.lower ctx id).diagnostics) ++
        failureReport (run parse ctx path id).outcome := by
  cases h : parse path with
  | none =>
    rw [run_unparsed h]
    rfl
  | some g =>
    cases houtcome : (g.lower ctx id).outcome with
    | error fault =>
      rw [run_failed h houtcome, Run.diagnostics_within]
      exact diagnosticsOf_append _ _
    | ok r =>
      rw [run_lowered h houtcome, Run.diagnostics_within]
      exact (List.append_nil _).symm

section Relabel

def Error.relabel (id : GoalId) : Error → Error
  | .unparsed path => .unparsed path
  | .lowering fault => .lowering (fault.relabel id)
  | .tooManyGoals count => .tooManyGoals count

def relabel (id : GoalId) : Result → Result
  | .ok g => .ok (g.relabel id)
  | .error e => .error (e.relabel id)

theorem run_outcome_relabel (parse : Parser) (ctx : Context) (path : String) (a b : GoalId) :
    (run parse ctx path a).outcome = relabel a (run parse ctx path b).outcome := by
  cases h : parse path with
  | none =>
    rw [run_unparsed h, run_unparsed h]
    rfl
  | some g =>
    have hlower := g.lower_outcome_relabel ctx a b
    cases houtcome : (g.lower ctx b).outcome with
    | error fault =>
      rw [houtcome] at hlower
      rw [run_failed h houtcome, run_failed h hlower]
      rfl
    | ok r =>
      rw [houtcome] at hlower
      rw [run_lowered h houtcome, run_lowered h hlower]
      rfl

/-- Up to the report of a failure, nothing that is reported depends on the identifier. -/
theorem run_diagnostics_relabel (parse : Parser) (ctx : Context) (path : String) (a b : GoalId) :
    (run parse ctx path a).diagnostics =
      ((parse path).elim [] fun g => (g.lower ctx b).diagnostics) ++
        failureReport (run parse ctx path a).outcome := by
  rw [run_diagnostics]
  cases parse path with
  | none => rw [Option.elim_none, Option.elim_none]
  | some g => rw [Option.elim_some, Option.elim_some, g.lower_diagnostics_relabel ctx a b]

end Relabel

end Compilation

end Storyline
