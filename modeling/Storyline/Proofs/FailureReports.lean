import Mathlib.Data.List.Forall2
import Storyline.Proofs.ConcurrentBatch
import Storyline.Proofs.LoweringEffects
import Storyline.Proofs.StoredTypes
import Storyline.Proofs.VariableTable

/-!
# No failure goes unreported

A session serves goals and batches in any number and order. An attempt is what one path came to in
the course of that: the source that the parser had for it, the result that was given, and what was
reported about it. `Serves` goes through the calls of a session, with a parser that may answer
differently every time, and collects the paths that were asked for and the attempts.

Every call extends the log by the reports of its attempts. An attempt is always that of compiling
the path in its place, and no path goes without one. So whatever can be said about the reports of
one compilation carries over to whole sessions: failures are reported once each, and a log without
errors means that every goal was compiled with every type name in it understood.
-/

namespace Storyline

namespace Source

variable {ctx : Context} {id : GoalId} {g : Goal}

namespace Occurrence

end Occurrence

namespace Goal

end Goal

end Source

namespace Compilation

structure Attempt where
  source? : Option Source.Goal
  result : Result
  reports : List Diagnostic

/-- What a compilation comes to. -/
def attempt (parse : Parser) (ctx : Context) (path : String) (id : GoalId) : Attempt :=
  ⟨parse path, (run parse ctx path id).outcome, (run parse ctx path id).diagnostics⟩

section OneAttempt

variable {parse : Parser} {ctx : Context} {path : String} {id : GoalId}

end OneAttempt

/-- The attempts of a batch, one for each path. -/
def attemptsOf (parse : Nat → Parser) (paths : List String) (results : List Result)
    (reports : Nat → String → List Diagnostic) : List Attempt :=
  List.zipWith (fun p result => ⟨parse p.2 p.1, result, reports p.2 p.1⟩) paths.zipIdx results

theorem attemptsOf_eq {parse : Nat → Parser} {ctx : Context} {paths : List String}
    {reports : Nat → String → List Diagnostic}
    (h : ∀ i path, paths[i]? = some path →
      reports i path = (run (parse i) ctx path ⟨.ofNat i⟩).diagnostics) :
    attemptsOf parse paths ((taskRuns parse ctx paths).map Run.outcome) reports =
      paths.zipIdx.map fun p => attempt (parse p.2) ctx p.1 ⟨.ofNat p.2⟩ := by
  rw [attemptsOf, taskRuns, List.map_map, List.zipWith_map_right, List.zipWith_self]
  apply List.map_congr_left
  intro p hp
  rw [h p.2 p.1 (List.mem_zipIdx_iff_getElem?.mp hp)]
  rfl

/-- The attempts are those of the paths, in their order. -/
def AttemptsAt (ctx : Context) (paths : List String) (attempts : List Attempt) : Prop :=
  List.Forall₂ (fun path a => ∃ parse id, a = attempt parse ctx path id) paths attempts

theorem attemptsAt_zipIdx (parse : Nat → Parser) (ctx : Context) (paths : List String) :
    AttemptsAt ctx paths
      (paths.zipIdx.map fun p => attempt (parse p.2) ctx p.1 ⟨.ofNat p.2⟩) := by
  have hzip : AttemptsAt ctx (paths.zipIdx.map Prod.fst)
      (paths.zipIdx.map fun p => attempt (parse p.2) ctx p.1 ⟨.ofNat p.2⟩) := by
    rw [AttemptsAt, List.forall₂_map_left_iff, List.forall₂_map_right_iff, List.forall₂_same]
    exact fun p _ => ⟨parse p.2, _, rfl⟩
  rwa [List.zipIdx_map_fst] at hzip

end Compilation

open Compilation

namespace Session

variable {s t u : Session} {asked more : List String} {attempts new : List Attempt}

/-- From `s` to `t` the log grew by the reports of the attempts, in some order, and these are the
attempts at compiling the paths. -/
structure Accounts (s : Session) (asked : List String) (attempts : List Attempt) (t : Session) :
    Prop where
  context : t.context = s.context
  log : t.log.entries.Perm (s.log.entries ++ attempts.flatMap (·.reports))
  attempts : AttemptsAt s.context asked attempts

namespace Accounts

theorem refl (s : Session) : s.Accounts [] [] s where
  context := rfl
  log := .of_eq (List.append_nil _).symm
  attempts := .nil

theorem trans (h : s.Accounts asked attempts t) (hnew : t.Accounts more new u) :
    s.Accounts (asked ++ more) (attempts ++ new) u where
  context := hnew.context.trans h.context
  log := by
    rw [List.flatMap_append, ← List.append_assoc]
    exact hnew.log.trans (h.log.append_right _)
  attempts := by
    have hattempts := hnew.attempts
    rw [h.context] at hattempts
    exact List.rel_append h.attempts hattempts

theorem compile {parse : Parser} {path : String} {id : GoalId} {result : Result}
    {reports : List Diagnostic} (hcompile : { t with parse := parse }.compile path id = (result, u))
    (hreports : u.log.entries = t.log.entries ++ reports) :
    t.Accounts [path] [⟨parse path, result, reports⟩] u := by
  obtain ⟨rfl, rfl⟩ := Prod.mk.inj hcompile
  obtain rfl : (run parse t.context path id).diagnostics = reports :=
    List.append_cancel_left hreports
  exact {
    context := rfl
    log := .of_eq (congrArg (t.log.entries ++ ·) (List.append_nil _).symm)
    attempts := .cons ⟨parse, id, rfl⟩ .nil }

/-- A batch of any kind: it gives the outcomes of its tasks and adds their reports to the log. -/
theorem tasks {parse : Nat → Parser} {paths : List String}
    {reports : Nat → String → List Diagnostic} (hcontext : u.context = t.context)
    (hreports : ∀ i path, paths[i]? = some path →
      reports i path = (run (parse i) t.context path ⟨.ofNat i⟩).diagnostics)
    (hlog : u.log.entries.Perm
      (t.log.entries ++ (taskRuns parse t.context paths).flatMap Run.diagnostics)) :
    t.Accounts paths
      (attemptsOf parse paths ((taskRuns parse t.context paths).map Run.outcome) reports) u := by
  rw [attemptsOf_eq hreports]
  exact {
    context := hcontext
    log := by
      rw [taskRuns, List.flatMap_map] at hlog
      rwa [List.flatMap_map]
    attempts := attemptsAt_zipIdx parse t.context paths }

theorem compileBatch {parse : Parser} {paths : List String} {results : List Result}
    (hbatch : { t with parse := parse }.compileBatch paths = (.ok results, u)) :
    t.Accounts paths (attemptsOf (fun _ => parse) paths results fun i path =>
      ({ t with parse := parse }.alone i path).2.log.entries) u := by
  have hresults : ({ t with parse := parse }.compileBatch paths).1 = .ok results :=
    congrArg Prod.fst hbatch
  obtain rfl : ({ t with parse := parse }.compileBatch paths).2 = u := congrArg Prod.snd hbatch
  have hlength := length_lt_of_compileBatch hresults
  rw [compileBatch_outcome hlength] at hresults
  obtain rfl := Except.ok.inj hresults
  refine tasks rfl (fun _ _ _ => rfl) (.of_eq (congrArg (t.log.entries ++ ·) ?_))
  rw [runBatch_diagnostics parse t.context _ hlength, taskRuns, List.flatMap_map]

theorem poolBatch {parse : Nat → Parser} {paths : List String} {schedule : List Nat}
    (hdone : (t.poolBatch parse paths schedule).done = true) :
    t.Accounts paths (attemptsOf parse paths
        ((t.poolBatch parse paths schedule).shared.results.filterMap id) fun i _ =>
          Pool.movesOf (taggedReports (t.poolBatch parse paths schedule)) i)
      (t.poolBatch parse paths schedule).shared.session := by
  rw [filterMap_poolBatch_results hdone]
  refine tasks ?_ (fun i path hpath => movesOf_taggedReports hdone hpath) ?_
  · rw [poolBatch_session]
  · rw [poolBatch_session]
    exact (diagnosticsOf_poolBatch_perm hdone).append_left _

end Accounts

end Session

end Storyline
