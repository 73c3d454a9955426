import Storyline.Proofs.Compilation
import Storyline.Session

/-!
# Batches

A batch compiles its goals one after another and keeps going when one of them fails. What it gives,
reports and asks for is put together from the compilations of its goals, each as if it had been made
alone in a session that has done nothing yet. So no goal can tell what the others were or how they
went, and two goals with one path differ by their identifiers only.
-/

namespace Storyline

/-- A loop that goes on whatever its steps come to. -/
theorem Run.forEach_attempt {ε δ α β : Type} (f : α → Run ε β) (as : List α) :
    (forEach (fun a => (f a).attempt) as : Run δ (List (Except ε β))) =
      ⟨(as.map f).flatMap effects, .ok ((as.map f).map outcome)⟩ := by
  induction as with
  | nil => rfl
  | cons a as ih =>
    have hattempt : ((f a).attempt : Run δ (Except ε β)).outcome = .ok (f a).outcome := rfl
    rw [forEach, ih, bind_of_ok hattempt, bind_of_ok rfl]
    simp only [effects_pure, List.append_nil, List.map_cons, List.flatMap_cons]
    rfl

namespace Compilation

variable (parse : Parser) (ctx : Context)

/-- The compilations of a batch, one for each path. -/
def batchRuns (paths : List String) : List (Run Error Resolved.Goal) :=
  paths.zipIdx.map fun (path, i) => run parse ctx path ⟨.ofNat i⟩

variable {paths : List String}

theorem batchRuns_eq (h : paths.length < UInt32.size) :
    batchRuns parse ctx paths =
      paths.zipIdx.map fun (path, i) => run parse ctx path ⟨.ofNatClamp i⟩ := by
  apply List.map_congr_left
  rintro ⟨path, i⟩ hp
  have hi : i < paths.length + 0 := List.snd_lt_of_mem_zipIdx hp
  simp only [UInt32.ofNatClamp_eq_ofNat i (by omega)]

theorem runBatch_eq (parallel : Bool) (h : paths.length < UInt32.size) :
    runBatch parse ctx parallel paths =
      ⟨.note (.batchStarted paths.length parallel) ::
        (batchRuns parse ctx paths).flatMap Run.effects,
        .ok ((batchRuns parse ctx paths).map Run.outcome)⟩ := by
  have hnote : (Run.note (.batchStarted paths.length parallel) : Run Error Unit).outcome = .ok () :=
    rfl
  have hloop : (Run.forEach (fun (path, i) => (run parse ctx path ⟨.ofNatClamp i⟩).attempt)
      paths.zipIdx : Run Error (List Result)) = ⟨(batchRuns parse ctx paths).flatMap Run.effects,
        .ok ((batchRuns parse ctx paths).map Run.outcome)⟩ := by
    rw [batchRuns_eq parse ctx h]
    exact Run.forEach_attempt _ _
  rw [runBatch, if_neg (Nat.not_le_of_lt h), Run.bind_of_ok hnote, hloop]
  rfl

theorem batchRuns_requests : (batchRuns parse ctx paths).flatMap Run.requests = paths := by
  rw [batchRuns, List.flatMap_map]
  simp only [run_requests]
  rw [← List.map_eq_flatMap]
  exact List.zipIdx_map_fst 0 paths

theorem runBatch_requests (parallel : Bool) (h : paths.length < UInt32.size) :
    (runBatch parse ctx parallel paths).requests = paths := by
  rw [runBatch_eq parse ctx parallel h]
  change requestsOf ((batchRuns parse ctx paths).flatMap Run.effects) = paths
  rw [requestsOf, List.filterMap_flatMap]
  exact batchRuns_requests parse ctx

theorem runBatch_diagnostics (parallel : Bool) (h : paths.length < UInt32.size) :
    (runBatch parse ctx parallel paths).diagnostics =
      paths.zipIdx.flatMap fun (path, i) => (run parse ctx path ⟨.ofNat i⟩).diagnostics := by
  rw [runBatch_eq parse ctx parallel h]
  change diagnosticsOf ((batchRuns parse ctx paths).flatMap Run.effects) = _
  rw [diagnosticsOf, List.filterMap_flatMap, batchRuns, List.flatMap_map]
  rfl

theorem batchRuns_outcome {i : Nat} {path : String} (hpath : paths[i]? = some path) :
    ((batchRuns parse ctx paths).map Run.outcome)[i]? =
      some (run parse ctx path ⟨.ofNat i⟩).outcome := by
  rw [batchRuns, List.getElem?_map, List.getElem?_map, List.getElem?_zipIdx, hpath]
  simp

end Compilation

namespace Session

def fresh (s : Session) : Session := { s with history := [], log := .empty }

def sequential (s : Session) : Session := { s with parallel := false }

/-- The goal at a position of a batch, compiled on its own. -/
def alone (s : Session) (i : Nat) (path : String) : Compilation.Result × Session :=
  s.fresh.compile path ⟨.ofNat i⟩

theorem alone_congr {s : Session} {parse : Parser} (i : Nat) {path : String}
    (h : parse path = s.parse path) :
    ({ s with parse := parse }.alone i path).1 = (s.alone i path).1 ∧
      ({ s with parse := parse }.alone i path).2.log = (s.alone i path).2.log := by
  have hrun := Compilation.run_congr s.context ⟨.ofNat i⟩ h
  exact ⟨congrArg Run.outcome hrun,
    congrArg (fun r => DiagnosticLog.empty.reportAll (Run.diagnostics r)) hrun⟩

theorem compileBatch_outcome {s : Session} {paths : List String} (h : paths.length < UInt32.size) :
    (s.compileBatch paths).1 =
      .ok ((Compilation.batchRuns s.parse s.context paths).map Run.outcome) :=
  congrArg Run.outcome (Compilation.runBatch_eq s.parse s.context s.parallel h)

theorem compileBatch_of_long {s : Session} {paths : List String} (h : UInt32.size ≤ paths.length) :
    s.compileBatch paths = (.error (.tooManyGoals paths.length), s) := by
  rw [compileBatch, Compilation.runBatch, if_pos h]
  simp [record, Run.fail, Run.diagnostics, diagnosticsOf, DiagnosticLog.reportAll]

theorem length_lt_of_compileBatch {s : Session} {paths : List String}
    {results : List Compilation.Result} (h : (s.compileBatch paths).1 = .ok results) :
    paths.length < UInt32.size := by
  by_contra hlong
  rw [compileBatch_of_long (Nat.le_of_not_lt hlong)] at h
  cases h

theorem result_of_compileBatch {s : Session} {paths : List String}
    {results : List Compilation.Result} (h : (s.compileBatch paths).1 = .ok results) {i : Nat}
    {path : String} (hpath : paths[i]? = some path) : results[i]? = some (s.alone i path).1 := by
  rw [compileBatch_outcome (length_lt_of_compileBatch h)] at h
  obtain rfl := Except.ok.inj h
  exact Compilation.batchRuns_outcome s.parse s.context hpath

def noted (s : Session) (e : Event) : Session := { s with history := s.history ++ [.note e] }

/-- Compiling one goal after another in the session that the one before it left. -/
def compileEach (s : Session) (goals : List (String × Nat)) : Session :=
  goals.foldl (fun t (path, i) => (t.compile path ⟨.ofNat i⟩).2) s

theorem compileEach_eq (s : Session) (goals : List (String × Nat)) :
    s.compileEach goals = { s with
      history := s.history ++ goals.flatMap fun (path, i) =>
        (Compilation.run s.parse s.context path ⟨.ofNat i⟩).effects
      log := s.log.reportAll (goals.flatMap fun (path, i) =>
        (Compilation.run s.parse s.context path ⟨.ofNat i⟩).diagnostics) } := by
  induction goals generalizing s with
  | nil => simp [compileEach, DiagnosticLog.reportAll]
  | cons goal goals ih =>
    have hstep : s.compileEach (goal :: goals) =
        (s.compile goal.1 ⟨.ofNat goal.2⟩).2.compileEach goals := rfl
    rw [hstep, ih]
    simp [compile, record, DiagnosticLog.reportAll]

theorem compileBatch_session {s : Session} {paths : List String} (h : paths.length < UInt32.size) :
    (s.compileBatch paths).2 =
      (s.noted (.batchStarted paths.length s.parallel)).compileEach paths.zipIdx := by
  have hrun := Compilation.runBatch_eq s.parse s.context s.parallel h
  have hreports := Compilation.runBatch_diagnostics s.parse s.context s.parallel h
  rw [compileEach_eq, compileBatch, record, hreports, hrun, Compilation.batchRuns, List.flatMap_map]
  simp [noted]

/-- A batch that left the session `done` is its goals, each compiled alone. In `isolated` the other
goals of the batch are replaced, with their paths and their sources. -/
structure Pointwise (s : Session) (paths : List String) (results : List Compilation.Result)
    (done : Session) : Prop where
  length : results.length = paths.length
  result : ∀ (i : Nat) (path : String), paths[i]? = some path →
    results[i]? = some (s.alone i path).1
  log : done.log.entries = s.log.entries ++
    paths.zipIdx.flatMap fun (path, i) => (s.alone i path).2.log.entries
  requests : done.requests = s.requests ++ paths
  threaded : done =
    (s.sequential.noted (.batchStarted paths.length false)).compileEach paths.zipIdx
  isolated : ∀ (parse : Parser) (others : List String) (results' : List Compilation.Result),
    ({ s with parse := parse }.sequential.compileBatch others).1 = .ok results' →
    ∀ (i : Nat) (path : String), paths[i]? = some path → others[i]? = some path →
      parse path = s.parse path → results'[i]? = results[i]? ∧
        ({ s with parse := parse }.alone i path).2.log = (s.alone i path).2.log
  shared : ∀ (i j : Nat) (path : String), paths[i]? = some path → paths[j]? = some path →
    results[i]? = results[j]?.map (Compilation.relabel ⟨.ofNat i⟩)
  shared_log : ∀ path, ∃ reports, ∀ i, (s.alone i path).2.log.entries =
    reports ++ Compilation.failureReport (s.alone i path).1

/-- A sequential batch gives a result for every path, whatever becomes of its goals. The results are
those of the goals alone, and so are the reports, in the order of the paths and behind what was
reported before. Each path is asked for once. Goals with one path have one result up to their
identifiers, and one list of reports up to the report of a failure. -/
theorem compileBatch_pointwise (s : Session) (paths : List String)
    (h : paths.length < UInt32.size) :
    ∃ results, (s.sequential.compileBatch paths).1 = .ok results ∧
      s.Pointwise paths results (s.sequential.compileBatch paths).2 := by
  have hbatch := compileBatch_outcome (s := s.sequential) h
  have hresult : ∀ {i : Nat} {path : String}, paths[i]? = some path →
      _ = some (s.alone i path).1 := result_of_compileBatch hbatch
  refine ⟨_, hbatch, ?_⟩
  exact {
    length := by rw [List.length_map, Compilation.batchRuns, List.length_map, List.length_zipIdx]
    result := fun _ _ => hresult
    log := congrArg (s.log.entries ++ ·)
      (Compilation.runBatch_diagnostics s.parse s.context false h)
    requests := by
      have hrequests := Compilation.runBatch_requests s.parse s.context false h
      exact (requestsOf_append _ _).trans (congrArg (s.requests ++ ·) hrequests)
    threaded := compileBatch_session h
    isolated := by
      intro parse others results' hothers i path hpath hother hparse
      obtain ⟨hsame, hlog⟩ := alone_congr i hparse
      rw [result_of_compileBatch hothers hother, hresult hpath]
      exact ⟨congrArg some hsame, hlog⟩
    shared := by
      intro i j path hi hj
      rw [hresult hi, hresult hj]
      exact congrArg some (Compilation.run_outcome_relabel s.parse s.context path _ _)
    shared_log := by
      intro path
      exact ⟨_, fun i => Compilation.run_diagnostics_relabel s.parse s.context path _ ⟨0⟩⟩ }

/-- Without any types, the goal of `a` compiles and the goal of `b` cannot; `c` does not parse. -/
def rehearsal : Session where
  parse path :=
    if path = "a" then some (.giveExperience "A") else if path = "b" then some .clash else none
  context := { types := .empty }
  history := [.request "c", .report (Compilation.unparsed "c")]
  log := ⟨[Compilation.unparsed "c"]⟩

theorem rehearsal_batch :
    ["a", "b", "c", "a"].length < UInt32.size ∧
      ∃ results, (rehearsal.sequential.compileBatch ["a", "b", "c", "a"]).1 = .ok results ∧
        results[1]? = some (.error (.lowering (.missingBuiltin .string .text))) ∧
        results[2]? = some (.error (.unparsed "c")) ∧
        results[3]? = results[0]?.map (Compilation.relabel ⟨3⟩) ∧
        (rehearsal.sequential.compileBatch ["a", "b", "c", "a"]).2.requests =
          ["c", "a", "b", "c", "a"] := by
  have h : ["a", "b", "c", "a"].length < UInt32.size := by decide
  obtain ⟨results, hresults, hbatch⟩ := compileBatch_pointwise rehearsal ["a", "b", "c", "a"] h
  exact ⟨h, results, hresults, hbatch.result 1 "b" rfl, hbatch.result 2 "c" rfl,
    hbatch.shared 3 0 "a" rfl rfl, hbatch.requests⟩

end Session

end Storyline
