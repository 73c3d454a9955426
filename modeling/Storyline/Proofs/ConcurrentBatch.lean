import Storyline.Proofs.Batch
import Storyline.Proofs.Schedule

/-!
# Batches on several threads

A parallel batch has a task for every path. A task performs the effects of its compilation one by
one on the session that it shares with the others, asks for its source and reports diagnostics that
way, and in the end puts its result into the place of its path. The tasks take turns in any order.

Because a compilation looks at nothing that another one does, the results are those of the batch that
runs one goal after another, and so is everything that does not depend on an order: what was reported
and asked for, however it is counted. The reports of a goal stay in their own order.

The parser of a task is a parameter of its own, so a parser that changes its answers in the course of
a batch is covered as well.
-/

namespace Storyline

namespace DiagnosticLog

/-- No count of a log depends on the order of its entries. -/
theorem counts_of_perm {l m : DiagnosticLog} (h : l.entries.Perm m.entries) :
    l.size = m.size ∧ l.errorCount = m.errorCount ∧ l.warningCount = m.warningCount ∧
      l.hasErrors = m.hasErrors ∧ ∀ code, l.countOf code = m.countOf code := by
  refine ⟨h.length_eq, h.countP_eq _, h.countP_eq _, ?_, fun code => h.countP_eq _⟩
  rw [Bool.eq_iff_iff, hasErrors, hasErrors, List.any_eq_true, List.any_eq_true]
  simp only [h.mem_iff]

end DiagnosticLog

namespace Compilation

inductive Move where
  | perform (effect : Effect)
  | give (result : Result)

namespace Move

def effect? : Move → Option Effect
  | .perform x => some x
  | .give _ => none

/-- The content of a result place after a move of its own task. -/
def settle (old : Option Result) : Move → Option Result
  | .perform _ => old
  | .give result => some result

end Move

/-- The work of a task: its compilation, then the return of the result. -/
def moves (r : Run Error Resolved.Goal) : List Move :=
  r.effects.map .perform ++ [.give r.outcome]

theorem moves_effects (r : Run Error Resolved.Goal) :
    (moves r).filterMap Move.effect? = r.effects := by
  have heffects : (r.effects.map Move.perform).filterMap Move.effect? = r.effects := by
    rw [List.filterMap_map]
    exact List.filterMap_some
  rw [moves, List.filterMap_append, heffects]
  exact List.append_nil _

theorem moves_settle (r : Run Error Resolved.Goal) (old : Option Result) :
    (moves r).foldl Move.settle old = some r.outcome := by
  rw [moves, List.foldl_append]
  rfl

/-- One compilation for each path, each with the parser as it is at that position. -/
def taskRuns (parse : Nat → Parser) (ctx : Context) (paths : List String) :
    List (Run Error Resolved.Goal) :=
  paths.zipIdx.map fun p => run (parse p.2) ctx p.1 ⟨.ofNat p.2⟩

variable (parse : Nat → Parser) (ctx : Context) {paths : List String}

theorem taskRuns_const (parse : Parser) (paths : List String) :
    taskRuns (fun _ => parse) ctx paths = batchRuns parse ctx paths := rfl

theorem taskRuns_length (paths : List String) :
    (taskRuns parse ctx paths).length = paths.length := by
  rw [taskRuns, List.length_map, List.length_zipIdx]

theorem taskRuns_getElem? {i : Nat} {path : String} (hpath : paths[i]? = some path) :
    (taskRuns parse ctx paths)[i]? = some (run (parse i) ctx path ⟨.ofNat i⟩) := by
  rw [taskRuns, List.getElem?_map, List.getElem?_zipIdx, hpath]
  simp

end Compilation

open Compilation

namespace Session

def perform (s : Session) (x : Effect) : Session :=
  { s with
    history := s.history ++ [x]
    log := x.diagnostic?.elim s.log s.log.report }

theorem foldl_perform (s : Session) (xs : List Effect) :
    xs.foldl perform s =
      { s with history := s.history ++ xs, log := s.log.reportAll (diagnosticsOf xs) } := by
  induction xs generalizing s with
  | nil => simp [DiagnosticLog.reportAll, diagnosticsOf]
  | cons x xs ih =>
    rw [List.foldl_cons, ih]
    cases hx : x.diagnostic? with
    | none => simp [perform, hx, diagnosticsOf]
    | some d => simp [perform, hx, diagnosticsOf, DiagnosticLog.report, DiagnosticLog.reportAll]

/-- A batch in progress: the session that its tasks share, and a place for the result of each. -/
structure Batch where
  session : Session
  results : List (Option Result)

def Batch.act (b : Batch) (i : Nat) : Move → Batch
  | .perform x => { b with session := b.session.perform x }
  | .give result => { b with results := b.results.set i (some result) }

variable (s : Session) (parse : Nat → Parser) (paths : List String)

def startBatch : Pool Batch Move where
  shared := ⟨s.noted (.batchStarted paths.length s.parallel), List.replicate paths.length none⟩
  threads := (taskRuns parse s.context paths).map moves

def poolBatch (schedule : List Nat) : Pool Batch Move :=
  (s.startBatch parse paths).run Batch.act schedule

/-- A batch as a schedule runs it, once all the tasks have come to their end. -/
def scheduleBatch (schedule : List Nat) : Option (Except Error (List Result) × Session) :=
  if UInt32.size ≤ paths.length then some (.error (.tooManyGoals paths.length), s)
  else
    let p := s.poolBatch (fun _ => s.parse) paths schedule
    if p.done then some (.ok (p.shared.results.filterMap id), p.shared.session) else none

section Playback

theorem foldl_act_session (b : Batch) (trace : List (Nat × Move)) :
    (trace.foldl (fun b m => b.act m.1 m.2) b).session =
      (trace.filterMap (·.2.effect?)).foldl perform b.session := by
  induction trace generalizing b with
  | nil => rfl
  | cons m trace ih =>
    obtain ⟨i, move⟩ := m
    cases move with
    | perform x => exact ih (b.act i (.perform x))
    | give result => exact ih (b.act i (.give result))

/-- A place changes only by the moves of its own task. -/
theorem foldl_act_results (b : Batch) (trace : List (Nat × Move)) (i : Nat) :
    (trace.foldl (fun b m => b.act m.1 m.2) b).results[i]? =
      b.results[i]?.map fun old => (Pool.movesOf trace i).foldl Move.settle old := by
  induction trace generalizing b with
  | nil => simp
  | cons m trace ih =>
    obtain ⟨j, move⟩ := m
    rw [List.foldl_cons, ih]
    by_cases hj : j = i
    · subst hj
      rw [Pool.movesOf_cons_self]
      cases move with
      | perform x => rfl
      | give result =>
        cases hplace : b.results[j]? with
        | none =>
          have hlen : b.results.length ≤ j := List.getElem?_eq_none_iff.mp hplace
          simp [Batch.act, hlen]
        | some old =>
          have hlt := (List.getElem?_eq_some_iff.mp hplace).1
          simp [Batch.act, List.getElem?_set_self hlt, Move.settle]
    · rw [Pool.movesOf_cons_of_ne hj]
      cases move with
      | perform x => rfl
      | give result => simp [Batch.act, List.getElem?_set_ne hj]

end Playback

variable {s parse paths} {schedule : List Nat}

/-- The effects of a batch in the order in which they happened. -/
def effectsOf (p : Pool Batch Move) : List Effect := (p.trace.map (·.2)).filterMap Move.effect?

theorem poolBatch_follows (s : Session) (parse : Nat → Parser) (paths : List String)
    (schedule : List Nat) :
    Pool.Follows Batch.act (s.startBatch parse paths) (s.poolBatch parse paths schedule) :=
  (Pool.Follows.refl rfl).run schedule

theorem poolBatch_session :
    (s.poolBatch parse paths schedule).shared.session = { s with
      history := s.history ++ .note (.batchStarted paths.length s.parallel) ::
        effectsOf (s.poolBatch parse paths schedule)
      log := s.log.reportAll (diagnosticsOf (effectsOf (s.poolBatch parse paths schedule))) } := by
  have heffects : effectsOf (s.poolBatch parse paths schedule) =
      (s.poolBatch parse paths schedule).trace.filterMap (·.2.effect?) := List.filterMap_map
  rw [(s.poolBatch_follows parse paths schedule).shared, foldl_act_session, ← heffects,
    foldl_perform]
  simp [startBatch, noted]

theorem startBatch_thread {i : Nat} {path : String} (hpath : paths[i]? = some path) :
    (s.startBatch parse paths).threads[i]? =
      some (moves (run (parse i) s.context path ⟨.ofNat i⟩)) := by
  rw [startBatch, List.getElem?_map, taskRuns_getElem? parse s.context hpath, Option.map_some]

theorem startBatch_effects (s : Session) (parse : Nat → Parser) (paths : List String) :
    (s.startBatch parse paths).threads.flatten.filterMap Move.effect? =
      (taskRuns parse s.context paths).flatMap Run.effects := by
  rw [startBatch, ← List.flatMap_def, List.filterMap_flatMap]
  simp only [moves_effects]

section Finished

variable (hdone : (s.poolBatch parse paths schedule).done = true)

include hdone

theorem movesOf_poolBatch {i : Nat} {path : String} (hpath : paths[i]? = some path) :
    Pool.movesOf (s.poolBatch parse paths schedule).trace i =
      moves (run (parse i) s.context path ⟨.ofNat i⟩) :=
  (s.poolBatch_follows parse paths schedule).movesOf_of_done hdone (startBatch_thread hpath)

theorem poolBatch_results :
    (s.poolBatch parse paths schedule).shared.results =
      (taskRuns parse s.context paths).map fun r => some r.outcome := by
  apply List.ext_getElem?
  intro i
  rw [(s.poolBatch_follows parse paths schedule).shared, foldl_act_results, List.getElem?_map]
  cases hpath : paths[i]? with
  | none =>
    have hlen : paths.length ≤ i := List.getElem?_eq_none_iff.mp hpath
    have hruns : (taskRuns parse s.context paths)[i]? = none :=
      List.getElem?_eq_none (by rw [taskRuns_length]; exact hlen)
    simp [startBatch, hruns, hlen]
  | some path =>
    have hlt : i < paths.length := (List.getElem?_eq_some_iff.mp hpath).1
    rw [movesOf_poolBatch hdone hpath, taskRuns_getElem? parse s.context hpath]
    simp [startBatch, hlt, moves_settle]

theorem filterMap_poolBatch_results :
    (s.poolBatch parse paths schedule).shared.results.filterMap id =
      (taskRuns parse s.context paths).map Run.outcome := by
  rw [poolBatch_results hdone, List.filterMap_map]
  exact congrFun (List.filterMap_eq_map (f := Run.outcome)) _

theorem effectsOf_poolBatch_perm :
    (effectsOf (s.poolBatch parse paths schedule)).Perm
      ((taskRuns parse s.context paths).flatMap Run.effects) := by
  have hperm := ((s.poolBatch_follows parse paths schedule).perm_of_done hdone).filterMap
    Move.effect?
  rwa [startBatch_effects] at hperm

theorem diagnosticsOf_poolBatch_perm :
    (diagnosticsOf (effectsOf (s.poolBatch parse paths schedule))).Perm
      ((taskRuns parse s.context paths).flatMap Run.diagnostics) := by
  have hperm := (effectsOf_poolBatch_perm hdone).filterMap Effect.diagnostic?
  rwa [List.filterMap_flatMap] at hperm

/-- The reports of one task, as the trace has them, are those of its compilation. -/
theorem reports_movesOf_poolBatch {i : Nat} {path : String} (hpath : paths[i]? = some path) :
    diagnosticsOf ((Pool.movesOf (s.poolBatch parse paths schedule).trace i).filterMap
      Move.effect?) = (run (parse i) s.context path ⟨.ofNat i⟩).diagnostics := by
  rw [movesOf_poolBatch hdone hpath, moves_effects]
  rfl

end Finished

/-- Every task has a turn for each of its effects and one for its return. -/
def Completes (s : Session) (paths : List String) (schedule : List Nat) : Prop :=
  ∀ i path, paths[i]? = some path →
    (run s.parse s.context path ⟨.ofNat i⟩).effects.length < schedule.count i

theorem completes_iff_done :
    s.Completes paths schedule ↔ (s.poolBatch (fun _ => s.parse) paths schedule).done = true := by
  have hlength : ∀ r : Run Error Resolved.Goal, (moves r).length = r.effects.length + 1 := by
    intro r
    rw [moves, List.length_append, List.length_map, List.length_singleton]
  rw [poolBatch, Pool.done_run_iff]
  constructor
  · intro h i work hwork
    have hlt : i < paths.length := by
      have hthread := (List.getElem?_eq_some_iff.mp hwork).1
      rwa [startBatch, List.length_map, taskRuns_length] at hthread
    have hpath : paths[i]? = some paths[i] := List.getElem?_eq_getElem hlt
    rw [startBatch_thread hpath] at hwork
    rw [← Option.some.inj hwork, hlength]
    exact h i _ hpath
  · intro h i path hpath
    have hturns := h i _ (startBatch_thread hpath)
    rwa [hlength] at hturns

theorem scheduleBatch_of_long (h : UInt32.size ≤ paths.length) (schedule : List Nat) :
    s.scheduleBatch paths schedule = some (.error (.tooManyGoals paths.length), s) := by
  rw [scheduleBatch, if_pos h]

theorem scheduleBatch_of_completes (h : paths.length < UInt32.size)
    (hschedule : s.Completes paths schedule) :
    s.scheduleBatch paths schedule =
      some ((s.compileBatch paths).1,
        (s.poolBatch (fun _ => s.parse) paths schedule).shared.session) := by
  have hdone := completes_iff_done.mp hschedule
  simp only [scheduleBatch, if_neg (Nat.not_le_of_lt h), hdone, if_true,
    filterMap_poolBatch_results hdone, taskRuns_const, compileBatch_outcome h]

/-- One task after another is the batch itself. -/
theorem scheduleBatch_inOrder (s : Session) (paths : List String) :
    ∃ schedule, s.Completes paths schedule ∧
      s.scheduleBatch paths schedule = some (s.compileBatch paths) := by
  obtain ⟨hdone, htrace⟩ := (s.startBatch (fun _ => s.parse) paths).done_run_inOrder Batch.act rfl
  generalize Pool.inOrder 0 _ = schedule at hdone htrace
  have hcompletes := completes_iff_done.mpr hdone
  refine ⟨schedule, hcompletes, ?_⟩
  by_cases hlong : UInt32.size ≤ paths.length
  · rw [scheduleBatch_of_long hlong, compileBatch_of_long hlong]
  · have h : paths.length < UInt32.size := Nat.lt_of_not_le hlong
    have heffects : effectsOf (s.poolBatch (fun _ => s.parse) paths schedule) =
        (batchRuns s.parse s.context paths).flatMap Run.effects := by
      rw [effectsOf, poolBatch, htrace, startBatch_effects, taskRuns_const]
    have hsession : (s.poolBatch (fun _ => s.parse) paths schedule).shared.session =
        (s.compileBatch paths).2 := by
      rw [poolBatch_session, heffects, compileBatch, record, runBatch_eq s.parse s.context _ h]
      rfl
    rw [scheduleBatch_of_completes h hcompletes, hsession]

/-- A batch that gave `outcome` and left the session `t`, beside the same batch done one goal after
another. A `tagged` report stands with the position of the goal that it is about. -/
structure Agrees (s : Session) (paths : List String) (outcome : Except Error (List Result))
    (t : Session) : Prop where
  results : outcome = (s.sequential.compileBatch paths).1
  reports : ∃ (tagged : List (Nat × Diagnostic)) (added : List Diagnostic),
    t.log.entries = s.log.entries ++ tagged.map (·.2) ∧
    (s.sequential.compileBatch paths).2.log.entries = s.log.entries ++ added ∧
    (tagged.map (·.2)).Perm added ∧ (∀ m ∈ tagged, m.1 < paths.length) ∧
    ((∃ results, outcome = .ok results) → ∀ i path, paths[i]? = some path →
      Pool.movesOf tagged i = (s.alone i path).2.log.entries)
  size : t.log.size = (s.sequential.compileBatch paths).2.log.size
  errorCount : t.log.errorCount = (s.sequential.compileBatch paths).2.log.errorCount
  warningCount : t.log.warningCount = (s.sequential.compileBatch paths).2.log.warningCount
  hasErrors : t.log.hasErrors = (s.sequential.compileBatch paths).2.log.hasErrors
  countOf : ∀ code, t.log.countOf code = (s.sequential.compileBatch paths).2.log.countOf code
  requests : (∃ results, outcome = .ok results) →
    ∃ asked, t.requests = s.requests ++ asked ∧ asked.Perm paths
  refused : ∀ e, outcome = .error e → t = s

theorem agrees_of_long (h : UInt32.size ≤ paths.length) :
    s.Agrees paths (.error (.tooManyGoals paths.length)) s := by
  have hbatch := compileBatch_of_long (s := s.sequential) h
  refine {
    results := by rw [hbatch]
    reports := ⟨[], [], by simp, by rw [hbatch]; exact (List.append_nil _).symm, .refl _, by simp, ?_⟩
    size := by rw [hbatch]; rfl
    errorCount := by rw [hbatch]; rfl
    warningCount := by rw [hbatch]; rfl
    hasErrors := by rw [hbatch]; rfl
    countOf := fun code => by rw [hbatch]; rfl
    requests := ?_
    refused := fun _ _ => rfl }
  · rintro ⟨results, hresults⟩
    cases hresults
  · rintro ⟨results, hresults⟩
    cases hresults

/-- The reports in the trace of a pool, each with the position of its task. -/
def taggedReports (p : Pool Batch Move) : List (Nat × Diagnostic) :=
  p.trace.filterMap fun m => (m.2.effect?.bind Effect.diagnostic?).map fun d => (m.1, d)

theorem taggedReports_map_snd (p : Pool Batch Move) :
    (taggedReports p).map (·.2) = diagnosticsOf (effectsOf p) := by
  rw [taggedReports, effectsOf, diagnosticsOf, List.filterMap_filterMap, List.filterMap_map,
    List.map_filterMap]
  congr 1
  funext m
  rw [Function.comp_apply]
  cases m.2.effect?.bind Effect.diagnostic? <;> rfl

theorem taggedReports_lt {m : Nat × Diagnostic}
    (hm : m ∈ taggedReports (s.poolBatch parse paths schedule)) : m.1 < paths.length := by
  obtain ⟨move, hmove, htag⟩ := List.mem_filterMap.mp hm
  obtain ⟨d, _, rfl⟩ := Option.map_eq_some_iff.mp htag
  have hplaced := (s.poolBatch_follows parse paths schedule).placed move hmove
  rwa [startBatch, List.length_map, taskRuns_length] at hplaced

theorem movesOf_taggedReports (hdone : (s.poolBatch parse paths schedule).done = true) {i : Nat}
    {path : String} (hpath : paths[i]? = some path) :
    Pool.movesOf (taggedReports (s.poolBatch parse paths schedule)) i =
      (run (parse i) s.context path ⟨.ofNat i⟩).diagnostics := by
  have hmoves := Pool.movesOf_filterMap (fun a => Move.effect? a >>= Effect.diagnostic?)
    (s.poolBatch parse paths schedule).trace i
  rw [← reports_movesOf_poolBatch hdone hpath, diagnosticsOf, List.filterMap_filterMap]
  exact hmoves

theorem agrees_of_completes (h : paths.length < UInt32.size)
    (hschedule : s.Completes paths schedule) :
    s.Agrees paths (s.compileBatch paths).1
      (s.poolBatch (fun _ => s.parse) paths schedule).shared.session := by
  have hdone := completes_iff_done.mp hschedule
  -- The reports and the requests of the pool beside those of its tasks in order.
  have hreports := diagnosticsOf_poolBatch_perm hdone
  have hrequests := (effectsOf_poolBatch_perm hdone).filterMap Effect.request?
  rw [List.filterMap_flatMap, taskRuns_const] at hrequests
  have hasked := hrequests.trans (.of_eq (batchRuns_requests s.parse s.context))
  have hsequential : (runBatch s.parse s.context false paths).diagnostics =
      (taskRuns (fun _ => s.parse) s.context paths).flatMap Run.diagnostics := by
    rw [runBatch_diagnostics s.parse s.context false h, taskRuns, List.flatMap_map]
  rw [← hsequential] at hreports
  rw [poolBatch_session]
  obtain ⟨hsize, herrors, hwarnings, hhas, hcount⟩ :=
    DiagnosticLog.counts_of_perm (l := s.log.reportAll (diagnosticsOf (effectsOf _)))
      (m := s.log.reportAll (runBatch s.parse s.context false paths).diagnostics)
      (hreports.append_left s.log.entries)
  exact {
    results := by rw [compileBatch_outcome h, compileBatch_outcome h]; rfl
    reports := by
      refine ⟨taggedReports (s.poolBatch (fun _ => s.parse) paths schedule), _, ?_, rfl, ?_,
        fun m hm => taggedReports_lt hm, fun _ i path hpath => movesOf_taggedReports hdone hpath⟩
      · rw [taggedReports_map_snd]
        rfl
      · rw [taggedReports_map_snd]
        exact hreports
    size := hsize
    errorCount := herrors
    warningCount := hwarnings
    hasErrors := hhas
    countOf := hcount
    requests := fun _ => ⟨_, requestsOf_append _ _, hasked⟩
    refused := by
      intro e he
      rw [compileBatch_outcome h] at he
      cases he }

/-- Whatever turns the tasks of a batch take, once each of them had enough of them the batch has
given its results, and they are the results of the goals done one after another. The reports are the
same up to their order, in which every goal still has its own, so every count of them is the same.
Each path is asked for once. -/
theorem scheduleBatch_agrees (s : Session) (paths : List String) :
    (∃ schedule, s.Completes paths schedule ∧
      s.scheduleBatch paths schedule = some (s.compileBatch paths)) ∧
    ∀ schedule, s.Completes paths schedule → ∃ outcome t,
      s.scheduleBatch paths schedule = some (outcome, t) ∧ s.Agrees paths outcome t := by
  refine ⟨s.scheduleBatch_inOrder paths, ?_⟩
  intro schedule hschedule
  by_cases hlong : UInt32.size ≤ paths.length
  · exact ⟨_, _, scheduleBatch_of_long hlong schedule, agrees_of_long hlong⟩
  · have h : paths.length < UInt32.size := Nat.lt_of_not_le hlong
    exact ⟨_, _, scheduleBatch_of_completes h hschedule, agrees_of_completes h hschedule⟩

/-- The second task does all its work between the first report of the first task and the others. -/
def interruption : List Nat := List.replicate 5 0 ++ List.replicate 6 1 ++ List.replicate 15 0

theorem rehearsal_interrupted :
    rehearsal.Completes ["b", "c"] interruption ∧
      ∃ outcome t, rehearsal.scheduleBatch ["b", "c"] interruption = some (outcome, t) ∧
        t.log.entries.map (·.code) = [.goalUnparsed, .typeUnresolved, .goalUnparsed,
          .typeUnresolved, .typeUnresolved, .typeUnresolved, .internalFailure] ∧
        rehearsal.Agrees ["b", "c"] outcome t := by
  have hcompletes : rehearsal.Completes ["b", "c"] interruption := by
    intro i path hpath
    match i with
    | 0 =>
      obtain rfl : "b" = path := Option.some.inj hpath
      decide
    | 1 =>
      obtain rfl : "c" = path := Option.some.inj hpath
      decide
    | i + 2 => cases hpath
  obtain ⟨outcome, t, hbatch, hagrees⟩ :=
    (scheduleBatch_agrees rehearsal ["b", "c"]).2 interruption hcompletes
  have hcodes : (rehearsal.scheduleBatch ["b", "c"] interruption).map
      (fun p => p.2.log.entries.map (·.code)) = some [.goalUnparsed, .typeUnresolved,
        .goalUnparsed, .typeUnresolved, .typeUnresolved, .typeUnresolved, .internalFailure] := by
    decide
  rw [hbatch, Option.map_some] at hcodes
  exact ⟨hcompletes, outcome, t, hbatch, Option.some.inj hcodes, hagrees⟩

end Session

end Storyline
