import Storyline.Diagnostic.Log
import Storyline.Proofs.Schedule

/-!
# One log for several threads

Any number of threads send requests to one log, which serves them one at a time in the order in
which the schedule lets them arrive. A service is a log at work: it remembers every request it has
served, who sent it, and the answer.

A served request never loses, doubles or moves an entry. It adds the diagnostic that it reports at
the end, or hands all the entries over, or leaves them. So what has been taken, followed by what is
still there, is at any time what has been reported, in the order of the reports; and each thread
finds its own reports there in its own order. The answers are those of the same requests sent one
after another by a single thread. Asked for its entries and for all its counts, the log gives
numbers that agree with one another.
-/

namespace Storyline.DiagnosticLog

section Tally

variable (log : DiagnosticLog)

/-- The counts of a log agree with one another. -/
structure Tallied : Prop where
  severities : log.size = log.errorCount + log.warningCount
  codes : log.size = (Diagnostic.Code.all.map log.countOf).foldr (· + ·) 0
  hasErrors : log.hasErrors = true ↔ 0 < log.errorCount
  isEmpty : log.isEmpty = true ↔ log.size = 0

theorem size_eq_severities : log.size = log.errorCount + log.warningCount := by
  rw [size, errorCount, warningCount,
    List.length_eq_countP_add_countP (p := fun d : Diagnostic => d.severity = .error)]
  congr 1
  apply List.countP_congr
  intro d _
  cases d.severity <;> decide

/-- Every entry has one of the four codes, and only one. -/
theorem size_eq_codes : log.size = (Diagnostic.Code.all.map log.countOf).foldr (· + ·) 0 := by
  obtain ⟨entries⟩ := log
  simp only [Diagnostic.Code.all, List.map_cons, List.map_nil, List.foldr_cons, List.foldr_nil,
    size, countOf]
  induction entries with
  | nil => rfl
  | cons d ds ih =>
    rw [List.length_cons, ih]
    simp only [List.countP_cons]
    cases d.code <;> simp <;> omega

theorem hasErrors_iff : log.hasErrors = true ↔ 0 < log.errorCount := by
  rw [hasErrors, errorCount, List.any_eq_true, List.countP_pos_iff]
  rfl

theorem tallied : log.Tallied where
  severities := log.size_eq_severities
  codes := log.size_eq_codes
  hasErrors := log.hasErrors_iff
  isEmpty := by rw [isEmpty, size, List.isEmpty_iff, List.length_eq_zero_iff]

/-- What a log tells of its entries and their numbers. -/
structure Tally where
  entries : List Diagnostic
  size : Nat
  errors : Nat
  warnings : Nat
  hasErrors : Bool
  isEmpty : Bool
  ofCodes : List Nat

def Request.tally : List Request :=
  [.snapshot, .size, .errorCount, .warningCount, .hasErrors, .isEmpty] ++
    Diagnostic.Code.all.map .countOf

/-- The answers to `Request.tally` that tell `t`. -/
def Tally.answers (t : Tally) : List Answer :=
  [.entries t.entries, .count t.size, .count t.errors, .count t.warnings, .truth t.hasErrors,
    .truth t.isEmpty] ++ t.ofCodes.map .count

structure Tally.Agrees (t : Tally) : Prop where
  length : t.size = t.entries.length
  severities : t.size = t.errors + t.warnings
  codes : t.size = t.ofCodes.foldr (· + ·) 0
  hasErrors : t.hasErrors = true ↔ 0 < t.errors
  isEmpty : t.isEmpty = true ↔ t.size = 0

/-- To be asked leaves a log as it is. -/
theorem performAll_tally :
    ∃ t : Tally, log.performAll Request.tally = (t.answers, log) ∧ t.Agrees := by
  refine ⟨⟨log.entries, log.size, log.errorCount, log.warningCount, log.hasErrors, log.isEmpty,
    Diagnostic.Code.all.map log.countOf⟩, rfl, ?_⟩
  exact {
    length := rfl
    severities := log.tallied.severities
    codes := log.tallied.codes
    hasErrors := log.tallied.hasErrors
    isEmpty := log.tallied.isEmpty }

end Tally

def Request.diagnostic? : Request → Option Diagnostic
  | .report d => some d
  | _ => none

structure Exchange where
  thread : Nat
  request : Request
  answer : Answer

/-- What the sender of the request has taken out of the log. -/
def Exchange.take? : Exchange → Option (List Diagnostic)
  | ⟨_, .take, .entries ds⟩ => some ds
  | _ => none

structure Service where
  log : DiagnosticLog
  history : List Exchange := []

namespace Service

def serve (s : Service) (i : Nat) (r : Request) : Service where
  log := (s.log.perform r).2
  history := s.history ++ [⟨i, r, (s.log.perform r).1⟩]

def takes (s : Service) : List (List Diagnostic) := s.history.filterMap Exchange.take?

/-- All that has gone through the log: what was taken, then what is there. -/
def content (s : Service) : List Diagnostic := s.takes.flatten ++ s.log.entries

theorem serve_takes (s : Service) (i : Nat) (r : Request) :
    (s.serve i r).takes =
      s.takes ++ (Exchange.take? ⟨i, r, (s.log.perform r).1⟩).toList := by
  rw [takes, serve, List.filterMap_append, takes]
  cases htake : Exchange.take? ⟨i, r, (s.log.perform r).1⟩ with
  | none => simp [htake]
  | some ds => simp [htake]

/-- One request adds what it reports at the end, and nothing else happens to the content. -/
theorem serve_content (s : Service) (i : Nat) (r : Request) :
    (s.serve i r).content = s.content ++ r.diagnostic?.toList := by
  rw [content, serve_takes]
  cases r with
  | report d => simp [content, serve, perform, report, Exchange.take?, Request.diagnostic?]
  | take => simp [content, serve, perform, empty, Exchange.take?, Request.diagnostic?]
  -- the other requests only read
  | _ => simp [content, serve, perform, Exchange.take?, Request.diagnostic?]

variable (trace : List (Nat × Request))

def serveAll (s : Service) : Service := trace.foldl (fun s m => s.serve m.1 m.2) s

theorem serveAll_content (s : Service) :
    (s.serveAll trace).content = s.content ++ trace.filterMap (·.2.diagnostic?) := by
  induction trace generalizing s with
  | nil => exact (List.append_nil _).symm
  | cons m trace ih =>
    have hstep : s.serveAll (m :: trace) = (s.serve m.1 m.2).serveAll trace := rfl
    rw [hstep, ih, serve_content, List.append_assoc]
    cases hm : m.2.diagnostic? with
    | none => simp only [List.filterMap_cons, hm, Option.toList_none, List.nil_append]
    | some d => simp only [List.filterMap_cons, hm, Option.toList_some, List.singleton_append]

/-- Who sent a request makes no difference to its answer. -/
theorem serveAll_history (s : Service) :
    (s.serveAll trace).history.map (·.answer) =
        s.history.map (·.answer) ++ (s.log.performAll (trace.map (·.2))).1 ∧
      (s.serveAll trace).history.map (fun x => (x.thread, x.request)) =
        s.history.map (fun x => (x.thread, x.request)) ++ trace := by
  induction trace generalizing s with
  | nil => exact ⟨(List.append_nil _).symm, (List.append_nil _).symm⟩
  | cons m trace ih =>
    have hstep : s.serveAll (m :: trace) = (s.serve m.1 m.2).serveAll trace := rfl
    obtain ⟨hanswers, hrequests⟩ := ih (s.serve m.1 m.2)
    rw [hstep, hanswers, hrequests]
    simp [serve, performAll]

end Service

/-- The threads at work on a log, as a schedule lets them. -/
def share (log : DiagnosticLog) (threads : List (List Request)) (schedule : List Nat) :
    Pool Service Request :=
  Pool.run Service.serve ⟨⟨log, []⟩, threads, []⟩ schedule

/-- The reports in a trace, each with the thread that made it. -/
def reportsOf (trace : List (Nat × Request)) : List (Nat × Diagnostic) :=
  trace.filterMap fun m => m.2.diagnostic?.map fun d => (m.1, d)

theorem reportsOf_map_snd (trace : List (Nat × Request)) :
    (reportsOf trace).map (·.2) = trace.filterMap (·.2.diagnostic?) := by
  rw [reportsOf, List.map_filterMap]
  congr 1
  funext m
  cases m.2.diagnostic? <;> rfl

/-- What is true of threads that share a log, at every point of their work. -/
structure Shared (log : DiagnosticLog) (threads : List (List Request)) (p : Pool Service Request) :
    Prop where
  content : ∃ rest, (p.shared.log.perform .snapshot).1 = .entries rest ∧
    p.shared.takes.flatten ++ rest = log.entries ++ (reportsOf p.trace).map (·.2)
  own : ∀ (i : Nat) (requests : List Request), threads[i]? = some requests →
    ∃ left, p.threads[i]? = some left ∧
      Pool.movesOf (reportsOf p.trace) i ++ left.filterMap Request.diagnostic? =
        requests.filterMap Request.diagnostic?
  reporters : ∀ m ∈ reportsOf p.trace, m.1 < threads.length
  complete : p.done = true →
    ((reportsOf p.trace).map (·.2)).Perm (threads.flatten.filterMap Request.diagnostic?)
  served : p.shared.history.map (fun x => (x.thread, x.request)) = p.trace
  answers : p.shared.history.map (·.answer) = (log.performAll (p.trace.map (·.2))).1
  tallied : p.shared.log.Tallied
  told : ∃ t : Tally, p.shared.log.performAll Request.tally = (t.answers, p.shared.log) ∧ t.Agrees

variable {log : DiagnosticLog} {threads : List (List Request)} {schedule : List Nat}

theorem share_follows (log : DiagnosticLog) (threads : List (List Request)) (schedule : List Nat) :
    Pool.Follows Service.serve ⟨⟨log, []⟩, threads, []⟩ (log.share threads schedule) :=
  (Pool.Follows.refl rfl).run schedule

theorem share_shared :
    (log.share threads schedule).shared =
      Service.serveAll (log.share threads schedule).trace ⟨log, []⟩ :=
  (share_follows log threads schedule).shared

theorem share_own {i : Nat} {requests : List Request} (hi : threads[i]? = some requests) :
    ∃ left, (log.share threads schedule).threads[i]? = some left ∧
      Pool.movesOf (reportsOf (log.share threads schedule).trace) i ++
        left.filterMap Request.diagnostic? = requests.filterMap Request.diagnostic? := by
  have hthread := (share_follows log threads schedule).threads i
  rw [hi] at hthread
  obtain ⟨left, hleft, hwhole⟩ := Option.map_eq_some_iff.mp hthread.symm
  refine ⟨left, hleft, ?_⟩
  rw [reportsOf, Pool.movesOf_filterMap, ← List.filterMap_append, hwhole]

/-- However many threads share a log and whatever turns they take: what they have taken followed by
what is left is what they have reported, in that order, and the counts agree, also as answers to
whoever asks. The schedule need not bring the threads to an end, so this holds at every point. -/
theorem share_keeps (log : DiagnosticLog) (threads : List (List Request)) (schedule : List Nat) :
    Shared log threads (log.share threads schedule) := by
  have hfollows := share_follows log threads schedule
  have hhistory := Service.serveAll_history (log.share threads schedule).trace ⟨log, []⟩
  have hcontent := Service.serveAll_content (log.share threads schedule).trace ⟨log, []⟩
  rw [← share_shared] at hhistory hcontent
  rw [← reportsOf_map_snd] at hcontent
  exact {
    content := ⟨_, rfl, hcontent⟩
    own := fun i requests => share_own
    reporters := by
      intro m hm
      obtain ⟨move, hmove, hreport⟩ := List.mem_filterMap.mp hm
      obtain ⟨d, _, rfl⟩ := Option.map_eq_some_iff.mp hreport
      exact hfollows.placed move hmove
    complete := by
      intro hdone
      have hperm := (hfollows.perm_of_done hdone).filterMap Request.diagnostic?
      rw [List.filterMap_map] at hperm
      rw [reportsOf_map_snd]
      exact hperm
    served := hhistory.2
    answers := hhistory.1
    tallied := tallied _
    told := performAll_tally _ }

/-- Two threads that report, one of which empties the log while the other is not done yet. -/
def duet : List (List Request) :=
  [[.report { code := .typeUnresolved, severity := .error, message := "one" }, .take,
      .report { code := .internalFailure, severity := .error, message := "two" }],
    [.report { code := .annotationConflict, severity := .warning, message := "three" }, .size,
      .report { code := .goalUnparsed, severity := .error, message := "four" }, .hasErrors]]

theorem duet_keeps :
    (empty.share duet [0, 1, 1, 0, 1, 1, 0]).done = true ∧
    (empty.share duet [0, 1, 1, 0, 1, 1, 0]).shared.history.map (·.answer) =
      [.done, .done, .count 2, .entries [
        { code := .typeUnresolved, severity := .error, message := "one" },
        { code := .annotationConflict, severity := .warning, message := "three" }],
        .done, .truth true, .done] ∧
    (empty.share duet [0, 1, 1, 0, 1, 1, 0]).shared.log.entries.map (·.message) = ["four", "two"] ∧
    Shared empty duet (empty.share duet [0, 1, 1, 0, 1, 1, 0]) :=
  ⟨by decide, by decide, by decide, share_keeps empty duet _⟩

end Storyline.DiagnosticLog
