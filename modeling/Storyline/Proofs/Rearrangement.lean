import Mathlib.Data.Fin.Rev
import Mathlib.Data.List.OfFn
import Mathlib.Logic.Equiv.Defs
import Storyline.Proofs.Batch

/-!
# Batches in another order

The identifier that a goal is lowered under can be read off its result and nowhere else: under
another one the goal comes to the same fault, or to the same result with other labels, and the same
is reported. In a batch the identifier of a goal is its position, so the order of a batch matters
for labels and for the order of the reports, and for nothing more.

A report of a malformed goal would name its identifier. Lowering makes no malformed goal from a
source within the limits, which is why the limits are asked for.
-/

namespace Storyline

namespace Source.Goal

variable {g : Goal}

/-- Lowering under `a` and under `b` differ by their labels. -/
structure LabelOnly (ctx : Context) (g : Goal) (a b : GoalId) : Prop where
  outcome : (∃ type kind, (g.lower ctx a).outcome = .error (.missingBuiltin type kind) ∧
      (g.lower ctx b).outcome = .error (.missingBuiltin type kind)) ∨
    ∃ r r', (g.lower ctx a).outcome = .ok r ∧ (g.lower ctx b).outcome = .ok r' ∧
      ∀ id, r.relabel id = r'.relabel id
  reports : (g.lower ctx a).diagnostics = (g.lower ctx b).diagnostics

theorem labelOnly (ctx : Context) (hg : g.WithinLimits) (a b : GoalId) : g.LabelOnly ctx a b := by
  refine ⟨?_, g.lower_diagnostics_relabel ctx a b⟩
  rcases typable_or_first_untypable ctx.types g.occurrences with htyped | hfirst
  · have hlower : (g.lower ctx b).outcome = .ok (g.canonical ctx.types b) :=
      lower_of_typable hg htyped
    have houtcome := g.lower_outcome_relabel ctx a b
    rw [hlower] at houtcome
    exact Or.inr ⟨_, _, houtcome, hlower, fun id => Resolved.Goal.relabel_relabel id a _⟩
  · obtain ⟨before, o, after, hsplit, hbefore, ho⟩ := hfirst
    have hfaults : ∃ c type, o.value = .constant c ∧ c.literal.kind.builtinType? = some type ∧
        (g.lower ctx b).outcome = .error (.missingBuiltin type c.literal.kind) :=
      (lower_of_untypable hg.numerable hsplit hbefore ho).1
    obtain ⟨c, type, _, _, hfault⟩ := hfaults
    refine Or.inl ⟨type, c.literal.kind, ?_, hfault⟩
    -- a missing builtin type names no goal, so its relabelled fault is itself
    rw [g.lower_outcome_relabel ctx a b, hfault]
    rfl

end Source.Goal

namespace Compilation

variable {parse : Parser} {path : String}

theorem failureReport_relabel (ctx : Context)
    (h : ∀ g, parse path = some g → g.WithinLimits) (a b : GoalId) :
    failureReport (run parse ctx path a).outcome = failureReport (run parse ctx path b).outcome := by
  rw [run_outcome_relabel parse ctx path a b]
  cases hparse : parse path with
  | none =>
    rw [run_unparsed hparse]
    rfl
  | some g =>
    rcases (g.labelOnly ctx (h g hparse) a b).outcome with ⟨type, kind, _, hfault⟩ | ⟨_, r, _, hr, _⟩
    · rw [run_failed hparse hfault]
      rfl
    · rw [run_lowered hparse hr]
      rfl

theorem run_diagnostics_eq (ctx : Context) (h : ∀ g, parse path = some g → g.WithinLimits)
    (a b : GoalId) :
    (run parse ctx path a).diagnostics = (run parse ctx path b).diagnostics := by
  rw [run_diagnostics_relabel parse ctx path a b, run_diagnostics_relabel parse ctx path b b,
    failureReport_relabel ctx h a b]

end Compilation

theorem zipIdx_ofFn {α : Type} {n : Nat} (f : Fin n → α) :
    (List.ofFn f).zipIdx = List.ofFn fun i => (f i, i.val) := by
  apply List.ext_getElem
  · rw [List.length_zipIdx, List.length_ofFn, List.length_ofFn]
  · intro i hi hi'
    simp only [List.getElem_zipIdx, List.getElem_ofFn, Nat.zero_add]

namespace Session

variable {n : Nat}

theorem compileBatch_ofFn_outcome (s : Session) (f : Fin n → String) (h : n < UInt32.size) :
    (s.sequential.compileBatch (List.ofFn f)).1 = .ok (List.ofFn fun i => (s.alone i (f i)).1) := by
  have hlength : (List.ofFn f).length < UInt32.size := by rwa [List.length_ofFn]
  rw [compileBatch_outcome hlength, Compilation.batchRuns, zipIdx_ofFn, List.map_ofFn, List.map_ofFn]
  rfl

theorem compileBatch_ofFn_log (s : Session) (f : Fin n → String) (h : n < UInt32.size) :
    (s.sequential.compileBatch (List.ofFn f)).2.log.entries =
      s.log.entries ++ (List.ofFn fun i => (s.alone i (f i)).2.log.entries).flatten := by
  have hlength : (List.ofFn f).length < UInt32.size := by rwa [List.length_ofFn]
  have hreports := Compilation.runBatch_diagnostics s.parse s.context false hlength
  rw [zipIdx_ofFn, List.flatMap_def, List.map_ofFn] at hreports
  exact congrArg (s.log.entries ++ ·) hreports

/-- The goal of a path, compiled alone at two positions. -/
theorem alone_relabel (s : Session) (path : String) (i j : Nat) :
    (s.alone i path).1 = Compilation.relabel ⟨.ofNat i⟩ (s.alone j path).1 :=
  Compilation.run_outcome_relabel s.parse s.context path _ _

theorem alone_log_eq {s : Session} {path : String}
    (h : ∀ g, s.parse path = some g → g.WithinLimits) (i j : Nat) :
    (s.alone i path).2.log = (s.alone j path).2.log :=
  congrArg DiagnosticLog.empty.reportAll (Compilation.run_diagnostics_eq s.context h _ _)

/-- At position `i` stands the path that stood at position `σ i`. -/
def rearrange (paths : List String) (σ : Equiv.Perm (Fin paths.length)) : List String :=
  List.ofFn fun i => paths.get (σ i)

/-- What the goal at a position of the batch reports on its own. -/
def reportsAt (s : Session) (paths : List String) (i : Fin paths.length) : List Diagnostic :=
  (s.alone i (paths.get i)).2.log.entries

/-- The batch of the rearranged paths gives the results of the batch in the new order, labelled by
the new positions. If the sources are within the limits, it also reports what the batch reported,
goal by goal in the new order. -/
structure Rearranged (s : Session) (paths : List String) (σ : Equiv.Perm (Fin paths.length)) :
    Prop where
  results : ∃ results : Fin paths.length → Compilation.Result,
    (s.sequential.compileBatch paths).1 = .ok (List.ofFn results) ∧
    (s.sequential.compileBatch (rearrange paths σ)).1 =
      .ok (List.ofFn fun i => Compilation.relabel ⟨.ofNat i⟩ (results (σ i)))
  log : (∀ path ∈ paths, ∀ g, s.parse path = some g → g.WithinLimits) →
    (s.sequential.compileBatch paths).2.log.entries =
      s.log.entries ++ (List.ofFn (s.reportsAt paths)).flatten ∧
    (s.sequential.compileBatch (rearrange paths σ)).2.log.entries =
      s.log.entries ++ (List.ofFn fun i => s.reportsAt paths (σ i)).flatten

theorem rearranged {s : Session} {paths : List String} (h : paths.length < UInt32.size)
    (σ : Equiv.Perm (Fin paths.length)) : s.Rearranged paths σ := by
  have houtcome := s.compileBatch_ofFn_outcome paths.get h
  have hlog := s.compileBatch_ofFn_log paths.get h
  rw [List.ofFn_get] at houtcome hlog
  refine ⟨⟨_, houtcome, ?_⟩, fun hparse => ⟨hlog, ?_⟩⟩
  · rw [rearrange, compileBatch_ofFn_outcome s _ h]
    simp only [← alone_relabel]
  · have hsame : ∀ i : Fin paths.length, (s.alone i (paths.get (σ i))).2.log =
        (s.alone (σ i) (paths.get (σ i))).2.log :=
      fun i => alone_log_eq (hparse _ (List.get_mem paths (σ i))) _ _
    rw [rearrange, compileBatch_ofFn_log s _ h]
    simp only [hsame, reportsAt]

/-- The identifier of a goal is a label. Lowering under two identifiers fails alike or gives the
same goal up to the identifier, and reports the same. So a batch in another order gives the same
results and reports in that order, and only the labels of the results follow the new positions. -/
theorem identifiers_are_labels :
    (∀ (ctx : Context) (g : Source.Goal), g.WithinLimits → ∀ a b, g.LabelOnly ctx a b) ∧
    ∀ (s : Session) (paths : List String), paths.length < UInt32.size →
      ∀ σ : Equiv.Perm (Fin paths.length), s.Rearranged paths σ :=
  ⟨fun ctx _ hg => Source.Goal.labelOnly ctx hg, fun _ _ h => rearranged h⟩

theorem rehearsal_withinLimits (path : String) (g : Source.Goal)
    (h : rehearsal.parse path = some g) : g.WithinLimits := by
  simp only [rehearsal] at h
  split at h
  · obtain rfl := Option.some.inj h
    decide
  · split at h
    · obtain rfl := Option.some.inj h
      decide
    · cases h

/-- The rehearsal backwards: the goal of `a` compiles as number two and not as number zero. -/
theorem rehearsal_reversed :
    Source.Goal.clash.LabelOnly { types := .empty } ⟨1⟩ ⟨7⟩ ∧
    rearrange ["a", "b", "c"] Fin.revPerm = ["c", "b", "a"] ∧
    rehearsal.Rearranged ["a", "b", "c"] Fin.revPerm ∧
    (rehearsal.sequential.compileBatch ["c", "b", "a"]).2.log.entries =
      rehearsal.log.entries ++ rehearsal.reportsAt ["a", "b", "c"] ⟨2, by decide⟩ ++
        rehearsal.reportsAt ["a", "b", "c"] ⟨1, by decide⟩ ++
        rehearsal.reportsAt ["a", "b", "c"] ⟨0, by decide⟩ ∧
    ∃ r, (rehearsal.sequential.compileBatch ["a", "b", "c"]).1 =
        .ok [.ok r, .error (.lowering (.missingBuiltin .string .text)), .error (.unparsed "c")] ∧
      (rehearsal.sequential.compileBatch ["c", "b", "a"]).1 = .ok [.error (.unparsed "c"),
        .error (.lowering (.missingBuiltin .string .text)), .ok (r.relabel ⟨2⟩)] := by
  obtain ⟨hlabel, hbatch⟩ := identifiers_are_labels
  have hrearranged := hbatch rehearsal ["a", "b", "c"] (by decide) Fin.revPerm
  have hpaths : rearrange ["a", "b", "c"] Fin.revPerm = ["c", "b", "a"] := rfl
  have hlog := (hrearranged.log fun path _ => rehearsal_withinLimits path).2
  rw [hpaths] at hlog
  exact ⟨hlabel _ _ (by decide) _ _, hpaths, hrearranged, by simpa using hlog, _, rfl, rfl⟩

end Session

end Storyline
