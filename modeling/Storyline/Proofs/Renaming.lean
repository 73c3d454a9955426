import Mathlib.Data.List.Forall2
import Mathlib.Data.Set.Function
import Storyline.Proofs.Relabel

/-!
# Names of variables

The names of a rule's variables serve to tell them apart and for nothing else. A renaming of a
source goal puts other names on its references. If it keeps the variables of each rule apart, the
renamed goal is lowered like the original one, with the new names in the slots, or it fails with the
same fault.

The two runs are followed side by side. Their scopes differ by the renaming only, and as it keeps
the names of the rule apart, a reference finds the slot in one scope that it finds in the other. So
both open the same slots at the same references, however many there are, and their reports
correspond one by one. Those about conflicts quote a name, and nothing else in them changes.
-/

namespace Storyline

namespace Resolved

variable (f : String → String)

def Slot.rename (s : Slot) : Slot := { s with name := f s.name }

/-- Variables are referred to by number, so only the slots of a rule have names to change. -/
def Rule.renameSlots (r : Rule) : Rule := { r with slots := r.slots.map (Slot.rename f) }

def Goal.renameSlots (g : Goal) : Goal := { g with rules := g.rules.map (Rule.renameSlots f) }

namespace Rule

variable (rule : Nat) (r : Rule)

theorem checkSlots_rename (position : Nat) (slots : List Slot) :
    checkSlots rule position (slots.map (Slot.rename f)) = checkSlots rule position slots := by
  induction slots generalizing position with
  | nil => rfl
  | cons s rest ih => rw [List.map_cons, checkSlots, checkSlots, ih, Slot.rename]

theorem checkValue_renameSlots (v : Value) :
    (r.renameSlots f).checkValue rule v = r.checkValue rule v := by
  cases v with
  | constant c => rfl
  | reference x =>
    simp only [checkValue, slot?, renameSlots, List.getElem?_map, List.length_map]
    cases r.slots[x.index.toNat]? <;> rfl

theorem checkCall_renameSlots (c : Call) :
    (r.renameSlots f).checkCall rule c = r.checkCall rule c := by
  rw [checkCall, checkCall, funext (checkValue_renameSlots f rule r)]

theorem checkCondition_renameSlots (c : Condition) :
    (r.renameSlots f).checkCondition rule c = r.checkCondition rule c := by
  cases c with
  | query c => exact checkCall_renameSlots f rule r c
  | comparison c => simp only [checkCondition, checkValue_renameSlots]

theorem checkAction_renameSlots (goal : GoalId) (a : Action) :
    (r.renameSlots f).checkAction rule goal a = r.checkAction rule goal a := by
  cases a with
  | completion target => rfl
  | call c => exact checkCall_renameSlots f rule r c

theorem check_renameSlots (goal : GoalId) :
    (r.renameSlots f).check rule goal = r.check rule goal := by
  rw [check, check, funext (checkCondition_renameSlots f rule r),
    funext (checkAction_renameSlots f rule r goal)]
  simp only [renameSlots, checkSlots_rename]

end Rule

theorem Goal.check_renameSlots (g : Goal) : (g.renameSlots f).check = g.check := by
  have hrules : checkAll (fun p => p.1.check p.2 g.id) (g.renameSlots f).rules.zipIdx =
      checkAll (fun p => p.1.check p.2 g.id) g.rules.zipIdx := by
    rw [renameSlots, List.zipIdx_map]
    exact checkAll_map fun p _ => p.1.check_renameSlots f p.2 g.id
  have hviolation : (g.renameSlots f).firstViolation = g.firstViolation := by
    rw [firstViolation_eq, firstViolation_eq, ← hrules]
    rfl
  rw [check, check, hviolation]
  rfl

end Resolved

namespace Source

variable (f : String → String)

def Variable.rename (v : Variable) : Variable := { v with name := f v.name }

def Value.rename : Value → Value
  | .constant c => .constant c
  | .reference v => .reference (v.rename f)

def Call.rename (c : Call) : Call := { c with args := c.args.map (Value.rename f) }

def Condition.rename : Condition → Condition
  | .query c => .query (c.rename f)
  | .comparison c => .comparison { c with left := c.left.rename f, right := c.right.rename f }

def Action.rename : Action → Action
  | .completion span => .completion span
  | .call c => .call (c.rename f)

def Rule.rename (r : Rule) : Rule :=
  { r with
    conditions := r.conditions.map (Condition.rename f)
    actions := r.actions.map (Action.rename f) }

def Goal.rename (g : Goal) : Goal := { g with rules := g.rules.map (Rule.rename f) }

end Source

namespace Run

variable {ε α β γ δ σ : Type} {R : Diagnostic → Diagnostic → Prop}

/-- Two runs side by side: the second ends as the first one does, up to `φ`, and reports one by one
what the first one reports, up to `R`. What the first one gives has the property `P`. -/
structure Mirrors (R : Diagnostic → Diagnostic → Prop) (φ : α → β) (P : α → Prop) (r : Run ε α)
    (r' : Run ε β) : Prop where
  outcome : r'.outcome = r.outcome.map φ
  reports : List.Forall₂ R r.diagnostics r'.diagnostics
  value : ∀ a, r.outcome = .ok a → P a

namespace Mirrors

theorem succeed {φ : α → β} {P : α → Prop} {a : α} (ha : P a) :
    Mirrors R φ P (pure a : Run ε α) (pure (φ a)) where
  outcome := rfl
  reports := .nil
  value := by
    intro b hb
    rwa [← Except.ok.inj hb]

theorem refl {r : Run ε α} (h : List.Forall₂ R r.diagnostics r.diagnostics) :
    Mirrors R id (fun _ => True) r r where
  outcome := by cases r.outcome <;> rfl
  reports := h
  value := fun _ _ => trivial

theorem bind {φ : α → β} {P : α → Prop} {ψ : γ → δ} {Q : γ → Prop} {r : Run ε α} {r' : Run ε β}
    {next : α → Run ε γ} {next' : β → Run ε δ} (hr : Mirrors R φ P r r')
    (hnext : ∀ a, P a → Mirrors R ψ Q (next a) (next' (φ a))) :
    Mirrors R ψ Q (r >>= next) (r' >>= next') := by
  have houtcome := hr.outcome
  cases h : r.outcome with
  | error e =>
    rw [h] at houtcome
    rw [bind_of_error h, bind_of_error houtcome]
    refine ⟨rfl, hr.reports, ?_⟩
    intro c hc
    cases hc
  | ok a =>
    rw [h] at houtcome
    have hlater := hnext a (hr.value a h)
    constructor
    · rw [outcome_bind_of_ok h, outcome_bind_of_ok houtcome, hlater.outcome]
    · rw [diagnostics_bind_of_ok h, diagnostics_bind_of_ok houtcome]
      exact List.rel_append hr.reports hlater.reports
    · rw [outcome_bind_of_ok h]
      exact hlater.value

theorem forEach {φ : β → δ} {g : α → γ} {f : α → Run ε β} {f' : γ → Run ε δ} {as : List α}
    (h : ∀ a ∈ as, Mirrors R φ (fun _ => True) (f a) (f' (g a))) :
    Mirrors R (List.map φ) (fun _ => True) (Run.forEach f as) (Run.forEach f' (as.map g)) := by
  induction as with
  | nil => exact succeed trivial
  | cons a as ih =>
    obtain ⟨ha, has⟩ := List.forall_mem_cons.mp h
    apply ha.bind
    intro b _
    apply (ih has).bind
    intro bs _
    exact succeed trivial

theorem forEach_self {f : α → Run ε β} {as : List α}
    (h : ∀ a ∈ as, Mirrors R id (fun _ => True) (f a) (f a)) :
    Mirrors R id (fun _ => True) (Run.forEach f as) (Run.forEach f as) := by
  have hself : Mirrors R (List.map id) (fun _ => True) (Run.forEach f as)
      (Run.forEach f (as.map id)) := forEach h
  rwa [List.map_id, List.map_id_fun] at hself

/-- Two loops whose states stay in step, as long as the states have the property `P`. -/
theorem thread {ρ : σ → σ} {P : σ → Prop} {g : α → α} {f : σ → α → Run ε (β × σ)} {as : List α}
    (h : ∀ s, P s → ∀ a ∈ as,
      Mirrors R (fun p => (p.1, ρ p.2)) (fun p => P p.2) (f s a) (f (ρ s) (g a)))
    {s : σ} (hs : P s) :
    Mirrors R (fun p => (p.1, ρ p.2)) (fun p => P p.2) (Run.thread f s as)
      (Run.thread f (ρ s) (as.map g)) := by
  induction as generalizing s with
  | nil => exact succeed hs
  | cons a as ih =>
    apply (h s hs a List.mem_cons_self).bind
    intro p hp
    apply (ih (fun s hs b hb => h s hs b (List.mem_cons_of_mem a hb)) hp).bind
    intro q hq
    exact succeed hq

end Mirrors

end Run

namespace Scope

variable {f : String → String} {names : Set String} {s : Scope} {b : Binding} {name : String}

def Binding.rename (f : String → String) (b : Binding) : Binding := ⟨b.slot.rename f, b.firstSpan⟩

def rename (f : String → String) (s : Scope) : Scope where
  slots := s.slots.map (Resolved.Slot.rename f)
  firstSpans := s.firstSpans
  positions := s.positions.map fun p => (f p.1, p.2)

/-- The names that a scope knows are among the given ones. -/
structure NamesIn (names : Set String) (s : Scope) : Prop where
  slots : ∀ slot ∈ s.slots, slot.name ∈ names
  positions : ∀ p ∈ s.positions, p.1 ∈ names

theorem NamesIn.empty : NamesIn names .empty := ⟨List.forall_mem_nil _, List.forall_mem_nil _⟩

theorem NamesIn.insert (hs : s.NamesIn names) (hb : b.slot.name ∈ names) :
    (s.insert b).NamesIn names where
  slots := List.forall_mem_append.mpr ⟨hs.slots, List.forall_mem_singleton.mpr hb⟩
  positions := List.forall_mem_cons.mpr ⟨hb, hs.positions⟩

theorem NamesIn.of_find? (hs : s.NamesIn names) (h : s.find? name = some b) :
    b.slot.name ∈ names := by
  obtain ⟨index, _, hbinding⟩ := Option.bind_eq_some_iff.mp h
  obtain ⟨slot, hslot, hspan⟩ := Option.bind_eq_some_iff.mp hbinding
  obtain ⟨span, _, rfl⟩ := Option.map_eq_some_iff.mp hspan
  exact hs.slots slot (List.mem_of_getElem? hslot)

theorem insert_rename (s : Scope) (b : Binding) :
    (s.insert b).rename f = (s.rename f).insert (b.rename f) := by
  simp [rename, insert, Binding.rename, Resolved.Slot.rename, nextIndex, size]

theorem binding?_rename (s : Scope) (position : Nat) :
    (s.rename f).binding? position = (s.binding? position).map (Binding.rename f) := by
  simp only [binding?, rename, List.getElem?_map]
  cases s.slots[position]? with
  | none => rfl
  | some slot => cases s.firstSpans[position]? <;> rfl

theorem lookup_rename {positions : List (String × UInt32)}
    (h : ∀ p ∈ positions, f p.1 = f name → p.1 = name) :
    (positions.map fun p => (f p.1, p.2)).lookup (f name) = positions.lookup name := by
  induction positions with
  | nil => rfl
  | cons p positions ih =>
    obtain ⟨hp, hpositions⟩ := List.forall_mem_cons.mp h
    have hsame : (f name == f p.1) = (name == p.1) := by
      rw [Bool.eq_iff_iff, beq_iff_eq, beq_iff_eq]
      exact ⟨fun heq => (hp heq.symm).symm, congrArg f⟩
    rw [List.map_cons, List.lookup_cons, List.lookup_cons, hsame, ih hpositions]

/-- A look-up by name finds the same slot, if no other variable has come to its name. -/
theorem find?_rename (hf : Set.InjOn f names) (hs : s.NamesIn names) (hname : name ∈ names) :
    (s.rename f).find? (f name) = (s.find? name).map (Binding.rename f) := by
  have hlookup : (s.rename f).positions.lookup (f name) = s.positions.lookup name :=
    lookup_rename fun p hp => hf (hs.positions p hp) hname
  rw [find?, find?, hlookup]
  cases s.positions.lookup name with
  | none => rfl
  | some index => exact binding?_rename s index.toNat

end Scope

namespace Source

section Reports

/-- The second report is the first one told about renamed variables: only a conflict quotes a name,
that of a variable of the goal. -/
structure Goal.Retold (g : Goal) (f : String → String) (d d' : Diagnostic) : Prop where
  code : d'.code = d.code
  severity : d'.severity = d.severity
  labels : d'.labels = d.labels
  notes : d'.notes = d.notes
  unresolved : d.code = .typeUnresolved → d' = d
  conflict : d.code ≠ .typeUnresolved → d.code = .annotationConflict ∧
    ∃ r ∈ g.rules, ∃ name ∈ names r.references, ∃ rest,
      d.message = "variable `" ++ name ++ "` is annotated `" ++ rest ∧
        d'.message = "variable `" ++ f name ++ "` is annotated `" ++ rest

variable {f} {g : Goal} {r : Rule}

theorem Goal.retold_unknownType (typeName : String) (span : Span) :
    g.Retold f (unknownType typeName span) (unknownType typeName span) where
  code := rfl
  severity := rfl
  labels := rfl
  notes := rfl
  unresolved := fun _ => rfl
  conflict := fun hcode => absurd rfl hcode

theorem Goal.retold_conflict (types : TypeTable) (hr : r ∈ g.rules) {b : Scope.Binding}
    (hb : b.slot.name ∈ names r.references) (typeName : String) (span : Span) :
    g.Retold f (Scope.conflict types b typeName span)
      (Scope.conflict types (b.rename f) typeName span) := by
  rw [Scope.conflict_eq, Scope.conflict_eq]
  exact {
    code := rfl
    severity := rfl
    labels := rfl
    notes := rfl
    unresolved := by
      intro hcode
      cases hcode
    conflict := by
      intro _
      refine ⟨rfl, r, hr, b.slot.name, hb, typeName ++ "` but is already bound with " ++
        typePhrase types b.slot.type, ?_, ?_⟩
      · simp only [String.append_assoc]
      · simp only [String.append_assoc]
        rfl }

end Reports

section Simulation

variable {f} (ctx : Context) {g : Goal} {r : Rule}

theorem resolveName_mirrors (typeName : String) (span : Span) :
    (ctx.types.resolveName typeName span).Mirrors (g.Retold f) id (fun _ => True)
      (ctx.types.resolveName typeName span) := by
  apply Run.Mirrors.refl
  cases h : ctx.types.lookup? typeName with
  | some type =>
    rw [TypeTable.resolveName_diagnostics_of_some _ _ _ h]
    exact .nil
  | none =>
    rw [TypeTable.resolveName_diagnostics_of_none _ _ _ h]
    exact .cons (g.retold_unknownType typeName span) .nil

theorem Constant.lower_mirrors (c : Constant) :
    (c.lower ctx).Mirrors (g.Retold f) id (fun _ => True) (c.lower ctx) := by
  apply Run.Mirrors.bind (φ := id) (P := fun _ => True)
  · cases c.typeName with
    | some typeName =>
      rw [TypeTable.typing, ← bind_pure_comp]
      exact (resolveName_mirrors ctx typeName c.span).bind fun _ _ => .succeed trivial
    | none =>
      apply Run.Mirrors.refl
      rw [TypeTable.typing, Run.diagnostics_map]
      cases ctx.types.inferType c.literal.kind <;> exact .nil
  · intro typing _
    exact .succeed trivial

theorem Fact.lower_mirrors (fact : Fact) :
    (fact.lower ctx).Mirrors (g.Retold f) id (fun _ => True) (fact.lower ctx) := by
  apply (Run.Mirrors.forEach_self fun c _ => c.lower_mirrors ctx).bind
  intro elements _
  exact .succeed trivial

/-- The two runs lower a part of a rule to the same, the second one from the scope that the renaming
makes of the first one's, and they leave such scopes again. -/
abbrev InStep (g : Goal) (r : Rule) (f : String → String) {β : Type}
    (first second : Run Fault (β × Scope)) : Prop :=
  first.Mirrors (g.Retold f) (fun p => (p.1, p.2.rename f))
    (fun p => p.2.NamesIn {name | name ∈ names r.references}) second

variable (hr : r ∈ g.rules) (hf : Set.InjOn f {name | name ∈ names r.references})

include hr in
theorem reviseType_mirrors {b : Scope.Binding} (hb : b.slot.name ∈ names r.references)
    (typeName : String) (span : Span) :
    (Scope.reviseType ctx b typeName span).Mirrors (g.Retold f) id (fun _ => True)
      (Scope.reviseType ctx (b.rename f) typeName span) := by
  apply (resolveName_mirrors ctx typeName span).bind
  intro type _
  cases type with
  | none => exact .succeed trivial
  | some type =>
    -- a renamed slot has its old type
    have htype : (b.rename f).slot.type = b.slot.type := rfl
    dsimp only [id]
    rw [htype]
    split
    · exact ⟨rfl, .cons (g.retold_conflict ctx.types hr hb typeName span) .nil, fun _ _ => trivial⟩
    · exact .succeed trivial

include hr hf

theorem bind_inStep {s : Scope} (hs : s.NamesIn {name | name ∈ names r.references}) {v : Variable}
    (hv : v ∈ r.references) :
    InStep g r f (s.bind ctx v) ((s.rename f).bind ctx (v.rename f)) := by
  have hname : v.name ∈ names r.references := List.mem_map_of_mem hv
  have hfind : (s.rename f).find? (v.rename f).name =
      (s.find? v.name).map (Scope.Binding.rename f) := Scope.find?_rename hf hs hname
  rw [Scope.bind, Scope.bind, hfind]
  cases hfirst : s.find? v.name with
  | some b =>
    have hlater : InStep g r f (pure (b.reference, s))
        (pure ((b.rename f).reference, s.rename f)) := .succeed hs
    have htypeName : (v.rename f).typeName = v.typeName := rfl
    dsimp only [Option.map_some]
    rw [htypeName]
    cases v.typeName with
    | none => exact hlater
    | some typeName =>
      have hb : b.slot.name ∈ names r.references := hs.of_find? hfirst
      exact (reviseType_mirrors ctx hr hb typeName v.span).bind fun _ _ => hlater
  | none =>
    have htype : (ctx.types.resolveName? v.typeName v.span).Mirrors (g.Retold f) id (fun _ => True)
        (ctx.types.resolveName? v.typeName v.span) := by
      cases v.typeName with
      | none => exact .succeed trivial
      | some typeName => exact resolveName_mirrors ctx typeName v.span
    apply htype.bind
    intro type _
    apply Run.Mirrors.bind (φ := id) (P := fun _ => True) ⟨rfl, .nil, fun _ _ => trivial⟩
    intro _ _
    -- both scopes have as many slots, so they open slots of one number
    have hindex : (s.rename f).nextIndex = s.nextIndex := by
      rw [Scope.nextIndex, Scope.size, Scope.rename, List.length_map]
      rfl
    let b : Scope.Binding := ⟨⟨s.nextIndex, v.name, type⟩, v.span⟩
    have hopened : InStep g r f (pure (b.reference, s.insert b))
        (pure (b.reference, (s.rename f).insert (b.rename f))) := by
      rw [← Scope.insert_rename]
      exact .succeed (hs.insert hname)
    dsimp only [id]
    rw [hindex]
    exact hopened

theorem Value.lower_inStep {s : Scope} (hs : s.NamesIn {name | name ∈ names r.references})
    {v : Value} (hv : v ∈ r.values) :
    InStep g r f (v.lower ctx s) ((v.rename f).lower ctx (s.rename f)) := by
  cases v with
  | constant c => exact (c.lower_mirrors ctx).bind fun _ _ => .succeed hs
  | reference v =>
    exact (bind_inStep ctx hr hf hs (mem_references_iff.mpr hv)).bind fun _ hp => .succeed hp

theorem Call.lower_inStep {s : Scope} (hs : s.NamesIn {name | name ∈ names r.references}) {c : Call}
    (hc : ∀ v ∈ c.args, v ∈ r.values) :
    InStep g r f (c.lower ctx s) ((c.rename f).lower ctx (s.rename f)) := by
  have hargs : InStep g r f (Run.thread (Value.lower ctx) s c.args)
      (Run.thread (Value.lower ctx) (s.rename f) (c.args.map (Value.rename f))) :=
    .thread (fun _ hs v hv => v.lower_inStep ctx hr hf hs (hc v hv)) hs
  apply hargs.bind
  intro p hp
  rw [rename, List.length_map]
  exact .succeed hp

theorem Condition.lower_inStep {s : Scope} (hs : s.NamesIn {name | name ∈ names r.references})
    {c : Condition} (hc : c ∈ r.conditions) :
    InStep g r f (c.lower ctx s) ((c.rename f).lower ctx (s.rename f)) := by
  have hvalues : ∀ v ∈ c.values, v ∈ r.values :=
    fun v hv => List.mem_append_left _ (List.mem_flatMap.mpr ⟨c, hc, hv⟩)
  cases c with
  | query c => exact (c.lower_inStep ctx hr hf hs hvalues).bind fun _ hp => .succeed hp
  | comparison c =>
    obtain ⟨hleft, hright⟩ := List.forall_mem_cons.mp hvalues
    apply (c.left.lower_inStep ctx hr hf hs hleft).bind
    intro p hp
    apply (c.right.lower_inStep ctx hr hf hp (List.forall_mem_singleton.mp hright)).bind
    intro q hq
    exact .succeed hq

theorem Action.lower_inStep (id : GoalId) {s : Scope}
    (hs : s.NamesIn {name | name ∈ names r.references}) {a : Action} (ha : a ∈ r.actions) :
    InStep g r f (a.lower ctx id s) ((a.rename f).lower ctx id (s.rename f)) := by
  have hvalues : ∀ v ∈ a.values, v ∈ r.values :=
    fun v hv => List.mem_append_right _ (List.mem_flatMap.mpr ⟨a, ha, hv⟩)
  cases a with
  | completion span => exact .succeed hs
  | call c => exact (c.lower_inStep ctx hr hf hs hvalues).bind fun _ hp => .succeed hp

theorem Rule.lower_mirrors (id : GoalId) (position : Nat) :
    (r.lower ctx id position).Mirrors (g.Retold f) (Resolved.Rule.renameSlots f) (fun _ => True)
      ((r.rename f).lower ctx id position) := by
  have hconditions : InStep g r f (Run.thread (Condition.lower ctx) .empty r.conditions)
      (Run.thread (Condition.lower ctx) .empty (r.conditions.map (Condition.rename f))) :=
    .thread (fun _ hs c hc => c.lower_inStep ctx hr hf hs hc) .empty
  apply hconditions.bind
  intro p hp
  have hactions : InStep g r f (Run.thread (Action.lower ctx id) p.2 r.actions)
      (Run.thread (Action.lower ctx id) (p.2.rename f) (r.actions.map (Action.rename f))) :=
    .thread (fun _ hs a ha => a.lower_inStep ctx hr hf id hs ha) hp
  apply hactions.bind
  intro q _
  exact ⟨rfl, .nil, fun _ _ => trivial⟩

end Simulation

namespace Goal

variable {f} {g : Goal} (ctx : Context) (id : GoalId)
  (hf : ∀ r ∈ g.rules, Set.InjOn f {name | name ∈ names r.references})

include hf

theorem resolve_mirrors :
    (g.resolve ctx id).Mirrors (g.Retold f) (Resolved.Goal.renameSlots f) (fun _ => True)
      ((g.rename f).resolve ctx id) := by
  have hrules : (Run.forEach (fun p => p.1.lower ctx id p.2) g.rules.zipIdx).Mirrors (g.Retold f)
      (List.map (Resolved.Rule.renameSlots f)) (fun _ => True)
      (Run.forEach (fun p => p.1.lower ctx id p.2) (g.rules.map (Rule.rename f)).zipIdx) := by
    rw [List.zipIdx_map]
    apply Run.Mirrors.forEach
    intro p hp
    have hrule : p.1 ∈ g.rules := List.fst_mem_of_mem_zipIdx hp
    exact p.1.lower_mirrors ctx hrule (hf p.1 hrule) id p.2
  apply (Run.Mirrors.forEach_self fun fact _ => fact.lower_mirrors ctx).bind
  intro initFacts _
  apply hrules.bind
  intro rules _
  apply (Run.Mirrors.forEach_self fun fact _ => fact.lower_mirrors ctx).bind
  intro exitFacts _
  exact .succeed trivial

/-- Variables can be called anything that keeps those of each rule apart. The renamed goal is
lowered to the same result under the new names, or stopped by the same fault, and the same is
reported apart from the names that conflicts quote. -/
theorem lower_rename :
    ((g.rename f).lower ctx id).outcome =
        (g.lower ctx id).outcome.map (Resolved.Goal.renameSlots f) ∧
      List.Forall₂ (g.Retold f) (g.lower ctx id).diagnostics
        ((g.rename f).lower ctx id).diagnostics := by
  have hresolve := resolve_mirrors ctx id hf
  constructor
  · rw [lower_outcome_eq, lower_outcome_eq, hresolve.outcome]
    cases (g.resolve ctx id).outcome with
    | error e => rfl
    | ok resolved =>
      -- the check does not read names
      simp only [Except.map, Except.bind, Resolved.Goal.check_renameSlots]
      cases resolved.check <;> rfl
  · rw [lower_diagnostics_eq_resolve, lower_diagnostics_eq_resolve]
    exact hresolve.reports

omit hf

/-- A rule whose two variables disagree with their types, and one with a variable of its own. -/
def courtship : Goal where
  name := "Courtship"
  rules := [
    { conditions := [.comparison {
        left := .reference { name := "x", typeName := some "STRING", span := ⟨4, 5⟩ }
        relation := .notEqual
        right := .reference { name := "y", typeName := some "GONE", span := ⟨9, 10⟩ } }]
      actions := [.call { name := "Woo", args := [
        .reference { name := "y", typeName := some "STRING", span := ⟨20, 21⟩ },
        .reference { name := "x", typeName := some "INTEGER" }] }] },
    { conditions := [.query { name := "Alone", args := [.reference { name := "z" }] }] }]

/-- The names of one rule change places, and the variable of the other takes one of them. -/
def swap (name : String) : String := if name = "x" then "y" else "x"

theorem courtship_rename :
    (∀ r ∈ courtship.rules, Set.InjOn swap {name | name ∈ names r.references}) ∧
      swap "y" = swap "z" ∧
      ((courtship.rename swap).lower { policy := .warn } ⟨5⟩).outcome =
        .ok ((courtship.canonical .builtins ⟨5⟩).renameSlots swap) ∧
      ((courtship.canonical .builtins ⟨5⟩).renameSlots swap).rules.map (·.slots) =
        [[⟨0, "y", some .string⟩, ⟨1, "x", none⟩], [⟨0, "x", none⟩]] ∧
      List.Forall₂ (courtship.Retold swap)
        (courtship.lower { policy := .warn } ⟨5⟩).diagnostics
        ((courtship.rename swap).lower { policy := .warn } ⟨5⟩).diagnostics ∧
      ((courtship.rename swap).lower { policy := .warn } ⟨5⟩).diagnostics.map (·.message) = [
        "type `GONE` does not exist",
        "variable `x` is annotated `STRING` but is already bound with no type",
        "variable `y` is annotated `INTEGER` but is already bound with type `STRING`"] := by
  have hf : ∀ r ∈ courtship.rules, Set.InjOn swap {name | name ∈ names r.references} := by
    have hdecide : ∀ r ∈ courtship.rules, ∀ x ∈ names r.references, ∀ y ∈ names r.references,
        swap x = swap y → x = y := by decide
    exact fun r hr x hx y hy => hdecide r hr x hx y hy
  have hlower : (courtship.lower { policy := .warn } ⟨5⟩).outcome =
      .ok (courtship.canonical .builtins ⟨5⟩) := by decide
  obtain ⟨houtcome, hreports⟩ := lower_rename { policy := .warn } ⟨5⟩ hf
  rw [hlower] at houtcome
  exact ⟨hf, by decide, houtcome, by decide, hreports, by decide⟩

end Goal

end Source

end Storyline
