import Storyline.Proofs.Typing

/-!
# What lowering may do

Whatever a goal looks like, and whatever scope a part of it is lowered in, all that is done is to
note events and to report unknown types and conflicts, and the only fault is the lack of a builtin
type. Such a run is called plain. Runs that follow one another or are repeated stay plain, so it is
enough to look at the few places where something happens.
-/

namespace Storyline

/-- An event, or a report about the type of a value. -/
def Effect.Plain : Effect → Prop
  | .note _ => True
  | .report d => d.code = .typeUnresolved ∨ d.code = .annotationConflict
  | _ => False

namespace Run

variable {α β σ : Type}

structure Plain (r : Run Fault α) : Prop where
  effects : ∀ x ∈ r.effects, x.Plain
  fault : ∀ e, r.outcome = .error e → ∃ type kind, e = .missingBuiltin type kind

namespace Plain

theorem succeed (a : α) : (pure a : Run Fault α).Plain where
  effects := by
    intro x hx
    cases hx
  fault := by
    intro e he
    cases he

theorem fail (type : TypeId) (kind : Literal.Kind) :
    (Run.fail (.missingBuiltin type kind) : Run Fault α).Plain where
  effects := by
    intro x hx
    cases hx
  fault := by
    intro e he
    exact ⟨type, kind, (Except.error.inj he).symm⟩

theorem perform {x : Effect} (hx : x.Plain) : (Run.perform x).Plain where
  effects := by
    intro y hy
    rwa [List.mem_singleton.mp hy]
  fault := by
    intro e he
    cases he

theorem note (e : Event) : (Run.note e : Run Fault Unit).Plain := perform trivial

theorem report {d : Diagnostic} (hd : d.code = .typeUnresolved ∨ d.code = .annotationConflict) :
    (Run.report d : Run Fault Unit).Plain := perform hd

theorem bind {r : Run Fault α} {next : α → Run Fault β} (hr : r.Plain)
    (hnext : ∀ a, (next a).Plain) : (r >>= next).Plain := by
  cases h : r.outcome with
  | error e =>
    rw [bind_of_error h]
    refine ⟨hr.effects, ?_⟩
    intro e' he'
    exact hr.fault e' (by rw [h, Except.error.inj he'])
  | ok a =>
    rw [bind_of_ok h]
    exact ⟨List.forall_mem_append.mpr ⟨hr.effects, (hnext a).effects⟩, (hnext a).fault⟩

theorem map (f : α → β) {r : Run Fault α} (hr : r.Plain) : (f <$> r).Plain := by
  rw [← bind_pure_comp]
  exact hr.bind fun a => succeed (f a)

theorem forEach {f : α → Run Fault β} (h : ∀ a, (f a).Plain) (as : List α) :
    (Run.forEach f as).Plain := by
  induction as with
  | nil => exact succeed []
  | cons a as ih => exact (h a).bind fun b => ih.bind fun bs => succeed (b :: bs)

theorem thread {f : σ → α → Run Fault (β × σ)} (h : ∀ s a, (f s a).Plain) (s : σ) (as : List α) :
    (Run.thread f s as).Plain := by
  induction as generalizing s with
  | nil => exact succeed ([], s)
  | cons a as ih => exact (h s a).bind fun p => (ih p.2).bind fun q => succeed (p.1 :: q.1, q.2)

theorem requests {r : Run Fault α} (hr : r.Plain) : r.requests = [] := by
  rw [Run.requests, requestsOf, List.filterMap_eq_nil_iff]
  intro x hx
  have hplain := hr.effects x hx
  cases x with
  | request path => exact hplain.elim
  | _ => rfl

theorem code {r : Run Fault α} (hr : r.Plain) {d : Diagnostic} (hd : d ∈ r.diagnostics) :
    d.code = .typeUnresolved ∨ d.code = .annotationConflict := by
  obtain ⟨x, hx, hdiagnostic⟩ := List.mem_filterMap.mp hd
  have hplain := hr.effects x hx
  cases x with
  | report d' => rwa [← Option.some.inj hdiagnostic]
  | _ => cases hdiagnostic

end Plain

end Run

variable (ctx : Context)

theorem TypeTable.resolveName_plain (t : TypeTable) (typeName : String) (span : Span) :
    (t.resolveName typeName span).Plain := by
  rw [resolveName]
  cases t.lookup? typeName with
  | some id => exact .succeed _
  | none =>
    have hcode : (Diagnostic.typeUnresolved typeName span).code = .typeUnresolved := by
      rw [Diagnostic.typeUnresolved_eq, Source.unknownType]
    apply (Run.Plain.note _).bind
    intro _
    exact (Run.Plain.report (Or.inl hcode)).bind fun _ => .succeed _

theorem TypeTable.resolveName?_plain (t : TypeTable) (typeName : Option String) (span : Span) :
    (t.resolveName? typeName span).Plain := by
  cases typeName with
  | none => exact .succeed _
  | some typeName => exact t.resolveName_plain typeName span

theorem TypeTable.typing_plain (t : TypeTable) (typeName : Option String) (kind : Literal.Kind)
    (span : Span) : (t.typing typeName kind span).Plain := by
  cases typeName with
  | some typeName => exact (t.resolveName_plain typeName span).map _
  | none =>
    apply Run.Plain.map
    cases htype : kind.builtinType? with
    | none =>
      simp only [inferType, htype]
      exact .succeed _
    | some id =>
      cases hentry : t.builtin? id with
      | some entry =>
        simp only [inferType, htype, hentry]
        exact .succeed _
      | none =>
        simp only [inferType, htype, hentry]
        exact .fail id kind

namespace Scope

theorem conflict_code (types : TypeTable) (b : Binding) (typeName : String) (span : Span) :
    (conflict types b typeName span).code = .annotationConflict := by
  rw [conflict_eq]

theorem reviseType_plain (b : Binding) (typeName : String) (span : Span) :
    (reviseType ctx b typeName span).Plain := by
  apply (ctx.types.resolveName_plain typeName span).bind
  intro type
  cases type with
  | none => exact .succeed _
  | some type =>
    dsimp only
    split
    · exact .report (Or.inr (conflict_code ctx.types b typeName span))
    · exact .succeed _

theorem bind_plain (s : Scope) (v : Source.Variable) : (s.bind ctx v).Plain := by
  rw [bind]
  cases s.find? v.name with
  | some b =>
    cases v.typeName with
    | none => exact .succeed _
    | some typeName => exact (reviseType_plain ctx b typeName v.span).bind fun _ => .succeed _
  | none =>
    exact (ctx.types.resolveName?_plain v.typeName v.span).bind fun _ =>
      (Run.Plain.note _).bind fun _ => .succeed _

end Scope

namespace Source

theorem Constant.lower_plain (c : Constant) : (c.lower ctx).Plain :=
  (ctx.types.typing_plain c.typeName c.literal.kind c.span).bind fun _ => .succeed _

theorem Fact.lower_plain (f : Fact) : (f.lower ctx).Plain :=
  (Run.Plain.forEach (Constant.lower_plain ctx) f.elements).bind fun _ => .succeed _

theorem Value.lower_plain (s : Scope) (v : Value) : (v.lower ctx s).Plain := by
  cases v with
  | constant c => exact (c.lower_plain ctx).bind fun _ => .succeed _
  | reference v => exact (s.bind_plain ctx v).bind fun _ => .succeed _

theorem Call.lower_plain (s : Scope) (c : Call) : (c.lower ctx s).Plain :=
  (Run.Plain.thread (Value.lower_plain ctx) s c.args).bind fun _ => .succeed _

theorem Condition.lower_plain (s : Scope) (c : Condition) : (c.lower ctx s).Plain := by
  cases c with
  | query c => exact (c.lower_plain ctx s).bind fun _ => .succeed _
  | comparison c =>
    exact (c.left.lower_plain ctx s).bind fun p => (c.right.lower_plain ctx p.2).bind fun _ =>
      .succeed _

theorem Action.lower_plain (id : GoalId) (s : Scope) (a : Action) : (a.lower ctx id s).Plain := by
  cases a with
  | completion span => exact .succeed _
  | call c => exact (c.lower_plain ctx s).bind fun _ => .succeed _

theorem Rule.lower_plain (id : GoalId) (position : Nat) (r : Rule) :
    (r.lower ctx id position).Plain := by
  apply (Run.Plain.thread (Condition.lower_plain ctx) .empty r.conditions).bind
  intro p
  apply (Run.Plain.thread (Action.lower_plain ctx id) p.2 r.actions).bind
  intro q
  exact (Run.Plain.note _).bind fun _ => .succeed _

/-- Up to the check, which comes afterwards, lowering a goal is plain. -/
theorem Goal.resolve_plain (id : GoalId) (g : Goal) : (g.resolve ctx id).Plain := by
  have hfacts := Run.Plain.forEach (Fact.lower_plain ctx)
  have hrules := Run.Plain.forEach fun p : Rule × Nat => p.1.lower_plain ctx id p.2
  apply (hfacts g.initFacts).bind
  intro _
  apply (hrules g.rules.zipIdx).bind
  intro _
  exact (hfacts g.exitFacts).bind fun _ => .succeed _

end Source

end Storyline
