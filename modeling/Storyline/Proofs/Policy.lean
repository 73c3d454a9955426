import Storyline.Proofs.LoweringEffects

/-!
# The policy for conflicts

Under the policy `warn` a later reference to a variable is reported if its type name disagrees with
the type of the slot. `withoutConflicts` takes these reports out of a run and leaves the rest as it
is. Every part of lowering under `ignore` is that part under `warn` without them. This holds from
any scope on, since both policies look the type name up and leave the same scope, and it holds for
runs that fail as well: a report never decides how a run goes on.
-/

namespace Storyline

def Effect.isConflict : Effect → Bool
  | .report d => d.code = .annotationConflict
  | _ => false

theorem diagnosticsOf_filter_isConflict (effects : List Effect) :
    diagnosticsOf (effects.filter fun x => !x.isConflict) =
      (diagnosticsOf effects).filter fun d => d.code ≠ .annotationConflict := by
  induction effects with
  | nil => rfl
  | cons x xs ih =>
    cases x with
    | report d =>
      by_cases h : d.code = .annotationConflict
      · simpa [diagnosticsOf, Effect.isConflict, Effect.diagnostic?, h] using ih
      · simpa [diagnosticsOf, Effect.isConflict, Effect.diagnostic?, h] using ih
    | request path => exact ih
    | note event => exact ih
    | enter region => exact ih
    | leave => exact ih

theorem eventsOf_filter_isConflict (effects : List Effect) :
    eventsOf (effects.filter fun x => !x.isConflict) = eventsOf effects := by
  have hevent : ∀ x : Effect, (if (!x.isConflict) = true then x.event? else none) = x.event? := by
    intro x
    cases x with
    | report d => exact ite_self none
    | request path => rfl
    | note event => rfl
    | enter region => rfl
    | leave => rfl
  simp only [eventsOf, List.filterMap_filter, hevent]

namespace Run

variable {ε α β σ : Type}

def withoutConflicts (r : Run ε α) : Run ε α := r.restrict fun x => !x.isConflict

theorem withoutConflicts_pure (a : α) : (pure a : Run ε α).withoutConflicts = pure a := rfl

theorem withoutConflicts_note (e : Event) : (note e : Run ε Unit).withoutConflicts = note e := rfl

theorem withoutConflicts_ofExcept (r : Except ε α) : (ofExcept r).withoutConflicts = ofExcept r := by
  cases r <;> rfl

theorem withoutConflicts_bind (r : Run ε α) (next : α → Run ε β) :
    (r >>= next).withoutConflicts =
      r.withoutConflicts >>= fun a => (next a).withoutConflicts :=
  restrict_bind _ r next

theorem withoutConflicts_forEach (f : α → Run ε β) (as : List α) :
    (forEach f as).withoutConflicts = forEach (fun a => (f a).withoutConflicts) as :=
  restrict_forEach _ f as

theorem withoutConflicts_thread (f : σ → α → Run ε (β × σ)) (s : σ) (as : List α) :
    (thread f s as).withoutConflicts = thread (fun s a => (f s a).withoutConflicts) s as := by
  induction as generalizing s with
  | nil => rfl
  | cons a as ih => simp only [thread, withoutConflicts_bind, withoutConflicts_pure, ih]

theorem withoutConflicts_within (region : Region) (r : Run ε α) :
    (within region r).withoutConflicts = within region r.withoutConflicts := by
  simp only [withoutConflicts, restrict, within, Effect.isConflict, List.filter_append,
    List.filter_cons, List.filter_nil, Bool.not_false, if_true]

end Run

variable (types : TypeTable)

theorem TypeTable.resolveName_withoutConflicts (typeName : String) (span : Span) :
    (types.resolveName typeName span).withoutConflicts = types.resolveName typeName span := by
  cases h : types.lookup? typeName with
  | some id =>
    simp only [resolveName, h]
    rfl
  | none =>
    simp only [resolveName, h, Diagnostic.typeUnresolved_eq]
    rfl

theorem TypeTable.resolveName?_withoutConflicts (typeName : Option String) (span : Span) :
    (types.resolveName? typeName span).withoutConflicts = types.resolveName? typeName span := by
  cases typeName with
  | none => rfl
  | some typeName => exact types.resolveName_withoutConflicts typeName span

namespace Scope

/-- The look-up comes before the policy is asked, so an unknown type name is reported under both. -/
theorem reviseType_ignore (b : Binding) (typeName : String) (span : Span) :
    reviseType ⟨types, .ignore⟩ b typeName span =
      (reviseType ⟨types, .warn⟩ b typeName span).withoutConflicts := by
  rw [reviseType, reviseType, Run.withoutConflicts_bind, TypeTable.resolveName_withoutConflicts]
  congr 1
  funext type
  cases type with
  | none => rfl
  | some type =>
    by_cases h : b.slot.type = some type
    · simp only [h, ne_eq, not_true_eq_false, and_false, if_false]
      rfl
    · have hreport : (Run.report (conflict types b typeName span) :
          Run Fault Unit).withoutConflicts = pure () := by
        simp only [Run.withoutConflicts, Run.restrict, Run.report, Run.perform, Effect.isConflict,
          conflict_code, decide_true, Bool.not_true, List.filter_cons, List.filter_nil]
        rfl
      simp only [h, ne_eq, not_false_eq_true, and_true, if_true, reduceCtorEq, if_false, hreport]

theorem bind_ignore (s : Scope) (v : Source.Variable) :
    s.bind ⟨types, .ignore⟩ v = (s.bind ⟨types, .warn⟩ v).withoutConflicts := by
  rw [bind, bind]
  cases s.find? v.name with
  | some b =>
    cases v.typeName with
    | none => rfl
    | some typeName =>
      dsimp only
      rw [Run.withoutConflicts_bind, reviseType_ignore]
      rfl
  | none =>
    dsimp only
    rw [Run.withoutConflicts_bind, TypeTable.resolveName?_withoutConflicts]
    rfl

end Scope

namespace Source

theorem Constant.lower_ignore (c : Constant) :
    c.lower ⟨types, .ignore⟩ = (c.lower ⟨types, .warn⟩).withoutConflicts := by
  have htyping : (types.typing c.typeName c.literal.kind c.span).withoutConflicts =
      types.typing c.typeName c.literal.kind c.span := by
    cases c.typeName with
    | some typeName =>
      simp only [TypeTable.typing, ← bind_pure_comp, Run.withoutConflicts_bind,
        Run.withoutConflicts_pure, TypeTable.resolveName_withoutConflicts]
    | none =>
      simp only [TypeTable.typing, ← bind_pure_comp, Run.withoutConflicts_bind,
        Run.withoutConflicts_pure, Run.withoutConflicts_ofExcept]
  simp only [lower, Run.withoutConflicts_bind, Run.withoutConflicts_pure, htyping]

theorem Fact.lower_ignore (f : Fact) :
    f.lower ⟨types, .ignore⟩ = (f.lower ⟨types, .warn⟩).withoutConflicts := by
  simp only [lower, Run.withoutConflicts_bind, Run.withoutConflicts_forEach,
    Run.withoutConflicts_pure, ← Constant.lower_ignore]

theorem Value.lower_ignore (s : Scope) (v : Value) :
    v.lower ⟨types, .ignore⟩ s = (v.lower ⟨types, .warn⟩ s).withoutConflicts := by
  cases v with
  | constant c =>
    simp only [lower, Run.withoutConflicts_bind, Run.withoutConflicts_pure,
      ← Constant.lower_ignore]
  | reference v =>
    simp only [lower, Run.withoutConflicts_bind, Run.withoutConflicts_pure, ← Scope.bind_ignore]

theorem Call.lower_ignore (s : Scope) (c : Call) :
    c.lower ⟨types, .ignore⟩ s = (c.lower ⟨types, .warn⟩ s).withoutConflicts := by
  simp only [lower, Run.withoutConflicts_bind, Run.withoutConflicts_thread,
    Run.withoutConflicts_pure, ← Value.lower_ignore]

theorem Condition.lower_ignore (s : Scope) (c : Condition) :
    c.lower ⟨types, .ignore⟩ s = (c.lower ⟨types, .warn⟩ s).withoutConflicts := by
  cases c with
  | query c =>
    simp only [lower, Run.withoutConflicts_bind, Run.withoutConflicts_pure, ← Call.lower_ignore]
  | comparison c =>
    simp only [lower, Run.withoutConflicts_bind, Run.withoutConflicts_pure, ← Value.lower_ignore]

theorem Action.lower_ignore (id : GoalId) (s : Scope) (a : Action) :
    a.lower ⟨types, .ignore⟩ id s = (a.lower ⟨types, .warn⟩ id s).withoutConflicts := by
  cases a with
  | completion span => rfl
  | call c =>
    simp only [lower, Run.withoutConflicts_bind, Run.withoutConflicts_pure, ← Call.lower_ignore]

theorem Rule.lower_ignore (id : GoalId) (position : Nat) (r : Rule) :
    r.lower ⟨types, .ignore⟩ id position =
      (r.lower ⟨types, .warn⟩ id position).withoutConflicts := by
  simp only [lower, Run.withoutConflicts_bind, Run.withoutConflicts_thread,
    Run.withoutConflicts_note, Run.withoutConflicts_pure, ← Condition.lower_ignore,
    ← Action.lower_ignore]

namespace Goal

theorem resolve_ignore (id : GoalId) (g : Goal) :
    g.resolve ⟨types, .ignore⟩ id = (g.resolve ⟨types, .warn⟩ id).withoutConflicts := by
  simp only [resolve, Run.withoutConflicts_bind, Run.withoutConflicts_forEach,
    Run.withoutConflicts_pure, ← Fact.lower_ignore, ← Rule.lower_ignore]

theorem lower_ignore (id : GoalId) (g : Goal) :
    g.lower ⟨types, .ignore⟩ id = (g.lower ⟨types, .warn⟩ id).withoutConflicts := by
  simp only [lower, Run.withoutConflicts_within, Run.withoutConflicts_bind,
    Run.withoutConflicts_ofExcept, Run.withoutConflicts_note, Run.withoutConflicts_pure,
    ← resolve_ignore]

/-- The policy decides nothing but whether conflicts are reported: the outcome is the same, a fault
included, and so is the trace, and the other reports keep their order. -/
theorem lower_policy (id : GoalId) (g : Goal) :
    (g.lower ⟨types, .ignore⟩ id).outcome = (g.lower ⟨types, .warn⟩ id).outcome ∧
      (g.lower ⟨types, .ignore⟩ id).diagnostics =
        (g.lower ⟨types, .warn⟩ id).diagnostics.filter (fun d => d.code ≠ .annotationConflict) ∧
      (g.lower ⟨types, .ignore⟩ id).events = (g.lower ⟨types, .warn⟩ id).events := by
  rw [lower_ignore]
  exact ⟨rfl, diagnosticsOf_filter_isConflict _, eventsOf_filter_isConflict _⟩

end Goal

end Source

end Storyline
