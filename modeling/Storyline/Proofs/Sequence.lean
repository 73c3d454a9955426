import Storyline.Run

/-!
# Runs one after another

`all` performs a list of runs that give no value. Either every one of them succeeds, and their
effects follow one another, or there is a first one that fails, and nothing after it happens. Most
runs are an `all` followed by a value that no longer depends on how it went; `forEach_eq_all`
brings a loop into that form.

`discard` forgets the value of a run, and `restrict` forgets the effects outside a class of
interest. Both keep the order of what remains, so a restricted run can be studied in place of the
whole one.
-/

namespace Storyline.Run

variable {ε α β : Type}

@[simp] theorem effects_pure (a : α) : (pure a : Run ε α).effects = [] := rfl

@[simp] theorem outcome_pure (a : α) : (pure a : Run ε α).outcome = .ok a := rfl

@[simp] theorem succeed_eq_pure (a : α) : (succeed a : Run ε α) = pure a := rfl

theorem outcome_bind_of_ok {r : Run ε α} {a : α} (h : r.outcome = .ok a) (next : α → Run ε β) :
    (r >>= next).outcome = (next a).outcome := by
  rw [bind_of_ok h]

theorem diagnostics_bind_of_ok {r : Run ε α} {a : α} (h : r.outcome = .ok a)
    (next : α → Run ε β) : (r >>= next).diagnostics = r.diagnostics ++ (next a).diagnostics := by
  rw [bind_of_ok h]
  exact diagnosticsOf_append _ _

theorem exists_of_bind_ok {r : Run ε α} {next : α → Run ε β} {b : β}
    (h : (r >>= next).outcome = .ok b) : ∃ a, r.outcome = .ok a ∧ (next a).outcome = .ok b := by
  cases hr : r.outcome with
  | error e =>
    rw [bind_of_error hr] at h
    cases h
  | ok a =>
    rw [bind_of_ok hr] at h
    exact ⟨a, rfl, h⟩

/-- In a loop that succeeds, every step has given one of the results. -/
theorem exists_of_forEach_ok {f : α → Run ε β} {as : List α} {bs : List β}
    (h : (forEach f as).outcome = .ok bs) : ∀ a ∈ as, ∃ b ∈ bs, (f a).outcome = .ok b := by
  induction as generalizing bs with
  | nil =>
    intro a ha
    cases ha
  | cons a as ih =>
    obtain ⟨b, hb, h⟩ := exists_of_bind_ok h
    obtain ⟨rest, hrest, h⟩ := exists_of_bind_ok h
    obtain rfl := Except.ok.inj h
    intro c hc
    rcases List.mem_cons.mp hc with rfl | hlater
    · exact ⟨b, List.mem_cons_self, hb⟩
    · obtain ⟨x, hx, hcx⟩ := ih hrest c hlater
      exact ⟨x, List.mem_cons_of_mem b hx, hcx⟩

@[simp] theorem effects_map (f : α → β) (r : Run ε α) : (f <$> r).effects = r.effects := by
  rw [← bind_pure_comp]
  cases h : r.outcome with
  | error e => rw [bind_of_error h]
  | ok a => rw [bind_of_ok h, effects_pure, List.append_nil]

@[simp] theorem outcome_map (f : α → β) (r : Run ε α) : (f <$> r).outcome = r.outcome.map f := by
  rw [← bind_pure_comp]
  cases h : r.outcome with
  | error e => rw [bind_of_error h]; rfl
  | ok a => rw [bind_of_ok h]; rfl

@[simp] theorem diagnostics_map (f : α → β) (r : Run ε α) :
    (f <$> r).diagnostics = r.diagnostics :=
  congrArg diagnosticsOf (effects_map f r)

theorem forEach_map {γ : Type} (φ : β → γ) (f : α → Run ε β) (as : List α) :
    forEach (fun a => φ <$> f a) as = List.map φ <$> forEach f as := by
  induction as with
  | nil => simp only [forEach, succeed_eq_pure, map_pure, List.map_nil]
  | cons a as ih => simp only [forEach, ih, bind_map_left, map_bind, map_pure, List.map_cons]

theorem thread_map {γ σ : Type} (φ : β → γ) (f : σ → α → Run ε (β × σ)) (s : σ) (as : List α) :
    thread (fun s a => (fun p => (φ p.1, p.2)) <$> f s a) s as =
      (fun p => (p.1.map φ, p.2)) <$> thread f s as := by
  induction as generalizing s with
  | nil => simp only [thread, succeed_eq_pure, map_pure, List.map_nil]
  | cons a as ih => simp only [thread, ih, bind_map_left, map_bind, map_pure, List.map_cons]

def discard (r : Run ε α) : Run ε Unit := ⟨r.effects, r.outcome.map fun _ => ()⟩

@[simp] theorem discard_effects (r : Run ε α) : r.discard.effects = r.effects := rfl

@[simp] theorem discard_outcome (r : Run ε α) : r.discard.outcome = r.outcome.map fun _ => () := rfl

/-- A run that can give one value only is its effects followed by that value. -/
theorem eq_discard_bind {r : Run ε α} {a : α} (h : ∀ b, r.outcome = .ok b → b = a) :
    r = do r.discard; return a := by
  obtain ⟨effects, outcome⟩ := r
  cases outcome with
  | error e => rw [bind_of_error (e := e) rfl]; rfl
  | ok b =>
    rw [bind_of_ok (a := ()) rfl, h b rfl]
    simp only [discard_effects, effects_pure, outcome_pure, List.append_nil]

def all : List (Run ε Unit) → Run ε Unit
  | [] => pure ()
  | r :: rs => do
    r
    all rs

@[simp] theorem all_nil : (all [] : Run ε Unit) = pure () := rfl

theorem all_cons (r : Run ε Unit) (rs : List (Run ε Unit)) : all (r :: rs) = (do r; all rs) := rfl

@[simp] theorem all_singleton (r : Run ε Unit) : all [r] = r := by
  simp only [all, bind_pure_unit]

theorem all_append (rs ss : List (Run ε Unit)) : all (rs ++ ss) = (do all rs; all ss) := by
  induction rs with
  | nil => simp only [List.nil_append, all_nil, pure_bind]
  | cons r rs ih => simp only [List.cons_append, all_cons, ih, bind_assoc]

theorem all_of_ok {rs : List (Run ε Unit)} (h : ∀ r ∈ rs, r.outcome = .ok ()) :
    all rs = ⟨rs.flatMap effects, .ok ()⟩ := by
  induction rs with
  | nil => rfl
  | cons r rs ih =>
    have hrs := ih fun s hs => h s (List.mem_cons_of_mem r hs)
    rw [all_cons, bind_of_ok (h r List.mem_cons_self), hrs, List.flatMap_cons]

theorem all_of_error {before : List (Run ε Unit)} {r : Run ε Unit} {e : ε}
    (h : ∀ s ∈ before, s.outcome = .ok ()) (he : r.outcome = .error e)
    (after : List (Run ε Unit)) :
    all (before ++ r :: after) = ⟨before.flatMap effects ++ r.effects, .error e⟩ := by
  have hb := all_of_ok h
  rw [all_append, bind_of_ok (congrArg outcome hb), all_cons, bind_of_error he, hb]

/-- What a successful run gave, when it is known as effects followed by a value. -/
theorem eq_of_bind_pure {r : Run ε Unit} {a b : α}
    (h : (do r; return a : Run ε α).outcome = .ok b) : r.outcome = .ok () ∧ a = b := by
  cases hr : r.outcome with
  | error e =>
    rw [bind_of_error hr] at h
    cases h
  | ok u =>
    rw [bind_of_ok hr] at h
    exact ⟨rfl, Except.ok.inj h⟩

theorem forEach_eq_all {f : α → Run ε β} {steps : α → List (Run ε Unit)} {g : α → β} {as : List α}
    (h : ∀ a ∈ as, f a = do all (steps a); return g a) :
    forEach f as = do all (as.flatMap steps); return as.map g := by
  induction as with
  | nil => simp only [forEach, succeed_eq_pure, List.flatMap_nil, all_nil, pure_bind, List.map_nil]
  | cons a as ih =>
    have ha := h a List.mem_cons_self
    have has := ih fun b hb => h b (List.mem_cons_of_mem a hb)
    simp only [forEach, ha, has, bind_assoc, pure_bind, List.flatMap_cons, all_append,
      List.map_cons]

theorem flatMap_zipIdx_fst (f : α → List β) (as : List α) :
    as.zipIdx.flatMap (fun p => f p.1) = as.flatMap f := by
  rw [← List.flatMap_map Prod.fst f, List.zipIdx_map_fst]

theorem map_zipIdx_fst (f : α → β) (as : List α) : as.zipIdx.map (fun p => f p.1) = as.map f := by
  rw [← Function.comp_def, ← List.map_map, List.zipIdx_map_fst]

/-- A loop over numbered elements whose steps do not depend on the numbers. -/
theorem forEach_zipIdx_eq_all {f : α × Nat → Run ε β} {steps : α → List (Run ε Unit)} {g : α → β}
    {as : List α} (h : ∀ p ∈ as.zipIdx, f p = do all (steps p.1); return g p.1) :
    forEach f as.zipIdx = do all (as.flatMap steps); return as.map g := by
  rw [forEach_eq_all h, flatMap_zipIdx_fst, map_zipIdx_fst]

def restrict (keep : Effect → Bool) (r : Run ε α) : Run ε α := ⟨r.effects.filter keep, r.outcome⟩

section Restrict

variable (keep : Effect → Bool)

@[simp] theorem restrict_outcome (r : Run ε α) : (r.restrict keep).outcome = r.outcome := rfl

@[simp] theorem restrict_pure (a : α) : (pure a : Run ε α).restrict keep = pure a := rfl

theorem restrict_bind (r : Run ε α) (next : α → Run ε β) :
    (r >>= next).restrict keep = r.restrict keep >>= fun a => (next a).restrict keep := by
  cases h : r.outcome with
  | error e =>
    rw [bind_of_error h, bind_of_error (r := r.restrict keep) h]
    rfl
  | ok a =>
    rw [bind_of_ok h, bind_of_ok (r := r.restrict keep) h]
    simp only [restrict, List.filter_append]

theorem restrict_all (rs : List (Run ε Unit)) :
    (all rs).restrict keep = all (rs.map (restrict keep)) := by
  induction rs with
  | nil => rfl
  | cons r rs ih => simp only [all_cons, List.map_cons, restrict_bind, ih]

theorem restrict_forEach (f : α → Run ε β) (as : List α) :
    (forEach f as).restrict keep = forEach (fun a => (f a).restrict keep) as := by
  induction as with
  | nil => rfl
  | cons a as ih => simp only [forEach, restrict_bind, restrict_pure, ih]

end Restrict

def isReport (x : Effect) : Bool := x.diagnostic?.isSome

theorem diagnostics_restrict (r : Run ε α) : (r.restrict isReport).diagnostics = r.diagnostics := by
  simp only [diagnostics, diagnosticsOf, restrict, List.filterMap_filter, isReport]
  congr 1
  funext x
  cases x <;> rfl

theorem diagnostics_within (region : Region) (r : Run ε α) :
    (within region r).diagnostics = r.diagnostics := by
  change diagnosticsOf (r.effects ++ [.leave]) = diagnosticsOf r.effects
  rw [diagnosticsOf_append]
  exact List.append_nil _

theorem diagnosticsOf_flatMap (rs : List (Run ε Unit)) :
    diagnosticsOf (rs.flatMap effects) = rs.flatMap diagnostics := by
  induction rs with
  | nil => rfl
  | cons r rs ih => rw [List.flatMap_cons, List.flatMap_cons, diagnosticsOf_append, ih]; rfl

end Storyline.Run
