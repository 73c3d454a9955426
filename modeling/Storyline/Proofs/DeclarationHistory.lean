import Storyline.Proofs.TableGrowth

/-!
# Histories of declarations

Of a sequence of declarations some are accepted and some are refused. What happens to the next one
can be told from the accepted ones alone, without a look at the indexes of the table: `Settled` says
for each kind of declaration and each refusal which histories lead to it, in the order in which the
checks are made.

A refusal leaves no trace. A declaration returns its table only if it is accepted, so for a table as
a value there is little to say. `InPlace` takes a declaration apart into steps on a table that is
changed in place, where a refusal keeps what the steps before it have done, and there too the table
is the one that the accepted declarations lead to.
-/

namespace Storyline.TypeTable

namespace Declaration

def name : Declaration → String
  | .builtin _ name => name
  | .alias name _ => name

def isAlias : Declaration → Bool
  | .builtin _ _ => false
  | .alias _ _ => true

/-- What an accepted declaration puts into the table. -/
def entry : Declaration → TypeId → Entry
  | .builtin _ name, id => ⟨id, name, .builtin⟩
  | .alias name base, id => ⟨id, name, .alias base⟩

@[simp]
theorem entry_id (d : Declaration) (id : TypeId) : (d.entry id).id = id := by cases d <;> rfl

@[simp]
theorem entry_name (d : Declaration) (id : TypeId) : (d.entry id).name = d.name := by
  cases d <;> rfl

theorem entry_origin (d : Declaration) (id : TypeId) :
    decide ((d.entry id).origin ≠ .builtin) = d.isAlias := by
  cases d <;> rfl

end Declaration

variable {t start : TypeTable} {d : Declaration} {id : TypeId} {name : String}

/-- The identifier that a declaration gets, or why it is refused. -/
def answer (t : TypeTable) (d : Declaration) : Except Error TypeId := (t.declare d).map (·.1)

section Answers

theorem answer_builtin (t : TypeTable) (id : TypeId) (name : String) :
    t.answer (.builtin id name) =
      if 1 ≤ id.raw.toNat ∧ id.raw.toNat ≤ 15 then
        if t.hasId id ∨ t.hasName name then .error (.duplicate name) else .ok id
      else .error (.notBuiltin id) := by
  rw [answer, declare, addBuiltin]
  by_cases hrange : 1 ≤ id.raw.toNat ∧ id.raw.toNat ≤ 15
  · obtain ⟨hin, hknown⟩ := inBuiltinRange_iff.mpr hrange
    cases t.hasName name <;> cases t.hasId id <;> simp [hrange, hin, hknown, Except.map]
  · have hguard : (!id.inBuiltinRange || decide (id = .unknown)) = true := by
      by_contra hpass
      exact hrange (inBuiltinRange_iff.mp (by simpa using hpass))
    rw [if_pos hguard, if_neg hrange, Except.map]

theorem answer_alias (t : TypeTable) (name : String) (base : TypeId) :
    t.answer (.alias name base) =
      if t.hasName name then .error (.duplicate name)
      else if t.hasId base then
        if t.nextAlias.raw.toNat + 1 = UInt32.size then .error .full else .ok t.nextAlias
      else .error (.unknownBase name base) := by
  rw [answer, declare, addAlias]
  cases t.hasName name with
  | true => rfl
  | false =>
    cases t.hasId base with
    | false => rfl
    | true =>
      by_cases hfull : t.nextAlias.raw.toNat + 1 = UInt32.size <;> simp [hfull, Except.map]

theorem answer_builtin_eq_ok_iff {r : TypeId} :
    t.answer (.builtin id name) = .ok r ↔
      (1 ≤ id.raw.toNat ∧ id.raw.toNat ≤ 15) ∧ ¬ t.hasId id = true ∧ ¬ t.hasName name = true ∧
        id = r := by
  rw [answer_builtin]
  grind

theorem answer_alias_eq_ok_iff {base r : TypeId} :
    t.answer (.alias name base) = .ok r ↔
      ¬ t.hasName name = true ∧ t.hasId base = true ∧ ¬ t.nextAlias.raw.toNat + 1 = UInt32.size ∧
        t.nextAlias = r := by
  rw [answer_alias]
  grind

theorem after_of_error {refusal : Error} (h : t.answer d = .error refusal) : t.after d = t := by
  cases hd : t.declare d with
  | error e => rw [after, hd]
  | ok r =>
    rw [answer, hd] at h
    cases h

theorem entries_after_of_ok (h : t.answer d = .ok id) :
    (t.after d).entries = t.entries ++ [d.entry id] := by
  cases hd : t.declare d with
  | error e =>
    rw [answer, hd] at h
    cases h
  | ok r =>
    have hafter : t.after d = r.2 := by rw [after, hd]
    have hid : r.1 = id := by
      rw [answer, hd] at h
      exact Except.ok.inj h
    rw [hafter, ← hid]
    cases d with
    | builtin id name =>
      obtain ⟨_, _, _, rfl⟩ := addBuiltin_eq_ok_iff.mp hd
      rfl
    | «alias» name base =>
      obtain ⟨_, _, _, rfl⟩ := addAlias_eq_ok_iff.mp hd
      rfl

end Answers

section Histories

def answers (t : TypeTable) : List Declaration → List (Except Error TypeId)
  | [] => []
  | d :: ds => t.answer d :: (t.after d).answers ds

theorem answers_append (t : TypeTable) (ds ds' : List Declaration) :
    t.answers (ds ++ ds') = t.answers ds ++ (t.afterAll ds).answers ds' := by
  induction ds generalizing t with
  | nil => rfl
  | cons d ds ih => exact congrArg (t.answer d :: ·) (ih (t.after d))

theorem length_answers (t : TypeTable) (ds : List Declaration) :
    (t.answers ds).length = ds.length := by
  induction ds generalizing t with
  | nil => rfl
  | cons d ds ih => exact congrArg (· + 1) (ih (t.after d))

/-- The declarations that are accepted, each with the identifier that it gets. -/
def accepted (t : TypeTable) (ds : List Declaration) : List (Declaration × TypeId) :=
  (ds.zip (t.answers ds)).filterMap fun p => p.2.toOption.map fun id => (p.1, id)

theorem accepted_cons_of_ok (h : t.answer d = .ok id) (ds : List Declaration) :
    t.accepted (d :: ds) = (d, id) :: (t.after d).accepted ds := by
  simp [accepted, answers, h, Except.toOption]

theorem accepted_cons_of_error {refusal : Error} (h : t.answer d = .error refusal)
    (ds : List Declaration) : t.accepted (d :: ds) = t.accepted ds := by
  simp [accepted, answers, h, after_of_error h, Except.toOption]

/-- The accepted declarations are accepted again when the refused ones are left out. -/
theorem answers_accepted (t : TypeTable) (ds : List Declaration) :
    t.answers ((t.accepted ds).map (·.1)) = (t.accepted ds).map fun p => .ok p.2 := by
  induction ds generalizing t with
  | nil => rfl
  | cons d ds ih =>
    cases h : t.answer d with
    | ok id => simp only [accepted_cons_of_ok h, List.map_cons, answers, h, ih]
    | error refusal => rw [accepted_cons_of_error h, ih]

theorem afterAll_accepted (t : TypeTable) (ds : List Declaration) :
    t.afterAll ((t.accepted ds).map (·.1)) = t.afterAll ds := by
  induction ds generalizing t with
  | nil => rfl
  | cons d ds ih =>
    cases h : t.answer d with
    | ok id =>
      rw [accepted_cons_of_ok h]
      exact ih (t.after d)
    | error refusal =>
      have hsame : t.afterAll (d :: ds) = t.afterAll ds :=
        congrArg (fun u : TypeTable => u.afterAll ds) (after_of_error h)
      rw [accepted_cons_of_error h, ih, hsame]

/-- The list of entries is the record of what was accepted. -/
theorem entries_afterAll (t : TypeTable) (ds : List Declaration) :
    (t.afterAll ds).entries = t.entries ++ (t.accepted ds).map fun p => p.1.entry p.2 := by
  induction ds generalizing t with
  | nil => exact (List.append_nil _).symm
  | cons d ds ih =>
    have hstep : (t.afterAll (d :: ds)).entries =
        (t.after d).entries ++ ((t.after d).accepted ds).map fun p => p.1.entry p.2 := ih _
    cases h : t.answer d with
    | ok id => simp [hstep, accepted_cons_of_ok h, entries_after_of_ok h]
    | error refusal => rw [hstep, accepted_cons_of_error h, after_of_error h]

/-- The name was there from the start, or an accepted declaration took it. -/
def NameTaken (start : TypeTable) (ds : List Declaration) (name : String) : Prop :=
  (∃ e ∈ start.entries, e.name = name) ∨ ∃ p ∈ start.accepted ds, p.1.name = name

def IdTaken (start : TypeTable) (ds : List Declaration) (id : TypeId) : Prop :=
  (∃ e ∈ start.entries, e.id = id) ∨ ∃ p ∈ start.accepted ds, p.2 = id

def aliasCount (start : TypeTable) (ds : List Declaration) : Nat :=
  (start.accepted ds).countP (·.1.isAlias)

theorem exists_mem_entries_afterAll (start : TypeTable) (ds : List Declaration) (P : Entry → Prop) :
    (∃ e ∈ (start.afterAll ds).entries, P e) ↔
      (∃ e ∈ start.entries, P e) ∨ ∃ p ∈ start.accepted ds, P (p.1.entry p.2) := by
  simp only [entries_afterAll, List.mem_append, or_and_right, exists_or, List.mem_map,
    exists_exists_and_eq_and]

theorem Reachable.hasName_iff_taken (h : start.Reachable) (ds : List Declaration) (name : String) :
    (start.afterAll ds).hasName name = true ↔ start.NameTaken ds name := by
  rw [(h.afterAll ds).consistent.indexed.hasName_iff, exists_mem_entries_afterAll]
  simp only [Declaration.entry_name, NameTaken]

theorem Reachable.hasId_iff_taken (h : start.Reachable) (ds : List Declaration) (id : TypeId) :
    (start.afterAll ds).hasId id = true ↔ start.IdTaken ds id := by
  rw [(h.afterAll ds).consistent.indexed.hasId_iff, exists_mem_entries_afterAll]
  simp only [Declaration.entry_id, IdTaken]

/-- Only accepted aliases move the next identifier. -/
theorem Reachable.nextAlias_afterAll (h : start.Reachable) (hnone : start.aliases = [])
    (ds : List Declaration) :
    (start.afterAll ds).nextAlias.raw.toNat = 16 + start.aliasCount ds := by
  have haliases : (start.afterAll ds).aliases.length = start.aliasCount ds := by
    have hstart : start.entries.countP (fun e => decide (e.origin ≠ .builtin)) = 0 := by
      rw [List.countP_eq_length_filter]
      exact congrArg List.length hnone
    rw [aliases, ← List.countP_eq_length_filter, entries_afterAll, List.countP_append, hstart,
      Nat.zero_add, List.countP_map, aliasCount]
    exact congrArg (fun f => (start.accepted ds).countP f)
      (funext fun p => Declaration.entry_origin p.1 p.2)
  rw [(h.afterAll ds).consistent.numbered.next, haliases]

/-- What the next declaration leads to, by the history before it. -/
structure Settled (start : TypeTable) (ds : List Declaration) : Prop where
  next : (start.afterAll ds).nextAlias.raw.toNat = 16 + start.aliasCount ds
  builtin_ok : ∀ id name r, (start.afterAll ds).answer (.builtin id name) = .ok r ↔
    (1 ≤ id.raw.toNat ∧ id.raw.toNat ≤ 15) ∧ ¬ start.IdTaken ds id ∧ ¬ start.NameTaken ds name ∧
      id = r
  builtin_error : ∀ id name refusal,
    (start.afterAll ds).answer (.builtin id name) = .error refusal ↔
      (¬ (1 ≤ id.raw.toNat ∧ id.raw.toNat ≤ 15) ∧ refusal = .notBuiltin id) ∨
      ((1 ≤ id.raw.toNat ∧ id.raw.toNat ≤ 15) ∧
        (start.IdTaken ds id ∨ start.NameTaken ds name) ∧ refusal = .duplicate name)
  alias_ok : ∀ name base r, (start.afterAll ds).answer (.alias name base) = .ok r ↔
    ¬ start.NameTaken ds name ∧ start.IdTaken ds base ∧
      16 + start.aliasCount ds < UInt32.size - 1 ∧ (start.afterAll ds).nextAlias = r
  alias_error : ∀ name base refusal,
    (start.afterAll ds).answer (.alias name base) = .error refusal ↔
      (start.NameTaken ds name ∧ refusal = .duplicate name) ∨
      (¬ start.NameTaken ds name ∧ ¬ start.IdTaken ds base ∧ refusal = .unknownBase name base) ∨
      (¬ start.NameTaken ds name ∧ start.IdTaken ds base ∧
        UInt32.size - 1 ≤ 16 + start.aliasCount ds ∧ refusal = .full)

theorem Reachable.settled (h : start.Reachable) (hnone : start.aliases = [])
    (ds : List Declaration) : start.Settled ds where
  next := h.nextAlias_afterAll hnone ds
  builtin_ok id name r := by
    rw [answer_builtin_eq_ok_iff, h.hasId_iff_taken, h.hasName_iff_taken]
  builtin_error id name refusal := by
    simp only [answer_builtin, ← h.hasId_iff_taken, ← h.hasName_iff_taken]
    grind
  alias_ok name base r := by
    have hlt := (start.afterAll ds).nextAlias.raw.toNat_lt_size
    have hroom : ¬ (start.afterAll ds).nextAlias.raw.toNat + 1 = UInt32.size ↔
        16 + start.aliasCount ds < UInt32.size - 1 := by
      rw [← h.nextAlias_afterAll hnone]
      omega
    rw [answer_alias_eq_ok_iff, h.hasName_iff_taken, h.hasId_iff_taken, hroom]
  alias_error name base refusal := by
    have hlt := (start.afterAll ds).nextAlias.raw.toNat_lt_size
    simp only [answer_alias, ← h.hasId_iff_taken, ← h.hasName_iff_taken,
      ← h.nextAlias_afterAll hnone]
    grind

end Histories

/-- Steps on a table that is changed in place. A step that fails leaves what was done before it. -/
abbrev InPlace := ExceptT Error (StateM TypeTable)

namespace InPlace

def refuseIf (c : Bool) (refusal : Error) : InPlace Unit := if c then throw refusal else pure ()

def insert (e : Entry) : InPlace Unit := do
  let position := (← get).entries.length
  modify fun t => { t with positions := (e.id, position) :: t.positions }
  modify fun t => { t with ids := (e.name, e.id) :: t.ids }
  modify fun t => { t with entries := t.entries ++ [e] }

def successor (id : TypeId) : InPlace TypeId := do
  refuseIf (id.raw.toNat + 1 = UInt32.size) .full
  return ⟨id.raw + 1⟩

def addBuiltin (id : TypeId) (name : String) : InPlace TypeId := do
  refuseIf (!id.inBuiltinRange || id = .unknown) (.notBuiltin id)
  refuseIf ((← get).hasName name || (← get).hasId id) (.duplicate name)
  insert ⟨id, name, .builtin⟩
  return id

/-- The identifier is read before it is known whether another one follows it. -/
def addAlias (name : String) (base : TypeId) : InPlace TypeId := do
  refuseIf ((← get).hasName name) (.duplicate name)
  refuseIf (!(← get).hasId base) (.unknownBase name base)
  let id := (← get).nextAlias
  let next ← successor id
  modify fun t => { t with nextAlias := next }
  insert ⟨id, name, .alias base⟩
  return id

def declare : Declaration → InPlace TypeId
  | .builtin id name => addBuiltin id name
  | .alias name base => addAlias name base

/-- Runs all the declarations, also those after a refusal. -/
def declareAll (ds : List Declaration) : StateM TypeTable (List (Except Error TypeId)) :=
  ds.mapM fun d => (declare d).run

variable {α : Type}

theorem run_get_bind (next : TypeTable → InPlace α) (t : TypeTable) :
    (get >>= next).run t = (next t).run t := rfl

theorem run_refuseIf_bind (c : Bool) (refusal : Error) (next : Unit → InPlace α) (t : TypeTable) :
    (refuseIf c refusal >>= next).run t = if c then (.error refusal, t) else (next ()).run t := by
  cases c <;> rfl

/-- One declaration: the steps have the answer and the table of the whole. -/
theorem declare_run (d : Declaration) (t : TypeTable) :
    (declare d).run t = (t.answer d, t.after d) := by
  cases d with
  | builtin id name =>
    rw [answer, after, TypeTable.declare, TypeTable.addBuiltin, declare]
    simp only [addBuiltin, run_get_bind, run_refuseIf_bind]
    cases !id.inBuiltinRange || decide (id = .unknown) with
    | true => rfl
    | false => cases t.hasName name || t.hasId id <;> rfl
  | «alias» name base =>
    rw [answer, after, TypeTable.declare, TypeTable.addAlias, declare]
    simp only [addAlias, successor, bind_assoc, run_get_bind, run_refuseIf_bind]
    cases t.hasName name with
    | true => rfl
    | false =>
      cases t.hasId base with
      | false => rfl
      | true =>
        by_cases hfull : t.nextAlias.raw.toNat + 1 = UInt32.size
        · rw [if_pos hfull, decide_eq_true hfull]
          rfl
        · rw [if_neg hfull, decide_eq_false hfull]
          rfl

theorem declareAll_run (ds : List Declaration) (t : TypeTable) :
    (declareAll ds).run t = (t.answers ds, t.afterAll ds) := by
  induction ds generalizing t with
  | nil => rfl
  | cons d ds ih =>
    have hcons : declareAll (d :: ds) = do
        let a ← (declare d).run
        let as ← declareAll ds
        return a :: as := List.mapM_cons
    have hd : (declare d).run.run t = (t.answer d, t.after d) := declare_run d t
    simp only [hcons, StateT.run_bind, hd, ih]
    rfl

end InPlace

/-- The history of accepted declarations settles each declaration of a sequence, and a table that is
changed in place ends up as if the refused ones had not been made. -/
theorem refusals_leave_no_trace (hstart : start = empty ∨ start = builtins)
    (ds : List Declaration) :
    start.Settled ds ∧
    (∀ d rest, (start.answers (ds ++ d :: rest))[ds.length]? =
      some ((start.afterAll ds).answer d)) ∧
    (InPlace.declareAll ds).run start = (start.answers ds, start.afterAll ds) ∧
    (InPlace.declareAll ((start.accepted ds).map (·.1))).run start =
      ((start.accepted ds).map fun p => .ok p.2, start.afterAll ds) := by
  have hreachable : start.Reachable ∧ start.aliases = [] := by
    rcases hstart with rfl | rfl
    · exact ⟨.empty, rfl⟩
    · exact ⟨.builtins, rfl⟩
  refine ⟨hreachable.1.settled hreachable.2 ds, ?_, InPlace.declareAll_run ds start, ?_⟩
  · intro d rest
    rw [answers_append, List.getElem?_append_right (Nat.le_of_eq (length_answers start ds)),
      length_answers, Nat.sub_self]
    rfl
  · rw [InPlace.declareAll_run, answers_accepted, afterAll_accepted]

/-- Three declarations that are accepted among four that are not. -/
def Declaration.mixed : List Declaration :=
  [.alias "CHARACTERGUID" .guidString, .builtin ⟨16⟩ "ITEM", .alias "CHARACTERGUID" .integer,
    .alias "LOST" ⟨40⟩, .builtin ⟨9⟩ "COLOUR", .builtin ⟨9⟩ "SHADE", .alias "PLAYER" ⟨16⟩]

theorem mixed_leave_no_trace :
    builtins.Settled Declaration.mixed ∧
    (InPlace.declareAll Declaration.mixed).run builtins =
      ([.ok ⟨16⟩, .error (.notBuiltin ⟨16⟩), .error (.duplicate "CHARACTERGUID"),
        .error (.unknownBase "LOST" ⟨40⟩), .ok ⟨9⟩, .error (.duplicate "SHADE"), .ok ⟨17⟩],
        builtins.afterAll Declaration.mixed) ∧
    (InPlace.declareAll [.alias "CHARACTERGUID" .guidString, .builtin ⟨9⟩ "COLOUR",
      .alias "PLAYER" ⟨16⟩]).run builtins =
      ([.ok ⟨16⟩, .ok ⟨9⟩, .ok ⟨17⟩], builtins.afterAll Declaration.mixed) := by
  obtain ⟨hsettled, _, hall, haccepted⟩ :=
    refusals_leave_no_trace (Or.inr rfl) Declaration.mixed
  exact ⟨hsettled, hall, haccepted⟩

end Storyline.TypeTable
