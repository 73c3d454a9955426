import Storyline.Lowering
import Storyline.Proofs.DeclarationHistory

/-!
# The order of independent declarations

Two declarations are independent unless both are aliases or one of them is an alias of the other.
When both are accepted one after the other, they are accepted the other way round too, with the same
identifiers. The two tables differ as states, in the order of their entries and in the positions
that the index gives, but not in what they answer: a consistent table answers every question from
the set of its entries. Following alias links asks for entries only, and both tables bound the
number of links by the same size.

Lowering asks a table for the type of a name, for a builtin type and for the name of a type, and
does nothing else with it. So it runs alike against tables with the same answers.
-/

namespace Storyline

namespace TypeTable

variable {t t' : TypeTable} {d d' : Declaration} {a b : TypeId}

/-- The tables cannot be told apart by asking for a name or an identifier. -/
structure SameAnswers (t t' : TypeTable) : Prop where
  lookup? : ∀ name, t.lookup? name = t'.lookup? name
  get? : ∀ id, t.get? id = t'.get? id
  builtin? : ∀ id, t.builtin? id = t'.builtin? id
  name? : ∀ id, t.name? id = t'.name? id
  base? : ∀ id, t.base? id = t'.base? id
  size : t.size = t'.size

section Permuted

theorem followAliases_congr (hget : ∀ id, t.get? id = t'.get? id) (fuel : Nat) (e : Entry) :
    t.followAliases fuel e = t'.followAliases fuel e := by
  induction fuel generalizing e with
  | zero => rfl
  | succ fuel ih =>
    have hfollow : t.followAliases fuel = t'.followAliases fuel := funext ih
    simp only [followAliases, hget, hfollow]

theorem Indexed.get?_eq_of_perm (h : t.Indexed) (h' : t'.Indexed)
    (hperm : t.entries.Perm t'.entries) (id : TypeId) : t.get? id = t'.get? id := by
  apply Option.ext
  intro e
  rw [h.get?_eq_some_iff, h'.get?_eq_some_iff, hperm.mem_iff]

theorem Indexed.lookup?_eq_of_perm (h : t.Indexed) (h' : t'.Indexed)
    (hperm : t.entries.Perm t'.entries) (name : String) : t.lookup? name = t'.lookup? name := by
  apply Option.ext
  intro id
  rw [lookup?, lookup?, h.ids, h'.ids]
  simp only [hperm.mem_iff]

theorem Indexed.sameAnswers (h : t.Indexed) (h' : t'.Indexed)
    (hperm : t.entries.Perm t'.entries) : t.SameAnswers t' := by
  have hget := h.get?_eq_of_perm h' hperm
  have hsize : t.size = t'.size := hperm.length_eq
  refine ⟨h.lookup?_eq_of_perm h' hperm, hget, ?_, ?_, ?_, hsize⟩
  · intro id
    rw [builtin?, builtin?, hget]
  · intro id
    rw [name?, name?, hget]
  · intro id
    have hfollow : t.followAliases (t.size + 1) = t'.followAliases (t.size + 1) :=
      funext (followAliases_congr hget _)
    rw [base?, base?, hget, hfollow, hsize]

/-- The entries tell which identifier comes next. -/
theorem Numbered.nextAlias_eq_of_perm (h : t.Numbered) (h' : t'.Numbered)
    (hperm : t.entries.Perm t'.entries) : t.nextAlias = t'.nextAlias := by
  have hcount : t.aliases.length = t'.aliases.length := (hperm.filter _).length_eq
  have hraw : t.nextAlias.raw.toNat = t'.nextAlias.raw.toNat := by rw [h.next, h'.next, hcount]
  exact congrArg TypeId.mk (UInt32.toNat_inj.mp hraw)

theorem Consistent.answer_eq_of_perm (h : t.Consistent) (h' : t'.Consistent)
    (hperm : t.entries.Perm t'.entries) (d : Declaration) : t.answer d = t'.answer d := by
  have hname : ∀ name, t.hasName name = t'.hasName name :=
    fun name => congrArg Option.isSome (h.indexed.lookup?_eq_of_perm h'.indexed hperm name)
  have hid : ∀ id, t.hasId id = t'.hasId id := by
    intro id
    rw [Bool.eq_iff_iff, h.indexed.hasId_iff, h'.indexed.hasId_iff]
    simp only [hperm.mem_iff]
  cases d with
  | builtin id name => rw [answer_builtin, answer_builtin, hname, hid]
  | «alias» name base =>
    rw [answer_alias, answer_alias, hname, hid, h.numbered.nextAlias_eq_of_perm h'.numbered hperm]

/-- One declaration, made in both tables. -/
theorem Consistent.after_perm (h : t.Consistent) (h' : t'.Consistent)
    (hperm : t.entries.Perm t'.entries) (d : Declaration) :
    (t.after d).entries.Perm (t'.after d).entries := by
  have hsame := h.answer_eq_of_perm h' hperm d
  cases hd : t.answer d with
  | ok id =>
    rw [entries_after_of_ok hd, entries_after_of_ok (hsame.symm.trans hd)]
    exact hperm.append_right _
  | error refusal =>
    rw [after_of_error hd, after_of_error (hsame.symm.trans hd)]
    exact hperm

/-- Any number of declarations, made in both tables. -/
theorem Consistent.afterAll_perm (h : t.Consistent) (h' : t'.Consistent)
    (hperm : t.entries.Perm t'.entries) (ds : List Declaration) :
    t.answers ds = t'.answers ds ∧ (t.afterAll ds).entries.Perm (t'.afterAll ds).entries := by
  induction ds generalizing t t' with
  | nil => exact ⟨rfl, hperm⟩
  | cons d ds ih =>
    obtain ⟨hanswers, hentries⟩ := ih (h.after d) (h'.after d) (h.after_perm h' hperm d)
    refine ⟨?_, hentries⟩
    rw [answers, answers, h.answer_eq_of_perm h' hperm d, hanswers]

end Permuted

section Swapped

/-- Neither needs the other, and they do not both take the next free identifier. -/
def Declaration.Independent : Declaration → Declaration → Prop
  | .builtin _ _, .builtin _ _ => True
  | .builtin id _, .alias _ base => base ≠ id
  | .alias _ base, .builtin id _ => base ≠ id
  | .alias _ _, .alias _ _ => False

theorem nextAlias_after_builtin (t : TypeTable) (id : TypeId) (name : String) :
    (t.after (.builtin id name)).nextAlias = t.nextAlias := by
  cases hd : t.declare (.builtin id name) with
  | error refusal => rw [after, hd]
  | ok r =>
    obtain ⟨_, _, _, rfl⟩ := addBuiltin_eq_ok_iff.mp hd
    rw [after, hd]
    rfl

namespace Consistent

theorem hasName_after_iff (ht : t.Consistent) (h : t.answer d = .ok a) {name : String} :
    (t.after d).hasName name = true ↔ t.hasName name = true ∨ d.name = name := by
  rw [(ht.after d).indexed.hasName_iff, ht.indexed.hasName_iff, entries_after_of_ok h]
  simp [or_and_right, exists_or]

theorem hasId_after_iff (ht : t.Consistent) (h : t.answer d = .ok a) {id : TypeId} :
    (t.after d).hasId id = true ↔ t.hasId id = true ∨ a = id := by
  rw [(ht.after d).indexed.hasId_iff, ht.indexed.hasId_iff, entries_after_of_ok h]
  simp [or_and_right, exists_or]

/-- What is accepted was not there before. -/
theorem fresh_of_answer (ht : t.Consistent) (h : t.answer d = .ok a) :
    ¬ t.hasName d.name = true ∧ ¬ t.hasId a = true := by
  cases d with
  | builtin id name =>
    obtain ⟨_, hid, hname, rfl⟩ := answer_builtin_eq_ok_iff.mp h
    exact ⟨hname, hid⟩
  | «alias» name base =>
    obtain ⟨hname, _, _, rfl⟩ := answer_alias_eq_ok_iff.mp h
    exact ⟨hname, by simp [ht.hasId_nextAlias]⟩

/-- The second declaration needs nothing that the first one brings. -/
theorem answer_second (ht : t.Consistent) (hindependent : d.Independent d')
    (h : t.answer d = .ok a) (h' : (t.after d).answer d' = .ok b) : t.answer d' = .ok b := by
  have hname : ∀ {name}, ¬ (t.after d).hasName name = true → ¬ t.hasName name = true :=
    fun hnew hused => hnew ((ht.hasName_after_iff h).mpr (Or.inl hused))
  cases d' with
  | builtin id' name' =>
    obtain ⟨hrange, hid', hname', rfl⟩ := answer_builtin_eq_ok_iff.mp h'
    refine answer_builtin_eq_ok_iff.mpr ⟨hrange, ?_, hname hname', rfl⟩
    exact fun hused => hid' ((ht.hasId_after_iff h).mpr (Or.inl hused))
  | «alias» name' base' =>
    obtain ⟨hname', hbase', hroom, rfl⟩ := answer_alias_eq_ok_iff.mp h'
    cases d with
    | builtin id name =>
      obtain ⟨_, _, _, rfl⟩ := answer_builtin_eq_ok_iff.mp h
      rw [nextAlias_after_builtin] at hroom ⊢
      have hbase : t.hasId base' = true :=
        ((ht.hasId_after_iff h).mp hbase').resolve_right (Ne.symm hindependent)
      exact answer_alias_eq_ok_iff.mpr ⟨hname hname', hbase, hroom, rfl⟩
    | «alias» name base => exact hindependent.elim

/-- The second declaration takes nothing that the first one needs. -/
theorem answer_first (ht : t.Consistent) (hindependent : d.Independent d')
    (h : t.answer d = .ok a) (h' : t.answer d' = .ok b) (hname : d'.name ≠ d.name) (hid : b ≠ a) :
    (t.after d').answer d = .ok a := by
  cases d with
  | builtin id name =>
    obtain ⟨hrange, hnew, hnewName, rfl⟩ := answer_builtin_eq_ok_iff.mp h
    refine answer_builtin_eq_ok_iff.mpr ⟨hrange, ?_, ?_, rfl⟩
    · rw [ht.hasId_after_iff h']
      exact not_or.mpr ⟨hnew, hid⟩
    · rw [ht.hasName_after_iff h']
      exact not_or.mpr ⟨hnewName, hname⟩
  | «alias» name base =>
    obtain ⟨hnewName, hbase, hroom, rfl⟩ := answer_alias_eq_ok_iff.mp h
    cases d' with
    | builtin id' name' =>
      rw [← nextAlias_after_builtin t id' name'] at hroom
      refine answer_alias_eq_ok_iff.mpr ⟨?_, ?_, hroom, nextAlias_after_builtin t id' name'⟩
      · rw [ht.hasName_after_iff h']
        exact not_or.mpr ⟨hnewName, hname⟩
      · exact (ht.hasId_after_iff h').mpr (Or.inl hbase)
    | «alias» name' base' => exact hindependent.elim

/-- Both are accepted in the other order, with the same identifiers. -/
theorem answers_swapped (ht : t.Consistent) (hindependent : d.Independent d')
    (h : t.answer d = .ok a) (h' : (t.after d).answer d' = .ok b) :
    t.answer d' = .ok b ∧ (t.after d').answer d = .ok a := by
  have hsecond := ht.answer_second hindependent h h'
  obtain ⟨hname, hid⟩ := (ht.after d).fresh_of_answer h'
  rw [ht.hasName_after_iff h] at hname
  rw [ht.hasId_after_iff h] at hid
  refine ⟨hsecond, ht.answer_first hindependent h hsecond ?_ ?_⟩
  · exact fun hsame => hname (Or.inr hsame.symm)
  · exact fun hsame => hid (Or.inr hsame.symm)

end Consistent

end Swapped

end TypeTable

section Lowering

variable {t t' : TypeTable}

namespace TypeTable.SameAnswers

variable (h : t.SameAnswers t')
include h

theorem resolveName (typeName : String) (span : Span) :
    t.resolveName typeName span = t'.resolveName typeName span := by
  simp only [TypeTable.resolveName, h.lookup?]

theorem typing (typeName : Option String) (kind : Literal.Kind) (span : Span) :
    t.typing typeName kind span = t'.typing typeName kind span := by
  simp only [TypeTable.typing, TypeTable.inferType, h.resolveName, h.builtin?]

variable (policy : ConflictPolicy)

theorem bind (s : Scope) (v : Source.Variable) :
    s.bind ⟨t, policy⟩ v = s.bind ⟨t', policy⟩ v := by
  have hname : t.name? = t'.name? := funext h.name?
  simp only [Scope.bind, Scope.reviseType, Scope.conflict, TypeTable.resolveName?, h.resolveName,
    hname]

theorem lower_constant : Source.Constant.lower ⟨t, policy⟩ = Source.Constant.lower ⟨t', policy⟩ := by
  funext c
  simp only [Source.Constant.lower, h.typing]

theorem lower_fact : Source.Fact.lower ⟨t, policy⟩ = Source.Fact.lower ⟨t', policy⟩ := by
  funext f
  simp only [Source.Fact.lower, h.lower_constant policy]

theorem lower_value : Source.Value.lower ⟨t, policy⟩ = Source.Value.lower ⟨t', policy⟩ := by
  funext s v
  cases v with
  | constant c => simp only [Source.Value.lower, h.lower_constant policy]
  | reference v => simp only [Source.Value.lower, h.bind]

theorem lower_call : Source.Call.lower ⟨t, policy⟩ = Source.Call.lower ⟨t', policy⟩ := by
  funext s c
  simp only [Source.Call.lower, h.lower_value policy]

theorem lower_condition :
    Source.Condition.lower ⟨t, policy⟩ = Source.Condition.lower ⟨t', policy⟩ := by
  funext s c
  cases c with
  | query c => simp only [Source.Condition.lower, h.lower_call policy]
  | comparison c => simp only [Source.Condition.lower, h.lower_value policy]

theorem lower_action (id : GoalId) :
    Source.Action.lower ⟨t, policy⟩ id = Source.Action.lower ⟨t', policy⟩ id := by
  funext s a
  cases a with
  | completion span => rfl
  | call c => simp only [Source.Action.lower, h.lower_call policy]

theorem lower_rule (id : GoalId) :
    Source.Rule.lower ⟨t, policy⟩ id = Source.Rule.lower ⟨t', policy⟩ id := by
  funext position r
  simp only [Source.Rule.lower, h.lower_condition policy, h.lower_action policy]

theorem lower_goal (g : Source.Goal) (id : GoalId) :
    g.lower ⟨t, policy⟩ id = g.lower ⟨t', policy⟩ id := by
  simp only [Source.Goal.lower, Source.Goal.resolve, h.lower_fact policy, h.lower_rule policy]

end TypeTable.SameAnswers

end Lowering

namespace TypeTable

variable {t : TypeTable} {d d' : Declaration} {a b : TypeId}

/-- Two independent declarations can be made in either order. The entries show which one was taken,
but neither a question to the table nor a later declaration nor a run of lowering does. -/
theorem independent_declarations_commute (ht : t.Reachable) (hindependent : d.Independent d')
    (h : t.answer d = .ok a) (h' : (t.after d).answer d' = .ok b) :
    t.answer d' = .ok b ∧ (t.after d').answer d = .ok a ∧
    ((t.after d).after d').entries = t.entries ++ [d.entry a, d'.entry b] ∧
    ((t.after d').after d).entries = t.entries ++ [d'.entry b, d.entry a] ∧
    ((t.after d).after d').SameAnswers ((t.after d').after d) ∧
    (∀ (g : Source.Goal) (id : GoalId) (policy : ConflictPolicy),
      g.lower ⟨(t.after d).after d', policy⟩ id = g.lower ⟨(t.after d').after d, policy⟩ id) ∧
    (∀ ds, ((t.after d).after d').answers ds = ((t.after d').after d).answers ds ∧
      (((t.after d).after d').afterAll ds).SameAnswers (((t.after d').after d).afterAll ds)) := by
  obtain ⟨hsecond, hfirst⟩ := ht.consistent.answers_swapped hindependent h h'
  have hentries : ((t.after d).after d').entries = t.entries ++ [d.entry a, d'.entry b] := by
    rw [entries_after_of_ok h', entries_after_of_ok h, List.append_assoc, List.singleton_append]
  have hentries' : ((t.after d').after d).entries = t.entries ++ [d'.entry b, d.entry a] := by
    rw [entries_after_of_ok hfirst, entries_after_of_ok hsecond, List.append_assoc,
      List.singleton_append]
  have hperm : ((t.after d).after d').entries.Perm ((t.after d').after d).entries := by
    rw [hentries, hentries']
    exact (List.Perm.swap _ _ []).append_left t.entries
  have hcon : ((t.after d).after d').Consistent := ((ht.after d).after d').consistent
  have hcon' : ((t.after d').after d).Consistent := ((ht.after d').after d).consistent
  have hsame := hcon.indexed.sameAnswers hcon'.indexed hperm
  refine ⟨hsecond, hfirst, hentries, hentries', hsame, ?_, ?_⟩
  · intro g id policy
    exact hsame.lower_goal policy g id
  · intro ds
    obtain ⟨hanswers, hlater⟩ := hcon.afterAll_perm hcon' hperm ds
    have hindexed := (((ht.after d).after d').afterAll ds).consistent.indexed
    have hindexed' := (((ht.after d').after d).afterAll ds).consistent.indexed
    exact ⟨hanswers, hindexed.sameAnswers hindexed' hlater⟩

/-- A builtin type and an alias of an alias: the tables differ, and nothing that they answer does. -/
theorem colour_and_player_commute :
    (builtins.after (.alias "CHARACTERGUID" .guidString)).Reachable ∧
    Declaration.Independent (.builtin ⟨9⟩ "COLOUR") (.alias "PLAYER" ⟨16⟩) ∧
    builtins.afterAll [.alias "CHARACTERGUID" .guidString, .builtin ⟨9⟩ "COLOUR",
        .alias "PLAYER" ⟨16⟩] ≠
      builtins.afterAll [.alias "CHARACTERGUID" .guidString, .alias "PLAYER" ⟨16⟩,
        .builtin ⟨9⟩ "COLOUR"] ∧
    (builtins.afterAll [.alias "CHARACTERGUID" .guidString, .builtin ⟨9⟩ "COLOUR",
        .alias "PLAYER" ⟨16⟩]).SameAnswers
      (builtins.afterAll [.alias "CHARACTERGUID" .guidString, .alias "PLAYER" ⟨16⟩,
        .builtin ⟨9⟩ "COLOUR"]) := by
  have hreachable := Reachable.builtins.after (.alias "CHARACTERGUID" .guidString)
  have hindependent : Declaration.Independent (.builtin ⟨9⟩ "COLOUR") (.alias "PLAYER" ⟨16⟩) := by
    intro hsame
    cases hsame
  obtain ⟨_, _, _, _, hsame, _⟩ :=
    independent_declarations_commute (a := ⟨9⟩) (b := ⟨17⟩) hreachable hindependent rfl rfl
  exact ⟨hreachable, hindependent, by decide, hsame⟩

end TypeTable

end Storyline
