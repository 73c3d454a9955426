import Storyline.Scope

/-!
# Occurrences of values in a goal

The values of a goal stand in a fixed order: the facts of the start, the rules, the facts of the
end; in a rule the conditions before the actions, the left side of a comparison before its right
side, arguments from left to right. An occurrence is a value at its place in that order, together
with the references that stand before it in the same rule.

An occurrence has findings, the diagnostics that its author has to hear about, and a constant that
has no type name may have a fault, the lack of the builtin type of its literal. Both are said here
from the occurrence and the table of types alone, without a scope or a run.
-/

namespace Storyline.Source

section Order

def Value.typeName : Value → Option String
  | .constant c => c.typeName
  | .reference v => v.typeName

def Value.span : Value → Span
  | .constant c => c.span
  | .reference v => v.span

def Value.references : Value → List Variable
  | .constant _ => []
  | .reference v => [v]

def references (vs : List Value) : List Variable := vs.flatMap Value.references

@[simp] theorem references_nil : references [] = [] := rfl

@[simp] theorem references_cons (v : Value) (vs : List Value) :
    references (v :: vs) = v.references ++ references vs := List.flatMap_cons

@[simp] theorem references_append (vs ws : List Value) :
    references (vs ++ ws) = references vs ++ references ws := List.flatMap_append

theorem mem_references_iff {vs : List Value} {v : Variable} :
    v ∈ references vs ↔ .reference v ∈ vs := by
  rw [references, List.mem_flatMap]
  constructor
  · rintro ⟨w, hw, hv⟩
    cases w with
    | constant c => cases hv
    | reference x => rwa [List.mem_singleton.mp hv]
  · intro hv
    exact ⟨.reference v, hv, List.mem_singleton_self v⟩

def Fact.values (f : Fact) : List Value := f.elements.map .constant

def Condition.values : Condition → List Value
  | .query c => c.args
  | .comparison c => [c.left, c.right]

def Action.values : Action → List Value
  | .completion _ => []
  | .call c => c.args

def Rule.values (r : Rule) : List Value :=
  r.conditions.flatMap Condition.values ++ r.actions.flatMap Action.values

def Rule.references (r : Rule) : List Variable := Source.references r.values

theorem Rule.mem_references_of_condition {r : Rule} {c : Condition} (hc : c ∈ r.conditions) :
    ∀ x ∈ Source.references c.values, x ∈ r.references := by
  intro x hx
  obtain ⟨v, hv, hx⟩ := List.mem_flatMap.mp hx
  have hvalue : v ∈ r.values := List.mem_append_left _ (List.mem_flatMap.mpr ⟨c, hc, hv⟩)
  exact List.mem_flatMap.mpr ⟨v, hvalue, hx⟩

theorem Rule.mem_references_of_action {r : Rule} {a : Action} (ha : a ∈ r.actions) :
    ∀ x ∈ Source.references a.values, x ∈ r.references := by
  intro x hx
  obtain ⟨v, hv, hx⟩ := List.mem_flatMap.mp hx
  have hvalue : v ∈ r.values := List.mem_append_right _ (List.mem_flatMap.mpr ⟨a, ha, hv⟩)
  exact List.mem_flatMap.mpr ⟨v, hvalue, hx⟩

structure Occurrence where
  earlier : List Variable
  value : Value
deriving DecidableEq, Repr

def occurrencesAfter (earlier : List Variable) : List Value → List Occurrence
  | [] => []
  | v :: vs => ⟨earlier, v⟩ :: occurrencesAfter (earlier ++ v.references) vs

theorem occurrencesAfter_append (earlier : List Variable) (vs ws : List Value) :
    occurrencesAfter earlier (vs ++ ws) =
      occurrencesAfter earlier vs ++ occurrencesAfter (earlier ++ references vs) ws := by
  induction vs generalizing earlier with
  | nil => simp only [List.nil_append, occurrencesAfter, references_nil, List.append_nil]
  | cons v vs ih =>
    simp only [List.cons_append, occurrencesAfter, ih, references_cons, List.append_assoc]

def Fact.occurrences (f : Fact) : List Occurrence := occurrencesAfter [] f.values

def Rule.occurrences (r : Rule) : List Occurrence := occurrencesAfter [] r.values

def Goal.occurrences (g : Goal) : List Occurrence :=
  g.initFacts.flatMap Fact.occurrences ++ g.rules.flatMap Rule.occurrences ++
    g.exitFacts.flatMap Fact.occurrences

theorem occurrencesAfter_map_value (earlier : List Variable) (vs : List Value) :
    (occurrencesAfter earlier vs).map (·.value) = vs := by
  induction vs generalizing earlier with
  | nil => rfl
  | cons v vs ih => rw [occurrencesAfter, List.map_cons, ih]

theorem forall_mem_occurrencesAfter {P : Value → Prop} {earlier : List Variable} {vs : List Value} :
    (∀ o ∈ occurrencesAfter earlier vs, P o.value) ↔ ∀ v ∈ vs, P v := by
  rw [← List.forall_mem_map (f := Occurrence.value), occurrencesAfter_map_value]

/-- What holds of all the occurrences of a goal holds of its facts and of its rules. -/
theorem Goal.forall_mem_occurrences {P : Value → Prop} {g : Goal} :
    (∀ o ∈ g.occurrences, P o.value) ↔
      (∀ f ∈ g.initFacts ++ g.exitFacts, ∀ c ∈ f.elements, P (.constant c)) ∧
        ∀ r ∈ g.rules, ∀ v ∈ r.values, P v := by
  simp only [occurrences, List.forall_mem_append, List.forall_mem_flatMap, Fact.occurrences,
    Rule.occurrences, forall_mem_occurrencesAfter, Fact.values, List.forall_mem_map]
  exact ⟨fun ⟨⟨hinit, hrules⟩, hexit⟩ => ⟨⟨hinit, hexit⟩, hrules⟩,
    fun ⟨⟨hinit, hexit⟩, hrules⟩ => ⟨⟨hinit, hrules⟩, hexit⟩⟩

theorem occurrencesAfter_earlier {earlier : List Variable} {vs : List Value} :
    ∀ o ∈ occurrencesAfter earlier vs, o.earlier <+: earlier ++ references vs := by
  induction vs generalizing earlier with
  | nil =>
    intro o ho
    cases ho
  | cons v vs ih =>
    intro o ho
    rcases List.mem_cons.mp ho with rfl | hlater
    · exact List.prefix_append _ _
    · rw [references_cons, ← List.append_assoc]
      exact ih o hlater

/-- What stands before an occurrence in its rule has occurrences of its own. -/
theorem forall_mem_earlier {P : Value → Prop} {earlier : List Variable} {vs : List Value}
    (hearlier : ∀ v ∈ earlier, P (.reference v)) (hvs : ∀ v ∈ vs, P v) :
    ∀ o ∈ occurrencesAfter earlier vs, ∀ v ∈ o.earlier, P (.reference v) := by
  induction vs generalizing earlier with
  | nil =>
    intro o ho
    cases ho
  | cons v vs ih =>
    obtain ⟨hv, hrest⟩ := List.forall_mem_cons.mp hvs
    have hnext : ∀ w ∈ earlier ++ v.references, P (.reference w) := by
      intro w hw
      rcases List.mem_append.mp hw with hold | hnew
      · exact hearlier w hold
      · have hmem : w ∈ references [v] := by rwa [references_cons, references_nil, List.append_nil]
        rwa [← List.mem_singleton.mp (mem_references_iff.mp hmem)] at hv
    intro o ho
    rcases List.mem_cons.mp ho with rfl | hlater
    · exact hearlier
    · exact ih hnext hrest o hlater

theorem Goal.forall_mem_earlier {P : Value → Prop} {g : Goal} (h : ∀ o ∈ g.occurrences, P o.value) :
    ∀ o ∈ g.occurrences, ∀ v ∈ o.earlier, P (.reference v) := by
  obtain ⟨hfacts, hrules⟩ := forall_mem_occurrences.mp h
  obtain ⟨hinit, hexit⟩ := List.forall_mem_append.mp hfacts
  have hnone : ∀ v ∈ ([] : List Variable), P (.reference v) := by
    intro v hv
    cases hv
  have hfact : ∀ f : Fact, (∀ c ∈ f.elements, P (.constant c)) →
      ∀ o ∈ f.occurrences, ∀ v ∈ o.earlier, P (.reference v) :=
    fun f hf => Source.forall_mem_earlier hnone (List.forall_mem_map.mpr hf)
  simp only [occurrences, List.forall_mem_append, List.forall_mem_flatMap]
  exact ⟨⟨fun f hf => hfact f (hinit f hf),
    fun r hr => Source.forall_mem_earlier hnone (hrules r hr)⟩, fun f hf => hfact f (hexit f hf)⟩

end Order

/-- The type that a variable's own type name stands for. -/
def Variable.writtenType? (types : TypeTable) (v : Variable) : Option TypeId :=
  v.typeName.bind types.lookup?

def labelAt (span : Span) (text : String) (isPrimary : Bool) : List Diagnostic.Label :=
  if span.isDummy then [] else [⟨span, text, isPrimary⟩]

def unknownType (typeName : String) (span : Span) : Diagnostic where
  code := .typeUnresolved
  severity := .error
  message := "type `" ++ typeName ++ "` does not exist"
  labels := labelAt span "unknown type" true

def typePhrase (types : TypeTable) (type : Option TypeId) : String :=
  match type.bind types.name? with
  | some name => "type `" ++ name ++ "`"
  | none => "no type"

/-- A reference to a variable whose first reference gave it another type, or none. -/
def ignoredTypeName (types : TypeTable) (first v : Variable) (typeName : String) : Diagnostic where
  code := .annotationConflict
  severity := .warning
  message := "variable `" ++ v.name ++ "` is annotated `" ++ typeName ++
    "` but is already bound with " ++ typePhrase types (first.writtenType? types)
  labels := labelAt v.span "annotation ignored" true ++ labelAt first.span "first bound here" false
  notes := ["the first annotation of a variable decides its type"]

namespace Occurrence

variable (ctx : Context)

/-- The first reference to a name among those before the occurrence. -/
def first? (o : Occurrence) (name : String) : Option Variable := o.earlier.find? (·.name = name)

/-- A known type name on a value: only a later reference can disagree with an earlier one. -/
def conflicts (o : Occurrence) (typeName : String) (type : TypeId) : List Diagnostic :=
  match o.value with
  | .constant _ => []
  | .reference v =>
    match o.first? v.name with
    | none => []
    | some first =>
      if ctx.policy = .warn ∧ first.writtenType? ctx.types ≠ some type then
        [ignoredTypeName ctx.types first v typeName]
      else []

def findings (o : Occurrence) : List Diagnostic :=
  match o.value.typeName with
  | none => []
  | some typeName =>
    match ctx.types.lookup? typeName with
    | none => [unknownType typeName o.value.span]
    | some type => o.conflicts ctx typeName type

variable {o : Occurrence} {typeName : String} {type : TypeId} {d : Diagnostic}

theorem findings_of_unnamed (hname : o.value.typeName = none) : o.findings ctx = [] := by
  simp only [findings, hname]

theorem findings_of_unknown (hname : o.value.typeName = some typeName)
    (hlookup : ctx.types.lookup? typeName = none) :
    o.findings ctx = [unknownType typeName o.value.span] := by
  simp only [findings, hname, hlookup]

theorem findings_of_known (hname : o.value.typeName = some typeName)
    (hlookup : ctx.types.lookup? typeName = some type) :
    o.findings ctx = o.conflicts ctx typeName type := by
  simp only [findings, hname, hlookup]

variable {ctx}

theorem conflicts_code (hd : d ∈ o.conflicts ctx typeName type) : d.code = .annotationConflict := by
  obtain ⟨earlier, value⟩ := o
  cases value with
  | constant c => cases hd
  | reference v =>
    simp only [conflicts] at hd
    cases hfirst : first? ⟨earlier, .reference v⟩ v.name with
    | none => simp [hfirst] at hd
    | some first =>
      simp only [hfirst, List.mem_ite_nil_right, List.mem_singleton] at hd
      rw [hd.2, ignoredTypeName]

end Occurrence

/-- A constant without a type name, whose literal is classified and has no builtin type in the
table. -/
def Constant.Untypable (types : TypeTable) (c : Constant) : Prop :=
  c.typeName = none ∧ c.literal.kind ≠ .unknown ∧
    c.literal.kind.builtinType?.bind types.builtin? = none

instance (types : TypeTable) (c : Constant) : Decidable (c.Untypable types) :=
  inferInstanceAs (Decidable (_ ∧ _ ∧ _))

/-- Only a constant can lack its type. -/
def Value.Untypable (types : TypeTable) : Value → Prop
  | .constant c => c.Untypable types
  | .reference _ => False

instance (types : TypeTable) : (v : Value) → Decidable (v.Untypable types)
  | .constant c => inferInstanceAs (Decidable (c.Untypable types))
  | .reference _ => inferInstanceAs (Decidable False)

/-- Four builtin types are enough for every literal. -/
theorem Value.typable_of_builtins {types : TypeTable}
    (h : ∀ type ∈ [TypeId.integer, .real, .string, .guidString], (types.builtin? type).isSome)
    (v : Value) : ¬ v.Untypable types := by
  intro hv
  cases v with
  | reference v => exact hv
  | constant c =>
    obtain ⟨_, hkind, hbuiltin⟩ := hv
    cases hk : c.literal.kind with
    | unknown => exact hkind hk
    | integer => simp_all [Literal.Kind.builtinType?]
    | real => simp_all [Literal.Kind.builtinType?]
    | text => simp_all [Literal.Kind.builtinType?]
    | name => simp_all [Literal.Kind.builtinType?]

/-- Either every value can be typed, or there is a first one that cannot. -/
theorem typable_or_first_untypable (types : TypeTable) (os : List Occurrence) :
    (∀ o ∈ os, ¬ o.value.Untypable types) ∨
      ∃ before o after, os = before ++ o :: after ∧
        (∀ p ∈ before, ¬ p.value.Untypable types) ∧ o.value.Untypable types := by
  cases h : os.find? fun o => o.value.Untypable types with
  | none => exact Or.inl (by simpa using h)
  | some o =>
    obtain ⟨ho, before, after, hos, hbefore⟩ := List.find?_eq_some_iff_append.mp h
    exact Or.inr ⟨before, o, after, hos, by simpa using hbefore, by simpa using ho⟩

/-- Type names that nothing declares, and a variable that gets its type too late. -/
def Rule.clash : Rule where
  kind := .proc
  conditions := [
    .query { name := "P", args := [.reference { name := "x", span := ⟨10, 11⟩ }] },
    .comparison {
      left := .reference { name := "y", typeName := some "STRING" }
      relation := .less
      right := .reference { name := "x", typeName := some "INTEGER", span := ⟨20, 21⟩ } }]
  actions := [
    .call { name := "Q", negated := true, args := [
      .reference { name := "z" }, .constant { typeName := some "GONE", literal := .unknown }] },
    .completion ⟨30, 40⟩]

def Goal.clash : Goal where
  name := "Clash"
  initFacts := [{ database := "DB", elements := [
    { typeName := some "NOPE", literal := .integer 1, span := ⟨3, 7⟩ }] }]
  rules := [.clash]
  exitFacts := [{ database := "Done", elements := [{ literal := .text "end" }] }]
  parents := [{ goal := "Top", span := ⟨50, 53⟩ }]

end Storyline.Source
