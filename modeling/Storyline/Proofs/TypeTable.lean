import Mathlib.Tactic.ByContra
import Storyline.TypeTable

/-!
# Consistent tables of types

Three things in a table of types have to stay in step: the list of entries, the index from
identifiers to positions, and the index from names to identifiers. An insertion does not look at what
it hides, so it is the guards of a declaration that keep identifiers and names apart. `after_cases`
says all that a declaration can do to a table.

A table is consistent if both indexes say exactly what the list says, builtin types have builtin
identifiers, aliases are numbered from 16 on without a gap, and an alias refers to an entry before
it. Every declaration keeps a table consistent, also one that is refused, so all the tables that can
be reached from the two initial ones are.
-/

namespace Storyline.TypeTable

/-- The tables that declarations lead to, whether or not each of them was accepted. -/
inductive Reachable : TypeTable → Prop where
  | empty : Reachable empty
  | builtins : Reachable builtins
  | after {t : TypeTable} (h : Reachable t) (d : Declaration) : Reachable (t.after d)

def aliases (t : TypeTable) : List Entry := t.entries.filter (·.origin ≠ .builtin)

variable {t : TypeTable} {e : Entry} {id base : TypeId} {name : String}

section Declarations

theorem inBuiltinRange_iff :
    (id.inBuiltinRange = true ∧ id ≠ .unknown) ↔ 1 ≤ id.raw.toNat ∧ id.raw.toNat ≤ 15 := by
  have hrange : id.inBuiltinRange = true ↔ id.raw.toNat < 16 := by
    rw [TypeId.inBuiltinRange, decide_eq_true_eq, UInt32.lt_iff_toNat_lt]
    rfl
  have hunknown : id = .unknown ↔ id.raw.toNat = 0 := by
    constructor
    · rintro rfl
      rfl
    · intro hzero
      exact congrArg TypeId.mk (UInt32.toNat_inj.mp hzero)
  rw [hrange, Ne, hunknown]
  omega

theorem addBuiltin_eq_ok_iff {r : TypeId × TypeTable} :
    t.addBuiltin id name = .ok r ↔
      (1 ≤ id.raw.toNat ∧ id.raw.toNat ≤ 15) ∧ t.hasName name = false ∧ t.hasId id = false ∧
        (id, t.insert ⟨id, name, .builtin⟩) = r := by
  rw [addBuiltin, ← inBuiltinRange_iff]
  by_cases hrange : id.inBuiltinRange = true ∧ id ≠ .unknown
  · cases hname : t.hasName name with
    | true => simp [hrange]
    | false => cases hid : t.hasId id <;> simp [hrange]
  · have hguard : (!id.inBuiltinRange || decide (id = .unknown)) = true := by
      by_cases hid : id = .unknown <;> simp_all
    simp [hguard, hrange]

theorem addAlias_eq_ok_iff {r : TypeId × TypeTable} :
    t.addAlias name base = .ok r ↔
      t.hasName name = false ∧ t.hasId base = true ∧ t.nextAlias.raw.toNat + 1 < UInt32.size ∧
        (t.nextAlias, t.insertAlias name base) = r := by
  have hlt := t.nextAlias.raw.toNat_lt_size
  rw [addAlias]
  cases hname : t.hasName name with
  | true => simp
  | false =>
    cases hbase : t.hasId base with
    | false => simp
    | true =>
      by_cases hfull : t.nextAlias.raw.toNat + 1 = UInt32.size
      · simp [hfull]
      · have hroom : t.nextAlias.raw.toNat + 1 < UInt32.size := by omega
        simp [hfull, hroom]

/-- A declaration is refused, or it inserts a builtin type, or it inserts an alias. -/
theorem after_cases (t : TypeTable) (d : Declaration) :
    t.after d = t ∨
    (∃ id name, (1 ≤ id.raw.toNat ∧ id.raw.toNat ≤ 15) ∧ t.hasName name = false ∧
      t.hasId id = false ∧ t.after d = t.insert ⟨id, name, .builtin⟩) ∨
    (∃ name base, t.hasName name = false ∧ t.hasId base = true ∧
      t.nextAlias.raw.toNat + 1 < UInt32.size ∧ t.after d = t.insertAlias name base) := by
  cases hd : t.declare d with
  | error refusal => exact Or.inl (by rw [after, hd])
  | ok r =>
    have hafter : t.after d = r.2 := by rw [after, hd]
    rw [hafter]
    match d, hd with
    | .builtin id name, hd =>
      obtain ⟨hrange, hname, hid, rfl⟩ := addBuiltin_eq_ok_iff.mp hd
      exact Or.inr (Or.inl ⟨id, name, hrange, hname, hid, rfl⟩)
    | .alias name base, hd =>
      obtain ⟨hname, hbase, hroom, rfl⟩ := addAlias_eq_ok_iff.mp hd
      exact Or.inr (Or.inr ⟨name, base, hname, hbase, hroom, rfl⟩)

end Declarations

/-- Both indexes say what the list of entries says, no more and no less. -/
structure Indexed (t : TypeTable) : Prop where
  positions : ∀ id i, t.positions.lookup id = some i ↔ ∃ e, t.entries[i]? = some e ∧ e.id = id
  ids : ∀ name id, t.ids.lookup name = some id ↔ ∃ e ∈ t.entries, e.name = name ∧ e.id = id

theorem getElem?_append_singleton {α : Type} {as : List α} {a b : α} {i : Nat} :
    (as ++ [a])[i]? = some b ↔ as[i]? = some b ∨ i = as.length ∧ a = b := by
  rcases Nat.lt_trichotomy i as.length with hlt | heq | hgt
  · have hne : i ≠ as.length := by omega
    simp [List.getElem?_append_left hlt, hne]
  · simp [heq]
  · have hne : i ≠ as.length := by omega
    have hlong : (as ++ [a]).length ≤ i := by
      rw [List.length_append, List.length_singleton]
      omega
    simp [List.getElem?_eq_none hlong, List.getElem?_eq_none (Nat.le_of_lt hgt), hne]

/-- A pair under a new key hides nothing. -/
theorem lookup_cons_of_new {κ ν : Type} [BEq κ] [LawfulBEq κ] {pairs : List (κ × ν)} {k k' : κ}
    {v v' : ν} (h : pairs.lookup k = none) :
    ((k, v) :: pairs).lookup k' = some v' ↔ pairs.lookup k' = some v' ∨ k = k' ∧ v = v' := by
  rw [List.lookup_cons]
  by_cases heq : k' = k
  · simp [heq, h]
  · have hne : k ≠ k' := fun hk => heq hk.symm
    simp [beq_false_of_ne heq, hne]

theorem nodup_map_of_eq {α β : Type} {f : α → β} {as : List α}
    (h : ∀ (i j : Nat) (x y : α), as[i]? = some x → as[j]? = some y → f x = f y → i = j) :
    (as.map f).Nodup := by
  rw [List.Nodup, List.pairwise_map, List.pairwise_iff_getElem]
  intro i j hi hj hij hsame
  have heq := h i j _ _ (List.getElem?_eq_getElem hi) (List.getElem?_eq_getElem hj) hsame
  omega

namespace Indexed

theorem empty : Indexed .empty := ⟨by simp [TypeTable.empty], by simp [TypeTable.empty]⟩

theorem insert (h : t.Indexed) (hid : t.hasId e.id = false) (hname : t.hasName e.name = false) :
    (t.insert e).Indexed where
  positions id i := by
    have hnew : t.positions.lookup e.id = none := by simpa [hasId] using hid
    rw [TypeTable.insert, lookup_cons_of_new hnew, h.positions]
    simp only [getElem?_append_singleton]
    constructor
    · rintro (⟨x, hx, hsame⟩ | ⟨hsame, hi⟩)
      · exact ⟨x, Or.inl hx, hsame⟩
      · exact ⟨e, Or.inr ⟨hi.symm, rfl⟩, hsame⟩
    · rintro ⟨x, hx | ⟨hi, rfl⟩, hsame⟩
      · exact Or.inl ⟨x, hx, hsame⟩
      · exact Or.inr ⟨hsame, hi.symm⟩
  ids name id := by
    have hnew : t.ids.lookup e.name = none := by simpa [hasName] using hname
    rw [TypeTable.insert, lookup_cons_of_new hnew, h.ids]
    simp only [List.mem_append, List.mem_singleton]
    constructor
    · rintro (⟨x, hx, hsame⟩ | hsame)
      · exact ⟨x, Or.inl hx, hsame⟩
      · exact ⟨e, Or.inr rfl, hsame⟩
    · rintro ⟨x, hx | rfl, hsame⟩
      · exact Or.inl ⟨x, hx, hsame⟩
      · exact Or.inr hsame

theorem hasId_iff (h : t.Indexed) : t.hasId id = true ↔ ∃ e ∈ t.entries, e.id = id := by
  rw [hasId, Option.isSome_iff_exists]
  simp only [h.positions, List.mem_iff_getElem?]
  constructor
  · rintro ⟨i, e, he, hid⟩
    exact ⟨e, ⟨i, he⟩, hid⟩
  · rintro ⟨e, ⟨i, he⟩, hid⟩
    exact ⟨i, e, he, hid⟩

theorem hasName_iff (h : t.Indexed) :
    t.hasName name = true ↔ ∃ e ∈ t.entries, e.name = name := by
  rw [hasName, Option.isSome_iff_exists]
  simp only [h.ids]
  constructor
  · rintro ⟨_, e, he, hname, _⟩
    exact ⟨e, he, hname⟩
  · rintro ⟨e, he, hname⟩
    exact ⟨e.id, e, he, hname, rfl⟩

theorem lt_size (h : t.Indexed) {i : Nat} (hi : t.positions.lookup id = some i) : i < t.size := by
  obtain ⟨e, he, _⟩ := (h.positions id i).mp hi
  exact (List.getElem?_eq_some_iff.mp he).1

theorem get?_eq_some_iff (h : t.Indexed) : t.get? id = some e ↔ e ∈ t.entries ∧ e.id = id := by
  rw [get?, Option.bind_eq_some_iff]
  constructor
  · rintro ⟨i, hi, he⟩
    obtain ⟨x, hx, hid⟩ := (h.positions id i).mp hi
    obtain rfl : x = e := Option.some.inj (hx.symm.trans he)
    exact ⟨List.mem_of_getElem? hx, hid⟩
  · rintro ⟨hmem, hid⟩
    obtain ⟨i, he⟩ := List.mem_iff_getElem?.mp hmem
    exact ⟨i, (h.positions id i).mpr ⟨e, he, hid⟩, he⟩

theorem name?_of_lookup? (h : t.Indexed) (hname : t.lookup? name = some id) :
    t.name? id = some name := by
  obtain ⟨e, he, rfl, hid⟩ := (h.ids name id).mp hname
  rw [name?, h.get?_eq_some_iff.mpr ⟨he, hid⟩, Option.map_some]

/-- An identifier leads to one position only. -/
theorem eq_of_id_eq (h : t.Indexed) {i j : Nat} {x y : Entry} (hx : t.entries[i]? = some x)
    (hy : t.entries[j]? = some y) (hid : x.id = y.id) : i = j := by
  have hi := (h.positions y.id i).mpr ⟨x, hx, hid⟩
  have hj := (h.positions y.id j).mpr ⟨y, hy, rfl⟩
  exact Option.some.inj (hi.symm.trans hj)

/-- A name leads to one identifier, and thus to one position. -/
theorem eq_of_name_eq (h : t.Indexed) {i j : Nat} {x y : Entry} (hx : t.entries[i]? = some x)
    (hy : t.entries[j]? = some y) (hname : x.name = y.name) : i = j := by
  have hxid := (h.ids y.name x.id).mpr ⟨x, List.mem_of_getElem? hx, hname, rfl⟩
  have hyid := (h.ids y.name y.id).mpr ⟨y, List.mem_of_getElem? hy, rfl, rfl⟩
  exact h.eq_of_id_eq hx hy (Option.some.inj (hxid.symm.trans hyid))

theorem nodup_ids (h : t.Indexed) : (t.entries.map (·.id)).Nodup :=
  nodup_map_of_eq fun _ _ _ _ hx hy => h.eq_of_id_eq hx hy

theorem nodup_names (h : t.Indexed) : (t.entries.map (·.name)).Nodup :=
  nodup_map_of_eq fun _ _ _ _ hx hy => h.eq_of_name_eq hx hy

end Indexed

theorem insertAlias_nextAlias (hroom : t.nextAlias.raw.toNat + 1 < UInt32.size) :
    (t.insertAlias name base).nextAlias.raw.toNat = t.nextAlias.raw.toNat + 1 := by
  change (t.nextAlias.raw + 1).toNat = _
  rw [UInt32.toNat_add]
  exact Nat.mod_eq_of_lt hroom

/-- How identifiers are given out. -/
structure Numbered (t : TypeTable) : Prop where
  builtin : ∀ e ∈ t.entries, e.origin = .builtin → 1 ≤ e.id.raw.toNat ∧ e.id.raw.toNat ≤ 15
  aliases : t.aliases.map (·.id.raw.toNat) = List.range' 16 t.aliases.length
  next : t.nextAlias.raw.toNat = 16 + t.aliases.length

namespace Numbered

theorem empty : Numbered .empty := ⟨by simp [TypeTable.empty], rfl, rfl⟩

theorem insert_builtin (h : t.Numbered) (hid : 1 ≤ id.raw.toNat ∧ id.raw.toNat ≤ 15) :
    (t.insert ⟨id, name, .builtin⟩).Numbered := by
  have haliases : (t.insert ⟨id, name, .builtin⟩).aliases = t.aliases := by
    simp [TypeTable.aliases, TypeTable.insert]
  refine ⟨?_, haliases ▸ h.aliases, haliases ▸ h.next⟩
  intro e he horigin
  rcases List.mem_append.mp he with hold | hnew
  · exact h.builtin e hold horigin
  · rw [List.mem_singleton.mp hnew]
    exact hid

theorem insertAlias (h : t.Numbered) (hroom : t.nextAlias.raw.toNat + 1 < UInt32.size) :
    (t.insertAlias name base).Numbered := by
  have haliases : (t.insertAlias name base).aliases =
      t.aliases ++ [⟨t.nextAlias, name, .alias base⟩] := by
    simp [TypeTable.aliases, TypeTable.insertAlias, TypeTable.insert]
  refine ⟨?_, ?_, ?_⟩
  · intro e he horigin
    rcases List.mem_append.mp he with hold | hnew
    · exact h.builtin e hold horigin
    · rw [List.mem_singleton.mp hnew] at horigin
      cases horigin
  · rw [haliases, List.map_append, h.aliases, List.length_append, List.length_singleton,
      List.range'_1_concat, List.map_singleton, h.next]
  · rw [insertAlias_nextAlias hroom, haliases, h.next, List.length_append, List.length_singleton,
      Nat.add_assoc]

theorem alias_range (h : t.Numbered) (he : e ∈ t.entries) (horigin : e.origin ≠ .builtin) :
    16 ≤ e.id.raw.toNat ∧ e.id.raw.toNat < t.nextAlias.raw.toNat := by
  have hmem : e ∈ t.aliases := List.mem_filter.mpr ⟨he, by simpa using horigin⟩
  have hrange := List.mem_map_of_mem (f := fun x : Entry => x.id.raw.toNat) hmem
  rw [h.aliases, List.mem_range'_1] at hrange
  rw [h.next]
  exact hrange

theorem builtin_iff (h : t.Numbered) (he : e ∈ t.entries) :
    e.origin = .builtin ↔ 1 ≤ e.id.raw.toNat ∧ e.id.raw.toNat ≤ 15 := by
  constructor
  · exact h.builtin e he
  · intro hrange
    by_contra horigin
    have hlow := (h.alias_range he horigin).1
    omega

theorem known (h : t.Numbered) (he : e ∈ t.entries) : e.id ≠ .unknown := by
  intro hunknown
  have hzero : e.id.raw.toNat = 0 := by rw [hunknown]; rfl
  by_cases horigin : e.origin = .builtin
  · have hlow := (h.builtin e he horigin).1
    omega
  · have hlow := (h.alias_range he horigin).1
    omega

/-- The next identifier is past all that are in use. -/
theorem fresh (h : t.Numbered) (he : e ∈ t.entries) : e.id ≠ t.nextAlias := by
  intro hsame
  have hnext := h.next
  by_cases horigin : e.origin = .builtin
  · have hhigh := (h.builtin e he horigin).2
    rw [hsame] at hhigh
    omega
  · have hhigh := (h.alias_range he horigin).2
    rw [hsame] at hhigh
    omega

end Numbered

/-- An alias refers to an entry that stands before it. -/
def Grounded (t : TypeTable) : Prop :=
  ∀ (i : Nat) (e : Entry) (base : TypeId), t.entries[i]? = some e → e.origin = .alias base →
    ∃ j < i, ∃ b, t.entries[j]? = some b ∧ b.id = base

namespace Grounded

theorem empty : Grounded .empty := by
  intro i e base he
  cases he

theorem insert (h : t.Grounded)
    (hbase : ∀ base, e.origin = .alias base → ∃ b ∈ t.entries, b.id = base) :
    (t.insert e).Grounded := by
  intro i x base hx horigin
  have hkeep : ∀ {j : Nat} {b : Entry}, t.entries[j]? = some b → (t.insert e).entries[j]? = some b :=
    fun hb => getElem?_append_singleton.mpr (Or.inl hb)
  rcases getElem?_append_singleton.mp hx with hold | ⟨rfl, rfl⟩
  · obtain ⟨j, hj, b, hb, hid⟩ := h i x base hold horigin
    exact ⟨j, hj, b, hkeep hb, hid⟩
  · obtain ⟨b, hmem, hid⟩ := hbase base horigin
    obtain ⟨j, hb⟩ := List.mem_iff_getElem?.mp hmem
    exact ⟨j, (List.getElem?_eq_some_iff.mp hb).1, b, hkeep hb, hid⟩

end Grounded

structure Consistent (t : TypeTable) : Prop where
  indexed : t.Indexed
  numbered : t.Numbered
  grounded : t.Grounded

namespace Consistent

theorem empty : Consistent .empty := ⟨.empty, .empty, .empty⟩

theorem insert_builtin (h : t.Consistent) (hrange : 1 ≤ id.raw.toNat ∧ id.raw.toNat ≤ 15)
    (hname : t.hasName name = false) (hid : t.hasId id = false) :
    (t.insert ⟨id, name, .builtin⟩).Consistent where
  indexed := h.indexed.insert hid hname
  numbered := h.numbered.insert_builtin hrange
  grounded := h.grounded.insert fun _ horigin => nomatch horigin

theorem hasId_nextAlias (h : t.Consistent) : t.hasId t.nextAlias = false := by
  by_contra hused
  obtain ⟨e, he, hsame⟩ := h.indexed.hasId_iff.mp (by simpa using hused)
  exact h.numbered.fresh he hsame

theorem insertAlias (h : t.Consistent) (hname : t.hasName name = false)
    (hbase : t.hasId base = true) (hroom : t.nextAlias.raw.toNat + 1 < UInt32.size) :
    (t.insertAlias name base).Consistent := by
  have hindexed : (t.insert ⟨t.nextAlias, name, .alias base⟩).Indexed :=
    h.indexed.insert h.hasId_nextAlias hname
  have hgrounded : (t.insert ⟨t.nextAlias, name, .alias base⟩).Grounded := by
    apply h.grounded.insert
    intro base' horigin
    cases horigin
    exact h.indexed.hasId_iff.mp hbase
  exact ⟨⟨hindexed.positions, hindexed.ids⟩, h.numbered.insertAlias hroom, hgrounded⟩

/-- One declaration, accepted or refused. -/
theorem after (h : t.Consistent) (d : Declaration) : (t.after d).Consistent := by
  rcases t.after_cases d with hsame | ⟨id, name, hrange, hname, hid, hafter⟩ |
      ⟨name, base, hname, hbase, hroom, hafter⟩
  · rwa [hsame]
  · rw [hafter]
    exact h.insert_builtin hrange hname hid
  · rw [hafter]
    exact h.insertAlias hname hbase hroom

theorem builtins : Consistent .builtins := by
  -- declaring the five types would have passed the guards that inserting them skips
  have hdeclared : TypeTable.builtins =
      ((((TypeTable.empty.after (.builtin .integer "INTEGER")).after
        (.builtin .integer64 "INTEGER64")).after (.builtin .real "REAL")).after
        (.builtin .string "STRING")).after (.builtin .guidString "GUIDSTRING") := rfl
  rw [hdeclared]
  exact ((((empty.after _).after _).after _).after _).after _

end Consistent

theorem Reachable.consistent (h : t.Reachable) : t.Consistent := by
  induction h with
  | empty => exact .empty
  | builtins => exact .builtins
  | after _ d ih => exact ih.after d

section Bases

theorem builtin?_eq_some_iff :
    t.builtin? id = some e ↔ t.get? id = some e ∧ e.origin = .builtin := by
  rw [builtin?, Option.filter_eq_some_iff, decide_eq_true_eq]

/-- The links from an entry lead backwards through the list, so its position bounds their number. -/
theorem Consistent.followAliases (h : t.Consistent) {fuel i : Nat} (he : t.entries[i]? = some e)
    (hi : i < fuel) : ∃ b, t.followAliases fuel e = some b ∧ (t.builtin? b).isSome := by
  induction fuel generalizing i e with
  | zero => omega
  | succ fuel ih =>
    match horigin : e.origin with
    | .builtin =>
      have hget := h.indexed.get?_eq_some_iff.mpr ⟨List.mem_of_getElem? he, rfl⟩
      refine ⟨e.id, ?_, ?_⟩
      · simp only [TypeTable.followAliases, horigin]
      · rw [builtin?_eq_some_iff.mpr ⟨hget, horigin⟩, Option.isSome_some]
    | .alias base =>
      obtain ⟨j, hj, b, hb, hid⟩ := h.grounded i e base he horigin
      have hget := h.indexed.get?_eq_some_iff.mpr ⟨List.mem_of_getElem? hb, hid⟩
      obtain ⟨last, hlast, hbuiltin⟩ := ih hb (by omega)
      refine ⟨last, ?_, hbuiltin⟩
      simp only [TypeTable.followAliases, horigin, hget, Option.bind_some, hlast]

theorem Consistent.base?_of_mem (h : t.Consistent) (he : e ∈ t.entries) :
    ∃ b, t.base? e.id = some b ∧ (t.builtin? b).isSome := by
  obtain ⟨i, hi⟩ := List.mem_iff_getElem?.mp he
  have hlt : i < t.size := (List.getElem?_eq_some_iff.mp hi).1
  obtain ⟨b, hb, hbuiltin⟩ := h.followAliases hi (Nat.lt_succ_of_lt hlt)
  refine ⟨b, ?_, hbuiltin⟩
  rw [base?, h.indexed.get?_eq_some_iff.mpr ⟨he, rfl⟩, Option.bind_some, hb]

end Bases

/-- What the users of a table rely on. -/
structure Sound (t : TypeTable) : Prop where
  distinct_ids : (t.entries.map (·.id)).Nodup
  distinct_names : (t.entries.map (·.name)).Nodup
  get? : ∀ id e, t.get? id = some e ↔ e ∈ t.entries ∧ e.id = id
  lookup? : ∀ name id, t.lookup? name = some id ↔ ∃ e ∈ t.entries, e.name = name ∧ e.id = id
  name? : ∀ name id, t.lookup? name = some id → t.name? id = some name
  builtin?_origin : ∀ id e, t.builtin? id = some e ↔ t.get? id = some e ∧ e.origin = .builtin
  builtin?_range : ∀ id e, t.builtin? id = some e ↔
    t.get? id = some e ∧ 1 ≤ id.raw.toNat ∧ id.raw.toNat ≤ 15
  known : ∀ e ∈ t.entries, e.id ≠ .unknown
  numbered : t.aliases.map (·.id.raw.toNat) = List.range' 16 t.aliases.length
  next : t.nextAlias.raw.toNat = 16 + t.aliases.length
  growing : ∀ d, t.nextAlias.raw.toNat ≤ (t.after d).nextAlias.raw.toNat
  based : ∀ (i : Nat) (e : Entry) (base : TypeId), t.entries[i]? = some e →
    e.origin = .alias base → ∃ j < i, ∃ b, t.entries[j]? = some b ∧ b.id = base
  inBounds : ∀ id i, t.positions.lookup id = some i → i < t.entries.length

theorem nextAlias_le_after (t : TypeTable) (d : Declaration) :
    t.nextAlias.raw.toNat ≤ (t.after d).nextAlias.raw.toNat := by
  rcases t.after_cases d with hsame | ⟨id, name, _, _, _, hafter⟩ |
      ⟨name, base, _, _, hroom, hafter⟩
  · exact Nat.le_of_eq (by rw [hsame])
  · exact Nat.le_of_eq (by rw [hafter]; rfl)
  · rw [hafter, insertAlias_nextAlias hroom]
    exact Nat.le_succ _

/-- However a table came about, its list and its indexes agree, and its numbers are in order. -/
theorem sound_of_reachable (h : t.Reachable) : t.Sound := by
  obtain ⟨hindexed, hnumbered, hgrounded⟩ := h.consistent
  exact {
    distinct_ids := hindexed.nodup_ids
    distinct_names := hindexed.nodup_names
    get? := fun _ _ => hindexed.get?_eq_some_iff
    lookup? := hindexed.ids
    name? := fun _ _ => hindexed.name?_of_lookup?
    builtin?_origin := fun _ _ => builtin?_eq_some_iff
    builtin?_range := by
      intro id e
      rw [builtin?_eq_some_iff]
      refine and_congr_right fun hget => ?_
      obtain ⟨he, rfl⟩ := hindexed.get?_eq_some_iff.mp hget
      exact hnumbered.builtin_iff he
    known := fun _ => hnumbered.known
    numbered := hnumbered.aliases
    next := hnumbered.next
    growing := t.nextAlias_le_after
    based := hgrounded
    inBounds := fun _ _ => hindexed.lt_size }

/-- An alias of an alias, two refused declarations and a late builtin type. -/
def guids : TypeTable :=
  ((((builtins.after (.alias "CHARACTERGUID" .guidString)).after (.alias "PLAYER" ⟨16⟩)).after
    (.builtin ⟨16⟩ "PLAYER")).after (.alias "LOST" ⟨18⟩)).after (.builtin ⟨9⟩ "COLOUR")

theorem guids_sound :
    guids.Reachable ∧ guids.size = 8 ∧ guids.nextAlias = ⟨18⟩ ∧
      guids.lookup? "PLAYER" = some ⟨17⟩ ∧ guids.name? ⟨17⟩ = some "PLAYER" ∧ guids.Sound := by
  have hreachable : guids.Reachable := ((((Reachable.builtins.after _).after _).after _).after _).after _
  have hsound := sound_of_reachable hreachable
  have hlookup : guids.lookup? "PLAYER" = some ⟨17⟩ := by decide
  exact ⟨hreachable, by decide, by decide, hlookup, hsound.name? _ _ hlookup, hsound⟩

end Storyline.TypeTable
