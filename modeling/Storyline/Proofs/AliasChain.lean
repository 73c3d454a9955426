import Storyline.Proofs.TypeTable

/-!
# Chains of aliases

An alias has a link to the type that it refers to. The chain of an identifier follows the links
until there is none; it exists for every identifier of a consistent table, because links lead
backwards through the list of entries, and there is only one. The base of a type is the last element
of its chain.

Following links is bounded by the size of the table. `walk` follows them in the same way and tells
apart the ways to come to an end. Of those only one occurs: a chain has fewer links than the table
has entries, so the bound is not used up, and no link leads to an identifier without an entry.
-/

namespace Storyline.TypeTable

/-- What an alias refers to. Builtin types have no link, and neither has an unknown identifier. -/
def link? (t : TypeTable) (id : TypeId) : Option TypeId := (t.get? id).bind (·.origin.base?)

/-- The links from an identifier, one after another, up to an identifier that has none. -/
inductive Chain (t : TypeTable) : TypeId → List TypeId → TypeId → Prop where
  | last {id : TypeId} (h : t.link? id = none) : Chain t id [] id
  | link {id base last : TypeId} {links : List TypeId} (h : t.link? id = some base)
    (rest : Chain t base links last) : Chain t id (base :: links) last

inductive Ending where
  | found (id : TypeId)
  | dangling (base : TypeId)
  | exhausted
deriving DecidableEq, Repr

def Ending.found? : Ending → Option TypeId
  | .found id => some id
  | _ => none

/-- Follows at most `fuel` alias links from an entry, and says how that ended. -/
def walk (t : TypeTable) : Nat → Entry → Ending
  | 0, _ => .exhausted
  | fuel + 1, e =>
    match e.origin with
    | .builtin => .found e.id
    | .alias base =>
      match t.get? base with
      | none => .dangling base
      | some b => t.walk fuel b

variable {t : TypeTable} {e : Entry} {id base last : TypeId} {links : List TypeId}

theorem found?_walk (t : TypeTable) (fuel : Nat) (e : Entry) :
    (t.walk fuel e).found? = t.followAliases fuel e := by
  induction fuel generalizing e with
  | zero => rfl
  | succ fuel ih =>
    unfold walk TypeTable.followAliases
    cases e.origin with
    | builtin => rfl
    | «alias» base =>
      cases hbase : t.get? base with
      | none => simp only [hbase, Option.bind_none, Ending.found?]
      | some b => simp only [hbase, Option.bind_some, ih]

theorem base?_eq_walk (t : TypeTable) (id : TypeId) :
    t.base? id = (t.get? id).bind fun e => (t.walk (t.size + 1) e).found? := by
  simp only [base?, found?_walk]

theorem walk_eq_found_iff {fuel : Nat} :
    t.walk fuel e = .found last ↔ t.followAliases fuel e = some last := by
  rw [← found?_walk]
  cases t.walk fuel e <;> simp [Ending.found?]

theorem link?_of_get? (h : t.get? id = some e) : t.link? id = e.origin.base? := by
  rw [link?, h, Option.bind_some]

/-- A type has one chain only. -/
theorem Chain.unique {links' : List TypeId} {last' : TypeId} (h : t.Chain id links last)
    (h' : t.Chain id links' last') : links = links' ∧ last = last' := by
  induction h generalizing links' with
  | last hnone =>
    cases h' with
    | last _ => exact ⟨rfl, rfl⟩
    | link hsome _ =>
      rw [hnone] at hsome
      cases hsome
  | link hsome _ ih =>
    cases h' with
    | last hnone =>
      rw [hsome] at hnone
      cases hnone
    | link hsome' rest' =>
      obtain rfl := Option.some.inj (hsome.symm.trans hsome')
      obtain ⟨hlinks, hlast⟩ := ih rest'
      exact ⟨by rw [hlinks], hlast⟩

/-- Whatever is found has been found at the end of the chain, with as many steps as it has links. -/
theorem Indexed.chain_of_followAliases (h : t.Indexed) {fuel : Nat} (hget : t.get? id = some e)
    (hfollow : t.followAliases fuel e = some last) :
    ∃ links, t.Chain id links last ∧ links.length < fuel := by
  induction fuel generalizing id e with
  | zero => cases hfollow
  | succ fuel ih =>
    have hlink := link?_of_get? hget
    unfold TypeTable.followAliases at hfollow
    cases horigin : e.origin with
    | builtin =>
      rw [horigin] at hfollow hlink
      obtain rfl : e.id = last := Option.some.inj hfollow
      obtain rfl : e.id = id := (h.get?_eq_some_iff.mp hget).2
      exact ⟨[], .last hlink, Nat.succ_pos fuel⟩
    | «alias» base =>
      rw [horigin] at hfollow hlink
      obtain ⟨b, hb, hrest⟩ := Option.bind_eq_some_iff.mp hfollow
      obtain ⟨links, hchain, hlength⟩ := ih hb hrest
      exact ⟨base :: links, .link hlink hchain, Nat.succ_lt_succ hlength⟩

namespace Consistent

/-- The position of an entry bounds its links, so a chain is shorter than the table. -/
theorem exists_chain (h : t.Consistent) (he : e ∈ t.entries) :
    ∃ links last, t.Chain e.id links last ∧ links.length < t.size ∧
      (t.builtin? last).isSome ∧ t.walk (t.size + 1) e = .found last := by
  obtain ⟨i, hi⟩ := List.mem_iff_getElem?.mp he
  have hlt : i < t.size := (List.getElem?_eq_some_iff.mp hi).1
  have hget := h.indexed.get?_eq_some_iff.mpr ⟨he, rfl⟩
  obtain ⟨last, hfollow, hbuiltin⟩ := h.followAliases hi (Nat.lt_succ_self i)
  obtain ⟨links, hchain, hlength⟩ := h.indexed.chain_of_followAliases hget hfollow
  obtain ⟨last', hfollow', _⟩ := h.followAliases hi (Nat.lt_succ_of_lt hlt)
  obtain ⟨links', hchain', _⟩ := h.indexed.chain_of_followAliases hget hfollow'
  obtain ⟨_, rfl⟩ := hchain.unique hchain'
  exact ⟨links, last, hchain, by omega, hbuiltin, walk_eq_found_iff.mpr hfollow'⟩

theorem base?_of_chain (h : t.Consistent) (he : e ∈ t.entries) (hchain : t.Chain e.id links last) :
    t.base? e.id = some last := by
  obtain ⟨links', last', hchain', _, _, hwalk⟩ := h.exists_chain he
  obtain ⟨_, rfl⟩ := hchain.unique hchain'
  rw [base?, h.indexed.get?_eq_some_iff.mpr ⟨he, rfl⟩, Option.bind_some,
    walk_eq_found_iff.mp hwalk]

theorem base?_eq_none_iff (h : t.Consistent) :
    t.base? id = none ↔ ∀ e ∈ t.entries, e.id ≠ id := by
  constructor
  · rintro hnone e he rfl
    obtain ⟨links, last, hchain, _⟩ := h.exists_chain he
    rw [h.base?_of_chain he hchain] at hnone
    cases hnone
  · intro hunknown
    cases hget : t.get? id with
    | none => rw [base?, hget, Option.bind_none]
    | some e =>
      obtain ⟨he, hid⟩ := h.indexed.get?_eq_some_iff.mp hget
      exact absurd hid (hunknown e he)

/-- A builtin type is its own base. -/
theorem base?_of_builtin? (h : t.Consistent) (hbuiltin : (t.builtin? id).isSome) :
    t.base? id = some id := by
  obtain ⟨e, he⟩ := Option.isSome_iff_exists.mp hbuiltin
  obtain ⟨hget, horigin⟩ := builtin?_eq_some_iff.mp he
  obtain ⟨hmem, rfl⟩ := h.indexed.get?_eq_some_iff.mp hget
  have hlink : t.link? e.id = none := by rw [link?_of_get? hget, horigin]; rfl
  exact h.base?_of_chain hmem (.last hlink)

theorem base?_of_alias (h : t.Consistent) (he : e ∈ t.entries) (horigin : e.origin = .alias base) :
    t.base? e.id = t.base? base := by
  obtain ⟨i, hi⟩ := List.mem_iff_getElem?.mp he
  obtain ⟨j, _, b, hb, rfl⟩ := h.grounded i e base hi horigin
  have hbase := List.mem_of_getElem? hb
  have hlink : t.link? e.id = some b.id := by
    rw [link?_of_get? (h.indexed.get?_eq_some_iff.mpr ⟨he, rfl⟩), horigin]
    rfl
  obtain ⟨links, last, hchain, _⟩ := h.exists_chain hbase
  rw [h.base?_of_chain hbase hchain, h.base?_of_chain he (.link hlink hchain)]

end Consistent

/-- However a table came about, every type in it has one chain of links, its base is the builtin
type at the end of that chain, and the walk along the links neither runs out of steps nor loses its
way. Other identifiers have no base. -/
theorem base?_of_reachable (h : t.Reachable) :
    (∀ id, t.base? id = (t.get? id).bind fun e => (t.walk (t.size + 1) e).found?) ∧
    (∀ id, t.base? id = none ↔ ∀ e ∈ t.entries, e.id ≠ id) ∧
    (∀ e ∈ t.entries, ∃ links last, t.Chain e.id links last ∧
      (∀ links' last', t.Chain e.id links' last' → links' = links ∧ last' = last) ∧
      t.base? e.id = some last ∧ (t.builtin? last).isSome ∧ t.base? last = some last ∧
      links.length < t.size ∧ t.get? e.id = some e ∧ t.walk (t.size + 1) e = .found last) ∧
    (∀ e ∈ t.entries, ∀ base, e.origin = .alias base → t.base? e.id = t.base? base) := by
  have hconsistent := h.consistent
  refine ⟨t.base?_eq_walk, fun id => hconsistent.base?_eq_none_iff, ?_, ?_⟩
  · intro e he
    obtain ⟨links, last, hchain, hlength, hbuiltin, hwalk⟩ := hconsistent.exists_chain he
    refine ⟨links, last, hchain, ?_, hconsistent.base?_of_chain he hchain, hbuiltin,
      hconsistent.base?_of_builtin? hbuiltin, hlength,
      hconsistent.indexed.get?_eq_some_iff.mpr ⟨he, rfl⟩, hwalk⟩
    intro links' last' hchain'
    exact hchain'.unique hchain
  · intro e he base horigin
    exact hconsistent.base?_of_alias he horigin

/-- One builtin type, and aliases each of the one before: the last chain has all the entries. -/
def lineage : TypeTable :=
  (((empty.after (.builtin ⟨7⟩ "ITEM")).after (.alias "WEAPON" ⟨7⟩)).after
    (.alias "SWORD" ⟨16⟩)).after (.alias "HEIRLOOM" ⟨17⟩)

theorem lineage_base :
    lineage.Reachable ∧ lineage.size = 4 ∧ lineage.Chain ⟨18⟩ [⟨17⟩, ⟨16⟩, ⟨7⟩] ⟨7⟩ ∧
      lineage.base? ⟨18⟩ = some ⟨7⟩ ∧ lineage.base? ⟨18⟩ = lineage.base? ⟨17⟩ ∧
      lineage.base? ⟨19⟩ = none := by
  have hreachable : lineage.Reachable := (((Reachable.empty.after _).after _).after _).after _
  have hchain : lineage.Chain ⟨18⟩ [⟨17⟩, ⟨16⟩, ⟨7⟩] ⟨7⟩ :=
    .link (by decide) (.link (by decide) (.link (by decide) (.last (by decide))))
  have hmem : ⟨⟨18⟩, "HEIRLOOM", .alias ⟨17⟩⟩ ∈ lineage.entries := by decide
  obtain ⟨_, hunknown, hbase, halias⟩ := base?_of_reachable hreachable
  obtain ⟨links, last, _, hunique, hlast, _⟩ := hbase _ hmem
  obtain ⟨_, rfl⟩ := hunique _ _ hchain
  exact ⟨hreachable, by decide, hchain, hlast, halias _ hmem _ rfl, (hunknown _).mpr (by decide)⟩

end Storyline.TypeTable
