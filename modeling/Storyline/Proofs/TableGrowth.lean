import Storyline.Proofs.AliasChain

/-!
# Tables of types that grow

Declarations add entries at the end of a table and never take one away, so the entries of a table
are an initial part of those that it has later. In a consistent table the entries decide every
answer: what was asked about an entry is answered as before, whatever else has been declared in the
meantime. For the base of a type this goes through its chain, all of whose links are old ones.
-/

namespace Storyline.TypeTable

variable {t t' : TypeTable} {e : Entry} {id last : TypeId} {name : String} {links : List TypeId}

/-- The table after a number of declarations, each of them accepted or refused. -/
def afterAll (t : TypeTable) (ds : List Declaration) : TypeTable := ds.foldl after t

theorem Reachable.afterAll (h : t.Reachable) (ds : List Declaration) :
    (t.afterAll ds).Reachable := by
  induction ds generalizing t with
  | nil => exact h
  | cons d ds ih => exact ih (h.after d)

theorem entries_prefix_after (t : TypeTable) (d : Declaration) :
    t.entries <+: (t.after d).entries := by
  rcases t.after_cases d with hsame | ⟨id, name, _, _, _, hafter⟩ | ⟨name, base, _, _, _, hafter⟩
  · simp only [hsame, List.prefix_rfl]
  · rw [hafter]
    exact List.prefix_append _ _
  · rw [hafter]
    exact List.prefix_append _ _

theorem entries_prefix_afterAll (t : TypeTable) (ds : List Declaration) :
    t.entries <+: (t.afterAll ds).entries := by
  induction ds generalizing t with
  | nil => exact List.prefix_rfl
  | cons d ds ih => exact (t.entries_prefix_after d).trans (ih (t.after d))

/-- The identifiers and names of a table have the same answers in the other one. -/
structure KeptIn (t t' : TypeTable) : Prop where
  get? : ∀ e ∈ t.entries, t'.get? e.id = t.get? e.id
  name? : ∀ e ∈ t.entries, t'.name? e.id = t.name? e.id
  builtin? : ∀ e ∈ t.entries, t'.builtin? e.id = t.builtin? e.id
  base? : ∀ e ∈ t.entries, t'.base? e.id = t.base? e.id
  lookup? : ∀ e ∈ t.entries, t'.lookup? e.name = t.lookup? e.name

theorem get?_eq_of_subset (h : t.Indexed) (h' : t'.Indexed) (hsub : t.entries ⊆ t'.entries)
    (he : e ∈ t.entries) : t'.get? e.id = t.get? e.id := by
  rw [h.get?_eq_some_iff.mpr ⟨he, rfl⟩, h'.get?_eq_some_iff.mpr ⟨hsub he, rfl⟩]

/-- The chain of an old type has old links only. -/
theorem Chain.of_subset (h : t.Consistent) (h' : t'.Indexed) (hsub : t.entries ⊆ t'.entries)
    (hchain : t.Chain id links last) (he : e ∈ t.entries) (hid : e.id = id) :
    t'.Chain id links last := by
  have hlink : ∀ e ∈ t.entries, t'.link? e.id = t.link? e.id := by
    intro e he
    rw [link?, link?, get?_eq_of_subset h.indexed h' hsub he]
  induction hchain generalizing e with
  | last hnone =>
    subst hid
    exact .last ((hlink e he).trans hnone)
  | link hsome _ ih =>
    subst hid
    obtain ⟨x, hx, horigin⟩ := Option.bind_eq_some_iff.mp hsome
    obtain ⟨hmem, _⟩ := h.indexed.get?_eq_some_iff.mp hx
    obtain ⟨i, hi⟩ := List.mem_iff_getElem?.mp hmem
    cases hbase : x.origin with
    | builtin =>
      rw [hbase] at horigin
      cases horigin
    | «alias» base =>
      rw [hbase] at horigin
      obtain rfl := Option.some.inj horigin
      obtain ⟨j, _, b, hb, hbid⟩ := h.grounded i x base hi hbase
      exact .link ((hlink e he).trans hsome) (ih (List.mem_of_getElem? hb) hbid)

theorem Consistent.keptIn (h : t.Consistent) (h' : t'.Consistent) (hsub : t.entries ⊆ t'.entries) :
    t.KeptIn t' := by
  have hget : ∀ e ∈ t.entries, t'.get? e.id = t.get? e.id :=
    fun e he => get?_eq_of_subset h.indexed h'.indexed hsub he
  refine ⟨hget, ?_, ?_, ?_, ?_⟩
  · intro e he
    rw [TypeTable.name?, TypeTable.name?, hget e he]
  · intro e he
    rw [TypeTable.builtin?, TypeTable.builtin?, hget e he]
  · intro e he
    obtain ⟨links, last, hchain, _⟩ := h.exists_chain he
    have hchain' := hchain.of_subset h h'.indexed hsub he rfl
    rw [h.base?_of_chain he hchain, h'.base?_of_chain (hsub he) hchain']
  · intro e he
    have hold := (h.indexed.ids e.name e.id).mpr ⟨e, he, rfl, rfl⟩
    have hnew := (h'.indexed.ids e.name e.id).mpr ⟨e, hsub he, rfl, rfl⟩
    rw [TypeTable.lookup?, TypeTable.lookup?, hold, hnew]

theorem Reachable.keptIn_afterAll (h : t.Reachable) (ds : List Declaration) :
    t.KeptIn (t.afterAll ds) :=
  h.consistent.keptIn (h.afterAll ds).consistent (t.entries_prefix_afterAll ds).subset

namespace KeptIn

theorem lookup?_of_some (hkept : t.KeptIn t') (h : t.Indexed) (hname : t.lookup? name = some id) :
    t'.lookup? name = some id := by
  obtain ⟨e, he, rfl, _⟩ := (h.ids name id).mp hname
  rw [hkept.lookup? e he, hname]

theorem builtin?_of_some (hkept : t.KeptIn t') (h : t.Indexed) (he : t.builtin? id = some e) :
    t'.builtin? id = some e := by
  obtain ⟨hmem, rfl⟩ := h.get?_eq_some_iff.mp (builtin?_eq_some_iff.mp he).1
  rw [hkept.builtin? e hmem, he]

/-- A type that a name stood for has kept its own name. -/
theorem name?_of_lookup? (hkept : t.KeptIn t') (h : t.Indexed) (hname : t.lookup? name = some id) :
    t'.name? id = t.name? id := by
  obtain ⟨e, he, _, rfl⟩ := (h.ids name id).mp hname
  exact hkept.name? e he

end KeptIn

end Storyline.TypeTable
