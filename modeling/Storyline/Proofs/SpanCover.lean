import Mathlib.Order.Bounds.Basic
import Mathlib.Order.Lattice
import Storyline.Span

/-!
# Merged spans

Spans are ordered by what they cover: a larger span starts no later and stops no earlier. Merging
two spans gives their join in this order. Several spans can be merged in any order and grouping, and
a span may take part more than once; the result is the least upper bound of the spans that take
part, and a set has only one.

The order is about the ends of spans alone, so it needs no span to start before its stop. That the
merged span does follows if those that were merged do, and its length is then defined.
-/

namespace Storyline.Span

theorem toNat_start_merge (s t : Span) :
    (s.merge t).start.toNat = min s.start.toNat t.start.toNat := by
  change (if s.start ≤ t.start then s.start else t.start).toNat = _
  by_cases h : s.start ≤ t.start
  · rw [if_pos h]
    rw [UInt32.le_iff_toNat_le] at h
    omega
  · rw [if_neg h]
    rw [UInt32.le_iff_toNat_le] at h
    omega

theorem toNat_stop_merge (s t : Span) :
    (s.merge t).stop.toNat = max s.stop.toNat t.stop.toNat := by
  change (if s.stop ≤ t.stop then t.stop else s.stop).toNat = _
  by_cases h : s.stop ≤ t.stop
  · rw [if_pos h]
    rw [UInt32.le_iff_toNat_le] at h
    omega
  · rw [if_neg h]
    rw [UInt32.le_iff_toNat_le] at h
    omega

/-! ## The order of cover -/

instance : PartialOrder Span where
  le s t := t.start ≤ s.start ∧ s.stop ≤ t.stop
  le_refl s := ⟨UInt32.le_refl s.start, UInt32.le_refl s.stop⟩
  le_trans _ _ _ hst htu := ⟨UInt32.le_trans htu.1 hst.1, UInt32.le_trans hst.2 htu.2⟩
  le_antisymm s t hst hts := by
    cases s
    cases t
    rw [Span.mk.injEq]
    exact ⟨UInt32.le_antisymm hts.1 hst.1, UInt32.le_antisymm hst.2 hts.2⟩

theorem le_iff {s t : Span} : s ≤ t ↔ t.start ≤ s.start ∧ s.stop ≤ t.stop := Iff.rfl

theorem le_iff_toNat {s t : Span} :
    s ≤ t ↔ t.start.toNat ≤ s.start.toNat ∧ s.stop.toNat ≤ t.stop.toNat := by
  rw [le_iff, UInt32.le_iff_toNat_le, UInt32.le_iff_toNat_le]

instance : SemilatticeSup Span where
  sup := merge
  le_sup_left s t := by
    rw [le_iff_toNat, toNat_start_merge, toNat_stop_merge]
    omega
  le_sup_right s t := by
    rw [le_iff_toNat, toNat_start_merge, toNat_stop_merge]
    omega
  sup_le s t u hsu htu := by
    rw [le_iff_toNat] at hsu htu ⊢
    rw [toNat_start_merge, toNat_stop_merge]
    omega

theorem mem_of_le {s t : Span} (h : s ≤ t) {offset : UInt32} (hmem : offset ∈ s) : offset ∈ t :=
  ⟨UInt32.le_trans h.1 hmem.1, UInt32.lt_of_lt_of_le hmem.2 h.2⟩

theorem length_of_forward {s : Span} (h : s.start ≤ s.stop) : s.length = .ok (s.stop - s.start) :=
  if_neg (UInt32.not_lt.mpr h)

theorem forward_of_le {s t : Span} (h : s ≤ t) (hs : s.start ≤ s.stop) : t.start ≤ t.stop :=
  UInt32.le_trans h.1 (UInt32.le_trans hs h.2)

theorem length_mono {s t : Span} (h : s ≤ t) (hs : s.start ≤ s.stop) :
    ∃ m n, s.length = .ok m ∧ t.length = .ok n ∧ m ≤ n := by
  have ht := forward_of_le h hs
  refine ⟨_, _, length_of_forward hs, length_of_forward ht, ?_⟩
  rw [le_iff_toNat] at h
  rw [UInt32.le_iff_toNat_le, UInt32.toNat_sub_of_le _ _ hs, UInt32.toNat_sub_of_le _ _ ht]
  omega

/-! ## Merging several spans -/

/-- A way to merge spans: which of them take part, in which order and grouping. -/
inductive Merging where
  | single (span : Span)
  | both (left right : Merging)

namespace Merging

def spans : Merging → List Span
  | single s => [s]
  | both left right => left.spans ++ right.spans

def result : Merging → Span
  | single s => s
  | both left right => left.result.merge right.result

theorem isLUB_result (g : Merging) : IsLUB {s | s ∈ g.spans} g.result := by
  induction g with
  | single s =>
    have hspans : {t | t ∈ (single s).spans} = {s} := by
      ext t
      exact List.mem_singleton
    rw [hspans]
    exact isLUB_singleton
  | both left right ihleft ihright =>
    have hspans : {s | s ∈ (both left right).spans} =
        {s | s ∈ left.spans} ∪ {s | s ∈ right.spans} := by
      ext s
      exact List.mem_append
    rw [hspans]
    exact ihleft.union ihright

end Merging

theorem isLUB_union_foldl_merge {covered : Set Span} {s : Span} (h : IsLUB covered s)
    (rest : List Span) : IsLUB (covered ∪ {t | t ∈ rest}) (rest.foldl merge s) := by
  induction rest generalizing covered s with
  | nil => simpa using h
  | cons u rest ih =>
    have hnext : IsLUB (covered ∪ {u}) (s.merge u) := h.union isLUB_singleton
    have hspans : covered ∪ {t | t ∈ u :: rest} = covered ∪ {u} ∪ {t | t ∈ rest} := by
      ext t
      exact (or_congr_right List.mem_cons).trans or_assoc.symm
    rw [hspans, List.foldl_cons]
    exact ih hnext

theorem isLUB_foldl_merge (s : Span) (rest : List Span) :
    IsLUB {t | t ∈ s :: rest} (rest.foldl merge s) := by
  have hspans : {t | t ∈ s :: rest} = {s} ∪ {t | t ∈ rest} := by
    ext t
    exact List.mem_cons
  rw [hspans]
  exact isLUB_union_foldl_merge isLUB_singleton rest

/-- Neither order nor repetition tells two lists of spans apart. -/
theorem eq_of_isLUB {xs ys : List Span} {m n : Span} (hsame : ∀ s, s ∈ xs ↔ s ∈ ys)
    (hm : IsLUB {s | s ∈ xs} m) (hn : IsLUB {s | s ∈ ys} n) : m = n := by
  have hspans : {s | s ∈ xs} = {s | s ∈ ys} := Set.ext hsame
  rw [hspans] at hm
  exact hm.unique hn

/-! ## Ranges -/

theorem ofRange_eq_ok_iff {start stop : Nat} {s : Span} :
    ofRange start stop = .ok s ↔ s.toRange = (start, stop) := by
  have hstart := s.start.toNat_lt_size
  have hstop := s.stop.toNat_lt_size
  unfold ofRange toRange
  rw [Prod.mk.injEq]
  by_cases hlarge : UInt32.size ≤ start
  · simp only [if_pos hlarge, reduceCtorEq, false_iff]
    omega
  · by_cases hlarge' : UInt32.size ≤ stop
    · simp only [if_neg hlarge, if_pos hlarge', reduceCtorEq, false_iff]
      omega
    · rw [if_neg hlarge, if_neg hlarge']
      rw [Nat.not_le] at hlarge hlarge'
      cases s
      simp only [Except.ok.injEq, Span.mk.injEq, ← UInt32.toNat_inj,
        UInt32.toNat_ofNat_of_lt' hlarge, UInt32.toNat_ofNat_of_lt' hlarge']
      omega

theorem exists_ofRange {start stop : Nat} (hstart : start < UInt32.size)
    (hstop : stop < UInt32.size) :
    ∃ s, ofRange start stop = .ok s ∧ s.toRange = (start, stop) := by
  have hrange : (⟨UInt32.ofNat start, UInt32.ofNat stop⟩ : Span).toRange = (start, stop) := by
    rw [toRange, UInt32.toNat_ofNat_of_lt' hstart, UInt32.toNat_ofNat_of_lt' hstop]
  exact ⟨_, ofRange_eq_ok_iff.mpr hrange, hrange⟩

/-! ## The least cover -/

/-- What the merged span of a list promises, said by the ends of the spans. -/
structure LeastCover (spans : List Span) (m : Span) : Prop where
  forward : m.start ≤ m.stop
  above : ∀ s ∈ spans, m.start ≤ s.start ∧ s.stop ≤ m.stop
  least : ∀ c : Span, (∀ s ∈ spans, c.start ≤ s.start ∧ s.stop ≤ c.stop) →
    c.start ≤ m.start ∧ m.stop ≤ c.stop
  contains : ∀ s ∈ spans, ∀ offset, offset ∈ s → offset ∈ m
  longest : ∀ s ∈ spans, ∃ k n, s.length = .ok k ∧ m.length = .ok n ∧ k ≤ n
  reordered : ∀ (t : Span) (others : List Span), (∀ s, s ∈ t :: others ↔ s ∈ spans) →
    others.foldl merge t = m
  regrouped : ∀ g : Merging, (∀ s, s ∈ g.spans ↔ s ∈ spans) → g.result = m

theorem merged_spans_leastCover :
    (∀ (s : Span) (rest : List Span), (∀ t ∈ s :: rest, t.start ≤ t.stop) →
      LeastCover (s :: rest) (rest.foldl merge s)) ∧
    ∀ start stop : Nat, start < UInt32.size → stop < UInt32.size →
      ∃ s, ofRange start stop = .ok s ∧ s.toRange = (start, stop) := by
  refine ⟨?_, fun start stop => exists_ofRange⟩
  intro s rest hforward
  obtain ⟨habove, hleast⟩ := isLUB_foldl_merge s rest
  exact {
    forward := forward_of_le (habove List.mem_cons_self) (hforward s List.mem_cons_self)
    above := fun t ht => habove ht
    least := fun c hc => hleast hc
    contains := fun t ht offset => mem_of_le (habove ht)
    longest := fun t ht => length_mono (habove ht) (hforward t ht)
    reordered := fun t others hsame =>
      eq_of_isLUB hsame (isLUB_foldl_merge t others) (isLUB_foldl_merge s rest)
    regrouped := fun g hsame => eq_of_isLUB hsame g.isLUB_result (isLUB_foldl_merge s rest) }

/-- The middle one of three spans is empty and the last one reaches back to before the first. -/
theorem chapters_leastCover :
    (∀ t ∈ ([⟨4, 9⟩, ⟨7, 7⟩, ⟨2, 5⟩] : List Span), t.start ≤ t.stop) ∧
      [⟨7, 7⟩, ⟨2, 5⟩].foldl merge ⟨4, 9⟩ = ⟨2, 9⟩ ∧
      LeastCover [⟨4, 9⟩, ⟨7, 7⟩, ⟨2, 5⟩] ⟨2, 9⟩ ∧
      (Merging.both (.single ⟨7, 7⟩)
        (.both (.both (.single ⟨2, 5⟩) (.single ⟨4, 9⟩)) (.single ⟨2, 5⟩))).result = ⟨2, 9⟩ ∧
      ∃ s, ofRange 50 4294967295 = .ok s ∧ s.toRange = (50, 4294967295) := by
  have hforward : ∀ t ∈ ([⟨4, 9⟩, ⟨7, 7⟩, ⟨2, 5⟩] : List Span), t.start ≤ t.stop := by decide
  have hcover := merged_spans_leastCover.1 ⟨4, 9⟩ [⟨7, 7⟩, ⟨2, 5⟩] hforward
  refine ⟨hforward, rfl, hcover, hcover.regrouped _ ?_,
    merged_spans_leastCover.2 50 4294967295 (by decide) (by decide)⟩
  intro s
  simp only [Merging.spans, List.mem_append, List.mem_cons, List.not_mem_nil, or_false]
  tauto

end Storyline.Span
