import FeedWatch.Engine.Heap
import FeedWatch.Proofs.Engine.Timers
import Mathlib.Order.Defs.LinearOrder

/-!
# Heaps in order

In a heap in order no entry comes before the one above it, so the root comes first.  Main
statements: adding an entry, taking the root out and making a heap of entries in any order give
heaps in order (`Heap.ordered_push`, `Heap.ordered_pop?`, `Heap.ordered_ofArray`), and none of them
loses an entry.

Of the entries there is a rank by which `before` goes, for those with a property `p`; what is no
number has no such rank.  A hole is filled by moving entries, and meanwhile the order holds but for
the hole: `Rising` is what it takes to fill it by going up, and `Sinking` what is kept going down.
-/

namespace FeedWatch.Heap

variable {α β : Type} [LinearOrder β] {before : α → α → Bool} {rank : α → β} {p : α → Prop}
variable {x y : α} {heap : Array α} {i j top : Nat}

/-- Below the place `top`, no entry comes before the one above it. -/
def OrderedFrom (rank : α → β) (top : Nat) (heap : Array α) : Prop :=
  ∀ i x y, 0 < i → top ≤ (i - 1) / 2 → heap[i]? = some x → heap[(i - 1) / 2]? = some y →
    rank y ≤ rank x

/-- No entry comes before the one above it. -/
def Ordered (rank : α → β) (heap : Array α) : Prop := OrderedFrom rank 0 heap

/-- A place is another one or below it. -/
inductive Under (top : Nat) : Nat → Prop
  | top : Under top top
  | left {i : Nat} : Under top i → Under top (2 * i + 1)
  | right {i : Nat} : Under top i → Under top (2 * i + 2)

lemma Under.le (h : Under top i) : top ≤ i := by
  induction h with
  | top => exact Nat.le_refl _
  | left _ ih => omega
  | right _ ih => omega

lemma Under.above (h : Under top i) (hne : i ≠ top) : 0 < i ∧ Under top ((i - 1) / 2) := by
  cases h with
  | top => exact absurd rfl hne
  | @left i h => exact ⟨by omega, by rwa [show (2 * i + 1 - 1) / 2 = i by omega]⟩
  | @right i h => exact ⟨by omega, by rwa [show (2 * i + 2 - 1) / 2 = i by omega]⟩

/-- But for a hole, the heap is in order; what is below the hole may come below what is above it,
and below the entry that is to fill it. -/
structure Rising (rank : α → β) (top : Nat) (x : α) (hole : Nat) (heap : Array α) : Prop where
  under : Under top hole
  others : ∀ i u v, 0 < i → top ≤ (i - 1) / 2 → i ≠ hole → (i - 1) / 2 ≠ hole →
    heap[i]? = some u → heap[(i - 1) / 2]? = some v → rank v ≤ rank u
  across : ∀ i u v, 0 < i → (i - 1) / 2 = hole → hole ≠ top →
    heap[i]? = some u → heap[(hole - 1) / 2]? = some v → rank v ≤ rank u
  below : ∀ i u, 0 < i → (i - 1) / 2 = hole → heap[i]? = some u → rank x ≤ rank u

/-- But for a hole, the heap is in order, and what is below the hole may come below what is above
it. -/
structure Sinking (rank : α → β) (top : Nat) (hole : Nat) (heap : Array α) : Prop where
  under : Under top hole
  others : ∀ i u v, 0 < i → top ≤ (i - 1) / 2 → i ≠ hole → (i - 1) / 2 ≠ hole →
    heap[i]? = some u → heap[(i - 1) / 2]? = some v → rank v ≤ rank u
  across : ∀ i u v, 0 < i → (i - 1) / 2 = hole → hole ≠ top →
    heap[i]? = some u → heap[(hole - 1) / 2]? = some v → rank v ≤ rank u

/-! ## Filling a hole -/

/-- The entry fills the hole, where what is above it does not come after it. -/
lemma Rising.fill (h : Rising rank top x i heap)
    (habove : i ≠ top → ∀ v, heap[(i - 1) / 2]? = some v → rank v ≤ rank x) :
    OrderedFrom rank top (heap.setIfInBounds i x) := by
  intro j u v hj htop hu hv
  rw [Array.getElem?_setIfInBounds] at hu hv
  by_cases hji : i = j
  · subst hji
    have hne : i ≠ (i - 1) / 2 := by omega
    have htop' : i ≠ top := by omega
    rw [if_neg hne] at hv
    rw [if_pos rfl] at hu
    split_ifs at hu
    cases hu
    exact habove htop' v hv
  · rw [if_neg hji] at hu
    by_cases hpi : i = (j - 1) / 2
    · rw [if_pos hpi] at hv
      split_ifs at hv
      cases hv
      exact h.below j u hj hpi.symm hu
    · rw [if_neg hpi] at hv
      exact h.others j u v hj htop (Ne.symm hji) (Ne.symm hpi) hu hv

/-- The hole rises, and the entry above it moves down. -/
lemma Rising.rise (h : Rising rank top x i heap) (hne : i ≠ top) (hi : i < heap.size)
    (hy : heap[(i - 1) / 2]? = some y) (hlt : rank x < rank y) :
    Rising rank top x ((i - 1) / 2) (heap.setIfInBounds i y) := by
  obtain ⟨hpos, hunder⟩ := h.under.above hne
  have hget : ∀ j, (heap.setIfInBounds i y)[j]? = if i = j then some y else heap[j]? := by
    intro j
    rw [Array.getElem?_setIfInBounds, if_pos hi]
  refine ⟨hunder, fun j u v hj htop hjp hpp hu hv => ?_, fun j u v hj hp htop hu hv => ?_,
    fun j u hj hp hu => ?_⟩
  · rw [hget] at hu hv
    have hji : i ≠ j := by
      rintro rfl
      exact hpp rfl
    rw [if_neg hji] at hu
    by_cases hpi : i = (j - 1) / 2
    · rw [if_pos hpi] at hv
      cases hv
      exact h.across j u y hj hpi.symm hne hu hy
    · rw [if_neg hpi] at hv
      exact h.others j u v hj htop (Ne.symm hji) (Ne.symm hpi) hu hv
  · -- the entries below the new hole are the one that moved and its neighbour
    have hup := (hunder.above htop).1
    have hle := (hunder.above htop).2.le
    have hyv : rank v ≤ rank y := by
      rw [hget, if_neg (by omega)] at hv
      exact h.others _ y v hup hle (by omega) (by omega) hy hv
    rw [hget] at hu
    split_ifs at hu with hji
    · cases hu
      exact hyv
    · exact hyv.trans (h.others j u y hj (hp ▸ hunder.le) (Ne.symm hji) (by omega) hu (hp ▸ hy))
  · rw [hget] at hu
    split_ifs at hu with hji
    · cases hu
      exact hlt.le
    · exact hlt.le.trans
        (h.others j u y hj (hp ▸ hunder.le) (Ne.symm hji) (by omega) hu (hp ▸ hy))

/-- The hole goes down, and the earlier of the entries below it moves up. -/
lemma Sinking.sink (h : Sinking rank top i heap) (hj : 0 < j) (hp : (j - 1) / 2 = i)
    (hy : heap[j]? = some y)
    (hfirst : ∀ k u, 0 < k → (k - 1) / 2 = i → heap[k]? = some u → rank y ≤ rank u) :
    Sinking rank top j (heap.setIfInBounds i y) := by
  have hi : i < heap.size := by
    obtain ⟨hlt, -⟩ := Array.getElem?_eq_some_iff.1 hy
    omega
  have hget : ∀ k, (heap.setIfInBounds i y)[k]? = if i = k then some y else heap[k]? := by
    intro k
    rw [Array.getElem?_setIfInBounds, if_pos hi]
  have hunder : Under top j := by
    obtain rfl | rfl : j = 2 * i + 1 ∨ j = 2 * i + 2 := by omega
    · exact h.under.left
    · exact h.under.right
  refine ⟨hunder, fun k u v hk htop hkj hpj hu hv => ?_, fun k u v hk hpk _ hu hv => ?_⟩
  · rw [hget] at hu hv
    by_cases hki : i = k
    · subst hki
      rw [if_pos rfl] at hu
      rw [if_neg (by omega)] at hv
      cases hu
      exact h.across j y v hj hp (by omega) hy hv
    · rw [if_neg hki] at hu
      by_cases hpi : i = (k - 1) / 2
      · rw [if_pos hpi] at hv
        cases hv
        exact hfirst k u hk hpi.symm hu
      · rw [if_neg hpi] at hv
        exact h.others k u v hk htop (Ne.symm hki) (Ne.symm hpi) hu hv
  · rw [hp, hget, if_pos rfl] at hv
    cases hv
    rw [hget, if_neg (by omega)] at hu
    have hle := h.under.le
    exact h.others k u y hk (by omega) (by omega) (by omega) hu (hpk ▸ hy)

/-! ## What moving keeps -/

section

variable (hrank : ∀ x y, p x → p y → (before x y = true ↔ rank x < rank y))
include hrank

lemma ordered_rise (hx : p x) (hheap : ∀ y ∈ heap, p y) (h : Rising rank top x i heap)
    (hi : i < heap.size) : OrderedFrom rank top (rise before top x i heap) := by
  fun_induction rise before top x i heap with
  | case1 i heap htop =>
    exact h.fill fun hne => absurd (Nat.le_antisymm htop h.under.le) hne
  | case2 i heap htop hnone =>
    refine h.fill fun _ v hv => ?_
    rw [hnone] at hv
    cases hv
  | case3 i heap htop above habove hbefore ih =>
    have hlt := (hrank x above hx (hheap _ (Array.mem_of_getElem? habove))).1 hbefore
    refine ih (fun y hy => ?_) (h.rise (by omega) hi habove hlt) ?_
    · obtain rfl | hy := mem_setIfInBounds hy
      · exact hheap _ (Array.mem_of_getElem? habove)
      · exact hheap y hy
    · rw [Array.size_setIfInBounds]
      omega
  | case4 i heap htop above habove hbefore =>
    refine h.fill fun _ v hv => ?_
    cases habove.symm.trans hv
    rw [hrank x above hx (hheap _ (Array.mem_of_getElem? habove))] at hbefore
    exact not_lt.1 hbefore

omit hrank in
lemma size_sink (before : α → α → Bool) (i : Nat) (heap : Array α) :
    (sink before i heap).2.size = heap.size := by
  fun_induction sink before i heap with
  | case1 i heap hl left hr right hbefore ih => rw [ih, Array.size_setIfInBounds]
  | case2 i heap hl left hr right hbefore ih => rw [ih, Array.size_setIfInBounds]
  | case3 i heap hl left hr ih => rw [ih, Array.size_setIfInBounds]
  | case4 i heap hl => rfl

omit hrank in
lemma size_rise (before : α → α → Bool) (top : Nat) (x : α) (i : Nat) (heap : Array α) :
    (rise before top x i heap).size = heap.size := by
  fun_induction rise before top x i heap with
  | case1 i heap htop => rw [Array.size_setIfInBounds]
  | case2 i heap htop hnone => rw [Array.size_setIfInBounds]
  | case3 i heap htop above habove hbefore ih => rw [ih, Array.size_setIfInBounds]
  | case4 i heap htop above habove hbefore => rw [Array.size_setIfInBounds]

/-- The hole ends at a leaf, where any entry may rise from. -/
lemma rising_sink (hheap : ∀ y ∈ heap, p y) (h : Sinking rank top i heap) (hi : i < heap.size)
    (x : α) : Rising rank top x (sink before i heap).1 (sink before i heap).2 ∧
      (sink before i heap).1 < heap.size := by
  have hset : ∀ (heap : Array α) (i : Nat) (z : α), z ∈ heap → (∀ y ∈ heap, p y) →
      ∀ y ∈ heap.setIfInBounds i z, p y := by
    intro heap i z hz hheap y hy
    obtain rfl | hy := mem_setIfInBounds hy
    · exact hheap y hz
    · exact hheap y hy
  fun_induction sink before i heap with
  | case1 i heap hl left hr right hbefore ih =>
    have hsink := h.sink (j := 2 * i + 1) (by omega) (by omega)
      (Array.getElem?_eq_getElem hl) fun k u hk hki hu => ?_
    · simpa using ih (hset heap i left (Array.getElem_mem hl) hheap) hsink (by simpa using hl)
    · obtain rfl | rfl : k = 2 * i + 1 ∨ k = 2 * i + 2 := by omega
      · exact (congrArg rank (Option.some.inj ((Array.getElem?_eq_getElem hl).symm.trans hu))).le
      · rw [← Option.some.inj ((Array.getElem?_eq_getElem hr).symm.trans hu)]
        exact ((hrank _ _ (hheap _ (Array.getElem_mem hl)) (hheap _ (Array.getElem_mem hr))).1
          hbefore).le
  | case2 i heap hl left hr right hbefore ih =>
    have hsink := h.sink (j := 2 * i + 2) (by omega) (by omega)
      (Array.getElem?_eq_getElem hr) fun k u hk hki hu => ?_
    · simpa using ih (hset heap i right (Array.getElem_mem hr) hheap) hsink (by simpa using hr)
    · obtain rfl | rfl : k = 2 * i + 1 ∨ k = 2 * i + 2 := by omega
      · rw [← Option.some.inj ((Array.getElem?_eq_getElem hl).symm.trans hu)]
        rw [hrank _ _ (hheap _ (Array.getElem_mem hl)) (hheap _ (Array.getElem_mem hr))] at hbefore
        exact not_lt.1 hbefore
      · exact (congrArg rank (Option.some.inj ((Array.getElem?_eq_getElem hr).symm.trans hu))).le
  | case3 i heap hl left hr ih =>
    have hsink := h.sink (j := 2 * i + 1) (by omega) (by omega)
      (Array.getElem?_eq_getElem hl) fun k u hk hki hu => ?_
    · simpa using ih (hset heap i left (Array.getElem_mem hl) hheap) hsink (by simpa using hl)
    · obtain rfl | rfl : k = 2 * i + 1 ∨ k = 2 * i + 2 := by omega
      · exact (congrArg rank (Option.some.inj ((Array.getElem?_eq_getElem hl).symm.trans hu))).le
      · obtain ⟨hlt, -⟩ := Array.getElem?_eq_some_iff.1 hu
        exact absurd hlt hr
  | case4 i heap hl =>
    refine ⟨⟨h.under, h.others, h.across, fun k u hk hki hu => ?_⟩, hi⟩
    obtain ⟨hlt, -⟩ := Array.getElem?_eq_some_iff.1 hu
    dsimp only at hlt
    omega

/-- A hole with heaps in order below it is filled. -/
lemma ordered_fill (hx : p x) (hheap : ∀ y ∈ heap, p y) (h : OrderedFrom rank (top + 1) heap)
    (htop : top < heap.size) : OrderedFrom rank top (fill before x top heap) := by
  have hsinking : Sinking rank top top heap := by
    refine ⟨.top, fun i u v hi hle _ hne hu hv => ?_, fun _ _ _ _ _ hne => absurd rfl hne⟩
    exact h i u v hi (by omega) hu hv
  obtain ⟨hrising, hlt⟩ := rising_sink hrank hheap hsinking htop x
  refine ordered_rise hrank hx (fun y hy => hheap y (mem_sink hy)) hrising ?_
  rw [size_sink]
  exact hlt

/-! ## Operations -/

lemma ordered_push (hx : p x) (hheap : ∀ y ∈ heap, p y) (h : Ordered rank heap) :
    Ordered rank (push before x heap) := by
  have hget : ∀ j u, (heap.push x)[j]? = some u → j ≠ heap.size → heap[j]? = some u := by
    intro j u hu hj
    rwa [Array.getElem?_push, if_neg hj] at hu
  have hlt : ∀ j u, (heap.push x)[j]? = some u → j < heap.size + 1 := by
    intro j u hu
    obtain ⟨hlt, -⟩ := Array.getElem?_eq_some_iff.1 hu
    rwa [Array.size_push] at hlt
  refine ordered_rise hrank hx (fun y hy => ?_) ⟨?_, fun i u v hi _ hne hpne hu hv => ?_,
    fun i u v hi hp hne hu _ => ?_, fun i u hi hp hu => ?_⟩ (by simp)
  · obtain hy | rfl := Array.mem_push.1 hy
    · exact hheap y hy
    · exact hx
  · have hunder : ∀ n, Under 0 n := by
      intro n
      induction n using Nat.strong_induction_on with
      | _ n ih =>
        obtain rfl | hpos := Nat.eq_zero_or_pos n
        · exact .top
        · obtain h | h : n = 2 * ((n - 1) / 2) + 1 ∨ n = 2 * ((n - 1) / 2) + 2 := by omega
          · rw [h]
            exact (ih _ (by omega)).left
          · rw [h]
            exact (ih _ (by omega)).right
    exact hunder heap.size
  · exact h i u v hi (Nat.zero_le _) (hget i u hu hne) (hget _ v hv hpne)
  · have := hlt i u hu
    omega
  · have := hlt i u hu
    omega

omit hrank in
lemma OrderedFrom.pop (h : OrderedFrom rank top heap) : OrderedFrom rank top heap.pop := by
  intro i u v hi htop hu hv
  rw [Array.getElem?_pop] at hu hv
  split_ifs at hu hv
  exact h i u v hi htop hu hv

lemma ordered_pop? {rest : Array α} (hheap : ∀ y ∈ heap, p y) (h : Ordered rank heap)
    (hpop : pop? before heap = some (x, rest)) : Ordered rank rest := by
  rw [pop?] at hpop
  split at hpop
  · rename_i first last hfirst hlast
    cases hpop
    split_ifs with hempty
    · exact OrderedFrom.pop h
    · refine ordered_fill hrank (hheap _ (Array.mem_of_back? hlast))
        (fun y hy => hheap y (mem_pop hy)) (fun i u v hi _ => OrderedFrom.pop h i u v hi
          (Nat.zero_le _)) ?_
      rw [Array.isEmpty_iff_size_eq_zero] at hempty
      omega
  · cases hpop

lemma ordered_ofArray (hheap : ∀ y ∈ heap, p y) : Ordered rank (ofArray before heap) := by
  have hfold : ∀ (g : Nat → Array α → Array α),
      (∀ i heap x, heap[i]? = some x → g i heap = fill before x i heap) →
      ∀ (n : Nat) (heap : Array α), n ≤ heap.size → (∀ y ∈ heap, p y) →
      OrderedFrom rank n heap → Ordered rank ((List.range n).foldr g heap) := by
    intro g hg n
    induction n with
    | zero => exact fun _ _ _ h => h
    | succ n ih =>
      intro heap hn hheap h
      rw [List.range_succ, List.foldr_append, List.foldr_cons, List.foldr_nil]
      have hget : heap[n]? = some heap[n] := Array.getElem?_eq_getElem (by omega)
      have hp := hheap _ (Array.getElem_mem (h := (by omega : n < heap.size)))
      rw [hg n heap _ hget]
      refine ih _ ?_ (fun y hy => ?_) (ordered_fill hrank hp hheap h (by omega))
      · rw [fill, size_rise, size_sink]
        omega
      · obtain rfl | hy := mem_fill hy
        · exact hp
        · exact hheap y hy
  refine hfold _ (fun i heap x h => by rw [h]) _ _ (by omega) hheap fun i u v hi htop hu _ => ?_
  obtain ⟨hlt, -⟩ := Array.getElem?_eq_some_iff.1 hu
  omega

end

/-- The root comes first. -/
lemma Ordered.root (h : Ordered rank heap) (hroot : heap[0]? = some x) (hy : y ∈ heap) :
    rank x ≤ rank y := by
  have hfirst : ∀ (i : Nat) (y : α), heap[i]? = some y → rank x ≤ rank y := by
    intro i
    induction i using Nat.strong_induction_on with
    | _ i ih =>
      intro y hy
      obtain rfl | hpos := Nat.eq_zero_or_pos i
      · exact (congrArg rank (Option.some.inj (hroot.symm.trans hy))).le
      · obtain ⟨hlt, -⟩ := Array.getElem?_eq_some_iff.1 hy
        have habove : heap[(i - 1) / 2]? = some heap[(i - 1) / 2] :=
          Array.getElem?_eq_getElem (by omega)
        exact (ih _ (by omega) _ habove).trans (h i y _ hpos (Nat.zero_le _) hy habove)
  obtain ⟨i, hy⟩ := Array.mem_iff_getElem?.1 hy
  exact hfirst i y hy

/-! ## No entry is lost -/

lemma mem_set_iff (hi : i < heap.size) :
    y ∈ heap.setIfInBounds i x ↔ y = x ∨ ∃ j, j ≠ i ∧ heap[j]? = some y := by
  rw [Array.mem_iff_getElem?]
  constructor
  · rintro ⟨j, hj⟩
    rw [Array.getElem?_setIfInBounds, if_pos hi] at hj
    split_ifs at hj with hij
    · exact .inl (Option.some.inj hj).symm
    · exact .inr ⟨j, Ne.symm hij, hj⟩
  · rintro (rfl | ⟨j, hij, hj⟩)
    · exact ⟨i, by rw [Array.getElem?_setIfInBounds, if_pos rfl, if_pos hi]⟩
    · exact ⟨j, by rw [Array.getElem?_setIfInBounds, if_neg (Ne.symm hij), hj]⟩

/-- An entry that moves into the hole leaves a hole where it was. -/
lemma mem_set_set {z : α} (hi : i < heap.size) (hj : heap[j]? = some z) (hne : j ≠ i)
    (h : y ∈ heap.setIfInBounds i x) :
    y ∈ (heap.setIfInBounds i z).setIfInBounds j x := by
  obtain ⟨hlt, -⟩ := Array.getElem?_eq_some_iff.1 hj
  rw [mem_set_iff (by rwa [Array.size_setIfInBounds])]
  obtain rfl | ⟨k, hk, hy⟩ := (mem_set_iff hi).1 h
  · exact .inl rfl
  · by_cases hkj : k = j
    · refine .inr ⟨i, hne.symm, ?_⟩
      rw [Array.getElem?_setIfInBounds, if_pos rfl, if_pos hi, ← hj, ← hkj, hy]
    · refine .inr ⟨k, hkj, ?_⟩
      rw [Array.getElem?_setIfInBounds, if_neg (Ne.symm hk), hy]

lemma mem_rise_of (hi : i < heap.size) (h : y ∈ heap.setIfInBounds i x) :
    y ∈ rise before top x i heap := by
  fun_induction rise before top x i heap with
  | case1 i heap htop => exact h
  | case2 i heap htop hnone => exact h
  | case3 i heap htop above habove hbefore ih =>
    refine ih ?_ (mem_set_set hi habove (by omega) h)
    rw [Array.size_setIfInBounds]
    omega
  | case4 i heap htop above habove hbefore => exact h

lemma mem_sink_of (hi : i < heap.size) (h : y ∈ heap.setIfInBounds i x) :
    y ∈ (sink before i heap).2.setIfInBounds (sink before i heap).1 x := by
  fun_induction sink before i heap with
  | case1 i heap hl left hr right hbefore ih =>
    exact ih (by simpa using hl) (mem_set_set hi (Array.getElem?_eq_getElem hl) (by omega) h)
  | case2 i heap hl left hr right hbefore ih =>
    exact ih (by simpa using hr) (mem_set_set hi (Array.getElem?_eq_getElem hr) (by omega) h)
  | case3 i heap hl left hr ih =>
    exact ih (by simpa using hl) (mem_set_set hi (Array.getElem?_eq_getElem hl) (by omega) h)
  | case4 i heap hl => exact h

lemma fst_sink_lt (before : α → α → Bool) (hi : i < heap.size) :
    (sink before i heap).1 < heap.size := by
  fun_induction sink before i heap with
  | case1 i heap hl left hr right hbefore ih => simpa using ih (by simpa using hl)
  | case2 i heap hl left hr right hbefore ih => simpa using ih (by simpa using hr)
  | case3 i heap hl left hr ih => simpa using ih (by simpa using hl)
  | case4 i heap hl => exact hi

lemma mem_fill_of (hi : i < heap.size) (h : y ∈ heap.setIfInBounds i x) :
    y ∈ fill before x i heap := by
  refine mem_rise_of ?_ (mem_sink_of hi h)
  rw [size_sink]
  exact fst_sink_lt before hi

lemma mem_push_of (h : y = x ∨ y ∈ heap) : y ∈ push before x heap := by
  refine mem_rise_of (by simp) ?_
  rw [mem_set_iff (by simp)]
  refine h.imp_right fun hy => ?_
  obtain ⟨i, hi⟩ := Array.mem_iff_getElem?.1 hy
  obtain ⟨hlt, -⟩ := Array.getElem?_eq_some_iff.1 hi
  exact ⟨i, by omega, by rw [Array.getElem?_push, if_neg (by omega), hi]⟩

lemma mem_of_pop? {rest : Array α} (hpop : pop? before heap = some (x, rest)) (hy : y ∈ heap) :
    y = x ∨ y ∈ rest := by
  rw [pop?] at hpop
  split at hpop
  · rename_i first last hfirst hlast
    cases hpop
    obtain ⟨i, hi⟩ := Array.mem_iff_getElem?.1 hy
    obtain ⟨hlt, -⟩ := Array.getElem?_eq_some_iff.1 hi
    rw [Array.back?_eq_getElem?] at hlast
    obtain rfl | hpos := Nat.eq_zero_or_pos i
    · exact .inl (Option.some.inj (hi.symm.trans hfirst))
    · right
      have hsize : heap.pop.size = heap.size - 1 := Array.size_pop
      have hempty : ¬ heap.pop.isEmpty = true := by
        rw [Array.isEmpty_iff_size_eq_zero]
        omega
      rw [if_neg hempty]
      refine mem_fill_of (by omega) ((mem_set_iff (by omega)).2 ?_)
      obtain rfl | hne := eq_or_ne i (heap.size - 1)
      · exact .inl (Option.some.inj (hi.symm.trans hlast))
      · exact .inr ⟨i, hpos.ne', by rw [Array.getElem?_pop, if_pos (by omega), hi]⟩
  · cases hpop

lemma mem_ofArray_of (hy : y ∈ heap) : y ∈ ofArray before heap := by
  have hfold : ∀ (g : Nat → Array α → Array α), (∀ i heap, heap[i]? = none → g i heap = heap) →
      (∀ i heap x, heap[i]? = some x → g i heap = fill before x i heap) →
      ∀ (places : List Nat) (heap : Array α), y ∈ heap → y ∈ places.foldr g heap := by
    intro g hnone hsome places heap hy
    induction places with
    | nil => exact hy
    | cons i places ih =>
      rw [List.foldr_cons]
      generalize places.foldr _ heap = heap' at ih
      cases hget : heap'[i]? with
      | none =>
        rw [hnone i heap' hget]
        exact ih
      | some x =>
        rw [hsome i heap' x hget]
        obtain ⟨hlt, hx⟩ := Array.getElem?_eq_some_iff.1 hget
        refine mem_fill_of hlt ((mem_set_iff hlt).2 ?_)
        obtain ⟨j, hj⟩ := Array.mem_iff_getElem?.1 ih
        by_cases hji : j = i
        · subst hji
          exact .inl (Option.some.inj (hj.symm.trans hget))
        · exact .inr ⟨j, hji, hj⟩
  exact hfold _ (fun i heap h => by rw [h]) (fun i heap x h => by rw [h]) _ _ hy

end FeedWatch.Heap
