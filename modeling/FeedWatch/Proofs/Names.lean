import FeedWatch.Names
import Mathlib.Data.List.Sort
import Mathlib.Tactic.Common

/-!
# Sets and tables of names

What a set and a table hold after a change, and that they are known by what they hold: sets with the
same members are equal, and so are tables without empty sets that have the same names under the same
keys.  Main statements: `NameTable.mem_find_add` and `NameTable.hasKey_add` for an added name,
`NameTable.eq_of_mem_iff` for equal tables.
-/

namespace FeedWatch

/-- When each step of a fold lets something hold that one item asks for, the fold lets it hold when
one of its items asks for it. -/
lemma foldl_iff_exists {σ α : Type} {f : σ → α → σ} {p : σ → Prop} {q : α → Prop}
    (hstep : ∀ s a, p (f s a) ↔ p s ∨ q a) (s : σ) (xs : List α) :
    p (xs.foldl f s) ↔ p s ∨ ∃ a ∈ xs, q a := by
  induction xs generalizing s with
  | nil => exact ⟨.inl, fun h => h.resolve_right fun ⟨_, ha, _⟩ => nomatch ha⟩
  | cons a xs ih => rw [List.foldl_cons, ih, hstep, or_assoc, List.exists_mem_cons_iff]

/-- The set of the names in a list has these names. -/
lemma NameSet.mem_ofList {names : List String} {n : String} :
    n ∈ (ofList names).toList ↔ n ∈ names := by
  have hstep : ∀ (s : NameSet) (name : String),
      n ∈ (s.insert name).toList ↔ n ∈ s.toList ∨ n = name :=
    fun _ _ => mem_insertName.trans or_comm
  refine (foldl_iff_exists (p := fun s => n ∈ s.toList) hstep empty names).trans ?_
  refine (or_iff_right List.not_mem_nil).trans ⟨?_, fun h => ⟨n, h, rfl⟩⟩
  rintro ⟨_, h, rfl⟩
  exact h

/-- Sets with the same members are equal. -/
lemma NameSet.eq_of_mem_iff {s t : NameSet} (h : ∀ n, n ∈ s.toList ↔ n ∈ t.toList) : s = t := by
  obtain ⟨ss, hs⟩ := s
  obtain ⟨ts, ht⟩ := t
  congr
  exact hs.eq_of_mem_iff ht h

namespace NameTable

variable {t u : NameTable} {key name : String}

/-! ## Looking up -/

lemma lookup_cons_eq (k k' : String) (s : NameSet) (rest : List (String × NameSet)) :
    ((k', s) :: rest).lookup k = if k = k' then some s else rest.lookup k := by
  by_cases h : k = k'
  · rw [h, List.lookup_cons_self, if_pos rfl]
  · rw [List.lookup_cons, beq_false_of_ne h, if_neg h]

/-- A key below all others is not there. -/
lemma lookup_eq_none {entries : List (String × NameSet)}
    (h : ∀ k ∈ entries.map (·.1), key < k) : entries.lookup key = none := by
  rw [List.lookup_eq_none_iff]
  intro p hp
  exact bne_iff_ne.2 (String.ne_of_lt (h p.1 (List.mem_map_of_mem hp)))

/-- Among different keys, what is looked up is what stands there. -/
lemma lookup_eq_some_iff {entries : List (String × NameSet)}
    (h : (entries.map (·.1)).Pairwise (· < ·)) {k : String} {s : NameSet} :
    entries.lookup k = some s ↔ (k, s) ∈ entries := by
  induction entries with
  | nil => exact ⟨nofun, nofun⟩
  | cons entry rest ih =>
    obtain ⟨k', s'⟩ := entry
    rw [List.map_cons, List.pairwise_cons] at h
    rw [lookup_cons_eq, List.mem_cons, Prod.mk.injEq, ← ih h.2]
    split_ifs with hk
    · subst hk
      rw [lookup_eq_none h.1]
      simp [eq_comm]
    · simp [hk]

/-- Tables are known by what is found in them. -/
lemma eq_of_find? (h : ∀ k, t.find? k = u.find? k) : t = u := by
  have hmem : ∀ entry, entry ∈ t.entries ↔ entry ∈ u.entries := by
    rintro ⟨k, s⟩
    rw [← lookup_eq_some_iff t.sorted, ← lookup_eq_some_iff u.sorted]
    exact Eq.congr_left (h k)
  obtain ⟨ts, ht⟩ := t
  obtain ⟨us, hu⟩ := u
  congr
  exact (List.pairwise_map.1 ht).eq_of_mem_iff (List.pairwise_map.1 hu) hmem

/-! ## Adding names -/

/-- Only the set under the key is altered. -/
lemma lookup_alterEntries {entries : List (String × NameSet)}
    (h : (entries.map (·.1)).Pairwise (· < ·)) (key : String) (f : NameSet → NameSet)
    (k : String) :
    (alterEntries key f entries).lookup k =
      if k = key then some (f ((entries.lookup key).getD .empty)) else entries.lookup k := by
  induction entries with
  | nil => rw [alterEntries, lookup_cons_eq, List.lookup_nil, List.lookup_nil, Option.getD_none]
  | cons entry rest ih =>
    obtain ⟨k', s⟩ := entry
    rw [List.map_cons, List.pairwise_cons] at h
    rw [alterEntries]
    by_cases hlt : key < k'
    · have hnone : ((k', s) :: rest).lookup key = none := lookup_eq_none fun j hj => by
        obtain rfl | hj := List.mem_cons.1 hj
        · exact hlt
        · exact String.lt_trans hlt (h.1 j hj)
      rw [if_pos hlt, lookup_cons_eq, hnone, Option.getD_none]
    · rw [if_neg hlt]
      by_cases hgt : k' < key
      · have hne : key ≠ k' := (String.ne_of_lt hgt).symm
        rw [if_pos hgt, lookup_cons_eq, ih h.2, lookup_cons_eq, if_neg hne, lookup_cons_eq]
        split_ifs with hk hkey
        · exact absurd (hkey.symm.trans hk) hne
        · rfl
        · rfl
        · rfl
      · obtain rfl := eq_of_not_lt hlt hgt
        rw [if_neg hgt, lookup_cons_eq, lookup_cons_eq, if_pos rfl, Option.getD_some,
          lookup_cons_eq]
        split_ifs
        · rfl
        · rfl

lemma find?_alter (t : NameTable) (key : String) (f : NameSet → NameSet) (k : String) :
    (t.alter key f).find? k = if k = key then some (f (t.find key)) else t.find? k :=
  lookup_alterEntries t.sorted key f k

lemma find?_add (t : NameTable) (key name k : String) :
    (t.add key name).find? k = if k = key then some ((t.find key).insert name) else t.find? k :=
  find?_alter t key (·.insert name) k

/-- Adding a name makes its key one of the table. -/
lemma hasKey_add {k : String} : (t.add key name).hasKey k = true ↔ k = key ∨ t.hasKey k = true := by
  rw [hasKey, find?_add]
  split_ifs with hk
  · exact ⟨fun _ => .inl hk, fun _ => rfl⟩
  · exact ⟨.inr, fun h => h.resolve_left hk⟩

/-- Adding a name under a key adds nothing under others. -/
lemma mem_find_add {k n : String} :
    n ∈ ((t.add key name).find k).toList ↔ (k = key ∧ n = name) ∨ n ∈ (t.find k).toList := by
  rw [find, find?_add]
  split_ifs with hk
  · rw [hk]
    exact mem_insertName.trans (or_congr_left (and_iff_right rfl).symm)
  · exact ⟨.inr, fun h => h.resolve_left fun hkey => hk hkey.1⟩

/-- A name that is added adds its key as well. -/
lemma add_touch (t : NameTable) (key name : String) :
    (t.touch key).add key name = t.add key name := by
  refine eq_of_find? fun k => ?_
  have hfind : (t.touch key).find key = t.find key := by
    rw [find, touch, find?_alter, if_pos rfl, Option.getD_some, id]
  rw [find?_add, find?_add, hfind, touch, find?_alter]
  split_ifs
  · rfl
  · rfl

/-! ## Tables without empty sets -/

/-- No set of a table is empty. -/
def IsFilled (t : NameTable) : Prop := ∀ key s, t.find? key = some s → s.toList ≠ []

lemma isFilled_empty : IsFilled .empty := nofun

lemma IsFilled.add (h : t.IsFilled) (key name : String) : (t.add key name).IsFilled := by
  intro k s hs
  rw [find?_add] at hs
  split_ifs at hs with hk
  · cases hs
    exact List.ne_nil_of_mem (mem_insertName.2 (.inl rfl))
  · exact h k s hs

/-- Tables without empty sets are known by the names under their keys. -/
lemma eq_of_mem_iff (ht : t.IsFilled) (hu : u.IsFilled)
    (h : ∀ k n, n ∈ (t.find k).toList ↔ n ∈ (u.find k).toList) : t = u := by
  refine eq_of_find? fun k => ?_
  have hk := h k
  rw [find, find] at hk
  cases hs : t.find? k with
  | none =>
    cases hs' : u.find? k with
    | none => rfl
    | some s' =>
      rw [hs, hs'] at hk
      obtain ⟨n, hn⟩ := List.exists_mem_of_ne_nil _ (hu k s' hs')
      exact absurd ((hk n).2 hn) List.not_mem_nil
  | some s =>
    obtain ⟨n, hn⟩ := List.exists_mem_of_ne_nil _ (ht k s hs)
    cases hs' : u.find? k with
    | none =>
      rw [hs, hs'] at hk
      exact absurd ((hk n).1 hn) List.not_mem_nil
    | some s' =>
      rw [hs, hs'] at hk
      exact congrArg some (NameSet.eq_of_mem_iff hk)

end NameTable

end FeedWatch
