import FeedWatch.Text.SectionCodes
import Mathlib.Data.List.Induction
import Mathlib.Data.List.Infix
import Mathlib.Tactic.Common

/-!
# Texts without section codes

A section sign takes the character after it away, also when that is another section sign, so which
signs of a run start a code depends on where the run begins.  A reader who goes through a text
character by character has to remember no more than whether the last sign still waits for its
character.  Main statement: what is left of a text is what such a reader keeps
(`stripSectionCodes_eq_scan`).  A section sign is left at its end at most, and there exactly when
the text ends in one that no earlier one takes away.  Only for such a text it matters whether
its codes are removed before or after something is put behind it.
-/

namespace FeedWatch.Text

variable {t u : List Char} {c : Char}

/-! ## Signs that are taken away -/

/-- Whether a section sign takes the character at a place away: the one right before it, unless that
is taken away itself. -/
def IsConsumed (t : List Char) : Nat → Prop
  | 0 => False
  | i + 1 => t[i]? = some sectionSign ∧ ¬ IsConsumed t i

/-- A text ends in a section sign that no earlier one takes away. -/
def EndsUnpaired (t : List Char) : Prop :=
  t.getLast? = some sectionSign ∧ ¬ IsConsumed t (t.length - 1)

/-- What comes later in a text takes nothing away from what is before it. -/
lemma isConsumed_append {i : Nat} (h : i ≤ t.length) :
    IsConsumed (t ++ u) i ↔ IsConsumed t i := by
  induction i with
  | zero => exact Iff.rfl
  | succ i ih => rw [IsConsumed, IsConsumed, List.getElem?_append_left h, ih (Nat.le_of_lt h)]

/-- A text ends in a section sign of its own when the next character would be taken away. -/
lemma endsUnpaired_iff : EndsUnpaired t ↔ IsConsumed t t.length := by
  cases t with
  | nil => exact iff_of_false nofun id
  | cons c t =>
    rw [EndsUnpaired, List.getLast?_eq_getElem?]
    rfl

lemma endsUnpaired_concat : EndsUnpaired (t ++ [c]) ↔ c = sectionSign ∧ ¬ EndsUnpaired t := by
  rw [endsUnpaired_iff, endsUnpaired_iff, List.length_append, List.length_singleton, IsConsumed,
    isConsumed_append (Nat.le_refl _), List.getElem?_concat_length, Option.some_inj]

/-! ## Reading character by character -/

/-- What a reader keeps of a text, and whether the last sign still waits for its character. -/
structure CodeScan where
  kept : List Char
  isPending : Bool

namespace CodeScan

/-- Nothing is read yet. -/
def start : CodeScan := ⟨[], false⟩

/-- Reads a character.  A pending sign takes it away, whatever it is; a section sign waits for the
next one; all else is kept. -/
def read (s : CodeScan) (c : Char) : CodeScan :=
  if s.isPending then { s with isPending := false }
  else if c = sectionSign then { s with isPending := true }
  else { s with kept := s.kept ++ [c] }

/-- Reads a text. -/
def ofText (t : List Char) : CodeScan := t.foldl read start

/-- What is left at the end of a text: a sign that still waits stays. -/
def result (s : CodeScan) : List Char := if s.isPending then s.kept ++ [sectionSign] else s.kept

variable {s : CodeScan}

@[simp] lemma read_pending (kept : List Char) (c : Char) :
    read ⟨kept, true⟩ c = ⟨kept, false⟩ := rfl

@[simp] lemma read_sign (kept : List Char) :
    read ⟨kept, false⟩ sectionSign = ⟨kept, true⟩ := rfl

lemma read_of_ne (kept : List Char) (h : c ≠ sectionSign) :
    read ⟨kept, false⟩ c = ⟨kept ++ [c], false⟩ := if_neg h

lemma isPending_read : (s.read c).isPending = true ↔ c = sectionSign ∧ ¬ s.isPending = true := by
  obtain ⟨kept, _ | _⟩ := s
  · by_cases hc : c = sectionSign
    · subst hc
      simp
    · simp [read_of_ne kept hc, hc]
  · simp

lemma notMem_kept_read (h : sectionSign ∉ s.kept) : sectionSign ∉ (s.read c).kept := by
  obtain ⟨kept, _ | _⟩ := s
  · by_cases hc : c = sectionSign
    · subst hc
      exact h
    · rw [read_of_ne kept hc, List.mem_append, List.mem_singleton, not_or]
      exact ⟨h, Ne.symm hc⟩
  · exact h

lemma ofText_append (t u : List Char) : ofText (t ++ u) = u.foldl read (ofText t) :=
  List.foldl_append

lemma ofText_concat (t : List Char) (c : Char) : ofText (t ++ [c]) = (ofText t).read c :=
  ofText_append t [c]

/-- A sign waits at the end of a text when no earlier one takes it away. -/
lemma isPending_ofText : (ofText t).isPending = true ↔ EndsUnpaired t := by
  -- on the character read last: what was read before it takes it away or leaves it
  induction t using List.reverseRecOn with
  | nil => exact iff_of_false nofun nofun
  | append_singleton t c ih => rw [ofText_concat, isPending_read, endsUnpaired_concat, ih]

/-- No section sign is kept while the text goes on. -/
lemma notMem_kept_ofText (t : List Char) : sectionSign ∉ (ofText t).kept := by
  induction t using List.reverseRecOn with
  | nil => exact List.not_mem_nil
  | append_singleton t c ih =>
    rw [ofText_concat]
    exact notMem_kept_read ih

lemma eq_of_not_endsUnpaired (h : ¬ EndsUnpaired t) : ofText t = ⟨(ofText t).kept, false⟩ := by
  rw [← isPending_ofText, Bool.not_eq_true] at h
  rw [← h]

lemma eq_of_endsUnpaired (h : EndsUnpaired t) : ofText t = ⟨(ofText t).kept, true⟩ := by
  rw [← isPending_ofText.2 h]

lemma notMem_dropLast_result (h : sectionSign ∉ s.kept) : sectionSign ∉ s.result.dropLast := by
  obtain ⟨kept, _ | _⟩ := s
  · exact fun hmem => h (List.mem_of_mem_dropLast hmem)
  · rw [result, if_pos rfl, List.dropLast_concat]
    exact h

lemma getLast?_result (h : sectionSign ∉ s.kept) :
    s.result.getLast? = some sectionSign ↔ s.isPending = true := by
  obtain ⟨kept, _ | _⟩ := s
  · exact ⟨fun hlast => absurd (List.mem_of_getLast? hlast) h, nofun⟩
  · exact iff_of_true List.getLast?_concat rfl

end CodeScan

/-! ## Removing the codes -/

open CodeScan

/-- Behind what no sign waits for, a reader keeps what is left of the rest alone. -/
lemma result_foldl_read (kept t : List Char) :
    (t.foldl read ⟨kept, false⟩).result = kept ++ dropSectionCodes t := by
  fun_induction dropSectionCodes t generalizing kept with
  | case1 => exact (List.append_nil kept).symm
  | case2 c =>
    by_cases hc : c = sectionSign
    · subst hc
      rfl
    · rw [List.foldl_cons, read_of_ne kept hc]
      rfl
  | case3 d rest ih => exact ih kept
  | case4 c d rest hc ih =>
    rw [List.foldl_cons, read_of_ne kept hc, ih, List.append_assoc, List.singleton_append]

lemma dropSectionCodes_eq_result (t : List Char) : dropSectionCodes t = (ofText t).result :=
  (result_foldl_read [] t).symm

/-- A text with no section sign but at its end stays as it is. -/
lemma dropSectionCodes_eq_self (h : sectionSign ∉ t.dropLast) : dropSectionCodes t = t := by
  fun_induction dropSectionCodes t with
  | case1 => rfl
  | case2 c => rfl
  | case3 d rest ih => exact absurd List.mem_cons_self h
  | case4 c d rest hc ih =>
    rw [List.dropLast_cons_cons, List.mem_cons, not_or] at h
    rw [ih h.2]

lemma notMem_dropLast_dropSectionCodes (t : List Char) :
    sectionSign ∉ (dropSectionCodes t).dropLast := by
  rw [dropSectionCodes_eq_result]
  exact notMem_dropLast_result (notMem_kept_ofText t)

lemma getLast?_dropSectionCodes :
    (dropSectionCodes t).getLast? = some sectionSign ↔ EndsUnpaired t := by
  rw [dropSectionCodes_eq_result, getLast?_result (notMem_kept_ofText t), isPending_ofText]

lemma dropSectionCodes_append (h : ¬ EndsUnpaired t) (u : List Char) :
    dropSectionCodes (t ++ u) = dropSectionCodes t ++ dropSectionCodes u := by
  rw [dropSectionCodes_eq_result (t ++ u), ofText_append, dropSectionCodes_eq_result t,
    eq_of_not_endsUnpaired h, result_foldl_read]
  rfl

/-- A section sign that waits takes what comes behind the text away. -/
lemma dropSectionCodes_concat (h : EndsUnpaired t) (c : Char) :
    dropSectionCodes t = dropSectionCodes (t ++ [c]) ++ [sectionSign] := by
  rw [dropSectionCodes_eq_result (t ++ [c]), ofText_concat, dropSectionCodes_eq_result t,
    eq_of_endsUnpaired h]
  rfl

lemma dropSectionCodes_append_iff :
    (∀ u, dropSectionCodes (t ++ u) = dropSectionCodes t ++ dropSectionCodes u) ↔
      ¬ EndsUnpaired t := by
  refine ⟨fun happend h => ?_, dropSectionCodes_append⟩
  -- together with one more sign the last one is a code and goes, apart from it both stay
  have hone := dropSectionCodes_concat h sectionSign
  rw [happend [sectionSign], List.append_assoc] at hone
  exact List.cons_ne_nil _ _ (List.self_eq_append_right.1 hone)

/-! ## Texts -/

lemma toList_stripSectionCodes (s : String) :
    (stripSectionCodes s).toList = dropSectionCodes s.toList :=
  String.toList_ofList

/-- Texts are put together before or after their codes are removed when their characters are. -/
lemma stripSectionCodes_append_iff (a b : String) :
    stripSectionCodes (a ++ b) = stripSectionCodes a ++ stripSectionCodes b ↔
      dropSectionCodes (a.toList ++ b.toList) =
        dropSectionCodes a.toList ++ dropSectionCodes b.toList := by
  rw [← String.toList_inj, String.toList_append, toList_stripSectionCodes, toList_stripSectionCodes,
    toList_stripSectionCodes, String.toList_append]

/-- What is left of a text without its section codes is what a reader keeps who goes through it from
left to right.  It holds no section sign but at its end, and one there exactly when the text ends in
one that no earlier one takes away.  Removing the codes once more changes nothing.  When the text
does not end so, and only then, its codes and those of any text behind it can be removed apart. -/
theorem stripSectionCodes_eq_scan (t : String) :
    stripSectionCodes t = String.ofList (CodeScan.ofText t.toList).result ∧
    sectionSign ∉ (stripSectionCodes t).toList.dropLast ∧
    ((stripSectionCodes t).toList.getLast? = some sectionSign ↔ EndsUnpaired t.toList) ∧
    stripSectionCodes (stripSectionCodes t) = stripSectionCodes t ∧
    ((∀ b, stripSectionCodes (t ++ b) = stripSectionCodes t ++ stripSectionCodes b) ↔
      ¬ EndsUnpaired t.toList) := by
  have hdropLast := notMem_dropLast_dropSectionCodes t.toList
  refine ⟨?_, ?_, ?_, ?_, ?_⟩
  · rw [stripSectionCodes, dropSectionCodes_eq_result]
  · rwa [toList_stripSectionCodes]
  · rw [toList_stripSectionCodes, getLast?_dropSectionCodes]
  · rw [stripSectionCodes, toList_stripSectionCodes, dropSectionCodes_eq_self hdropLast,
      stripSectionCodes]
  · simp only [stripSectionCodes_append_iff, ← dropSectionCodes_append_iff]
    refine ⟨fun h u => ?_, fun h b => h b.toList⟩
    have hu := h (String.ofList u)
    rwa [String.toList_ofList] at hu

/-- Of three signs in a row the last one stays, and takes nothing from what is put behind it later. -/
example : stripSectionCodes "§§§" ++ stripSectionCodes "a" = "§a" ∧
    stripSectionCodes ("§§§" ++ "a") = "" := by decide

end FeedWatch.Text
