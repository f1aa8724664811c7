import FeedWatch.Text.Template
import Mathlib.Data.List.TakeWhile
import Mathlib.Tactic.Common

/-!
# Templates that can be filled

A template that holds nothing but plain text, doubled braces and one field, a name between two
braces, has a text for every value of that name.  Main statement: `fillTemplate_of_holdsOnly`.
-/

namespace FeedWatch.Text

open Template

/-- A template of plain text, doubled braces and fields of one name. -/
inductive HoldsOnly (name : List Char) : List Char → Prop where
  | nil : HoldsOnly name []
  | char {c t} :
    c ≠ '\x7b' →
    c ≠ '\x7d' →
    HoldsOnly name t →
    HoldsOnly name (c :: t)
  | braces {c t} :
    c = '\x7b' ∨ c = '\x7d' →
    HoldsOnly name t →
    HoldsOnly name (c :: c :: t)
  | field {t} :
    HoldsOnly name t →
    HoldsOnly name ('\x7b' :: (name ++ '\x7d' :: t))

/-- A name that stands for itself in a field: no character ends it, picks a part of its value or
starts a position. -/
structure IsFieldName (name : List Char) : Prop where
  nonempty : name ≠ []
  plain : (name.all fun c => !List.contains ['\x7b', '\x7d', ':', '!', '[', '.'] c) = true
  position : position? name = .ok none

/-- A piece that is text, or a field of a name and nothing else. -/
inductive Piece.Fills (name : List Char) : Piece → Prop where
  | text {s} : Fills name (.text s)
  | field : Fills name (.field name none [])

variable {name : List Char} {t : List Char} {fuel : Nat}

lemma IsFieldName.notMem {c : Char} (h : IsFieldName name) (hc : c ∈ name) :
    c ∉ ['\x7b', '\x7d', ':', '!', '[', '.'] := by
  have := List.all_eq_true.1 h.plain c hc
  simpa using this

lemma HoldsOnly.plain_append {s : List Char}
    (hs : (s.all fun c => c != '\x7b' && c != '\x7d') = true) (h : HoldsOnly name t) :
    HoldsOnly name (s ++ t) := by
  induction s with
  | nil => exact h
  | cons c s ih =>
    rw [List.all_cons, Bool.and_eq_true, Bool.and_eq_true, bne_iff_ne, bne_iff_ne] at hs
    exact .char hs.1.1 hs.1.2 (ih hs.2)

/-! ## The pieces of such a template -/

lemma readName_append (h : IsFieldName name) :
    readName false (name ++ '\x7d' :: t) = .ok (name, '\x7d', t) := by
  have hplain : ∀ c ∈ name, c ∉ ['\x7b', '\x7d', ':', '!', '[', '.'] := fun c hc => h.notMem hc
  clear h
  induction name with
  | nil => rfl
  | cons c name ih =>
    obtain ⟨hc, hname⟩ := List.forall_mem_cons.1 hplain
    simp only [List.mem_cons, List.not_mem_nil, not_or] at hc
    have hbracket : (c == '[') = false := by simp [hc]
    simp only [List.cons_append, readName, hc, hbracket, ih hname]
    rfl

lemma readField_append (h : IsFieldName name) :
    readField (name ++ '\x7d' :: t) = .ok (.field name none [], t) := by
  simp only [readField, readName_append h]
  rfl

/-- A plain character in front changes no piece but the text it joins. -/
lemma fills_cons {c : Char} (hopen : c ≠ '\x7b') (hclose : c ≠ '\x7d')
    (h : ∀ piece ∈ piecesFrom fuel t, Piece.Fills name piece) :
    ∀ piece ∈ piecesFrom fuel (c :: t), Piece.Fills name piece := by
  cases fuel with
  | zero => exact h
  | succ fuel =>
    have hplain : (c != '\x7b' && c != '\x7d') = true := by simp [hopen, hclose]
    have htake := List.takeWhile_cons_of_pos (p := fun c => c != '\x7b' && c != '\x7d')
      (a := c) (l := t) hplain
    have hdrop := List.dropWhile_cons_of_pos (p := fun c => c != '\x7b' && c != '\x7d')
      (a := c) (l := t) hplain
    rw [piecesFrom, htake, hdrop]
    rw [piecesFrom] at h
    -- the text in front is the only thing that differs
    generalize t.takeWhile _ = before at h ⊢
    generalize t.dropWhile _ = stop at h ⊢
    cases stop with
    | nil => exact List.forall_mem_singleton.2 .text
    | cons a rest =>
      cases rest with
      | nil =>
        by_cases hopen : a = '\x7b'
        · subst hopen
          exact h
        · by_cases hclose : a = '\x7d'
          · subst hclose
            exact h
          · simp
      | cons b rest =>
        simp only at h ⊢
        split_ifs at h ⊢ with hsame hbrace
        · rw [List.forall_mem_cons] at h ⊢
          exact ⟨.text, h.2⟩
        · exact h
        · cases hfield : readField (b :: rest) with
          | error fault =>
            rw [hfield] at h
            exact h
          | ok r =>
            rw [hfield] at h
            simp only [List.forall_mem_cons] at h ⊢
            exact ⟨.text, h.2⟩

lemma fills_pieces (hname : IsFieldName name) (h : HoldsOnly name t) (hfuel : t.length < fuel) :
    ∀ piece ∈ piecesFrom fuel t, Piece.Fills name piece := by
  obtain ⟨fuel, rfl⟩ := Nat.exists_eq_add_one_of_ne_zero (Nat.ne_zero_of_lt hfuel)
  induction h generalizing fuel with
  | nil => exact List.forall_mem_singleton.2 .text
  | char hopen hclose _ ih => exact fills_cons hopen hclose (ih fuel (Nat.lt_of_succ_lt hfuel))
  | @braces c t hc _ ih =>
    have hstop : (c != '\x7b' && c != '\x7d') = false := by
      obtain rfl | rfl := hc
      · rfl
      · rfl
    have hfuel' : t.length < fuel := by
      simp only [List.length_cons] at hfuel
      omega
    obtain ⟨fuel, rfl⟩ := Nat.exists_eq_add_one_of_ne_zero (Nat.ne_zero_of_lt hfuel')
    have htake := List.takeWhile_cons_of_neg (p := fun c => c != '\x7b' && c != '\x7d')
      (a := c) (l := c :: t) (by simp [hstop])
    have hdrop := List.dropWhile_cons_of_neg (p := fun c => c != '\x7b' && c != '\x7d')
      (a := c) (l := c :: t) (by simp [hstop])
    rw [piecesFrom, htake, hdrop]
    simp only [if_true]
    exact List.forall_mem_cons.2 ⟨.text, ih fuel hfuel'⟩
  | @field t _ ih =>
    obtain ⟨d, rest, rfl⟩ := List.exists_cons_of_ne_nil hname.nonempty
    have hd := hname.notMem List.mem_cons_self
    have hne : '\x7b' ≠ d := by
      rintro rfl
      exact hd List.mem_cons_self
    have hfuel' : t.length < fuel := by
      simp only [List.length_cons, List.length_append] at hfuel
      omega
    obtain ⟨fuel, rfl⟩ := Nat.exists_eq_add_one_of_ne_zero (Nat.ne_zero_of_lt hfuel')
    have hread := readField_append (t := t) hname
    rw [List.cons_append] at hread ⊢
    rw [piecesFrom]
    simp only [bne_self_eq_false, Bool.false_and, List.takeWhile_cons, List.dropWhile_cons,
      Bool.false_eq_true, if_false, if_neg hne, hread]
    refine List.forall_mem_cons.2 ⟨.text, List.forall_mem_cons.2 ⟨.field, ?_⟩⟩
    exact ih fuel hfuel'

/-! ## Their values -/

lemma fieldValue_self (value : String) (h : IsFieldName name) :
    fieldValue [(String.ofList name, value)] name none = .ok (.text value.toList) := by
  have htake : name.takeWhile (fun c => c != '.' && c != '[') = name := by
    refine List.takeWhile_eq_self_iff.2 fun c hc => ?_
    have := h.notMem hc
    simp only [List.mem_cons, not_or] at this
    simp [this]
  simp only [fieldValue, htake, h.position, List.drop_length]
  simp [h.nonempty, access]

lemma fill_of_fills (value : String) (depth : Nat) (hname : IsFieldName name)
    (h : ∀ piece ∈ pieces t, Piece.Fills name piece) :
    ∃ s, fill (depth + 1) [(String.ofList name, value)] t = .ok s := by
  rw [fill]
  generalize pieces t = ps at h
  generalize ([] : List Char) = written
  induction ps generalizing written with
  | nil => exact ⟨written, rfl⟩
  | cons piece ps ih =>
    obtain ⟨hpiece, hps⟩ := List.forall_mem_cons.1 h
    rw [List.foldlM_cons]
    cases hpiece with
    | @text s => exact ih hps (written ++ s)
    | field =>
      obtain ⟨s, hs⟩ := ih hps (written ++ value.toList)
      refine ⟨s, ?_⟩
      simp only [fieldValue_self value hname]
      exact hs

/-- A template that holds only one field has a text for every value of its name. -/
lemma fillTemplate_of_holdsOnly {template : String} (value : String) (hname : IsFieldName name)
    (h : HoldsOnly name template.toList) :
    ∃ s, fillTemplate template [(String.ofList name, value)] = .ok s := by
  obtain ⟨s, hs⟩ := fill_of_fills value 1 hname (fills_pieces hname h (Nat.lt_succ_self _))
  exact ⟨String.ofList s, by rw [fillTemplate, hs]; rfl⟩

end FeedWatch.Text
