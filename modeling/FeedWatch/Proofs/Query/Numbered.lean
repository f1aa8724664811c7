import FeedWatch.Query.Compile
import Mathlib.Data.List.Induction
import Mathlib.Data.Nat.Digits.Defs
import Mathlib.Tactic.Common

/-!
# Texts that end in a number

`Numbered text key n sign` says directly of a text that it is a name, a whole number and the sign of
a comparison, without telling how the number is found.  The number takes all that can belong to it:
no digit and no minus stand before it.  `NumericSuffix.split?` reads the text backwards;
`split?_sound` and `split?_complete` show that it finds exactly the numbers that `Numbered` speaks
of, so a text is numbered in at most one way (`Numbered.unique`).
-/

namespace FeedWatch

/-- The number that decimal digits denote, the last of which counts ones. -/
def decimalValue (digits : List Char) : Nat :=
  Nat.ofDigits 10 (digits.reverse.map fun c => c.toNat - '0'.toNat)

/-- A run of ASCII digits. -/
def IsDigits (digits : List Char) : Prop := digits ≠ [] ∧ ∀ c ∈ digits, '0' ≤ c ∧ c ≤ '9'

/-- What may stand behind a number to select a comparison. -/
inductive IsSign : List Char → Prop where
  | plus : IsSign ['+']
  | minus : IsSign ['-']
  | none : IsSign []

/-- A text that is a name, a whole number that takes all that can belong to it, and a sign. -/
inductive Numbered : List Char → List Char → Int → List Char → Prop where
  | plain {key digits sign} :
    IsDigits digits →
    IsSign sign →
    (∀ c, key.getLast? = some c → ¬ ('0' ≤ c ∧ c ≤ '9') ∧ c ≠ '-') →
    Numbered (key ++ digits ++ sign) key (decimalValue digits) sign
  | minus {key digits sign} :
    IsDigits digits →
    IsSign sign →
    Numbered (key ++ '-' :: digits ++ sign) key (-(decimalValue digits : Int)) sign

/-! ## Digits -/

lemma isAsciiDigit_iff {c : Char} : Text.isAsciiDigit c = true ↔ '0' ≤ c ∧ c ≤ '9' := by
  simp [Text.isAsciiDigit]

lemma IsDigits.all {digits} (h : IsDigits digits) : ∀ c ∈ digits, Text.isAsciiDigit c = true :=
  fun c hc => isAsciiDigit_iff.2 (h.2 c hc)

lemma IsDigits.reverse {digits} (h : IsDigits digits) : IsDigits digits.reverse :=
  ⟨by simpa using h.1, fun c hc => h.2 c (List.mem_reverse.1 hc)⟩

/-- The value that is built up from the front is the decimal value. -/
lemma digitsValue_eq (digits : List Char) : digitsValue digits = decimalValue digits := by
  unfold digitsValue decimalValue
  induction digits using List.reverseRecOn with
  | nil => rfl
  | append_singleton digits c ih =>
    simp only [List.foldl_append, List.foldl_cons, List.foldl_nil, ih, List.reverse_append,
      List.reverse_cons, List.reverse_nil, List.nil_append, List.cons_append, List.map_cons,
      Nat.ofDigits_cons]
    omega

/-- A number with at most as many digits as can be read is its decimal value. -/
lemma signedInteger_ok {negative : Bool} {digits : List Char} {n : Int}
    (h : signedInteger negative digits = .ok n) :
    n = if negative then -(decimalValue digits : Int) else decimalValue digits := by
  unfold signedInteger at h
  split at h
  · cases h
  · simpa [digitsValue_eq, eq_comm] using h

namespace NumericSuffix

/-! ## Reading from the end -/

/-- The sign at the end, or none if the text ends in neither sign. -/
lemma comparatorBackwards_eq {back rest : List Char} {c : Comparator}
    (h : comparatorBackwards back = (c, rest)) : back = c.sign.toList ++ rest := by
  unfold comparatorBackwards at h
  split at h <;> cases h <;> rfl

/-- A digit behind the sign lets the sign be found. -/
lemma comparatorBackwards_append {c : Comparator} {d : Char} {rest : List Char}
    (h : '0' ≤ d ∧ d ≤ '9') :
    comparatorBackwards (c.sign.toList ++ d :: rest) = (c, d :: rest) := by
  cases c with
  | atLeast => rfl
  | atMost => rfl
  | equal =>
    have hplus : d ≠ '+' := by rintro rfl; revert h; decide
    have hminus : d ≠ '-' := by rintro rfl; revert h; decide
    simp [Comparator.sign, comparatorBackwards, hplus, hminus]

lemma minusBackwards_eq {back rest : List Char} {negative : Bool}
    (h : minusBackwards back = (negative, rest)) :
    back = (if negative then ['-'] else []) ++ rest ∧
      (negative = false → rest.head? ≠ some '-') := by
  unfold minusBackwards at h
  split at h
  · cases h; exact ⟨rfl, nofun⟩
  · rename_i hne
    cases h
    refine ⟨rfl, fun _ hh => ?_⟩
    obtain ⟨tail, e⟩ := List.head?_eq_some_iff.1 hh
    exact hne tail e

lemma minusBackwards_of_head? {back : List Char} (h : back.head? ≠ some '-') :
    minusBackwards back = (false, back) := by
  unfold minusBackwards
  split
  · exact absurd rfl h
  · rfl

/-- A comparator is known by its sign. -/
lemma isSign_sign (c : Comparator) : IsSign c.sign.toList := by
  cases c
  · exact .plus
  · exact .minus
  · exact .none

/-- Every sign selects a comparator. -/
lemma exists_comparator {sign : List Char} (h : IsSign sign) :
    ∃ c : Comparator, c.sign.toList = sign := by
  cases h
  · exact ⟨.atLeast, rfl⟩
  · exact ⟨.atMost, rfl⟩
  · exact ⟨.equal, rfl⟩

/-- A sign reads the same from both ends. -/
lemma reverse_sign (c : Comparator) : c.sign.toList.reverse = c.sign.toList := by
  cases c <;> rfl

/-- The integer of a suffix, however many digits it has. -/
def number (s : NumericSuffix) : Int :=
  if s.negative then -(decimalValue s.digits : Int) else decimalValue s.digits

/-- What is taken apart at the end of a text are all the digits there, with a sign or none behind
them; the minus is looked for in front of them. -/
lemma split?_eq_some {text : List Char} {s : NumericSuffix} (h : split? text = some s) :
    ∃ front, text = front ++ s.digits ++ s.comparator.sign.toList ∧ IsDigits s.digits ∧
      (∀ c, front.getLast? = some c → ¬ ('0' ≤ c ∧ c ≤ '9')) ∧
      minusBackwards front.reverse = (s.negative, s.key.reverse) := by
  rw [split?] at h
  generalize hback : comparatorBackwards text.reverse = r at h
  obtain ⟨c, back⟩ := r
  dsimp only at h
  split_ifs at h with hempty
  cases h
  refine ⟨(back.dropWhile Text.isAsciiDigit).reverse, ?_, ⟨?_, fun d hd => ?_⟩, fun d hd => ?_, ?_⟩
  · rw [← reverse_sign, ← List.reverse_append, List.takeWhile_append_dropWhile,
      ← List.reverse_append, ← comparatorBackwards_eq hback, List.reverse_reverse]
  · simpa using hempty
  · exact isAsciiDigit_iff.1 (List.all_eq_true.1 List.all_takeWhile d (List.mem_reverse.1 hd))
  · rw [List.getLast?_reverse] at hd
    have hnot := List.head?_dropWhile_not Text.isAsciiDigit back
    rw [hd] at hnot
    exact fun hdigit => Bool.false_ne_true (hnot.symm.trans (isAsciiDigit_iff.2 hdigit))
  · rw [List.reverse_reverse, List.reverse_reverse]

/-- What is taken apart at the end is a number with all that belongs to it. -/
lemma split?_sound {text : List Char} {s : NumericSuffix} (h : split? text = some s) :
    Numbered text s.key s.number s.comparator.sign.toList := by
  obtain ⟨front, rfl, hdigits, hlast, hminus⟩ := split?_eq_some h
  obtain ⟨hfront, hkey⟩ := minusBackwards_eq hminus
  obtain rfl := List.reverse_eq_iff.1 hfront
  rw [List.reverse_append, List.reverse_reverse] at hlast ⊢
  obtain ⟨key, negative, digits, c⟩ := s
  cases negative with
  | true =>
    have hnumbered : Numbered _ key _ _ := .minus hdigits (isSign_sign c)
    simpa [number] using hnumbered
  | false =>
    rw [List.head?_reverse] at hkey
    have hnumbered : Numbered _ key _ _ := .plain hdigits (isSign_sign c) fun d hd =>
      ⟨hlast d (by simpa using hd), fun hd' => hkey rfl (hd' ▸ hd)⟩
    simpa [number] using hnumbered

/-- Splitting finds the digits that stand before a sign, and leaves the rest to the minus. -/
lemma split?_append {front digits : List Char} {c : Comparator} (hd : IsDigits digits)
    (hf : ∀ d, front.getLast? = some d → ¬ ('0' ≤ d ∧ d ≤ '9')) :
    split? (front ++ digits ++ c.sign.toList) = some
      { key := (minusBackwards front.reverse).2.reverse
        negative := (minusBackwards front.reverse).1, digits, comparator := c } := by
  have hback : comparatorBackwards (front ++ digits ++ c.sign.toList).reverse =
      (c, digits.reverse ++ front.reverse) := by
    obtain ⟨d, ds, e⟩ := List.exists_cons_of_ne_nil hd.reverse.1
    rw [List.reverse_append, List.reverse_append, reverse_sign, e, List.cons_append]
    exact comparatorBackwards_append (hd.reverse.2 d (e ▸ List.mem_cons_self))
  have hhead : front.reverse.takeWhile Text.isAsciiDigit = [] := by
    cases hr : front.reverse with
    | nil => rfl
    | cons d ds =>
      have hlast : front.getLast? = some d := by
        rw [← List.head?_reverse, hr, List.head?_cons]
      have := mt isAsciiDigit_iff.1 (hf d hlast)
      simp [this]
  have htake : (digits.reverse ++ front.reverse).takeWhile Text.isAsciiDigit = digits.reverse := by
    rw [List.takeWhile_append_of_pos hd.reverse.all, hhead, List.append_nil]
  have hdrop : (digits.reverse ++ front.reverse).dropWhile Text.isAsciiDigit = front.reverse := by
    have := List.takeWhile_append_dropWhile (p := Text.isAsciiDigit) (l := front.reverse)
    rw [List.dropWhile_append_of_pos hd.reverse.all]
    rwa [hhead, List.nil_append] at this
  unfold split?
  rw [hback]
  simp only [htake, hdrop, List.isEmpty_iff, hd.reverse.1, if_false, List.reverse_reverse]

/-- A number at the end, with all that belongs to it, is what is taken apart. -/
lemma split?_complete {text key sign : List Char} {n : Int} (h : Numbered text key n sign) :
    ∃ s, split? text = some s ∧ s.key = key ∧ s.number = n ∧ s.comparator.sign.toList = sign := by
  cases h with
  | @plain _ digits _ hd hs hk =>
    obtain ⟨c, rfl⟩ := exists_comparator hs
    have hm : minusBackwards key.reverse = (false, key.reverse) := by
      apply minusBackwards_of_head?
      rw [List.head?_reverse]
      intro e
      exact (hk '-' e).2 rfl
    refine ⟨_, split?_append hd (fun d e => (hk d e).1), ?_, ?_, rfl⟩
    · simp [hm]
    · simp [hm, number]
  | @minus _ digits _ hd hs =>
    obtain ⟨c, rfl⟩ := exists_comparator hs
    have hminus : ∀ d, (key ++ ['-']).getLast? = some d → ¬ ('0' ≤ d ∧ d ≤ '9') := by
      intro d e
      simp only [List.getLast?_append, List.getLast?_singleton, Option.some_or,
        Option.some.injEq] at e
      subst e
      decide
    have hsplit := @split?_append _ _ c hd hminus
    rw [List.append_assoc key, List.singleton_append] at hsplit
    refine ⟨_, hsplit, ?_, ?_, rfl⟩
    · simp [minusBackwards]
    · simp [minusBackwards, number]

/-- A text that is not taken apart ends in no number. -/
lemma not_numbered_of_split?_eq_none {text : List Char} (h : split? text = none)
    (key : List Char) (n : Int) (sign : List Char) : ¬ Numbered text key n sign := by
  intro hn
  obtain ⟨s, hs, -⟩ := split?_complete hn
  rw [h] at hs
  cases hs

end NumericSuffix

/-- A text ends in at most one number. -/
lemma Numbered.unique {text key₁ key₂ sign₁ sign₂ : List Char} {n₁ n₂ : Int}
    (h₁ : Numbered text key₁ n₁ sign₁) (h₂ : Numbered text key₂ n₂ sign₂) :
    key₁ = key₂ ∧ n₁ = n₂ ∧ sign₁ = sign₂ := by
  obtain ⟨s₁, e₁, rfl, rfl, rfl⟩ := NumericSuffix.split?_complete h₁
  obtain ⟨s₂, e₂, rfl, rfl, rfl⟩ := NumericSuffix.split?_complete h₂
  cases e₁.symm.trans e₂
  exact ⟨rfl, rfl, rfl⟩

end FeedWatch
