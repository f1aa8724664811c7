import FeedWatch.Json.Printer
import FeedWatch.Json.Reader
import Mathlib.Tactic.Common
import Mathlib.Tactic.IntervalCases

/-!
# Reading written texts

A written text holds every character either as itself or as an escape, and the reader turns each of
them back into the character.  `Gives step s a rest` says what a reading step gives and leaves of
a text.  Main statement: reading the body of a written text gives the text
(`textBody_escaped`).
-/

namespace FeedWatch.Json

/-- A reading step gives a result of a text and leaves a rest. -/
def Gives {α : Type} (step : (s : List Char) → Step α s) (s : List Char) (a : α)
    (rest : List Char) : Prop :=
  ∃ h, step s = .ok (a, ⟨rest, h⟩)

/-! ## Hexadecimal digits -/

lemma hexValue?_digitChar {d : Nat} (h : d < 16) : hexValue? d.digitChar = some d := by
  interval_cases d <;> rfl

/-- Four digits are enough for a unit, and its smaller digits come last. -/
lemma hex_four {n : Nat} (h : n < 0x10000) :
    Text.hex 4 n = [(n / 4096).digitChar, (n / 256 % 16).digitChar, (n / 16 % 16).digitChar,
      (n % 16).digitChar] := by
  unfold Text.hex
  rw [Nat.toDigits_eq_if (by decide)]
  split
  · simp [show n / 4096 = 0 by omega, show n / 256 % 16 = 0 by omega,
      show n / 16 % 16 = 0 by omega, show n % 16 = n by omega, List.replicate]
  rw [Nat.toDigits_eq_if (by decide)]
  split
  · simp [show n / 4096 = 0 by omega, show n / 256 % 16 = 0 by omega,
      show n / 16 % 16 = n / 16 by omega, List.replicate]
  rw [Nat.toDigits_eq_if (by decide)]
  split
  · simp [show n / 4096 = 0 by omega, show n / 256 % 16 = n / 16 / 16 by omega]
  rw [Nat.toDigits_of_lt_base (by omega)]
  simp [show n / 4096 = n / 16 / 16 / 16 by omega, show n / 256 % 16 = n / 16 / 16 % 16 by omega]

/-- The digits of a unit are read back as the unit. -/
lemma hexUnit?_digits {n : Nat} (h : n < 0x10000) :
    hexUnit? (n / 4096).digitChar (n / 256 % 16).digitChar (n / 16 % 16).digitChar
      (n % 16).digitChar = some n := by
  unfold hexUnit?
  rw [hexValue?_digitChar (by omega), hexValue?_digitChar (by omega),
    hexValue?_digitChar (by omega), hexValue?_digitChar (by omega)]
  simp only [Option.bind_eq_bind, Option.bind_some, Option.pure_def, Option.some.injEq]
  omega

/-! ## Escapes -/

/-- A unit that is no first half stands alone, whatever follows. -/
lemma joinPair_alone {unit : Nat} {s : List Char} (h : isHighHalf unit = false) :
    joinPair unit s = .ok (unitChar unit, ⟨s, Nat.le_refl _⟩) := by
  unfold joinPair
  split
  · rw [h]
    rfl
  · rfl

/-- A first half is joined with the escape of a second half. -/
lemma joinPair_pair {high low : Nat} {e : Char} {rest : List Char} (hh : isHighHalf high = true)
    (hl : isLowHalf low = true) (hlow : low < 0x10000) :
    ∃ h, joinPair high (unitEscape low ++ e :: rest) =
      .ok (pairChar high low, ⟨e :: rest, h⟩) := by
  rw [unitEscape, hex_four hlow]
  refine ⟨by simp, ?_⟩
  simp only [List.cons_append, List.nil_append, joinPair, hh, if_true, hexUnit?_digits hlow, hl]

lemma escape_unit {opened n : Nat} {e : Char} {c : Char} {s rest : List Char} (hn : n < 0x10000)
    (hj : ∃ h, joinPair n (e :: s) = .ok (c, ⟨rest, h⟩)) :
    Gives (escape opened) ('u' :: Text.hex 4 n ++ e :: s) c rest := by
  obtain ⟨h, hj⟩ := hj
  rw [hex_four hn]
  refine ⟨by simp at h ⊢; omega, ?_⟩
  simp only [List.cons_append, List.nil_append, escape, if_true, hexUnit?_digits hn, hj]

lemma escape_short {opened : Nat} {letter c : Char} {s : List Char} (hu : letter ≠ 'u')
    (hs : shortEscape? letter = some c) : Gives (escape opened) (letter :: s) c s := by
  refine ⟨by simp, ?_⟩
  unfold escape
  simp only [hu, if_false, hs]

/-! ## Bodies of texts -/

/-- The closing quote ends a text. -/
lemma textBody_close {opened : Nat} {rest : List Char} :
    Gives (textBody opened) ('\x22' :: rest) [] rest := by
  rw [Gives, textBody, if_pos rfl]
  exact ⟨_, rfl⟩

/-- A character that needs no escape stands for itself. -/
lemma textBody_plain {opened : Nat} {c : Char} {s cs rest : List Char} (hq : c ≠ '\x22')
    (hb : c ≠ '\\') (hc : ¬ c.toNat < 0x20) (h : Gives (textBody opened) s cs rest) :
    Gives (textBody opened) (c :: s) (c :: cs) rest := by
  obtain ⟨_, h⟩ := h
  rw [Gives, textBody, if_neg hq, if_neg hb, if_neg hc, h]
  exact ⟨_, rfl⟩

/-- An escape stands for the character that it gives. -/
lemma textBody_escape {opened : Nat} {c : Char} {s s' cs rest : List Char}
    (he : Gives (escape opened) s c s') (h : Gives (textBody opened) s' cs rest) :
    Gives (textBody opened) ('\\' :: s) (c :: cs) rest := by
  obtain ⟨h₁, he⟩ := he
  obtain ⟨h₂, h⟩ := h
  refine ⟨by simp only [List.length_cons]; omega, ?_⟩
  rw [textBody, if_neg (by decide), if_pos rfl, he]
  simp only [h]

/-- The code points of characters leave out the halves of pairs. -/
lemma toNat_range (c : Char) : c.toNat < 0xd800 ∨ 0xdfff < c.toNat ∧ c.toNat < 0x110000 := c.valid

/-- A character that a unit can hold stands alone as that unit. -/
lemma unitChar_toNat (c : Char) : unitChar c.toNat = c := by
  have := toNat_range c
  rw [unitChar, if_neg (by simp only [Bool.and_eq_true, decide_eq_true_eq]; omega),
    Char.ofNat_toNat]

/-- The two halves of a character beyond the basic plane are joined to the character. -/
lemma pairChar_halves {c : Char} (h : 0x10000 ≤ c.toNat) :
    pairChar (0xd800 + (c.toNat - 0x10000) / 0x400) (0xdc00 + (c.toNat - 0x10000) % 0x400) = c := by
  rw [pairChar, show 0x10000 + (0xd800 + (c.toNat - 0x10000) / 0x400 - 0xd800) * 0x400 +
    (0xdc00 + (c.toNat - 0x10000) % 0x400 - 0xdc00) = c.toNat by omega, Char.ofNat_toNat]

/-- Each written character is read back as the character. -/
lemma textBody_escapedChar {opened : Nat} {c e : Char} {s cs rest : List Char}
    (h : Gives (textBody opened) (e :: s) cs rest) :
    Gives (textBody opened) (escapedChar c ++ e :: s) (c :: cs) rest := by
  generalize hx : escapedChar c = x
  unfold escapedChar at hx
  split_ifs at hx with hq hb hn hr ht hf hbs hplain hunit <;> subst hx
  · subst hq
    exact textBody_escape (escape_short (by decide) rfl) h
  · subst hb
    exact textBody_escape (escape_short (by decide) rfl) h
  · subst hn
    exact textBody_escape (escape_short (by decide) rfl) h
  · subst hr
    exact textBody_escape (escape_short (by decide) rfl) h
  · subst ht
    exact textBody_escape (escape_short (by decide) rfl) h
  · subst hf
    exact textBody_escape (escape_short (by decide) rfl) h
  · subst hbs
    exact textBody_escape (escape_short (by decide) rfl) h
  · simp only [Bool.and_eq_true, decide_eq_true_eq] at hplain
    exact textBody_plain hq hb (by omega) h
  · have := toNat_range c
    have hhigh : isHighHalf c.toNat = false := by
      simp only [isHighHalf, Bool.and_eq_false_iff, decide_eq_false_iff_not]
      omega
    refine textBody_escape (escape_unit hunit ⟨?_, ?_⟩) h
    · exact Nat.le_refl _
    · rw [joinPair_alone hhigh, unitChar_toNat]
  · have := toNat_range c
    have hhigh : isHighHalf (0xd800 + (c.toNat - 0x10000) / 0x400) = true := by
      simp only [isHighHalf, Bool.and_eq_true, decide_eq_true_eq]
      omega
    have hlow : isLowHalf (0xdc00 + (c.toNat - 0x10000) % 0x400) = true := by
      simp only [isLowHalf, Bool.and_eq_true, decide_eq_true_eq]
      omega
    have hj := @joinPair_pair _ _ e s hhigh hlow (by omega)
    rw [pairChar_halves (by omega)] at hj
    rw [List.append_assoc]
    exact textBody_escape (escape_unit (by omega) hj) h

/-- Reading the body of a written text gives the text. -/
lemma textBody_escaped {opened : Nat} (cs rest : List Char) :
    Gives (textBody opened) (cs.flatMap escapedChar ++ '\x22' :: rest) cs rest := by
  induction cs with
  | nil => exact textBody_close
  | cons c cs ih =>
    rw [List.flatMap_cons, List.append_assoc]
    generalize hs : cs.flatMap escapedChar ++ '\x22' :: rest = s at ih
    cases s with
    | nil => simp at hs
    | cons e s => exact textBody_escapedChar ih

end FeedWatch.Json
