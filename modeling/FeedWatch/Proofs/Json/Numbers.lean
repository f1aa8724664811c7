import FeedWatch.Proofs.Json.Plain

/-!
# Reading numbers

A number is read part by part: whole digits, decimal places and a power of ten.  Main statements: a
numeral with given parts is read as the number that they make (`unsigned_parts`), and so a written
integer is read back (`scalar_int`), and what has decimal places or a power of ten is read as a
binary64 number (`scalar_of_isReal`).
-/

namespace FeedWatch.Json

/-- What may stand behind digits: nothing that they could go on with. -/
def EndsDigits (rest : List Char) : Prop :=
  ∀ c, rest.head? = some c → Text.isAsciiDigit c = false

/-- What may stand behind decimal places, there or not: neither a digit nor a point. -/
def EndsPlaces (rest : List Char) : Prop :=
  ∀ c, rest.head? = some c → Text.isAsciiDigit c = false ∧ c ≠ '.'

/-- What may stand behind a number: nothing that the number could go on with. -/
def EndsNumber (rest : List Char) : Prop :=
  ∀ c, rest.head? = some c → Text.isAsciiDigit c = false ∧ c ≠ '.' ∧ c ≠ 'e' ∧ c ≠ 'E'

lemma EndsPlaces.endsDigits {rest : List Char} (h : EndsPlaces rest) : EndsDigits rest :=
  fun c hc => (h c hc).1

lemma EndsNumber.endsPlaces {rest : List Char} (h : EndsNumber rest) : EndsPlaces rest :=
  fun c hc => ⟨(h c hc).1, (h c hc).2.1⟩

/-! ## Parts -/

/-- Some digits, and nothing else. -/
structure IsDigits (ds : List Char) : Prop where
  ne_nil : ds ≠ []
  digits : ∀ d ∈ ds, Text.isAsciiDigit d = true

/-- Whole digits: one zero, or digits that start with another one. -/
def IsWhole (ds : List Char) : Prop :=
  ds = ['0'] ∨ ∃ c cs, ds = c :: cs ∧ c ≠ '0' ∧ ∀ d ∈ c :: cs, Text.isAsciiDigit d = true

/-- The text of decimal places that are there or not. -/
inductive IsPlaces : List Char → Option (List Char) → Prop
  | none : IsPlaces [] none
  | some {ds : List Char} : IsDigits ds → IsPlaces ('.' :: ds) (some ds)

/-- The text of a power of ten that is there or not. -/
inductive IsPower : List Char → Option Int → Prop
  | none : IsPower [] none
  | plus {ds : List Char} : IsDigits ds → IsPower ('e' :: '+' :: ds) (some (digitsValue ds))
  | minus {ds : List Char} : IsDigits ds → IsPower ('e' :: '-' :: ds) (some (-digitsValue ds))

lemma IsWhole.head? {ds : List Char} (h : IsWhole ds) (rest : List Char) :
    ∃ c, (ds ++ rest).head? = some c ∧ Text.isAsciiDigit c = true := by
  obtain rfl | ⟨c, cs, rfl, -, hd⟩ := h
  · exact ⟨'0', rfl, by decide⟩
  · exact ⟨c, rfl, hd c List.mem_cons_self⟩

/-- Only the digits of zero begin with a zero. -/
lemma isWhole_toDigits (n : Nat) : IsWhole (Nat.toDigits 10 n) := by
  rcases Nat.eq_zero_or_pos n with rfl | hn
  · exact .inl (Nat.toDigits_zero 10)
  right
  have hall : ∀ d ∈ Nat.toDigits 10 n, Text.isAsciiDigit d = true :=
    fun d => isAsciiDigit_of_mem_toDigits
  suffices h : ∃ c cs, Nat.toDigits 10 n = c :: cs ∧ c ≠ '0' by
    obtain ⟨c, cs, e, hc⟩ := h
    exact ⟨c, cs, e, hc, e ▸ hall⟩
  clear hall
  induction n using Nat.strongRecOn with
  | ind n ih =>
    rw [Nat.toDigits_eq_if (by decide)]
    split
    · refine ⟨_, _, rfl, ?_⟩
      interval_cases n <;> decide
    · obtain ⟨c, cs, e, hc⟩ := ih (n / 10) (by omega) (by omega)
      exact ⟨c, cs ++ [(n % 10).digitChar], by rw [e, List.cons_append], hc⟩

/-- Behind digits that end there, no digit is left. -/
lemma spanDigits_append {ds rest : List Char} (hd : ∀ d ∈ ds, Text.isAsciiDigit d = true)
    (hr : EndsDigits rest) : ∃ h, spanDigits (ds ++ rest) = (ds, ⟨rest, h⟩) := by
  have htake : rest.takeWhile Text.isAsciiDigit = [] := by
    cases rest with
    | nil => rfl
    | cons c s => rw [List.takeWhile_cons, hr c rfl]; rfl
  have hdrop : rest.dropWhile Text.isAsciiDigit = rest := by
    cases rest with
    | nil => rfl
    | cons c s => rw [List.dropWhile_cons, hr c rfl]; rfl
  refine ⟨by simp, ?_⟩
  simp only [spanDigits, List.takeWhile_append_of_pos hd, List.dropWhile_append_of_pos hd, htake,
    hdrop, List.append_nil]

lemma wholeDigits_append {ds rest : List Char} (h : IsWhole ds) (hr : EndsDigits rest) :
    ∃ hlt, wholeDigits (ds ++ rest) = some (ds, ⟨rest, hlt⟩) := by
  obtain rfl | ⟨c, cs, rfl, hc, hd⟩ := h
  · exact ⟨by simp, rfl⟩
  · obtain ⟨hle, hspan⟩ := spanDigits_append (fun d h => hd d (List.mem_cons_of_mem _ h)) hr
    refine ⟨by simp only [List.cons_append, List.length_cons]; omega, ?_⟩
    simp only [List.cons_append, wholeDigits, hc, if_false, hd c List.mem_cons_self, if_true, hspan]

lemma decimalPlaces_append {s rest : List Char} {places : Option (List Char)}
    (h : IsPlaces s places) (hr : EndsPlaces rest) :
    ∃ hle, decimalPlaces (s ++ rest) = (places, ⟨rest, hle⟩) := by
  cases h with
  | none =>
    refine ⟨Nat.le_refl _, ?_⟩
    change decimalPlaces rest = _
    unfold decimalPlaces
    split
    · exact absurd rfl (hr '.' rfl).2
    · rfl
  | @some ds hds =>
    obtain ⟨hle, hspan⟩ := spanDigits_append hds.digits hr.endsDigits
    refine ⟨by simp only [List.cons_append, List.length_cons]; omega, ?_⟩
    obtain ⟨d, ds, rfl⟩ := List.exists_cons_of_ne_nil hds.ne_nil
    simp only [List.cons_append] at hspan ⊢
    simp only [decimalPlaces, hspan]

lemma powerOfTen_append {s rest : List Char} {power : Option Int} (h : IsPower s power)
    (hr : EndsNumber rest) : ∃ hle, powerOfTen (s ++ rest) = (power, ⟨rest, hle⟩) := by
  cases h with
  | none =>
    refine ⟨Nat.le_refl _, ?_⟩
    change powerOfTen rest = _
    cases rest with
    | nil => rfl
    | cons c s =>
      obtain ⟨-, -, he, hE⟩ := hr c rfl
      unfold powerOfTen
      simp only [he, hE, decide_false, Bool.or_self, Bool.false_eq_true, if_false]
  | @plus ds hds =>
    obtain ⟨hle, hspan⟩ := spanDigits_append hds.digits hr.endsPlaces.endsDigits
    refine ⟨by simp only [List.cons_append, List.length_cons]; omega, ?_⟩
    obtain ⟨d, ds, rfl⟩ := List.exists_cons_of_ne_nil hds.ne_nil
    simp only [List.cons_append] at hspan ⊢
    simp only [powerOfTen, decide_true, Bool.true_or, if_true, hspan]
  | @minus ds hds =>
    obtain ⟨hle, hspan⟩ := spanDigits_append hds.digits hr.endsPlaces.endsDigits
    refine ⟨by simp only [List.cons_append, List.length_cons]; omega, ?_⟩
    obtain ⟨d, ds, rfl⟩ := List.exists_cons_of_ne_nil hds.ne_nil
    simp only [List.cons_append] at hspan ⊢
    simp only [powerOfTen, decide_true, Bool.true_or, if_true, hspan]

lemma IsPower.endsPlaces {s rest : List Char} {power : Option Int} (h : IsPower s power)
    (hr : EndsNumber rest) : EndsPlaces (s ++ rest) := by
  cases h with
  | none => exact hr.endsPlaces
  | plus | minus =>
    rintro _ ⟨⟩
    decide

lemma IsPlaces.endsDigits {s rest : List Char} {places : Option (List Char)}
    (h : IsPlaces s places) (hr : EndsPlaces rest) : EndsDigits (s ++ rest) := by
  cases h with
  | none => exact hr.endsDigits
  | some =>
    rintro _ ⟨⟩
    decide

/-- A numeral with given parts is read as the number that they make. -/
lemma unsigned_parts {negative : Bool} (start : Nat) {whole s t rest : List Char}
    {places : Option (List Char)} {power : Option Int} {v : Json} (hwhole : IsWhole whole)
    (hplaces : IsPlaces s places) (hpower : IsPower t power)
    (hv : numberOf negative whole places power = .ok v) (hr : EndsNumber rest) :
    Gives (unsigned negative start) (whole ++ (s ++ (t ++ rest))) v rest := by
  have hends := hpower.endsPlaces hr
  obtain ⟨h₁, hwhole⟩ := wholeDigits_append hwhole (hplaces.endsDigits hends)
  obtain ⟨h₂, hplaces⟩ := decimalPlaces_append hplaces hends
  obtain ⟨h₃, hpower⟩ := powerOfTen_append hpower hr
  refine ⟨by omega, ?_⟩
  unfold unsigned
  rw [hwhole]
  dsimp only
  rw [hplaces]
  dsimp only
  rw [hpower]
  simp only [hv]

/-! ## Signs -/

/-- A digit begins no word. -/
lemma word?_digit {c : Char} {s : List Char} (h : s.head? = some c)
    (hc : Text.isAsciiDigit c = true) : word? s = none := by
  rw [word?]
  all_goals
    rintro rest rfl
    cases h
    exact absurd hc (by decide)

/-- A minus before a digit begins no word. -/
lemma word?_minus {c : Char} {s : List Char} (h : s.head? = some c)
    (hc : Text.isAsciiDigit c = true) : word? ('-' :: s) = none := by
  rw [word?]
  all_goals
    rintro rest e
    cases e
    try exact absurd hc (by cases h; decide)

lemma scalar_minus {s rest : List Char} {v : Json} (hw : word? ('-' :: s) = none)
    (h : Gives (unsigned true (s.length + 1)) s v rest) : Gives scalar ('-' :: s) v rest := by
  obtain ⟨hlt, h⟩ := h
  refine ⟨by simp only [List.length_cons]; omega, ?_⟩
  unfold scalar
  rw [hw]
  simp only [h]

/-- What begins neither a word nor with a minus is read as an unsigned number. -/
lemma scalar_eq_unsigned {s : List Char} (hw : word? s = none) (hm : s.head? ≠ some '-') :
    scalar s = unsigned false s.length s := by
  unfold scalar
  rw [hw]
  dsimp only
  split
  · exact absurd rfl hm
  · rfl

lemma scalar_unsigned {s rest : List Char} {v : Json} (hw : word? s = none)
    (hm : s.head? ≠ some '-') (h : Gives (unsigned false s.length) s v rest) :
    Gives scalar s v rest := by
  rw [Gives, scalar_eq_unsigned hw hm]
  exact h

/-- Characters with a minus in front of them, or without. -/
def signedChars (negative : Bool) (s : List Char) : List Char := if negative then '-' :: s else s

/-- A numeral with a minus in front of it, or without, is read as the number that its parts make. -/
lemma scalar_parts (negative : Bool) {whole s t rest : List Char}
    {places : Option (List Char)} {power : Option Int} {v : Json} (hwhole : IsWhole whole)
    (hplaces : IsPlaces s places) (hpower : IsPower t power)
    (hv : numberOf negative whole places power = .ok v) (hr : EndsNumber rest) :
    Gives scalar (signedChars negative (whole ++ (s ++ t)) ++ rest) v rest := by
  obtain ⟨c, hc, hdigit⟩ := hwhole.head? (s ++ (t ++ rest))
  cases negative with
  | true =>
    rw [signedChars, if_pos rfl, List.cons_append, List.append_assoc, List.append_assoc]
    exact scalar_minus (word?_minus hc hdigit) (unsigned_parts _ hwhole hplaces hpower hv hr)
  | false =>
    rw [signedChars, if_neg Bool.false_ne_true, List.append_assoc, List.append_assoc]
    refine scalar_unsigned (word?_digit hc hdigit) ?_ (unsigned_parts _ hwhole hplaces hpower hv hr)
    rw [hc]
    rintro ⟨⟩
    exact absurd hdigit (by decide)

/-! ## Numbers -/

/-- A written integer is read back. -/
lemma scalar_int {i : Int} {rest : List Char} (hi : (Nat.toDigits 10 i.natAbs).length ≤ digitLimit)
    (hr : EndsNumber rest) : Gives scalar (intChars i ++ rest) (.int i) rest := by
  have hvalue : digitsValue (Nat.toDigits 10 i.natAbs) = i.natAbs := Nat.ofDigitChars_ten_toDigits
  have hnumber : numberOf (decide (i < 0)) (Nat.toDigits 10 i.natAbs) none none = .ok (.int i) := by
    have he : (if decide (i < 0) then -(i.natAbs : Int) else i.natAbs) = i := by
      split_ifs with hneg
      · rw [decide_eq_true_eq] at hneg
        omega
      · rw [decide_eq_true_eq] at hneg
        omega
    simp only [numberOf, signedInteger, if_neg (Nat.not_lt.2 hi), hvalue, he]
  have h := scalar_parts _ (isWhole_toDigits i.natAbs) .none .none hnumber hr
  rw [List.append_nil, List.append_nil] at h
  simpa only [signedChars, decide_eq_true_eq, intChars] using h

/-- The text of a number with decimal places or a power of ten. -/
inductive IsReal : List Char → Prop
  | mk {whole s t : List Char} {places : Option (List Char)} {power : Option Int}
    (negative : Bool) :
    IsWhole whole →
    IsPlaces s places →
    IsPower t power →
    (places.isSome ∨ power.isSome) →
    IsReal (signedChars negative (whole ++ (s ++ t)))

/-- What a number begins with. -/
def BeginsNumber (c : Char) : Prop := c = '-' ∨ Text.isAsciiDigit c = true

/-- A written integer begins with a minus or a digit. -/
lemma intChars_cons (i : Int) : ∃ c s, intChars i = c :: s ∧ BeginsNumber c := by
  by_cases hneg : i < 0
  · exact ⟨'-', _, if_pos hneg, .inl rfl⟩
  · obtain ⟨c, cs, e⟩ := List.exists_cons_of_ne_nil (Nat.toDigits_ne_nil (n := i.natAbs) (b := 10))
    have hc : c ∈ Nat.toDigits 10 i.natAbs := e ▸ List.mem_cons_self
    exact ⟨c, cs, (if_neg hneg).trans e, .inr (isAsciiDigit_of_mem_toDigits hc)⟩

lemma BeginsNumber.ne {c d : Char} (h : BeginsNumber c) (hd : ¬ BeginsNumber d) : c ≠ d := by
  rintro rfl
  exact hd h

lemma BeginsNumber.not_isGap {c : Char} (h : BeginsNumber c) : isGap c = false := by
  refine Bool.eq_false_iff.2 fun hg => ?_
  simp only [isGap, Bool.or_eq_true, decide_eq_true_eq] at hg
  obtain ((rfl | rfl) | rfl) | rfl := hg <;> exact absurd h (by unfold BeginsNumber; decide)

lemma IsReal.exists_cons {s : List Char} (h : IsReal s) : ∃ c cs, s = c :: cs ∧ BeginsNumber c := by
  obtain @⟨whole, s, t, _, _, negative, hwhole, -, -, -⟩ := h
  cases negative with
  | true => exact ⟨'-', _, rfl, .inl rfl⟩
  | false =>
    obtain ⟨c, hc, hdigit⟩ := hwhole.head? (s ++ t)
    obtain ⟨cs, hcs⟩ := List.head?_eq_some_iff.1 hc
    exact ⟨c, cs, hcs, .inr hdigit⟩

/-- A number with decimal places or a power of ten is read as a binary64 number. -/
lemma scalar_of_isReal {s : List Char} (h : IsReal s) :
    ∃ x, ∀ rest, EndsNumber rest → Gives scalar (s ++ rest) (.real x) rest := by
  obtain @⟨whole, s, t, places, power, negative, hwhole, hplaces, hpower, hsome⟩ := h
  refine ⟨Numeral.ofParts negative whole (places.getD []) (power.getD 0), fun rest hr => ?_⟩
  refine scalar_parts negative hwhole hplaces hpower ?_ hr
  cases places with
  | none =>
    cases power with
    | none => exact absurd hsome (by decide)
    | some p => rfl
  | some ds => rfl

end FeedWatch.Json
