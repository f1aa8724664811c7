import FeedWatch.Number.Binary64
import Mathlib.Algebra.Order.Field.Rat
import Mathlib.Algebra.Order.Field.Power
import Mathlib.Tactic.FieldSimp
import Mathlib.Tactic.Linarith
import Mathlib.Tactic.NormNum
import Mathlib.Tactic.Positivity
import Mathlib.Tactic.Ring

/-!
# Rounding keeps the order

A finite binary64 number has a rational value (`Binary64.value`).  The number nearest to a greater
quotient is not a smaller one.  Main statement: when one sum is below another, the exact sum of the
values is below the other one, too, whatever the sums were rounded to
(`Binary64.add_lt_add_of_isBelow`).
-/

namespace FeedWatch

variable {num den num' den' : Nat}

/-! ## Rounding to a natural number -/

/-- The nearest number is at most a half away, and even if it is a half away. -/
lemma roundHalfEven_near (num : Nat) (hden : 0 < den) :
    2 * (roundHalfEven num den * den) ≤ 2 * num + den ∧
      2 * num ≤ 2 * (roundHalfEven num den * den) + den ∧
      (2 * (roundHalfEven num den * den) = 2 * num + den ∨
        2 * num = 2 * (roundHalfEven num den * den) + den → roundHalfEven num den % 2 = 0) := by
  have hdiv : num / den * den + num % den = num := Nat.div_add_mod' num den
  have hmod : num % den < den := Nat.mod_lt num hden
  rw [roundHalfEven]
  split_ifs with hbelow habove
  · omega
  · rw [Nat.add_one_mul (num / den)]
    omega
  · obtain heven | hodd := Nat.mod_two_eq_zero_or_one (num / den)
    · rw [heven, Nat.add_zero]
      omega
    · rw [hodd, Nat.add_one_mul (num / den)]
      omega

lemma roundHalfEven_mono (hden : 0 < den) (hden' : 0 < den') (h : num * den' ≤ num' * den) :
    roundHalfEven num den ≤ roundHalfEven num' den' := by
  obtain ⟨hlow, -, heven⟩ := roundHalfEven_near num hden
  obtain ⟨-, hhigh, heven'⟩ := roundHalfEven_near num' hden'
  generalize roundHalfEven num den = m at *
  generalize roundHalfEven num' den' = m' at *
  by_contra hlt
  obtain ⟨k, rfl⟩ := Nat.exists_eq_add_of_lt (Nat.lt_of_not_le hlt)
  have hlow' := Nat.mul_le_mul_right den' hlow
  have hhigh' := Nat.mul_le_mul_right den hhigh
  -- both quotients are a half away, so both numbers are even, and do not differ by one
  have hk : k = 0 := by
    by_contra hk
    have hfar := Nat.mul_le_mul_right (den * den') (Nat.one_le_iff_ne_zero.2 hk)
    have hprod := Nat.mul_pos hden hden'
    nlinarith only [hlow', hhigh', h, hfar, hprod]
  subst hk
  have hlow'' : 2 * ((m' + 0 + 1) * den) * den' = (2 * num + den) * den' := by
    nlinarith only [hlow', hhigh', h]
  have hhigh'' : 2 * num' * den = (2 * (m' * den') + den') * den := by
    nlinarith only [hlow', hhigh', h]
  have hparity := heven (.inl (Nat.eq_of_mul_eq_mul_right hden' hlow''))
  have hparity' := heven' (.inr (Nat.eq_of_mul_eq_mul_right hden hhigh''))
  omega

lemma roundHalfEven_one (n : Nat) : roundHalfEven n 1 = n := by
  rw [roundHalfEven, Nat.div_one, Nat.mod_one, if_pos Nat.zero_lt_one]

namespace Binary64

/-! ## The exponent of a quotient -/

lemma scaled_div (num : Nat) (hden : 0 < den) (e : Int) : 0 < (scaled num den e).2 ∧
    ((scaled num den e).1 : ℚ) / (scaled num den e).2 = num / den / 2 ^ e := by
  rw [scaled]
  split_ifs with he
  · obtain ⟨k, rfl⟩ := Int.eq_ofNat_of_zero_le he
    refine ⟨Nat.mul_pos hden (Nat.pow_pos Nat.two_pos), ?_⟩
    rw [Int.toNat_natCast, zpow_natCast, div_div, Nat.pow_eq]
    push_cast
    rfl
  · obtain ⟨k, hk⟩ := Int.eq_ofNat_of_zero_le (Int.neg_nonneg.2 (Int.le_of_lt (Int.not_le.1 he)))
    refine ⟨hden, ?_⟩
    rw [hk, ← Int.neg_neg e, hk, zpow_neg, Int.toNat_natCast, zpow_natCast,
      div_inv_eq_mul, div_mul_eq_mul_div, Nat.pow_eq]
    push_cast
    rfl

/-- The logarithms bound a quotient within two powers of two. -/
lemma div_near (hnum : 0 < num) (hden : 0 < den) :
    (2 : ℚ) ^ ((num.log2 : Int) - den.log2 - 1) ≤ num / den ∧
      (num / den : ℚ) < 2 ^ ((num.log2 : Int) - den.log2 + 1) := by
  have hnum₁ : (2 : ℚ) ^ num.log2 ≤ num := by
    exact_mod_cast Nat.log2_self_le hnum.ne'
  have hnum₂ : (num : ℚ) < 2 ^ (num.log2 + 1) := by
    exact_mod_cast Nat.lt_log2_self
  have hden₁ : (2 : ℚ) ^ den.log2 ≤ den := by
    exact_mod_cast Nat.log2_self_le hden.ne'
  have hden₂ : (den : ℚ) < 2 ^ (den.log2 + 1) := by
    exact_mod_cast Nat.lt_log2_self
  have hpos : (0 : ℚ) < den := Nat.cast_pos.2 hden
  constructor
  · rw [le_div_iff₀ hpos]
    calc (2 : ℚ) ^ ((num.log2 : Int) - den.log2 - 1) * den
        ≤ 2 ^ ((num.log2 : Int) - den.log2 - 1) * 2 ^ (den.log2 + 1) := by gcongr
      _ = 2 ^ num.log2 := by
        rw [← zpow_natCast, ← zpow_natCast, ← zpow_add₀ two_ne_zero]
        congr 1
        push_cast
        ring
      _ ≤ num := hnum₁
  · rw [div_lt_iff₀ hpos]
    calc (num : ℚ) < 2 ^ (num.log2 + 1) := hnum₂
      _ = 2 ^ ((num.log2 : Int) - den.log2 + 1) * 2 ^ den.log2 := by
        rw [← zpow_natCast, ← zpow_natCast, ← zpow_add₀ two_ne_zero]
        congr 1
        push_cast
        ring
      _ ≤ 2 ^ ((num.log2 : Int) - den.log2 + 1) * den := by gcongr

/-- With its exponent a quotient has at most 53 bits, and exactly as many unless the exponent is the
least one. -/
lemma exponentOf_near (hnum : 0 < num) (hden : 0 < den) : minExponent ≤ exponentOf num den ∧
    (num / den : ℚ) < 2 ^ (exponentOf num den + 53) ∧
    (exponentOf num den = minExponent ∨ (2 : ℚ) ^ (exponentOf num den + 52) ≤ num / den) := by
  obtain ⟨hlow, hhigh⟩ := div_near hnum hden
  obtain ⟨guess, hguess⟩ : ∃ guess, guess = (num.log2 : Int) - den.log2 - 52 := ⟨_, rfl⟩
  rw [show (num.log2 : Int) - den.log2 - 1 = guess - 1 + 52 by omega] at hlow
  rw [show (num.log2 : Int) - den.log2 + 1 = guess + 53 by omega] at hhigh
  obtain ⟨hpos, hscaled⟩ := scaled_div num hden guess
  have hbelow : (scaled num den guess).1 < Nat.pow 2 52 * (scaled num den guess).2 ↔
      (num / den : ℚ) < 2 ^ (guess + 52) := by
    rw [zpow_add₀ two_ne_zero, mul_comm ((2 : ℚ) ^ guess), ← div_lt_iff₀ (zpow_pos two_pos guess),
      ← hscaled, div_lt_iff₀ (Nat.cast_pos.2 hpos), Nat.pow_eq]
    exact_mod_cast Iff.rfl
  -- the guess from the logarithms is at most one too great
  have hcorrect : ∃ e, exponentOf num den = max minExponent e ∧
      (2 : ℚ) ^ (e + 52) ≤ num / den ∧ (num / den : ℚ) < 2 ^ (e + 53) := by
    rw [exponentOf, ← hguess]
    dsimp only
    split_ifs with h
    · refine ⟨_, rfl, hlow, ?_⟩
      rw [show guess - 1 + 53 = guess + 52 by omega]
      exact hbelow.1 h
    · exact ⟨_, rfl, not_lt.1 fun hlt => h (hbelow.2 hlt), hhigh⟩
  obtain ⟨e, he, hlow, hhigh⟩ := hcorrect
  rw [he]
  refine ⟨le_max_left _ _, hhigh.trans_le ?_, ?_⟩
  · exact zpow_le_zpow_right₀ one_le_two (Int.add_le_add_right (le_max_right _ _) 53)
  · obtain hmax | hmax := max_choice minExponent e
    · exact .inl hmax
    · exact .inr (hmax.symm ▸ hlow)

lemma exponentOf_mono (hnum : 0 < num) (hden : 0 < den) (hnum' : 0 < num') (hden' : 0 < den')
    (h : (num / den : ℚ) ≤ num' / den') : exponentOf num den ≤ exponentOf num' den' := by
  obtain ⟨hmin, -, hlow⟩ := exponentOf_near hnum hden
  obtain ⟨hmin', hhigh', -⟩ := exponentOf_near hnum' hden'
  obtain hleast | hlow := hlow
  · exact hleast ▸ hmin'
  · have hlt := (zpow_lt_zpow_iff_right₀ one_lt_two).1 ((hlow.trans h).trans_lt hhigh')
    omega

/-! ## The nearest number -/

/-- The mantissa that a quotient is rounded to. -/
def mantissaOf (num den : Nat) : Nat :=
  let quotient := scaled num den (exponentOf num den)
  roundHalfEven quotient.1 quotient.2

/-- The value that a quotient is rounded to, if there is a number that is so great. -/
def nearest (num den : Nat) : ℚ := mantissaOf num den * 2 ^ exponentOf num den

/-- A mantissa has at most 53 bits, and that of a great number no fewer. -/
lemma mantissaOf_near (hnum : 0 < num) (hden : 0 < den) : mantissaOf num den ≤ 2 ^ 53 ∧
    (exponentOf num den ≠ minExponent → 2 ^ 52 ≤ mantissaOf num den) := by
  obtain ⟨-, hhigh, hlow⟩ := exponentOf_near hnum hden
  obtain ⟨hpos, hdiv⟩ := scaled_div num hden (exponentOf num den)
  rw [mantissaOf]
  generalize (scaled num den (exponentOf num den)).1 = n at *
  generalize (scaled num den (exponentOf num den)).2 = d at *
  have hpow : (0 : ℚ) < 2 ^ exponentOf num den := zpow_pos two_pos _
  have hpos' : (0 : ℚ) < d := Nat.cast_pos.2 hpos
  rw [zpow_add₀ two_ne_zero, mul_comm, ← div_lt_iff₀ hpow, ← hdiv, div_lt_iff₀ hpos'] at hhigh
  constructor
  · rw [← roundHalfEven_one (2 ^ 53)]
    refine roundHalfEven_mono hpos Nat.one_pos ?_
    rw [Nat.mul_one]
    exact_mod_cast hhigh.le
  · intro hgreat
    have hlow := hlow.resolve_left hgreat
    rw [zpow_add₀ two_ne_zero, mul_comm, ← le_div_iff₀ hpow, ← hdiv, le_div_iff₀ hpos'] at hlow
    rw [← roundHalfEven_one (2 ^ 52)]
    refine roundHalfEven_mono Nat.one_pos hpos ?_
    rw [Nat.mul_one]
    exact_mod_cast hlow

/-- With the same exponent, a greater quotient has no smaller mantissa. -/
lemma mantissaOf_mono (hden : 0 < den) (hden' : 0 < den') (h : (num / den : ℚ) ≤ num' / den')
    (hexponent : exponentOf num den = exponentOf num' den') :
    mantissaOf num den ≤ mantissaOf num' den' := by
  obtain ⟨hpos, hdiv⟩ := scaled_div num hden (exponentOf num den)
  obtain ⟨hpos', hdiv'⟩ := scaled_div num' hden' (exponentOf num' den')
  refine roundHalfEven_mono hpos hpos' ?_
  have hle : (num / den / 2 ^ exponentOf num den : ℚ) ≤ num' / den' / 2 ^ exponentOf num' den' := by
    rw [hexponent]
    gcongr
  rw [← hdiv, ← hdiv', div_le_div_iff₀ (Nat.cast_pos.2 hpos) (Nat.cast_pos.2 hpos')] at hle
  exact_mod_cast hle

/-- A greater quotient is not rounded to a smaller number. -/
lemma nearest_mono (hnum : 0 < num) (hden : 0 < den) (hnum' : 0 < num') (hden' : 0 < den')
    (h : (num / den : ℚ) ≤ num' / den') : nearest num den ≤ nearest num' den' := by
  rw [nearest, nearest]
  obtain heq | hlt := (exponentOf_mono hnum hden hnum' hden' h).eq_or_lt
  · have hmantissa := mantissaOf_mono hden hden' h heq
    rw [heq]
    gcongr
  · -- the greatest mantissa with the lower exponent is the least with the next one
    have hmantissa := (mantissaOf_near hnum hden).1
    have hmantissa' := (mantissaOf_near hnum' hden').2 fun hleast => by
      have := (exponentOf_near hnum hden).1
      omega
    calc (mantissaOf num den : ℚ) * 2 ^ exponentOf num den
        ≤ 2 ^ 53 * 2 ^ exponentOf num den := by
          gcongr
          exact_mod_cast hmantissa
      _ = 2 ^ 52 * 2 ^ (exponentOf num den + 1) := by
          rw [zpow_add_one₀ two_ne_zero]
          ring
      _ ≤ 2 ^ 52 * 2 ^ exponentOf num' den' := by
          gcongr
          · exact one_le_two
          · exact hlt
      _ ≤ mantissaOf num' den' * 2 ^ exponentOf num' den' := by
          gcongr
          exact_mod_cast hmantissa'

/-- A quotient is rounded to the nearest value, or to infinity if there is no number so great. -/
lemma ofRatio_cases (negative : Bool) (hnum : 0 < num) (hden : 0 < den) :
    (2 ^ 53 * 2 ^ maxExponent ≤ nearest num den ∧ ofRatio negative num den = .infinite negative) ∨
      (nearest num den < 2 ^ 53 * 2 ^ maxExponent ∧ ∃ m e,
        ofRatio negative num den = .finite negative m e ∧ (m * 2 ^ e : ℚ) = nearest num den) := by
  have heq : ofRatio negative num den =
      if mantissaOf num den = 2 ^ 53 then
        if maxExponent < exponentOf num den + 1 then .infinite negative
        else .finite negative (2 ^ 52) (exponentOf num den + 1)
      else if maxExponent < exponentOf num den then .infinite negative
        else .finite negative (mantissaOf num den) (exponentOf num den) := by
    rw [ofRatio, if_neg hnum.ne', mantissaOf]
    simp only [Nat.pow_eq]
    split_ifs
    all_goals rfl
  obtain ⟨hle, hge⟩ := mantissaOf_near hnum hden
  rw [heq, nearest]
  generalize mantissaOf num den = m at *
  generalize exponentOf num den = e at *
  by_cases hcarry : m = 2 ^ 53
  · rw [if_pos hcarry, hcarry, Nat.cast_pow, Nat.cast_ofNat]
    split_ifs with hmax
    · refine .inl ⟨?_, rfl⟩
      gcongr
      · exact one_le_two
      · exact Int.lt_add_one_iff.1 hmax
    · refine .inr ⟨?_, _, _, rfl, ?_⟩
      · gcongr
        · exact one_lt_two
        · exact Int.add_one_le_iff.1 (Int.not_lt.1 hmax)
      · rw [zpow_add_one₀ two_ne_zero, Nat.cast_pow, Nat.cast_ofNat]
        ring
  · rw [if_neg hcarry]
    split_ifs with hmax
    · refine .inl ⟨?_, rfl⟩
      have hmantissa : 2 ^ 52 ≤ m := hge fun hleast => by
        rw [hleast] at hmax
        cases hmax
      calc (2 : ℚ) ^ 53 * 2 ^ maxExponent = (2 : ℚ) ^ 52 * 2 ^ (maxExponent + 1) := by
            rw [zpow_add_one₀ two_ne_zero]
            ring
        _ ≤ (m : ℚ) * 2 ^ e := by
            gcongr
            · exact_mod_cast hmantissa
            · exact one_le_two
            · exact hmax
    · refine .inr ⟨?_, _, _, rfl, rfl⟩
      have hmantissa : m < 2 ^ 53 := lt_of_le_of_ne hle hcarry
      calc (m : ℚ) * 2 ^ e < 2 ^ 53 * 2 ^ e := by
            gcongr
            exact_mod_cast hmantissa
        _ ≤ 2 ^ 53 * 2 ^ maxExponent := by
            gcongr
            · exact one_le_two
            · exact Int.not_lt.1 hmax

lemma ofRatio_ne_nan (negative : Bool) (num den : Nat) : ofRatio negative num den ≠ .nan := by
  rw [ofRatio]
  dsimp only
  split_ifs
  all_goals nofun

/-! ## Values -/

/-- The value of a finite number. -/
def value : Binary64 → ℚ
  | .finite negative m e => (if negative then -1 else 1) * (m * 2 ^ e)
  | _ => 0

variable {x y z w : Binary64}

lemma inUnits_eq {unit e : Int} (hunit : unit ≤ e) (negative : Bool) (m : Nat) :
    (inUnits unit negative m e : ℚ) * 2 ^ unit = value (.finite negative m e) := by
  obtain ⟨k, hk⟩ := Int.eq_ofNat_of_zero_le (Int.sub_nonneg.2 hunit)
  rw [inUnits, value, hk, Int.toNat_natCast, Nat.pow_eq, show e = k + unit by omega,
    zpow_add₀ two_ne_zero, zpow_natCast]
  cases negative
  · rw [if_neg Bool.false_ne_true, if_neg Bool.false_ne_true]
    push_cast
    ring
  · rw [if_pos rfl, if_pos rfl]
    push_cast
    ring

/-- What is zero or negative has no positive value. -/
lemma value_nonpos (hx : (x.isZero || x.isNegative) = true) : x.value ≤ 0 := by
  cases x with
  | finite negative m e =>
    have hpow : (0 : ℚ) < 2 ^ e := zpow_pos two_pos e
    rw [value]
    obtain hzero | hnegative := Bool.or_eq_true_iff.1 hx
    · rw [beq_iff_eq.1 hzero, Nat.cast_zero, zero_mul, mul_zero]
    · rw [if_pos (Bool.and_eq_true_iff.1 hnegative).1]
      have hprod : (0 : ℚ) ≤ m * 2 ^ e := by positivity
      linarith
  | _ => exact le_rfl

/-- On finite numbers, to be below is to have the smaller value. -/
lemma isBelow_iff (hx : x.isFinite = true) (hy : y.isFinite = true) :
    x.isBelow y = true ↔ x.value < y.value := by
  cases x with
  | finite a m e =>
    cases y with
    | finite b n f =>
      rw [isBelow, decide_eq_true_iff, ← inUnits_eq (min_le_left e f),
        ← inUnits_eq (min_le_right e f), mul_lt_mul_iff_left₀ (zpow_pos two_pos _)]
      exact Int.cast_lt.symm
    | _ => cases hy
  | _ => cases hx

/-- A quotient whose nearest number is below that of another is smaller. -/
lemma lt_of_isBelow_ofRatio (hnum : 0 < num) (hden : 0 < den) (hnum' : 0 < num')
    (hden' : 0 < den')
    (h : (ofRatio false num den).isBelow (ofRatio false num' den') = true) :
    (num / den : ℚ) < num' / den' := by
  by_contra hle
  have hmono := nearest_mono hnum' hden' hnum hden (not_lt.1 hle)
  obtain ⟨hbig, heq⟩ | ⟨hsmall, m, e, heq, hvalue⟩ := ofRatio_cases false hnum hden
  · rw [heq] at h
    cases hx : ofRatio false num' den' with
    | _ => rw [hx] at h; cases h
  · obtain ⟨hbig, -⟩ | ⟨-, m', e', heq', hvalue'⟩ := ofRatio_cases false hnum' hden'
    · exact absurd (hbig.trans hmono) (not_le.2 hsmall)
    · rw [heq, heq', isBelow_iff rfl rfl, value, value, hvalue, hvalue',
        if_neg Bool.false_ne_true, one_mul, one_mul] at h
      exact absurd hmono (not_le.2 h)

lemma ratio_div (m : Nat) (e : Int) :
    0 < (ratio m e).2 ∧ ((ratio m e).1 / (ratio m e).2 : ℚ) = m * 2 ^ e := by
  rw [ratio]
  split_ifs with he
  · obtain ⟨k, rfl⟩ := Int.eq_ofNat_of_zero_le he
    refine ⟨Nat.one_pos, ?_⟩
    rw [Int.toNat_natCast, zpow_natCast, Nat.pow_eq]
    push_cast
    exact div_one _
  · obtain ⟨k, hk⟩ := Int.eq_ofNat_of_zero_le (Int.neg_nonneg.2 (Int.le_of_lt (Int.not_le.1 he)))
    refine ⟨Nat.pow_pos Nat.two_pos, ?_⟩
    rw [hk, ← Int.neg_neg e, hk, zpow_neg, Int.toNat_natCast, zpow_natCast, Nat.pow_eq]
    push_cast
    exact div_eq_mul_inv _ _

/-- A sum above zero is the nearest number to the sum of the values. -/
lemma add_eq_ofRatio (hx : x.isFinite = true) (hy : y.isFinite = true)
    (hsum : 0 < x.value + y.value) : ∃ num den, 0 < num ∧ 0 < den ∧
      x.add y = ofRatio false num den ∧ (num / den : ℚ) = x.value + y.value := by
  cases x with
  | finite a m e =>
    cases y with
    | finite b n f =>
      rw [add]
      rw [← inUnits_eq (min_le_left e f), ← inUnits_eq (min_le_right e f), ← add_mul,
        ← Int.cast_add] at hsum ⊢
      dsimp only
      generalize inUnits (min e f) a m e + inUnits (min e f) b n f = sum at *
      have hpos : 0 < sum := Int.cast_pos.1 (pos_of_mul_pos_left hsum (zpow_pos two_pos _).le)
      obtain ⟨k, rfl⟩ := Int.eq_ofNat_of_zero_le hpos.le
      obtain ⟨hden, hvalue⟩ := ratio_div k (min e f)
      refine ⟨_, _, ?_, hden, ?_, hvalue⟩
      · refine Nat.pos_of_ne_zero fun hzero => ?_
        rw [hzero, Nat.cast_zero, zero_div] at hvalue
        rw [Int.cast_natCast, ← hvalue] at hsum
        exact lt_irrefl _ hsum
      · rw [if_neg hpos.ne', Int.natAbs_natCast, decide_eq_false hpos.not_gt]
    | _ => cases hy
  | _ => cases hx

lemma add_ne_nan (hx : x.isFinite = true) (hy : y.isFinite = true) : x.add y ≠ .nan := by
  cases x with
  | finite a m e =>
    cases y with
    | finite b n f =>
      rw [add]
      dsimp only
      split_ifs
      · nofun
      · exact ofRatio_ne_nan _ _ _
    | _ => cases hy
  | _ => cases hx

/-- Of two sums, the one below the other is smaller in value, whatever they were rounded to. -/
theorem add_lt_add_of_isBelow (hx : x.isFinite = true) (hy : y.isFinite = true)
    (hz : z.isFinite = true) (hw : w.isFinite = true) (hxy : 0 < x.value + y.value)
    (hzw : 0 < z.value + w.value) (h : (x.add y).isBelow (z.add w) = true) :
    x.value + y.value < z.value + w.value := by
  obtain ⟨num, den, hnum, hden, hadd, hsum⟩ := add_eq_ofRatio hx hy hxy
  obtain ⟨num', den', hnum', hden', hadd', hsum'⟩ := add_eq_ofRatio hz hw hzw
  rw [← hsum, ← hsum']
  rw [hadd, hadd'] at h
  exact lt_of_isBelow_ofRatio hnum hden hnum' hden' h

end Binary64

end FeedWatch
