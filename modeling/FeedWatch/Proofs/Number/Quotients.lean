import FeedWatch.Proofs.Number.Rounding
import Mathlib.Algebra.Order.Floor.Ring
import Mathlib.Data.Rat.Floor

/-!
# Quotients that are rounded up

A quotient of integers is rounded to a binary64 number first, and that number is rounded up.  As
long as the quotient is not too great, nothing is lost: a quotient that lies above an integer lies
above it by a part that binary64 can hold, too.  Main statement: `Binary64.ceil_value_ofRatio`.
-/

namespace FeedWatch

variable {num den : Nat}

lemma roundHalfEven_mul (n : Nat) (hden : 0 < den) : roundHalfEven (n * den) den = n := by
  rw [roundHalfEven, Nat.mul_mod_left, Nat.mul_div_cancel _ hden, if_pos hden]

namespace Binary64

/-- A quotient that is a number of at most 53 bits is rounded to itself. -/
lemma nearest_eq {m : Nat} {e : Int} (hnum : 0 < num) (hden : 0 < den) (hm : m < 2 ^ 53)
    (he : minExponent ≤ e) (h : (num / den : ℚ) = m * 2 ^ e) : nearest num den = m * 2 ^ e := by
  obtain ⟨-, -, hlow⟩ := exponentOf_near hnum hden
  obtain ⟨hpos, hscaled⟩ := scaled_div num hden (exponentOf num den)
  have hexponent : exponentOf num den ≤ e := by
    obtain hleast | hlow := hlow
    · exact hleast ▸ he
    · have hlt : (2 : ℚ) ^ (exponentOf num den + 52) < 2 ^ (53 + e) := by
        rw [h] at hlow
        refine hlow.trans_lt ?_
        rw [zpow_add₀ two_ne_zero]
        have hpow : (0 : ℚ) < 2 ^ e := zpow_pos two_pos e
        gcongr
        exact_mod_cast hm
      have := (zpow_lt_zpow_iff_right₀ one_lt_two).1 hlt
      omega
  obtain ⟨j, hj⟩ := Int.eq_ofNat_of_zero_le (Int.sub_nonneg.2 hexponent)
  obtain rfl : e = exponentOf num den + j := by omega
  -- what is left of the quotient above its exponent is a natural number
  have hquotient : (scaled num den (exponentOf num den)).1 =
      m * 2 ^ j * (scaled num den (exponentOf num den)).2 := by
    have hpos' : ((scaled num den (exponentOf num den)).2 : ℚ) ≠ 0 := Nat.cast_ne_zero.2 hpos.ne'
    have hpow : (2 : ℚ) ^ exponentOf num den ≠ 0 := zpow_ne_zero _ two_ne_zero
    rw [h, zpow_add₀ two_ne_zero, zpow_natCast, div_eq_iff hpos'] at hscaled
    rw [← Nat.cast_inj (R := ℚ), hscaled]
    push_cast
    field_simp
  rw [nearest, mantissaOf, hquotient, roundHalfEven_mul _ hpos, zpow_add₀ two_ne_zero, zpow_natCast]
  push_cast
  ring

/-- Between a quotient that lies above an integer and this integer there is a binary64 number, so the
quotient is not rounded down to the integer. -/
lemma lt_nearest {k c : Nat} (hk : den ≤ 2 ^ (k + 1)) (hk' : k ≤ 52) (hc : c < 2 ^ (52 - k))
    (hden : 0 < den) (hnum : den * c < num) : (c : ℚ) < nearest num den := by
  have hbits : c * 2 ^ (k + 1) + 1 < 2 ^ 53 := by
    have hsplit : 2 ^ 53 = 2 ^ (52 - k) * 2 ^ (k + 1) := by
      rw [← pow_add]
      congr 1
      omega
    have hgrain : 1 < 2 ^ (k + 1) := Nat.one_lt_two_pow k.succ_ne_zero
    rw [hsplit]
    nlinarith only [hc, hgrain]
  have hpow : (0 : ℚ) < 2 ^ (k + 1) := by positivity
  have hdyadic : ((c * 2 ^ (k + 1) + 1 : Nat) / (2 ^ (k + 1) : Nat) : ℚ) =
      (c * 2 ^ (k + 1) + 1 : Nat) * 2 ^ (-(k + 1 : Nat) : Int) := by
    rw [zpow_neg, zpow_natCast, Nat.cast_pow, Nat.cast_ofNat, div_eq_mul_inv]
  have hle : ((c * 2 ^ (k + 1) + 1 : Nat) / (2 ^ (k + 1) : Nat) : ℚ) ≤ num / den := by
    rw [div_le_div_iff₀ (by positivity) (Nat.cast_pos.2 hden)]
    norm_cast
    nlinarith only [hnum, hk]
  have hmono := nearest_mono (Nat.succ_pos _) (by positivity) (hnum.trans_le' (Nat.zero_le _)) hden hle
  rw [nearest_eq (Nat.succ_pos _) (by positivity) hbits ?_ hdyadic, ← hdyadic] at hmono
  · refine lt_of_lt_of_le ?_ hmono
    rw [lt_div_iff₀ (by positivity)]
    push_cast
    linarith
  · rw [minExponent]
    omega

/-- Rounding up a quotient gives the same integer if the quotient is rounded to a binary64 number
first. -/
lemma ceil_value_ofRatio {k : Nat} (hden : 0 < den) (hk : den ≤ 2 ^ (k + 1)) (hk' : k ≤ 52)
    (hnum : num < den * 2 ^ (52 - k)) :
    ⌈(ofRatio false num den).value⌉ = ⌈(num / den : ℚ)⌉ := by
  obtain rfl | hpos := Nat.eq_zero_or_pos num
  · rw [ofRatio, if_pos rfl, zero, value]
    norm_num
  obtain ⟨c, hlow, hhigh⟩ : ∃ c, den * c < num ∧ num ≤ den * (c + 1) := by
    refine ⟨(num - 1) / den, ?_, ?_⟩
    · have := Nat.mul_div_le (num - 1) den
      omega
    · have := Nat.lt_mul_div_succ (num - 1) hden
      omega
  have hc : c < 2 ^ (52 - k) := Nat.lt_of_mul_lt_mul_left (hlow.trans hnum)
  have hpos' : (0 : ℚ) < den := Nat.cast_pos.2 hden
  have hceil : ⌈(num / den : ℚ)⌉ = c + 1 := by
    rw [Int.ceil_eq_iff, lt_div_iff₀ hpos', div_le_iff₀ hpos']
    push_cast
    constructor
    · have : (den * c : ℚ) < num := by exact_mod_cast hlow
      linarith
    · have : (num : ℚ) ≤ den * (c + 1) := by exact_mod_cast hhigh
      linarith
  have hlt := lt_nearest hk hk' hc hden hlow
  have hbits : c + 1 < 2 ^ 53 := by
    have hle : 2 ^ (52 - k) ≤ 2 ^ 52 := Nat.pow_le_pow_right Nat.two_pos (Nat.sub_le 52 k)
    omega
  have hle : nearest num den ≤ c + 1 := by
    have hquotient : (num / den : ℚ) ≤ (c + 1 : Nat) / (1 : Nat) := by
      rw [Nat.cast_one, div_one, div_le_iff₀ hpos', mul_comm]
      exact_mod_cast hhigh
    have hone : ((c + 1 : Nat) / (1 : Nat) : ℚ) = (c + 1 : Nat) * 2 ^ (0 : Int) := by norm_num
    have hmono := nearest_mono hpos hden c.succ_pos Nat.one_pos hquotient
    rw [nearest_eq c.succ_pos Nat.one_pos hbits (by decide) hone, zpow_zero, mul_one] at hmono
    exact_mod_cast hmono
  rw [hceil]
  obtain ⟨hgreat, -⟩ | ⟨-, m, e, heq, hvalue⟩ := ofRatio_cases false hpos hden
  · have hbits' : (c + 1 : ℚ) < 2 ^ 53 := by exact_mod_cast hbits
    have hmax : (1 : ℚ) ≤ 2 ^ maxExponent := one_le_zpow₀ one_le_two (by decide)
    linarith only [hgreat, hle, hbits', hmax]
  · rw [heq, value, if_neg Bool.false_ne_true, one_mul, hvalue, Int.ceil_eq_iff]
    push_cast
    exact ⟨by linarith only [hlt], hle⟩

end Binary64

end FeedWatch
