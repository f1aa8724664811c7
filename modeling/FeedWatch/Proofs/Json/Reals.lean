import FeedWatch.Proofs.Json.Numbers
import Mathlib.Data.List.DropRight

/-!
# Written binary64 numbers

Every finite number is written with decimal places or with a power of ten, since the digits that are
looked for are never those of zero.  Main statement: what is written of a binary64 number is read as
a binary64 number again (`scalar_real`), the one that its text denotes (`Binary64.reread`).
-/

namespace FeedWatch

open Json

namespace Binary64

/-! ## Digits -/

/-- A candidate that rounds to a positive number is positive. -/
lemma withDigits_pos {m : Nat} {e point place : Int} {n c : Nat} (hm : 0 < m)
    (h : withDigits m e point n = some (c, place)) : 0 < c := by
  -- zero is below the neighbourhood of a positive number
  have hlow : ∀ unit grid : Nat, 0 < unit → (if (neighbourhood m e).closed then
      decide ((neighbourhood m e).lo * unit ≤ 0 * grid) &&
        decide (0 * grid ≤ (neighbourhood m e).hi * unit)
      else decide ((neighbourhood m e).lo * unit < 0 * grid) &&
        decide (0 * grid < (neighbourhood m e).hi * unit)) = false := by
    intro unit grid hunit
    have hlo : 0 < (neighbourhood m e).lo := by
      simp only [neighbourhood]
      split_ifs
      · omega
      · omega
    have hpos := Nat.mul_pos hlo hunit
    simp only [Nat.zero_mul, Nat.not_le.2 hpos, Nat.not_lt_zero, decide_false, Bool.false_and,
      ite_self]
  have hunit : 0 < Nat.pow 2 (e - 2).toNat * Nat.pow 10 (-(point - n)).toNat :=
    Nat.mul_pos (Nat.pow_pos Nat.two_pos) (Nat.pow_pos (by decide))
  rw [Nat.pos_iff_ne_zero]
  rintro rfl
  rw [withDigits] at h
  dsimp only at h
  split at h
  next hinside _ =>
    split_ifs at h with hnear
    · rw [Option.some.injEq, Prod.mk.injEq] at h
      rw [h.1] at hinside
      exact Bool.false_ne_true ((hlow _ _ hunit).symm.trans hinside)
    · cases h
  next hinside _ =>
    rw [Option.some.injEq, Prod.mk.injEq] at h
    rw [h.1] at hinside
    exact Bool.false_ne_true ((hlow _ _ hunit).symm.trans hinside)
  next => cases h
  next => cases h

lemma search_pos {m : Nat} {e point : Int} (hm : 0 < m) (fuel n : Nat) :
    0 < (search m e point fuel n).1 := by
  induction fuel generalizing n with
  | zero => exact hm
  | succ fuel ih =>
    rw [search]
    split
    next hit hdigits => exact withDigits_pos hm hdigits
    next => exact ih (n + 1)

/-- The digits without the zeros at their end start with another digit than zero. -/
lemma withoutZeros_eq_cons {n : Nat} (hn : 0 < n) : ∃ c cs, (withoutZeros n).1 = c :: cs ∧
    c ≠ '0' ∧ ∀ d ∈ c :: cs, Text.isAsciiDigit d = true := by
  have hdigits : (withoutZeros n).1 = (Nat.toDigits 10 n).rdropWhile (· == '0') := rfl
  obtain h | ⟨c, cs, h, hc, hd⟩ := isWhole_toDigits n
  · have hvalue : digitsValue (Nat.toDigits 10 n) = n := Nat.ofDigitChars_ten_toDigits
    rw [h] at hvalue
    exact absurd hvalue.symm hn.ne'
  · have hne : (Nat.toDigits 10 n).rdropWhile (· == '0') ≠ [] := by
      rw [Ne, List.rdropWhile_eq_nil_iff, h]
      intro hall
      exact hc (beq_iff_eq.1 (hall c List.mem_cons_self))
    obtain ⟨d, ds, he⟩ := List.exists_cons_of_ne_nil hne
    have hprefix := List.rdropWhile_prefix (· == '0') (Nat.toDigits 10 n)
    rw [he, h, List.cons_prefix_cons] at hprefix
    obtain ⟨rfl, hprefix⟩ := hprefix
    refine ⟨d, ds, hdigits.trans he, hc, fun x hx => hd x ?_⟩
    exact (List.cons_prefix_cons.2 ⟨rfl, hprefix⟩).subset hx

/-! ## Notations -/

lemma isDigits_replicate_append (n : Nat) {ds : List Char} (h : IsDigits ds) :
    IsDigits (List.replicate n '0' ++ ds) := by
  refine ⟨List.append_ne_nil_of_right_ne_nil _ h.ne_nil, fun d hd => ?_⟩
  obtain hd | hd := List.mem_append.1 hd
  · rw [List.eq_of_mem_replicate hd]
    decide
  · exact h.digits d hd

lemma isDigits_toDigits (n : Nat) : IsDigits (Nat.toDigits 10 n) :=
  ⟨Nat.toDigits_ne_nil, fun _ => isAsciiDigit_of_mem_toDigits⟩

variable {c : Char} {cs : List Char}

lemma isReal_places (negative : Bool) {whole places : List Char} (hwhole : IsWhole whole)
    (hplaces : IsDigits places) : IsReal (signedChars negative (whole ++ '.' :: places)) := by
  have h := IsReal.mk negative hwhole (.some hplaces) .none (.inl rfl)
  rwa [List.append_nil] at h

/-- Digits with a decimal point have decimal places. -/
lemma isReal_positional (negative : Bool) (point : Int) (hc : c ≠ '0')
    (hd : ∀ d ∈ c :: cs, Text.isAsciiDigit d = true) :
    IsReal (signedChars negative (positional (c :: cs) point)) := by
  have hdigits : IsDigits (c :: cs) := ⟨List.cons_ne_nil _ _, hd⟩
  rw [positional]
  split_ifs with hleast hwhole
  · exact isReal_places negative (.inl rfl) (isDigits_replicate_append _ hdigits)
  · rw [List.cons_append, List.cons_append]
    refine isReal_places negative (.inr ⟨c, _, rfl, hc, ?_⟩)
      ⟨List.cons_ne_nil _ _, List.forall_mem_singleton.2 (by decide)⟩
    intro d hmem
    rw [← List.cons_append, List.mem_append] at hmem
    obtain hmem | hmem := hmem
    · exact hd d hmem
    · rw [List.eq_of_mem_replicate hmem]
      decide
  · obtain ⟨k, hk⟩ := Nat.exists_eq_add_of_lt (by omega : 0 < point.toNat)
    rw [Nat.zero_add] at hk
    have hplaces : (c :: cs).drop point.toNat ≠ [] := by
      rw [Ne, List.drop_eq_nil_iff]
      omega
    refine isReal_places negative (.inr ⟨c, cs.take k, ?_, hc, ?_⟩)
      ⟨hplaces, fun d h => hd d (List.mem_of_mem_drop h)⟩
    · rw [hk, List.take_succ_cons]
    · intro d hmem
      rw [← List.take_succ_cons] at hmem
      exact hd d (List.mem_of_mem_take hmem)

/-- Behind a power text there are digits. -/
lemma exists_isPower (power : Int) : ∃ p, IsPower (powerText power) (some p) := by
  have hdigits := isDigits_replicate_append (2 - (Nat.toDigits 10 power.natAbs).length)
    (isDigits_toDigits power.natAbs)
  rw [powerText]
  split_ifs
  · exact ⟨_, .minus hdigits⟩
  · exact ⟨_, .plus hdigits⟩

/-- Digits in exponential notation have a power of ten. -/
lemma isReal_exponential (negative : Bool) (point : Int) (hc : c ≠ '0')
    (hd : ∀ d ∈ c :: cs, Text.isAsciiDigit d = true) :
    IsReal (signedChars negative (exponential (c :: cs) point)) := by
  obtain ⟨p, hpower⟩ := exists_isPower (point - 1)
  have hwhole : IsWhole [c] :=
    .inr ⟨c, [], rfl, hc, List.forall_mem_singleton.2 (hd c List.mem_cons_self)⟩
  cases cs with
  | nil => exact .mk negative hwhole .none hpower (.inr rfl)
  | cons d ds =>
    have hplaces : IsDigits (d :: ds) :=
      ⟨List.cons_ne_nil _ _, fun x hx => hd x (List.mem_cons_of_mem _ hx)⟩
    exact .mk negative hwhole (.some hplaces) hpower (.inr rfl)

/-- A finite number is written with decimal places or with a power of ten. -/
lemma isReal_finite (negative : Bool) (m : Nat) (e : Int) :
    IsReal (realChars (.finite negative m e)) := by
  have hsigned : ∀ s, IsReal (signedChars negative s) →
      IsReal (String.ofList (if negative then '-' :: s else s)).toList := by
    intro s h
    rwa [String.toList_ofList]
  change IsReal (toText (.finite negative m e)).toList
  rw [toText]
  by_cases hm : m = 0
  · rw [if_pos hm]
    have hplaces : IsDigits ['0'] :=
      ⟨List.cons_ne_nil _ _, List.forall_mem_singleton.2 (by decide)⟩
    exact hsigned _ (isReal_places negative (.inl rfl) hplaces)
  · have hpos : 0 < (shortest m e).1 := search_pos (Nat.pos_of_ne_zero hm) 17 1
    obtain ⟨c, cs, hdigits, hc, hd⟩ := withoutZeros_eq_cons hpos
    rw [if_neg hm]
    dsimp only
    rw [hdigits]
    split_ifs with hpoint
    · exact hsigned _ (isReal_positional negative _ hc hd)
    · exact hsigned _ (isReal_exponential negative _ hc hd)

/-! ## Reading -/

/-- The number that the text of a number denotes. -/
def reread (x : Binary64) : Binary64 :=
  match scalar (realChars x) with
  | .ok (.real y, _) => y
  | _ => x

end Binary64

namespace Json

/-- A written binary64 number is read as the one that its text denotes. -/
lemma scalar_real {x : Binary64} {rest : List Char} (hr : EndsNumber rest) :
    Gives scalar (realChars x ++ rest) (.real x.reread) rest := by
  have hread : ∃ y, ∀ rest, EndsNumber rest → Gives scalar (realChars x ++ rest) (.real y) rest := by
    cases x with
    | nan => exact ⟨.nan, fun rest _ => ⟨_, rfl⟩⟩
    | infinite negative =>
      cases negative with
      | true => exact ⟨.infinite true, fun rest _ => ⟨_, rfl⟩⟩
      | false => exact ⟨.infinite false, fun rest _ => ⟨_, rfl⟩⟩
    | finite negative m e => exact scalar_of_isReal (Binary64.isReal_finite negative m e)
  obtain ⟨y, hy⟩ := hread
  -- what stands behind the number makes no difference to how it is read
  have hnil := hy [] nofun
  rw [List.append_nil] at hnil
  obtain ⟨_, hnil⟩ := hnil
  have hreread : x.reread = y := by rw [Binary64.reread, hnil]
  rw [hreread]
  exact hy rest hr

/-- A written binary64 number begins with a minus, a digit or the letter of a word. -/
lemma realChars_cons (x : Binary64) :
    ∃ c s, realChars x = c :: s ∧ (BeginsNumber c ∨ c = 'N' ∨ c = 'I') := by
  cases x with
  | nan => exact ⟨'N', _, rfl, .inr (.inl rfl)⟩
  | infinite negative =>
    cases negative with
    | true => exact ⟨'-', _, rfl, .inl (.inl rfl)⟩
    | false => exact ⟨'I', _, rfl, .inr (.inr rfl)⟩
  | finite negative m e =>
    obtain ⟨c, s, e, hc⟩ := (Binary64.isReal_finite negative m e).exists_cons
    exact ⟨c, s, e, .inl hc⟩

/-- Digits, points, signs and the letter of a power are printable. -/
lemma isPrintableAscii_of_isReal {s : List Char} (h : IsReal s) : ∀ c ∈ s, IsPrintableAscii c := by
  obtain @⟨whole, s, t, places, power, negative, hwhole, hplaces, hpower, -⟩ := h
  have hdigits : ∀ {ds : List Char}, (∀ d ∈ ds, Text.isAsciiDigit d = true) →
      ∀ d ∈ ds, IsPrintableAscii d :=
    fun h d hd => isPrintableAscii_of_isAsciiDigit (h d hd)
  have hw : ∀ c ∈ whole, IsPrintableAscii c := by
    obtain rfl | ⟨c, cs, rfl, -, hd⟩ := hwhole
    · exact List.forall_mem_singleton.2 (by decide)
    · exact hdigits hd
  have hs : ∀ c ∈ s, IsPrintableAscii c := by
    cases hplaces with
    | none => nofun
    | some hds => exact List.forall_mem_cons.2 ⟨by decide, hdigits hds.digits⟩
  have ht : ∀ c ∈ t, IsPrintableAscii c := by
    cases hpower with
    | none => nofun
    | plus hds | minus hds =>
      exact List.forall_mem_cons.2
        ⟨by decide, List.forall_mem_cons.2 ⟨by decide, hdigits hds.digits⟩⟩
  have hall := List.forall_mem_append.2 ⟨hw, List.forall_mem_append.2 ⟨hs, ht⟩⟩
  rw [signedChars]
  split_ifs
  · exact List.forall_mem_cons.2 ⟨by decide, hall⟩
  · exact hall

lemma isPrintableAscii_of_mem_realChars {x : Binary64} {c : Char} (h : c ∈ realChars x) :
    IsPrintableAscii c := by
  cases x with
  | nan => exact isPrintableAscii_of_all (by decide) c h
  | infinite negative =>
    cases negative with
    | true => exact isPrintableAscii_of_all (s := "-Infinity".toList) (by decide) c h
    | false => exact isPrintableAscii_of_all (s := "Infinity".toList) (by decide) c h
  | finite negative m e => exact isPrintableAscii_of_isReal (Binary64.isReal_finite _ m e) c h

end Json

end FeedWatch
