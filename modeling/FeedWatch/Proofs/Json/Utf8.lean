import FeedWatch.Json.Bytes
import FeedWatch.Proofs.Json.Text

/-!
# Texts as bytes in UTF-8

Bytes come without the name of their encoding, which is guessed from the first of them.  Main
statements: the bytes of any characters are read as these characters (`chars8_flatMap`), the guess
is UTF-8 for bytes that begin with two ASCII characters other than NUL
(`detect_of_isNonzeroAscii`), and bytes for which it is are read as their text is
(`readBytes_toUTF8`).
-/

namespace FeedWatch

lemma toList_loop_eq (bytes : ByteArray) (i : Nat) (read : List UInt8) :
    ByteArray.toList.loop bytes i read = read.reverse ++ bytes.data.toList.drop i := by
  fun_induction ByteArray.toList.loop bytes i read with
  | case1 i read hlt ih =>
    have hget : bytes.get! i = bytes.data.toList[i] := getElem!_pos bytes.data i hlt
    rw [ih, List.drop_eq_getElem_cons hlt, hget, List.reverse_cons, List.append_assoc]
    rfl
  | case2 i read hge =>
    rw [List.drop_eq_nil_of_le (not_lt.1 hge), List.append_nil]

lemma toList_eq_data (bytes : ByteArray) : bytes.toList = bytes.data.toList :=
  toList_loop_eq bytes 0 []

lemma toList_toUTF8 (s : String) : s.toUTF8.toList = s.toList.flatMap String.utf8EncodeChar := by
  rw [toList_eq_data, String.toUTF8_eq_toByteArray, ← String.utf8Encode_toList, List.utf8Encode,
    List.toList_data_toByteArray]

namespace Json

/-! ## First bytes -/

/-- What the first of two bytes announces. -/
lemma leadByte_two {n : Nat} (hlow : 2 ≤ n) (hhigh : n < 0x20) :
    leadByte (n + 0xc0) = some (n, [(0x80, 0xbf)]) := by
  interval_cases n <;> rfl

/-- What the first of three bytes announces; the second one is in its range. -/
lemma leadByte_three {n m : Nat} (hlow : 0x20 ≤ n * 0x40 + m) (hn : n < 0x10) (hm : m < 0x40) :
    ∃ lo hi, leadByte (n + 0xe0) = some (n, [(lo, hi), (0x80, 0xbf)]) ∧
      lo ≤ m + 0x80 ∧ m + 0x80 ≤ hi := by
  interval_cases n <;> exact ⟨_, _, rfl, by omega, by omega⟩

/-- What the first of four bytes announces; the second one is in its range. -/
lemma leadByte_four {n m : Nat} (hlow : 0x10 ≤ n * 0x40 + m) (hhigh : n * 0x40 + m < 0x110)
    (hm : m < 0x40) :
    ∃ lo hi, leadByte (n + 0xf0) = some (n, [(lo, hi), (0x80, 0xbf), (0x80, 0xbf)]) ∧
      lo ≤ m + 0x80 ∧ m + 0x80 ≤ hi := by
  have hn : n < 5 := by omega
  interval_cases n <;> exact ⟨_, _, rfl, by omega, by omega⟩

/-! ## Characters -/

/-- A byte that follows in its range adds six bits. -/
lemma followBytes_next {lo hi n bits : Nat} {ranges : List (Nat × Nat)} {bytes : List UInt8}
    (hn : n < 0x40) (hlo : lo ≤ n + 0x80) (hhi : n + 0x80 ≤ hi) :
    Text.followBytes bits ((lo, hi) :: ranges) (UInt8.ofNat (n + 0x80) :: bytes) =
      Text.followBytes (bits * 64 + n) ranges bytes := by
  have hbyte : (UInt8.ofNat (n + 0x80)).toNat = n + 0x80 :=
    UInt8.toNat_ofNat_of_lt ((Nat.add_lt_add_right hn _).trans (by decide))
  have hrange : (lo ≤ n + 0x80 && n + 0x80 ≤ hi) = true := by
    simp only [Bool.and_eq_true, decide_eq_true_eq]
    exact ⟨hlo, hhi⟩
  rw [Text.followBytes, hbyte, if_pos hrange, Nat.add_sub_cancel]

/-- A first byte gives a character with the bytes that follow it. -/
lemma chars8_cons {bits fuel lead n : Nat} {ranges : List (Nat × Nat)} {bytes rest : List UInt8}
    (hbyte : lead < 0x100) (hlead : leadByte lead = some (bits, ranges))
    (hfollow : Text.followBytes bits ranges bytes = (some n, rest)) :
    chars8 (fuel + 1) (UInt8.ofNat lead :: bytes) =
      (chars8 fuel rest).map (unitChar n :: ·) := by
  have hlead' : leadByte (UInt8.ofNat lead).toNat = some (bits, ranges) :=
    (congrArg leadByte (UInt8.toNat_ofNat_of_lt hbyte)).trans hlead
  rw [chars8, hlead']
  simp only [Option.bind_eq_bind, Option.bind_some, hfollow]
  cases chars8 fuel rest with
  | none => rfl
  | some cs => rfl

/-- The bytes of a character are read as that character. -/
lemma chars8_encodeChar (fuel : Nat) (c : Char) (bytes : List UInt8) :
    chars8 (fuel + 1) (String.utf8EncodeChar c ++ bytes) = (chars8 fuel bytes).map (c :: ·) := by
  have hchar := unitChar_toNat c
  have hrange := toNat_range c
  rw [Char.toNat] at hchar hrange
  rw [String.utf8EncodeChar]
  generalize c.val.toNat = v at hchar hrange ⊢
  rw [← hchar]
  -- by the number of bytes; the last one gives six bits in every case but the first
  have hlast : v / 64 * 64 + v % 0x40 = v := Nat.div_add_mod' v 64
  split_ifs with hone htwo hthree
  · have hlead : leadByte v = some (v, []) := by
      rw [leadByte, if_neg (by omega), Text.leadByte, if_pos (by omega)]
    exact chars8_cons (by omega) hlead rfl
  · have hbits : v / 64 % 0x20 = v / 64 := by omega
    rw [hbits]
    refine chars8_cons (by omega) (leadByte_two (by omega) (by omega)) ?_
    refine (followBytes_next (by omega) (by omega) (by omega)).trans ?_
    rw [hlast, Text.followBytes, List.append_eq, List.nil_append]
  · have hbits : v / 4096 % 0x10 * 64 + v / 64 % 0x40 = v / 64 := by omega
    obtain ⟨lo, hi, hlead, hlo, hhi⟩ :=
      @leadByte_three (v / 4096 % 0x10) (v / 64 % 0x40) (by omega) (by omega) (by omega)
    refine chars8_cons (by omega) hlead ?_
    refine (followBytes_next (by omega) hlo hhi).trans ?_
    refine (followBytes_next (by omega) (by omega) (by omega)).trans ?_
    rw [hbits, hlast, Text.followBytes, List.append_eq, List.nil_append]
  · have hbits : (v / 262144 % 0x08 * 64 + v / 4096 % 0x40) * 64 + v / 64 % 0x40 = v / 64 := by
      omega
    obtain ⟨lo, hi, hlead, hlo, hhi⟩ :=
      @leadByte_four (v / 262144 % 0x08) (v / 4096 % 0x40) (by omega) (by omega) (by omega)
    refine chars8_cons (by omega) hlead ?_
    refine (followBytes_next (by omega) hlo hhi).trans ?_
    refine (followBytes_next (by omega) (by omega) (by omega)).trans ?_
    refine (followBytes_next (by omega) (by omega) (by omega)).trans ?_
    rw [hbits, hlast, Text.followBytes, List.append_eq, List.nil_append]

/-- The bytes of characters are read as these characters. -/
lemma chars8_flatMap {fuel : Nat} {cs : List Char} (h : cs.length ≤ fuel) :
    chars8 fuel (cs.flatMap String.utf8EncodeChar) = some cs := by
  induction cs generalizing fuel with
  | nil =>
    cases fuel with
    | zero => rfl
    | succ fuel => rfl
  | cons c cs ih =>
    rw [List.length_cons] at h
    obtain ⟨fuel, rfl⟩ := Nat.exists_eq_add_of_le' (Nat.le_of_add_left_le h)
    rw [List.flatMap_cons, chars8_encodeChar, ih (Nat.le_of_add_le_add_right h)]
    rfl

/-- Every character has a byte. -/
lemma length_le_flatMap (cs : List Char) :
    cs.length ≤ (cs.flatMap String.utf8EncodeChar).length := by
  induction cs with
  | nil => exact Nat.le_refl _
  | cons c cs ih =>
    have := c.utf8Size_pos
    rw [List.flatMap_cons, List.length_append, List.length_cons, String.length_utf8EncodeChar]
    omega

/-! ## The guess -/

/-- A character of ASCII other than NUL: its only byte is neither zero nor part of a mark. -/
def IsNonzeroAscii (c : Char) : Prop := 0 < c.toNat ∧ c.toNat < 0x80

instance (c : Char) : Decidable (IsNonzeroAscii c) := inferInstanceAs (Decidable (_ ∧ _))

lemma IsNonzeroAscii.utf8EncodeChar {c : Char} (h : IsNonzeroAscii c) :
    ∃ b : UInt8, String.utf8EncodeChar c = [b] ∧ 0 < b.toNat ∧ b.toNat < 0x80 := by
  have hsize : c.utf8Size = 1 := Char.utf8Size_eq_one_iff.2 (Nat.le_of_lt_succ h.2)
  have hbyte : c.val.toUInt8.toNat = c.toNat := by
    have hlow := h.2
    rw [UInt32.toNat_toUInt8, Char.toNat_val]
    omega
  exact ⟨c.val.toUInt8, String.utf8EncodeChar_eq_singleton hsize, hbyte ▸ h.1, hbyte ▸ h.2⟩

/-- All marks begin with a zero or beyond ASCII. -/
lemma find?_marks {x : UInt8} (bytes : List UInt8) (hlow : 0 < x.toNat) (hhigh : x.toNat < 0x80) :
    Encoding.marks.find? (fun m => m.1.isPrefixOf (x :: bytes)) = none := by
  have hsome : ∀ m ∈ Encoding.marks, m.1 ≠ [] := by decide
  have hhead : ∀ m ∈ Encoding.marks, ∀ b ∈ m.1.head?, b.toNat = 0 ∨ 0x80 ≤ b.toNat := by
    decide +kernel
  rw [List.find?_eq_none]
  intro m hm
  obtain ⟨b, rest, hb⟩ := List.exists_cons_of_ne_nil (hsome m hm)
  have hbyte := hhead m hm b (by rw [hb]; rfl)
  rw [hb, List.isPrefixOf_iff_prefix, List.cons_prefix_cons]
  rintro ⟨rfl, -⟩
  omega

/-- Two such characters in front announce UTF-8. -/
lemma detect_of_isNonzeroAscii {a b : Char} (cs : List Char) (ha : IsNonzeroAscii a)
    (hb : IsNonzeroAscii b) :
    Encoding.detect ((a :: b :: cs).flatMap String.utf8EncodeChar) = .utf8 0 := by
  obtain ⟨x, hx, hxlow, hxhigh⟩ := ha.utf8EncodeChar
  obtain ⟨y, hy, hylow, hyhigh⟩ := hb.utf8EncodeChar
  rw [List.flatMap_cons, List.flatMap_cons, hx, hy, List.singleton_append, List.singleton_append]
  have hzero : ∀ b : UInt8, 0 < b.toNat → (b == 0) = false := by
    intro b hlow
    refine beq_false_of_ne ?_
    rintro rfl
    exact Nat.lt_irrefl 0 hlow
  have hxzero := hzero x hxlow
  have hyzero := hzero y hylow
  generalize cs.flatMap String.utf8EncodeChar = bytes
  rw [Encoding.detect, find?_marks _ hxlow hxhigh]
  dsimp only
  rw [Encoding.ofZeros.eq_def]
  split
  next h =>
    cases h
    simp [hxzero, hyzero]
  next h =>
    cases h
    simp [hxzero, hyzero]
  next => rfl

/-- Bytes that are taken for UTF-8 are read as the text whose bytes they are. -/
lemma readBytes_toUTF8 {s : String}
    (h : Encoding.detect (s.toList.flatMap String.utf8EncodeChar) = .utf8 0) :
    readBytes s.toUTF8 =
      (wholeValue s.toList).mapError fun failure => .text (failure.toError s.toList) := by
  have hdecode : (Encoding.utf8 0).decode? (s.toList.flatMap String.utf8EncodeChar) =
      some s.toList := chars8_flatMap (length_le_flatMap s.toList)
  rw [readBytes, toList_toUTF8, h, hdecode]

end Json

end FeedWatch
