import FeedWatch.Event
import FeedWatch.Proofs.Json.Access
import FeedWatch.Proofs.Json.LongNumerals

/-!
# Frames that cannot be decoded

A frame that holds no event is rejected.  Two kinds of frames are neither decoded nor rejected:
those with an integer that is too long to be read, and those that describe an item one of whose
numbers is infinite.  Main statement: there are no others (`Event.rejected_of_isBounded`).
-/

namespace FeedWatch

/-! ## Items -/

/-- The values that the numbers of an item are read from: the levels of its enchants, the number of
its type, and its own numbers. -/
inductive Item.Number (item : Json) : Json → Prop
  | level {enchants enchant n : Json} {series : List Json} :
    item.memberOrNull "enchants" = .ok enchants →
    enchants.seriesOrNone = .ok series →
    enchant ∈ series →
    enchant.member "level" = .ok n →
    Number item n
  | kind {kind n : Json} :
    item.memberOrNull "item" = .ok kind →
    kind.member "id" = .ok n →
    Number item n
  | own {key : String} {n : Json} :
    key ∈ ["lives", "maxLives", "tokens", "nonce"] →
    item.member key = .ok n →
    Number item n

/-- An item one of whose numbers is infinite. -/
def Item.IsInfinite (item : Json) : Prop :=
  ∃ negative, Item.Number item (.real (.infinite negative))

namespace Json

/-- If reading fails at an infinite number, then something holds. -/
def OverflowsOnlyIf {α : Type} (p : Prop) (x : Except Mismatch α) : Prop :=
  ∀ cause, x = .error cause → cause.family = .overflow → p

variable {α β : Type} {p : Prop} {key : String} {v : Json}

namespace OverflowsOnlyIf

lemma bind {x : Except Mismatch α} {f : α → Except Mismatch β} (hx : OverflowsOnlyIf p x)
    (hf : ∀ a, x = .ok a → OverflowsOnlyIf p (f a)) : OverflowsOnlyIf p (x >>= f) :=
  Except.FailsAs.bind hx hf

lemma pure {a : α} : OverflowsOnlyIf p (Pure.pure a : Except Mismatch α) := nofun

lemma mapM {f : α → Except Mismatch β} {xs : List α}
    (h : ∀ x ∈ xs, OverflowsOnlyIf p (f x)) : OverflowsOnlyIf p (xs.mapM f) := Except.FailsAs.mapM h

lemma of_families {x : Except Mismatch α} {families : List MismatchFamily}
    (h : Except.FailsAs (·.family ∈ families) x) (hfamilies : .overflow ∉ families) :
    OverflowsOnlyIf p x :=
  fun cause hx hfamily => absurd (hfamily ▸ h cause hx) hfamilies

lemma member : OverflowsOnlyIf p (v.member key) := of_families failsAs_member (by decide)

lemma member? : OverflowsOnlyIf p (v.member? key) := of_families failsAs_member? (by decide)

lemma memberOrNull : OverflowsOnlyIf p (v.memberOrNull key) :=
  of_families failsAs_memberOrNull (by decide)

lemma seriesOrNone : OverflowsOnlyIf p v.seriesOrNone :=
  of_families failsAs_seriesOrNone (by decide)

/-- Only an infinite number has no integer form for being too large. -/
lemma toInt (h : ∀ negative, v = .real (.infinite negative) → p) : OverflowsOnlyIf p v.toInt := by
  intro cause hv hfamily
  cases v with
  | real x =>
    cases x with
    | infinite negative => exact h negative rfl
    | nan =>
      cases hv
      cases hfamily
    | finite negative m e => cases hv
  | str s =>
    rw [Json.toInt] at hv
    split at hv
    · cases hv
    · cases hv
      cases hfamily
  | null =>
    cases hv
    cases hfamily
  | arr vs =>
    cases hv
    cases hfamily
  | obj fs =>
    cases hv
    cases hfamily
  | bool b => cases hv
  | int i => cases hv

end OverflowsOnlyIf

lemma member_of_member? {n : Json} (h : v.member? key = .ok (some n)) : v.member key = .ok n := by
  cases v with
  | obj members =>
    have hlookup : members.lookup key = some n := Except.ok.inj h
    rw [member, hlookup]
  | null => cases h
  | bool b => cases h
  | int i => cases h
  | real x => cases h
  | str s => cases h
  | arr vs => cases h

lemma member_of_memberOrNull {n : Json} (h : v.memberOrNull key = .ok n) (hn : n ≠ .null) :
    v.member key = .ok n := by
  obtain ⟨found, hfound, rfl⟩ := Except.map_eq_ok.1 h
  cases found with
  | none => exact absurd rfl hn
  | some m => exact member_of_member? hfound

end Json

open Json

lemma Enchant.ofJson_overflowsOnlyIf {v : Json} :
    OverflowsOnlyIf (∃ negative, v.member "level" = .ok (.real (.infinite negative)))
      (Enchant.ofJson v) := by
  refine .bind .member fun key _ => .bind .member fun level hlevel => .bind (.toInt ?_) fun _ _ =>
    .pure
  rintro negative rfl
  exact ⟨negative, hlevel⟩

lemma Item.optionalInt_overflowsOnlyIf {key : String} {item : Json}
    (hkey : key ∈ ["lives", "maxLives", "tokens", "nonce"]) :
    OverflowsOnlyIf (IsInfinite item) (optionalInt key item) := by
  refine .bind .memberOrNull fun n hn => ?_
  split
  · exact .pure
  · refine .bind (.toInt ?_) fun _ _ => .pure
    rintro negative rfl
    exact ⟨negative, .own hkey (member_of_memberOrNull hn nofun)⟩

/-- Reading an item fails at an infinite number only if one of the item's numbers is. -/
lemma Item.ofJson_overflowsOnlyIf {item : Json} :
    OverflowsOnlyIf (IsInfinite item) (ofJson item) := by
  refine .bind .memberOrNull fun kind hkind => ?_
  refine .bind .member fun _ _ => .bind .memberOrNull fun enchants henchants => ?_
  refine .bind .seriesOrNone fun series hseries =>
    .bind (.mapM fun enchant henchant => ?_) fun _ _ => ?_
  · intro cause h hfamily
    obtain ⟨negative, hlevel⟩ := Enchant.ofJson_overflowsOnlyIf cause h hfamily
    exact ⟨negative, .level henchants hseries henchant hlevel⟩
  refine .bind .memberOrNull fun _ _ => .bind .seriesOrNone fun _ _ => ?_
  refine .bind .member? fun id hid => .bind (.toInt ?_) fun _ _ => ?_
  · rintro negative hnegative
    -- the number of the type is there, so the type is filled in
    obtain rfl : id = some (.real (.infinite negative)) := by
      cases id with
      | none => cases hnegative
      | some n => exact congrArg some hnegative
    split_ifs at hid
    · exact ⟨negative, .kind hkind (member_of_member? hid)⟩
    · cases hid
  refine .bind (optionalInt_overflowsOnlyIf (by decide)) fun _ _ => ?_
  refine .bind (optionalInt_overflowsOnlyIf (by decide)) fun _ _ => ?_
  refine .bind (optionalInt_overflowsOnlyIf (by decide)) fun _ _ => ?_
  refine .bind (optionalInt_overflowsOnlyIf (by decide)) fun _ _ => ?_
  exact .bind .member? fun _ _ => .bind .memberOrNull fun _ _ => .bind .memberOrNull fun _ _ => .pure

/-! ## Frames -/

/-- The characters of a payload, unless its bytes are no text. -/
def Payload.chars? : Payload → Option (List Char)
  | text s => some s.toList
  | bytes b => (Encoding.detect b.toList).decode? b.toList

/-- Nothing in a frame is too large to be held: its text has no more digits in a row than can be
read as an integer, and if it describes an item, none of the item's numbers is infinite. -/
structure Payload.IsBounded (payload : Payload) : Prop where
  digits : ∀ text digits, payload.chars? = some text → digits <:+: text →
    (∀ c ∈ digits, Text.isAsciiDigit c = true) → digits.length ≤ digitLimit
  numbers : ∀ members item, Event.readPayload payload = .ok (.obj members) →
    members.lookup "item" = some item → ¬ Item.IsInfinite item

namespace Event

variable {payload : Payload} {err : FrameError}

lemma readPayload_tooLong {e : TooManyDigits}
    (h : readPayload payload = .error (.text (.tooLong e))) :
    ∃ text, payload.chars? = some text ∧ e.StandsIn text := by
  cases payload with
  | text s =>
    rw [readPayload] at h
    cases hread : Json.read s with
    | ok v =>
      rw [hread] at h
      cases h
    | error e' =>
      rw [hread] at h
      cases h
      exact ⟨s.toList, rfl, read_tooLong hread⟩
  | bytes b => exact readBytes_tooLong h

/-- An item is the only part of an event that an error names a cause for. -/
lemma ofJson_error {v : Json} (h : ofJson v = .error err) :
    err.isRejection = true ∨ ∃ members item cause, v = .obj members ∧
      members.lookup "item" = some item ∧ Item.ofJson item = .error cause ∧ err = .item cause := by
  rw [ofJson.eq_def] at h
  split at h
  next members =>
    split at h
    next hitem =>
      split at h
      · cases h
      next cause hcause =>
        cases h
        exact .inr ⟨members, _, cause, rfl, hitem, hcause, rfl⟩
    · cases h
      exact .inl rfl
  · cases h
    exact .inl rfl

/-- A frame with nothing in it that is too large is decoded or rejected. -/
lemma rejected_of_isBounded (hbounded : payload.IsBounded) (h : ofFrame payload = .error err) :
    err.isRejection = true := by
  rw [ofFrame] at h
  split at h
  next v hread =>
    obtain hrejection | ⟨members, item, cause, rfl, hitem, hcause, rfl⟩ := ofJson_error h
    · exact hrejection
    · have hfamily : cause.family ≠ .overflow := fun hoverflow =>
        hbounded.numbers members item hread hitem
          (Item.ofJson_overflowsOnlyIf cause hcause hoverflow)
      exact bne_iff_ne.2 hfamily
  next e hread =>
    cases h
    cases e with
    | undecodable => rfl
    | text e =>
      cases e with
      | malformed fault place => rfl
      | tooLong e =>
        obtain ⟨text, htext, hlong, digits, hdigits, hall, hlength⟩ := readPayload_tooLong hread
        have := hbounded.digits text digits htext hdigits hall
        omega

/-- A frame that is an integer of too many digits is not decoded. -/
lemma ofFrame_of_digits {c : Char} {cs : List Char} (hc : c ≠ '0')
    (hdigits : ∀ d ∈ c :: cs, Text.isAsciiDigit d = true) (hlong : digitLimit < (c :: cs).length) :
    ofFrame (.text (String.ofList (c :: cs))) =
      .error (.notJson (.text (.tooLong ⟨(c :: cs).length⟩))) := by
  rw [ofFrame, readPayload, Json.read_of_digits hc hdigits hlong]
  rfl

end Event

end FeedWatch
