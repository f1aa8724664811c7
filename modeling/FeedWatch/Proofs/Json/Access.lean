import FeedWatch.Json.Mismatch
import FeedWatch.Proofs.Except

/-!
# Taking values apart

What going through a value yields, and for what causes its members and what it yields are not to be
had.  Main statements: `Json.mem_iff_of_seriesOrNone`, and one lemma for each way into a value that
names the families of its failures.
-/

namespace FeedWatch.Json

variable {v w : Json} {key : String}

/-! ## What values yield -/

/-- `v.InSeries w`: going through `v` yields `w`, which is an element of a list, a key of an object
or a character of a text. -/
inductive InSeries : Json → Json → Prop where
  | element {vs w} : w ∈ vs → InSeries (.arr vs) w
  | key {members k v} : (k, v) ∈ members → InSeries (.obj members) (.str k)
  | character {s : String} {c} : c ∈ s.toList → InSeries (.str s) (.str (String.singleton c))

/-- A value that yields something is filled in. -/
lemma InSeries.isFilled (h : v.InSeries w) : v.isFilled = true := by
  cases h with
  | @element vs _ hw =>
    cases vs with
    | nil => cases hw
    | cons v vs => rfl
  | @key members k v hk =>
    cases members with
    | nil => cases hk
    | cons m members => rfl
  | character hc =>
    refine bne_iff_ne.2 ?_
    rintro rfl
    cases hc

lemma mem_iff_of_seriesOrNone {vs : List Json} (h : v.seriesOrNone = .ok vs) :
    w ∈ vs ↔ v.InSeries w := by
  rw [seriesOrNone] at h
  split_ifs at h with hfilled
  · cases v with
    | arr vs' =>
      cases h
      exact ⟨.element, fun | .element hw => hw⟩
    | obj members =>
      cases h
      rw [List.mem_map]
      constructor
      · rintro ⟨⟨k, v⟩, hk, rfl⟩
        exact .key hk
      · rintro ⟨⟩
        rename_i k v hk
        exact ⟨(k, v), hk, rfl⟩
    | str s =>
      cases h
      rw [List.mem_map]
      constructor
      · rintro ⟨c, hc, rfl⟩
        exact .character hc
      · rintro ⟨⟩
        rename_i c hc
        exact ⟨c, hc, rfl⟩
    | _ => cases h
  · cases h
    exact ⟨nofun, fun hw => absurd hw.isFilled hfilled⟩

/-- A member that may be missing is null or stands in the object. -/
lemma eq_null_or_mem_of_memberOrNull (h : v.memberOrNull key = .ok w) :
    w = .null ∨ ∃ members, v = .obj members ∧ (key, w) ∈ members := by
  obtain ⟨member, hmember, rfl⟩ := FeedWatch.Except.map_eq_ok.1 h
  cases v with
  | obj members =>
    cases hmember
    cases hlookup : members.lookup key with
    | none => exact .inl rfl
    | some w =>
      obtain ⟨before, after, rfl, -⟩ := List.lookup_eq_some_iff.1 hlookup
      exact .inr ⟨_, rfl, List.mem_append_right _ List.mem_cons_self⟩
  | _ => cases hmember

/-- A list yields its elements, also if it is empty. -/
lemma seriesOrNone_arr (vs : List Json) : (arr vs).seriesOrNone = .ok vs := by
  cases vs with
  | nil => rfl
  | cons v vs => rfl

/-! ## Failures -/

lemma failsAs_member : Except.FailsAs (·.family ∈ [.key, .kind]) (v.member key) := by
  intro cause h
  rw [member.eq_def] at h
  split at h
  · split at h
    · cases h
    · cases h
      exact List.mem_cons_self
  · cases h
    exact List.mem_cons_of_mem _ List.mem_cons_self

lemma failsAs_member? : Except.FailsAs (·.family ∈ [.operation]) (v.member? key) := by
  intro cause h
  rw [member?.eq_def] at h
  split at h
  · cases h
  · cases h
    exact List.mem_cons_self

lemma failsAs_memberOrNull : Except.FailsAs (·.family ∈ [.operation]) (v.memberOrNull key) :=
  failsAs_member?.map

lemma failsAs_seriesOrNone : Except.FailsAs (·.family ∈ [.kind]) v.seriesOrNone := by
  intro cause h
  rw [seriesOrNone] at h
  split_ifs at h
  rw [series.eq_def] at h
  split at h
  · cases h
  · cases h
  · cases h
  · cases h
    exact List.mem_cons_self

lemma failsAs_pair : Except.FailsAs (·.family ∈ [.value, .kind]) v.pair := by
  intro cause h
  rw [pair] at h
  split at h
  · cases h
    exact List.mem_cons_of_mem _ List.mem_cons_self
  · cases h
  · cases h
    exact List.mem_cons_self
  · cases h
    exact List.mem_cons_self
  · cases h
    exact List.mem_cons_self

end FeedWatch.Json
