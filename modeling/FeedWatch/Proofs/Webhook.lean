import FeedWatch.Settings
import FeedWatch.Text.Template
import Mathlib.Tactic.Common

/-!
# Addresses of webhooks

The address of a webhook ends in `webhooks`, its id and its token, with any number of slashes
between them and behind them.  `Segmented` says which names stand between the slashes of a text,
without telling how they are found.

Main statement: credentials are read off exactly such addresses, both are names without slashes, and
the address that is written of credentials gives them back (`Webhook.ofUrl?_url`).
-/

namespace FeedWatch

/-- A name between slashes. -/
def IsSegment (name : String) : Prop := name ≠ "" ∧ '/' ∉ name.toList

/-- `Segmented text names`: the names are what stands between the slashes of the text. -/
inductive Segmented : String → List String → Prop where
  | nil : Segmented "" []
  | slash {text names} :
    Segmented text names →
    Segmented ("/" ++ text) names
  | last {name} :
    IsSegment name →
    Segmented name [name]
  | name {name text names} :
    IsSegment name →
    Segmented text names →
    Segmented (name ++ "/" ++ text) (name :: names)

variable {url text name : String} {names : List String} {w : Webhook} {location : Json}

namespace Webhook

/-! ## The names in an address -/

/-- A slash sets apart what stands before and behind it. -/
lemma segments_append (before behind : String) :
    segments (before ++ "/" ++ behind) = segments before ++ segments behind := by
  have hchars : (before ++ "/" ++ behind).toList = before.toList ++ '/' :: behind.toList := by
    rw [String.toList_append, String.toList_append, List.append_assoc]
    rfl
  rw [segments, hchars, List.splitOn_append_cons_self, List.map_append, List.filter_append]
  rfl

lemma segments_of_isSegment (h : IsSegment name) : segments name = [name] := by
  rw [segments, List.splitOn_eq_singleton h.2, List.map_singleton, String.ofList_toList]
  exact List.filter_cons_of_pos (bne_iff_ne.2 h.1)

end Webhook

/-- The names that are found are the ones that stand there. -/
lemma Segmented.segments_eq (h : Segmented text names) : Webhook.segments text = names := by
  induction h with
  | nil => rfl
  | @slash text names _ ih =>
    rw [← String.empty_append (s := "/"), Webhook.segments_append, ih]
    rfl
  | last hname => exact Webhook.segments_of_isSegment hname
  | name hname _ ih =>
    rw [Webhook.segments_append, Webhook.segments_of_isSegment hname, ih]
    rfl

/-- Every text has names, if only none at all. -/
lemma segmented_segments (text : String) : Segmented text (Webhook.segments text) := by
  -- on the length of the text: the first slash sets a shorter one apart
  by_cases hslash : '/' ∈ text.toList
  · obtain ⟨before, behind, hchars, hbefore⟩ := List.eq_append_cons_of_mem hslash
    have htext : text = String.ofList before ++ "/" ++ String.ofList behind := by
      rw [← String.toList_inj]
      simp [hchars]
    have hsmaller : behind.length < text.toList.length := by
      rw [hchars, List.length_append, List.length_cons]
      omega
    have hrest := segmented_segments (String.ofList behind)
    rw [htext, Webhook.segments_append]
    by_cases hempty : before = []
    · subst hempty
      exact .slash hrest
    · have hname : IsSegment (String.ofList before) := by
        refine ⟨?_, by rwa [String.toList_ofList]⟩
        simpa using hempty
      rw [Webhook.segments_of_isSegment hname]
      exact .name hname hrest
  · by_cases hempty : text = ""
    · subst hempty
      exact .nil
    · rw [Webhook.segments_of_isSegment ⟨hempty, hslash⟩]
      exact .last ⟨hempty, hslash⟩
termination_by text.toList.length
decreasing_by simpa using hsmaller

lemma segmented_iff : Segmented text names ↔ Webhook.segments text = names :=
  ⟨Segmented.segments_eq, fun h => h ▸ segmented_segments text⟩

/-- Only names stand between slashes. -/
lemma Segmented.isSegment_of_mem (h : Segmented text names) (hmem : name ∈ names) :
    IsSegment name := by
  induction h with
  | nil => cases hmem
  | slash _ ih => exact ih hmem
  | last hname =>
    rw [List.mem_singleton.1 hmem]
    exact hname
  | name hname _ ih =>
    obtain rfl | hmem := List.mem_cons.1 hmem
    · exact hname
    · exact ih hmem

namespace Webhook

/-! ## The credentials in an address -/

lemma ofUrl?_eq_some_iff :
    ofUrl? url location = some w ↔
      w.location = location ∧ ∃ front, Segmented url (front ++ ["webhooks", w.id, w.token]) := by
  simp only [segmented_iff, ofUrl?]
  constructor
  · intro h
    split at h
    · rename_i token id front hreverse
      obtain rfl := Option.some.inj h
      refine ⟨rfl, front.reverse, ?_⟩
      rw [← List.reverse_reverse (segments url), hreverse]
      simp
    · cases h
  · rintro ⟨rfl, front, hsegments⟩
    simp [hsegments]

lemma ofUrl?_location (h : ofUrl? url location = some w) : w.location = location :=
  (ofUrl?_eq_some_iff.1 h).1

/-- The address that is written of credentials ends in them. -/
lemma segmented_url (hid : IsSegment w.id) (htoken : IsSegment w.token) :
    Segmented w.url (["https:", "discord.com", "api"] ++ ["webhooks", w.id, w.token]) := by
  have hroot : "https://discord.com/api/webhooks/" = "https://discord.com/api/webhooks" ++ "/" :=
    rfl
  have hurl : w.url = "https://discord.com/api/webhooks" ++ "/" ++ (w.id ++ "/" ++ w.token) := by
    unfold Webhook.url
    rw [hroot]
    simp only [String.append_assoc]
  have hhost : segments "https://discord.com/api/webhooks"
      = ["https:", "discord.com", "api", "webhooks"] := by
    decide +kernel
  rw [segmented_iff, hurl, segments_append, segments_append, hhost, segments_of_isSegment hid,
    segments_of_isSegment htoken]
  rfl

/-- The braces that stand in credentials are nothing to the template of addresses. -/
lemma fillTemplate_url :
    Text.fillTemplate "https://discord.com/api/webhooks/\x7bid\x7d/\x7btoken\x7d"
      [("id", w.id), ("token", w.token)] = .ok w.url := by
  have hpieces : Text.Template.pieces
      "https://discord.com/api/webhooks/\x7bid\x7d/\x7btoken\x7d".toList =
        [.text "https://discord.com/api/webhooks/".toList, .field "id".toList none [],
          .text "/".toList, .field "token".toList none [], .text []] := by
    rfl
  have hid : Text.Template.fieldValue [("id", w.id), ("token", w.token)] "id".toList none
      = .ok (.text w.id.toList) := by
    rfl
  have htoken : Text.Template.fieldValue [("id", w.id), ("token", w.token)] "token".toList none
      = .ok (.text w.token.toList) := by
    rfl
  rw [Text.fillTemplate, Text.Template.fill, hpieces]
  simp only [List.foldlM_cons, List.foldlM_nil, hid, htoken]
  have htext : "https://discord.com/api/webhooks/".toList ++ w.id.toList ++ "/".toList
      ++ w.token.toList = w.url.toList := by
    unfold Webhook.url
    simp only [String.toList_append]
  calc
    _ = Except.ok (String.ofList ("https://discord.com/api/webhooks/".toList ++ w.id.toList
          ++ "/".toList ++ w.token.toList ++ [])) := rfl
    _ = _ := by rw [List.append_nil, htext, String.ofList_toList]

/-! ## Addresses and credentials -/

/-- What is read off an address are names between slashes. -/
lemma isSegment_of_ofUrl? (h : ofUrl? url location = some w) :
    IsSegment w.id ∧ IsSegment w.token := by
  obtain ⟨-, front, hnames⟩ := ofUrl?_eq_some_iff.1 h
  exact ⟨hnames.isSegment_of_mem (by simp), hnames.isSegment_of_mem (by simp)⟩

/-- Credentials that are names between slashes are read off the address that is written of them. -/
lemma ofUrl?_of_isSegment (hid : IsSegment w.id) (htoken : IsSegment w.token) :
    ofUrl? w.url location = some ⟨w.id, w.token, location⟩ :=
  ofUrl?_eq_some_iff.2 ⟨rfl, _, segmented_url hid htoken⟩

/-- Credentials are read off an address if and only if `webhooks` and two more names are the last
that stand between its slashes, and they are these two.  Written out as an address they are read
back, and so are any two names; a brace in them does not count as one of the template. -/
theorem ofUrl?_url (location : Json) :
    (∀ url w, ofUrl? url location = some w ↔
      w.location = location ∧ ∃ front, Segmented url (front ++ ["webhooks", w.id, w.token])) ∧
    (∀ url w, ofUrl? url location = some w →
      IsSegment w.id ∧ IsSegment w.token ∧ ofUrl? w.url location = some w) ∧
    (∀ id token place, IsSegment id → IsSegment token →
      ofUrl? (Webhook.mk id token place).url location = some ⟨id, token, location⟩) ∧
    (∀ w : Webhook, Text.fillTemplate "https://discord.com/api/webhooks/\x7bid\x7d/\x7btoken\x7d"
      [("id", w.id), ("token", w.token)] = .ok w.url) := by
  refine ⟨fun url w => ofUrl?_eq_some_iff, fun url w h => ?_,
    fun id token place hid htoken => ?_, fun w => fillTemplate_url⟩
  · obtain ⟨hid, htoken⟩ := isSegment_of_ofUrl? h
    obtain rfl := ofUrl?_location h
    exact ⟨hid, htoken, ofUrl?_of_isSegment hid htoken⟩
  · exact ofUrl?_of_isSegment hid htoken

/-- An address with too many slashes, whose token is `webhooks` and whose id is a field of the
template. -/
theorem ofUrl?_url_webhooks :
    let w : Webhook := ⟨"\x7btoken\x7d", "webhooks", .null⟩
    ofUrl? "/webhooks//webhooks/\x7btoken\x7d//webhooks/" .null = some w ∧
      w.url = "https://discord.com/api/webhooks/\x7btoken\x7d/webhooks" ∧
      ofUrl? w.url .null = some w := by
  intro w
  obtain ⟨hread, hback, -⟩ := ofUrl?_url .null
  have hnames : Segmented "/webhooks//webhooks/\x7btoken\x7d//webhooks/"
      (["webhooks"] ++ ["webhooks", w.id, w.token]) :=
    segmented_iff.2 (by decide +kernel)
  have hw := (hread _ w).2 ⟨rfl, ["webhooks"], hnames⟩
  exact ⟨hw, by decide +kernel, (hback _ w hw).2.2⟩

end Webhook

end FeedWatch
