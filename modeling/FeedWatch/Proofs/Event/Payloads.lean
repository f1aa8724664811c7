import FeedWatch.Event
import FeedWatch.Proofs.Except
import FeedWatch.Proofs.Json.Utf8
import Mathlib

/-!
# Texts and bytes on the feed

A frame of the feed comes as a text or as bytes, and the bytes do not say which encoding they are
in.  An event is read out of an object, which opens with a brace and goes on with a brace or a
quote, so its bytes are never taken for anything but UTF-8.  Main statement: a text and its bytes
are the heartbeat both or neither, and every event that the text holds is the event that its bytes
hold (`Event.ofFrame_toUTF8`).
-/

namespace FeedWatch

namespace Json

variable {s rest : List Char} {fs : List (String × Json)}

lemma numberOf_ne_obj {negative : Bool} {whole : List Char} {places : Option (List Char)}
    {power : Option Int} : numberOf negative whole places power ≠ .ok (.obj fs) := by
  intro h
  rw [numberOf.eq_def] at h
  split at h
  · split at h
    · cases h
    · cases h
  · cases h

lemma unsigned_ne_obj {negative : Bool} {start : Nat} {rest : Shorter s} :
    unsigned negative start s ≠ .ok (.obj fs, rest) := by
  intro h
  rw [unsigned.eq_def] at h
  split at h
  · cases h
  · dsimp only at h
    split at h
    · cases h
    next hnumber =>
      cases h
      exact numberOf_ne_obj hnumber

lemma word?_ne_obj {rest : Shorter s} : word? s ≠ some (.obj fs, rest) := by
  intro h
  rw [word?.eq_def] at h
  split at h <;> cases h

/-- Words and numbers are no objects. -/
lemma scalar_ne_obj {rest : Shorter s} : scalar s ≠ .ok (.obj fs, rest) := by
  intro h
  rw [scalar.eq_def] at h
  split at h
  next hword =>
    cases h
    exact word?_ne_obj hword
  next =>
    split at h
    next =>
      split at h
      next => cases h
      next hunsigned =>
        cases h
        exact unsigned_ne_obj hunsigned
    next => exact unsigned_ne_obj h

/-- The members of an object begin with a quote. -/
lemma head_of_fields {more : Shorter s} (h : fields s = .ok (fs, more)) :
    ∃ t, s = '\x22' :: t := by
  rw [fields.eq_def] at h
  split at h
  next => cases h
  next hkey =>
    rw [key.eq_def] at hkey
    split at hkey
    next => cases hkey
    next =>
      split_ifs at hkey with hquote
      rw [hquote]
      exact ⟨_, rfl⟩

/-- An object opens with a brace, and what comes next but for gaps is a brace or a quote. -/
lemma head_of_object {more : Shorter s} (h : value s = .ok (.obj fs, more)) :
    ∃ t c u, s = '\x7b' :: t ∧ skipGap t = c :: u ∧ (c = '\x7d' ∨ c = '\x22') := by
  rw [value.eq_def] at h
  split at h
  next => cases h
  next c t =>
    dsimp only at h
    split_ifs at h with hquote hbracket hclosed hbrace hempty
    · split at h
      · cases h
      · cases h
    · cases h
    · split at h
      · cases h
      · cases h
    · obtain ⟨u, hu⟩ := List.head?_eq_some_iff.1 hempty
      exact ⟨t, _, u, hbrace ▸ rfl, hu, .inl rfl⟩
    · split at h
      next => cases h
      next hfields =>
        obtain ⟨u, hu⟩ := head_of_fields hfields
        exact ⟨t, _, u, hbrace ▸ rfl, hu, .inr rfl⟩
    · exact absurd h scalar_ne_obj

lemma IsNonzeroAscii.of_isGap {c : Char} (h : isGap c = true) : IsNonzeroAscii c := by
  simp only [isGap, Bool.or_eq_true, decide_eq_true_eq, or_assoc] at h
  obtain rfl | rfl | rfl | rfl := h <;> decide

/-- What comes before or at a character of ASCII, if it is a gap, is such a character too. -/
lemma head_of_skipGap {c : Char} (h : skipGap s = c :: rest) (hc : IsNonzeroAscii c) :
    ∃ a t, s = a :: t ∧ IsNonzeroAscii a := by
  cases s with
  | nil => cases h
  | cons a t =>
    refine ⟨a, t, rfl, ?_⟩
    rw [skipGap, List.dropWhile_cons] at h
    split_ifs at h with hgap
    · exact .of_isGap hgap
    · cases h
      exact hc

/-- A text that is read as an object begins with two characters of ASCII. -/
lemma head_of_wholeObject (h : wholeValue s = .ok (.obj fs)) :
    ∃ a b t, s = a :: b :: t ∧ IsNonzeroAscii a ∧ IsNonzeroAscii b := by
  rw [wholeValue.eq_def] at h
  split at h
  next => cases h
  next v more hless hvalue =>
    split_ifs at h
    cases h
    obtain ⟨t, c, u, hobject, hnext, hc⟩ := head_of_object hvalue
    have hsecond : IsNonzeroAscii c := by
      obtain rfl | rfl := hc <;> decide
    cases s with
    | nil => cases hobject
    | cons a s =>
      rw [skipGap, List.dropWhile_cons] at hobject
      split_ifs at hobject with hgap
      · obtain ⟨b, s, rfl, hb⟩ := head_of_skipGap hobject (by decide)
        exact ⟨a, b, s, rfl, .of_isGap hgap, hb⟩
      · cases hobject
        obtain ⟨b, s, rfl, hb⟩ := head_of_skipGap hnext hsecond
        exact ⟨_, b, s, rfl, by decide, hb⟩

/-- The bytes of a text that is read as an object are read as that object. -/
lemma readBytes_of_object {text : String} (h : read text = .ok (.obj fs)) :
    readBytes text.toUTF8 = .ok (.obj fs) := by
  have hdocument := Except.mapError_eq_ok.1 h
  rw [document] at hdocument
  split_ifs at hdocument
  obtain ⟨a, b, t, htext, ha, hb⟩ := head_of_wholeObject hdocument
  rw [readBytes_toUTF8 (htext ▸ detect_of_isNonzeroAscii t ha hb), hdocument]
  rfl

end Json

lemma beq_bytes_iff {a b : ByteArray} : (a == b) = true ↔ a = b := by
  rw [ByteArray.ext_iff]
  exact beq_iff_eq (a := a.data) (b := b.data)

lemma Payload.isHeartbeat_toUTF8 (s : String) :
    (Payload.bytes s.toUTF8).isHeartbeat = (Payload.text s).isHeartbeat := by
  rw [isHeartbeat, isHeartbeat, Bool.eq_iff_iff, beq_bytes_iff, beq_iff_eq]
  exact String.toByteArray_inj

/-- Events are read out of objects. -/
lemma Event.exists_of_ofJson {v : Json} {e : Event} (h : ofJson v = .ok e) : ∃ fs, v = .obj fs := by
  cases v with
  | obj fs => exact ⟨fs, rfl⟩
  | _ => cases h

/-- A text and its bytes are the heartbeat both or neither, and an event that the text holds is the
event that its bytes hold. -/
theorem Event.ofFrame_toUTF8 (s : String) :
    (Payload.text s).isHeartbeat = (Payload.bytes s.toUTF8).isHeartbeat ∧
      ∀ e, Event.ofFrame (.text s) = .ok e → Event.ofFrame (.bytes s.toUTF8) = .ok e := by
  refine ⟨(Payload.isHeartbeat_toUTF8 s).symm, fun e h => ?_⟩
  rw [ofFrame] at h
  split at h
  next v hread =>
    obtain ⟨fs, rfl⟩ := exists_of_ofJson h
    have hbytes := Json.readBytes_of_object (Except.mapError_eq_ok.1 hread)
    rw [ofFrame, readPayload, hbytes]
    exact h
  next => cases h

/-- An event behind a line break, with a name beyond ASCII: its bytes hold the same event. -/
theorem Event.ofFrame_toUTF8_scripts :
    let s := "\n\x7b\"tags\": [\"new\"], \"item\": \x7b\"_id\": \"1\", \"owner\": \"é🗡\"\x7d\x7d"
    ∃ e, Event.ofFrame (.text s) = .ok e ∧ e.item.owner = "é🗡" ∧
      Event.ofFrame (.bytes s.toUTF8) = .ok e := by
  intro s
  have htext : Event.ofFrame (.text s) = .ok ⟨["new"],
      ⟨"1", [], .ofList [], 0, none, none, none, none, "é🗡", .null, .null⟩⟩ := by cbv
  exact ⟨_, htext, rfl, (Event.ofFrame_toUTF8 s).2 _ htext⟩

end FeedWatch
