import FeedWatch.Pipeline
import FeedWatch.Proofs.Except
import FeedWatch.Proofs.Json.RoundTrip
import FeedWatch.Proofs.Text.Template

/-!
# One frame, at most one alert

Handling a frame hands an alert to the sink at one place only, when the owner has been looked up,
and then goes on to deliver that alert.  Main statement: a frame hands over exactly one alert when
it is wanted — it is no heartbeat, alerts are on, it decodes to an event that is no mere change of
owner, and some filter accepts the item — and the user does not stop the program during the look-up,
and none otherwise; the alert lists the filters that accept the item, in order
(`Pipeline.sends_handle`).
-/

namespace FeedWatch

/-- Pages with templates that hold nothing but their own fields. -/
structure AlertPages.AreOwn (pages : AlertPages) : Prop where
  player : Text.HoldsOnly "owner".toList pages.player.toList
  image : Text.HoldsOnly "item_id".toList pages.image.toList

lemma AlertPages.standard_areOwn : standard.AreOwn := by
  refine ⟨?_, ?_⟩
  · exact Text.HoldsOnly.plain_append (s := "https://pitpanda.rocks/players/".toList)
      (by decide) (.field .nil)
  · exact Text.HoldsOnly.plain_append (s := "https://pitpanda.rocks/api/images/item/".toList)
      (by decide) (.field .nil)

/-- An alert with a common text and some filters: it names the filters in order, also in the card's
text, and its content is the common text and, each on a new line, the texts of the filters that have
one. -/
structure Alert.Lists (a : Alert) (common : String) (filters : List Filter) : Prop where
  filterNames : a.filterNames = filters.map Filter.name
  description : ∃ before, a.description = before ++ "\nPassed filters: " ++
    ", ".intercalate (filters.map fun f => "`" ++ f.name ++ "`")
  content : a.content = common ++
    String.join ((filters.filter (·.alert.isFilled)).map fun f => "\n" ++ f.alert.shown)

/-- A frame that an alert is wanted for: alerts are on, it is no heartbeat, and it holds an event
that is no mere change of owner and whose item some filter accepts. -/
structure Registry.Wants (r : Registry) (payload : Payload) (e : Event) : Prop where
  notHeartbeat : payload.isHeartbeat = false
  enabled : r.settings.enabled = true
  event : Event.ofFrame payload = .ok e
  tags : e.tags ≠ ["owner"]
  accepted : ∃ f ∈ r.filters, f.accepts e.item = true

namespace Alert

variable {pages : AlertPages}

lemma isFieldName_owner : Text.IsFieldName "owner".toList :=
  ⟨by decide, by decide, by decide⟩

lemma isFieldName_itemId : Text.IsFieldName "item_id".toList :=
  ⟨by decide, by decide, by decide⟩

lemma text_eq (common : String) (filters : List Filter) :
    text common (filters.map Filter.stored) = common ++
      String.join ((filters.filter (·.alert.isFilled)).map fun f => "\n" ++ f.alert.shown) := by
  induction filters generalizing common with
  | nil => simp [text]
  | cons f filters ih =>
    have htext : ∀ c : String, text c (f.stored :: filters.map Filter.stored) =
        text (if f.alert.isFilled then c ++ "\n" ++ f.alert.shown else c)
          (filters.map Filter.stored) := fun c => rfl
    rw [List.map_cons, htext, ih]
    cases hf : f.alert.isFilled with
    | true => simp [hf, String.append_assoc]
    | false => simp [hf]

/-- With such pages there is an alert for every event. -/
lemma ofEvent_ok (e : Event) (common : String) (label : Option String) (time : Moment)
    (hpages : pages.AreOwn) (filters : List Filter) :
    ∃ a, ofEvent pages e (filters.map Filter.stored) common label time = .ok a ∧
      a.Lists common filters := by
  obtain ⟨link, hlink⟩ :=
    Text.fillTemplate_of_holdsOnly e.item.owner isFieldName_owner hpages.player
  obtain ⟨image, himage⟩ :=
    Text.fillTemplate_of_holdsOnly e.item.id isFieldName_itemId hpages.image
  rw [String.ofList_toList] at hlink himage
  have hnames : (filters.map Filter.stored).map StoredFilter.name = filters.map Filter.name := by
    rw [List.map_map]
    rfl
  have halert : ofEvent pages e (filters.map Filter.stored) common label time = .ok
      { content := text common (filters.map Filter.stored)
        description := describe (labelOr label e.item.owner) link e.tags (filters.map Filter.name)
        imageUrl := image, time, filterNames := filters.map Filter.name
        ownerLabel := labelOr label e.item.owner } := by
    simp only [ofEvent, hlink, himage, hnames]
    rfl
  refine ⟨_, halert, rfl, ?_, text_eq common filters⟩
  have hmarked : (filters.map fun f => "`" ++ f.name ++ "`") =
      (filters.map Filter.name).map fun name => "`" ++ name ++ "`" := by
    rw [List.map_map]
    rfl
  rw [hmarked]
  exact ⟨_, rfl⟩

end Alert

/-- Handling that is done or waits for a delivery. -/
inductive Progress.IsHandedOver : Progress → Prop where
  | done {r} : IsHandedOver (.done r)
  | replied {delay a attempt reply} : IsHandedOver (.wait delay (.replied a attempt reply))
  | retrying {delay a attempt} : IsHandedOver (.wait delay (.retrying a attempt))

/-- What handling leaves when it hands over no further alert: the sends are those told, and it is
done or waits for a delivery. -/
def Pipeline.Sent (sends : List (Nat × Alert)) (r : Pipeline × Progress) : Prop :=
  r.1.sends = sends ∧ r.2.IsHandedOver

namespace Pipeline

variable {registry : Registry} {epoch : Int} {now fuel : Nat} {p : Pipeline} {a : Alert}
variable {sends : List (Nat × Alert)} {r : Pipeline × Progress} {payload : Payload} {e : Event}

/-! ## Deliveries hand nothing over -/

lemma sent_concluded (success : Bool) : Sent p.sends (p.concluded a success) := by
  cases success with
  | true => exact ⟨rfl, .done⟩
  | false => exact ⟨rfl, .done⟩

lemma sent_onReply (d : Delivery) (attempt : Nat) (reply : Http.Reply) :
    Sent p.sends (p.onReply now d a attempt reply) := by
  rw [onReply]
  split
  · exact sent_concluded _
  · exact ⟨rfl, .retrying⟩
  · exact ⟨rfl, .done⟩
  · exact ⟨rfl, .done⟩

lemma sent_attemptPost (d : Delivery) (attempt : Nat) :
    Sent p.sends (p.attemptPost now d a attempt) := by
  simp only [attemptPost]
  split
  · exact sent_onReply _ _ _
  · exact ⟨rfl, .replied⟩

/-- Delivering an alert hands it over once. -/
lemma sent_deliver : Sent (p.sends ++ [(now, a)]) (p.deliver now a) := by
  simp only [deliver]
  split
  · exact ⟨rfl, .done⟩
  · exact sent_concluded _
  · split_ifs
    · exact ⟨rfl, .done⟩
    · exact ⟨rfl, .done⟩
    · exact sent_attemptPost _ _

/-- From a delivery on, nothing is handed over. -/
lemma Sent.finish (h : Sent sends r) : (finish registry epoch fuel now r).1.1.sends = sends := by
  induction fuel generalizing now r with
  | zero =>
    obtain ⟨p, progress⟩ := r
    cases progress with
    | done r => exact h.1
    | wait delay stage => exact h.1
  | succ fuel ih =>
    -- a reply leads to the end or to another attempt, and an attempt to a reply
    obtain ⟨p, progress⟩ := r
    obtain ⟨rfl, hover⟩ := h
    cases hover with
    | done => rfl
    | replied =>
      refine ih ?_
      rw [resume]
      split
      · exact sent_onReply _ _ _
      · exact ⟨rfl, .done⟩
    | retrying =>
      refine ih ?_
      rw [resume]
      split
      · exact sent_attemptPost _ _
      · exact ⟨rfl, .done⟩

/-! ## A frame up to the look-up -/

/-- With such pages the alert of an event is handed over once the owner is known. -/
lemma sent_onLabel (hpages : p.pages.AreOwn) (filters : List Filter) (label : Option String) :
    ∃ a, Alert.ofEvent p.pages e (filters.map Filter.stored) registry.settings.alert label
        (Moment.ofMicros (epoch + now)) = .ok a ∧
      Sent (p.sends ++ [(now, a)]) (p.onLabel registry epoch now e filters label false) := by
  obtain ⟨a, ha, -⟩ := Alert.ofEvent_ok e registry.settings.alert label
    (Moment.ofMicros (epoch + now)) hpages filters
  refine ⟨a, ha, ?_⟩
  have honLabel : p.onLabel registry epoch now e filters label false = p.deliver now a := by
    simp only [onLabel, compose, ha, Bool.false_eq_true, if_false]
  rw [honLabel]
  exact sent_deliver

lemma ask_untouched (p : Pipeline) (now : Nat) (owner : String) :
    (p.ask now owner).1.sends = p.sends ∧ (p.ask now owner).1.pages = p.pages := by
  rw [ask]
  split
  · exact ⟨rfl, rfl⟩
  · exact ⟨rfl, rfl⟩
  · dsimp only
    split
    · exact ⟨rfl, rfl⟩
    · split
      · exact ⟨rfl, rfl⟩
      · exact ⟨rfl, rfl⟩

/-- The look-up does not depend on what was counted before. -/
lemma lookup_ask {p q : Pipeline} (hresolver : q.resolver = p.resolver)
    (hnetwork : q.network = p.network) (owner : String) :
    (q.ask now owner).2 = (p.ask now owner).2 := by
  rw [ask, ask, hresolver]
  cases p.resolver with
  | none => rfl
  | table answers => rfl
  | service template hasClient =>
    simp only [hnetwork]
    split
    · rfl
    · split
      · rfl
      · rfl

/-- The alert of an event is composed with the label that was found, and handed over once, at once
or after a wait. -/
lemma composed_handleEvent (fuel : Nat) (hpages : p.pages.AreOwn) (htags : e.tags ≠ ["owner"])
    (haccepted : ∃ f ∈ registry.filters, f.accepts e.item = true)
    (hgoesOn : (p.ask now e.item.owner).2.interrupted = false) :
    ∃ (time : Nat) (a : Alert), Alert.ofEvent p.pages e
        ((registry.accepting e.item).map Filter.stored) registry.settings.alert
        (p.ask now e.item.owner).2.label (Moment.ofMicros (epoch + time)) = .ok a ∧
      (finish registry epoch (fuel + 1) now (p.handleEvent registry epoch now e)).1.1.sends =
        p.sends ++ [(time, a)] := by
  have hsome : (registry.accepting e.item).isEmpty = false := by
    obtain ⟨f, hf, haccepts⟩ := haccepted
    rw [List.isEmpty_eq_false_iff]
    exact List.ne_nil_of_mem (List.mem_filter.2 ⟨hf, haccepts⟩)
  have howner : e.isOwnerOnly = false := by
    rw [Event.isOwnerOnly, beq_eq_false_iff_ne]
    exact htags
  simp only [handleEvent, howner, hsome, Bool.false_eq_true, if_false]
  obtain ⟨hsends, hsame⟩ := ask_untouched p now e.item.owner
  cases hask : p.ask now e.item.owner with
  | mk q lookup =>
    rw [hask] at hsends hsame hgoesOn
    rw [← hsame] at hpages
    simp only at hgoesOn hsends ⊢
    rw [hgoesOn, ← hsends, ← hsame]
    split
    · obtain ⟨a, ha, hsent⟩ := sent_onLabel hpages (registry.accepting e.item) lookup.label
      exact ⟨now, a, ha, hsent.finish⟩
    · obtain ⟨a, ha, hsent⟩ := sent_onLabel hpages (registry.accepting e.item) lookup.label
      exact ⟨now + lookup.delay, a, ha, hsent.finish⟩

/-- The alert of an event lists the filters that accept its item. -/
lemma sends_handleEvent (hpages : p.pages.AreOwn) (htags : e.tags ≠ ["owner"])
    (haccepted : ∃ f ∈ registry.filters, f.accepts e.item = true)
    (hgoesOn : (p.ask now e.item.owner).2.interrupted = false) :
    ∃ time a, (finish registry epoch (fuel + 1) now
        (p.handleEvent registry epoch now e)).1.1.sends = p.sends ++ [(time, a)] ∧
      a.Lists registry.settings.alert (registry.filters.filter (·.accepts e.item)) := by
  obtain ⟨time, a, ha, hsends⟩ := composed_handleEvent fuel hpages htags haccepted hgoesOn
  obtain ⟨b, hb, hlists⟩ := Alert.ofEvent_ok e registry.settings.alert
    (p.ask now e.item.owner).2.label (Moment.ofMicros (epoch + time)) hpages
    (registry.accepting e.item)
  cases ha.symm.trans hb
  exact ⟨time, a, hsends, hlists⟩

/-- An event that no alert is wanted for, or whose look-up the user stops, hands nothing over. -/
lemma sent_handleEvent (h : e.tags ≠ ["owner"] → (∃ f ∈ registry.filters, f.accepts e.item = true) →
      (p.ask now e.item.owner).2.interrupted = true) :
    (finish registry epoch (fuel + 1) now (p.handleEvent registry epoch now e)).1.1.sends =
      p.sends := by
  rw [handleEvent]
  by_cases howner : e.isOwnerOnly = true
  · rw [if_pos howner]
    rfl
  rw [if_neg howner]
  have htags : e.tags ≠ ["owner"] := fun htags => howner (by rw [Event.isOwnerOnly, htags]; rfl)
  by_cases hnone : (registry.accepting e.item).isEmpty = true
  · simp only [hnone, if_true]
    rfl
  have haccepted : ∃ f ∈ registry.filters, f.accepts e.item = true := by
    obtain ⟨f, hf⟩ := List.exists_mem_of_ne_nil _ (mt List.isEmpty_iff.2 hnone)
    exact ⟨f, List.mem_filter.1 hf⟩
  have hstopped := h htags haccepted
  obtain ⟨hsends, -⟩ := ask_untouched p now e.item.owner
  cases hask : p.ask now e.item.owner with
  | mk q lookup =>
    rw [hask] at hsends hstopped
    simp only at hsends hstopped
    simp only [hnone, Bool.false_eq_true, if_false]
    rw [hstopped, ← hsends]
    have hdone : Sent q.sends (q, .done (.error .interrupted)) := ⟨rfl, .done⟩
    split
    · rfl
    · exact hdone.finish

lemma exists_waitLimit (p : Pipeline) : ∃ n, p.waitLimit = n + 1 := by
  rw [waitLimit]
  cases p.sink with
  | scripted replies => exact ⟨0, rfl⟩
  | webhook d => exact ⟨_, rfl⟩

/-- A frame hands exactly one alert to the sink if an alert is wanted for it and the user does not
stop the program while the owner is looked up; the alert lists all filters that accept the item,
and has their texts after the common text.  Any other frame hands none over. -/
theorem sends_handle (p : Pipeline) (registry : Registry) (epoch : Int) (now : Nat)
    (payload : Payload) (hpages : p.pages.AreOwn) :
    (∀ e, registry.Wants payload e → (p.ask now e.item.owner).2.interrupted = false →
      ∃ time a, (p.handle registry epoch now payload).1.1.sends = p.sends ++ [(time, a)] ∧
        a.Lists registry.settings.alert (registry.filters.filter (·.accepts e.item))) ∧
      ((∀ e, registry.Wants payload e → (p.ask now e.item.owner).2.interrupted = true) →
        (p.handle registry epoch now payload).1.1.sends = p.sends) := by
  obtain ⟨fuel, hfuel⟩ := p.exists_waitLimit
  rw [handle, hfuel]
  refine ⟨fun e hwants hgoesOn => ?_, fun h => ?_⟩
  · rw [receive]
    simp only [hwants.notHeartbeat, hwants.enabled, hwants.event, Bool.not_true,
      Bool.false_eq_true, if_false]
    refine sends_handleEvent hpages hwants.tags hwants.accepted ?_
    -- the frame was noted and counted meanwhile, which the look-up does not see
    rw [← hgoesOn]
    apply congrArg Lookup.interrupted
    apply lookup_ask
    · rfl
    · rfl
  · rw [receive]
    by_cases hheartbeat : payload.isHeartbeat = true
    · simp only [hheartbeat, if_true]
      rfl
    by_cases henabled : registry.settings.enabled = true
    · cases hevent : Event.ofFrame payload with
      | error err =>
        simp only [hheartbeat, henabled, Bool.not_true, Bool.false_eq_true, if_false]
        split
        · rfl
        · rfl
      | ok e =>
        simp only [hheartbeat, henabled, Bool.not_true, Bool.false_eq_true, if_false]
        refine sent_handleEvent fun htags haccepted => ?_
        have hwants : registry.Wants payload e :=
          ⟨Bool.eq_false_iff.2 hheartbeat, henabled, hevent, htags, haccepted⟩
        rw [← h e hwants]
        apply congrArg Lookup.interrupted
        apply lookup_ask
        · rfl
        · rfl
    · simp only [hheartbeat, henabled, Bool.not_false, if_true, Bool.false_eq_true, if_false]
      rfl

/-- An event on an item that two filters accept, one of them with a text of its own. -/
theorem sends_handle_two_filters :
    let v : Json := .obj [("tags", .arr [.str "new"]),
      ("item", .obj [("_id", .str "1"), ("owner", .str "u")])]
    let registry : Registry := ⟨⟨true, [], "hi", none⟩,
      [⟨"a", ⟨"", []⟩, .str "x", 0⟩, ⟨"b", ⟨"", []⟩, .null, 1⟩]⟩
    let p := Pipeline.start .standard .none (.scripted []) ⟨[], [], 0⟩
    p.pages.AreOwn ∧ ∃ e time a, registry.Wants (.text v.indented) e ∧
      (p.handle registry 0 0 (.text v.indented)).1.1.sends = [(time, a)] ∧
      a.filterNames = ["a", "b"] ∧ a.content = "hi\nx" := by
  intro v registry p
  have hitem : Json.IsPlain (.obj [("_id", .str "1"), ("owner", .str "u")]) :=
    .obj (by decide) (List.forall_mem_cons.2 ⟨.str, List.forall_mem_singleton.2 .str⟩)
  have hplain : v.IsPlain := by
    refine .obj (by decide) (List.forall_mem_cons.2 ⟨?_, List.forall_mem_singleton.2 hitem⟩)
    exact .arr (List.forall_mem_singleton.2 .str)
  have hread : Json.read v.indented = .ok v := Json.read_indented hplain
  have hjson : ∃ e, Event.ofJson v = .ok e ∧ e.tags = ["new"] := ⟨_, rfl, rfl⟩
  obtain ⟨e, hjson, htags⟩ := hjson
  have he : Event.ofFrame (.text v.indented) = .ok e := by
    simp only [Event.ofFrame, Event.readPayload, hread]
    exact hjson
  have hwants : registry.Wants (.text v.indented) e := by
    refine ⟨by decide +kernel, rfl, he, ?_, ⟨_, List.mem_cons_self, rfl⟩⟩
    rw [htags]
    decide
  obtain ⟨time, a, hsends, hlists⟩ :=
    (sends_handle p registry 0 0 _ AlertPages.standard_areOwn).1 e hwants rfl
  exact ⟨AlertPages.standard_areOwn, e, time, a, hwants, hsends, hlists.filterNames, hlists.content⟩

end Pipeline

end FeedWatch
