import FeedWatch.Proofs.Pipeline.Dispatch

/-!
# Labels of owners

Looking an owner up is a best effort: whatever comes of it, the alert is sent, and it differs in
nothing but the name that the owner is shown under.  Main statement: of two ways to handle an event
that some filter accepts, with any resolvers and any replies to them, each hands exactly one alert
to the sink, and the two alerts agree in all but the label, its place in the text and the time; the
label is the one that was found, or the owner itself if there is none
(`Pipeline.alike_handleEvent`).
-/

namespace FeedWatch

/-- Two alerts that agree but for the label of the owner, which the text begins with, and the
time. -/
structure Alert.Alike (a b : Alert) : Prop where
  content : a.content = b.content
  imageUrl : a.imageUrl = b.imageUrl
  filterNames : a.filterNames = b.filterNames
  description : ∃ rest, a.description = "Owner: [" ++ a.ownerLabel ++ rest ∧
    b.description = "Owner: [" ++ b.ownerLabel ++ rest

/-- What looking an owner up comes to: a label, none, or a failure. -/
abbrev Finding := Except Owner.ResolveError (Option String)

/-- The finding is that the user stopped the program. -/
def Finding.isInterruption : Finding → Bool
  | .error (.trouble .interrupted) => true
  | _ => false

/-- An alert shows an owner under the label that was found, or under the owner's own name if no
label was found or an empty one. -/
structure Alert.Shows (a : Alert) (owner : String) (found : Finding) : Prop where
  label : ∀ label, found = .ok (some label) → label ≠ "" → a.ownerLabel = label
  owner : (∀ label, found = .ok (some label) → label = "") → a.ownerLabel = owner

namespace Alert

variable {pages : AlertPages} {e : Event} {filters : List StoredFilter} {common : String}
variable {label label' : Option String} {time time' : Moment} {a b : Alert}

/-- The parts of an alert. -/
lemma ofEvent_eq_ok (h : ofEvent pages e filters common label time = .ok a) :
    ∃ link imageUrl, Text.fillTemplate pages.player [("owner", e.item.owner)] = .ok link ∧
      Text.fillTemplate pages.image [("item_id", e.item.id)] = .ok imageUrl ∧
      a = {
        content := text common filters
        description := describe (labelOr label e.item.owner) link e.tags
          (filters.map StoredFilter.name)
        imageUrl, time, filterNames := filters.map StoredFilter.name
        ownerLabel := labelOr label e.item.owner } := by
  obtain ⟨link, hlink, h⟩ := Except.bind_eq_ok.1 h
  obtain ⟨imageUrl, himage, h⟩ := Except.bind_eq_ok.1 h
  cases h
  exact ⟨link, imageUrl, hlink, himage, rfl⟩

/-- The text of an alert begins with the label. -/
lemma describe_eq (link : String) (tags names : List String) :
    ∃ rest, ∀ label, describe label link tags names = "Owner: [" ++ label ++ rest := by
  refine ⟨?rest, fun label => ?text⟩
  case text =>
    simp only [describe, String.append_assoc]
    rfl

/-- The alerts of one event agree in all that the label has no part in. -/
lemma alike_of_ofEvent (ha : ofEvent pages e filters common label time = .ok a)
    (hb : ofEvent pages e filters common label' time' = .ok b) : a.Alike b := by
  obtain ⟨link, imageUrl, hlink, himage, rfl⟩ := ofEvent_eq_ok ha
  obtain ⟨_, _, hlink', himage', rfl⟩ := ofEvent_eq_ok hb
  cases hlink.symm.trans hlink'
  cases himage.symm.trans himage'
  obtain ⟨rest, hrest⟩ := describe_eq link e.tags (filters.map StoredFilter.name)
  exact ⟨rfl, rfl, rfl, rest, hrest _, hrest _⟩

lemma ownerLabel_of_ofEvent (ha : ofEvent pages e filters common label time = .ok a) :
    a.ownerLabel = labelOr label e.item.owner := by
  obtain ⟨_, _, _, _, rfl⟩ := ofEvent_eq_ok ha
  rfl

end Alert

namespace Pipeline

variable {p : Pipeline} {now : Nat} {owner : String} {a : Alert}

/-- What the resolver of a pipeline finds about an owner. -/
def find (p : Pipeline) (now : Nat) (owner : String) : Finding :=
  match p.resolver with
  | .none => .ok none
  | .table answers =>
    match answers.lookup owner with
    | some ⟨_, _, true⟩ => .error (.trouble .interrupted)
    | some ⟨_, label, false⟩ => .ok label
    | none => .ok none
  | .service template _ => (Owner.resolve template owner ⟨p.network, now⟩).2

/-- A look-up gives the label that was found, and none if it failed; it goes on unless the user
stopped the program. -/
lemma ask_eq_find (p : Pipeline) (now : Nat) (owner : String) :
    (p.ask now owner).2.interrupted = (p.find now owner).isInterruption ∧
      ((p.ask now owner).2.interrupted = false →
        (p.ask now owner).2.label = (p.find now owner).toOption.join) := by
  rw [ask, find]
  cases p.resolver with
  | none => exact ⟨rfl, fun _ => rfl⟩
  | table answers =>
    dsimp only
    cases answers.lookup owner with
    | none => exact ⟨rfl, fun _ => rfl⟩
    | some lookup =>
      obtain ⟨delay, label, interrupted⟩ := lookup
      cases interrupted with
      | false => exact ⟨rfl, fun _ => rfl⟩
      | true =>
        refine ⟨rfl, fun hgoesOn => ?_⟩
        cases hgoesOn
  | service template hasClient =>
    simp only [Owner.resolve]
    cases Owner.url template owner with
    | error e => exact ⟨rfl, fun _ => rfl⟩
    | ok address =>
      simp only [Http.Line.exchange]
      cases Owner.ofReply (p.network.request "GET" (some address) none now).2.reply with
      | ok label => exact ⟨rfl, fun _ => rfl⟩
      | error t =>
        cases t with
        | interrupted =>
          refine ⟨rfl, fun hgoesOn => ?_⟩
          cases hgoesOn
        | _ => exact ⟨rfl, fun _ => rfl⟩

/-- An alert that was composed with what a look-up came to shows the owner accordingly. -/
lemma shows_of_ofEvent {pages : AlertPages} {e : Event} {filters : List StoredFilter}
    {common : String} {time : Moment} (hfind : (p.find now e.item.owner).isInterruption = false)
    (ha : Alert.ofEvent pages e filters common (p.ask now e.item.owner).2.label time = .ok a) :
    a.Shows e.item.owner (p.find now e.item.owner) := by
  obtain ⟨hinterrupted, hlabel⟩ := p.ask_eq_find now e.item.owner
  have hshown : a.ownerLabel =
      Alert.labelOr (p.find now e.item.owner).toOption.join e.item.owner := by
    rw [Alert.ownerLabel_of_ofEvent ha, hlabel (hinterrupted.trans hfind)]
  refine ⟨fun label hfound hne => ?_, fun hnone => ?_⟩
  · rw [hshown, hfound]
    exact if_neg (mt String.isEmpty_iff.1 hne)
  · rw [hshown]
    cases hfound : p.find now e.item.owner with
    | error err => rfl
    | ok label =>
      cases label with
      | none => rfl
      | some label =>
        cases hnone label hfound
        rfl

/-- Of two ways to handle an event that some filter accepts and that is no mere change of owner,
whatever the resolvers are and find, short of the user stopping the program, each hands exactly one
alert to the sink, and the two agree in all but the label, its place in the text and the time. -/
theorem alike_handleEvent (registry : Registry) (e : Event) (p q : Pipeline) (epoch epoch' : Int)
    (now now' : Nat) (hpages : p.pages.AreOwn) (hsame : q.pages = p.pages)
    (htags : e.tags ≠ ["owner"]) (haccepted : ∃ f ∈ registry.filters, f.accepts e.item = true)
    (hp : (p.find now e.item.owner).isInterruption = false)
    (hq : (q.find now' e.item.owner).isInterruption = false) :
    ∃ time a time' b,
      (finish registry epoch p.waitLimit now
        (p.handleEvent registry epoch now e)).1.1.sends = p.sends ++ [(time, a)] ∧
      (finish registry epoch' q.waitLimit now'
        (q.handleEvent registry epoch' now' e)).1.1.sends = q.sends ++ [(time', b)] ∧
      a.Alike b ∧ a.Shows e.item.owner (p.find now e.item.owner) ∧
      b.Shows e.item.owner (q.find now' e.item.owner) := by
  obtain ⟨fuel, hfuel⟩ := p.exists_waitLimit
  obtain ⟨fuel', hfuel'⟩ := q.exists_waitLimit
  rw [hfuel, hfuel']
  obtain ⟨time, a, ha, hsends⟩ := composed_handleEvent fuel hpages htags haccepted
    ((p.ask_eq_find now e.item.owner).1.trans hp)
  obtain ⟨time', b, hb, hsends'⟩ := composed_handleEvent fuel' (hsame ▸ hpages) htags
    haccepted ((q.ask_eq_find now' e.item.owner).1.trans hq)
  have hboth : a.Alike b := by
    rw [hsame] at hb
    exact Alert.alike_of_ofEvent ha hb
  exact ⟨time, a, time', b, hsends, hsends', hboth, shows_of_ofEvent hp ha,
    shows_of_ofEvent hq hb⟩

/-- An event whose owner is found in a table, and one whose owner a service that is out of reach
is asked about. -/
theorem alike_handleEvent_unreachable :
    let item : Item := ⟨"1", [], .ofList [], 0, none, none, none, none, "u", .null, .null⟩
    let e : Event := ⟨["new", "owner"], item⟩
    let registry : Registry := ⟨⟨true, [], "hi", none⟩, [⟨"a", ⟨"", []⟩, .null, 0⟩]⟩
    let named : Resolver := .table [("u", ⟨500, some "[120] steve", false⟩)]
    let p := Pipeline.start .standard named (.scripted []) (.ofRoutes [])
    let q := Pipeline.start .standard (.service Owner.defaultTemplate false) (.scripted [])
      (.ofRoutes [])
    p.pages.AreOwn ∧ e.tags ≠ ["owner"] ∧ (∃ f ∈ registry.filters, f.accepts e.item = true) ∧
      (p.find 0 "u").isInterruption = false ∧ (q.find 0 "u").isInterruption = false ∧
      ∃ time a time' b,
        (finish registry 0 p.waitLimit 0 (p.handleEvent registry 0 0 e)).1.1.sends = [(time, a)] ∧
        (finish registry 0 q.waitLimit 0 (q.handleEvent registry 0 0 e)).1.1.sends = [(time', b)] ∧
        a.Alike b ∧ a.ownerLabel = "[120] steve" ∧ b.ownerLabel = "u" := by
  intro item e registry named p q
  have hpages : p.pages.AreOwn := AlertPages.standard_areOwn
  have htags : e.tags ≠ ["owner"] := by decide
  have haccepted : ∃ f ∈ registry.filters, f.accepts e.item = true := ⟨_, List.mem_cons_self, rfl⟩
  have hfound : p.find 0 "u" = .ok (some "[120] steve") := rfl
  have hlost : q.find 0 "u" = .ok none := rfl
  have hp : (p.find 0 "u").isInterruption = false := by rw [hfound]; rfl
  have hq : (q.find 0 "u").isInterruption = false := by rw [hlost]; rfl
  obtain ⟨time, a, time', b, hsends, hsends', halike, ha, hb⟩ :=
    alike_handleEvent registry e p q 0 0 0 0 hpages rfl htags haccepted hp hq
  refine ⟨hpages, htags, haccepted, hp, hq, time, a, time', b, hsends, hsends', halike, ?_, ?_⟩
  · exact ha.label _ hfound (by decide)
  · refine hb.owner fun label hlabel => ?_
    cases hlost.symm.trans hlabel

end Pipeline

end FeedWatch
