import FeedWatch.Proofs.Watcher.Books
import FeedWatch.Proofs.Watcher.Watch

/-!
# Clients

A station makes at most two clients, one for look-ups and one for deliveries, each when it is first
needed.  `Engine.made` counts those that are made from one state to another, and `Engine.held` those
that are open.  `Booked` is the account of a watcher: what was made is open or was closed.

Main statement: whatever happens during a watch, no client is closed and only the newest station
makes clients or receives frames (`Happens.goes`), which leaves the account balanced
(`Booked.goes`).
-/

namespace FeedWatch

lemma Http.Network.closed_close (made : Bool) (net : Network) :
    (net.close made).closed = net.closed + made.toNat := by
  cases made with
  | _ => rfl

/-- What a station has done: the frames it has received and the clients it has open. -/
structure Account where
  received : List Payload
  looksUp : Bool
  posts : Bool

/-- What a station has done. -/
def Station.account (s : Station) : Account :=
  ⟨s.pipeline.received, s.pipeline.resolver.hasClient, s.pipeline.sink.hasClient⟩

namespace Account

/-- The number of clients that are open. -/
def held (a : Account) : Nat := a.looksUp.toNat + a.posts.toNat

/-- The number of clients that are made from one account to another. -/
def made (a b : Account) : Nat := (!a.looksUp && b.looksUp).toNat + (!a.posts && b.posts).toNat

/-- No client is closed. -/
structure Keeps (a b : Account) : Prop where
  looksUp : a.looksUp = true → b.looksUp = true
  posts : a.posts = true → b.posts = true

lemma Keeps.refl (a : Account) : a.Keeps a := ⟨id, id⟩

/-- Where no client is closed, those are open that were open or are made. -/
lemma Keeps.held {a b : Account} (h : a.Keeps b) : b.held = a.held + a.made b := by
  have hslot : ∀ x y : Bool, (x = true → y = true) → y.toNat = x.toNat + (!x && y).toNat := by
    decide
  rw [Account.held, Account.held, Account.made, hslot _ _ h.looksUp, hslot _ _ h.posts]
  omega

lemma made_self (a : Account) : a.made a = 0 := by
  simp [made]

end Account

/-! ## Handling frames -/

namespace Pipeline

variable {p p' p'' : Pipeline} (registry : Registry) (epoch : Int) (now : Nat)

/-- No client is closed, be it for look-ups, for deliveries or anywhere else. -/
structure Keeps (p p' : Pipeline) : Prop where
  looksUp : p.resolver.hasClient = true → p'.resolver.hasClient = true
  posts : p.sink.hasClient = true → p'.sink.hasClient = true
  closed : p'.network.closed = p.network.closed

namespace Keeps

/-- What the clients and the network have nothing to do with is no matter. -/
lemma same (hresolver : p'.resolver = p.resolver) (hsink : p'.sink = p.sink)
    (hnetwork : p'.network = p.network) : p.Keeps p' := by
  refine ⟨fun h => ?_, fun h => ?_, ?_⟩
  · rw [hresolver]
    exact h
  · rw [hsink]
    exact h
  · rw [hnetwork]

lemma trans (h : p.Keeps p') (h' : p'.Keeps p'') : p.Keeps p'' :=
  ⟨h'.looksUp ∘ h.looksUp, h'.posts ∘ h.posts, h'.closed.trans h.closed⟩

lemma concluded (h : p.Keeps p') (a : Alert) (success : Bool) :
    p.Keeps (p'.concluded a success).1 := by
  rw [Pipeline.concluded]
  split_ifs
  · exact h.trans (.same rfl rfl rfl)
  · exact h.trans (.same rfl rfl rfl)

lemma onReply {d : Delivery} (hd : p.sink.hasClient = true → d.hasClient = true) (a : Alert)
    (attempt : Nat) (reply : Http.Reply) : p.Keeps (p.onReply now d a attempt reply).1 := by
  have hposts : ∀ d' : Delivery, d'.hasClient = d.hasClient →
      p.Keeps { p with sink := .webhook d' } := fun d' hd' => ⟨id, fun h => hd'.trans (hd h), rfl⟩
  rw [Pipeline.onReply]
  split
  next r _ =>
    refine Keeps.concluded ?_ a r.success
    exact (hposts (d.record r now) rfl).trans (.same rfl rfl rfl)
  next => exact hposts d rfl
  next => exact hposts d rfl
  next => exact (hposts d rfl).trans (.same rfl rfl rfl)

lemma attemptPost (d : Delivery) (a : Alert) (attempt : Nat) (p : Pipeline) :
    p.Keeps (p.attemptPost now d a attempt).1 := by
  have hposted : p.Keeps { p with
      network := (d.post d.url a.toJson now p.network).2.1
      sink := .webhook (d.post d.url a.toJson now p.network).1 } := ⟨id, fun _ => rfl, rfl⟩
  rw [Pipeline.attemptPost]
  dsimp only
  split_ifs
  · exact hposted.trans (.onReply now (fun _ => rfl) a attempt _)
  · exact hposted

lemma deliver (a : Alert) (p : Pipeline) : p.Keeps (p.deliver now a).1 := by
  have hsent : p.Keeps { p with sends := p.sends ++ [(now, a)] } := .same rfl rfl rfl
  rw [Pipeline.deliver]
  dsimp only
  split
  next => exact .same rfl rfl rfl
  next reply rest hsink =>
    refine Keeps.concluded ?_ a reply.isDispatch
    refine ⟨id, fun h => ?_, rfl⟩
    rw [hsink] at h
    cases h
  next d hsink =>
    split_ifs
    · exact .same rfl rfl rfl
    · refine ⟨id, fun h => ?_, rfl⟩
      rw [hsink] at h
      exact h
    · exact hsent.trans (.attemptPost now d a 1 _)

lemma onLabel (e : Event) (filters : List Filter) (label : Option String) (interrupted : Bool)
    (p : Pipeline) : p.Keeps (p.onLabel registry epoch now e filters label interrupted).1 := by
  rw [Pipeline.onLabel]
  split_ifs
  · exact .same rfl rfl rfl
  · rw [compose]
    split
    · exact .same rfl rfl rfl
    · exact .deliver now _ p

lemma ask (owner : String) (p : Pipeline) : p.Keeps (p.ask now owner).1 := by
  rw [Pipeline.ask]
  split
  · exact .same rfl rfl rfl
  · exact .same rfl rfl rfl
  · dsimp only
    split
    · exact ⟨fun _ => rfl, id, rfl⟩
    · split
      · exact ⟨fun _ => rfl, id, rfl⟩
      · exact ⟨fun _ => rfl, id, rfl⟩

lemma handleEvent (e : Event) (p : Pipeline) :
    p.Keeps (p.handleEvent registry epoch now e).1 := by
  rw [Pipeline.handleEvent]
  split_ifs
  · exact .same rfl rfl rfl
  · dsimp only
    split_ifs
    · exact .same rfl rfl rfl
    · exact (Keeps.ask now e.item.owner p).trans (.onLabel registry epoch now e _ _ _ _)
    · exact .ask now e.item.owner p

/-- Handling a frame closes no client. -/
lemma receive (payload : Payload) (p : Pipeline) :
    p.Keeps (p.receive registry epoch now payload).1 := by
  have hcounted : ∀ stats, p.Keeps { p with received := p.received ++ [payload], stats } :=
    fun _ => .same rfl rfl rfl
  rw [Pipeline.receive]
  dsimp only
  split_ifs
  · exact hcounted _
  · exact hcounted _
  · split
    · exact (hcounted _).trans (.handleEvent registry epoch now _ _)
    · split_ifs
      · exact hcounted _
      · exact hcounted _

lemma resume (stage : Stage) (p : Pipeline) : p.Keeps (p.resume registry epoch now stage).1 := by
  cases stage with
  | labelled e filters label interrupted =>
    exact .onLabel registry epoch now e filters label interrupted p
  | replied a attempt reply =>
    rw [Pipeline.resume]
    split
    next d hsink => exact .onReply now (fun h => by rw [hsink] at h; exact h) a attempt reply
    next => exact .same rfl rfl rfl
  | retrying a attempt =>
    rw [Pipeline.resume]
    split
    next d _ => exact .attemptPost now d a attempt p
    next => exact .same rfl rfl rfl

end Keeps

end Pipeline

namespace Engine

variable {k n : Nat} {e e' e'' : Engine} {s : Station} {t : Task} {μ ρ : Option TaskId}

/-- What the stations have done. -/
def accounts (e : Engine) : List Account := e.stations.map Station.account

lemma length_accounts (e : Engine) : e.accounts.length = e.stations.length := List.length_map _

lemma take_accounts (e : Engine) : e.accounts.take e.stations.length = e.accounts :=
  List.take_of_length_le (Nat.le_of_eq (length_accounts e))

/-- The number of clients that are open. -/
def held (e : Engine) : Nat := (e.accounts.map Account.held).sum

/-- The number of clients that are made from one state to another, as long as there is no new
station. -/
def made (e e' : Engine) : Nat := (List.zipWith Account.made e.accounts e'.accounts).sum

lemma accounts_of_ground (h : e'.ground = e.ground) : e'.accounts = e.accounts := by
  have haccounts : ∀ e : Engine, e.accounts = e.ground.stations.map Station.account := by
    intro e
    rw [accounts, stations_ground, List.map_map]
    rfl
  rw [haccounts, h, ← haccounts]

lemma made_same (h : e'.accounts = e.accounts) : e.made e' = 0 := by
  rw [made, h, List.zipWith_self]
  refine List.sum_eq_zero fun x hx => ?_
  obtain ⟨a, -, rfl⟩ := List.mem_map.1 hx
  exact a.made_self

/-- What stations have that is neither a registry nor an address, an operation leaves alone. -/
lemma map_keep {β : Type} {g : Station → β} (hg : ∀ s registry, g { s with registry } = g s)
    (k : Nat) (s : Session) (e : Engine) : (e.keep k s).stations.map g = e.stations.map g :=
  map_modify (e := e) fun st _ => hg st s.registry

/-- What stations have that is neither a registry nor an address, a look at the settings file leaves
alone. -/
lemma map_refresh {β : Type} {g : Station → β} (hg : ∀ s registry, g { s with registry } = g s)
    (haddress : ∀ s d url, s.pipeline.sink = .webhook d →
      g { s with pipeline := { s.pipeline with sink := .webhook { d with url } } } = g s)
    (e : Engine) : e.refresh.1.stations.map g = e.stations.map g := by
  rw [refresh]
  dsimp only
  split
  · split_ifs
    · rfl
    · split
      · exact map_keep hg _ _ e
      · refine (map_modify (e := { Engine.keep _ _ e with stamp := e.store.stamp? e.disk })
          fun s _ => ?_).trans (map_keep hg _ _ e)
        split
        next d hsink => exact haddress s d _ hsink
        next => rfl
  · rfl

lemma accounts_keep (k : Nat) (s : Session) (e : Engine) : (e.keep k s).accounts = e.accounts := by
  refine map_keep (fun _ _ => ?_) k s e
  rfl

lemma accounts_refresh (e : Engine) : e.refresh.1.accounts = e.accounts := by
  refine map_refresh (fun _ _ => ?_) (fun s d url hsink => ?_) e
  · rfl
  · rw [Station.account, Station.account, hsink]
    rfl

/-- A change of one station is one in its account. -/
lemma accounts_alterStation (hs : e.stations[k]? = some s) (f : Station → Station) :
    ∃ before after, before.length = k ∧ e.accounts = before ++ s.account :: after ∧
      (e.alterStation k f).accounts = before ++ (f s).account :: after := by
  obtain ⟨hk, rfl⟩ := List.getElem?_eq_some_iff.1 hs
  refine ⟨(e.stations.take k).map Station.account, (e.stations.drop (k + 1)).map Station.account,
    ?_, ?_, ?_⟩
  · rw [List.length_map, List.length_take_of_le (Nat.le_of_lt hk)]
  · rw [accounts, ← List.map_cons, List.getElem_cons_drop, ← List.map_append, List.take_append_drop]
  · rw [accounts, alterStation, List.modify_eq_take_cons_drop hk, List.map_append, List.map_cons]

/-! ## What happens during a watch -/

/-- No client is closed, and stations before station `n` do nothing. -/
structure Goes (n : Nat) (e e' : Engine) : Prop where
  keeps : List.Forall₂ Account.Keeps e.accounts e'.accounts
  others : e'.accounts.take n = e.accounts.take n
  closed : e'.network.closed = e.network.closed

namespace Goes

/-- Nothing happens to stations. -/
lemma same (haccounts : e'.accounts = e.accounts)
    (hclosed : e'.network.closed = e.network.closed) : Goes n e e' := by
  refine ⟨?_, congrArg _ haccounts, hclosed⟩
  rw [haccounts]
  exact List.forall₂_same.2 fun a _ => .refl a

lemma ground (h : e'.ground = e.ground) : Goes n e e' :=
  .same (accounts_of_ground h) (congrArg _ (network_of_ground h))

lemma trans_ground (h : Goes n e e') (hground : e''.ground = e'.ground) : Goes n e e'' := by
  have haccounts := accounts_of_ground hground
  exact ⟨haccounts ▸ h.keeps, haccounts ▸ h.others,
    (congrArg _ (network_of_ground hground)).trans h.closed⟩

/-- Those clients are open that were open or are made. -/
lemma held (h : Goes n e e') : e'.held = e.held + e.made e' := by
  have hsum : ∀ {as bs : List Account}, List.Forall₂ Account.Keeps as bs →
      (bs.map Account.held).sum =
        (as.map Account.held).sum + (List.zipWith Account.made as bs).sum := by
    intro as bs hkeeps
    induction hkeeps with
    | nil => rfl
    | cons hkeep _ ih =>
      rw [List.map_cons, List.sum_cons, List.map_cons, List.sum_cons, List.zipWith_cons_cons,
        List.sum_cons, ih, hkeep.held]
      omega
  exact hsum h.keeps

end Goes

/-- Handling a frame closes no client, and is about its own station. -/
lemma Handles.goes (h : Handles t e e') : Goes t.station e e' := by
  obtain ⟨s, handle, hs, rfl, hhandle⟩ := h
  obtain ⟨p, hp⟩ : ∃ p, p = { s.pipeline with network := e.network } := ⟨_, rfl⟩
  have hkeeps : p.Keeps (handle s.registry e.epoch e.micros p).1 := by
    obtain ⟨payload, -, rfl⟩ | ⟨stage, -, rfl⟩ := hhandle
    · exact .receive s.registry e.epoch e.micros payload p
    · exact .resume s.registry e.epoch e.micros stage p
  rw [handled, ← hp]
  generalize (handle s.registry e.epoch e.micros p).1 = p' at hkeeps ⊢
  subst hp
  obtain ⟨before, after, hlength, haccounts, haltered⟩ := accounts_alterStation
    (e := { e with network := p'.network }) hs fun s => { s with pipeline := p' }
  have hbefore : e.accounts = before ++ s.account :: after := haccounts
  refine ⟨?_, ?_, hkeeps.closed⟩
  · rw [haltered, hbefore]
    have hrest : ∀ as, List.Forall₂ Account.Keeps as as :=
      fun as => List.forall₂_same.2 fun a _ => .refl a
    exact List.rel_append (hrest before) (.cons ⟨hkeeps.looksUp, hkeeps.posts⟩ (hrest after))
  · rw [haltered, hbefore, ← hlength, List.take_left, List.take_left]

/-- Whatever happens while the newest station is tended, no client is closed, and the stations
before it do nothing. -/
theorem Happens.goes (h : Happens e e') {m : Nat} (htended : Tended ρ (e.focus n m μ)) :
    Goes n e e' := by
  cases h with
  | call hcall =>
    cases hcall with
    | due alarms schedule hqueue => exact .same rfl rfl
    | call c schedule hqueue =>
      obtain hground | ⟨i, t, e₁, rfl, ht, -, hhandles, hground⟩ | hground :=
        ground_make c { e with schedule }
      · exact .ground hground
      · obtain ⟨t', -, htask, -, -, hhome, -⟩ := htended.first hqueue
        obtain rfl : t = t' := Option.some.inj (ht.symm.trans htask)
        have hstation : t.station = n := by
          refine hhome.resolve_right fun hout => ?_
          obtain ⟨s, handle, -, -, ⟨p, hw, -⟩ | ⟨stage, hw, -⟩⟩ := hhandles
          · cases hout.symm.trans hw
          · cases hout.symm.trans hw
        have hgoes := (hstation ▸ hhandles.goes).trans_ground hground
        exact ⟨hgoes.keeps, hgoes.others, hgoes.closed⟩
      · have hnetwork := (refresh_leaves { e with schedule }).2.2.2.2
        exact .same ((accounts_of_ground hground).trans (accounts_refresh { e with schedule }))
          (congrArg _ ((network_of_ground hground).trans hnetwork))
  | sleep delay _ =>
    have hground := ground_of_base (base_awaitTime outside .outside delay e)
    exact .ground hground
  | arrive a => exact .same rfl rfl
  | @operate α s f _ => exact .same (accounts_keep _ _ e) rfl
  | look => exact .same (accounts_refresh e) (congrArg _ (refresh_leaves e).2.2.2.2)
  | world feed network disk _ _ _ _ _ _ hclosed => exact .same rfl hclosed

/-- What was read stays read. -/
lemma Touched.prefix_read (h : Touched (fun _ => False) e e') : e.feed.read <+: e'.feed.read :=
  h.read

lemma Happens.prefix_read (h : Happens e e') : e.feed.read <+: e'.feed.read := by
  cases h with
  | call hcall => exact hcall.lasting.1
  | sleep delay _ => exact (Works.sleep delay e).touched.prefix_read
  | arrive a => exact (Works.arrive a e).touched.prefix_read
  | operate f _ => exact (Works.operate _ _ f e).touched.prefix_read
  | look => exact (Works.refresh e).touched.prefix_read
  | world feed network disk _ _ _ hread _ _ _ => exact hread ▸ List.prefix_rfl

/-! ## The account of a watcher -/

/-- The account of a watcher.  Before station `n` was set up, `m` arrivals had been read, the frames
of which the stations before have received, and their clients are closed.  Of `total` clients each
is open or was closed. -/
structure Booked (n m total : Nat) (e : Engine) : Prop where
  read : m ≤ e.feed.read.length
  others : ∀ a ∈ e.accounts.take n, a.held = 0
  frames : (e.accounts.take n).flatMap Account.received = dataFramesOf (e.feed.read.take m)
  closed : e.network.closed + e.held = total

/-- Closing the clients of the newest station. -/
lemma accounts_closeClients (hlast : e.stations.getLast? = some s) :
    ∃ before, before.length + 1 = e.stations.length ∧ e.accounts = before ++ [s.account] ∧
      (Watcher.closeClients e).accounts = before ++ [⟨s.account.received, false, false⟩] ∧
        (Watcher.closeClients e).network.closed = e.network.closed + s.account.held := by
  have hs : e.stations[e.stations.length - 1]? = some s := by
    rw [← List.getLast?_eq_getElem?, hlast]
  have hlt : e.stations.length - 1 < e.stations.length := (List.getElem?_eq_some_iff.1 hs).1
  obtain ⟨before, after, hlength, haccounts, haltered⟩ := accounts_alterStation
    (e := { e with network :=
      (e.network.close s.pipeline.resolver.hasClient).close s.pipeline.sink.hasClient }) hs
    fun s' => { s' with pipeline := { s.pipeline with
      resolver := s.pipeline.resolver.released, sink := s.pipeline.sink.released } }
  have hbefore : e.accounts = before ++ s.account :: after := haccounts
  have hafter : after = [] := by
    have hsum := congrArg List.length hbefore
    rw [length_accounts, List.length_append, List.length_cons] at hsum
    exact List.length_eq_zero_iff.1 (by omega)
  subst hafter
  have hreleased : s.pipeline.resolver.released.hasClient = false ∧
      s.pipeline.sink.released.hasClient = false := by
    constructor
    · cases s.pipeline.resolver with
      | _ => rfl
    · cases s.pipeline.sink with
      | _ => rfl
  refine ⟨before, by omega, hbefore, ?_, ?_⟩
  · rw [closeClients_eq hlast, haltered, Station.account, hreleased.1, hreleased.2]
    rfl
  · rw [closeClients_eq hlast, Account.held]
    show ((e.network.close _).close _).closed = _
    rw [Http.Network.closed_close, Http.Network.closed_close, Nat.add_assoc]
    rfl

/-- The frames read before and after some moment are all that were read. -/
lemma dataFramesOf_take_drop (m : Nat) (read : List (Nat × Arrival)) :
    dataFramesOf (read.take m) ++ dataFramesOf (read.drop m) = dataFramesOf read := by
  rw [dataFramesOf, dataFramesOf, ← List.filter_append, framesOf, framesOf, ← List.filterMap_append,
    List.take_append_drop]
  rfl

namespace Booked

variable {m total : Nat}

/-- The account stays balanced. -/
theorem goes (h : Booked n m total e) (hgoes : Goes n e e') (hread : e.feed.read <+: e'.feed.read) :
    Booked n m (total + e.made e') e' := by
  refine ⟨h.read.trans hread.length_le, hgoes.others ▸ h.others, ?_, ?_⟩
  · obtain ⟨later, hlater⟩ := hread
    rw [hgoes.others, ← hlater, List.take_append_of_le_length h.read]
    exact h.frames
  · rw [hgoes.closed, hgoes.held, ← Nat.add_assoc, h.closed]

lemma same (h : Booked n m total e) (haccounts : e'.accounts = e.accounts)
    (hread : e.feed.read <+: e'.feed.read) (hclosed : e'.network.closed = e.network.closed) :
    Booked n m total e' := by
  have hgoes := h.goes (.same haccounts hclosed) hread
  rw [made_same haccounts, Nat.add_zero] at hgoes
  exact hgoes

lemma ground (h : Booked n m total e) (hground : e'.ground = e.ground)
    (hread : e.feed.read <+: e'.feed.read) : Booked n m total e' :=
  h.same (accounts_of_ground hground) hread (congrArg _ (network_of_ground hground))

/-- A new station has no clients yet. -/
lemma addStation (h : Booked e.stations.length m total e) (session : Session) {pipeline : Pipeline}
    (hresolver : pipeline.resolver.hasClient = false) (hsink : pipeline.sink.hasClient = false)
    (stamp : Option Nat) :
    Booked e.stations.length m total { e.addStation session pipeline with stamp } := by
  obtain ⟨E, hE⟩ : ∃ E, E = { e.addStation session pipeline with stamp } := ⟨_, rfl⟩
  have haccounts : E.accounts = e.accounts ++ [⟨pipeline.received, false, false⟩] := by
    rw [hE, accounts, Engine.addStation, List.map_append, List.map_singleton, Station.account,
      hresolver, hsink]
    rfl
  have htake : E.accounts.take e.stations.length = e.accounts.take e.stations.length := by
    rw [haccounts, List.take_append_of_le_length (Nat.le_of_eq (length_accounts e).symm)]
  have hsame : E.feed = e.feed ∧ E.network = e.network := by
    rw [hE]
    exact ⟨rfl, rfl⟩
  rw [← hE]
  refine ⟨hsame.1 ▸ h.read, htake ▸ h.others, ?_, ?_⟩
  · rw [htake, hsame.1]
    exact h.frames
  · rw [Engine.held, haccounts, List.map_append, List.sum_append, hsame.2]
    exact h.closed

/-- The watch begins with a new station. -/
lemma start (h : Booked e.stations.length m total e) (session : Session) {pipeline : Pipeline}
    (hresolver : pipeline.resolver.hasClient = false) (hsink : pipeline.sink.hasClient = false)
    (stamp : Option Nat) : Booked e.stations.length m total
      (({ e.addStation session pipeline with stamp }.startListener
        e.stations.length).startRefresher e.stations.length) := by
  have hadded := h.addStation session hresolver hsink stamp
  have hlistens := hadded.ground (ground_startListener e.stations.length _)
    (Works.startListener e.stations.length _).touched.prefix_read
  exact hlistens.ground (ground_startRefresher e.stations.length _) List.prefix_rfl

/-- When its clients are closed, a station that has received all its frames is one of those
before. -/
lemma closeClients (h : Booked n m total e) (hlast : e.stations.getLast? = some s)
    (hnewest : e.stations.length = n + 1)
    (hreceived : s.pipeline.received = dataFramesOf (e.feed.read.drop m)) :
    Booked (n + 1) e.feed.read.length total (Watcher.closeClients e) := by
  obtain ⟨before, hlength, haccounts, hclosed, hnetwork⟩ := accounts_closeClients hlast
  have hn : before.length = n := by omega
  have hfeed : (Watcher.closeClients e).feed = e.feed := by
    rw [closeClients_eq hlast]
    rfl
  have hbefore : e.accounts.take n = before := by rw [haccounts, ← hn, List.take_left]
  have hall : (Watcher.closeClients e).accounts.take (n + 1) =
      before ++ [⟨s.account.received, false, false⟩] := by
    rw [hclosed, List.take_of_length_le]
    rw [List.length_append, hn]
    rfl
  refine ⟨Nat.le_of_eq (congrArg _ (congrArg _ hfeed.symm)), fun a ha => ?_, ?_, ?_⟩
  · rw [hall] at ha
    obtain ha | ha := List.mem_append.1 ha
    · exact h.others a (hbefore ▸ ha)
    · rw [List.mem_singleton.1 ha]
      rfl
  · rw [hall, hfeed, List.take_length, List.flatMap_append, ← hbefore, h.frames,
      ← dataFramesOf_take_drop m e.feed.read]
    exact congrArg _ ((List.append_nil _).trans hreceived)
  · have htotal := h.closed
    rw [Engine.held, haccounts, List.map_append, List.sum_append] at htotal
    rw [hnetwork, Engine.held, hclosed, List.map_append, List.sum_append, ← htotal]
    simp only [List.map_singleton, List.sum_singleton]
    have hnone : Account.held ⟨s.account.received, false, false⟩ = 0 := rfl
    omega

end Booked

end Engine

end FeedWatch
