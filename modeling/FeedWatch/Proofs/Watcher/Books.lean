import FeedWatch.Proofs.Watcher.Ground

/-!
# What the settings file has to do with the engine

`Engine.books` is the part of the engine that the settings file has to do with: the disk, the stamp
that was taken over last, and at each station the registry and the address that alerts go to.  A
look at the file changes the books; nothing else that the engine does changes them.

Main statement: a call leaves the books as they were or as a look at the file leaves them
(`books_make`), and neither touches the disk (`disk_make`).
-/

namespace FeedWatch

/-- The address that alerts go to, for a sink that has one. -/
def Sink.address? : Sink → Option (Option String)
  | webhook d => some d.url
  | scripted _ => none

/-- Whether a client was made for look-ups and is not closed. -/
def Resolver.hasClient : Resolver → Bool
  | service _ hasClient => hasClient
  | _ => false

/-- Look-ups once their client is closed. -/
def Resolver.released : Resolver → Resolver
  | service template _ => .service template false
  | r => r

/-- Whether a client was made for deliveries and is not closed. -/
def Sink.hasClient : Sink → Bool
  | webhook d => d.hasClient
  | scripted _ => false

/-- Deliveries once their client is closed. -/
def Sink.released : Sink → Sink
  | webhook d => .webhook { d with hasClient := false }
  | sink => sink

lemma Sink.address_released (sink : Sink) : sink.released.address? = sink.address? := by
  cases sink with
  | scripted _ => rfl
  | webhook d => rfl

/-- What a station has of the settings. -/
structure Desk where
  index : ReferenceIndex
  registry : Registry
  address : Option (Option String)

/-- What the settings file has to do with the engine. -/
structure Books where
  store : Store
  disk : Disk
  nextSerial : Nat
  stamp : Option Nat
  desks : List Desk

/-- What a station has of the settings. -/
def Station.desk (s : Station) : Desk := ⟨s.index, s.registry, s.pipeline.sink.address?⟩

/-- What the settings file has to do with the engine. -/
def Engine.books (e : Engine) : Books :=
  ⟨e.store, e.disk, e.nextSerial, e.stamp, e.stations.map Station.desk⟩

/-! ## Handling frames -/

namespace Pipeline

variable (registry : Registry) (epoch : Int) (now : Nat)

lemma address_concluded (a : Alert) (success : Bool) (p : Pipeline) :
    (p.concluded a success).1.sink = p.sink := by
  rw [concluded]
  split_ifs
  · rfl
  · rfl

lemma address_onReply {d : Delivery} {p : Pipeline} (hd : p.sink.address? = some d.url) (a : Alert)
    (attempt : Nat) (reply : Http.Reply) :
    (p.onReply now d a attempt reply).1.sink.address? = p.sink.address? := by
  rw [hd, onReply]
  split
  · rw [address_concluded]
    rfl
  · rfl
  · rfl
  · rfl

lemma address_attemptPost {d : Delivery} {p : Pipeline} (hd : p.sink.address? = some d.url)
    (a : Alert) (attempt : Nat) :
    (p.attemptPost now d a attempt).1.sink.address? = p.sink.address? := by
  rw [attemptPost]
  dsimp only
  split_ifs
  · rw [address_onReply now (d := (d.post d.url a.toJson now p.network).1) rfl, hd]
    rfl
  · rw [hd]
    rfl

lemma address_deliver (a : Alert) (p : Pipeline) :
    (p.deliver now a).1.sink.address? = p.sink.address? := by
  rw [deliver]
  dsimp only
  split
  next => rfl
  next hsink =>
    rw [address_concluded, hsink]
    rfl
  next d hsink =>
    split_ifs
    · rfl
    · rw [hsink]
      rfl
    · exact address_attemptPost now (by rw [hsink]; rfl) a 1

lemma address_onLabel (e : Event) (filters : List Filter) (label : Option String)
    (interrupted : Bool) (p : Pipeline) :
    (p.onLabel registry epoch now e filters label interrupted).1.sink.address? =
      p.sink.address? := by
  rw [onLabel]
  split_ifs
  · rfl
  · rw [compose]
    split
    · rfl
    · exact address_deliver now _ p

lemma sink_ask (owner : String) (p : Pipeline) : (p.ask now owner).1.sink = p.sink := by
  rw [ask]
  split
  · rfl
  · rfl
  · dsimp only
    split
    · rfl
    · split
      · rfl
      · rfl

lemma address_handleEvent (e : Event) (p : Pipeline) :
    (p.handleEvent registry epoch now e).1.sink.address? = p.sink.address? := by
  rw [handleEvent]
  split_ifs
  · rfl
  · dsimp only
    split_ifs
    · rfl
    · rw [address_onLabel, sink_ask]
    · rw [sink_ask]

/-- Handling a frame leaves the address that alerts go to. -/
lemma address_receive (payload : Payload) (p : Pipeline) :
    (p.receive registry epoch now payload).1.sink.address? = p.sink.address? := by
  rw [receive]
  dsimp only
  split_ifs
  · rfl
  · rfl
  · split
    · exact address_handleEvent registry epoch now _ _
    · split_ifs
      · rfl
      · rfl

lemma address_resume (stage : Stage) (p : Pipeline) :
    (p.resume registry epoch now stage).1.sink.address? = p.sink.address? := by
  cases stage with
  | labelled e filters label interrupted =>
    exact address_onLabel registry epoch now e filters label interrupted p
  | replied a attempt reply =>
    rw [resume]
    split
    next d hsink => exact address_onReply now (by rw [hsink]; rfl) a attempt reply
    next => rfl
  | retrying a attempt =>
    rw [resume]
    split
    next d hsink => exact address_attemptPost now (by rw [hsink]; rfl) a attempt
    next => rfl

end Pipeline

namespace Engine

variable {e e' : Engine} {k : Nat}

/-! ## Stations -/

lemma books_of_ground (h : e'.ground = e.ground) : e'.books = e.books := by
  have hbooks : ∀ e : Engine, e.books = e.ground.books := by
    intro e
    rw [books, books, stations_ground, List.map_map]
    rfl
  rw [hbooks, h, ← hbooks]

lemma books_of_base (h : e'.base = e.base) : e'.books = e.books :=
  books_of_ground (ground_of_base h)

/-- A change of a station that leaves its desk leaves the books. -/
lemma books_alterStation {f : Station → Station}
    (hf : ∀ s, e.stations[k]? = some s → (f s).desk = s.desk) :
    (e.alterStation k f).books = e.books := by
  rw [books, alterStation, map_modify hf]
  rfl

lemma books_awaitTime (id : TaskId) (work : Work) (delay : Binary64) (e : Engine) :
    (e.awaitTime id work delay).books = e.books := books_of_base (base_awaitTime id work delay e)

lemma books_stopWatching (e : Engine) : e.stopWatching.books = e.books :=
  books_of_ground (ground_stopWatching e)

lemma books_startListener (k : Nat) (e : Engine) : (e.startListener k).books = e.books :=
  books_of_ground (ground_startListener k e)

/-- Without a station there are no clients to close. -/
lemma closeClients_of_none (hlast : e.stations.getLast? = none) : Watcher.closeClients e = e := by
  rw [Watcher.closeClients, hlast]
  split
  next hs => cases hs
  next => rfl

/-- Closing the clients of the newest station, which may have been made or not. -/
lemma closeClients_eq {s : Station} (hlast : e.stations.getLast? = some s) :
    Watcher.closeClients e = alterStation (e.stations.length - 1)
      (fun s' => { s' with pipeline := { s.pipeline with
        resolver := s.pipeline.resolver.released, sink := s.pipeline.sink.released } })
      { e with network :=
        (e.network.close s.pipeline.resolver.hasClient).close s.pipeline.sink.hasClient } := by
  have hnewest := newest?_of_getLast? hlast
  obtain ⟨index, registry, pipeline, listener⟩ := s
  obtain ⟨pages, resolver, sink, network, stats, lookups, received, sends, ends⟩ := pipeline
  simp only [Watcher.closeClients, hnewest, hlast]
  cases resolver <;> cases sink <;> rfl

lemma log_closeClients (e : Engine) : (Watcher.closeClients e).network.log = e.network.log := by
  have hclose : ∀ made (net : Http.Network), (net.close made).log = net.log := by
    intro made net
    rw [Http.Network.close]
    split_ifs
    · rfl
    · rfl
  cases hlast : e.stations.getLast? with
  | none => rw [closeClients_of_none hlast]
  | some s =>
    rw [closeClients_eq hlast]
    exact (hclose _ _).trans (hclose _ _)

lemma books_closeClients (e : Engine) : (Watcher.closeClients e).books = e.books := by
  cases hlast : e.stations.getLast? with
  | none => rw [closeClients_of_none hlast]
  | some s =>
    rw [closeClients_eq hlast]
    refine books_alterStation fun s' hs' => ?_
    rw [List.getLast?_eq_getElem?] at hlast
    cases hlast.symm.trans hs'
    rw [Station.desk, Station.desk, Sink.address_released]

/-! ## Calls -/

/-- Handling a frame leaves the books. -/
lemma Handles.books {t : Task} (h : Handles t e e') : e'.books = e.books := by
  obtain ⟨s, handle, hs, rfl, hhandle⟩ := h
  have haddress : ∀ r epoch now p, (handle r epoch now p).1.sink.address? = p.sink.address? := by
    intro r epoch now p
    obtain ⟨payload, -, rfl⟩ | ⟨stage, -, rfl⟩ := hhandle
    · exact Pipeline.address_receive r epoch now payload p
    · exact Pipeline.address_resume r epoch now stage p
  rw [handled]
  refine books_alterStation fun s' hs' => ?_
  cases hs.symm.trans hs'
  rw [Station.desk, Station.desk, haddress]

/-- A call leaves the books, but for a look at the settings file. -/
lemma books_make (c : Call) (e : Engine) :
    (e.make c).books = e.books ∨ (e.make c).books = e.refresh.1.books := by
  obtain hground | ⟨i, t, e', -, -, -, hhandles, hground⟩ | hground := ground_make c e
  · exact .inl (books_of_ground hground)
  · exact .inl ((books_of_ground hground).trans hhandles.books)
  · exact .inr (books_of_ground hground)

end Engine

end FeedWatch
