import FeedWatch.Proofs.Pipeline.Tallies
import FeedWatch.Proofs.Watcher.Posts

/-!
# Deliveries at the watcher

Many frames are handled at once at a station, while the settings file is looked at and the address
of the webhook changes.  All of them share the counts of the pipeline and the client of the webhook.

Main statement: in every run of a watcher the counts of each station's pipeline and those of its
client agree between any two turns (`Watcher.tallied_of_run`).  It rests on what one stage of
handling does (`Pipeline.isTallied_receive`, `Pipeline.isTallied_resume`), for nothing else that the
engine does touches the counts.
-/

namespace FeedWatch

open Relation

namespace Engine

variable {e e' : Engine} {k : Nat}

/-- The counts of every pipeline agree with those of its client. -/
def IsTallied (e : Engine) : Prop := ∀ s ∈ e.stations, s.pipeline.IsTallied

lemma IsTallied.of_ground (h : e.IsTallied) (hground : e'.ground = e.ground) : e'.IsTallied := by
  intro s' hs'
  have hmem : s'.ground ∈ e'.ground.stations := by
    rw [stations_ground]
    exact List.mem_map_of_mem hs'
  rw [hground, stations_ground] at hmem
  obtain ⟨s, hs, heq⟩ := List.mem_map.1 hmem
  have hpipeline : s'.pipeline = s.pipeline := (congrArg Station.pipeline heq).symm
  rw [hpipeline]
  exact h s hs

lemma IsTallied.of_base (h : e.IsTallied) (hbase : e'.base = e.base) : e'.IsTallied :=
  h.of_ground (ground_of_base hbase)

lemma IsTallied.alterStation {f : Station → Station} (h : e.IsTallied)
    (hf : ∀ s, e.stations[k]? = some s → (f s).pipeline.IsTallied) :
    (e.alterStation k f).IsTallied := by
  intro s' hs'
  obtain ⟨n, hn⟩ := List.mem_iff_getElem?.1 hs'
  rw [Engine.alterStation, List.getElem?_modify] at hn
  obtain ⟨s, hs, rfl⟩ := Option.map_eq_some_iff.1 hn
  split_ifs with hk
  · exact hf s (hk ▸ hs)
  · exact h s (List.mem_of_getElem? hs)

/-! ## What the engine does -/

lemma IsTallied.keep (h : e.IsTallied) (k : Nat) (s : Session) : (e.keep k s).IsTallied :=
  IsTallied.alterStation (e := { e with disk := s.disk, nextSerial := s.nextSerial }) h
    fun st hst => h st (List.mem_of_getElem? hst)

/-- Only the address changes, not the counts of the client. -/
lemma IsTallied.setWebhookUrl (h : e.IsTallied) (k : Nat) (url : Option String) :
    (e.setWebhookUrl k url).IsTallied := by
  refine h.alterStation fun s hs => ?_
  obtain ⟨d, hd, htallies⟩ := h s (List.mem_of_getElem? hs)
  simp only [hd]
  exact ⟨{ d with url }, rfl, htallies.congr rfl rfl rfl rfl⟩

lemma IsTallied.takeOver (h : e.IsTallied) (stamp : Option Nat) :
    (e.takeOver stamp).1.IsTallied := by
  rw [Engine.takeOver]
  split
  · split_ifs
    · exact h
    · split
      · exact h.keep _ _
      · refine IsTallied.setWebhookUrl ?_ _ _
        exact h.keep _ _
  · exact h

lemma IsTallied.refresh (h : e.IsTallied) : e.refresh.1.IsTallied := h.takeOver _

/-- A task goes on with a frame. -/
lemma Handles.isTallied {t : Task} (hhandles : Handles t e e') (h : e.IsTallied) :
    e'.IsTallied := by
  obtain ⟨s, handle, hs, rfl, hhandle⟩ := hhandles
  have hpipeline : { s.pipeline with network := e.network }.IsTallied :=
    (h s (List.mem_of_getElem? hs)).congr rfl rfl rfl rfl
  have hafter : (handle s.registry e.epoch e.micros
      { s.pipeline with network := e.network }).1.IsTallied := by
    obtain ⟨payload, -, rfl⟩ | ⟨stage, -, rfl⟩ := hhandle
    · exact Pipeline.isTallied_receive hpipeline payload
    · exact Pipeline.isTallied_resume hpipeline stage
  refine IsTallied.alterStation ?_ fun _ _ => hafter
  exact h

lemma IsTallied.make (h : e.IsTallied) (c : Call) : (e.make c).IsTallied := by
  obtain hground | ⟨i, t, e', -, -, -, hhandles, hground⟩ | hground := ground_make c e
  · exact h.of_ground hground
  · exact (hhandles.isTallied h).of_ground hground
  · exact h.refresh.of_ground hground

/-- Closing the clients leaves what they counted. -/
lemma IsTallied.closeClients (h : e.IsTallied) : (Watcher.closeClients e).IsTallied := by
  cases hlast : e.stations.getLast? with
  | none =>
    rw [closeClients_of_none hlast]
    exact h
  | some s =>
    rw [closeClients_eq hlast]
    refine IsTallied.alterStation ?_ fun _ _ => ?_
    · exact h
    · obtain ⟨d, hd, htallies⟩ := h s (List.mem_of_getLast? hlast)
      dsimp only
      rw [hd]
      exact ⟨{ d with hasClient := false }, rfl, htallies.congr rfl rfl rfl rfl⟩

/-! ## Runs -/

lemma length_of_books (h : e'.books = e.books) : e'.stations.length = e.stations.length := by
  have hdesks : ∀ e : Engine, e.books.desks.length = e.stations.length :=
    fun e => List.length_map _
  rw [← hdesks, h, hdesks]

lemma length_takeOver (stamp : Option Nat) (e : Engine) :
    (e.takeOver stamp).1.stations.length = e.stations.length := by
  rw [takeOver]
  split
  · split_ifs
    · rfl
    · split
      · exact List.length_modify ..
      · exact (List.length_modify ..).trans (List.length_modify ..)
  · rfl

lemma length_make (c : Call) (e : Engine) : (e.make c).stations.length = e.stations.length := by
  obtain hbooks | hbooks := books_make c e
  · exact length_of_books hbooks
  · exact (length_of_books hbooks).trans (length_takeOver _ e)

lemma length_scheduled (h : ReflTransGen Scheduled e e') :
    e'.stations.length = e.stations.length := by
  induction h with
  | refl => rfl
  | tail _ hstep ih =>
    obtain ⟨c, schedule, rfl⟩ := hstep.eq_make
    exact (length_make c _).trans ih

lemma length_started (session : Session) (pipeline : Pipeline) (stamp : Option Nat) (e : Engine) :
    (({ e.addStation session pipeline with stamp }.startListener
      e.stations.length).startRefresher e.stations.length).stations.length =
        e.stations.length + 1 := by
  have hbooks := books_startListener e.stations.length
    { e.addStation session pipeline with stamp := stamp }
  refine (length_of_books hbooks).trans ?_
  exact List.length_append ..

/-- Only a start sets up a station. -/
lemma Move.length (hmove : Move e e') : e'.stations.length = e.stations.length ∨
    e'.stations.length = e.stations.length + 1 := by
  cases hmove with
  | call c => exact .inl (length_make c e)
  | rest i delay => exact .inl (length_of_books (books_awaitTime i _ delay e))
  | sleep delay => exact .inl (length_of_books (books_awaitTime outside _ delay e))
  | start pipeline stamp _ => exact .inr (length_started _ pipeline stamp e)
  | stop => exact .inl (length_of_books (books_stopWatching { e with failure := none }))
  | closeClients => exact .inl (length_of_books (books_closeClients e))
  | operate f _ => exact .inl (List.length_modify ..)
  | look disk => exact .inl (length_takeOver _ _)
  | plan schedule => exact .inl rfl
  | arrive a => exact .inl rfl
  | fetch url body => exact .inl rfl
  | world feed network disk _ => exact .inl rfl

/-- Whatever happens but a start keeps the counts together. -/
lemma Move.isTallied (hmove : Move e e') (hstations : e'.stations.length = e.stations.length)
    (h : e.IsTallied) : e'.IsTallied := by
  cases hmove with
  | call c => exact h.make c
  | rest i delay => exact h.of_base (base_awaitTime i _ delay e)
  | sleep delay =>
    have hawaits : (e.awaitTime outside .outside delay).IsTallied :=
      h.of_base (base_awaitTime outside _ delay e)
    exact hawaits
  | start pipeline stamp _ =>
    rw [length_started] at hstations
    omega
  | stop =>
    refine IsTallied.of_ground ?_ (ground_stopWatching { e with failure := none })
    exact h
  | closeClients => exact h.closeClients
  | operate f _ => exact h.keep _ _
  | look disk => exact IsTallied.takeOver (e := { e with disk }) h _
  | plan schedule => exact h
  | arrive a => exact h
  | fetch url body => exact h
  | world feed network disk _ => exact h

end Engine

namespace Watcher

open Engine

variable {setup : WatcherSetup} {e e' : Engine}

/-- What a watcher with this setup does and what happens to it: it is started, or something happens
that sets up no station. -/
inductive Deed (setup : WatcherSetup) (e : Engine) : Engine → Prop
  | start (index : ReferenceIndex) :
    Deed setup e ((⟨setup, e⟩ : Watcher).startWith index).1.engine
  | move {e' : Engine} (hmove : Move e e')
    (hstations : e'.stations.length = e.stations.length) : Deed setup e e'

/-- A station that is set up has counted nothing, nor has its client. -/
lemma isTallied_startWith (h : e.IsTallied) (index : ReferenceIndex) :
    ((⟨setup, e⟩ : Watcher).startWith index).1.engine.IsTallied := by
  obtain ⟨_, session, -, hstart⟩ | ⟨_, _, hstart⟩ := startWith_cases index ⟨setup, e⟩
  · rw [hstart]
    have hadded : ∀ pipeline : Pipeline, pipeline.IsTallied →
        (e.addStation session pipeline).IsTallied := by
      intro pipeline hpipeline s hs
      obtain hold | hnew := List.mem_append.1 hs
      · exact h s hold
      · rw [List.mem_singleton.1 hnew]
        exact hpipeline
    refine IsTallied.of_ground ?_ (ground_startListener e.stations.length _)
    exact hadded _ (Pipeline.isTallied_start _ _ _ _)
  · rw [hstart]
    exact h

lemma Deed.isTallied (hdeed : Deed setup e e') (h : e.IsTallied) : e'.IsTallied := by
  cases hdeed with
  | start index => exact isTallied_startWith h index
  | move hmove hstations => exact hmove.isTallied hstations h

/-! ## What a watcher does is a run -/

lemma deeds_of_moves (hmoves : ReflTransGen Move e e')
    (hstations : e'.stations.length = e.stations.length) : ReflTransGen (Deed setup) e e' := by
  have hgrows : ∀ {e₁ e₂ : Engine}, ReflTransGen Move e₁ e₂ →
      e₁.stations.length ≤ e₂.stations.length := by
    intro e₁ e₂ h
    induction h with
    | refl => exact le_rfl
    | tail _ hmove ih =>
      have hlength := hmove.length
      omega
  induction hmoves using ReflTransGen.head_induction_on with
  | refl => exact .refl
  | head hmove hmoves ih =>
    have hlength := hmove.length
    have hleft := hgrows hmoves
    exact .head (.move hmove (by omega)) (ih (by omega))

lemma length_fetchIndex (w : Watcher) :
    w.fetchIndex.1.engine.stations.length = w.engine.stations.length := by
  rw [fetchIndex]
  dsimp only
  split_ifs
  · rfl
  · exact (length_scheduled (scheduled_run _)).trans
      (length_of_books (books_awaitTime outside _ _ _))

lemma deed_startWith (index : ReferenceIndex) (w : Watcher) :
    Deed w.setup w.engine (w.startWith index).1.engine := .start index

/-- Starting a watcher is a run. -/
theorem deeds_start (index : Option ReferenceIndex) (w : Watcher) :
    ReflTransGen (Deed w.setup) w.engine (w.start index).1.engine := by
  cases index with
  | some index => exact .single (deed_startWith index w)
  | none =>
    have hfetch : ReflTransGen (Deed w.setup) w.engine w.fetchIndex.1.engine :=
      deeds_of_moves (moves_fetchIndex w) (length_fetchIndex w)
    have hsetup : w.fetchIndex.1.setup = w.setup := rfl
    rw [start]
    split
    next w' failure heq =>
      rw [heq] at hfetch
      exact hfetch
    next w' index heq =>
      rw [heq] at hfetch hsetup
      rw [← hsetup] at hfetch ⊢
      exact hfetch.tail (deed_startWith index w')

/-- Stopping a watcher is a run. -/
theorem deeds_stop (w : Watcher) : ReflTransGen (Deed w.setup) w.engine w.stop.1.engine := by
  refine deeds_of_moves (moves_stop w) ?_
  have hrun : ({ w.engine with failure := none }.stopWatching).run.stations.length =
      w.engine.stations.length :=
    (length_scheduled (scheduled_run _)).trans
      (length_of_books (books_stopWatching { w.engine with failure := none }))
  rw [stop]
  dsimp only
  split
  · exact hrun
  · exact (length_of_books (books_closeClients _)).trans hrun

/-- Time that passes is a run. -/
theorem deeds_advance (span : Nat) (e : Engine) :
    ReflTransGen (Deed setup) e (e.advance span) := by
  refine deeds_of_moves (moves_advance span e) ?_
  refine (length_scheduled (scheduled_settle _)).trans
    ((length_scheduled (scheduled_run _)).trans ?_)
  exact length_of_books (books_awaitTime outside _ _ e)

/-! ## The counts agree -/

/-- Whatever a watcher does and whatever happens to it, in whatever order: whenever no task has the
turn, each station has dispatched as many alerts as its client has sent, and has as many delivery
errors as deliveries failed at the client, were dropped because no webhook was set, or raised an
error.  A delivery that the user interrupts ends the program and is none of these. -/
theorem tallied_of_run {setup : WatcherSetup} {epoch : Int} {disk : Disk} {network : Http.Network}
    {feed : Feed} {e : Engine}
    (hrun : ReflTransGen (Deed setup) (create setup epoch disk network feed).engine e) :
    ∀ s ∈ e.stations, ∃ d, s.pipeline.sink = .webhook d ∧
      s.pipeline.stats.dispatched = d.metrics.sent ∧
      s.pipeline.stats.deliveryErrors =
        d.metrics.failed + s.pipeline.ends.count .dropped + s.pipeline.ends.count .raised := by
  have htallied : e.IsTallied := by
    induction hrun with
    | refl => exact fun s hs => absurd hs (List.not_mem_nil)
    | tail _ hdeed ih => exact hdeed.isTallied ih
  intro s hs
  obtain ⟨d, hd, htallies⟩ := htallied s hs
  exact ⟨d, hd, htallies.dispatched, htallies.errors⟩

/-! ## Two alerts -/

namespace Twice

open Engine

/-- The webhook takes one alert, and at the next one something breaks. -/
def answering : Engine :=
  { Late.asked with network := { Late.asked.network with
      routes := [("players", [⟨0, .error .timeout⟩]),
        ("discord", [⟨0, .ok ⟨204, [], .empty⟩⟩, ⟨0, .error .broken⟩])] } }

/-- The first alert is posted, and the frame arrives once more. -/
def again : Engine :=
  make (.turn 1) ((make (.turn 4) (make (.alarm (.ring 4 2)) answering)).arrive
    (.message (.frame Late.frame)))

/-- The second alert is posted. -/
def posted : Engine :=
  again.progress 0 5 fun registry epoch now p =>
    (p.counted Late.frame).handleEvent registry epoch now Late.event

lemma make_again : make (.turn 5) again = posted := Late.make_receive rfl (by decide +kernel)

lemma deeds_posted : ReflTransGen (Deed Late.created.setup) Late.created.engine posted := by
  have hstarted : Late.created.startWith .empty =
      ({ Late.created with engine := Late.started }, .ok ()) := startWith_of_openOn Late.opened
  have hmoves : ReflTransGen Move Late.started posted := by
    rw [← make_again]
    exact (((((Late.moves_started.tail (.world _ answering.network _ rfl)).tail
      (.call (.alarm (.ring 4 2)))).tail (.call (.turn 4))).tail (.arrive _)).tail
        (.call (.turn 1))).tail (.call (.turn 5))
  have hdeed := deed_startWith .empty Late.created
  rw [hstarted] at hdeed
  exact .head hdeed (deeds_of_moves hmoves (by decide +kernel))

end Twice

/-- Of two alerts one is sent, and one raises an error. -/
theorem tallied_of_run_twice :
    ∃ e, ReflTransGen (Deed Engine.Late.created.setup) Engine.Late.created.engine e ∧
      ∃ s d, s ∈ e.stations ∧ s.pipeline.sink = .webhook d ∧ d.metrics.sent = 1 ∧
        s.pipeline.ends.count .raised = 1 ∧ s.pipeline.stats.dispatched = 1 ∧
        s.pipeline.stats.deliveryErrors = 1 := by
  have hagree := tallied_of_run Twice.deeds_posted
  obtain ⟨s, hs⟩ : ∃ s, Twice.posted.stations = [s] :=
    List.length_eq_one_iff.1 (by decide +kernel)
  have hmem : s ∈ Twice.posted.stations := hs ▸ List.mem_singleton_self s
  obtain ⟨d, hd, hdispatched, -⟩ := hagree s hmem
  have hcounts : Twice.posted.stations.map (fun s => (s.pipeline.stats, s.pipeline.ends)) =
      [(⟨2, 0, 0, 0, 0, 1, 1⟩, [.counted, .raised])] := by decide +kernel
  rw [hs] at hcounts
  obtain ⟨hstats, hends⟩ := Prod.mk.inj (List.singleton_inj.1 hcounts)
  rw [hstats] at hdispatched
  refine ⟨_, Twice.deeds_posted, s, d, hmem, hd, hdispatched.symm, ?_, ?_, ?_⟩
  · rw [hends]
    rfl
  · rw [hstats]
  · rw [hstats]

end Watcher

end FeedWatch
