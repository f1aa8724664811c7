import FeedWatch.Proofs.Delivery.Attempts
import FeedWatch.Proofs.Json.Bytes
import FeedWatch.Proofs.Reference.Exact
import FeedWatch.Reference.Fetch

/-!
# Fetching the reference either works or makes it unavailable

A reply brings a document if it is a success whose body can be read.  There are four ways in which
it leads to no index (`Http.Reply.Denies`), and all but the troubles that have nothing to do with
the network make the reference unavailable.

Main statement: fetching yields the index of the document that the reply brings or an error that
makes the reference unavailable, and a client is closed once if it was made for this, whatever the
reply is (`ReferenceIndex.fetch_ok_or_unavailable`).
-/

namespace FeedWatch

open Http

variable {reply : Reply} {doc : Json} {index : ReferenceIndex} {e : FetchError}

/-! ## Replies -/

namespace Http.Reply

/-- A reply brings a document: it is a success, and its body holds the document. -/
def Carries (reply : Reply) (v : Json) : Prop :=
  ∃ response, reply = .ok response ∧ response.isSuccess = true ∧
    Json.readBytes response.body = .ok v

/-- Why there is no index in a reply. -/
inductive Denies : Reply → FetchError → Prop where
  | trouble {t} : Denies (.error t) (.trouble t)
  | status {response} :
    response.isSuccess = false →
    Denies (.ok response) (.status response.status)
  | notJson {response e} :
    response.isSuccess = true →
    Json.readBytes response.body = .error e →
    Denies (.ok response) (.notJson e)
  | malformed {reply doc cause} :
    Carries reply doc →
    ReferenceIndex.ofJson doc = .error cause →
    Denies reply (.malformed cause)

/-- What is wrong with a document is reported. -/
lemma Denies.family_mem {cause : Json.Mismatch} (h : reply.Denies (.malformed cause)) :
    cause.family ∈ ReferenceIndex.reported := by
  cases h with
  | malformed _ hcause => exact ReferenceIndex.failsAs_ofJson _ hcause

/-- Without an index the reference is unavailable, unless the trouble is none of the network. -/
lemma Denies.isUnavailable_iff (h : reply.Denies e) :
    e.isUnavailable = true ↔ reply.IsAnswer := by
  cases h with
  | @trouble t => cases t <;> simp [FetchError.isUnavailable, IsAnswer]
  | status | notJson => exact iff_of_true rfl trivial
  | malformed hcarries hcause =>
    -- only an overflow would not count, and no document leads to one
    have hfamily := (malformed hcarries hcause).family_mem
    obtain ⟨response, rfl, -, -⟩ := hcarries
    refine iff_of_true (bne_iff_ne.2 fun hoverflow => ?_) trivial
    rw [hoverflow] at hfamily
    exact absurd hfamily (by decide)

end Http.Reply

/-! ## Interrupts -/

namespace Http

/-- A reply that is taken is one of a route, unless the network cannot be reached. -/
lemma takeReply_mem (url : String) (routes : List (String × List TimedReply)) :
    (∃ route ∈ routes, (takeReply url routes).2 ∈ route.2) ∨
      (takeReply url routes).2 = ⟨0, .error .unreachable⟩ := by
  induction routes with
  | nil => exact .inr rfl
  | cons route routes ih =>
    obtain ⟨part, replies⟩ := route
    rw [takeReply.eq_def]
    dsimp only
    split_ifs
    · cases replies with
      | nil => exact .inr rfl
      | cons reply later =>
        refine .inl ⟨_, List.mem_cons_self, ?_⟩
        cases later <;> exact List.mem_cons_self
    · refine ih.imp_left fun htaken => ?_
      obtain ⟨r, hr, hmem⟩ := htaken
      exact ⟨r, List.mem_cons_of_mem _ hr, hmem⟩

/-- No reply of the network is an interrupt by the user. -/
def Network.IsUninterrupted (net : Network) : Prop :=
  ∀ route ∈ net.routes, ∀ timed ∈ route.2, timed.reply ≠ .error .interrupted

lemma Network.IsUninterrupted.exchange {net : Network} {method url : String} {body : Option Json}
    {now : Nat} (h : net.IsUninterrupted) :
    ((Line.mk net now).exchange method url body).2 ≠ .error .interrupted := by
  have htaken : ((Line.mk net now).exchange method url body).2 = (takeReply url net.routes).2.reply :=
    rfl
  rw [htaken]
  obtain ⟨route, hroute, hmem⟩ | hunreachable := takeReply_mem url net.routes
  · exact h route hroute _ hmem
  · rw [hunreachable]
    exact nofun

end Http

/-! ## Indices -/

namespace ReferenceIndex

/-- The index is that of the document which the reply brings. -/
lemma ofReply_eq_ok :
    ofReply reply = .ok index ↔ ∃ doc, reply.Carries doc ∧ ofJson doc = .ok index := by
  constructor
  · intro h
    rw [ofReply.eq_def] at h
    split at h
    · cases h
    · split at h
      · cases h
      next hsuccess =>
        split at h
        · cases h
        next doc hread =>
          exact ⟨doc, ⟨_, rfl, by simpa using hsuccess, hread⟩, Except.mapError_eq_ok.1 h⟩
  · rintro ⟨doc, ⟨response, rfl, hsuccess, hread⟩, hindex⟩
    rw [ofReply, hsuccess]
    simp only [hread, hindex]
    rfl

/-- Every other reply is denied, and the error says why. -/
lemma ofReply_eq_error : ofReply reply = .error e ↔ reply.Denies e := by
  constructor
  · intro h
    rw [ofReply.eq_def] at h
    split at h
    · cases h
      exact .trouble
    · split at h
      next hsuccess =>
        cases h
        exact .status (by simpa using hsuccess)
      next hsuccess =>
        rw [Bool.not_eq_true', Bool.not_eq_false] at hsuccess
        split at h
        next hread =>
          cases h
          exact .notJson hsuccess hread
        next hread =>
          obtain ⟨cause, hcause, rfl⟩ := Except.mapError_eq_error.1 h
          exact .malformed ⟨_, rfl, hsuccess, hread⟩ hcause
  · rintro (_ | hsuccess | ⟨hsuccess, hread⟩ | ⟨⟨response, rfl, hsuccess, hread⟩, hcause⟩)
    · rfl
    · rw [ofReply, hsuccess]
      rfl
    · rw [ofReply, hsuccess]
      simp only [hread]
      rfl
    · rw [ofReply, hsuccess]
      simp only [hread, hcause]
      rfl

/-- Fetching makes one request and yields what its reply says.  That is the index of the document
in the reply, or an error.  The error makes the reference unavailable exactly if there was a
response or none because of the network, and no other causes than the reported ones are found in a
document.  A client is closed once if it was made for this and is left open otherwise. -/
theorem fetch_ok_or_unavailable (ownClient : Bool) (url : String) (line : Line) :
    (∀ index, (fetch ownClient url line).2 = .ok index ↔
      ∃ doc, (line.exchange "GET" url none).2.Carries doc ∧ ofJson doc = .ok index) ∧
    (∀ e, (fetch ownClient url line).2 = .error e ↔ (line.exchange "GET" url none).2.Denies e) ∧
    (∀ e, (fetch ownClient url line).2 = .error e →
      (e.isUnavailable = true ↔ (line.exchange "GET" url none).2.IsAnswer) ∧
        ∀ cause, e = .malformed cause → cause.family ∈ reported) ∧
    (fetch ownClient url line).1.network.log =
      line.network.log ++ [⟨"GET", some url, line.now, none⟩] ∧
    (fetch ownClient url line).1.network.closed = line.network.closed + ownClient.toNat := by
  refine ⟨fun index => ofReply_eq_ok, fun e => ofReply_eq_error, fun e h => ?_, ?_, ?_⟩
  · have hdenies := ofReply_eq_error.1 h
    refine ⟨hdenies.isUnavailable_iff, ?_⟩
    rintro cause rfl
    exact hdenies.family_mem
  · cases ownClient <;> rfl
  · cases ownClient <;> rfl

/-- An empty document makes the reference unavailable, and the client that was made for it is
closed; a failure of another nature does not, and the client that was there stays open. -/
theorem fetch_ok_or_unavailable_empty :
    let line : Reply → Line := fun reply => ⟨.ofRoutes [("", [⟨0, reply⟩])], 0⟩
    let empty : Line := line (.ok ⟨200, [], (Json.obj []).indented.toUTF8⟩)
    let broken : Line := line (.error .broken)
    (∃ e, (fetch true defaultUrl empty).2 = .error e ∧ e.isUnavailable = true ∧
      (fetch true defaultUrl empty).1.network.closed = 1) ∧
    (∃ e, (fetch false defaultUrl broken).2 = .error e ∧ e.isUnavailable = false ∧
      (fetch false defaultUrl broken).1.network.closed = 0) := by
  intro line empty broken
  constructor
  · obtain ⟨-, hdenied, hunavailable, -, hclosed⟩ := fetch_ok_or_unavailable true defaultUrl empty
    have hplain : (Json.obj []).IsPlain := .obj List.nodup_nil nofun
    have hread : Json.readBytes (Json.obj []).indented.toUTF8 = .ok (.obj []) := by
      rw [Json.readBytes_reread hplain.isFit, Json.reread_of_isPlain hplain]
    have herror := (hdenied (.malformed (.missing "Pit"))).2 (.malformed ⟨_, rfl, rfl, hread⟩ rfl)
    exact ⟨_, herror, (hunavailable _ herror).1.2 trivial, hclosed⟩
  · obtain ⟨-, hdenied, hunavailable, -, hopen⟩ := fetch_ok_or_unavailable false defaultUrl broken
    have herror := (hdenied (.trouble .broken)).2 .trouble
    refine ⟨_, herror, Bool.eq_false_iff.2 fun h => ?_, hopen⟩
    obtain h | h := (hunavailable _ herror).1.1 h <;> cases h

end ReferenceIndex

end FeedWatch
