import FeedWatch.Http
import FeedWatch.Json.Bytes
import FeedWatch.Text.SectionCodes
import FeedWatch.Text.Template

/-!
# Owner labels

An owner is shown by level and name, which a player service knows.  The look-up is a best effort: a
reply that is late, missing, no success or of another shape gives no label.
-/

namespace FeedWatch.Owner

/-- The address of the player service. -/
def defaultTemplate : String := "https://pitpanda.rocks/api/players/\x7bowner\x7d"

/-- The label in what the player service says. -/
def label? : Json → Option String
  | .obj members =>
    if ((members.lookup "success").getD .null).isFilled then
      match members.lookup "data" with
      | some (.obj data) =>
        match data.lookup "name", data.lookup "formattedLevel" with
        | some (.str name), some (.str level) =>
          some (Text.stripSectionCodes level ++ " " ++ name)
        | _, _ => none
      | _ => none
    else none
  | _ => none

/-- The label in a reply; a failure that has nothing to do with the network is passed on. -/
def ofReply : Http.Reply → Except Http.Trouble (Option String)
  | .error .timeout | .error .unreachable => .ok none
  | .error t => .error t
  | .ok response =>
    if !response.isSuccess then .ok none
    else
      match Json.readBytes response.body with
      | .ok v => .ok (label? v)
      | .error _ => .ok none

/-- Why a look-up fails. -/
inductive ResolveError
  | template (e : Text.TemplateError)
  | trouble (t : Http.Trouble)

/-- The address to ask about an owner. -/
def url (template owner : String) : Except Text.TemplateError String :=
  Text.fillTemplate template [("owner", owner)]

/-- Looks an owner up and waits for the reply. -/
def resolve (template owner : String) (line : Http.Line) :
    Http.Line × Except ResolveError (Option String) :=
  match url template owner with
  | .error e => (line, .error (.template e))
  | .ok address =>
    let (line, reply) := line.exchange "GET" address none
    (line, (ofReply reply).mapError .trouble)

end FeedWatch.Owner
