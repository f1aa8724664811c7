import FeedWatch.Json.Basic

/-!
# Requests over the network

The network is a script: each route answers the requests whose address contains its text, reply by
reply, the last one over and over.  A reply comes after a delay and is a response or a trouble.  All
requests are logged.  A `Line` is a network in use by one party that waits for each reply, so its
clock moves with the delays.  Times are microseconds.
-/

namespace FeedWatch.Http

/-- A response: its status, its headers and its body. -/
structure Response where
  status : Int
  headers : List (String × String)
  body : ByteArray

/-- Whether a response reports success. -/
def Response.isSuccess (r : Response) : Bool := 200 ≤ r.status && r.status < 300

/-- The values of a header, whose name may be in any case, joined by commas. -/
def Response.header? (r : Response) (name : String) : Option String :=
  match r.headers.filter fun (n, _) => n.map Char.toLower == name.map Char.toLower with
  | [] => none
  | found => some (", ".intercalate (found.map (·.2)))

/-- What can happen in the place of a response. -/
inductive Trouble
  | timeout
  | unreachable
  /-- A failure that has nothing to do with the network. -/
  | broken
  /-- The user stops the program. -/
  | interrupted
deriving DecidableEq

/-- The wording of a trouble. -/
def Trouble.message : Trouble → String
  | timeout => "slow"
  | unreachable => "unreachable"
  | broken => "boom"
  | interrupted => ""

/-- A response or a trouble. -/
abbrev Reply := Except Trouble Response

/-- A reply and the time it takes. -/
structure TimedReply where
  delay : Nat
  reply : Reply

/-- A logged request.  A client that has lost its address still makes requests. -/
structure Request where
  method : String
  url : Option String
  time : Nat
  body : Option Json

/-- The script of the network, the requests so far, and how many clients were closed. -/
structure Network where
  routes : List (String × List TimedReply)
  log : List Request
  closed : Nat

/-- Whether a text contains another. -/
def containsText (part : List Char) : List Char → Bool
  | [] => part.isEmpty
  | c :: rest => part.isPrefixOf (c :: rest) || containsText part rest

/-- Takes the next reply of the first route that fits; its last reply stays. -/
def takeReply (url : String) :
    List (String × List TimedReply) → List (String × List TimedReply) × TimedReply
  | [] => ([], ⟨0, .error .unreachable⟩)
  | (part, replies) :: rest =>
    if containsText part.toList url.toList then
      match replies with
      | [] => ((part, []) :: rest, ⟨0, .error .unreachable⟩)
      | [reply] => ((part, [reply]) :: rest, reply)
      | reply :: later => ((part, later) :: rest, reply)
    else
      let (rest, reply) := takeReply url rest
      ((part, replies) :: rest, reply)

namespace Network

/-- The network with a script, before any request. -/
def ofRoutes (routes : List (String × List TimedReply)) : Network :=
  { routes, log := [], closed := 0 }

/-- Takes the reply to a request.  Without an address no route can be tried, which is a failure of
another nature unless there are no routes at all. -/
def reply (url : Option String) (net : Network) : List (String × List TimedReply) × TimedReply :=
  match url with
  | some url => takeReply url net.routes
  | none => (net.routes, ⟨0, .error (if net.routes.isEmpty then .unreachable else .broken)⟩)

/-- Makes a request at a time. -/
def request (method : String) (url : Option String) (body : Option Json) (time : Nat)
    (net : Network) : Network × TimedReply :=
  let (routes, reply) := net.reply url
  ({ net with routes, log := net.log ++ [{ method, url, time, body }] }, reply)

/-- Closes a client, if one was made. -/
def close (made : Bool) (net : Network) : Network :=
  if made then { net with closed := net.closed + 1 } else net

end Network

/-- A network in use by one party, and its clock. -/
structure Line where
  network : Network
  now : Nat

/-- Makes a request and waits for the reply. -/
def Line.exchange (method url : String) (body : Option Json) (line : Line) : Line × Reply :=
  let (network, timed) := line.network.request method (some url) body line.now
  ({ network, now := line.now + timed.delay }, timed.reply)

end FeedWatch.Http
