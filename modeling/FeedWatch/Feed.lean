import FeedWatch.Event

/-!
# The feed as it is met

The feed is a script of connection attempts.  An attempt takes a while and then fails or gives a
socket; a socket has an inbox of messages, and the script says how long sending on it and closing it
take and whether they fail.  What the watcher does to the feed is kept with it: the attempts made,
what was read and in which order, the texts sent, the closings.
-/

namespace FeedWatch

/-- The ways in which a connection fails.  The last one is a failure of another nature, which the
rules for lost connections do not cover. -/
inductive Failure
  | refused
  | timeout
  | system
  | other
deriving DecidableEq

/-- What a failure says. -/
def Failure.message : Failure → String
  | refused => ""
  | timeout => ""
  | system => ""
  | other => "boom"

/-- A message of a socket. -/
inductive Message
  | frame (p : Payload)
  | error
  /-- A message of the protocol itself. -/
  | control

/-- What comes next on a socket: a message, the end of the stream, or a failure of it. -/
inductive Arrival
  | message (m : Message)
  | ended
  | failed (f : Failure)

/-- A connection attempt in the script. -/
structure Attempt where
  delay : Nat
  fails : Option Failure
  sendFails : Option Failure
  closeFails : Option Failure
  inbox : List Arrival
  sendDelay : Nat := 0
  closeDelay : Nat := 0

/-- An attempt that gives a quiet socket at once. -/
def Attempt.plain : Attempt :=
  { delay := 0, fails := none, sendFails := none, closeFails := none, inbox := [] }

/-- A socket: what waits to be read, and what was done to it. -/
structure Socket where
  inbox : List Arrival
  sendFails : Option Failure
  closeFails : Option Failure
  sendDelay : Nat
  closeDelay : Nat
  sent : List String
  closings : Nat

/-- The feed: the attempts to come, the addresses of those made, the sockets given, what was read
and on which socket, and how many client sessions were closed. -/
structure Feed where
  script : List Attempt
  urls : List String
  sockets : List Socket
  read : List (Nat × Arrival)
  sessionsClosed : Nat

namespace Feed

/-- The name by which a client makes itself known to the feed. -/
def userAgent : String := "MysticAlert/1.0"

/-- The feed before the first attempt. -/
def ofScript (script : List Attempt) : Feed :=
  { script, urls := [], sockets := [], read := [], sessionsClosed := 0 }

/-- Makes an attempt. -/
def attempt (url : String) (feed : Feed) : Feed × Attempt :=
  ({ feed with script := feed.script.tail, urls := feed.urls ++ [url] },
    feed.script.headD .plain)

/-- Adds the socket that an attempt gives; its number is the number of sockets before. -/
def accept (a : Attempt) (feed : Feed) : Feed :=
  { feed with sockets := feed.sockets ++
      [{ inbox := a.inbox, sendFails := a.sendFails, closeFails := a.closeFails
         sendDelay := a.sendDelay, closeDelay := a.closeDelay, sent := [], closings := 0 }] }

/-- Changes a socket. -/
def alter (socket : Nat) (f : Socket → Socket) (feed : Feed) : Feed :=
  { feed with sockets := feed.sockets.modify socket f }

/-- Something arrives on the newest socket. -/
def arrive (a : Arrival) (feed : Feed) : Feed :=
  feed.alter (feed.sockets.length - 1) fun s => { s with inbox := s.inbox ++ [a] }

/-- Takes what comes next on a socket. -/
def next? (socket : Nat) (feed : Feed) : Option (Arrival × Feed) :=
  match feed.sockets[socket]? with
  | some s =>
    match s.inbox with
    | [] => none
    | a :: rest =>
      some (a, { feed.alter socket fun s => { s with inbox := rest } with
        read := feed.read ++ [(socket, a)] })
  | none => none

/-- How long sending on a socket takes. -/
def sendDelay (socket : Nat) (feed : Feed) : Nat := feed.sockets[socket]?.elim 0 Socket.sendDelay

/-- How long closing a socket takes. -/
def closeDelay (socket : Nat) (feed : Feed) : Nat := feed.sockets[socket]?.elim 0 Socket.closeDelay

/-- Sends a text on a socket; one that fails is not sent. -/
def send (socket : Nat) (text : String) (feed : Feed) : Feed × Option Failure :=
  match feed.sockets[socket]?.bind Socket.sendFails with
  | some f => (feed, some f)
  | none => (feed.alter socket fun s => { s with sent := s.sent ++ [text] }, none)

/-- Closes a socket; one that fails counts as closed too. -/
def close (socket : Nat) (feed : Feed) : Feed × Option Failure :=
  (feed.alter socket fun s => { s with closings := s.closings + 1 },
    feed.sockets[socket]?.bind Socket.closeFails)

end Feed

end FeedWatch
