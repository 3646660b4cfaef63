import Switchboard.Channel.Dispatch

/-!
# Operations of channels

What the handles of channels and pushes ask for, and how channels follow the connection of their
socket.  An operation on a channel that is no longer there is dropped, and who waits for its answer
is told so.

Main definitions

* `Socket.createChannel`, `Socket.dropChannel`: a channel enters the registry, its last handle goes;
* `Socket.rejoin`, `Socket.leaveOpenTopic`: a join attempt, which displaces a live channel of the
  same topic;
* `Socket.applyOp`: an operation of a handle.
-/

set_option autoImplicit false

namespace Switchboard

/-- The caller that an operation has waiting. -/
def ChannelOp.ticket? : ChannelOp → Option Ticket
  | .awaitReply _ ticket | .askState ticket | .askJoinRef ticket | .askRejoinTries ticket =>
    some ticket
  | .join _ | .push .. | .leave .. | .bind .. | .unbind .. | .setHook _ | .receive ..
  | .release _ => none

namespace Socket

variable {ω : Type}

/-! ### The registry -/

/-- A channel enters the registry; it follows the opening and the failure of connections. -/
def createChannel (s : Socket ω) (c : ChannelId) (topic : String) (params : Params) : Socket ω :=
  let (onError, s) := s.drawRef
  let (onOpen, s) := s.drawRef
  let callbacks := { s.callbacks with
    onError := s.callbacks.onError ++ [(onError, .resetRejoin c)]
    onOpen := s.callbacks.onOpen ++ [(onOpen, .rejoin c)] }
  { s with
    callbacks
    channels := s.channels.set c (.new topic params s.config.timeout [onError, onOpen])
    order := s.order ++ [c] }

variable [Outside ω]

/-- The last handle of a channel goes; a channel in the registry stays there until it closes. -/
def dropChannel (s : Socket ω) (c : ChannelId) : Socket ω :=
  if s.order.contains c then s.modifyChannel c fun ch => { ch with orphaned := true }
  else s.eraseChannel c

/-! ### Joining and leaving -/

/-- Asks to leave; without a connection the channel closes at once. -/
def leave (s : Socket ω) (c : ChannelId) (p : PushId) (timeout : Nat) (detached : Bool) :
    Socket ω :=
  if !s.channels.contains c then s
  else
    let leave := { Push.leave timeout with detached := detached }
    let s := s.modifyChannel c fun ch =>
      { ch with
        rejoinTimer := ch.rejoinTimer.reset
        state := .leaving
        pushes := (ch.pushes.modify joinPush fun join =>
          { join with timer := join.timer.cancel }).set p leave }
    let s := s.sendPush c p
    -- A channel that is leaving cannot push, so it does not wait for the server.
    if s.canPush c then s else s.triggerPush c p Status.ok .empty

/-- The first live channel of a topic besides a given one. -/
def liveDuplicate? (s : Socket ω) (topic : String) (c : ChannelId) : Option ChannelId :=
  s.order.find? fun other =>
    other != c &&
      match s.channels.get? other with
      | some ch => ch.topic == topic && ch.isLive
      | none => false

/-- Leaves another live channel of a topic. -/
def leaveOpenTopic (s : Socket ω) (topic : String) (c : ChannelId) : Socket ω :=
  match s.liveDuplicate? topic c with
  | none => s
  | some other =>
    match s.channels.get? other with
    | none => s
    | some ch =>
      let (p, s) := s.drawPush other
      s.leave other p ch.timeout true

/-- A join attempt, unless the channel is about to leave. -/
def rejoin (s : Socket ω) (c : ChannelId) : Socket ω :=
  match s.channels.get? c with
  | none => s
  | some ch =>
    if ch.state = .leaving then s
    else
      -- To leave the other channel may run callbacks, so this one is looked up again.
      let s := s.leaveOpenTopic ch.topic c
      match s.channels.get? c with
      | none => s
      | some ch =>
        let s := s.modifyChannel c fun ch => { ch with state := .joining }
        s.resendPush c joinPush ch.timeout

/-- The first join attempt, with the timeout of all later ones. -/
def join (s : Socket ω) (c : ChannelId) (timeout : Nat) : Socket ω :=
  (s.modifyChannel c fun ch => { ch with timeout := timeout }).rejoin c

/-! ### Pushes -/

/-- Sends a push, or keeps it until the channel has joined; its time runs in either case. -/
def push (s : Socket ω) (c : ChannelId) (p : PushId) (event : String) (payload : Payload)
    (timeout : Nat) : Socket ω :=
  if !s.channels.contains c then s
  else
    let s := s.modifyChannel c fun ch =>
      { ch with pushes := ch.pushes.set p (.new event (.fixed payload) timeout) }
    if s.canPush c then s.sendPush c p
    else
      -- The push has a ref of its own already, and takes another one when it is sent.
      (s.startTimeout c p).modifyChannel c fun ch => { ch with buffer := ch.buffer ++ [p] }

/-- Lets a callback run on a status; it runs at once if the push was resolved with it. -/
def receive (s : Socket ω) (c : ChannelId) (p : PushId) (status : String)
    (callback : CallbackId) : Socket ω :=
  match s.push? c p with
  | none => s
  | some push =>
    let s := match push.received with
      | some reply =>
        if reply.status == status then s.perform (.runReply c p (.callback callback) reply) else s
      | none => s
    s.modifyPush c p fun q => q.onReply status (.callback callback)

/-- A caller waits for the reply to a push. -/
def awaitReply (s : Socket ω) (c : ChannelId) (p : PushId) (ticket : Ticket) : Socket ω :=
  match s.push? c p with
  | none => s.perform (.discard ticket)
  | some push =>
    match push.received with
    | some reply => s.perform (.answer ticket (.reply c p reply))
    | none => s.modifyPush c p fun q => { q with waiters := q.waiters ++ [ticket] }

/-- The last handle of a push goes. -/
def release (s : Socket ω) (c : ChannelId) (p : PushId) : Socket ω :=
  if p = joinPush then s
  else (s.modifyPush c p fun q => { q with detached := true }).releasePush c p

/-! ### Operations -/

/-- A caller is told something of a channel. -/
def tell (s : Socket ω) (c : ChannelId) (ticket : Ticket) (f : Channel → Answer) : Socket ω :=
  match s.channels.get? c with
  | some ch => s.perform (.answer ticket (f ch))
  | none => s.perform (.discard ticket)

/-- An operation on a channel that is there. -/
def applyOp (s : Socket ω) (c : ChannelId) : ChannelOp → Socket ω
  | .join timeout => s.join c timeout
  | .push p event payload timeout => s.push c p event payload timeout
  | .leave p timeout => s.leave c p timeout false
  | .bind binding event listener =>
    s.modifyChannel c fun ch => ch.bind event binding (.listener listener)
  | .unbind event binding => s.modifyChannel c fun ch => ch.unbind event binding
  | .setHook hook => s.modifyChannel c fun ch => { ch with hook := some hook }
  | .receive p status callback => s.receive c p status callback
  | .awaitReply p ticket => s.awaitReply c p ticket
  | .release p => s.release c p
  | .askState ticket => s.tell c ticket fun ch => .channelState ch.state
  | .askJoinRef ticket => s.tell c ticket fun ch => .joinRef ch.joinRef
  | .askRejoinTries ticket => s.tell c ticket fun ch => .count ch.rejoinTimer.tries

/-- An operation on a channel; without the channel its caller is told so. -/
def channelOp (s : Socket ω) (c : ChannelId) (op : ChannelOp) : Socket ω :=
  if s.channels.contains c then s.applyOp c op
  else
    match op.ticket? with
    | some ticket => s.perform (.discard ticket)
    | none => s

/-! ### The connection -/

/-- The time for a join attempt has come. -/
def rejoinTimeout (s : Socket ω) (c : ChannelId) (generation : Nat) : Socket ω :=
  match (s.channels.get? c).bind fun ch => ch.rejoinTimer.fire generation with
  | none => s
  | some timer =>
    let s := s.modifyChannel c fun ch => { ch with rejoinTimer := timer }
    if s.isConnected then s.rejoin c else s

/-- A channel forgets its join attempts. -/
def resetRejoin (s : Socket ω) (c : ChannelId) : Socket ω :=
  s.modifyChannel c fun ch => { ch with rejoinTimer := ch.rejoinTimer.reset }

/-- A connection is open; a failed channel joins again. -/
def rejoinIfErrored (s : Socket ω) (c : ChannelId) : Socket ω :=
  match s.channels.get? c with
  | none => s
  | some ch =>
    let s := s.resetRejoin c
    if ch.state = .errored then s.rejoin c else s

end Socket

end Switchboard
