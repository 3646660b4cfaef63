import Switchboard.Channel.Sending

/-!
# Dispatch

An event of a channel first passes the message hook and then reaches the bindings of its name, in
the order of registration.  A binding that is removed meanwhile is passed over.

A reply is dispatched twice: under the name of all replies, and from there under the name of the
one push that it answers.  The answer to a leave dispatches the closing of the channel.  Nothing
else dispatches from within a dispatch, so three levels are enough for every event.

Main definitions

* `Socket.react`: how a channel takes the replies to its own pushes;
* `Socket.resolvePush`: a push has its reply;
* `Socket.dispatchTo`, `Socket.trigger`: an event reaches its bindings;
* `Socket.triggerPush`: a push is answered by the channel itself.
-/

set_option autoImplicit false

namespace Switchboard.Socket

variable {ω : Type} [Outside ω]

/-- What dispatches an event: its name, payload, ref and join ref. -/
abbrev Dispatch (ω : Type) : Type :=
  ChannelId → String → Payload → Option Ref → Option Ref → Socket ω → Socket ω

/-! ### A channel closes or fails -/

/-- Waiting callers will not be answered. -/
def discardAll (s : Socket ω) (tickets : List Ticket) : Socket ω :=
  s.performAll (tickets.map .discard)

/-- Forgets a channel altogether. -/
def eraseChannel (s : Socket ω) (c : ChannelId) : Socket ω :=
  match s.channels.get? c with
  | none => s
  | some ch => { s with channels := s.channels.erase c }.discardAll ch.waiters

/-- Strikes a channel out of the registry; without a handle it is forgotten. -/
def removeChannel (s : Socket ω) (c : ChannelId) : Socket ω :=
  match s.channels.get? c with
  | none => s
  | some ch =>
    let s := s.off ch.socketRefs
    let s := { s with order := s.order.filter (· ≠ c) }
    if ch.orphaned then s.eraseChannel c else s

/-- A channel closes. -/
def closeChannel (s : Socket ω) (c : ChannelId) : Socket ω :=
  (s.modifyChannel c fun ch =>
    { ch with rejoinTimer := ch.rejoinTimer.reset, state := .closed }).removeChannel c

/-- Arms the next join attempt if the connection is open. -/
def scheduleRejoinIfConnected (s : Socket ω) (c : ChannelId) : Socket ω :=
  if s.isConnected then s.scheduleRejoin c else s

/-- A channel enters the failed state. -/
def markErrored (s : Socket ω) (c : ChannelId) : Socket ω :=
  s.modifyChannel c fun ch => { ch with state := .errored }

/-- A channel fails; it tries to join again once it may. -/
def failChannel (s : Socket ω) (c : ChannelId) : Socket ω :=
  match s.channels.get? c with
  | none => s
  | some ch =>
    let s := if ch.state = .joining then s.resetPush c joinPush else s
    (s.markErrored c).scheduleRejoinIfConnected c

/-! ### Replies -/

/-- The pushes that waited for the join are sent in their order. -/
def acceptJoin (s : Socket ω) (c : ChannelId) : Socket ω :=
  match s.channels.get? c with
  | none => s
  | some ch =>
    let s := s.modifyChannel c fun ch =>
      { ch with state := .joined, rejoinTimer := ch.rejoinTimer.reset, buffer := [] }
    ch.buffer.foldl (fun s p => s.sendPush c p) s

/-- A join that was not answered in time is taken back with a leave. -/
def abandonJoin (s : Socket ω) (c : ChannelId) : Socket ω :=
  match s.channels.get? c with
  | none => s
  | some ch =>
    let (p, s) := s.drawPush c
    let leave := { Push.bareLeave ch.timeout with detached := true }
    let s := s.modifyChannel c fun ch => { ch with pushes := ch.pushes.set p leave }
    -- The server may have joined the channel after all, so it is told to let it go.
    let s := (s.sendPush c p).markErrored c
    (s.resetPush c joinPush).scheduleRejoinIfConnected c

/-- How a channel takes the reply to a push of its own. -/
def react (dispatch : Dispatch ω) (c : ChannelId) (reaction : Reaction) (s : Socket ω) :
    Socket ω :=
  match reaction with
  | .joinOk => s.acceptJoin c
  | .joinError =>
    if s.channels.contains c then (s.markErrored c).scheduleRejoinIfConnected c else s
  | .joinTimeout => s.abandonJoin c
  | .leaveDone => dispatch c Event.close (.json (.string "leave")) none none s

/-- Runs what a push has waiting for a reply at one place of its list. -/
def runReplyHook (dispatch : Dispatch ω) (c : ChannelId) (p : PushId) (reply : Reply)
    (s : Socket ω) (index : Nat) : Socket ω :=
  match (s.push? c p).bind fun push => push.hooks[index]? with
  | none => s
  | some (status, hook) =>
    if status == reply.status then
      let s := s.perform (.runReply c p hook reply)
      match hook with
      | .callback _ => s
      | .channel reaction => s.react dispatch c reaction
    else s

/-- What a push has waiting for its reply runs, place by place. -/
def runReplyHooks (s : Socket ω) (dispatch : Dispatch ω) (c : ChannelId) (p : PushId)
    (reply : Reply) (count : Nat) : Socket ω :=
  (List.range count).foldl (runReplyHook dispatch c p reply) s

/-- A push counts as resolved: its callers are answered, and it is listened for no longer. -/
def settlePush (s : Socket ω) (c : ChannelId) (p : PushId) (push : Push) (reply : Reply) :
    Socket ω :=
  let s := s.modifyPush c p fun q =>
    { q with timer := q.timer.cancel, received := some reply, waiters := [] }
  -- The push counts as resolved before anybody is told of it.
  let s := s.performAll (push.waiters.map fun ticket => .answer ticket (.reply c p reply))
  let s := s.modifyChannel c fun ch => ch.dropBindings? push.refEvent
  s.perform (.resolve c p push.ref reply)

/-- A push has its reply: its callers are answered, and what waits for the status runs. -/
def resolvePush (dispatch : Dispatch ω) (c : ChannelId) (p : PushId) (reply : Reply)
    (s : Socket ω) : Socket ω :=
  match s.push? c p with
  | none => s
  | some push =>
    let s := s.settlePush c p push reply
    -- What runs here may take the push away; the places behind it are then passed over.
    let s := s.runReplyHooks dispatch c p reply push.hooks.length
    s.releasePush c p

/-! ### Events -/

/-- Passes a reply on to the push that it names. -/
def redirect (dispatch : Dispatch ω) (c : ChannelId) (payload : Payload) (ref : Option Ref)
    (s : Socket ω) : Socket ω :=
  match ref with
  | some ref => dispatch c (Event.replyTo ref) payload none none s
  | none => s

/-- An event reaches a target. -/
def runTarget (dispatch : Dispatch ω) (c : ChannelId) (event : InboundEvent) (target : Target)
    (s : Socket ω) : Socket ω :=
  match target with
  | .listener (.callback callback) => s.perform (.runEvent callback event)
  | .listener (.stream stream) => s.perform (.yield stream event)
  | .redirect => s.redirect dispatch c event.payload event.ref
  | .resolve p =>
    match event.payload.reply? with
    | some reply => s.resolvePush dispatch c p reply
    | none => s
  | .close => s.closeChannel c
  | .error => s.failChannel c

/-- An event reaches one binding, if it is still there. -/
def runBinding (dispatch : Dispatch ω) (c : ChannelId) (event : InboundEvent) (s : Socket ω)
    (number : BindingId) : Socket ω :=
  match (s.channels.get? c).bind fun ch => ch.binding? event.event number with
  | some binding => s.runTarget dispatch c event binding.target
  | none => s

/-- An event that has passed the message hook reaches its bindings. -/
def runBindings (dispatch : Dispatch ω) (c : ChannelId) (event : InboundEvent) (s : Socket ω) :
    Socket ω :=
  match s.channels.get? c with
  | none => s
  | some ch =>
    -- An event without a join ref belongs to the present join.
    let event := { event with joinRef := event.joinRef <|> ch.joinRef }
    (ch.bindingsOf event.event).foldl (runBinding dispatch c event) s

/-- The failure of a message hook that withholds a payload. -/
def hookViolation (topic event : String) : SocketError :=
  .protocol ("channel message hook for '" ++ topic ++ "' returned no payload for '" ++ event ++ "'")

/-- An event passes the message hook; nothing is left of it if the hook withholds a payload. -/
def passHook (s : Socket ω) (ch : Channel) (event : String) (payload : Payload)
    (ref : Option Ref) : Option Payload × Socket ω :=
  match ch.hook with
  | none => (some payload, s)
  | some hook =>
    let (result, exchange, outside) := Outside.hook hook event payload ref s.exchange s.outside
    let s := { s with exchange, outside }
    match result with
    | some payload => (some payload, s)
    | none =>
      -- Only a payload that was there can be withheld.
      if payload.isPresent then (none, s.report (hookViolation ch.topic event))
      else (some .absent, s)

/-- Dispatches an event; what its bindings dispatch in turn goes through `nested`. -/
def dispatchWith (nested : Dispatch ω) : Dispatch ω := fun c event payload ref joinRef s =>
  match s.channels.get? c with
  | none => s
  | some ch =>
    match s.passHook ch event payload ref with
    | (none, s) => s
    | (some payload, s) => s.runBindings nested c ⟨event, payload, ref, joinRef⟩

/-- Dispatches an event down to a number of levels. -/
def dispatchTo : Nat → Dispatch ω
  | 0 => fun _ _ _ _ _ s => s
  | n + 1 => dispatchWith (dispatchTo n)

/-- Dispatches an event: of a reply to all, of the reply to one push, and of the closing. -/
def trigger (s : Socket ω) (c : ChannelId) (event : String) (payload : Payload)
    (ref joinRef : Option Ref) : Socket ω :=
  dispatchTo 3 c event payload ref joinRef s

/-- A channel is told that its connection failed. -/
def triggerError (s : Socket ω) (c : ChannelId) : Socket ω :=
  s.trigger c Event.error .absent none none

/-- All channels that the failure of a connection concerns are told of it. -/
def triggerErrors (s : Socket ω) : Socket ω :=
  s.order.foldl
    (fun s c => match s.channels.get? c with
      | some ch => if ch.acceptsError then s.triggerError c else s
      | none => s)
    s

/-- A push is answered by the channel itself. -/
def triggerPush (s : Socket ω) (c : ChannelId) (p : PushId) (status : String)
    (response : Payload) : Socket ω :=
  match (s.push? c p).bind Push.refEvent with
  | some event => s.trigger c event (.reply status response) none none
  | none => s

/-- The timeout of a push is over. -/
def pushTimeout (s : Socket ω) (c : ChannelId) (p : PushId) (generation : Nat) : Socket ω :=
  match (s.push? c p).bind fun push => push.timer.accept generation with
  | none => s
  | some timer =>
    (s.modifyPush c p fun q => { q with timer := timer }).triggerPush c p Status.timeout .empty

/-- Whether a message is for a channel, and not for an earlier join of it. -/
def isMember (s : Socket ω) (c : ChannelId) (m : Message) : Bool :=
  match s.channels.get? c with
  | none => false
  | some ch =>
    ch.topic == m.topic &&
      match m.joinRef with
      | some ref => ch.joinRef == some ref
      | none => true

end Switchboard.Socket
