import Switchboard.Socket.Command
import Switchboard.Table

/-!
# Channels

A channel keeps its bindings, its pushes and the timer of its next join attempt.  Three bindings
belong to the channel itself: it closes, it fails, and it passes a reply on to the push that the
reply names.

Main definitions

* `Push`: a message that awaits its reply or its timeout;
* `Binding`, `Target`: what happens on an event;
* `Channel`, `Channel.new`;
* `Channel.bind`, `Channel.unbind`, `Channel.dropBindings`.
-/

set_option autoImplicit false

namespace Switchboard

/-! ### Pushes -/

/-- What a push carries. -/
inductive PushBody where
  | fixed (payload : Payload)
  /-- The parameters of the channel, evaluated at each send. -/
  | channelParams
  deriving Inhabited

/-- How a channel reacts to the replies to its own pushes. -/
inductive Reaction where
  | joinOk
  | joinError
  | joinTimeout
  | leaveDone
  deriving DecidableEq, Repr, Inhabited

/-- What happens when a push is resolved. -/
inductive ReplyHook where
  | callback (callback : CallbackId)
  | channel (reaction : Reaction)
  deriving DecidableEq, Repr, Inhabited

/-- A message that awaits its reply or its timeout. -/
structure Push where
  event : String
  body : PushBody
  timeout : Nat
  ref : Option Ref
  /-- The event under which the reply is dispatched. -/
  refEvent : Option String
  received : Option Reply
  hooks : List (String × ReplyHook)
  waiters : List Ticket
  sent : Bool
  timer : TimerSlot
  /-- No handle refers to the push any more. -/
  detached : Bool
  deriving Inhabited

namespace Push

/-- A push that was not sent. -/
def new (event : String) (body : PushBody) (timeout : Nat) : Push where
  event := event
  body := body
  timeout := timeout
  ref := none
  refEvent := none
  received := none
  hooks := []
  waiters := []
  sent := false
  timer := .new
  detached := false

/-- Whether the push was resolved with a status. -/
def hasReceived (p : Push) (status : String) : Bool :=
  match p.received with
  | some r => r.status == status
  | none => false

/-- Adds something to happen on a status. -/
def onReply (p : Push) (status : String) (hook : ReplyHook) : Push :=
  { p with hooks := p.hooks ++ [(status, hook)] }

/-- Takes the push back to where it was before it was sent. -/
def reset (p : Push) : Push :=
  { p with
    ref := none
    refEvent := none
    received := none
    sent := false
    timer := p.timer.cancel }

/-- Whether the push is resolved and nobody refers to it. -/
def isReleasable (p : Push) : Bool := p.detached && p.received.isSome

/-- The push that asks to join. -/
def join (timeout : Nat) : Push :=
  new Event.join .channelParams timeout
    |>.onReply Status.ok (.channel .joinOk)
    |>.onReply Status.error (.channel .joinError)
    |>.onReply Status.timeout (.channel .joinTimeout)

/-- The push that asks to leave, without a reaction to its reply. -/
def bareLeave (timeout : Nat) : Push := new Event.leave (.fixed .empty) timeout

/-- The push that asks to leave; the channel closes on its reply. -/
def leave (timeout : Nat) : Push :=
  bareLeave timeout
    |>.onReply Status.ok (.channel .leaveDone)
    |>.onReply Status.timeout (.channel .leaveDone)

end Push

/-! ### Bindings -/

/-- What a binding does with an event. -/
inductive Target where
  | listener (listener : Listener)
  /-- Passes a reply on to the push that it names. -/
  | redirect
  /-- Resolves a push. -/
  | resolve (push : PushId)
  /-- Closes the channel. -/
  | close
  /-- Lets the channel fail. -/
  | error
  deriving DecidableEq, Repr, Inhabited

/-- A target for the events of one name. -/
structure Binding where
  event : String
  number : BindingId
  target : Target
  deriving DecidableEq, Repr, Inhabited

/-! ### Channels -/

/-- A channel of a socket. -/
structure Channel where
  topic : String
  params : Params
  state : ChannelState
  bindings : List Binding
  timeout : Nat
  pushes : Table Push
  /-- Pushes that wait for the channel to be joined. -/
  buffer : List PushId
  rejoinTimer : BackoffTimer
  /-- The registrations of the channel with the socket. -/
  socketRefs : List Ref
  hook : Option CallbackId
  /-- No handle refers to the channel any more. -/
  orphaned : Bool
  deriving Inhabited

namespace Channel

/-- The bindings that belong to the channel itself. -/
def ownBindings : List Binding :=
  [⟨Event.close, 0, .close⟩, ⟨Event.error, 1, .error⟩, ⟨Event.reply, 2, .redirect⟩]

/-- A channel that was not asked to join. -/
def new (topic : String) (params : Params) (timeout : Nat) (socketRefs : List Ref) : Channel where
  topic := topic
  params := params
  state := .closed
  bindings := ownBindings
  timeout := timeout
  pushes := Table.empty.set joinPush (.join timeout)
  buffer := []
  rejoinTimer := .new
  socketRefs := socketRefs
  hook := none
  orphaned := false

/-- The ref of the latest join attempt. -/
def joinRef (c : Channel) : Option Ref := (c.pushes.get? joinPush).bind Push.ref

/-- Whether the failure of a connection concerns the channel. -/
def acceptsError (c : Channel) : Bool :=
  match c.state with
  | .joining | .joined => true
  | .errored | .leaving | .closed => false

/-- Whether the channel occupies its topic. -/
def isLive (c : Channel) : Bool :=
  match c.state with
  | .joining | .joined => true
  | .errored | .leaving | .closed => false

/-- Adds a binding. -/
def bind (c : Channel) (event : String) (number : BindingId) (target : Target) : Channel :=
  { c with bindings := c.bindings ++ [⟨event, number, target⟩] }

/-- Removes one binding of an event, or all of them. -/
def unbind (c : Channel) (event : String) (number : Option BindingId) : Channel :=
  { c with
    bindings := c.bindings.filter fun b =>
      !(b.event == event && (match number with
        | none => true
        | some n => n == b.number)) }

/-- Removes all bindings of an event. -/
def dropBindings (c : Channel) (event : String) : Channel :=
  { c with bindings := c.bindings.filter fun b => b.event != event }

/-- Removes all bindings of an event, if there is one. -/
def dropBindings? (c : Channel) (event : Option String) : Channel :=
  match event with
  | some event => c.dropBindings event
  | none => c

/-- Changes a push. -/
def modifyPush (c : Channel) (push : PushId) (f : Push → Push) : Channel :=
  { c with pushes := c.pushes.modify push f }

/-- The numbers of the bindings of an event, in the order of registration. -/
def bindingsOf (c : Channel) (event : String) : List BindingId :=
  (c.bindings.filter fun b => b.event == event).map (·.number)

/-- The binding of an event with a number. -/
def binding? (c : Channel) (event : String) (number : BindingId) : Option Binding :=
  c.bindings.find? fun b => b.number == number && b.event == event

/-- Callers that wait for pushes of the channel. -/
def waiters (c : Channel) : List Ticket := c.pushes.entries.flatMap fun e => e.2.waiters

end Channel

end Switchboard
