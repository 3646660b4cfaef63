import Switchboard.Socket.Send

/-!
# Sending pushes

Each time a push is sent it takes a fresh ref, listens for the reply to that ref, and has its
timeout start anew.

Main definitions

* `Socket.startTimeout`: a fresh ref, its binding and the timeout;
* `Socket.sendPush`, `Socket.resetPush`, `Socket.resendPush`;
* `Socket.releasePush`: forgets a push that is resolved and that nobody refers to;
* `Socket.scheduleRejoin`: arms the next join attempt.
-/

set_option autoImplicit false

namespace Switchboard.Socket

variable {ω : Type}

/-- Arms the timeout of a push. -/
def armPush (s : Socket ω) (c : ChannelId) (p : PushId) (push : Push) : Socket ω :=
  let timer := push.timer.arm
  (s.modifyPush c p fun q => { q with timer := timer }).arm push.timeout
    (.pushTimeout c p timer.generation)

/-- Takes a fresh ref, listens for its reply and arms the timeout. -/
def startTimeout (s : Socket ω) (c : ChannelId) (p : PushId) : Socket ω :=
  let (ref, s) := s.drawRef
  if !s.channels.contains c then s
  else
    let (binding, s) := s.drawBinding c
    match s.push? c p with
    | none => s
    | some push =>
      let event := Event.replyTo ref
      let s := s.modifyPush c p fun q => { q with ref := some ref, refEvent := some event }
      let s := s.armPush c p push
      s.modifyChannel c fun ch => (ch.dropBindings? push.refEvent).bind event binding (.resolve p)

/-- What a push carries when it is sent, given the parameters of its channel. -/
def bodyOf (push : Push) (params : Json) : Payload :=
  match push.body with
  | .fixed payload => payload
  | .channelParams => .json params

/-- Takes a push back to where it was before it was sent, and listens for its reply no longer. -/
def resetPush (s : Socket ω) (c : ChannelId) (p : PushId) : Socket ω :=
  match s.push? c p with
  | none => s
  | some push =>
    s.modifyChannel c fun ch => (ch.modifyPush p Push.reset).dropBindings? push.refEvent

/-- Forgets a push that is resolved and that nobody refers to; the join push is never forgotten. -/
def releasePush (s : Socket ω) (c : ChannelId) (p : PushId) : Socket ω :=
  if p = joinPush then s
  else
    match s.push? c p with
    | none => s
    | some push =>
      if push.isReleasable then
        s.modifyChannel c fun ch =>
          { ch with
            pushes := ch.pushes.erase p
            buffer := ch.buffer.filter (· ≠ p) }.dropBindings? push.refEvent
      else s

/-- Arms the next join attempt of a channel. -/
def scheduleRejoin (s : Socket ω) (c : ChannelId) : Socket ω :=
  match s.channels.get? c with
  | none => s
  | some ch =>
    let timer := ch.rejoinTimer.schedule
    (s.modifyChannel c fun ch => { ch with rejoinTimer := timer }).arm
      (ch.rejoinTimer.delay s.config.rejoinAfter) (.rejoin c timer.slot.generation)

variable [Outside ω]

/-- Whether pushes of a channel are sent at once. -/
def canPush (s : Socket ω) (c : ChannelId) : Bool :=
  s.isConnected &&
    match s.channels.get? c with
    | some ch => ch.state == .joined
    | none => false

/-- Hands a push that has its ref to the socket; the parameters of the channel are evaluated. -/
def dispatchPush (s : Socket ω) (c : ChannelId) (p : PushId) : Socket ω :=
  match s.channels.get? c with
  | none => s
  | some ch =>
    -- The parameters are evaluated at each send, also of a push that does not carry them.
    let (value, params) := ch.params.resolve
    let s := s.modifyChannel c fun ch => { ch with params := params }
    match ch.pushes.get? p with
    | none => s
    | some push =>
      let s := s.modifyPush c p fun q => { q with sent := true }
      s.pushMessage (.push c p) ⟨ch.joinRef, push.ref, ch.topic, push.event, bodyOf push value⟩

/-- Sends a push, unless its time was over before it could be sent. -/
def sendPush (s : Socket ω) (c : ChannelId) (p : PushId) : Socket ω :=
  match s.push? c p with
  | none => s
  | some push =>
    if push.hasReceived Status.timeout then s else (s.startTimeout c p).dispatchPush c p

/-- Sends a push once more with the given timeout. -/
def resendPush (s : Socket ω) (c : ChannelId) (p : PushId) (timeout : Nat) : Socket ω :=
  let s := s.modifyPush c p fun q => { q with timeout := timeout }
  (s.resetPush c p).sendPush c p

end Switchboard.Socket
