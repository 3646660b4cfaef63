import Switchboard.Socket.Exchange

/-!
# Handles

What the holders of a socket, of a channel and of a push can ask for.  A handle draws the numbers
that the request needs, posts a command and gives back the numbers; it fails if commands are no
longer taken, and what it drew stays drawn.

Main definitions

* `Exchange.request`, `Exchange.register`, `Exchange.openChannel`: the handle of a socket;
* `Exchange.join`, `Exchange.push`, `Exchange.leave`, `Exchange.bind`: the handle of a channel;
* `Exchange.receive`, `Exchange.releasePush`: the handle of a push;
* `socketText`, `channelText`, `pushText`: handles on one line.
-/

set_option autoImplicit false

namespace Switchboard

namespace Exchange

/-- Posts a command; a failure leaves the exchange as it is. -/
def submit {ε α : Type} (x : Exchange) (failure : ε) (result : α) (c : Command) :
    Except ε α × Exchange :=
  match x.post? c with
  | some x => (.ok result, x)
  | none => (.error failure, x)

/-! ### Sockets -/

/-- A command of the handle of a socket. -/
def request (x : Exchange) (c : Command) : Except SocketError Unit × Exchange :=
  x.submit .actorUnavailable () c

/-- Registers a callback under a fresh ref. -/
def register (x : Exchange) (occasion : Occasion) (callback : CallbackId) :
    Except SocketError Ref × Exchange :=
  let (ref, x) := x.drawRef
  x.submit .actorUnavailable ref (.register occasion ref callback)

/-- A channel of a topic. -/
def openChannel (x : Exchange) (topic : String) (params : Params) :
    Except SocketError ChannelId × Exchange :=
  let c := x.lines.length
  let x := { x with lines := x.lines ++ [Line.new topic] }
  x.submit .actorUnavailable c (.createChannel c topic params)

/-! ### Channels -/

/-- A command of the handle of a channel. -/
def channelRequest {α : Type} (x : Exchange) (c : ChannelId) (result : α) (op : ChannelOp) :
    Except ChannelError α × Exchange :=
  x.submit .actorUnavailable result (.channel c op)

/-- Asks to join; a channel is asked once. -/
def join (x : Exchange) (c : ChannelId) (timeout : Nat) : Except ChannelError PushId × Exchange :=
  if (x.line c).joined then (.error (.alreadyJoined (x.line c).topic), x)
  else (x.modifyLine c fun l => { l with joined := true }).channelRequest c joinPush (.join timeout)

/-- Pushes an event; the channel must have been asked to join. -/
def push (x : Exchange) (c : ChannelId) (event : String) (payload : Payload) (timeout : Nat) :
    Except ChannelError PushId × Exchange :=
  if !(x.line c).joined then (.error (.pushBeforeJoin (x.line c).topic event), x)
  else
    let (p, x) := x.drawPush c
    x.channelRequest c p (.push p event payload timeout)

/-- Asks to leave. -/
def leave (x : Exchange) (c : ChannelId) (timeout : Nat) : Except ChannelError PushId × Exchange :=
  let (p, x) := x.drawPush c
  x.channelRequest c p (.leave p timeout)

/-- Binds a listener to an event. -/
def bind (x : Exchange) (c : ChannelId) (event : String) (listener : Listener) :
    Except ChannelError BindingId × Exchange :=
  let (b, x) := x.drawBinding c
  x.channelRequest c b (.bind b event listener)

/-! ### Pushes -/

/-- Lets a callback run when a push is resolved with a status. -/
def receive (x : Exchange) (c : ChannelId) (p : PushId) (status : String) (callback : CallbackId) :
    Except ChannelError Unit × Exchange :=
  x.channelRequest c () (.receive p status callback)

/-- Gives up the handle of a push; the join push is kept by its channel. -/
def releasePush (x : Exchange) (c : ChannelId) (p : PushId) : Exchange :=
  if p = joinPush then x else x.post (.channel c (.release p))

end Exchange

/-! ### On one line -/

/-- The handle of a socket on one line. -/
def socketText (x : Exchange) : String :=
  "Socket \x7b closed: " ++ (if x.isOpen then "false" else "true") ++ ", .. \x7d"

/-- The handle of a channel on one line. -/
def channelText (x : Exchange) (c : ChannelId) : String :=
  "ChannelHandle \x7b id: " ++ natText c ++ ", topic: " ++ quoteText (x.line c).topic ++ " \x7d"

/-- The handle of a push on one line. -/
def pushText (c : ChannelId) (p : PushId) : String :=
  "PushHandle \x7b channel: " ++ natText c ++ ", push: " ++ natText p ++ " \x7d"

end Switchboard
