import Switchboard.Socket.Command
import Switchboard.Timer.Agenda

/-!
# The exchange

What a socket shares with its handles, its transports and its timers: the source of refs, the
numbers that each channel hands out, the queue of commands, the time, and which transports are
still listened to.  A handle only ever draws numbers and posts commands.

Main definitions

* `Line`: the numbers of one channel, and whether it was asked to join;
* `Exchange`;
* `Exchange.post`, `Exchange.emit`: commands into the queue;
* `Exchange.arm`, `Exchange.takeDue`: timers;
* `Exchange.drawRef`, `Exchange.drawBinding`, `Exchange.drawPush`.
-/

set_option autoImplicit false

namespace Switchboard

/-- What a channel shares with its handles. -/
structure Line where
  topic : String
  joined : Bool
  nextBinding : BindingId
  nextPush : PushId
  deriving DecidableEq, Repr, Inhabited

namespace Line

/-- The first number of a user's binding; the numbers below belong to the channel itself. -/
def firstBinding : BindingId := 3

/-- A channel that was not asked for anything. -/
def new (topic : String) : Line := ⟨topic, false, firstBinding, joinPush + 1⟩

end Line

/-- What a socket shares with everything around it. -/
structure Exchange where
  refs : RefGenerator
  /-- How many refs were drawn. -/
  drawn : Nat
  lines : List Line
  queue : List Command
  now : Nat
  timers : Agenda TimerEvent
  /-- Transports that are still listened to. -/
  attached : List TransportId
  /-- Whether commands are still taken. -/
  isOpen : Bool
  deriving Inhabited

namespace Exchange

/-- Nothing has happened. -/
def new : Exchange := ⟨.new, 0, [], [], 0, .empty, [], true⟩

/-! ### The queue -/

/-- Puts a command at the end of the queue; nothing if commands are no longer taken. -/
def post? (x : Exchange) (c : Command) : Option Exchange :=
  if x.isOpen then some { x with queue := x.queue ++ [c] } else none

/-- Puts a command at the end of the queue, or drops it if commands are no longer taken. -/
def post (x : Exchange) (c : Command) : Exchange := (x.post? c).getD x

/-- The first command, and the exchange without it. -/
def next? (x : Exchange) : Option (Command × Exchange) :=
  match x.queue with
  | [] => none
  | c :: rest => some (c, { x with queue := rest })

/-- Takes no more commands and forgets those in the queue. -/
def shut (x : Exchange) : Exchange := { x with isOpen := false, queue := [], timers := .empty }

/-! ### Timers -/

/-- Lets a timer fire after a delay. -/
def arm (x : Exchange) (delay : Nat) (event : TimerEvent) : Exchange :=
  { x with timers := x.timers.add (x.now + delay) event }

/-- The timers that are due now, in the order in which they were armed, and the exchange without
them. -/
def takeDue (x : Exchange) : List TimerEvent × Exchange :=
  let (due, timers) := x.timers.takeDue x.now
  (due.map (·.2), { x with timers })

/-! ### Transports -/

/-- Whether a transport is listened to. -/
def isAttached (x : Exchange) (t : TransportId) : Bool := x.attached.contains t

/-- Listens to a transport. -/
def attach (x : Exchange) (t : TransportId) : Exchange := { x with attached := x.attached ++ [t] }

/-- Stops listening to a transport. -/
def detach (x : Exchange) (t : TransportId) : Exchange :=
  { x with attached := x.attached.filter (· ≠ t) }

/-- A transport reports something, which is lost unless it is listened to. -/
def emit (x : Exchange) (t : TransportId) (event : TransportEvent) : Exchange :=
  if x.isAttached t then x.post (.transport t event) else x

/-! ### Numbers -/

/-- Draws a ref. -/
def drawRef (x : Exchange) : Ref × Exchange :=
  let (ref, refs) := x.refs.next
  (ref, { x with refs, drawn := x.drawn + 1 })

/-- The line of a channel. -/
def line (x : Exchange) (c : ChannelId) : Line := (x.lines[c]?).getD (.new "")

/-- Changes the line of a channel. -/
def modifyLine (x : Exchange) (c : ChannelId) (f : Line → Line) : Exchange :=
  { x with lines := x.lines.modify c f }

/-- Draws the number of a binding. -/
def drawBinding (x : Exchange) (c : ChannelId) : BindingId × Exchange :=
  ((x.line c).nextBinding, x.modifyLine c fun l => { l with nextBinding := l.nextBinding + 1 })

/-- Draws the number of a push. -/
def drawPush (x : Exchange) (c : ChannelId) : PushId × Exchange :=
  ((x.line c).nextPush, x.modifyLine c fun l => { l with nextPush := l.nextPush + 1 })

end Exchange

end Switchboard
