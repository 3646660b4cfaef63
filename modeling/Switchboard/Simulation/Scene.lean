import Switchboard.Simulation.Script
import Switchboard.Socket.Handles
import Switchboard.Table

/-!
# Scenes

A scene is what surrounds a socket in a simulation: the handles that the script holds, the scripted
connections and answers, the callbacks, and the record of what happened.  A stage is a scene with
the exchange of its socket; a step acts on a stage.

Main definitions

* `Link`, `HttpDesk`: scripted connections, scripted answers to requests;
* `Handler`: a callback of the script or of a presence;
* `Scene`, `Stage`;
* `Stage.say`: something is seen to happen;
* `Stage.wake`: a task has something to do.
-/

set_option autoImplicit false

namespace Switchboard

namespace Simulation

/-! ### Connections and requests -/

/-- A scripted connection. -/
structure Link where
  transport : TransportId
  ready : ReadyState
  buffered : Nat
  closeMode : CloseMode
  /-- Frames cannot be sent. -/
  failSend : Bool
  plain : Bool
  /-- The frames that were sent. -/
  frames : List Frame
  deriving Inhabited

/-- The answers of a scripted server to requests. -/
structure HttpDesk where
  /-- The transports whose polls wait for an answer, oldest first. -/
  waitingPolls : List TransportId
  waitingPosts : List TransportId
  /-- Answers for the next polls. -/
  pollAnswers : List HttpResult
  postAnswers : List HttpResult
  /-- Deliveries are accepted unless there is another answer. -/
  postAuto : Bool
  /-- Answers on their way to a poll of a transport. -/
  polled : List (TransportId × HttpResult)
  posted : List (TransportId × HttpResult)
  deriving Inhabited

/-- No requests and no answers. -/
def HttpDesk.new : HttpDesk := ⟨[], [], [], [], true, [], []⟩

/-! ### Callbacks -/

/-- What a scripted callback is for. -/
inductive HandlerKind where
  | opened
  | closed
  | failed (reaction : ErrorReaction)
  | message
  | watch (watch : Watch)
  | reply
  | hook (rules : List (String × HookRule)) (logged : Bool)
  deriving Inhabited

/-- A callback. -/
inductive Handler where
  | scripted (label : Nat) (kind : HandlerKind) (script : Script Step)
  | presenceState (presence : Nat)
  | presenceDiff (presence : Nat)
  deriving Inhabited

/-- A callback of a presence. -/
structure PresenceCallback where
  label : Nat
  script : Script Step
  deriving Inhabited

/-- The callbacks of a presence. -/
structure PresenceCallbacks where
  onJoin : Option PresenceCallback
  onLeave : Option PresenceCallback
  onSync : Option PresenceCallback
  deriving Inhabited

/-- No callbacks. -/
def PresenceCallbacks.empty : PresenceCallbacks := ⟨none, none, none⟩

/-! ### Handles -/

/-- The handle of a channel, and how many presences share it. -/
structure ChannelSlot where
  channel : ChannelId
  held : Bool
  shares : Nat
  deriving DecidableEq, Repr, Inhabited

/-- The handle of a push, and how many callers wait on it. -/
structure PushSlot where
  channel : ChannelId
  push : PushId
  held : Bool
  waits : Nat
  deriving DecidableEq, Repr, Inhabited

/-- A stream, and the events that nobody has read. -/
structure StreamSlot where
  held : Bool
  events : List InboundEvent
  deriving Inhabited

/-- The presence of a channel. -/
structure PresenceSlot where
  channel : Nat
  events : PresenceEvents
  stateBinding : BindingId
  diffBinding : BindingId
  held : Bool
  tracker : PresenceTracker
  callbacks : PresenceCallbacks
  deriving Inhabited

/-! ### Waiting callers -/

/-- What a caller waits for. -/
inductive CallKind where
  | disconnect
  | ping
  | connected
  | reply
  deriving DecidableEq, Repr, Inhabited

/-- What became of a waiting caller. -/
inductive Outcome where
  | disconnected
  | latency (ms : Option Nat)
  | connected (isConnected : Bool)
  | reply (reply : Reply)
  | socketFault (cause : SocketError)
  | channelFault (cause : ChannelError)
  deriving Inhabited

/-- A caller that waits, and what it was told. -/
structure Wait where
  kind : CallKind
  /-- The push whose handle the caller keeps. -/
  push : Option Nat
  outcome : Option Outcome
  deriving Inhabited

/-- A call that has ended. -/
structure FinishedCall where
  wait : Nat
  time : Nat
  kind : CallKind
  outcome : Outcome
  deriving Inhabited

/-! ### Scenes -/

/-- Something that runs when it has something to do. -/
inductive Task where
  | socket
  | poll (transport : TransportId)
  | deliver (transport : TransportId)
  | timer (event : TimerEvent)
  | finish (wait : Nat)
  deriving DecidableEq, Repr, Inhabited

/-- What happened since the last look. -/
structure Record where
  happenings : List (Nat × Happening)
  finished : List FinishedCall
  polls : List (Nat × HttpRequest)
  posts : List (Nat × HttpRequest)
  deriving Inhabited

/-- Nothing happened. -/
def Record.empty : Record := ⟨[], [], [], []⟩

/-- What surrounds a socket in a simulation. -/
structure Scene where
  /-- The timeout of joins, pushes and leaves that name none. -/
  timeout : Nat
  factories : List ScriptedFactory
  /-- Whether the handle of the socket is held. -/
  held : Bool
  /-- The socket is to end without looking at its queue. -/
  cancelled : Bool
  /-- The socket is at work, and finds what is put into its queue. -/
  socketRuns : Bool
  links : List Link
  longPolls : Table LongPoll
  http : HttpDesk
  handlers : List Handler
  nextLabel : Nat
  channels : List ChannelSlot
  pushes : List PushSlot
  streams : List StreamSlot
  presences : List PresenceSlot
  waits : List Wait
  /-- The tasks that have something to do, in the order in which they got it. -/
  ready : List Task
  record : Record
  deriving Inhabited

/-- Nothing has happened. -/
def Scene.new (timeout : Nat) (factories : List ScriptedFactory) : Scene where
  timeout := timeout
  factories := factories
  held := true
  cancelled := false
  socketRuns := false
  links := []
  longPolls := .empty
  http := .new
  handlers := []
  nextLabel := 0
  channels := []
  pushes := []
  streams := []
  presences := []
  waits := []
  ready := []
  record := .empty

/-- The kind of transport with a name. -/
def Scene.factory? (s : Scene) (name : String) : Option ScriptedFactory :=
  s.factories.find? fun f => f.factory.name == name

/-- A scene with the exchange of its socket. -/
structure Stage where
  exchange : Exchange
  scene : Scene
  deriving Inhabited

namespace Stage

/-- The time. -/
def now (s : Stage) : Nat := s.exchange.now

/-- Changes the scene. -/
def modify (s : Stage) (f : Scene → Scene) : Stage := { s with scene := f s.scene }

/-- Changes the record. -/
def modifyRecord (s : Stage) (f : Record → Record) : Stage :=
  s.modify fun c => { c with record := f c.record }

/-- Something is seen to happen. -/
def say (s : Stage) (h : Happening) : Stage :=
  s.modifyRecord fun r => { r with happenings := r.happenings ++ [(s.now, h)] }

/-- The timers that are due line up behind the tasks that have something to do. -/
def lineUpTimers (s : Stage) : Stage :=
  let (due, exchange) := s.exchange.takeDue
  { s with exchange }.modify fun c => { c with ready := c.ready ++ due.map Task.timer }

/-- A task has something to do; timers that became due before go first. -/
def wake (s : Stage) (t : Task) : Stage :=
  let s := s.lineUpTimers
  if s.scene.ready.contains t then s
  else s.modify fun c => { c with ready := c.ready ++ [t] }

/-- Whether the socket has something to do and is not at it. -/
def isSocketDue (s : Stage) : Bool :=
  !s.scene.socketRuns && s.exchange.isOpen && (s.scene.cancelled || !s.exchange.queue.isEmpty)

/-- The socket is woken if it has something to do. -/
def wakeSocket (s : Stage) : Stage := if s.isSocketDue then s.wake .socket else s

/-- A transport reports something. -/
def emit (s : Stage) (t : TransportId) (event : TransportEvent) : Stage :=
  { s with exchange := s.exchange.emit t event }

/-- A transport reports several things. -/
def emitAll (s : Stage) (t : TransportId) (events : List TransportEvent) : Stage :=
  events.foldl (fun s e => s.emit t e) s

/-- Takes the next label of a callback. -/
def takeLabel (s : Stage) : Nat × Stage :=
  (s.scene.nextLabel, s.modify fun c => { c with nextLabel := c.nextLabel + 1 })

/-- Adds a callback. -/
def addHandler (s : Stage) (h : Handler) : CallbackId × Stage :=
  (s.scene.handlers.length, s.modify fun c => { c with handlers := c.handlers ++ [h] })

/-- Changes a callback. -/
def setHandler (s : Stage) (callback : CallbackId) (h : Handler) : Stage :=
  s.modify fun c => { c with handlers := c.handlers.set callback h }

end Stage

end Simulation

end Switchboard
