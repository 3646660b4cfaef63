import Switchboard.Simulation.Wires

/-!
# Steps on a stage

A step is taken at once: it draws numbers, puts commands into the queue of the socket, and lets
things happen on scripted connections.  What follows from it comes later, when the socket runs.

A callback that is registered takes the next label before anything else, even if the registration
then fails; a step on a handle that is gone takes none.

Main definitions

* `Stage.call`: a call that somebody waits for;
* `Stage.dropChannelHandle`, `Stage.dropPushHandle`, `Stage.dropPresence`: handles go;
* `Stage.run`: takes a step;
* `Stage.runScript`: a callback takes its steps.
-/

set_option autoImplicit false

namespace Switchboard

namespace Simulation

namespace Stage

/-! ### Waiting callers -/

/-- A caller is told what became of its call; the first word counts. -/
def settleWait (s : Stage) (wait : Nat) (outcome : Outcome) : Stage :=
  match s.scene.waits[wait]? with
  | none => s
  | some w =>
    if w.outcome.isSome then s
    else
      (s.modify fun c =>
        { c with waits := c.waits.set wait { w with outcome := some outcome } }).wake (.finish wait)

/-- A caller starts to wait. -/
def addWait (s : Stage) (kind : CallKind) (push : Option Nat) : Nat × Stage :=
  (s.scene.waits.length, s.modify fun c => { c with waits := c.waits ++ [⟨kind, push, none⟩] })

/-- A call that somebody waits for; it fails at once if commands are no longer taken. -/
def call (s : Stage) (kind : CallKind) (push : Option Nat) (failure : Outcome)
    (command : Ticket → Command) : Result × Stage :=
  let (wait, s) := s.addWait kind push
  match s.exchange.post? (command wait) with
  | some exchange => (.wait wait, { s with exchange })
  | none => (.wait wait, s.settleWait wait failure)

/-- A call on the handle of the socket. -/
def socketCall (s : Stage) (kind : CallKind) (command : Ticket → Command) : Result × Stage :=
  s.call kind none (.socketFault .actorUnavailable) command

/-! ### Answers of handles -/

/-- The result of a request on the handle of the socket. -/
def ofSocket {α : Type} (s : Stage) (r : Except SocketError α × Exchange) (f : α → Result) :
    Result × Stage :=
  let s := { s with exchange := r.2 }
  match r.1 with
  | .ok a => (f a, s)
  | .error cause => (.fault (.socket cause), s)

/-- The result of a request on the handle of a channel. -/
def ofChannel {α : Type} (s : Stage) (r : Except ChannelError α × Exchange)
    (f : α → Stage → Result × Stage) : Result × Stage :=
  let s := { s with exchange := r.2 }
  match r.1 with
  | .ok a => f a s
  | .error cause => (.fault (.channel cause), s)

/-- A step on the handle of the socket. -/
def onSocket (s : Stage) (f : Result × Stage) : Result × Stage :=
  if s.scene.held then f else (.fault .gone, s)

/-- A command on the handle of the socket. -/
def request (s : Stage) (c : Command) : Result × Stage :=
  s.onSocket (s.ofSocket (s.exchange.request c) fun _ => .nothing)

/-! ### Handles -/

/-- The handle of a channel that is held. -/
def heldChannel? (s : Stage) (n : Nat) : Option ChannelSlot :=
  s.scene.channels[n]?.filter (·.held)

/-- The handle of a push that is held. -/
def heldPush? (s : Stage) (n : Nat) : Option PushSlot := s.scene.pushes[n]?.filter (·.held)

/-- A presence that is held. -/
def heldPresence? (s : Stage) (n : Nat) : Option PresenceSlot :=
  s.scene.presences[n]?.filter (·.held)

/-- A step on the handle of a channel. -/
def onChannel (s : Stage) (n : Nat) (f : ChannelSlot → Result × Stage) : Result × Stage :=
  match s.heldChannel? n with
  | some slot => f slot
  | none => (.fault .gone, s)

/-- A step on the handle of a push. -/
def onPush (s : Stage) (n : Nat) (f : PushSlot → Result × Stage) : Result × Stage :=
  match s.heldPush? n with
  | some slot => f slot
  | none => (.fault .gone, s)

/-- A step on a presence. -/
def onPresence (s : Stage) (n : Nat) (f : PresenceSlot → Result × Stage) : Result × Stage :=
  match s.heldPresence? n with
  | some slot => f slot
  | none => (.fault .gone, s)

/-- Sets the handle of a channel; the channel is dropped with the last that shares it. -/
def setChannelSlot (s : Stage) (n : Nat) (slot : ChannelSlot) : Stage :=
  let s := s.modify fun c => { c with channels := c.channels.set n slot }
  if !slot.held && slot.shares = 0 then
    { s with exchange := s.exchange.post (.dropChannel slot.channel) }
  else s

/-- The script drops its handle of a channel. -/
def dropChannelHandle (s : Stage) (n : Nat) (slot : ChannelSlot) : Stage :=
  s.setChannelSlot n { slot with held := false }

/-- A presence shares the handle of a channel. -/
def shareChannel (s : Stage) (n : Nat) (slot : ChannelSlot) : Stage :=
  s.setChannelSlot n { slot with shares := slot.shares + 1 }

/-- A presence drops its share of the handle of a channel. -/
def unshareChannel (s : Stage) (n : Nat) : Stage :=
  match s.scene.channels[n]? with
  | some slot => s.setChannelSlot n { slot with shares := slot.shares - 1 }
  | none => s

/-- Sets the handle of a push; the push is released when nobody holds it or waits on it. -/
def setPushSlot (s : Stage) (n : Nat) (slot : PushSlot) : Stage :=
  let s := s.modify fun c => { c with pushes := c.pushes.set n slot }
  if !slot.held && slot.waits = 0 then
    { s with exchange := s.exchange.releasePush slot.channel slot.push }
  else s

/-- The script drops its handle of a push. -/
def dropPushHandle (s : Stage) (n : Nat) (slot : PushSlot) : Stage :=
  s.setPushSlot n { slot with held := false }

/-- A caller that waited on a push is done with it. -/
def unwaitPush (s : Stage) (n : Nat) : Stage :=
  match s.scene.pushes[n]? with
  | some slot => s.setPushSlot n { slot with waits := slot.waits - 1 }
  | none => s

/-- A new handle of a push, which may be dropped at once. -/
def addPush (s : Stage) (channel : ChannelId) (push : PushId) (detach : Bool) : Result × Stage :=
  let n := s.scene.pushes.length
  let s := s.modify fun c => { c with pushes := c.pushes ++ [⟨channel, push, true, 0⟩] }
  (.push n, if detach then s.dropPushHandle n ⟨channel, push, true, 0⟩ else s)

/-! ### Callbacks -/

/-- A callback with the next label. -/
def newCallback (s : Stage) (kind : HandlerKind) (script : Script Step) :
    Nat × CallbackId × Stage :=
  let (label, s) := s.takeLabel
  let (callback, s) := s.addHandler (.scripted label kind script)
  (label, callback, s)

/-- What a callback of the socket is for. -/
def handlerKind (occasion : Occasion) (reaction : ErrorReaction) : HandlerKind :=
  match occasion with
  | .open => .opened
  | .close => .closed
  | .error => .failed reaction
  | .message => .message

/-- Registers a callback of the socket. -/
def registerCallback (s : Stage) (occasion : Occasion) (reaction : ErrorReaction)
    (script : Script Step) : Result × Stage :=
  let (label, callback, s) := s.newCallback (handlerKind occasion reaction) script
  s.ofSocket (s.exchange.register occasion callback) fun ref => .registered ref label

/-- Binds a callback to an event of a channel. -/
def bindCallback (s : Stage) (channel : ChannelId) (watch : Watch) (script : Script Step) :
    Result × Stage :=
  let (label, callback, s) := s.newCallback (.watch watch) script
  s.ofChannel (s.exchange.bind channel watch.name (.callback callback)) fun binding s =>
    (.bound binding label, s)

/-- Sets the message hook of a channel. -/
def setHook (s : Stage) (channel : ChannelId) (rules : List (String × HookRule)) (logged : Bool)
    (script : Script Step) : Result × Stage :=
  let (_, callback, s) := s.newCallback (.hook rules logged) script
  s.ofChannel (s.exchange.channelRequest channel () (.setHook callback)) fun _ s => (.nothing, s)

/-- Lets a callback run on a status of a push. -/
def receiveWith (s : Stage) (slot : PushSlot) (status : String) (script : Script Step) :
    Result × Stage :=
  let (label, callback, s) := s.newCallback .reply script
  s.ofChannel (s.exchange.receive slot.channel slot.push status callback) fun _ s =>
    (.callback label, s)

/-! ### Streams -/

/-- Opens a stream of the events of a channel. -/
def openStream (s : Stage) (channel : ChannelId) (event : String) : Result × Stage :=
  let n := s.scene.streams.length
  s.ofChannel (s.exchange.bind channel event (.stream n)) fun _ s =>
    (.stream n, s.modify fun c => { c with streams := c.streams ++ [⟨true, []⟩] })

/-- Drops a stream with the events that nobody has read. -/
def dropStream (s : Stage) (n : Nat) : Result × Stage :=
  match s.scene.streams[n]?.filter (·.held) with
  | some _ => (.nothing, s.modify fun c => { c with streams := c.streams.set n ⟨false, []⟩ })
  | none => (.fault .gone, s)

/-! ### Presences -/

/-- Follows the presence of a channel: one binding for snapshots, and one for diffs. -/
def openPresence (s : Stage) (n : Nat) (slot : ChannelSlot) (events : PresenceEvents) :
    Result × Stage :=
  let presence := s.scene.presences.length
  let (onState, s) := s.addHandler (.presenceState presence)
  let (onDiff, s) := s.addHandler (.presenceDiff presence)
  s.ofChannel (s.exchange.bind slot.channel events.state (.callback onState)) fun stateBinding s =>
    s.ofChannel (s.exchange.bind slot.channel events.diff (.callback onDiff)) fun diffBinding s =>
      let added : PresenceSlot :=
        ⟨n, events, stateBinding, diffBinding, true, .new, .empty⟩
      let s := s.modify fun c => { c with presences := c.presences ++ [added] }
      (.presence presence, s.shareChannel n slot)

/-- Sets a presence. -/
def setPresence (s : Stage) (n : Nat) (slot : PresenceSlot) : Stage :=
  s.modify fun c => { c with presences := c.presences.set n slot }

/-- Sets a callback of a presence in the place of the old one. -/
def PresenceCallbacks.set (c : PresenceCallbacks) (occasion : PresenceOccasion)
    (callback : PresenceCallback) : PresenceCallbacks :=
  match occasion with
  | .join => { c with onJoin := some callback }
  | .leave => { c with onLeave := some callback }
  | .sync => { c with onSync := some callback }

/-- Sets a callback of a presence. -/
def setPresenceCallback (s : Stage) (n : Nat) (slot : PresenceSlot) (occasion : PresenceOccasion)
    (script : Script Step) : Result × Stage :=
  let (label, s) := s.takeLabel
  let callbacks := PresenceCallbacks.set slot.callbacks occasion ⟨label, script⟩
  (.callback label, s.setPresence n { slot with callbacks := callbacks })

/-- Who is present. -/
def presenceList (slot : PresenceSlot) (keyed : Bool) : Result :=
  if keyed then .counts (slot.tracker.state.map fun p => (p.1, p.2.metas.length))
  else .entries (slot.tracker.state.map (·.2))

/-- Takes a binding of a presence off its channel. -/
def unbindPresence (s : Stage) (channel : ChannelId) (event : String) (binding : BindingId) :
    Stage :=
  { s with exchange := s.exchange.post (.channel channel (.unbind event (some binding))) }

/-- A presence goes, with its bindings and its share of the channel. -/
def dropPresence (s : Stage) (n : Nat) (slot : PresenceSlot) : Stage :=
  let s := s.setPresence n { slot with held := false }
  match s.scene.channels[slot.channel]? with
  | none => s
  | some channel =>
    let s := s.unbindPresence channel.channel slot.events.state slot.stateBinding
    let s := s.unbindPresence channel.channel slot.events.diff slot.diffBinding
    s.unshareChannel slot.channel

/-! ### On one line -/

/-- A presence on one line. -/
def presenceText (s : Stage) (slot : PresenceSlot) : String :=
  let topic := match s.scene.channels[slot.channel]? with
    | some channel => (s.exchange.line channel.channel).topic
    | none => ""
  "Presence \x7b topic: " ++ quoteText topic ++ ", events: " ++ slot.events.description
    ++ ", .. \x7d"

/-- A handle on one line. -/
def describe (s : Stage) : Described → Result × Stage
  | .socket => s.onSocket (.text (socketText s.exchange), s)
  | .channel n => s.onChannel n fun slot => (.text (channelText s.exchange slot.channel), s)
  | .push n => s.onPush n fun slot => (.text (pushText slot.channel slot.push), s)
  | .presence n => s.onPresence n fun slot => (.text (s.presenceText slot), s)

/-! ### Steps -/

/-- Ends the socket once its queue is empty, or at once if commands are no longer taken. -/
def shutdown (s : Stage) : Stage :=
  match s.exchange.post? .shutdown with
  | some exchange => { s with exchange }
  | none => s.modify fun c => { c with cancelled := true }

/-- Drops the handle of the socket, which ends it at once. -/
def dropSocket (s : Stage) : Stage := s.modify fun c => { c with held := false, cancelled := true }

/-- Goes on with another kind of transport. -/
def replaceTransport (s : Stage) (name : String) : Result × Stage :=
  s.onSocket <|
    match s.scene.factory? name with
    | some f => s.request (.replaceTransport f.factory)
    | none => (.fault .noSuchFactory, s)

/-- Draws a ref. -/
def makeRef (s : Stage) : Result × Stage :=
  let (ref, exchange) := s.exchange.drawRef
  (.ref ref, { s with exchange })

/-- A channel of the socket. -/
def openChannel (s : Stage) (topic : String) (params : Params) : Result × Stage :=
  let n := s.scene.channels.length
  let (result, exchange) := s.exchange.openChannel topic params
  let s := { s with exchange }
  match result with
  | .ok channel =>
    (.channel n, s.modify fun c => { c with channels := c.channels ++ [⟨channel, true, 0⟩] })
  | .error cause => (.fault (.socket cause), s)

/-- Waits for the reply to a push. -/
def awaitReply (s : Stage) (n : Nat) (slot : PushSlot) : Result × Stage :=
  let s := s.setPushSlot n { slot with waits := slot.waits + 1 }
  s.call .reply (some n) (.channelFault .actorUnavailable) fun ticket =>
    .channel slot.channel (.awaitReply slot.push ticket)

mutual

/-- Takes a step. -/
def run (s : Stage) : Step → Result × Stage
  | .connect => s.request .connect
  | .pause => s.request .pause
  | .resume => s.request .resume
  | .shutdown => s.onSocket (.nothing, s.shutdown)
  | .makeRef => s.onSocket s.makeRef
  | .dropSocket => s.onSocket (.nothing, s.dropSocket)
  | .disconnect code reason =>
    s.onSocket (s.socketCall .disconnect fun t => .disconnect code reason (some t))
  | .ping => s.onSocket (s.socketCall .ping .ping)
  | .isConnected => s.onSocket (s.socketCall .connected .askReadyState)
  | .replaceTransport name => s.replaceTransport name
  | .socketOn occasion reaction script =>
    s.onSocket (s.registerCallback occasion reaction script)
  | .socketOff refs => s.request (.off refs)
  | .channel topic params => s.onSocket (s.openChannel topic params)
  | .join n timeout detach => s.onChannel n fun slot =>
    s.ofChannel (s.exchange.join slot.channel (timeout.getD s.scene.timeout)) fun p s =>
      s.addPush slot.channel p detach
  | .push n event payload timeout detach => s.onChannel n fun slot =>
    s.ofChannel (s.exchange.push slot.channel event payload (timeout.getD s.scene.timeout))
      fun p s => s.addPush slot.channel p detach
  | .leave n timeout detach => s.onChannel n fun slot =>
    s.ofChannel (s.exchange.leave slot.channel (timeout.getD s.scene.timeout)) fun p s =>
      s.addPush slot.channel p detach
  | .on n watch script => s.onChannel n fun slot => s.bindCallback slot.channel watch script
  | .off n event binding => s.onChannel n fun slot =>
    s.ofChannel (s.exchange.channelRequest slot.channel () (.unbind event binding)) fun _ s =>
      (.nothing, s)
  | .stream n event => s.onChannel n fun slot => s.openStream slot.channel event
  | .dropStream n => s.dropStream n
  | .hook n rules logged script => s.onChannel n fun slot =>
    s.setHook slot.channel rules logged script
  | .dropChannel n => s.onChannel n fun slot => (.nothing, s.dropChannelHandle n slot)
  | .receive n status script => s.onPush n fun slot => s.receiveWith slot status script
  | .await n => s.onPush n fun slot => s.awaitReply n slot
  | .dropPush n => s.onPush n fun slot => (.nothing, s.dropPushHandle n slot)
  | .presence n events => s.onChannel n fun slot => s.openPresence n slot events
  | .presenceOn n occasion script => s.onPresence n fun slot =>
    s.setPresenceCallback n slot occasion script
  | .presenceList n keyed => s.onPresence n fun slot => (presenceList slot keyed, s)
  | .dropPresence n => s.onPresence n fun slot => (.nothing, s.dropPresence n slot)
  | .link number act => s.actOn number act
  | .respond isPost answer => s.respond isPost answer
  | .postAuto on => (.nothing, s.modifyHttp fun h => { h with postAuto := on })
  | .describe handle => s.describe handle
  | .batch steps => let (results, s) := s.runAll steps; (.all results, s)
  | .unknown => (.fault .unknownStep, s)

/-- Takes steps one after another; the socket is woken by the first that gives it work. -/
def runAll (s : Stage) : List Step → List Result × Stage
  | [] => ([], s)
  | step :: rest =>
    let (result, s) := s.run step
    let (results, s) := s.wakeSocket.runAll rest
    (result :: results, s)

end

/-! ### Scripts of callbacks -/

/-- A callback takes its steps if this is one of its first calls. -/
def runScript (s : Stage) (label : Nat) (script : Script Step) : Script Step × Stage :=
  if script.calls = 0 || script.steps.isEmpty then (script, s)
  else
    let (results, s) := s.runAll script.steps
    ({ script with calls := script.calls - 1 }, s.say (.tookSteps label results))

end Stage

end Simulation

end Switchboard
