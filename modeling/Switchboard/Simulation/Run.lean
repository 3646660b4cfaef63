import Switchboard.Simulation.Surroundings
import Switchboard.Socket.Step

/-!
# Runs

A simulation takes one move of its script after another.  After each, everything runs that has
something to do, in the order in which it got it; a timer gets it when it is due, which may be at
once.  Time moves on only by a move of its own, from one timer to the next.

Main definitions

* `Move`: a step, or time that passes;
* `settle`: everything runs that has something to do;
* `advance`: time passes;
* `play`: a move, and what was seen of it;
* `Report`: what was seen.
-/

set_option autoImplicit false

namespace Switchboard

namespace Simulation

/-- A move of a script. -/
inductive Move where
  | step (step : Step)
  | advance (ms : Nat)
  deriving Inhabited

/-! ### The stage of a socket -/

/-- The stage that a socket plays on. -/
def stageOf (s : Socket Scene) : Stage := ⟨s.exchange, s.outside⟩

/-- The socket on another stage. -/
def onStage (s : Socket Scene) (stage : Stage) : Socket Scene :=
  { s with exchange := stage.exchange, outside := stage.scene }

/-- Something happens on the stage. -/
def act (s : Socket Scene) (f : Stage → Stage) : Socket Scene := onStage s (f (stageOf s))

/-! ### Tasks -/

/-- How many things may happen at one instant before a simulation is given up. -/
def instantLimit : Nat := 0x1000000

/-- The socket empties its queue. -/
def drain : Nat → Socket Scene → Socket Scene
  | 0, s => s
  | n + 1, s =>
    match s.step? with
    | some s => drain n s
    | none => s

/-- Callers of a socket that has ended are told so. -/
def closeBooks (s : Socket Scene) : Socket Scene :=
  if s.hasEnded then act s Stage.discardAll else s

/-- The socket runs: it ends if it is to, and else empties its queue. -/
def runSocket (s : Socket Scene) : Socket Scene :=
  if s.hasEnded then s
  else
    -- While the socket is at work, its queue needs no other task.
    let s := act s fun t => t.modify fun c => { c with socketRuns := true }
    let s := if s.outside.cancelled then s.shutdown else drain instantLimit s
    let s := act s fun t => t.modify fun c => { c with socketRuns := false }
    closeBooks s

/-- A caller that has its answer goes on. -/
def finishWait (t : Stage) (wait : Nat) : Stage :=
  match t.scene.waits[wait]? with
  | none => t
  | some w =>
    match w.outcome with
    | none => t
    | some outcome =>
      let t := t.modifyRecord fun r =>
        { r with finished := r.finished ++ [⟨wait, t.now, w.kind, outcome⟩] }
      match w.push with
      | some push => t.unwaitPush push
      | none => t

/-- A timer fires, unless its firing is no longer awaited. -/
def fireTimer (s : Socket Scene) (event : TimerEvent) : Socket Scene :=
  if s.awaits event then { s with exchange := s.exchange.post (.timer event) } else s

/-- A task runs. -/
def runTask (s : Socket Scene) : Task → Socket Scene
  | .socket => runSocket s
  | .poll t => act s fun stage => stage.runPoll t
  | .deliver t => act s fun stage => stage.runDeliver t
  | .timer event => fireTimer s event
  | .finish wait => act s fun stage => finishWait stage wait

/-- The next task, and the stage without it. -/
def nextTask? (t : Stage) : Option (Task × Stage) :=
  let t := t.lineUpTimers
  match t.scene.ready with
  | [] => none
  | task :: rest => some (task, t.modify fun c => { c with ready := rest })

/-- One thing happens at this instant; nothing if nothing has anything to do. -/
def turn? (s : Socket Scene) : Option (Socket Scene) :=
  (nextTask? (stageOf s)).map fun (task, stage) =>
    act (runTask (onStage s stage) task) Stage.wakeSocket

/-- Things happen at this instant, up to a limit, until nothing has anything to do. -/
def settleWithin : Nat → Socket Scene → Socket Scene
  | 0, s => s
  | n + 1, s =>
    match turn? s with
    | some s => settleWithin n s
    | none => s

/-- Everything runs that has something to do. -/
def settle (s : Socket Scene) : Socket Scene := settleWithin instantLimit s

/-! ### Time -/

/-- Sets the time. -/
def setTime (s : Socket Scene) (time : Nat) : Socket Scene :=
  { s with exchange := { s.exchange with now := time } }

/-- Time passes from one timer to the next, up to a limit, until an end. -/
def advanceWithin (stop : Nat) : Nat → Socket Scene → Socket Scene
  | 0, s => setTime s stop
  | n + 1, s =>
    match s.exchange.timers.next? with
    | none => setTime s stop
    | some due =>
      if due ≤ stop then advanceWithin stop n (settle (setTime s due)) else setTime s stop

/-- Time passes. -/
def advance (s : Socket Scene) (ms : Nat) : Socket Scene :=
  advanceWithin (s.exchange.now + ms) instantLimit s

/-! ### Moves -/

/-- The join ref of a channel that the script holds. -/
def heldJoinRef (s : Socket Scene) (n : Nat) : Json :=
  match (stageOf s).heldChannel? n with
  | none => .null
  | some slot => .optional ((s.channels.get? slot.channel).bind Channel.joinRef)

/-- A step with the join ref that it asks for. -/
def resolveStep (s : Socket Scene) : Step → Step
  | .link number (.message before (.ofChannel n) rest) =>
    .link number (.message before (.value (heldJoinRef s n)) rest)
  | step => step

/-- A step is taken, and everything runs that has something to do. -/
def takeStep (s : Socket Scene) (step : Step) : Result × Socket Scene :=
  let (result, stage) := (stageOf s).run (resolveStep s step)
  (result, settle (onStage s stage.wakeSocket))

/-- A move is made. -/
def makeMove (s : Socket Scene) : Move → Result × Socket Scene
  | .step step => takeStep s step
  | .advance ms => (.nothing, advance s ms)

/-! ### Reports -/

/-- What is known of the socket. -/
inductive SocketStatus where
  | running (state : ReadyState) (tries established : Nat)
  | ended
  deriving DecidableEq, Repr, Inhabited

/-- What is known of a channel. -/
inductive ChannelStatus where
  | known (state : ChannelState) (joinRef : Option Ref) (tries : Nat)
  | unavailable
  /-- The script has dropped its handle. -/
  | dropped
  deriving DecidableEq, Repr, Inhabited

/-- What is known of the presence of a channel. -/
inductive PresenceStatus where
  | known (state : PresenceState) (pending : Nat)
  | dropped
  deriving Inhabited

/-- What was seen of a move. -/
structure Report where
  result : Result
  record : Record
  /-- The events that were read from each stream. -/
  events : List (Nat × InboundEvent)
  /-- Nothing if the handle of the socket was dropped. -/
  socket : Option SocketStatus
  channels : List ChannelStatus
  presences : List PresenceStatus
  /-- Each scripted connection, and whether it is listened to. -/
  links : List (ReadyState × Bool)
  deriving Inhabited

/-- What is known of the socket. -/
def socketStatus (s : Socket Scene) : Option SocketStatus :=
  if !s.outside.held then none
  else if s.hasEnded then some .ended
  else some (.running s.readyState s.reconnectTimer.tries s.established)

/-- What is known of a channel. -/
def channelStatus (s : Socket Scene) (slot : ChannelSlot) : ChannelStatus :=
  if !slot.held then .dropped
  else
    match s.channels.get? slot.channel with
    | some ch => .known ch.state ch.joinRef ch.rejoinTimer.tries
    | none => .unavailable

/-- What is known of the presence of a channel. -/
def presenceStatus (slot : PresenceSlot) : PresenceStatus :=
  if slot.held then .known slot.tracker.state slot.tracker.pending.length else .dropped

/-- The events of the streams that nobody has read. -/
def unreadEvents (c : Scene) : List (Nat × InboundEvent) :=
  (c.streams.mapIdx fun n slot => slot.events.map fun e => (n, e)).flatten

/-- What was seen of a move. -/
def reportOf (s : Socket Scene) (result : Result) : Report where
  result := result
  record := s.outside.record
  events := unreadEvents s.outside
  socket := socketStatus s
  channels := s.outside.channels.map (channelStatus s)
  presences := s.outside.presences.map presenceStatus
  links := s.outside.links.map fun l => (l.ready, s.exchange.isAttached l.transport)

/-- All that was seen is put away. -/
def clearRecord (c : Scene) : Scene :=
  { c with
    record := .empty
    streams := c.streams.map fun slot => { slot with events := [] } }

/-- A move is made, and what was seen of it is put away. -/
def play (s : Socket Scene) (m : Move) : Report × Socket Scene :=
  let (result, s) := makeMove s m
  (reportOf s result, act s fun t => t.modify clearRecord)

/-- The moves of a script are made one after another. -/
def playAll (s : Socket Scene) : List Move → List Report
  | [] => []
  | m :: rest =>
    let (report, s) := play s m
    report :: playAll s rest

/-- A simulation of a socket; nothing if the socket cannot be created. -/
def simulate (endpoint : String) (config : Config) (factories : List ScriptedFactory)
    (moves : List Move) : Except ConfigError (List Report) :=
  (Socket.create endpoint config (.new config.timeout factories)).map fun s => playAll s moves

end Simulation

end Switchboard
