import Switchboard.Simulation.Play

/-!
# Scenes as surroundings

A socket in a simulation acts on the scene around it.  A callback of the script notes that it was
called and takes its steps; a callback of a presence follows the state of the channel and calls the
callbacks of the presence.

Main definitions

* `Stage.notify`: the callbacks of a presence run;
* `Stage.callEvent`, `Stage.callHook`, `Stage.callError`: callbacks of the socket and its channels;
* `Stage.perform`: an effect of the socket;
* the instance `Outside Scene`.
-/

set_option autoImplicit false

namespace Switchboard

namespace Simulation

namespace Stage

/-! ### Presences -/

/-- A callback of a presence runs. -/
def callPresence (s : Stage) (callback : Option PresenceCallback) (saying : Nat → Happening) :
    Option PresenceCallback × Stage :=
  match callback with
  | none => (none, s)
  | some c =>
    let (script, s) := (s.say (saying c.label)).runScript c.label c.script
    (some ⟨c.label, script⟩, s)

/-- The callback for a change runs. -/
def callChange (state : PresenceCallbacks × Stage) (change : PresenceChange) :
    PresenceCallbacks × Stage :=
  let (callbacks, s) := state
  match change with
  | .join .. =>
    let (onJoin, s) := s.callPresence callbacks.onJoin (.presence · change)
    ({ callbacks with onJoin }, s)
  | .leave .. =>
    let (onLeave, s) := s.callPresence callbacks.onLeave (.presence · change)
    ({ callbacks with onLeave }, s)

/-- Callbacks that were set meanwhile, and the earlier ones in the other places. -/
def mergeCallbacks (installed earlier : PresenceCallbacks) : PresenceCallbacks :=
  ⟨installed.onJoin <|> earlier.onJoin, installed.onLeave <|> earlier.onLeave,
    installed.onSync <|> earlier.onSync⟩

/-- The callbacks of a presence run: one for each change, and one at the end. -/
def notify (s : Stage) (n : Nat) (changes : List PresenceChange) : Stage :=
  match s.scene.presences[n]? with
  | none => s
  | some slot =>
    -- A callback may set others; they stay, and are not called for these changes.
    let s := s.setPresence n { slot with callbacks := .empty }
    let (callbacks, s) := changes.foldl callChange (slot.callbacks, s)
    let (onSync, s) := s.callPresence callbacks.onSync .synced
    match s.scene.presences[n]? with
    | none => s
    | some slot =>
      s.setPresence n { slot with
        callbacks := mergeCallbacks slot.callbacks { callbacks with onSync } }

/-- A snapshot of a presence comes. -/
def presenceSnapshot (s : Stage) (n : Nat) (event : InboundEvent) : Stage :=
  match s.scene.presences[n]?, event.payload.json?.bind PresenceState.ofJson? with
  | some slot, some snapshot =>
    let (tracker, changes) := slot.tracker.snapshot snapshot event.joinRef
    (s.setPresence n { slot with tracker := tracker }).notify n changes
  | _, _ => s

/-- A diff of a presence comes; nothing is noticed of one that waits. -/
def presenceDiff (s : Stage) (n : Nat) (event : InboundEvent) : Stage :=
  match s.scene.presences[n]?, event.payload.json?.bind PresenceDiff.ofJson? with
  | some slot, some diff =>
    let (tracker, changes) := slot.tracker.diff diff event.joinRef
    let s := s.setPresence n { slot with tracker := tracker }
    match changes with
    | some changes => s.notify n changes
    | none => s
  | _, _ => s

/-! ### Callbacks -/

/-- A scripted callback notes something and takes its steps. -/
def callScripted (s : Stage) (callback : CallbackId) (saying : Nat → HandlerKind → Happening) :
    Stage :=
  match s.scene.handlers[callback]? with
  | some (.scripted label kind script) =>
    let (script, s) := (s.say (saying label kind)).runScript label script
    s.setHandler callback (.scripted label kind script)
  | _ => s

/-- What a binding notes of an event. -/
def eventHappening (event : InboundEvent) (label : Nat) : HandlerKind → Happening
  | .watch .close => .channelClosed label event.payload
  | .watch .error => .channelFailed label event.payload
  | _ => .event label event

/-- The callback of a binding runs. -/
def callEvent (s : Stage) (callback : CallbackId) (event : InboundEvent) : Stage :=
  match s.scene.handlers[callback]? with
  | some (.presenceState n) => s.presenceSnapshot n event
  | some (.presenceDiff n) => s.presenceDiff n event
  | _ => s.callScripted callback (eventHappening event)

/-- The payload that a hook goes on with. -/
def applyRule (rules : List (String × HookRule)) (event : String) (payload : Payload) :
    Option Payload :=
  match rules.lookup event with
  | none => some payload
  | some .drop => none
  | some .wrap => some (.json (.object [("wrapped", payload.tagged)]))
  | some (.replace p) => some p

/-- A message hook runs: it takes its steps before it looks at its rules. -/
def callHook (s : Stage) (callback : CallbackId) (event : String) (payload : Payload)
    (ref : Option Ref) : Option Payload × Stage :=
  match s.scene.handlers[callback]? with
  | some (.scripted label (.hook rules logged) script) =>
    let s := if logged then s.say (.hook label event payload ref) else s
    let (script, s) := s.runScript label script
    (applyRule rules event payload,
      s.setHandler callback (.scripted label (.hook rules logged) script))
  | _ => (some payload, s)

/-- The fallback that a callback chooses. -/
def chooseFallback (s : Stage) (reaction : ErrorReaction) (context : ErrorContext) :
    ErrorContext :=
  match reaction.fallback.bind s.scene.factory? with
  | some f =>
    if reaction.unestablishedOnly && context.established ≠ 0 then context
    else { context with fallback := some f.factory }
  | none => context

/-- An error callback runs: it may choose a fallback before it takes its steps. -/
def callError (s : Stage) (callback : CallbackId) (failure : SocketError)
    (context : ErrorContext) : ErrorContext × Stage :=
  match s.scene.handlers[callback]? with
  | some (.scripted label (.failed reaction) script) =>
    let s := s.say (.failed label failure context)
    let context := s.chooseFallback reaction context
    let s := if reaction.describes then s.say (.context label context.description) else s
    let (script, s) := s.runScript label script
    (context, s.setHandler callback (.scripted label (.failed reaction) script))
  | _ => (context, s)

/-! ### Answers -/

/-- What a caller is told. -/
def outcomeOf? : Answer → Option Outcome
  | .disconnected => some .disconnected
  | .latency ms => some (.latency ms)
  | .readyState state => some (.connected (state == .open))
  | .reply _ _ reply => some (.reply reply)
  | .count _ | .channelState _ | .joinRef _ => none

/-- What a caller is told whose call will not be answered. -/
def lostOutcome : CallKind → Outcome
  | .reply => .channelFault .replyDropped
  | .disconnect | .ping | .connected => .socketFault .actorUnavailable

/-- A caller is answered. -/
def answer (s : Stage) (ticket : Ticket) (a : Answer) : Stage :=
  match outcomeOf? a with
  | some outcome => s.settleWait ticket outcome
  | none => s

/-- A caller will not be answered. -/
def discard (s : Stage) (ticket : Ticket) : Stage :=
  match s.scene.waits[ticket]? with
  | some w => s.settleWait ticket (lostOutcome w.kind)
  | none => s

/-- No caller will be answered any more. -/
def discardAll (s : Stage) : Stage :=
  (List.range s.scene.waits.length).foldl (fun s ticket => s.discard ticket) s

/-- A stream has another event, unless it was dropped. -/
def yieldTo (s : Stage) (n : Nat) (event : InboundEvent) : Stage :=
  s.modify fun c => { c with
    streams := c.streams.modify n fun slot =>
      if slot.held then { slot with events := slot.events ++ [event] } else slot }

/-! ### Effects -/

/-- An effect of the socket. -/
def perform (s : Stage) : Effect → Stage
  | .open request => s.openTransport request
  | .send t frame => s.sendFrame t frame
  | .close t code reason => s.closeTransport t code reason
  | .release t => s.releaseTransport t
  | .accept .. | .resolve .. => s
  | .runOpen callback => s.callScripted callback fun label _ => .opened label
  | .runClose callback event => s.callScripted callback fun label _ => .closed label event
  | .runMessage callback m => s.callScripted callback fun label _ => .message label m
  | .runEvent callback event => s.callEvent callback event
  | .yield stream event => s.yieldTo stream event
  | .runReply _ _ (.callback callback) reply =>
    s.callScripted callback fun label _ => .received label reply.response
  | .runReply _ _ (.channel _) _ => s
  | .answer ticket a => s.answer ticket a
  | .discard ticket => s.discard ticket

end Stage

instance : Outside Scene where
  readyState c t := c.readyState t
  buffered c t := c.buffered t
  perform e x c :=
    let s := Stage.perform ⟨x, c⟩ e
    (s.exchange, s.scene)
  hook callback event payload ref x c :=
    let (result, s) := Stage.callHook ⟨x, c⟩ callback event payload ref
    (result, s.exchange, s.scene)
  runError callback failure context x c :=
    let (context, s) := Stage.callError ⟨x, c⟩ callback failure context
    (context, s.exchange, s.scene)

end Simulation

end Switchboard
