import Mathlib
import Switchboard.Simulation.Surroundings

/-!
# What happens beside the presences

Of all that happens on a stage little concerns the presences of its channels: an event of a presence
makes its callbacks run, and a step of the script opens a presence, sets one of its callbacks or drops
it.  All the rest goes on aside.  In particular a step never changes whom a tracker lists as present and
never calls a callback of a presence.

Main definitions

* `PresenceCall`, `Stage.presenceCalls`: the calls of callbacks of presences, in order;
* `Stage.Keeps`: a presence goes on listing the same, and keeps what callbacks it has or gets others;
* `Stage.Aside`: all presences are kept, and none of their callbacks is called;
* `PresenceFeed`, `Stage.feed`: events of a presence.

Main results

* `Stage.aside_run`: steps;
* `Stage.aside_runScript`: the steps of callbacks;
* `Stage.aside_perform`: effects of the socket that are no events of a presence.
-/

set_option autoImplicit false

namespace Switchboard

namespace Simulation

/-! ### Calls -/

/-- A call of a callback of a presence. -/
inductive PresenceCall where
  | changed (label : Nat) (change : PresenceChange)
  | synced (label : Nat)
  deriving Inhabited

/-- The call of a callback of a presence that a happening is. -/
def Happening.presenceCall? : Happening → Option PresenceCall
  | .presence label change => some (.changed label change)
  | .synced label => some (.synced label)
  | _ => none

/-- The two ways in which events come to a presence. -/
inductive PresenceFeed where
  | snapshots
  | diffs
  deriving DecidableEq, Repr, Inhabited

/-- The callbacks that were set are set, maybe to others. -/
structure PresenceCallbacks.Lasts (c c' : PresenceCallbacks) : Prop where
  onJoin : c.onJoin.isSome = true → c'.onJoin.isSome = true
  onLeave : c.onLeave.isSome = true → c'.onLeave.isSome = true
  onSync : c.onSync.isSome = true → c'.onSync.isSome = true

theorem PresenceCallbacks.Lasts.refl (c : PresenceCallbacks) : c.Lasts c := ⟨id, id, id⟩

theorem PresenceCallbacks.Lasts.trans {c c' c'' : PresenceCallbacks} (h : c.Lasts c')
    (h' : c'.Lasts c'') : c.Lasts c'' :=
  ⟨h'.onJoin ∘ h.onJoin, h'.onLeave ∘ h.onLeave, h'.onSync ∘ h.onSync⟩

namespace Stage

variable {s t u : Stage} {n : Nat}

/-- The calls of callbacks of presences that were seen. -/
def presenceCalls (s : Stage) : List PresenceCall :=
  s.scene.record.happenings.filterMap fun p => p.2.presenceCall?

/-- A presence lists the same as before, and its callbacks last. -/
def Keeps (n : Nat) (s t : Stage) : Prop :=
  ∀ slot, s.scene.presences[n]? = some slot → ∃ slot', t.scene.presences[n]? = some slot' ∧
    slot'.tracker = slot.tracker ∧ slot.callbacks.Lasts slot'.callbacks

/-- Every presence is kept, and none of their callbacks is called. -/
structure Aside (s t : Stage) : Prop where
  keeps : ∀ n, Keeps n s t
  calls : t.presenceCalls = s.presenceCalls

theorem Keeps.refl (n : Nat) (s : Stage) : Keeps n s s :=
  fun slot h => ⟨slot, h, rfl, .refl slot.callbacks⟩

theorem Keeps.trans (h : Keeps n s t) (h' : Keeps n t u) : Keeps n s u := by
  intro slot hslot
  obtain ⟨slot', hslot', htracker, hlasts⟩ := h slot hslot
  obtain ⟨slot'', hslot'', htracker', hlasts'⟩ := h' slot' hslot'
  exact ⟨slot'', hslot'', htracker'.trans htracker, hlasts.trans hlasts'⟩

theorem Aside.refl (s : Stage) : Aside s s := ⟨fun n => .refl n s, rfl⟩

theorem Aside.trans (h : Aside s t) (h' : Aside t u) : Aside s u :=
  ⟨fun n => (h.keeps n).trans (h'.keeps n), h'.calls.trans h.calls⟩

theorem Aside.ite {c : Prop} [Decidable c] (h : Aside s t) (h' : Aside s u) :
    Aside s (if c then t else u) := by
  split_ifs
  · exact h
  · exact h'

theorem presenceCalls_say (s : Stage) (h : Happening) :
    (s.say h).presenceCalls = s.presenceCalls ++ h.presenceCall?.toList := by
  cases hcall : h.presenceCall? <;> simp [presenceCalls, say, modifyRecord, modify, hcall]

/-! ### Presences that are set -/

theorem presences_setPresence_self {slot : PresenceSlot} (hslot : s.scene.presences[n]? = some slot)
    (slot' : PresenceSlot) : (s.setPresence n slot').scene.presences[n]? = some slot' := by
  obtain ⟨hlt, -⟩ := List.getElem?_eq_some_iff.1 hslot
  simp [setPresence, modify, hlt]

theorem keeps_setPresence_of_ne (s : Stage) (slot : PresenceSlot) {m : Nat} (h : n ≠ m) :
    Keeps m s (s.setPresence n slot) := by
  intro before hbefore
  refine ⟨before, ?_, rfl, .refl _⟩
  simpa [setPresence, modify, List.getElem?_set, h] using hbefore

namespace Aside

theorem say {h : Happening} (hs : Aside s t) (hcall : h.presenceCall? = none) : Aside s (t.say h) :=
  ⟨hs.keeps, by rw [presenceCalls_say, hcall, Option.toList_none, List.append_nil, hs.calls]⟩

/-! ### Tasks and callers -/

theorem wake (h : Aside s t) (task : Task) : Aside s (t.wake task) := by
  unfold Stage.wake
  dsimp only
  split_ifs
  · exact ⟨h.keeps, h.calls⟩
  · exact ⟨h.keeps, h.calls⟩

theorem wakeSocket (h : Aside s t) : Aside s t.wakeSocket := by
  unfold Stage.wakeSocket
  split_ifs
  · exact h.wake .socket
  · exact h

theorem settleWait (h : Aside s t) (wait : Nat) (outcome : Outcome) :
    Aside s (t.settleWait wait outcome) := by
  unfold Stage.settleWait
  split
  · exact h
  · split_ifs
    · exact h
    · refine wake ?_ _
      exact ⟨h.keeps, h.calls⟩

theorem call (h : Aside s t) (kind : CallKind) (push : Option Nat) (failure : Outcome)
    (command : Ticket → Command) : Aside s (t.call kind push failure command).2 := by
  unfold Stage.call
  dsimp only
  split
  · exact ⟨h.keeps, h.calls⟩
  · refine settleWait ?_ _ _
    exact ⟨h.keeps, h.calls⟩

theorem answer (h : Aside s t) (ticket : Ticket) (a : Answer) : Aside s (t.answer ticket a) := by
  unfold Stage.answer
  split
  · exact h.settleWait _ _
  · exact h

theorem discard (h : Aside s t) (ticket : Ticket) : Aside s (t.discard ticket) := by
  unfold Stage.discard
  split
  · exact h.settleWait _ _
  · exact h

/-! ### Transports -/

theorem emitAll (h : Aside s t) (transport : TransportId) (events : List TransportEvent) :
    Aside s (t.emitAll transport events) := by
  unfold Stage.emitAll
  induction events generalizing t with
  | nil => exact h
  | cons e rest ih => exact ih ⟨h.keeps, h.calls⟩

theorem wakeTasks (h : Aside s t) (transport : TransportId) : Aside s (t.wakeTasks transport) :=
  (h.wake _).wake _

theorem openTransport (h : Aside s t) (r : OpenRequest) : Aside s (t.openTransport r) := by
  unfold Stage.openTransport
  split
  · exact h
  next f _ =>
    split_ifs
    · refine wakeTasks ?_ _
      exact ⟨h.keeps, h.calls⟩
    · have hsaid := h.say (h := .transportOpen t.scene.links.length f.factory.name r) rfl
      exact ⟨hsaid.keeps, hsaid.calls⟩

theorem sendFrame (h : Aside s t) (transport : TransportId) (frame : Frame) :
    Aside s (t.sendFrame transport frame) := by
  unfold Stage.sendFrame
  split
  next n _ =>
    split
    · have hsaid := h.say (h := .sent n frame) rfl
      unfold sendOnLink
      dsimp only
      split_ifs
      · exact ⟨hsaid.keeps, hsaid.calls⟩
      · exact ⟨hsaid.keeps, hsaid.calls⟩
    · exact h
  · split
    · refine wake (emitAll ?_ _ _) _
      exact ⟨h.keeps, h.calls⟩
    · exact h

theorem closeLink (h : Aside s t) (n : Nat) (link : Link) (code : Option Nat)
    (reason : Option String) : Aside s (t.closeLink n link code reason) := by
  have hsaid := h.say (h := .closeRequest n code reason) rfl
  unfold Stage.closeLink
  dsimp only
  split_ifs
  · exact hsaid
  · split
    · exact ⟨hsaid.keeps, hsaid.calls⟩
    · exact ⟨hsaid.keeps, hsaid.calls⟩
    · exact ⟨hsaid.keeps, hsaid.calls⟩

theorem closeTransport (h : Aside s t) (transport : TransportId) (code : Option Nat)
    (reason : Option String) : Aside s (t.closeTransport transport code reason) := by
  unfold Stage.closeTransport
  split
  · split
    · exact h.closeLink _ _ _ _
    · exact h
  · split
    · rename_i l _
      generalize l.close code reason = closed
      refine wakeTasks (emitAll ?_ _ _) _
      exact ⟨h.keeps, h.calls⟩
    · exact h

theorem releaseTransport (h : Aside s t) (transport : TransportId) :
    Aside s (t.releaseTransport transport) := by
  unfold Stage.releaseTransport
  split
  · refine wakeTasks ?_ _
    exact ⟨h.keeps, h.calls⟩
  · exact h

theorem actOn (h : Aside s t) (number : Option Nat) (act : LinkAct) :
    Aside s (t.actOn number act).2 := by
  unfold Stage.actOn
  dsimp only
  split
  · cases act with
    | reply event before status response bytes =>
      simp only [actOnLink, replyOnLink]
      split
      · exact h
      · exact ⟨h.keeps, h.calls⟩
    | _ => exact ⟨h.keeps, h.calls⟩
  · exact h

theorem respond (h : Aside s t) (isPost : Bool) (result : HttpResult) :
    Aside s (t.respond isPost result).2 := by
  unfold Stage.respond
  split_ifs
  · unfold respondToPost
    split
    · refine wake ?_ _
      exact ⟨h.keeps, h.calls⟩
    · exact ⟨h.keeps, h.calls⟩
  · unfold respondToPoll
    split
    · refine wake ?_ _
      exact ⟨h.keeps, h.calls⟩
    · exact ⟨h.keeps, h.calls⟩

/-! ### Handles -/

theorem onSocket {f : Result × Stage} (h : Aside s t) (hf : Aside s f.2) :
    Aside s (t.onSocket f).2 := by
  unfold Stage.onSocket
  split_ifs
  · exact hf
  · exact h

theorem ofSocket {α : Type} (h : Aside s t) (r : Except SocketError α × Exchange)
    (f : α → Result) : Aside s (t.ofSocket r f).2 := by
  unfold Stage.ofSocket
  dsimp only
  split
  · exact ⟨h.keeps, h.calls⟩
  · exact ⟨h.keeps, h.calls⟩

theorem request (h : Aside s t) (c : Command) : Aside s (t.request c).2 :=
  h.onSocket (h.ofSocket _ _)

theorem setChannelSlot (h : Aside s t) (n : Nat) (slot : ChannelSlot) :
    Aside s (t.setChannelSlot n slot) := by
  unfold Stage.setChannelSlot
  dsimp only
  split_ifs
  · exact ⟨h.keeps, h.calls⟩
  · exact ⟨h.keeps, h.calls⟩

theorem setPushSlot (h : Aside s t) (n : Nat) (slot : PushSlot) : Aside s (t.setPushSlot n slot) := by
  unfold Stage.setPushSlot
  dsimp only
  split_ifs
  · exact ⟨h.keeps, h.calls⟩
  · exact ⟨h.keeps, h.calls⟩

theorem addPush (h : Aside s t) (channel : ChannelId) (push : PushId) (detach : Bool) :
    Aside s (t.addPush channel push detach).2 := by
  unfold Stage.addPush
  dsimp only
  split_ifs
  · refine setPushSlot ?_ _ _
    exact ⟨h.keeps, h.calls⟩
  · exact ⟨h.keeps, h.calls⟩

theorem unshareChannel (h : Aside s t) (n : Nat) : Aside s (t.unshareChannel n) := by
  unfold Stage.unshareChannel
  split
  · exact h.setChannelSlot _ _
  · exact h

theorem openChannel (h : Aside s t) (topic : String) (params : Params) :
    Aside s (t.openChannel topic params).2 := by
  unfold Stage.openChannel
  dsimp only
  split
  · exact ⟨h.keeps, h.calls⟩
  · exact ⟨h.keeps, h.calls⟩

theorem awaitReply (h : Aside s t) (n : Nat) (slot : PushSlot) : Aside s (t.awaitReply n slot).2 :=
  (h.setPushSlot _ _).call _ _ _ _

theorem dropStream (h : Aside s t) (n : Nat) : Aside s (t.dropStream n).2 := by
  unfold Stage.dropStream
  split
  · exact ⟨h.keeps, h.calls⟩
  · exact h

theorem shutdown (h : Aside s t) : Aside s t.shutdown := by
  unfold Stage.shutdown
  split
  · exact ⟨h.keeps, h.calls⟩
  · exact ⟨h.keeps, h.calls⟩

theorem replaceTransport (h : Aside s t) (name : String) : Aside s (t.replaceTransport name).2 := by
  refine h.onSocket ?_
  split
  · exact h.request _
  · exact h

theorem ofChannel {α : Type} {r : Except ChannelError α × Exchange}
    {f : α → Stage → Result × Stage} (h : Aside s t)
    (hf : ∀ a u, Aside s u → Aside s (f a u).2) :
    Aside s (t.ofChannel r f).2 := by
  unfold Stage.ofChannel
  dsimp only
  split
  · exact hf _ _ ⟨h.keeps, h.calls⟩
  · exact ⟨h.keeps, h.calls⟩

theorem onChannel {f : ChannelSlot → Result × Stage} (h : Aside s t)
    (hf : ∀ slot, Aside s (f slot).2) : Aside s (t.onChannel n f).2 := by
  unfold Stage.onChannel
  split
  · exact hf _
  · exact h

theorem onPush {f : PushSlot → Result × Stage} (h : Aside s t)
    (hf : ∀ slot, Aside s (f slot).2) : Aside s (t.onPush n f).2 := by
  unfold Stage.onPush
  split
  · exact hf _
  · exact h

theorem onPresence {f : PresenceSlot → Result × Stage} (h : Aside s t)
    (hf : ∀ slot, t.scene.presences[n]? = some slot → Aside s (f slot).2) :
    Aside s (t.onPresence n f).2 := by
  unfold Stage.onPresence heldPresence?
  split
  next slot hslot => exact hf slot (Option.filter_eq_some_iff.1 hslot).1
  · exact h

/-! ### Steps on presences -/

/-- A presence is set to something that lists the same. -/
theorem setPresence {a b : PresenceSlot} (h : Aside s t) (ha : t.scene.presences[n]? = some a)
    (htracker : b.tracker = a.tracker) (hlasts : a.callbacks.Lasts b.callbacks) :
    Aside s (t.setPresence n b) := by
  refine h.trans ⟨fun m => ?_, rfl⟩
  by_cases hm : n = m
  · subst hm
    intro before hbefore
    cases ha.symm.trans hbefore
    exact ⟨b, presences_setPresence_self ha b, htracker, hlasts⟩
  · exact keeps_setPresence_of_ne t b hm

theorem addPresence (h : Aside s t) (slot : PresenceSlot) :
    Aside s (t.modify fun c => { c with presences := c.presences ++ [slot] }) := by
  refine h.trans ⟨fun m => ?_, rfl⟩
  intro before hbefore
  obtain ⟨hlt, -⟩ := List.getElem?_eq_some_iff.1 hbefore
  exact ⟨before, (List.getElem?_append_left hlt).trans hbefore, rfl, .refl _⟩

theorem openPresence (h : Aside s t) (n : Nat) (slot : ChannelSlot) (events : PresenceEvents) :
    Aside s (t.openPresence n slot events).2 := by
  unfold Stage.openPresence
  refine ofChannel ⟨h.keeps, h.calls⟩ fun _ _ hu => ?_
  refine ofChannel hu fun _ _ hv => ?_
  exact (hv.addPresence _).setChannelSlot _ _

theorem setPresenceCallback {slot : PresenceSlot} (h : Aside s t)
    (hslot : t.scene.presences[n]? = some slot) (occasion : PresenceOccasion)
    (script : Script Step) : Aside s (t.setPresenceCallback n slot occasion script).2 := by
  have hlabel : Aside s t.takeLabel.2 := ⟨h.keeps, h.calls⟩
  refine hlabel.setPresence (a := slot) hslot rfl ?_
  cases occasion with
  | join => exact ⟨fun _ => rfl, id, id⟩
  | leave => exact ⟨id, fun _ => rfl, id⟩
  | sync => exact ⟨id, id, fun _ => rfl⟩

theorem dropPresence {slot : PresenceSlot} (h : Aside s t)
    (hslot : t.scene.presences[n]? = some slot) : Aside s (t.dropPresence n slot) := by
  have hset := h.setPresence (b := { slot with held := false }) hslot rfl (.refl _)
  unfold Stage.dropPresence
  dsimp only
  split
  · exact hset
  · refine unshareChannel ?_ _
    exact ⟨hset.keeps, hset.calls⟩

theorem describe (h : Aside s t) (handle : Described) : Aside s (t.describe handle).2 := by
  cases handle with
  | socket => exact h.onSocket h
  | channel n => exact h.onChannel fun _ => h
  | push n => exact h.onPush fun _ => h
  | presence n => exact h.onPresence fun _ _ => h

end Aside

/-! ### Steps and scripts -/

mutual

/-- Presences do not notice a step. -/
theorem aside_run (s : Stage) (step : Step) : Aside s (s.run step).2 := by
  have h : Aside s s := .refl s
  cases step with
  | connect => exact h.request _
  | pause => exact h.request _
  | resume => exact h.request _
  | shutdown => exact h.onSocket h.shutdown
  | makeRef => exact h.onSocket ⟨h.keeps, h.calls⟩
  | dropSocket => exact h.onSocket ⟨h.keeps, h.calls⟩
  | disconnect code reason => exact h.onSocket (h.call _ _ _ _)
  | ping => exact h.onSocket (h.call _ _ _ _)
  | isConnected => exact h.onSocket (h.call _ _ _ _)
  | replaceTransport name => exact h.replaceTransport name
  | socketOn occasion reaction script =>
    refine h.onSocket (Aside.ofSocket ?_ _ _)
    exact ⟨h.keeps, h.calls⟩
  | socketOff refs => exact h.request _
  | channel topic params => exact h.onSocket (h.openChannel topic params)
  | join n timeout detach =>
    exact h.onChannel fun _ => h.ofChannel fun _ _ hu => hu.addPush _ _ detach
  | push n event payload timeout detach =>
    exact h.onChannel fun _ => h.ofChannel fun _ _ hu => hu.addPush _ _ detach
  | leave n timeout detach =>
    exact h.onChannel fun _ => h.ofChannel fun _ _ hu => hu.addPush _ _ detach
  | on n watch script =>
    refine h.onChannel fun _ => Aside.ofChannel ?_ fun _ _ hu => hu
    exact ⟨h.keeps, h.calls⟩
  | off n event binding => exact h.onChannel fun _ => h.ofChannel fun _ _ hu => hu
  | stream n event =>
    exact h.onChannel fun _ => h.ofChannel fun _ _ hu => ⟨hu.keeps, hu.calls⟩
  | dropStream n => exact h.dropStream n
  | hook n rules logged script =>
    refine h.onChannel fun _ => Aside.ofChannel ?_ fun _ _ hu => hu
    exact ⟨h.keeps, h.calls⟩
  | dropChannel n => exact h.onChannel fun _ => h.setChannelSlot _ _
  | receive n status script =>
    refine h.onPush fun _ => Aside.ofChannel ?_ fun _ _ hu => hu
    exact ⟨h.keeps, h.calls⟩
  | await n => exact h.onPush fun slot => h.awaitReply n slot
  | dropPush n => exact h.onPush fun _ => h.setPushSlot _ _
  | presence n events => exact h.onChannel fun slot => h.openPresence n slot events
  | presenceOn n occasion script =>
    exact h.onPresence fun _ hslot => h.setPresenceCallback hslot occasion script
  | presenceList n keyed => exact h.onPresence fun _ _ => h
  | dropPresence n => exact h.onPresence fun _ hslot => h.dropPresence hslot
  | link number act => exact h.actOn number act
  | respond isPost result => exact h.respond isPost result
  | postAuto on => exact ⟨h.keeps, h.calls⟩
  | describe handle => exact h.describe handle
  | batch steps => exact aside_runAll s steps
  | unknown => exact h

theorem aside_runAll (s : Stage) (steps : List Step) : Aside s (s.runAll steps).2 := by
  cases steps with
  | nil => exact .refl s
  | cons step rest =>
    exact (aside_run s step).wakeSocket.trans (aside_runAll _ rest)

end

theorem aside_runScript (s : Stage) (label : Nat) (script : Script Step) :
    Aside s (s.runScript label script).2 := by
  unfold runScript
  split_ifs
  · exact .refl s
  · exact (aside_runAll s script.steps).say rfl

/-! ### Callbacks and effects -/

theorem aside_callScripted (s : Stage) (callback : CallbackId)
    {saying : Nat → HandlerKind → Happening}
    (h : ∀ label kind, (saying label kind).presenceCall? = none) :
    Aside s (s.callScripted callback saying) := by
  unfold callScripted
  split
  next label kind script _ =>
    have hscript := ((Aside.refl s).say (h label kind)).trans (aside_runScript _ label script)
    exact ⟨hscript.keeps, hscript.calls⟩
  · exact .refl s

theorem aside_callHook (s : Stage) (callback : CallbackId) (event : String) (payload : Payload)
    (ref : Option Ref) : Aside s (s.callHook callback event payload ref).2 := by
  unfold callHook
  split
  next label rules logged script _ =>
    have hlogged : Aside s (if logged then s.say (.hook label event payload ref) else s) :=
      .ite ((Aside.refl s).say rfl) (.refl s)
    have hscript := hlogged.trans (aside_runScript _ label script)
    exact ⟨hscript.keeps, hscript.calls⟩
  · exact .refl s

theorem aside_callError (s : Stage) (callback : CallbackId) (failure : SocketError)
    (context : ErrorContext) : Aside s (s.callError callback failure context).2 := by
  unfold callError
  split
  next label reaction script _ =>
    have hfailed := (Aside.refl s).say (h := .failed label failure context) rfl
    have hdescribed : ∀ text, Aside s (if reaction.describes then
        (s.say (.failed label failure context)).say (.context label text)
        else s.say (.failed label failure context)) :=
      fun _ => .ite (hfailed.say rfl) hfailed
    have hscript := (hdescribed
      ((s.say (.failed label failure context)).chooseFallback reaction context).description).trans
        (aside_runScript _ label script)
    exact ⟨hscript.keeps, hscript.calls⟩
  · exact .refl s

/-- The presence that an event of a callback is for, and the way in which it comes. -/
def feedOf? (s : Stage) (callback : CallbackId) : Option (Nat × PresenceFeed) :=
  match s.scene.handlers[callback]? with
  | some (.presenceState n) => some (n, .snapshots)
  | some (.presenceDiff n) => some (n, .diffs)
  | _ => none

/-- An event comes to a presence. -/
def feed (s : Stage) (n : Nat) (f : PresenceFeed) (event : InboundEvent) : Stage :=
  match f with
  | .snapshots => s.presenceSnapshot n event
  | .diffs => s.presenceDiff n event

theorem callEvent_of_feedOf? {callback : CallbackId} {f : PresenceFeed} (event : InboundEvent)
    (h : s.feedOf? callback = some (n, f)) : s.callEvent callback event = s.feed n f event := by
  unfold feedOf? at h
  unfold callEvent
  split at h
  · cases h
    simp only [*, feed]
  · cases h
    simp only [*, feed]
  · cases h

theorem presenceCall?_eventHappening (event : InboundEvent) (label : Nat) (kind : HandlerKind) :
    (eventHappening event label kind).presenceCall? = none := by
  unfold eventHappening
  split <;> rfl

theorem aside_callEvent {callback : CallbackId} (event : InboundEvent)
    (h : s.feedOf? callback = none) : Aside s (s.callEvent callback event) := by
  unfold callEvent
  unfold feedOf? at h
  split
  next n hn => simp [hn] at h
  next n hn => simp [hn] at h
  · exact aside_callScripted s callback (presenceCall?_eventHappening event)

/-- Presences do not notice an effect that is no event of theirs. -/
theorem aside_perform {e : Effect}
    (h : ∀ callback event, e = .runEvent callback event → s.feedOf? callback = none) :
    Aside s (s.perform e) := by
  have hrefl : Aside s s := .refl s
  cases e with
  | «open» request => exact hrefl.openTransport request
  | send t frame => exact hrefl.sendFrame t frame
  | close t code reason => exact hrefl.closeTransport t code reason
  | release t => exact hrefl.releaseTransport t
  | runEvent callback event => exact aside_callEvent event (h callback event rfl)
  | yield stream event => exact ⟨hrefl.keeps, hrefl.calls⟩
  | runOpen callback => exact aside_callScripted s callback fun _ _ => rfl
  | runClose callback event => exact aside_callScripted s callback fun _ _ => rfl
  | runMessage callback m => exact aside_callScripted s callback fun _ _ => rfl
  | runReply channel push receiver reply =>
    cases receiver with
    | callback callback => exact aside_callScripted s callback fun _ _ => rfl
    | channel _ => exact hrefl
  | answer ticket a => exact hrefl.answer ticket a
  | discard ticket => exact hrefl.discard ticket
  | _ => exact hrefl

end Stage

end Simulation

end Switchboard
