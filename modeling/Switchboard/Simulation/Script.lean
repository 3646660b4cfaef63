import Switchboard.LongPoll.Transport
import Switchboard.Presence.Tracker
import Switchboard.Socket.Outside

/-!
# Scripts

A simulation puts a socket into scripted surroundings.  Its script is a list of steps: what the
user of the socket asks for, what happens on the connections, and how time goes on.  A callback may
have steps of its own, which it takes on its first calls.

Main definitions

* `Script`: the steps of a callback;
* `LinkAct`: what happens on a scripted connection;
* `Step`: what happens at one instant;
* `Result`: what a step gives back;
* `Happening`: what was seen to happen.
-/

set_option autoImplicit false

namespace Switchboard

namespace Simulation

/-! ### Transports -/

/-- How a scripted connection answers when it is asked to close. -/
inductive CloseMode where
  /-- It reports that it has closed. -/
  | report
  /-- It goes on closing. -/
  | hold
  /-- It has closed without a report. -/
  | silent
  deriving DecidableEq, Repr, Inhabited

/-- A kind of transport in a simulation. -/
structure ScriptedFactory where
  factory : Factory
  closeMode : CloseMode
  /-- Its connections never have anything left to send. -/
  plain : Bool
  /-- Its connections are long-poll transports with scripted answers. -/
  longPoll : Bool
  deriving DecidableEq, Repr, Inhabited

/-- Where the join ref of a scripted message comes from. -/
inductive JoinRefSource where
  | value (value : Json)
  /-- The join ref that a channel has now. -/
  | ofChannel (channel : Nat)
  deriving Inhabited

/-- What happens on a scripted connection. -/
inductive LinkAct where
  | opened
  | frame (frame : Frame)
  /-- A message in a text frame, behind some text. -/
  | message (before : String) (joinRef : JoinRefSource) (rest : List Json)
  /-- The reply to the last frame that was sent for an event. -/
  | reply (event before status : String) (response : Json) (bytes : Option Bytes)
  | failed (cause : TransportError)
  | closed (event : CloseEvent)
  | setReady (state : ReadyState)
  | setBuffered (bytes : Nat)
  | setCloseMode (mode : CloseMode)
  | setFailSend (on : Bool)
  deriving Inhabited

/-! ### Callbacks -/

/-- The steps that a callback takes on its first calls. -/
structure Script (α : Type) where
  steps : List α
  calls : Nat
  deriving Inhabited

/-- What a scripted message hook does with an event. -/
inductive HookRule where
  /-- It gives no payload. -/
  | drop
  /-- It wraps the payload into a JSON object. -/
  | wrap
  | replace (payload : Payload)
  deriving Inhabited

/-- What a scripted error callback does with its context. -/
structure ErrorReaction where
  /-- The name of the transport to fall back to. -/
  fallback : Option String
  /-- It falls back only before any connection was open. -/
  unestablishedOnly : Bool
  /-- It notes the context on one line. -/
  describes : Bool
  deriving DecidableEq, Repr, Inhabited

/-- The events that a scripted binding is for. -/
inductive Watch where
  | event (name : String)
  | close
  | error
  deriving DecidableEq, Repr, Inhabited

/-- The name of the events of a binding. -/
def Watch.name : Watch → String
  | .event name => name
  | .close => Event.close
  | .error => Event.error

/-- The moments that a presence has callbacks for. -/
inductive PresenceOccasion where
  | join
  | leave
  | sync
  deriving DecidableEq, Repr, Inhabited

/-- The events that carry the presence of a channel. -/
structure PresenceEvents where
  state : String
  diff : String
  deriving DecidableEq, Repr, Inhabited

namespace PresenceEvents

/-- The usual events. -/
def standard : PresenceEvents := ⟨"presence_state", "presence_diff"⟩

/-- The events on one line. -/
def description (e : PresenceEvents) : String :=
  "PresenceEvents \x7b state: " ++ quoteText e.state ++ ", diff: " ++ quoteText e.diff ++ " \x7d"

end PresenceEvents

/-! ### Steps -/

/-- A handle that can be put on one line. -/
inductive Described where
  | socket
  | channel (channel : Nat)
  | push (push : Nat)
  | presence (presence : Nat)
  deriving DecidableEq, Repr, Inhabited

/-- What happens at one instant; handles and connections go by the order in which they came. -/
inductive Step where
  | connect
  | pause
  | resume
  | shutdown
  | makeRef
  | dropSocket
  | disconnect (code : Option Nat) (reason : Option String)
  | ping
  | isConnected
  | replaceTransport (factory : String)
  | socketOn (occasion : Occasion) (reaction : ErrorReaction) (script : Script Step)
  | socketOff (refs : List Ref)
  | channel (topic : String) (params : Params)
  | join (channel : Nat) (timeout : Option Nat) (detach : Bool)
  | push (channel : Nat) (event : String) (payload : Payload) (timeout : Option Nat) (detach : Bool)
  | leave (channel : Nat) (timeout : Option Nat) (detach : Bool)
  | on (channel : Nat) (watch : Watch) (script : Script Step)
  | off (channel : Nat) (event : String) (binding : Option BindingId)
  | stream (channel : Nat) (event : String)
  | dropStream (stream : Nat)
  | hook (channel : Nat) (rules : List (String × HookRule)) (logged : Bool) (script : Script Step)
  | dropChannel (channel : Nat)
  | receive (push : Nat) (status : String) (script : Script Step)
  | await (push : Nat)
  | dropPush (push : Nat)
  | presence (channel : Nat) (events : PresenceEvents)
  | presenceOn (presence : Nat) (occasion : PresenceOccasion) (script : Script Step)
  | presenceList (presence : Nat) (keyed : Bool)
  | dropPresence (presence : Nat)
  | link (number : Option Nat) (act : LinkAct)
  | respond (isPost : Bool) (result : HttpResult)
  | postAuto (on : Bool)
  | describe (handle : Described)
  | batch (steps : List Step)
  | unknown
  deriving Inhabited

/-! ### Results -/

/-- Why a step could not be taken. -/
inductive Fault where
  /-- The handle is gone, or never was. -/
  | gone
  | noSuchLink
  | noSuchFactory
  | nothingSent
  | unknownStep
  | socket (cause : SocketError)
  | channel (cause : ChannelError)
  deriving DecidableEq, Repr, Inhabited

/-- What a step gives back. -/
inductive Result where
  | nothing
  | fault (fault : Fault)
  | wait (number : Nat)
  | ref (ref : Ref)
  | registered (ref : Ref) (label : Nat)
  | bound (binding : BindingId) (label : Nat)
  | callback (label : Nat)
  | channel (number : Nat)
  | push (number : Nat)
  | stream (number : Nat)
  | presence (number : Nat)
  | entries (entries : List PresenceEntry)
  /-- The keys, each with the number of its records. -/
  | counts (counts : List (String × Nat))
  | text (text : String)
  | delivered
  | queued
  | all (results : List Result)
  deriving Inhabited

/-! ### Happenings -/

/-- What was seen to happen; callbacks go by their labels. -/
inductive Happening where
  | transportOpen (link : Nat) (name : String) (request : OpenRequest)
  | sent (link : Nat) (frame : Frame)
  | closeRequest (link : Nat) (code : Option Nat) (reason : Option String)
  | opened (label : Nat)
  | closed (label : Nat) (event : CloseEvent)
  | message (label : Nat) (message : Message)
  | failed (label : Nat) (failure : SocketError) (context : ErrorContext)
  | context (label : Nat) (text : String)
  | event (label : Nat) (event : InboundEvent)
  | channelClosed (label : Nat) (payload : Payload)
  | channelFailed (label : Nat) (payload : Payload)
  | hook (label : Nat) (event : String) (payload : Payload) (ref : Option Ref)
  | received (label : Nat) (response : Payload)
  | presence (label : Nat) (change : PresenceChange)
  | synced (label : Nat)
  | tookSteps (label : Nat) (results : List Result)
  deriving Inhabited

end Simulation

end Switchboard
