import Switchboard.Proofs.Runs

/-!
# Runs that are written out

A script says what happens to a socket, one thing after another: handles ask for something, the
surroundings change, and the socket takes its next command.  Scripts are played in surroundings that
never act by themselves, so that a run can be written out and looked at.

Main definitions

* `Idle`: surroundings that never act by themselves;
* `Deed`: one thing that happens, with `Deed.post`, `Deed.createChannel`, `Deed.join`, `Deed.push` and
  `Deed.leave` for what handles ask for, `Deed.report`, `Deed.answer` and `Deed.announce` for what
  transports report;
* `Socket.playIn?`, `Socket.play?`: what becomes of a socket by a script.

Main results

* `Socket.steps_of_playIn?`, `Socket.run_of_play?`: a script that can be played is a run;
* `Socket.reachable_of_play?`: what a script comes to can be reached.
-/

set_option autoImplicit false

namespace Switchboard

/-! ### Idle surroundings -/

/-- Surroundings that never act by themselves: all transports have got equally far, and have as many
bytes left to send. -/
structure Idle where
  state : ReadyState
  waiting : Nat

instance : Outside Idle where
  readyState o _ := o.state
  buffered o _ := o.waiting
  perform _ x o := (x, o)
  hook _ _ payload _ x o := (some payload, x, o)
  runError _ _ context x o := (context, x, o)

instance : Obliging Idle where
  perform _ _ _ := .refl
  hook _ _ _ _ _ _ := .refl
  runError _ _ _ _ _ := .refl

/-! ### Scripts -/

/-- One thing that happens in a script. -/
inductive Deed where
  /-- Handles, transports or the clock act on the exchange. -/
  | acts (f : Exchange → Exchange) (lawful : ∀ x : Exchange, x.Acts (f x))
  /-- The surroundings become others. -/
  | become (surroundings : Idle)
  /-- The socket takes its next command. -/
  | take

namespace Deed

/-- A command that needs no number. -/
def post (cmd : Command) (plain : cmd.IsPlain) : Deed :=
  .acts (·.post cmd) fun x => .single (.post plain x)

/-- The socket is asked to connect. -/
def connect : Deed := .post .connect fun _ => rfl

/-- A report of a transport. -/
def report (t : TransportId) (event : TransportEvent) : Deed :=
  .post (.transport t event) fun _ => rfl

/-- The server replies in a binary frame without data. -/
def answer (t : TransportId) (joinRef ref topic status : String) : Deed :=
  .report t (.received (.binary
    (BinaryFrame.layout BinaryFrame.replyKind ([joinRef, ref, topic, status].map utf8Bytes) [])))

/-- The server pushes an event in a binary frame without data. -/
def announce (t : TransportId) (joinRef topic event : String) : Deed :=
  .report t (.received (.binary
    (BinaryFrame.layout BinaryFrame.pushKind ([joinRef, topic, event].map utf8Bytes) [])))

/-- A timer fires. -/
def fire (event : TimerEvent) : Deed := .post (.timer event) fun _ => rfl

/-- A channel of a topic is asked for. -/
def createChannel (topic : String) : Deed :=
  .acts (fun x : Exchange => (x.openChannel topic (.fixed .empty)).2) fun x =>
    .single (.openChannel x _ _)

/-- The handles of a channel are gone. -/
def dropChannel (c : ChannelId) : Deed := .post (.dropChannel c) fun _ => rfl

/-- A channel gets a hook. -/
def setHook (c : ChannelId) (hook : CallbackId) : Deed := .post (.channel c (.setHook hook)) fun _ => rfl

/-- A channel is asked to join. -/
def join (c : ChannelId) (timeout : Nat) : Deed :=
  .acts (fun x => (x.join c timeout).2) fun x => .single (.join x c timeout)

/-- A handle asks something of a channel that it knows. -/
def ask (c : ChannelId) (f : Exchange → Exchange)
    (lawful : ∀ x : Exchange, c < x.lines.length → x.Act (f x)) : Deed :=
  .acts (fun x => if c < x.lines.length then f x else x) fun x => by
    split
    · exact .single (lawful x ‹_›)
    · exact .refl

/-- A handle pushes an event without a payload. -/
def push (c : ChannelId) (event : String) (timeout : Nat) : Deed :=
  .ask c (fun x => (x.push c event .empty timeout).2) fun x known =>
    .push x known event .empty timeout

/-- A channel is asked to leave. -/
def leave (c : ChannelId) (timeout : Nat) : Deed :=
  .ask c (fun x => (x.leave c timeout).2) fun x known => .leave x known timeout

end Deed

namespace Socket

section Play

variable {ω : Type} [Outside ω] {s t : Socket (Recorded ω)}
variable {become : Socket (Recorded ω) → Idle → Option (Socket (Recorded ω))}
variable {test : Socket (Recorded ω) → Command → Bool}
variable {step : Socket (Recorded ω) → Socket (Recorded ω) → Prop}

/-- What becomes of a socket; nothing if the surroundings cannot become others, or if the queue has no
command, or one that fails a test. -/
def doIn? (become : Socket (Recorded ω) → Idle → Option (Socket (Recorded ω)))
    (test : Socket (Recorded ω) → Command → Bool) (s : Socket (Recorded ω)) :
    Deed → Option (Socket (Recorded ω))
  | .acts f _ => some { s with exchange := f s.exchange }
  | .become o => become s o
  | .take =>
    match s.exchange.next? with
    | none => none
    | some (cmd, x) =>
      if test { s with exchange := x } cmd then some ({ s with exchange := x }.handle cmd)
      else none

/-- Plays a script. -/
def playIn? (become : Socket (Recorded ω) → Idle → Option (Socket (Recorded ω)))
    (test : Socket (Recorded ω) → Command → Bool) :
    List Deed → Socket (Recorded ω) → Option (Socket (Recorded ω))
  | [], s => some s
  | deed :: rest, s => (s.doIn? become test deed).bind (playIn? become test rest)

/-- A script is a sequence of steps if each deed is a step. -/
theorem steps_of_playIn?
    (acts : ∀ (s : Socket (Recorded ω)) {x}, s.exchange.Acts x → step s { s with exchange := x })
    (becomes : ∀ {s o t}, become s o = some t → step s t)
    (takes : ∀ {s cmd x}, s.exchange.next? = some (cmd, x) → test { s with exchange := x } cmd = true →
      step s ({ s with exchange := x }.handle cmd)) {deeds : List Deed}
    (h : s.playIn? become test deeds = some t) : Relation.ReflTransGen step s t := by
  induction deeds generalizing s with
  | nil =>
    cases h
    exact .refl
  | cons deed rest ih =>
    obtain ⟨u, hdeed, hrest⟩ := Option.bind_eq_some_iff.mp h
    refine .head ?_ (ih hrest)
    cases deed with
    | acts f lawful =>
      cases hdeed
      exact acts s (lawful s.exchange)
    | become o => exact becomes hdeed
    | take =>
      simp only [doIn?] at hdeed
      split at hdeed
      · cases hdeed
      · rename_i cmd x hnext
        split at hdeed
        · rename_i hpass
          cases hdeed
          exact takes hnext hpass
        · cases hdeed

end Play

variable {admits : Socket (Recorded Idle) → Command → Prop}
variable {test : Socket (Recorded Idle) → Command → Bool} {s t : Socket (Recorded Idle)}

/-- Plays a script in idle surroundings. -/
def play? (test : Socket (Recorded Idle) → Command → Bool) :
    List Deed → Socket (Recorded Idle) → Option (Socket (Recorded Idle)) :=
  playIn? (fun s o => some { s with outside := ⟨o, s.log, s.dealings⟩ }) test

/-- A script that can be played is a run. -/
theorem run_of_play? (htest : ∀ s cmd, test s cmd = true → admits s cmd) {deeds : List Deed}
    (h : s.play? test deeds = some t) : Run admits s t := by
  refine steps_of_playIn? (fun s _ lawful => ?_) (fun {s o _} hbecome => ?_) (fun hnext hpass => ?_) h
  · exact .surroundings lawful s.outside.outside
  · cases hbecome
    exact .surroundings .refl o
  · exact .take hnext (htest _ _ hpass)

/-- A socket before a script is played. -/
def ready : Socket (Recorded Idle) :=
  .new "ws://example.test/socket" .standard ⟨0, "standard", false, false⟩
    ⟨⟨.connecting, 0⟩, [], []⟩

/-- A connection is asked for and opens. -/
def connecting : List Deed :=
  [.connect, .take, .report 0 .opened, .become ⟨.open, 0⟩, .take]

/-- A connection opens, and the first channel asks to join a topic under the third ref. -/
def asking (topic : String) : List Deed :=
  connecting ++ [.createChannel topic, .take, .join 0 10000, .take]

/-- The first channel has joined a topic. -/
def joined (topic : String) : List Deed :=
  asking topic ++ [.answer 0 "3" "3" topic Status.ok, .take]

/-- What a script comes to can be reached; a view of it is computed by playing the script. -/
theorem reachable_of_play? {α : Type} {view : Socket (Recorded Idle) → α} {a : α}
    (htest : ∀ s cmd, test s cmd = true → admits s cmd) {deeds : List Deed}
    (h : (ready.play? test deeds).map view = some a) : ∃ s, Reachable admits s ∧ view s = a := by
  obtain ⟨s, hplay, hview⟩ := Option.map_eq_some_iff.mp h
  exact ⟨s, ⟨_, _, _, _, run_of_play? htest hplay⟩, hview⟩

/-- All commands of a script. -/
def admitsAll (_ : Socket (Recorded Idle)) (_ : Command) : Bool := true

theorem of_admitsAll (s : Socket (Recorded Idle)) (cmd : Command) (_ : admitsAll s cmd = true) :
    True := trivial

/-- The commands of a script that install no hook and remove no binding. -/
def sparesAll {ω : Type} (_ : Socket (Recorded ω)) : Command → Bool
  | .channel _ (.setHook _) | .channel _ (.unbind ..) => false
  | _ => true

theorem spares_of_sparesAll {ω : Type} (names : String → Prop) (s : Socket (Recorded ω)) (cmd : Command)
    (h : sparesAll s cmd = true) : Sparing names s cmd := by
  cases cmd with
  | channel c op => cases op <;> trivial
  | _ => trivial

end Socket

end Switchboard
