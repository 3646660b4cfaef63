import Switchboard.Codec.Binary
import Switchboard.Json.Printer
import Switchboard.Json.Reader
import Switchboard.Simulation.Scene

/-!
# Wires

The connections of a simulation.  A scripted connection does what the script says and notes what it
is asked to do.  A long-poll transport is the real one; its requests meet the answers of the script,
in the order in which both come.

Main definitions

* `Stage.openTransport`, `Stage.sendFrame`, `Stage.closeTransport`, `Stage.releaseTransport`: what
  the socket does to a transport;
* `Stage.actOn`: what happens on a scripted connection;
* `Stage.runPoll`, `Stage.runDeliver`: the tasks of a long-poll transport;
* `Stage.respond`: an answer of the script.
-/

set_option autoImplicit false

namespace Switchboard

namespace Simulation

/-! ### Frames that were sent -/

/-- The head of a frame that was sent. -/
structure SentHead where
  joinRef : Json
  ref : Json
  topic : Json
  event : String
  deriving Inhabited

namespace SentHead

/-- The mark that may stand in front of a text frame. -/
def mark : Char := '~'

/-- A text without the mark. -/
def unmarked (text : String) : String :=
  match text.toList with
  | c :: rest => if c = mark then String.ofList rest else text
  | [] => text

/-- The head of a text frame. -/
def ofText? (text : String) : Option SentHead :=
  match Json.read? (unmarked text) with
  | some (.array [joinRef, ref, topic, .string event, _]) => some ⟨joinRef, ref, topic, event⟩
  | _ => none

/-- The head of a binary frame; missing refs are empty texts. -/
def ofBytes? (frame : Bytes) : Option SentHead :=
  match Message.decodePush frame with
  | .ok m =>
    some ⟨.string (m.joinRef.getD ""), .string (m.ref.getD ""), .string m.topic, m.event⟩
  | .error _ => none

/-- The head of a frame. -/
def ofFrame? : Frame → Option SentHead
  | .text text => ofText? text
  | .binary frame => ofBytes? frame

/-- The head of the last frame that was sent for an event. -/
def last? (event : String) (frames : List Frame) : Option SentHead :=
  (frames.filterMap ofFrame?).reverse.find? fun h => h.event == event

/-- The bytes of a part of the head. -/
def fieldBytes (v : Json) : Bytes := utf8Bytes (v.string?.getD "")

/-- A reply to the frame: a binary one if it carries raw bytes. -/
def reply (h : SentHead) (before status : String) (response : Json) (bytes : Option Bytes) :
    Frame :=
  match bytes with
  | some b =>
    .binary (BinaryFrame.layout BinaryFrame.replyKind
      [fieldBytes h.joinRef, fieldBytes h.ref, fieldBytes h.topic, utf8Bytes status] b)
  | none =>
    let body := Json.object [("response", response), ("status", .string status)]
    let envelope := Json.array [h.joinRef, h.ref, h.topic, .string Event.reply, body]
    .text (before ++ envelope.compact)

end SentHead

namespace Stage

/-! ### Scripted connections -/

/-- The place of the connection of a transport among the scripted ones. -/
def linkOf? (s : Stage) (t : TransportId) : Option Nat :=
  s.scene.links.findIdx? fun l => l.transport == t

/-- Changes a scripted connection. -/
def modifyLink (s : Stage) (n : Nat) (f : Link → Link) : Stage :=
  s.modify fun c => { c with links := c.links.modify n f }

/-- Opens a scripted connection. -/
def openLink (s : Stage) (f : ScriptedFactory) (r : OpenRequest) : Stage :=
  let link : Link := ⟨r.transport, .connecting, 0, f.closeMode, false, f.plain, []⟩
  (s.say (.transportOpen s.scene.links.length f.factory.name r)).modify fun c =>
    { c with links := c.links ++ [link] }

/-- A frame is sent on a scripted connection. -/
def sendOnLink (s : Stage) (n : Nat) (link : Link) (frame : Frame) : Stage :=
  let s := s.say (.sent n frame)
  if link.failSend then s.emit link.transport (.failed (.send "broken pipe"))
  else s.modifyLink n fun l => { l with frames := l.frames ++ [frame] }

/-- A scripted connection reports that it has closed, and then has. -/
def reportClosed (s : Stage) (n : Nat) (link : Link) (event : CloseEvent) : Stage :=
  (s.emit link.transport (.closed event)).modifyLink n fun l => { l with ready := .closed }

/-- A scripted connection is asked to close. -/
def closeLink (s : Stage) (n : Nat) (link : Link) (code : Option Nat) (reason : Option String) :
    Stage :=
  let s := s.say (.closeRequest n code reason)
  if link.ready = .closed then s
  else
    match link.closeMode with
    | .hold => s.modifyLink n fun l => { l with ready := .closing }
    | .silent => s.modifyLink n fun l => { l with ready := .closed }
    | .report => s.reportClosed n link ⟨code.getD CloseEvent.normalCode, reason, true⟩

/-- The value of a join ref that needs no channel. -/
def joinRefValue : JoinRefSource → Json
  | .value v => v
  | .ofChannel _ => .null

/-- The reply to the last frame that was sent for an event comes. -/
def replyOnLink (s : Stage) (link : Link) (event before status : String) (response : Json)
    (bytes : Option Bytes) : Result × Stage :=
  match SentHead.last? event link.frames with
  | none => (.fault .nothingSent, s)
  | some head =>
    (.nothing, s.emit link.transport (.received (head.reply before status response bytes)))

/-- Something happens on a scripted connection. -/
def actOnLink (s : Stage) (n : Nat) (link : Link) : LinkAct → Result × Stage
  | .opened =>
    (.nothing, (s.modifyLink n fun l => { l with ready := .open }).emit link.transport .opened)
  | .frame frame => (.nothing, s.emit link.transport (.received frame))
  | .message before joinRef rest =>
    let text := before ++ (Json.array (joinRefValue joinRef :: rest)).compact
    (.nothing, s.emit link.transport (.received (.text text)))
  | .reply event before status response bytes =>
    s.replyOnLink link event before status response bytes
  | .failed cause => (.nothing, s.emit link.transport (.failed cause))
  | .closed event => (.nothing, s.reportClosed n link event)
  | .setReady state => (.nothing, s.modifyLink n fun l => { l with ready := state })
  | .setBuffered bytes => (.nothing, s.modifyLink n fun l => { l with buffered := bytes })
  | .setCloseMode mode => (.nothing, s.modifyLink n fun l => { l with closeMode := mode })
  | .setFailSend on => (.nothing, s.modifyLink n fun l => { l with failSend := on })

/-- Something happens on a scripted connection, the newest unless it is told. -/
def actOn (s : Stage) (number : Option Nat) (act : LinkAct) : Result × Stage :=
  let n := number.getD (s.scene.links.length - 1)
  match s.scene.links[n]? with
  | some link => s.actOnLink n link act
  | none => (.fault .noSuchLink, s)

/-! ### Long-poll transports -/

/-- Changes the scripted answers. -/
def modifyHttp (s : Stage) (f : HttpDesk → HttpDesk) : Stage :=
  s.modify fun c => { c with http := f c.http }

/-- Sets a long-poll transport. -/
def setLongPoll (s : Stage) (t : TransportId) (l : LongPoll) : Stage :=
  s.modify fun c => { c with longPolls := c.longPolls.set t l }

/-- Both tasks of a long-poll transport have something to do. -/
def wakeTasks (s : Stage) (t : TransportId) : Stage := (s.wake (.poll t)).wake (.deliver t)

/-- Opens a long-poll transport. -/
def openLongPoll (s : Stage) (r : OpenRequest) : Stage :=
  (s.setLongPoll r.transport (.new r.url r.timeout)).wakeTasks r.transport

/-- A task has gone on: what it reports comes to the queue, and a close ends the other task. -/
def commit (s : Stage) (t : TransportId) (r : List TransportEvent × LongPoll) : Stage :=
  let s := ((s.setLongPoll t r.2).emitAll t r.1).wakeSocket
  if r.2.cancelled then s.wakeTasks t else s

/-- A task of a closed transport ends, and with it its request. -/
def endTasks (s : Stage) (t : TransportId) (l : LongPoll) : Stage :=
  (s.setLongPoll t l.endIfCancelled).modifyHttp fun h =>
    { h with
      waitingPolls := h.waitingPolls.filter (· ≠ t)
      waitingPosts := h.waitingPosts.filter (· ≠ t)
      polled := h.polled.filter (·.1 ≠ t)
      posted := h.posted.filter (·.1 ≠ t) }

/-- Polls as long as there are answers, and then waits for one. -/
def pollWith (t : TransportId) : List HttpResult → Stage → Stage
  | answers, s =>
    match (s.scene.longPolls.get? t).bind LongPoll.startPoll? with
    | none => s.modifyHttp fun h => { h with pollAnswers := answers }
    | some (request, l) =>
      let s := (s.setLongPoll t l).modifyRecord fun r =>
        { r with polls := r.polls ++ [(s.now, request)] }
      match answers with
      | [] => s.modifyHttp fun h =>
        { h with pollAnswers := [], waitingPolls := h.waitingPolls ++ [t] }
      | answer :: rest => pollWith t rest (s.commit t (l.pollAnswered answer))

/-- The answer on its way to the poll of a transport comes. -/
def takePolled (s : Stage) (t : TransportId) (l : LongPoll) : Stage :=
  match s.scene.http.polled.find? (·.1 = t) with
  | none => s
  | some (_, answer) =>
    let s := s.modifyHttp fun h => { h with polled := h.polled.filter (·.1 ≠ t) }
    s.commit t (l.pollAnswered answer)

/-- The polling task goes on. -/
def runPoll (s : Stage) (t : TransportId) : Stage :=
  match s.scene.longPolls.get? t with
  | none => s
  | some l =>
    if l.cancelled then s.endTasks t l
    else
      let s := s.takePolled t l
      pollWith t s.scene.http.pollAnswers s

/-- The answer of a server that accepts a delivery. -/
def accepted : HttpResult := .ok (some (.object [("status", .nat 200)]))

/-- The next answer for a delivery, if there is one already. -/
def takePostAnswer (s : Stage) : Option HttpResult × Stage :=
  match s.scene.http.postAnswers with
  | answer :: rest => (some answer, s.modifyHttp fun h => { h with postAnswers := rest })
  | [] => (if s.scene.http.postAuto then some accepted else none, s)

/-- Delivers a number of frames, as long as there are answers, and then waits for one. -/
def deliverWith (t : TransportId) : Nat → Stage → Stage
  | 0, s => s
  | count + 1, s =>
    match (s.scene.longPolls.get? t).bind LongPoll.startPost? with
    | none => s
    | some (request, l) =>
      let s := (s.setLongPoll t l).modifyRecord fun r =>
        { r with posts := r.posts ++ [(s.now, request)] }
      match s.takePostAnswer with
      | (some answer, s) => deliverWith t count (s.commit t (l.postAnswered answer))
      | (none, s) => s.modifyHttp fun h => { h with waitingPosts := h.waitingPosts ++ [t] }

/-- The answer on its way to the delivery of a transport comes. -/
def takePosted (s : Stage) (t : TransportId) (l : LongPoll) : Stage :=
  match s.scene.http.posted.find? (·.1 = t) with
  | none => s
  | some (_, answer) =>
    let s := s.modifyHttp fun h => { h with posted := h.posted.filter (·.1 ≠ t) }
    s.commit t (l.postAnswered answer)

/-- The delivering task goes on. -/
def runDeliver (s : Stage) (t : TransportId) : Stage :=
  match s.scene.longPolls.get? t with
  | none => s
  | some l =>
    if l.cancelled then s.endTasks t l
    else deliverWith t l.outbound.length (s.takePosted t l)

/-- Whether a transport still waits for its answers. -/
def isAwaiting (s : Stage) (t : TransportId) : Bool :=
  match s.scene.longPolls.get? t with
  | some l => !l.cancelled
  | none => false

/-- An answer for polls: to the oldest that waits, or for the next. -/
def respondToPoll (s : Stage) (answer : HttpResult) : Result × Stage :=
  match s.scene.http.waitingPolls.filter s.isAwaiting with
  | t :: rest =>
    let s := s.modifyHttp fun h =>
      { h with waitingPolls := rest, polled := h.polled ++ [(t, answer)] }
    (.delivered, s.wake (.poll t))
  | [] => (.queued, s.modifyHttp fun h => { h with pollAnswers := h.pollAnswers ++ [answer] })

/-- An answer for deliveries: to the oldest that waits, or for the next. -/
def respondToPost (s : Stage) (answer : HttpResult) : Result × Stage :=
  match s.scene.http.waitingPosts.filter s.isAwaiting with
  | t :: rest =>
    let s := s.modifyHttp fun h =>
      { h with waitingPosts := rest, posted := h.posted ++ [(t, answer)] }
    (.delivered, s.wake (.deliver t))
  | [] => (.queued, s.modifyHttp fun h => { h with postAnswers := h.postAnswers ++ [answer] })

/-- An answer of the script. -/
def respond (s : Stage) (isPost : Bool) (answer : HttpResult) : Result × Stage :=
  if isPost then s.respondToPost answer else s.respondToPoll answer

/-! ### What the socket does -/

/-- A transport is opened. -/
def openTransport (s : Stage) (r : OpenRequest) : Stage :=
  match s.scene.factories.find? fun f => f.factory.number == r.factory.number with
  | none => s
  | some f => if f.longPoll then s.openLongPoll r else s.openLink f r

/-- A frame is handed to a long-poll transport. -/
def sendOnLongPoll (s : Stage) (t : TransportId) (l : LongPoll) (frame : Frame) : Stage :=
  let (events, l) := l.send frame
  ((s.setLongPoll t l).emitAll t events).wake (.deliver t)

/-- A frame is handed to a transport. -/
def sendFrame (s : Stage) (t : TransportId) (frame : Frame) : Stage :=
  match s.linkOf? t with
  | some n =>
    match s.scene.links[n]? with
    | some link => s.sendOnLink n link frame
    | none => s
  | none =>
    match s.scene.longPolls.get? t with
    | some l => s.sendOnLongPoll t l frame
    | none => s

/-- A transport is asked to close. -/
def closeTransport (s : Stage) (t : TransportId) (code : Option Nat) (reason : Option String) :
    Stage :=
  match s.linkOf? t with
  | some n =>
    match s.scene.links[n]? with
    | some link => s.closeLink n link code reason
    | none => s
  | none =>
    match s.scene.longPolls.get? t with
    | some l =>
      let (events, l) := l.close code reason
      ((s.setLongPoll t l).emitAll t events).wakeTasks t
    | none => s

/-- A transport is given up. -/
def releaseTransport (s : Stage) (t : TransportId) : Stage :=
  match s.scene.longPolls.get? t with
  | some l => (s.setLongPoll t l.abandon).wakeTasks t
  | none => s

end Stage

/-- How far a transport of a scene has got. -/
def Scene.readyState (c : Scene) (t : TransportId) : ReadyState :=
  match c.links.find? fun l => l.transport == t with
  | some l => l.ready
  | none =>
    match c.longPolls.get? t with
    | some l => l.ready
    | none => .closed

/-- How many bytes a transport of a scene has taken and not sent. -/
def Scene.buffered (c : Scene) (t : TransportId) : Nat :=
  match c.links.find? fun l => l.transport == t with
  | some l => if l.plain then 0 else l.buffered
  | none => 0

end Simulation

end Switchboard
