import Switchboard.Proofs.Teardowns

/-!
# Signs of life and their connection

The timers of signs of life, and the reply that is awaited, belong to the socket, not to a connection.
They are put to rest when the connection reports that it has closed; a connection that is replaced does
not, and one that is torn down need not.  So a sign of life keeps to a connection that needs it, and its
reply is missed only there, as long as they are at rest when another connection takes its place.

Main definitions

* `Link.Spared`: no sign of life is due where none is needed;
* `Link.Times`: the reply to a sign of life is timed while a connection is held;
* `Socket.Tactful`, `Socket.Attuned`: signs of life are at rest when they have to be;
* `Socket.Hands`, `Socket.Misses`: a sign of life is handed over, and its reply is missed.

Main results

* `Socket.Run.spared`: a transport that needs no signs of life is spared them;
* `Socket.Run.hands`: where a reply is timed, its sign of life was handed to the connection;
* `Socket.heartbeats_keep_to_connection`: both for all that is reachable.
-/

set_option autoImplicit false

namespace Switchboard

/-- To accept a message moves no transport. -/
class Unmoved (ω : Type) [Outside ω] : Prop where
  accept : ∀ (sender : Sender) (m : Message) (x : Exchange) (o : ω) (t : TransportId),
    Outside.readyState (Outside.perform (.accept sender m) x o).2 t = Outside.readyState o t

namespace Link

/-- Connections are of the kind that is in place, and where it needs no signs of life, none is due and
no reply is awaited. -/
structure Spared (l : Link) : Prop where
  kind : ∀ ⦃c⦄, l.conn = some c → c.skipHeartbeat = l.factory.skipHeartbeat
  due : l.factory.skipHeartbeat = true → l.heartbeatTimer.armed = false
  awaited : l.factory.skipHeartbeat = true → l.pendingHeartbeat = none

/-- The reply to a sign of life is timed while a connection is held. -/
structure Times (l : Link) (ref : Ref) (c : Connection) : Prop where
  timed : l.heartbeatTimeout.armed = true
  awaited : l.pendingHeartbeat = some ref
  conn : l.conn = some c

variable {l : Link}

theorem Spared.dropped (h : l.Spared) : l.dropped.Spared := by
  unfold Link.dropped
  split
  · exact h
  · exact ⟨nofun, h.due, h.awaited⟩

theorem Spared.parted (h : l.Spared) : l.parted.Spared := by
  unfold Link.parted
  split
  · exact h
  · exact ⟨nofun, h.due, h.awaited⟩

/-- A connection that needs signs of life, or a reply that is awaited, shows that they are needed. -/
theorem Spared.needed (h : l.Spared)
    (hcause : (∃ c, l.conn = some c ∧ c.skipHeartbeat = false) ∨ l.pendingHeartbeat.isSome = true) :
    l.factory.skipHeartbeat = false := by
  rcases hcause with ⟨c, hc, hneeds⟩ | hawaited
  · exact (h.kind hc).symm.trans hneeds
  · by_contra hskips
    rw [h.awaited (by simpa using hskips)] at hawaited
    cases hawaited

theorem not_times_of_disarmed {ref : Ref} {c : Connection} (h : l.heartbeatTimeout.armed = false) :
    ¬ l.Times ref c :=
  fun htimes => Bool.false_ne_true (h.symm.trans htimes.timed)

theorem not_times_of_vacant {ref : Ref} {c : Connection} (h : l.conn = none) : ¬ l.Times ref c :=
  fun htimes => Option.some_ne_none c (htimes.conn.symm.trans h)

end Link

namespace Socket

variable {ω : Type} [Outside ω]
variable {s t u : Socket (Recorded ω)} {cmd : Command} {l l' : Link} {ref : Ref} {c : Connection}
variable {generation : Nat}

/-! ### Transports that need no signs of life -/

/-- A transport that needs no signs of life takes the place of another one only while none is due and no
reply is awaited. -/
def Tactful (s : Socket (Recorded ω)) (cmd : Command) : Prop :=
  ∀ factory, cmd = .replaceTransport factory ∨ s.fallback? cmd = some factory →
    factory.skipHeartbeat = true → s.heartbeatTimer.armed = false ∧ s.pendingHeartbeat = none

theorem tactful_of_not_replaces (h : ¬ Replaces s cmd) : Tactful s cmd := by
  intro factory hchosen
  exact absurd (hchosen.imp (fun hcmd => ⟨factory, hcmd⟩) fun hchoice => ⟨factory, hchoice⟩) h

theorem not_replaces_shutdown (s : Socket (Recorded ω)) : ¬ Replaces s .shutdown :=
  not_replaces_of_ne nofun rfl

omit [Outside ω] in
/-- What becomes of signs of life keeps them from transports that need none. -/
theorem Pulse.spared {due timeout : TimerSlot} {pending : Option Ref}
    (h : Pulse s cmd l due timeout pending) (hs : s.link.Spared) (hl : l.Spared) :
    { l with heartbeatTimer := due, heartbeatTimeout := timeout, pendingHeartbeat := pending }.Spared := by
  cases h with
  | subsides sooner later awaited =>
    refine ⟨hl.kind, fun hskips => ?_, fun hskips => ?_⟩
    · rcases sooner with rfl | hdisarmed
      · exact hl.due hskips
      · exact hdisarmed
    · rcases awaited with rfl | rfl
      · exact hl.awaited hskips
      · rfl
  | restarts quiet cause =>
    have hneeded := hl.needed cause
    exact ⟨hl.kind, fun hskips => absurd (hneeded.symm.trans hskips) (by decide),
      fun hskips => absurd (hneeded.symm.trans hskips) (by decide)⟩
  | issues command due factory =>
    have hneeded : ¬ l.factory.skipHeartbeat = true := by
      intro hskips
      rw [factory] at hskips
      have hunarmed : s.heartbeatTimer.armed = false := hs.due hskips
      rw [hunarmed] at due
      cases due
    exact ⟨hl.kind, fun hskips => absurd hskips hneeded, fun hskips => absurd hskips hneeded⟩

theorem Shift.spared (h : Shift s cmd l l') (hcmd : Tactful s cmd) (hs : s.link.Spared)
    (hl : l.Spared) : l'.Spared := by
  cases h with
  | beats due timeout pending pulse => exact pulse.spared hs hl
  | prunes | opens | schedules | fires | turns | pauses | resumes | loses | begins | drops | looks
  | closes | readies => exact ⟨hl.kind, hl.due, hl.awaited⟩
  | finishes => exact Link.Spared.dropped ⟨hl.kind, hl.due, hl.awaited⟩
  | connects summons vacant number transport skips =>
    refine ⟨?_, hl.due, hl.awaited⟩
    rintro c ⟨⟩
    exact skips
  | retires => exact Link.Spared.parted ⟨hl.kind, hl.due, hl.awaited⟩
  | replaces replaces factory chosen vacant due awaited =>
    refine ⟨fun c hc => ?_, fun hskips => ?_, fun hskips => ?_⟩
    · cases vacant.symm.trans hc
    · exact (congrArg TimerSlot.armed due).trans (hcmd factory chosen hskips).1
    · exact awaited.trans (hcmd factory chosen hskips).2
  | ends command due timeout silent disarmed =>
    exact ⟨nofun, fun _ => disarmed.1, hl.awaited⟩

/-- Transports that need no signs of life are spared them. -/
theorem Run.spared {admits : Socket (Recorded ω) → Command → Prop} (h : Run admits s t)
    (hadmits : ∀ s cmd, admits s cmd → Tactful s cmd) (hs : s.link.Spared) : t.link.Spared := by
  refine h.keeps_link hs fun {v cmd _ _} hv hcmd shift hl => shift.spared ?_ hv hl
  rcases hcmd with hadmitted | rfl
  · exact hadmits _ _ hadmitted
  · exact tactful_of_not_replaces (not_replaces_shutdown v)

theorem Reachable.spared (h : Reachable Tactful s) : s.link.Spared := by
  obtain ⟨endpoint, config, factory, outside, run⟩ := h
  exact run.spared (fun _ _ => id) ⟨nofun, fun _ => rfl, fun _ => rfl⟩

theorem spared_handle (hcmd : Tactful s cmd) (hs : s.link.Spared) : (s.handle cmd).link.Spared :=
  (shifts_handle s cmd).keeps hs fun shift hl => shift.spared hcmd hs hl

/-- The kind of transports stays as it is where none is replaced. -/
theorem Shift.factory_eq (h : Shift s cmd l l') (hcmd : ¬ Replaces s cmd) : l'.factory = l.factory := by
  cases h with
  | finishes =>
    unfold Link.dropped
    split <;> rfl
  | retires replaces | replaces replaces => exact absurd replaces hcmd
  | _ => rfl

theorem factory_handle (hcmd : ¬ Replaces s cmd) : (s.handle cmd).factory = s.factory :=
  (shifts_handle s cmd).keeps (I := fun l => l.factory = s.factory) rfl
    fun shift hl => (shift.factory_eq hcmd).trans hl

theorem Run.factory_eq (h : Run (fun v cmd => ¬ Replaces v cmd) s t) : t.factory = s.factory := by
  refine h.keeps_link (I := fun l => l.factory = s.factory) rfl
    fun {v cmd _ _} _ hcmd shift hl => (shift.factory_eq ?_).trans hl
  rcases hcmd with hadmitted | rfl
  · exact hadmitted
  · exact not_replaces_shutdown v

/-! ### Replies that are missed -/

/-- A transport is opened only while no reply is timed, and a sign of life is issued only over an open
connection. -/
structure Attuned (s : Socket (Recorded ω)) (cmd : Command) : Prop where
  opens : Asks s cmd ∨ Continues s cmd .connect → s.heartbeatTimeout.armed = false
  issues : ∀ generation, cmd = .timer (.heartbeatDue generation) →
    s.awaits (.heartbeatDue generation) = true → s.isConnected = true ∨ s.pendingHeartbeat.isSome = true

theorem attuned_shutdown (s : Socket (Recorded ω)) : Attuned s .shutdown where
  opens h := by
    rcases h with asks | ⟨⟨⟩, _⟩
    exact absurd asks (not_asks_of_ne nofun nofun rfl)
  issues _ h := by cases h

/-- While a command is carried out that issues no sign of life, no reply comes to be timed. -/
theorem Shift.times (h : Shift s cmd l l') (hcmd : Attuned s cmd)
    (hother : ∀ generation, cmd ≠ .timer (.heartbeatDue generation))
    (hl : (l.heartbeatTimeout.armed = true → s.heartbeatTimeout.armed = true) ∧
      (l.Times ref c → s.link.Times ref c)) :
    (l'.heartbeatTimeout.armed = true → s.heartbeatTimeout.armed = true) ∧
      (l'.Times ref c → s.link.Times ref c) := by
  have hdisarmed : ∀ {l : Link}, l.heartbeatTimeout.armed = false →
      (l.heartbeatTimeout.armed = true → s.heartbeatTimeout.armed = true) ∧
        (l.Times ref c → s.link.Times ref c) := fun hnone =>
    ⟨fun harmed => absurd (hnone.symm.trans harmed) Bool.false_ne_true,
      fun htimes => absurd htimes (Link.not_times_of_disarmed hnone)⟩
  cases h with
  | beats due timeout pending pulse =>
    cases pulse with
    | subsides sooner later awaited =>
      rcases later with rfl | hnone
      · refine ⟨hl.1, fun htimes => hl.2 ⟨htimes.timed, ?_, htimes.conn⟩⟩
        rcases awaited with rfl | rfl
        · exact htimes.awaited
        · cases htimes.awaited
      · exact hdisarmed hnone
    | restarts quiet cause => exact hdisarmed quiet
    | issues command => exact absurd command (hother _)
  | prunes | opens | schedules | fires | turns | pauses | resumes | loses | begins | drops | looks
  | closes | readies | replaces =>
    exact ⟨hl.1, fun htimes => hl.2 ⟨htimes.timed, htimes.awaited, htimes.conn⟩⟩
  | finishes =>
    refine ⟨?_, fun htimes => absurd htimes (Link.not_times_of_vacant (Link.conn_dropped _))⟩
    unfold Link.dropped
    split <;> exact hl.1
  | connects summons vacant number transport skips =>
    have hrest : s.heartbeatTimeout.armed = false := hcmd.opens (summons.imp And.left And.left)
    refine ⟨hl.1, fun htimes => ?_⟩
    exact absurd (hrest.symm.trans (hl.1 htimes.timed)) Bool.false_ne_true
  | retires =>
    refine ⟨?_, fun htimes => absurd htimes (Link.not_times_of_vacant (Link.conn_parted _))⟩
    unfold Link.parted
    split <;> exact hl.1
  | ends command due timeout silent disarmed => exact hdisarmed disarmed.2

theorem times_handle (hcmd : Attuned s cmd)
    (hother : ∀ generation, cmd ≠ .timer (.heartbeatDue generation))
    (h : (s.handle cmd).link.Times ref c) : s.link.Times ref c :=
  ((shifts_handle s cmd).keeps (I := fun l =>
    (l.heartbeatTimeout.armed = true → s.heartbeatTimeout.armed = true) ∧
      (l.Times ref c → s.link.Times ref c)) ⟨id, id⟩
    fun shift hl => shift.times hcmd hother hl).2 h

/-! ### Handing over -/

/-- A sign of life with a ref is handed to the transport of a connection as it falls due. -/
structure Hands (s : Socket (Recorded ω)) (generation : Nat) (ref : Ref) (c : Connection) : Prop where
  due : s.awaits (.heartbeatDue generation) = true
  conn : s.conn = some c
  connected : s.isConnected = true
  handed : ∃ v : Socket (Recorded ω), v.conn = some c ∧
    s.handle (.timer (.heartbeatDue generation)) =
      (v.transmit (.heartbeat ref)).armHeartbeatTimeout ∧
    ∀ frame, c.serializer.encode (.heartbeat ref) = .ok frame →
      v.transmit (.heartbeat ref) = v.perform (.send c.transport frame)

theorem transmit_of_encode {v : Socket (Recorded ω)} (hconn : v.conn = some c) {m : Message}
    {frame : Frame} (h : c.serializer.encode m = .ok frame) :
    v.transmit m = v.perform (.send c.transport frame) := by
  simp only [transmit, hconn, h]

theorem isConnected_accept [Unmoved ω] (s : Socket (Recorded ω)) (sender : Sender) (m : Message) :
    (s.perform (.accept sender m)).isConnected = s.isConnected := by
  have hsame : (s.perform (.accept sender m)).readyState = s.readyState := by
    unfold readyState
    cases hconn : s.conn with
    | none => simp only [perform, hconn]
    | some c =>
      simp only [perform, hconn]
      exact Unmoved.accept sender m s.exchange s.outside.outside c.transport
  simp only [isConnected, hsame]

/-- The socket when it hands its next sign of life over. -/
def issuing (s : Socket (Recorded ω)) : Socket (Recorded ω) :=
  { s.drawRef.2 with pendingHeartbeat := some s.drawRef.1 }.perform
    (.accept .socket (.heartbeat s.drawRef.1))

theorem link_issuing (s : Socket (Recorded ω)) :
    s.issuing.link = { s.link with pendingHeartbeat := some s.drawRef.1 } :=
  link_perform_eq { s.drawRef.2 with pendingHeartbeat := some s.drawRef.1 } rfl

/-- Over an open connection a sign of life is handed over as it is issued. -/
theorem sendHeartbeat_of_connected [Unmoved ω] (h : s.isConnected = true) :
    s.sendHeartbeat = (s.issuing.transmit (.heartbeat s.drawRef.1)).armHeartbeatTimeout := by
  have haccepted : s.issuing.isConnected = true :=
    (isConnected_accept { s.drawRef.2 with pendingHeartbeat := some s.drawRef.1 } _ _).trans h
  unfold issuing at haccepted ⊢
  simp only [sendHeartbeat, h, Bool.not_true, Bool.and_false, Bool.false_eq_true, if_false,
    pushMessage, haccepted, if_true]

/-- A reply is timed after a sign of life has fallen due: it was so before, or the sign of life is
handed over. -/
theorem times_heartbeatDue [Unmoved ω] (hcmd : Attuned s (.timer (.heartbeatDue generation)))
    (h : (s.handle (.timer (.heartbeatDue generation))).link.Times ref c) :
    s.link.Times ref c ∨ Hands s generation ref c := by
  cases hdue : s.heartbeatTimer.accept generation with
  | none =>
    have hsame : s.handle (.timer (.heartbeatDue generation)) = s := by
      simp only [handle, timerEvent, heartbeatDue, hdue]
    rw [hsame] at h
    exact .inl h
  | some timer =>
    have hawaits : s.awaits (.heartbeatDue generation) = true := by simp [awaits, hdue]
    set s₁ : Socket (Recorded ω) := { s with heartbeatTimer := timer } with hs₁
    have hhandle : s.handle (.timer (.heartbeatDue generation)) = s₁.sendHeartbeat := by
      simp only [handle, timerEvent, heartbeatDue, hdue, hs₁]
    by_cases hskips : (s₁.pendingHeartbeat.isSome && !s₁.isConnected) = true
    · rw [hhandle] at h
      simp only [sendHeartbeat, hskips, if_true] at h
      exact .inl ⟨h.timed, h.awaited, h.conn⟩
    · have hconnected : s₁.isConnected = true := by
        rcases hcmd.issues generation rfl hawaits with hopen | hpending
        · exact hopen
        · have hpending₁ : s₁.pendingHeartbeat.isSome = true := hpending
          simpa [hpending₁] using hskips
      have hsent := hhandle.trans (sendHeartbeat_of_connected hconnected)
      have hkept := (link_transmit s₁.issuing (.heartbeat s₁.drawRef.1)).trans (link_issuing s₁)
      rw [hsent] at h
      have hconn : s.conn = some c := (congrArg Link.conn hkept).symm.trans h.conn
      have hawaited : some s₁.drawRef.1 = some ref :=
        (congrArg Link.pendingHeartbeat hkept).symm.trans h.awaited
      cases hawaited
      have hissuing : s₁.issuing.conn = some c := (congrArg Link.conn (link_issuing s₁)).trans hconn
      exact .inr ⟨hawaits, hconn, hconnected, s₁.issuing, hissuing, hsent, fun _ =>
        transmit_of_encode hissuing⟩

/-! ### Runs -/

/-- Between two states of a run a sign of life was handed to the transport of a connection. -/
def HandedBetween (s t : Socket (Recorded ω)) (ref : Ref) (c : Connection) : Prop :=
  ∃ (w : Socket (Recorded ω)) (x : Exchange) (generation : Nat), Run Attuned s w ∧
    w.exchange.next? = some (.timer (.heartbeatDue generation), x) ∧
    Hands { w with exchange := x } generation ref c ∧
    Run Attuned ({ w with exchange := x }.handle (.timer (.heartbeatDue generation))) t

theorem HandedBetween.tail (h : HandedBetween s t ref c) (step : Step Attuned t u) :
    HandedBetween s u ref c := by
  obtain ⟨w, x, generation, hw, hnext, hhands, hrest⟩ := h
  exact ⟨w, x, generation, hw, hnext, hhands, hrest.tail step⟩

/-- The sign of life whose reply is timed was handed to the connection that is held. -/
theorem Run.handedBetween [Unmoved ω] (h : Run Attuned s t) (hs : s.heartbeatTimeout.armed = false)
    (ht : t.link.Times ref c) : HandedBetween s t ref c := by
  induction h with
  | refl => exact absurd ht (Link.not_times_of_disarmed hs)
  | @tail u v run last ih =>
    cases last with
    | surroundings acts o => exact (ih ht).tail (.surroundings acts o)
    | @take cmd x next admitted =>
      by_cases hdue : ∃ generation, cmd = .timer (.heartbeatDue generation)
      · obtain ⟨generation, rfl⟩ := hdue
        rcases times_heartbeatDue admitted ht with htimes | hhands
        · exact (ih htimes).tail (.take next admitted)
        · exact ⟨u, x, generation, run, next, hhands, .refl⟩
      · have htimes := times_handle admitted (fun generation heq => hdue ⟨generation, heq⟩) ht
        exact (ih htimes).tail (.take next admitted)
    | abandon => exact (ih (times_handle (attuned_shutdown u) nofun ht)).tail (.abandon u)

/-- The sign of life whose reply is awaited was handed to the transport of a connection. -/
def HandedOver (s : Socket (Recorded ω)) (c : Connection) : Prop :=
  ∃ endpoint config factory outside ref, s.pendingHeartbeat = some ref ∧
    HandedBetween (Socket.new endpoint config factory ⟨outside, [], []⟩) s ref c

theorem Reachable.handedOver [Unmoved ω] (h : Reachable Attuned s)
    (hlate : Seeks s (.timer (.heartbeatTimeout generation)) .scheduleReconnect)
    (hconn : s.conn = some c) : s.HandedOver c := by
  obtain ⟨endpoint, config, factory, outside, run⟩ := h
  cases hlate with
  | loses late awaited =>
    obtain ⟨ref, href⟩ := Option.isSome_iff_exists.mp awaited
    have htimed : s.heartbeatTimeout.armed = true := (TimerSlot.accept_eq_some_iff.mp late).1
    exact ⟨endpoint, config, factory, outside, ref, href, run.handedBetween rfl ⟨htimed, href, hconn⟩⟩

/-- Where a sign of life falls due, it is needed, and as long as no transport takes the place of another
one, it is needed on. -/
theorem Reachable.needed (h : Reachable Tactful s) (hdue : s.awaits (.heartbeatDue generation) = true)
    (hu : u = s ∨ Run (fun v cmd => ¬ Replaces v cmd)
      (s.handle (.timer (.heartbeatDue generation))) u) (hconn : u.conn = some c) :
    c.skipHeartbeat = false := by
  have hs := h.spared
  have hneeded : s.factory.skipHeartbeat = false := by
    by_contra hskips
    have hspared : s.factory.skipHeartbeat = true := by simpa using hskips
    have hdisarmed : s.heartbeatTimer.armed = false := hs.due hspared
    simp [awaits, TimerSlot.accept, hdisarmed] at hdue
  rcases hu with rfl | hrun
  · exact (hs.kind hconn).trans hneeded
  · have hcmd : ¬ Replaces s (.timer (.heartbeatDue generation)) := not_replaces_of_tearsDown rfl
    have hfactory : u.factory = s.factory := hrun.factory_eq.trans (factory_handle hcmd)
    have hu := hrun.spared (fun _ _ => tactful_of_not_replaces)
      (spared_handle (tactful_of_not_replaces hcmd) hs)
    have hkind : c.skipHeartbeat = u.factory.skipHeartbeat := hu.kind hconn
    rw [hkind, hfactory, hneeded]

/-- Signs of life keep to their connection.  Where transports that need none take the place of others
only while none is due and no reply is awaited, a sign of life never falls due over such a transport, and
none is opened while the sign of life may still wait; what waits is forgotten where a transport takes the
place of another.  Where transports are opened only while no reply is timed, and signs of life are issued
over open connections only, a missed reply tears down only the transport to which the sign of life was
handed. -/
theorem heartbeats_keep_to_connection [Unmoved ω] :
    (∀ (s u : Socket (Recorded ω)) (generation : Nat) (c : Connection), Reachable Tactful s →
      s.awaits (.heartbeatDue generation) = true →
      u = s ∨ Run (fun v cmd => ¬ Replaces v cmd)
        (s.handle (.timer (.heartbeatDue generation))) u →
      u.conn = some c → c.skipHeartbeat = false) ∧
    (∀ (s : Socket (Recorded ω)) (waiting : List Message) (factory : Factory),
      { s with sendBuffer := waiting }.replaceTransport factory = s.replaceTransport factory) ∧
    ∀ (s : Socket (Recorded ω)) (generation : Nat) (c : Connection), Reachable Attuned s →
      Seeks s (.timer (.heartbeatTimeout generation)) .scheduleReconnect → s.conn = some c →
      s.HandedOver c :=
  ⟨fun _ _ _ _ hs hdue hu hconn => hs.needed hdue hu hconn, fun _ _ _ => rfl,
    fun _ _ _ hs hlate hconn => hs.handedOver hlate hconn⟩

/-! ### Signs of life in scripts -/

instance : Unmoved Idle where
  accept _ _ _ _ _ := rfl

/-- The commands of a script by which no transport takes the place of another one. -/
def keepsKind (_ : Socket (Recorded Idle)) : Command → Bool
  | .replaceTransport _ | .transport _ (.failed _) => false
  | _ => true

theorem not_replaces_of_keepsKind (s : Socket (Recorded Idle)) (cmd : Command)
    (h : s.keepsKind cmd = true) : ¬ Replaces s cmd := by
  unfold keepsKind at h
  split at h
  · cases h
  · cases h
  · rename_i hreplace hfailed
    refine not_replaces_of_ne hreplace ?_
    unfold fallback?
    split
    · exact absurd rfl (hfailed _ _)
    · rfl

/-- The commands of a script in which signs of life are issued over open connections, and transports are
asked for while no reply is timed. -/
def attuned (s : Socket (Recorded Idle)) : Command → Bool
  | .connect => !s.heartbeatTimeout.armed
  | .timer (.heartbeatDue _) => s.isConnected
  | .transport _ .opened => true
  | _ => false

theorem attuned_of_attuned (s : Socket (Recorded Idle)) (cmd : Command)
    (h : s.attuned cmd = true) : Attuned s cmd := by
  unfold attuned at h
  split at h
  · exact ⟨fun _ => by simpa using h, nofun⟩
  · refine ⟨?_, fun _ _ _ => .inl h⟩
    rintro (asks | ⟨⟨⟩, _⟩)
    exact absurd asks (not_asks_of_ne nofun nofun rfl)
  · refine ⟨?_, nofun⟩
    rintro (asks | ⟨⟨⟩, _⟩)
    exact absurd asks (not_asks_of_ne nofun nofun rfl)
  · cases h

/-- A sign of life waits while the connection is lost and made up for, and the reply to another one is
missed. -/
theorem heartbeats_keep_to_connection_missed : ∃ (s u t : Socket (Recorded Idle)) (c d : Connection),
    Reachable Tactful s ∧ s.awaits (.heartbeatDue 2) = true ∧
    Run (fun v cmd => ¬ Replaces v cmd) (s.handle (.timer (.heartbeatDue 2))) u ∧
    u.sendBuffer.map Message.event = [Event.heartbeat] ∧ u.conn = some c ∧ c.transport = 1 ∧
    c.skipHeartbeat = false ∧
    Reachable Attuned t ∧ Seeks t (.timer (.heartbeatTimeout 2)) .scheduleReconnect ∧
    t.conn = some d ∧ t.HandedOver d := by
  obtain ⟨s, hs, hview⟩ := reachable_of_play?
    (fun s cmd h => tactful_of_not_replaces (not_replaces_of_keepsKind s cmd h))
    (show (ready.play? keepsKind (connecting ++ [.become ⟨.closed, 0⟩])).map (fun s =>
        (s.awaits (.heartbeatDue 2), ((s.handle (.timer (.heartbeatDue 2))).play? keepsKind
          [.report 0 (.closed ⟨1006, none, false⟩), .take, .fire (.reconnect 2), .take,
            .fire (.teardown 0 1), .take]).map fun u : Socket (Recorded Idle) =>
              (u.sendBuffer.map Message.event, u.conn.map (·.transport)))) =
      some (true, some ([Event.heartbeat], some 1)) by cbv)
  obtain ⟨t, ht, hview'⟩ := reachable_of_play? attuned_of_attuned
    (show (ready.play? attuned (connecting ++ [.fire (.heartbeatDue 2), .take])).map (fun t =>
        ((t.heartbeatTimeout.accept 2).isSome, t.pendingHeartbeat.isSome, t.conn.isSome)) =
      some (true, true, true) by cbv)
  simp only [Prod.mk.injEq] at hview hview'
  obtain ⟨hdue, hafter⟩ := hview
  obtain ⟨hlate, hawaited, hheld⟩ := hview'
  obtain ⟨u, hplay, hview⟩ := Option.map_eq_some_iff.mp hafter
  simp only [Prod.mk.injEq] at hview
  obtain ⟨hwaits, hconn⟩ := hview
  obtain ⟨c, hc, hsecond⟩ := Option.map_eq_some_iff.mp hconn
  obtain ⟨d, hd⟩ := Option.isSome_iff_exists.mp hheld
  obtain ⟨timer, htimer⟩ := Option.isSome_iff_exists.mp hlate
  have hrun := run_of_play? not_replaces_of_keepsKind hplay
  have hseeks : Seeks t (.timer (.heartbeatTimeout 2)) .scheduleReconnect := .loses htimer hawaited
  obtain ⟨hneeded, -, hhanded⟩ := heartbeats_keep_to_connection (ω := Idle)
  exact ⟨s, u, t, c, d, hs, hdue, hrun, hwaits, hc, hsecond, hneeded s u 2 c hs hdue (.inr hrun) hc,
    ht, hseeks, hd, hhanded t 2 d ht hseeks hd⟩

/-- Transports that need no signs of life. -/
def sparing : Factory := ⟨1, "sparing", false, true⟩

/-- Signs of life have to be at rest where the transport is replaced: one falls due over a transport that
needs none. -/
theorem heartbeat_due_over_sparing_transport : ∃ (s : Socket (Recorded Idle)) (c : Connection),
    Reachable (fun _ _ => True) s ∧ s.awaits (.heartbeatDue 2) = true ∧ s.isConnected = true ∧
    s.conn = some c ∧ c.skipHeartbeat = true := by
  obtain ⟨s, hs, hview⟩ := reachable_of_play? of_admitsAll
    (show (ready.play? admitsAll (connecting ++ [.post (.replaceTransport sparing) fun _ => rfl, .take,
        .connect, .take, .report 1 .opened, .take])).map (fun s =>
        (s.awaits (.heartbeatDue 2), s.isConnected, s.conn.map (·.skipHeartbeat))) =
      some (true, true, some true) by cbv)
  simp only [Prod.mk.injEq] at hview
  obtain ⟨hdue, hconnected, hconn⟩ := hview
  obtain ⟨c, hc, hskips⟩ := Option.map_eq_some_iff.mp hconn
  exact ⟨s, c, hs, hdue, hconnected, hc, hskips⟩

/-- No reply may be timed where a transport is opened: the reply to a sign of life that was handed to one
transport is missed on another one, which is asked to close. -/
theorem heartbeat_missed_on_other_transport : ∃ (s : Socket (Recorded Idle)) (c : Connection),
    Reachable (fun _ _ => True) s ∧ s.conn = some c ∧ c.transport = 1 ∧
    Seeks s (.timer (.heartbeatTimeout 2)) .scheduleReconnect ∧
    (s.handle (.timer (.heartbeatTimeout 2))).dealings.getLast? =
      some (.close 1 (some CloseEvent.normalCode) (some "heartbeat timeout")) := by
  obtain ⟨s, hs, hview⟩ := reachable_of_play? of_admitsAll
    (show (ready.play? admitsAll (connecting ++ [.fire (.heartbeatDue 2), .take,
        .post (.replaceTransport ⟨0, "standard", false, false⟩) fun _ => rfl, .take,
        .connect, .take])).map (fun s =>
        (s.conn.map (·.transport), (s.heartbeatTimeout.accept 2).isSome, s.pendingHeartbeat.isSome,
          (s.handle (.timer (.heartbeatTimeout 2))).dealings.getLast?)) =
      some (some 1, true, true,
        some (.close 1 (some CloseEvent.normalCode) (some "heartbeat timeout"))) by cbv)
  simp only [Prod.mk.injEq] at hview
  obtain ⟨hconn, hlate, hawaited, hlast⟩ := hview
  obtain ⟨c, hc, hsecond⟩ := Option.map_eq_some_iff.mp hconn
  obtain ⟨timer, htimer⟩ := Option.isSome_iff_exists.mp hlate
  exact ⟨s, c, hs, hc, hsecond, .loses htimer hawaited, hlast⟩

end Socket

end Switchboard
