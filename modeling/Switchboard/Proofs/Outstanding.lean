import Switchboard.Proofs.Heartbeats

/-!
# One sign of life at a time

Three things make the pace of the signs of life: whether the next one is going to fall due, whether a
reply is timed, and the reply that is awaited.  Opens, closes, messages and the two timers change them,
and nothing else does; what changes them is a sign, and a command brings one sign at most.  So a run
leaves a diary of its signs, and the pace follows from the diary alone.

What is due has nothing to await: the timer is armed only where the awaited reply is forgotten, and a
sign of life that is issued disarms it.  It is armed again by an open or by the reply, so of two signs of
life the second comes after one of these, and a reply is missed only if neither has come.

Main definitions

* `Link.pace`: the pace of a socket;
* `Sign`, `Socket.sign?`: what changes the pace, and what a command brings of it;
* `Pace.next`, `Pace.Allows`: what a sign comes to, and when there may be one;
* `Pace.Follows`, `Pace.Regular`: a pace follows from signs, and what holds of it then;
* `Socket.Diary`: a run and its signs.

Main results

* `Socket.pace_handle`: a command changes the pace as its sign does;
* `Pace.Follows.regular`: what holds of every pace that follows from signs;
* `Socket.one_heartbeat_outstanding`: the same for all that is reachable.
-/

set_option autoImplicit false

namespace Switchboard

/-- The pace of the signs of life. -/
structure Pace where
  /-- The next sign of life is going to fall due. -/
  due : Bool
  /-- The reply is timed. -/
  timed : Bool
  /-- The ref of the reply that is awaited. -/
  awaited : Option Ref
  deriving DecidableEq

/-- What changes the pace of the signs of life. -/
inductive Sign where
  /-- A sign of life with a ref is issued as it falls due. -/
  | issued (ref : Ref)
  /-- A sign of life falls due, but the last one still waits for a connection. -/
  | withheld
  /-- A connection opens that needs signs of life. -/
  | opened
  /-- A message with a ref has come. -/
  | heard (ref : Ref)
  /-- A reply did not come in time, and the connection is torn down. -/
  | missed (ref : Ref)
  /-- The time of a reply is over, but none is awaited. -/
  | lapsed
  /-- The connection has closed, or the socket has ended. -/
  | closed
  deriving DecidableEq

/-- The ref of a sign of life that is issued. -/
def Sign.issued? : Sign → Option Ref
  | .issued ref => some ref
  | _ => none

/-- The ref of the last sign of life that was issued. -/
def lastIssued (signs : List Sign) : Option Ref := (signs.filterMap Sign.issued?).getLast?

/-- The pace of a socket. -/
def Link.pace (l : Link) : Pace :=
  ⟨l.heartbeatTimer.armed, l.heartbeatTimeout.armed, l.pendingHeartbeat⟩

namespace Pace

variable {p q : Pace} {sign : Sign} {signs before between after : List Sign} {ref ref' : Ref}

/-! ### Signs -/

/-- Nothing is due, and no reply is awaited. -/
def rest : Pace := ⟨false, false, none⟩

/-- The next sign of life is due after the interval. -/
def restarted : Pace := ⟨true, false, none⟩

/-- The pace after a sign. -/
def next (p : Pace) : Sign → Pace
  | .issued ref => ⟨false, true, some ref⟩
  | .withheld => { p with due := false }
  | .opened => restarted
  | .heard ref => if p.awaited = some ref then restarted else p
  | .missed _ => { p with timed := false, awaited := none }
  | .lapsed => { p with timed := false }
  | .closed => { p with due := false, timed := false }

/-- A sign may come: only what is due is issued or withheld, and only what is timed is missed or
lapses. -/
def Allows (p : Pace) : Sign → Prop
  | .issued _ | .withheld => p.due = true
  | .missed ref => p.timed = true ∧ p.awaited = some ref
  | .lapsed => p.timed = true
  | .opened | .heard _ | .closed => True

/-- A pace follows from signs that came one after another. -/
inductive Follows : List Sign → Pace → Prop
  | rest : Follows [] rest
  | next {signs : List Sign} {p : Pace} {sign : Sign} (before : Follows signs p)
    (allowed : p.Allows sign) : Follows (signs ++ [sign]) (p.next sign)

/-- Every sign is allowed by the pace that the signs before it lead to. -/
theorem Follows.of_split (h : Follows signs p) (hsigns : signs = before ++ sign :: after) :
    ∃ q, Follows before q ∧ q.Allows sign := by
  induction h generalizing after with
  | rest => simp at hsigns
  | @next earlier q last hearlier allowed ih =>
    rcases List.eq_nil_or_concat after with rfl | ⟨rest, other, rfl⟩
    · obtain ⟨rfl, rfl⟩ := List.append_singleton_inj.1 hsigns
      exact ⟨q, hearlier, allowed⟩
    · rw [List.concat_eq_append, ← List.cons_append, ← List.append_assoc] at hsigns
      exact ih (List.append_singleton_inj.1 hsigns).1

/-! ### What holds of the pace -/

/-- Signs among which nothing is issued, and which do not answer a sign of life. -/
structure Unanswered (ref : Ref) (signs : List Sign) : Prop where
  issued : ∀ ref', .issued ref' ∉ signs
  opened : .opened ∉ signs
  heard : .heard ref ∉ signs

/-- One sign of life is outstanding at most, and a sign that makes the next one due forgets it. -/
structure Regular (signs : List Sign) (p : Pace) : Prop where
  apart : p.due = true → p.timed = false
  idle : p.due = true → p.awaited = none
  timed : p.timed = true → p.awaited.isSome = true
  /-- What is awaited was issued last, and was not answered since. -/
  awaited : ∀ {ref}, p.awaited = some ref →
    ∃ earlier later, signs = earlier ++ .issued ref :: later ∧ Unanswered ref later
  /-- As long as a sign of life is not answered, none is due, and no other reply is awaited. -/
  silent : ∀ {earlier ref later}, signs = earlier ++ .issued ref :: later → .opened ∉ later →
    .heard ref ∉ later →
    Unanswered ref later ∧ p.due = false ∧ (p.awaited = none ∨ p.awaited = some ref)

theorem unanswered_nil (ref : Ref) : Unanswered ref [] := ⟨nofun, nofun, nofun⟩

theorem Unanswered.concat (h : Unanswered ref signs) (hissued : ∀ ref', sign ≠ .issued ref')
    (hopened : sign ≠ .opened) (hheard : sign ≠ .heard ref) : Unanswered ref (signs ++ [sign]) := by
  have hother : ∀ other, other ∉ signs → sign ≠ other → other ∉ signs ++ [sign] :=
    fun other hmem hne => List.not_mem_append hmem fun heq => hne (List.mem_singleton.1 heq).symm
  exact ⟨fun ref' => hother _ (h.issued ref') (hissued ref'), hother _ h.opened hopened,
    hother _ h.heard hheard⟩

theorem regular_rest : Regular [] rest := ⟨nofun, nofun, nofun, nofun, by simp⟩

/-- The three parts of the pace go on to fit together. -/
theorem Regular.next_idle (h : Regular signs p) (sign : Sign) :
    ((p.next sign).due = true → (p.next sign).timed = false ∧ (p.next sign).awaited = none) ∧
      ((p.next sign).timed = true → (p.next sign).awaited.isSome = true) := by
  have hidle : p.due = true → p.timed = false ∧ p.awaited = none :=
    fun hdue => ⟨h.apart hdue, h.idle hdue⟩
  cases sign with
  | issued ref => exact ⟨nofun, fun _ => rfl⟩
  | withheld => exact ⟨nofun, h.timed⟩
  | opened => exact ⟨fun _ => ⟨rfl, rfl⟩, nofun⟩
  | heard ref =>
    unfold next
    dsimp only
    split
    · exact ⟨fun _ => ⟨rfl, rfl⟩, nofun⟩
    · exact ⟨hidle, h.timed⟩
  | missed ref => exact ⟨fun _ => ⟨rfl, rfl⟩, nofun⟩
  | lapsed => exact ⟨fun hdue => ⟨rfl, h.idle hdue⟩, nofun⟩
  | closed => exact ⟨nofun, nofun⟩

/-- A reply that is awaited after a sign was awaited before, or is that of a sign of life just issued. -/
theorem awaited_next (h : (p.next sign).awaited = some ref) :
    sign = .issued ref ∨ p.awaited = some ref ∧ (∀ ref', sign ≠ .issued ref') ∧ sign ≠ .opened ∧
      sign ≠ .heard ref := by
  cases sign with
  | issued ref' =>
    cases h
    exact .inl rfl
  | heard ref' =>
    unfold next at h
    dsimp only at h
    split at h
    · cases h
    · rename_i hother
      refine .inr ⟨h, nofun, nofun, fun heq => ?_⟩
      cases heq
      exact hother h
  | withheld | lapsed | closed => exact .inr ⟨h, nofun, nofun, nofun⟩
  | opened | missed ref' => cases h

theorem Regular.next_awaited (h : Regular signs p) (hawaited : (p.next sign).awaited = some ref) :
    ∃ earlier later, signs ++ [sign] = earlier ++ .issued ref :: later ∧ Unanswered ref later := by
  rcases awaited_next hawaited with rfl | ⟨hbefore, hissued, hopened, hheard⟩
  · exact ⟨signs, [], rfl, unanswered_nil ref⟩
  · obtain ⟨earlier, later, rfl, hlater⟩ := h.awaited hbefore
    exact ⟨earlier, later ++ [sign], by simp, hlater.concat hissued hopened hheard⟩

/-- While a sign of life is not answered, a sign makes none due. -/
theorem silent_next (allowed : p.Allows sign) (hdue : p.due = false)
    (hawaited : p.awaited = none ∨ p.awaited = some ref) (hopened : sign ≠ .opened)
    (hheard : sign ≠ .heard ref) : (∀ ref', sign ≠ .issued ref') ∧ (p.next sign).due = false ∧
      ((p.next sign).awaited = none ∨ (p.next sign).awaited = some ref) := by
  cases sign with
  | issued ref' | withheld => exact absurd (hdue.symm.trans allowed) Bool.false_ne_true
  | opened => exact absurd rfl hopened
  | heard ref' =>
    have hother : p.awaited ≠ some ref' := by
      rcases hawaited with hnone | hsome
      · rw [hnone]
        nofun
      · rw [hsome]
        rintro ⟨⟩
        exact hheard rfl
    rw [next, if_neg hother]
    exact ⟨nofun, hdue, hawaited⟩
  | missed ref' => exact ⟨nofun, hdue, .inl rfl⟩
  | lapsed => exact ⟨nofun, hdue, hawaited⟩
  | closed => exact ⟨nofun, rfl, hawaited⟩

theorem Regular.next_silent (h : Regular signs p) (allowed : p.Allows sign)
    {earlier later : List Sign} (hsigns : signs ++ [sign] = earlier ++ .issued ref :: later)
    (hopened : .opened ∉ later) (hheard : .heard ref ∉ later) :
    Unanswered ref later ∧ (p.next sign).due = false ∧
      ((p.next sign).awaited = none ∨ (p.next sign).awaited = some ref) := by
  rcases List.eq_nil_or_concat later with rfl | ⟨rest, last, rfl⟩
  · obtain ⟨rfl, rfl⟩ := List.append_singleton_inj.1 hsigns
    exact ⟨unanswered_nil ref, rfl, .inr rfl⟩
  · rw [List.concat_eq_append, ← List.cons_append, ← List.append_assoc] at hsigns
    obtain ⟨hbefore, rfl⟩ := List.append_singleton_inj.1 hsigns
    simp only [List.concat_eq_append, List.mem_append, List.mem_singleton, not_or] at hopened hheard
    obtain ⟨hunanswered, hdue, hawaited⟩ := h.silent hbefore hopened.1 hheard.1
    obtain ⟨hissued, hnext⟩ :=
      silent_next allowed hdue hawaited (Ne.symm hopened.2) (Ne.symm hheard.2)
    rw [List.concat_eq_append]
    exact ⟨hunanswered.concat hissued (Ne.symm hopened.2) (Ne.symm hheard.2), hnext⟩

/-- One sign more. -/
theorem Regular.next (h : Regular signs p) (allowed : p.Allows sign) :
    Regular (signs ++ [sign]) (p.next sign) where
  apart hdue := ((h.next_idle sign).1 hdue).1
  idle hdue := ((h.next_idle sign).1 hdue).2
  timed := (h.next_idle sign).2
  awaited := h.next_awaited
  silent := h.next_silent allowed

/-- Every pace that follows from signs is regular. -/
theorem Follows.regular (h : Follows signs p) : Regular signs p := by
  induction h with
  | rest => exact regular_rest
  | next _ allowed ih => exact ih.next allowed

/-- The reply that is timed is that of the sign of life that was issued last. -/
theorem Regular.lastIssued (h : Regular signs p) (htimed : p.timed = true) :
    ∃ ref, p.awaited = some ref ∧ lastIssued signs = some ref := by
  obtain ⟨ref, href⟩ := Option.isSome_iff_exists.1 (h.timed htimed)
  obtain ⟨earlier, later, rfl, hlater⟩ := h.awaited href
  have hnone : later.filterMap Sign.issued? = [] := by
    refine List.filterMap_eq_nil_iff.2 fun sign hmem => ?_
    cases sign with
    | issued ref' => exact absurd hmem (hlater.issued ref')
    | _ => rfl
  exact ⟨ref, href, by simp [Switchboard.lastIssued, hnone, Sign.issued?]⟩

/-- Between two signs of life a connection opens, or a message with the ref of the first has come. -/
theorem Follows.answered (h : Follows signs p)
    (hsigns : signs = before ++ .issued ref :: between ++ .issued ref' :: after) :
    .opened ∈ between ∨ .heard ref ∈ between := by
  obtain ⟨q, hq, hdue⟩ := h.of_split hsigns
  by_contra hneither
  rw [not_or] at hneither
  have hsilent := hq.regular.silent rfl hneither.1 hneither.2
  exact Bool.false_ne_true (hsilent.2.1.symm.trans hdue)

/-- A reply that is missed is that of the last sign of life, and this was not answered. -/
theorem Follows.missed (h : Follows signs p) (hsigns : signs = before ++ .missed ref :: after) :
    ∃ earlier later, before = earlier ++ .issued ref :: later ∧ Unanswered ref later := by
  obtain ⟨q, hq, -, hawaited⟩ := h.of_split hsigns
  exact hq.regular.awaited hawaited

end Pace

/-! ### What leaves the pace as it is -/

namespace Link

theorem pace_dropped (l : Link) : l.dropped.pace = l.pace := by
  unfold dropped
  split <;> rfl

theorem pace_parted (l : Link) : l.parted.pace = l.pace := by
  unfold parted
  split <;> rfl

end Link

/-- The sign of what the transport of a connection reports. -/
def Connection.sign? (c : Connection) : TransportEvent → Option Sign
  | .opened => if c.skipHeartbeat then none else some .opened
  | .received frame => (c.serializer.decode frame).toOption.bind fun m => m.ref.map .heard
  | .closed _ => some .closed
  | .failed _ => none

/-- What a transport reports may come at any pace. -/
theorem Connection.allows_sign {c : Connection} {event : TransportEvent} {sign : Sign}
    (h : c.sign? event = some sign) (p : Pace) : p.Allows sign := by
  cases event with
  | opened =>
    simp only [sign?] at h
    split_ifs at h
    cases h
    trivial
  | received frame =>
    obtain ⟨m, -, hm⟩ := Option.bind_eq_some_iff.mp h
    obtain ⟨ref, -, rfl⟩ := Option.map_eq_some_iff.mp hm
    trivial
  | closed event =>
    cases h
    trivial
  | failed cause => cases h

namespace Socket

variable {ω : Type} [Outside ω]

/-- The sign that a command brings. -/
def sign? (s : Socket ω) : Command → Option Sign
  | .timer (.heartbeatDue generation) =>
    if s.awaits (.heartbeatDue generation) then
      some (if s.pendingHeartbeat.isSome && !s.isConnected then .withheld else .issued s.drawRef.1)
    else none
  | .timer (.heartbeatTimeout generation) =>
    if s.awaits (.heartbeatTimeout generation) then some (s.pendingHeartbeat.elim .lapsed .missed)
    else none
  | .transport t event =>
    match s.conn with
    | some c => if c.transport = t then c.sign? event else none
    | none => none
  | .shutdown => some .closed
  | _ => none

variable {s t : Socket (Recorded ω)} {c : Connection} {cmd : Command} {generation : Nat} {ref : Ref}

omit [Outside ω] in
theorem pace_of_link (h : t.link = s.link) : t.link.pace = s.link.pace := congrArg Link.pace h

theorem pace_connect (s : Socket (Recorded ω)) : s.connect.link.pace = s.link.pace := by
  unfold connect
  split
  · rfl
  · rcases s.config.params.resolve with ⟨value, params⟩
    dsimp only
    split
    · rfl
    · exact (pace_of_link (link_report _ _)).trans rfl

theorem pace_continueWith (s : Socket (Recorded ω)) (k : Continuation) (clock : Nat) :
    (s.continueWith k clock).link.pace = s.link.pace := by
  cases k with
  | connect =>
    simp only [continueWith]
    split
    · exact pace_connect s
    · rfl
  | scheduleReconnect =>
    simp only [continueWith]
    split <;> rfl
  | notify ticket => rfl
  | nothing => rfl

theorem pace_finishTeardown (s : Socket (Recorded ω)) (t : Teardown) :
    (s.finishTeardown t).link.pace = s.link.pace := by
  set s₁ := ({ s with teardown := none }.dropConnection).notifyAll t.waiters with hs₁
  calc (s.finishTeardown t).link.pace
      = (s₁.continueWith t.continuation t.clock).link.pace := rfl
    _ = s₁.link.pace := pace_continueWith _ _ _
    _ = { s.link with teardown := none }.dropped.pace :=
        congrArg Link.pace (link_dropConnection_notifyAll s t.waiters)
    _ = s.link.pace := Link.pace_dropped _

theorem pace_closeConnection (s : Socket (Recorded ω)) (code : Option Nat) (reason : Option String) :
    (s.closeConnection code reason).link.pace = s.link.pace := by
  unfold closeConnection
  split <;> rfl

theorem pace_stepTeardown (s : Socket (Recorded ω)) (t : Teardown) :
    (s.stepTeardown t).link.pace = s.link.pace := by
  unfold stepTeardown
  split
  · split
    · rfl
    · exact pace_closeConnection _ _ _
  · split
    · rfl
    · exact pace_finishTeardown s t

theorem pace_beginTeardown (s : Socket (Recorded ω)) (code : Option Nat) (reason : Option String)
    (k : Continuation) : (s.beginTeardown code reason k).link.pace = s.link.pace := by
  simp only [beginTeardown]
  split
  · have hnotified := pace_of_link (link_notifyAll { s with teardown := none } s.teardownCallers)
    exact (pace_continueWith _ _ _).trans hnotified
  · exact pace_stepTeardown _ _

theorem pace_disconnect (s : Socket (Recorded ω)) (code : Option Nat) (reason : Option String)
    (k : Continuation) : (s.disconnect code reason k).link.pace = s.link.pace :=
  pace_beginTeardown _ _ _ _

theorem pace_teardownTimeout (s : Socket (Recorded ω)) (number generation : Nat) :
    (s.teardownTimeout number generation).link.pace = s.link.pace := by
  unfold teardownTimeout
  split
  · rfl
  · split
    · split
      · exact pace_stepTeardown _ _
      · rfl
    · rfl

theorem pace_pruneRetired (s : Socket (Recorded ω)) : s.pruneRetired.link.pace = s.link.pace := by
  rw [link_pruneRetired]
  rfl

theorem pace_replaceTransport (s : Socket (Recorded ω)) (factory : Factory) :
    (s.replaceTransport factory).link.pace = s.link.pace := by
  rw [link_replaceTransport]
  exact Link.pace_parted _

theorem pace_connectionFailed (s : Socket (Recorded ω)) (cause : TransportError) :
    (s.connectionFailed cause).link.pace = s.link.pace := by
  have hlink := link_runOnErrors (.transport cause) s.callbacks.onError.refs s.errorContext s
  simp only [connectionFailed]
  rcases hrun : s.callbacks.onError.refs.foldl (runOnError (.transport cause)) (s.errorContext, s)
    with ⟨context, s₁⟩
  rw [hrun] at hlink
  have hfallback : (s₁.takeFallback context.fallback).link.pace = s.link.pace := by
    rw [← pace_of_link hlink]
    unfold takeFallback
    split
    · exact (pace_connect _).trans (pace_replaceTransport s₁ _)
    · rfl
  split
  · exact (pace_of_link (link_triggerErrors _)).trans hfallback
  · exact hfallback

theorem pace_pause (s : Socket (Recorded ω)) : s.pause.link.pace = s.link.pace := by
  unfold pause
  split
  · exact pace_disconnect s _ _ _
  · rfl

theorem pace_resume (s : Socket (Recorded ω)) : s.resume.link.pace = s.link.pace := by
  unfold resume
  split
  · exact pace_connect _
  · rfl

/-! ### What changes the pace -/

theorem pace_connectionOpened (hconn : s.conn = some c) : s.connectionOpened.link.pace =
    (c.sign? .opened).elim s.link.pace s.link.pace.next := by
  set s₁ : Socket (Recorded ω) := { s with
    closeWasClean := false, established := min (s.established + 1) attemptLimit } with hs₁
  have hconn₁ : s₁.flush.resetReconnect.conn = some c :=
    (congrArg Link.conn (link_flush s₁)).trans hconn
  have hpace₁ : s₁.flush.link.pace = s₁.link.pace := pace_of_link (link_flush s₁)
  have hopened : s.connectionOpened.link.pace = s₁.flush.resetReconnect.resetHeartbeat.link.pace :=
    pace_of_link (link_foldl link_runOnOpen _ _)
  simp only [hopened, resetHeartbeat, hconn₁, Connection.sign?]
  by_cases hskips : c.skipHeartbeat = true
  · rw [if_pos hskips, if_pos hskips]
    exact hpace₁
  · rw [if_neg hskips, if_neg hskips]
    rfl

theorem pace_connectionClosed (s : Socket (Recorded ω)) (event : CloseEvent) :
    (s.connectionClosed event).link.pace = s.link.pace.next .closed := by
  have hcleared : s.triggerErrors.clearHeartbeats.link.pace = s.link.pace.next .closed :=
    congrArg (fun l : Link => l.pace.next .closed) (link_triggerErrors s)
  refine Eq.trans (pace_of_link (link_foldl (link_runOnClose event) _ _)) ?_
  split <;> exact hcleared

theorem pace_messageReceived (s : Socket (Recorded ω)) (m : Message) :
    (s.messageReceived m).link.pace = (m.ref.map Sign.heard).elim s.link.pace s.link.pace.next := by
  set s₁ := if s.answersHeartbeat m then s.acknowledgeHeartbeat else s with hs₁
  have hdelivered : (s.messageReceived m).link.pace = s₁.link.pace :=
    pace_of_link ((link_foldl (link_runOnMessage m) _ _).trans (link_foldl (link_deliver m) _ _))
  rw [hdelivered, hs₁, answersHeartbeat]
  cases m.ref with
  | none => rfl
  | some ref =>
    simp only [Option.isSome_some, Bool.true_and, Option.map_some, Option.elim_some, Pace.next]
    by_cases hpending : s.pendingHeartbeat = some ref
    · have hawaited : s.link.pace.awaited = some ref := hpending
      rw [hpending, if_pos (beq_self_eq_true _), if_pos hawaited]
      rfl
    · have hawaited : ¬ s.link.pace.awaited = some ref := hpending
      rw [if_neg (by simpa using Ne.symm hpending), if_neg hawaited]

theorem pace_transportEvent (s : Socket (Recorded ω)) (t : TransportId) (event : TransportEvent) :
    (s.transportEvent t event).link.pace =
      (s.sign? (.transport t event)).elim s.link.pace s.link.pace.next := by
  have hconn : s.pruneRetired.conn = s.conn := congrArg Link.conn (link_pruneRetired s)
  simp only [transportEvent, sign?, ← pace_pruneRetired s, ← hconn]
  generalize s.pruneRetired = v
  cases hv : v.conn with
  | none => rfl
  | some c =>
    dsimp only
    split
    · cases event with
      | opened => exact pace_connectionOpened hv
      | failed cause => exact pace_connectionFailed v cause
      | received frame =>
        simp only [frameReceived, Connection.sign?]
        cases c.serializer.decode frame with
        | ok m => exact pace_messageReceived v m
        | error cause => exact pace_of_link (link_report _ _)
      | closed event => exact pace_connectionClosed v event
    · rfl

theorem pace_sendHeartbeat (s : Socket (Recorded ω)) : s.sendHeartbeat.link.pace =
    if s.pendingHeartbeat.isSome && !s.isConnected then s.link.pace
    else ⟨s.heartbeatTimer.armed, true, some s.drawRef.1⟩ := by
  unfold sendHeartbeat
  split
  · rfl
  · set s₁ : Socket (Recorded ω) := { s.drawRef.2 with pendingHeartbeat := some s.drawRef.1 }
    have hkept : (s₁.pushMessage .socket (.heartbeat s.drawRef.1)).link = s₁.link :=
      link_pushMessage _ _ _
    exact congrArg (fun l : Link => (⟨l.heartbeatTimer.armed, true, l.pendingHeartbeat⟩ : Pace)) hkept

theorem pace_heartbeatDue (s : Socket (Recorded ω)) (generation : Nat) :
    (s.heartbeatDue generation).link.pace =
      (s.sign? (.timer (.heartbeatDue generation))).elim s.link.pace s.link.pace.next := by
  rcases Option.eq_none_or_eq_some (s.heartbeatTimer.accept generation) with hdue | ⟨timer, hdue⟩
  · simp only [heartbeatDue, sign?, awaits, hdue]
    rfl
  · simp only [heartbeatDue, sign?, awaits, hdue, Option.isSome_some, if_true, Option.elim_some]
    obtain ⟨-, -, rfl⟩ := TimerSlot.accept_eq_some_iff.mp hdue
    refine (pace_sendHeartbeat { s with heartbeatTimer := s.heartbeatTimer.cancel }).trans ?_
    by_cases hwaits : (s.pendingHeartbeat.isSome && !s.isConnected) = true
    · rw [if_pos hwaits]
      exact if_pos hwaits
    · rw [if_neg hwaits]
      exact if_neg hwaits

theorem pace_loseConnection (s : Socket (Recorded ω)) :
    s.loseConnection.link.pace = { s.link.pace with awaited := none } :=
  (pace_beginTeardown _ _ _ _).trans
    (pace_of_link (link_triggerErrors { s with pendingHeartbeat := none }))

theorem pace_heartbeatTimeoutDue (s : Socket (Recorded ω)) (generation : Nat) :
    (s.heartbeatTimeoutDue generation).link.pace =
      (s.sign? (.timer (.heartbeatTimeout generation))).elim s.link.pace s.link.pace.next := by
  rcases Option.eq_none_or_eq_some (s.heartbeatTimeout.accept generation) with hlate | ⟨timer, hlate⟩
  · simp only [heartbeatTimeoutDue, sign?, awaits, hlate]
    rfl
  · simp only [heartbeatTimeoutDue, sign?, awaits, hlate, Option.isSome_some, if_true, Option.elim_some]
    obtain ⟨-, -, rfl⟩ := TimerSlot.accept_eq_some_iff.mp hlate
    rcases Option.eq_none_or_eq_some s.pendingHeartbeat with hpending | ⟨ref, hpending⟩
    · simp only [hpending, Option.isSome_none, Bool.false_eq_true, if_false, Option.elim_none]
      simp only [Link.pace, Pace.next, link, hpending, TimerSlot.cancel]
    · simp only [hpending, Option.isSome_some, if_true, Option.elim_some]
      exact pace_loseConnection _

theorem pace_shutdown (s : Socket (Recorded ω)) : s.shutdown.link.pace = s.link.pace.next .closed := by
  obtain ⟨due, timeout, es, -, ⟨hdue, htimeout⟩, hlink⟩ := link_shutdown s
  rw [hlink]
  simp only [Link.pace, Pace.next, hdue, htimeout]

/-- A command changes the pace as its sign does, and not at all if it brings none. -/
theorem pace_handle (s : Socket (Recorded ω)) (cmd : Command) :
    (s.handle cmd).link.pace = (s.sign? cmd).elim s.link.pace s.link.pace.next := by
  cases cmd with
  | connect => exact pace_connect s
  | disconnect code reason done => exact pace_disconnect s _ _ _
  | replaceTransport factory => exact pace_replaceTransport s factory
  | pause => exact pace_pause s
  | resume => exact pace_resume s
  | register occasion ref callback => rfl
  | off refs => exact pace_of_link (link_off s refs)
  | ping ticket =>
    simp only [handle, ping]
    split
    · rfl
    · exact pace_of_link ((link_drawRef _).trans (link_pushMessage s.drawRef.2 _ _))
  | askReadyState ticket => rfl
  | askReconnectTries ticket => rfl
  | askEstablished ticket => rfl
  | createChannel c topic params => rfl
  | channel c op => exact pace_of_link (link_channelOp s c op)
  | dropChannel c => exact pace_of_link (link_dropChannel s c)
  | transport t event => exact pace_transportEvent s t event
  | timer event =>
    cases event with
    | heartbeatDue generation => exact pace_heartbeatDue s generation
    | heartbeatTimeout generation => exact pace_heartbeatTimeoutDue s generation
    | reconnect generation =>
      simp only [handle, timerEvent]
      split
      · exact pace_beginTeardown _ _ _ _
      · rfl
    | rejoin c generation => exact pace_of_link (link_rejoinTimeout s c generation)
    | pushTimeout c p generation => exact pace_of_link (link_pushTimeout s c p generation)
    | teardown number generation => exact pace_teardownTimeout s number generation
  | shutdown => exact pace_shutdown s

/-! ### What signs stand for -/

/-- A firing that is accepted is that of a timer that is armed. -/
theorem armed_of_accepts {slot : TimerSlot} (h : (slot.accept generation).isSome = true) :
    slot.armed = true := by
  obtain ⟨timer, htimer⟩ := Option.isSome_iff_exists.mp h
  exact (TimerSlot.accept_eq_some_iff.mp htimer).1

theorem sign?_eq_missed_iff : s.sign? (.timer (.heartbeatTimeout generation)) = some (.missed ref) ↔
    s.awaits (.heartbeatTimeout generation) = true ∧ s.pendingHeartbeat = some ref := by
  simp only [sign?]
  split
  · rename_i hlate
    cases s.pendingHeartbeat <;> simp [hlate]
  · rename_i hstale
    simp [hstale]

/-- Only what is due is issued, and only what is timed is missed. -/
theorem allows_sign {sign : Sign} (h : s.sign? cmd = some sign) : s.link.pace.Allows sign := by
  unfold sign? at h
  split at h
  · split_ifs at h with hdue hwaits
    · cases h
      exact armed_of_accepts hdue
    · cases h
      exact armed_of_accepts hdue
  · split_ifs at h with hlate
    have htimed : s.heartbeatTimeout.armed = true := armed_of_accepts hlate
    cases hpending : s.pendingHeartbeat with
    | none =>
      rw [hpending] at h
      cases h
      exact htimed
    | some ref =>
      rw [hpending] at h
      cases h
      exact ⟨htimed, hpending⟩
  · split at h
    · split_ifs at h
      exact Connection.allows_sign h _
    · cases h
  · cases h
    trivial
  · cases h

/-! ### Diaries -/

/-- A run, and the signs that its commands brought. -/
inductive Diary (s : Socket (Recorded ω)) : List Sign → Socket (Recorded ω) → Prop
  | start : Diary s [] s
  | surroundings {signs : List Sign} {t : Socket (Recorded ω)} {x : Exchange}
    (before : Diary s signs t) (acts : t.exchange.Acts x) (o : ω) :
    Diary s signs { t with exchange := x, outside := ⟨o, t.log, t.dealings⟩ }
  /-- The socket takes the first command of its queue. -/
  | take {signs : List Sign} {t : Socket (Recorded ω)} {cmd : Command} {x : Exchange}
    (before : Diary s signs t) (next : t.exchange.next? = some (cmd, x)) :
    Diary s (signs ++ ({ t with exchange := x }.sign? cmd).toList) ({ t with exchange := x }.handle cmd)
  /-- The socket is given up. -/
  | abandon {signs : List Sign} {t : Socket (Recorded ω)} (before : Diary s signs t) :
    Diary s (signs ++ [.closed]) t.shutdown

variable {signs : List Sign}

/-- Every run leaves a diary. -/
theorem Run.diary (h : Run (fun _ _ => True) s t) : ∃ signs, Diary s signs t := by
  induction h with
  | refl => exact ⟨[], .start⟩
  | tail _ step ih =>
    obtain ⟨signs, hsigns⟩ := ih
    cases step with
    | surroundings acts o => exact ⟨signs, hsigns.surroundings acts o⟩
    | take next _ => exact ⟨_, hsigns.take next⟩
    | abandon => exact ⟨_, hsigns.abandon⟩

/-- Every diary is that of a run. -/
theorem Diary.run (h : Diary s signs t) : Run (fun _ _ => True) s t := by
  induction h with
  | start => exact .refl
  | surroundings _ acts o ih => exact ih.tail (.surroundings acts o)
  | take _ next ih => exact ih.tail (.take next trivial)
  | abandon _ ih => exact ih.tail (.abandon _)

/-- The pace follows from the diary. -/
theorem Diary.follows (h : Diary s signs t) (hs : s.link.pace = .rest) :
    Pace.Follows signs t.link.pace := by
  induction h with
  | start =>
    rw [hs]
    exact .rest
  | surroundings _ _ _ ih => exact ih
  | @take signs t cmd x _ _ ih =>
    rw [pace_handle]
    cases hsign : ({ t with exchange := x } : Socket (Recorded ω)).sign? cmd with
    | none =>
      rw [Option.toList_none, List.append_nil]
      exact ih
    | some sign =>
      have hallowed := allows_sign hsign
      exact ih.next hallowed
  | abandon _ ih =>
    rw [pace_shutdown]
    exact ih.next trivial

theorem Diary.trans {u : Socket (Recorded ω)} {signs' : List Sign} (h : Diary s signs t)
    (h' : Diary t signs' u) : Diary s (signs ++ signs') u := by
  induction h' with
  | start => rwa [List.append_nil]
  | surroundings _ acts o ih => exact ih.surroundings acts o
  | take _ next ih =>
    rw [← List.append_assoc]
    exact ih.take next
  | abandon _ ih =>
    rw [← List.append_assoc]
    exact ih.abandon

/-! ### At most one -/

/-- Where a sign of life falls due it is issued and handed over, or nothing changes but its timer. -/
theorem handle_heartbeatDue (s : Socket (Recorded ω)) (generation : Nat) :
    (∃ (ref : Ref) (v : Socket (Recorded ω)),
      s.sign? (.timer (.heartbeatDue generation)) = some (.issued ref) ∧
      s.handle (.timer (.heartbeatDue generation)) =
        (v.pushMessage .socket (.heartbeat ref)).armHeartbeatTimeout) ∨
    (∀ ref, s.sign? (.timer (.heartbeatDue generation)) ≠ some (.issued ref)) ∧
      ∃ timer, s.handle (.timer (.heartbeatDue generation)) = { s with heartbeatTimer := timer } := by
  simp only [handle, timerEvent, heartbeatDue, sign?, awaits]
  rcases Option.eq_none_or_eq_some (s.heartbeatTimer.accept generation) with hdue | ⟨timer, hdue⟩
  · simp only [hdue]
    exact .inr ⟨by simp, _, rfl⟩
  · simp only [hdue, Option.isSome_some, if_true, sendHeartbeat]
    by_cases hwaits : (s.pendingHeartbeat.isSome && !s.isConnected) = true
    · rw [if_pos hwaits]
      exact .inr ⟨by simp, timer, if_pos hwaits⟩
    · rw [if_neg hwaits]
      exact .inl ⟨_, _, rfl, if_neg hwaits⟩

/-- The time of a reply tears a connection down just if the reply is missed. -/
theorem seeks_iff_missed (s : Socket (Recorded ω)) (generation : Nat) :
    Seeks s (.timer (.heartbeatTimeout generation)) .scheduleReconnect ↔
      ∃ ref, s.sign? (.timer (.heartbeatTimeout generation)) = some (.missed ref) := by
  simp only [sign?_eq_missed_iff, awaits]
  constructor
  · intro h
    cases h with
    | loses late awaited =>
      obtain ⟨ref, href⟩ := Option.isSome_iff_exists.mp awaited
      exact ⟨ref, by rw [late]; rfl, href⟩
  · rintro ⟨ref, hlate, href⟩
    obtain ⟨timer, htimer⟩ := Option.isSome_iff_exists.mp hlate
    exact .loses htimer (by rw [href]; rfl)

/-- One sign of life is outstanding at most, after the signs of a diary. -/
structure Paced (signs : List Sign) (t : Socket (Recorded ω)) : Prop where
  /-- The next sign of life does not fall due while a reply is timed. -/
  apart : ¬ (t.heartbeatTimer.armed = true ∧ t.heartbeatTimeout.armed = true)
  idle : t.heartbeatTimer.armed = true → t.pendingHeartbeat = none
  /-- The reply that is timed is that of the sign of life that was issued last. -/
  last : t.heartbeatTimeout.armed = true →
    ∃ ref, t.pendingHeartbeat = some ref ∧ lastIssued signs = some ref
  /-- Between two signs of life a connection opens, or a message with the ref of the first has come. -/
  answered : ∀ before between after ref ref',
    signs = before ++ .issued ref :: between ++ .issued ref' :: after →
      .opened ∈ between ∨ .heard ref ∈ between
  /-- Since the sign of life whose reply is missed, neither has come, and no other one was issued. -/
  missed : ∀ before after ref, signs = before ++ .missed ref :: after →
    ∃ earlier later, before = earlier ++ .issued ref :: later ∧ Pace.Unanswered ref later

theorem Diary.paced (h : Diary s signs t) (hs : s.link.pace = .rest) : Paced signs t := by
  have hfollows : Pace.Follows signs t.link.pace := h.follows hs
  have hregular := hfollows.regular
  refine ⟨fun ⟨hdue, htimed⟩ => ?_, hregular.idle, hregular.lastIssued,
    fun _ _ _ _ _ => hfollows.answered, fun _ _ _ => hfollows.missed⟩
  exact Bool.false_ne_true ((hregular.apart hdue).symm.trans htimed)

/-- At all times one sign of life is outstanding at most.  The runs are those that leave a diary, and by
their signs they are paced: the two timers are never armed together, nothing is awaited while the next
sign of life is going to fall due, and a reply that is timed is that of the last one.  Between two signs
of life the first is answered or a connection opens, and a reply that is missed had not come since.  A
sign of life that falls due is issued and handed over, or nothing changes but its timer; and the time of
a reply tears the connection down just if the reply is missed. -/
theorem one_heartbeat_outstanding (endpoint : String) (config : Config) (factory : Factory)
    (outside : ω) :
    (∀ t : Socket (Recorded ω),
      Run (fun _ _ => True) (Socket.new endpoint config factory ⟨outside, [], []⟩) t ↔
      ∃ signs, Diary (Socket.new endpoint config factory ⟨outside, [], []⟩) signs t) ∧
    (∀ (signs : List Sign) (t : Socket (Recorded ω)),
      Diary (Socket.new endpoint config factory ⟨outside, [], []⟩) signs t → Paced signs t) ∧
    ∀ (s : Socket (Recorded ω)) (generation : Nat),
      ((∃ (ref : Ref) (v : Socket (Recorded ω)),
          s.sign? (.timer (.heartbeatDue generation)) = some (.issued ref) ∧
          s.handle (.timer (.heartbeatDue generation)) =
            (v.pushMessage .socket (.heartbeat ref)).armHeartbeatTimeout) ∨
        (∀ ref, s.sign? (.timer (.heartbeatDue generation)) ≠ some (.issued ref)) ∧
          ∃ timer, s.handle (.timer (.heartbeatDue generation)) = { s with heartbeatTimer := timer }) ∧
      (Seeks s (.timer (.heartbeatTimeout generation)) .scheduleReconnect ↔
        ∃ ref, s.sign? (.timer (.heartbeatTimeout generation)) = some (.missed ref)) :=
  ⟨fun _ => ⟨Run.diary, fun ⟨_, h⟩ => h.run⟩, fun _ _ h => h.paced rfl,
    fun s generation => ⟨handle_heartbeatDue s generation, seeks_iff_missed s generation⟩⟩

/-! ### Diaries of scripts -/

/-- Plays a script; gives back the signs of its commands, and what has become of the socket. -/
def signed? : List Deed → Socket (Recorded Idle) → Option (List Sign × Socket (Recorded Idle))
  | [], s => some ([], s)
  | .acts f _ :: rest, s => signed? rest { s with exchange := f s.exchange }
  | .become o :: rest, s => signed? rest { s with outside := ⟨o, s.log, s.dealings⟩ }
  | .take :: rest, s =>
    match s.exchange.next? with
    | none => none
    | some (cmd, x) => (signed? rest ({ s with exchange := x }.handle cmd)).map fun r =>
      (({ s with exchange := x }.sign? cmd).toList ++ r.1, r.2)

/-- A script that can be played is a run with a diary. -/
theorem diary_of_signed? {deeds : List Deed} {s t : Socket (Recorded Idle)} {signs : List Sign}
    (h : signed? deeds s = some (signs, t)) : Diary s signs t := by
  induction deeds generalizing s signs with
  | nil =>
    cases h
    exact .start
  | cons deed rest ih =>
    cases deed with
    | acts f lawful =>
      exact Diary.trans (.surroundings .start (lawful s.exchange) s.outside.outside) (ih h)
    | become o => exact Diary.trans (.surroundings .start .refl o) (ih h)
    | take =>
      simp only [signed?] at h
      split at h
      · cases h
      · rename_i cmd x hnext
        obtain ⟨⟨signs', t'⟩, hrest, heq⟩ := Option.map_eq_some_iff.mp h
        cases heq
        exact Diary.trans (.take .start hnext) (ih hrest)

/-- A connection opens, a sign of life is answered, and another one is issued. -/
def beating : List Deed :=
  connecting ++ [.fire (.heartbeatDue 2), .take, .answer 0 "" "1" "phoenix" Status.ok, .take,
    .fire (.heartbeatDue 5), .take]

/-- The first sign of life is answered and the second one is missed. -/
theorem one_heartbeat_outstanding_beating : ∃ s t : Socket (Recorded Idle),
    Run (fun _ _ => True) ready s ∧
    Diary ready [.opened, .issued "1", .heard "1", .issued "2"] s ∧
    s.heartbeatTimeout.armed = true ∧ s.heartbeatTimer.armed ≠ true ∧
    (∃ ref, s.pendingHeartbeat = some ref ∧
      lastIssued [.opened, .issued "1", .heard "1", .issued "2"] = some ref) ∧
    (.opened ∈ [Sign.heard "1"] ∨ .heard "1" ∈ [Sign.heard "1"]) ∧
    Diary ready [.opened, .issued "1", .heard "1", .issued "2", .missed "2"] t ∧
    ∃ earlier later, [.opened, .issued "1", .heard "1", .issued "2"] = earlier ++ .issued "2" :: later ∧
      Pace.Unanswered "2" later := by
  obtain ⟨⟨signs, s⟩, hs, hview⟩ := Option.map_eq_some_iff.mp
    (show (signed? beating ready).map (fun r => (r.1, r.2.heartbeatTimeout.armed)) =
      some ([.opened, .issued "1", .heard "1", .issued "2"], true) by cbv)
  obtain ⟨⟨signs', t⟩, ht, rfl⟩ := Option.map_eq_some_iff.mp
    (show (signed? (beating ++ [.fire (.heartbeatTimeout 4), .take]) ready).map Prod.fst =
      some [.opened, .issued "1", .heard "1", .issued "2", .missed "2"] by cbv)
  simp only [Prod.mk.injEq] at hview
  obtain ⟨rfl, htimed⟩ := hview
  have hdiary : Diary ready _ s := diary_of_signed? hs
  have hdiary' : Diary ready _ t := diary_of_signed? ht
  obtain ⟨hruns, hpaced, -⟩ := one_heartbeat_outstanding "ws://example.test/socket" .standard
    ⟨0, "standard", false, false⟩ (⟨.connecting, 0⟩ : Idle)
  have hregular := hpaced _ s hdiary
  exact ⟨s, t, (hruns s).mpr ⟨_, hdiary⟩, hdiary, htimed, fun hdue => hregular.apart ⟨hdue, htimed⟩,
    hregular.last htimed, hregular.answered [.opened] [.heard "1"] [] "1" "2" rfl, hdiary',
    (hpaced _ t hdiary').missed [.opened, .issued "1", .heard "1", .issued "2"] [] "2" rfl⟩

end Socket

end Switchboard
