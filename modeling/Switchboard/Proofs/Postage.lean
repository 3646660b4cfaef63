import Switchboard.Proofs.Chores

/-!
# What the surroundings see of mails

The record of what a socket asks of its surroundings tells which messages were accepted, which frames
were handed to transports, and which error callbacks heard that a message could not be encoded.  Handing
a message over costs its postage: one frame for the transport of the connection, or one call of each of
the user's error callbacks.

Only chores that accept a message, send those that wait, or forget them leave a trace of mails.

Main definitions

* `Socket.accepted`: the messages that were accepted, in their order;
* `Socket.handedOver`: frames for transports and reports of messages that could not be encoded;
* `Socket.postage`: what it takes to hand a message over.

Main results

* `Socket.calls_transmit`, `Socket.calls_flush`: messages are handed over for their postage;
* `Socket.Chore.mail`: what each chore does to mails.
-/

set_option autoImplicit false

namespace Switchboard

/-- The message that is accepted by a call. -/
def Call.accepted? : Call → Option Message
  | .effect (.accept _ m) => some m
  | _ => none

/-- A call by which a frame is handed over, or an error callback hears of an encoding that failed. -/
def Call.isPostal : Call → Bool
  | .effect (.send ..) | .error _ (.codec _) => true
  | _ => false

namespace Socket

variable {ω : Type}

/-- The messages that were accepted, in their order. -/
def accepted (s : Socket (Watched ω)) : List Message := s.calls.filterMap Call.accepted?

/-- The frames that were handed to transports, and the reports of messages that could not be encoded. -/
def handedOver (s : Socket (Watched ω)) : List Call := s.calls.filter Call.isPostal

/-- What it takes to hand a message over: one frame for the transport of the connection, or one report
to each of the user's error callbacks. -/
def postage (s : Socket ω) (m : Message) : List Call :=
  match s.conn with
  | none => []
  | some c =>
    match c.serializer.encode m with
    | .ok frame => [.effect (.send c.transport frame)]
    | .error cause => s.callbacks.userErrors.map fun callback => .error callback (.codec cause)

theorem postage_congr {s t : Socket ω} (hconn : t.conn = s.conn) (hcallbacks : t.callbacks = s.callbacks)
    (m : Message) : t.postage m = s.postage m := by
  simp only [postage, hconn, hcallbacks]

/-- Nothing that is done for a postage accepts a message, and all of it is postal. -/
theorem mem_postage {s : Socket ω} {m : Message} {call : Call} (h : call ∈ s.postage m) :
    call.accepted? = none ∧ call.isPostal = true := by
  unfold postage at h
  split at h
  · cases h
  · split at h
    · rw [List.mem_singleton.mp h]
      exact ⟨rfl, rfl⟩
    · obtain ⟨callback, -, rfl⟩ := List.mem_map.mp h
      exact ⟨rfl, rfl⟩

theorem accepted_of_calls {s t : Socket (Watched ω)} {calls : List Call}
    (h : t.calls = s.calls ++ calls) : t.accepted = s.accepted ++ calls.filterMap Call.accepted? := by
  rw [accepted, h, List.filterMap_append]
  rfl

theorem handedOver_of_calls {s t : Socket (Watched ω)} {calls : List Call}
    (h : t.calls = s.calls ++ calls) : t.handedOver = s.handedOver ++ calls.filter Call.isPostal := by
  rw [handedOver, h, List.filter_append]
  rfl

/-- The postages of messages, as the record shows them. -/
theorem filter_postages (s : Socket ω) (ms : List Message) :
    (ms.flatMap s.postage).filterMap Call.accepted? = [] ∧
      (ms.flatMap s.postage).filter Call.isPostal = ms.flatMap s.postage := by
  have hall : ∀ call ∈ ms.flatMap s.postage, call.accepted? = none ∧ call.isPostal = true := by
    intro call hcall
    obtain ⟨m, -, hm⟩ := List.mem_flatMap.mp hcall
    exact mem_postage hm
  exact ⟨List.filterMap_eq_nil_iff.mpr fun call hcall => (hall call hcall).1,
    List.filter_eq_self.mpr fun call hcall => (hall call hcall).2⟩

section Outside

variable [Outside ω] {w s t : Socket (Watched ω)} {cmd : Command} {m : Message}

/-! ### Handing over -/

/-- Reports change nothing but the surroundings and what is shared with them. -/
theorem report_eq {ω : Type} [Outside ω] (s : Socket ω) (failure : SocketError) : s.report failure =
    { s with exchange := (s.report failure).exchange, outside := (s.report failure).outside } := by
  have hrun : ∀ (registry : Registry OnError) (context : ErrorContext) (s : Socket ω),
      runErrors failure registry context s = { s with
        exchange := (runErrors failure registry context s).exchange
        outside := (runErrors failure registry context s).outside } := by
    intro registry
    induction registry with
    | nil => exact fun _ _ => rfl
    | cons entry rest ih =>
      intro context s
      obtain ⟨ref, callback | channel⟩ := entry
      · exact ih _ (s.runError callback failure context).2
      · exact ih context s
  exact hrun _ _ s

/-- Each of the user's error callbacks is called once. -/
theorem calls_report (s : Socket (Watched ω)) (failure : SocketError) : (s.report failure).calls =
    s.calls ++ s.callbacks.userErrors.map fun callback => .error callback failure := by
  have hrun : ∀ (registry : Registry OnError) (context : ErrorContext) (s : Socket (Watched ω)),
      (runErrors failure registry context s).calls = s.calls ++
        (registry.filterMap fun e => e.2.user?).map fun callback => .error callback failure := by
    intro registry
    induction registry with
    | nil => exact fun _ _ => (List.append_nil _).symm
    | cons entry rest ih =>
      intro context s
      obtain ⟨ref, callback | channel⟩ := entry
      · refine (ih _ (s.runError callback failure context).2).trans ?_
        have hcall : (s.runError callback failure context).2.calls =
            s.calls ++ [.error callback failure] := rfl
        rw [hcall, List.append_assoc]
        rfl
      · exact ih context s
  exact hrun _ _ s

/-- To hand a message over changes nothing but the surroundings and what is shared with them. -/
theorem transmit_eq {ω : Type} [Outside ω] (s : Socket ω) (m : Message) : s.transmit m =
    { s with exchange := (s.transmit m).exchange, outside := (s.transmit m).outside } := by
  unfold transmit
  split
  · rfl
  · split
    · rfl
    · exact report_eq s _

theorem calls_transmit (s : Socket (Watched ω)) (m : Message) :
    (s.transmit m).calls = s.calls ++ s.postage m := by
  unfold transmit
  split
  · rename_i hconn
    simp only [postage, hconn, List.append_nil]
  · rename_i c hconn
    split
    · rename_i frame hencode
      simp only [postage, hconn, hencode]
      rfl
    · rename_i cause hencode
      simp only [postage, hconn, hencode, calls_report]

/-- Messages that are handed over one after another are handed over to the same transport, for the same
postage. -/
theorem calls_transmits (s : Socket (Watched ω)) (ms : List Message) :
    (ms.foldl transmit s).calls = s.calls ++ ms.flatMap s.postage := by
  induction ms generalizing s with
  | nil => exact (List.append_nil _).symm
  | cons m ms ih =>
    have hsame : (s.transmit m).postage = s.postage := by
      funext m'
      exact postage_congr (by rw [transmit_eq]) (by rw [transmit_eq]) m'
    rw [List.foldl_cons, ih, calls_transmit, hsame, List.flatMap_cons, List.append_assoc]

theorem transmits_eq {ω : Type} [Outside ω] (s : Socket ω) (ms : List Message) :
    ms.foldl transmit s = { s with
      exchange := (ms.foldl transmit s).exchange, outside := (ms.foldl transmit s).outside } := by
  induction ms generalizing s with
  | nil => rfl
  | cons m ms ih =>
    rw [List.foldl_cons, ih, transmit_eq s m]

/-! ### Messages that wait -/

/-- Without a connection, or without messages, there is nothing to send. -/
theorem flush_of_idle {ω : Type} [Outside ω] {s : Socket ω}
    (h : (!s.isConnected || s.sendBuffer.isEmpty) = true) : s.flush = s := if_pos h

/-- All messages that wait are handed over in their order, and none is left. -/
theorem calls_flush (h : (!s.isConnected || s.sendBuffer.isEmpty) = false) :
    s.flush.calls = s.calls ++ s.sendBuffer.flatMap s.postage ∧ s.flush.sendBuffer = [] := by
  have hflush : s.flush = s.sendBuffer.foldl transmit { s with sendBuffer := [] } := by
    rw [flush, h]
    rfl
  rw [hflush]
  refine ⟨calls_transmits _ _, ?_⟩
  rw [transmits_eq]

/-- A message that is accepted while the connection is open is handed over at once. -/
theorem pushMessage_of_connected {sender : Sender}
    (h : (s.perform (.accept sender m)).isConnected = true) :
    (s.pushMessage sender m).calls = s.calls ++ .effect (.accept sender m) :: s.postage m ∧
      (s.pushMessage sender m).sendBuffer = s.sendBuffer := by
  have hpush : s.pushMessage sender m = (s.perform (.accept sender m)).transmit m := if_pos h
  have hcall : (s.perform (.accept sender m)).calls = s.calls ++ [.effect (.accept sender m)] := rfl
  rw [hpush, calls_transmit, hcall, List.append_assoc]
  refine ⟨rfl, ?_⟩
  rw [transmit_eq]
  rfl

/-- A message that is accepted without an open connection waits behind the others. -/
theorem pushMessage_of_not_connected {sender : Sender}
    (h : ¬ (s.perform (.accept sender m)).isConnected = true) :
    (s.pushMessage sender m).calls = s.calls ++ [.effect (.accept sender m)] ∧
      (s.pushMessage sender m).sendBuffer = s.sendBuffer ++ [m] := by
  have hpush : s.pushMessage sender m = { s.perform (.accept sender m) with
      sendBuffer := (s.perform (.accept sender m)).sendBuffer ++ [m] } := if_neg h
  rw [hpush]
  exact ⟨rfl, rfl⟩

/-! ### Chores -/

/-- Nothing has happened to any mail. -/
structure Mute (s t : Socket (Watched ω)) : Prop where
  accepted : t.accepted = s.accepted
  handedOver : t.handedOver = s.handedOver
  sendBuffer : t.sendBuffer = s.sendBuffer

omit [Outside ω] in
theorem mute_of_call {call : Call} (hcalls : t.calls = s.calls ++ [call])
    (haccepted : call.accepted? = none) (hpostal : call.isPostal = false)
    (hbuffer : t.sendBuffer = s.sendBuffer) : Mute s t := by
  refine ⟨?_, ?_, hbuffer⟩
  · rw [accepted_of_calls hcalls]
    simp [haccepted]
  · rw [handedOver_of_calls hcalls]
    simp [hpostal]

omit [Outside ω] in
theorem mute_of_eq (hcalls : t.calls = s.calls) (hbuffer : t.sendBuffer = s.sendBuffer) : Mute s t :=
  ⟨congrArg (List.filterMap Call.accepted?) hcalls, congrArg (List.filter Call.isPostal) hcalls, hbuffer⟩

theorem mute_perform {e : Effect} (he : e.isPostal = false) : Mute s (s.perform e) := by
  refine mute_of_call (calls_perform s e) ?_ ?_ rfl
  · cases e <;> first | rfl | cases he
  · cases e <;> first | rfl | cases he

/-- What a chore does to mails: nothing, or a message is accepted, or those that wait are sent, or they
are forgotten as the transport is supplanted. -/
inductive Mails (w : Socket (Watched ω)) (cmd : Command) (s : Socket (Watched ω)) :
    Socket (Watched ω) → Prop
  | mute {t : Socket (Watched ω)} (mute : Mute s t) : Mails w cmd s t
  | push (sender : Sender) (m : Message) : Mails w cmd s (s.pushMessage sender m)
  | flush : Mails w cmd s s.flush
  | forget {t : Socket (Watched ω)} (supplants : Supplants w cmd) (accepted : t.accepted = s.accepted)
    (handedOver : t.handedOver = s.handedOver) (sendBuffer : t.sendBuffer = []) : Mails w cmd s t

theorem Chore.mail (h : Chore w cmd s t) : Mails w cmd s t := by
  cases h with
  | draws draws => exact .mute (mute_of_eq rfl rfl)
  | offstage offstage =>
    exact .mute (mute_of_eq (congrArg Watched.calls offstage.outside) offstage.sendBuffer)
  | registers users => exact .mute (mute_of_eq rfl rfl)
  | enlists occasion ref callback => exact .mute (mute_of_eq rfl rfl)
  | removes refs => exact .mute (mute_of_eq rfl rfl)
  | perform other => exact .mute (mute_perform other)
  | hook callback event payload ref => exact .mute (mute_of_call rfl rfl rfl rfl)
  | error callback context other =>
    refine .mute (mute_of_call rfl rfl ?_ rfl)
    unfold Call.isPostal
    split
    · rename_i heq
      cases heq
    · rename_i heq
      cases heq
      exact absurd rfl (other _)
    · rfl
  | push sender m => exact .push sender m
  | flush => exact .flush
  | opens vacant url => exact .mute (mute_of_call rfl rfl rfl rfl)
  | parts => exact .mute (mute_of_eq rfl rfl)
  | detaches t => exact .mute (mute_of_eq rfl rfl)
  | replaces supplants => exact .forget supplants rfl rfl rfl
  | shuts => exact .mute (mute_of_eq rfl rfl)

end Outside

end Socket

end Switchboard
