import Mathlib
import Switchboard.Socket.Step

/-!
# What a socket holds of its channels

A socket holds its channels in four places: the order of registration, the channels themselves, and the
two registries in which a channel follows openings and failures of the connection.  All that a command
does to the four together is one of a few things: a channel enters, is struck out when it closes, or is
let go of by its handle; refs are removed; or all channels are forgotten.  Whatever else happens while a
command is carried out, to the pushes and timers of channels, to connections and messages, to callbacks
and hooks, leaves the four alone.

Main definitions

* `Channel.tenure`, `Holdings`, `Socket.holdings`: what is held;
* `Holdings.enter`, `Holdings.strike`, `Holdings.letGo`, `Holdings.shed`, `Holdings.forget`: what can
  become of it;
* `Holdings.Turn`: what a command can make of the holdings;
* `Socket.Yields`: channels are struck out and refs removed, and nothing else.

Main results

* `Socket.holdings_closeChannel`: a channel that closes is struck out;
* `Socket.yields_trigger`, `Socket.yields_rejoin`: an event or a join attempt strikes channels out at
  most;
* `Socket.turn_handle`: what each command makes of the holdings.
-/

set_option autoImplicit false

namespace Switchboard

/-! ### Holdings -/

/-- What there is of a channel apart from its work: its registrations, and whether its handle is gone. -/
structure Tenure where
  refs : List Ref
  orphaned : Bool
  deriving DecidableEq

/-- The tenure of a channel. -/
def Channel.tenure (ch : Channel) : Tenure := ⟨ch.socketRefs, ch.orphaned⟩

@[simp] theorem Channel.tenure_dropBindings? (ch : Channel) (event : Option String) :
    (ch.dropBindings? event).tenure = ch.tenure := by
  cases event <;> rfl

/-- The channel that an entry for openings belongs to. -/
def OnOpen.claim? : OnOpen → Option ChannelId
  | .rejoin c => some c
  | .callback _ => none

/-- The channel that an entry for failures belongs to. -/
def OnError.claim? : OnError → Option ChannelId
  | .resetRejoin c => some c
  | .callback _ => none

namespace Registry

variable {α : Type}

/-- The entries that belong to channels. -/
def claims (claim? : α → Option ChannelId) (registry : Registry α) : List (Ref × ChannelId) :=
  registry.filterMap fun e => (claim? e.2).map (e.1, ·)

theorem mem_claims {claim? : α → Option ChannelId} {registry : Registry α} {r : Ref} {c : ChannelId} :
    (r, c) ∈ registry.claims claim? ↔ ∃ a, (r, a) ∈ registry ∧ claim? a = some c := by
  simp only [claims, List.mem_filterMap, Option.map_eq_some_iff, Prod.exists, Prod.mk.injEq]
  constructor
  · rintro ⟨r', a, hmem, d, hd, rfl, rfl⟩
    exact ⟨a, hmem, hd⟩
  · rintro ⟨a, hmem, hd⟩
    exact ⟨r, a, hmem, c, hd, rfl, rfl⟩

theorem claims_append (claim? : α → Option ChannelId) (registry rest : Registry α) :
    claims claim? (registry ++ rest) = registry.claims claim? ++ Registry.claims claim? rest :=
  List.filterMap_append

/-- Without some refs, the entries of channels are those without the refs. -/
theorem claims_without (claim? : α → Option ChannelId) (registry : Registry α) (refs : List Ref) :
    (registry.without refs).claims claim? =
      (registry.claims claim?).filter fun e => !refs.contains e.1 := by
  induction registry with
  | nil => rfl
  | cons e rest ih =>
    obtain ⟨r, a⟩ := e
    simp only [claims, without] at ih ⊢
    cases hclaim : claim? a <;> by_cases hmem : refs.contains r = true <;> simp_all

end Registry

/-- The entries for failures that belong to channels. -/
def Callbacks.errorClaims (k : Callbacks) : List (Ref × ChannelId) := k.onError.claims OnError.claim?

/-- The entries for openings that belong to channels. -/
def Callbacks.openClaims (k : Callbacks) : List (Ref × ChannelId) := k.onOpen.claims OnOpen.claim?

theorem Callbacks.mem_errorClaims {k : Callbacks} {r : Ref} {c : ChannelId} :
    (r, c) ∈ k.errorClaims ↔ (r, .resetRejoin c) ∈ k.onError := by
  rw [errorClaims, Registry.mem_claims]
  refine ⟨?_, fun h => ⟨_, h, rfl⟩⟩
  rintro ⟨_ | d, hmem, hclaim⟩
  · cases hclaim
  · exact Option.some.inj hclaim ▸ hmem

theorem Callbacks.mem_openClaims {k : Callbacks} {r : Ref} {c : ChannelId} :
    (r, c) ∈ k.openClaims ↔ (r, .rejoin c) ∈ k.onOpen := by
  rw [openClaims, Registry.mem_claims]
  refine ⟨?_, fun h => ⟨_, h, rfl⟩⟩
  rintro ⟨_ | d, hmem, hclaim⟩
  · cases hclaim
  · exact Option.some.inj hclaim ▸ hmem

/-- What a socket holds of its channels. -/
structure Holdings where
  /-- The registered channels. -/
  order : List ChannelId
  /-- The entries of channels for failures, by their refs. -/
  errors : List (Ref × ChannelId)
  /-- The entries of channels for openings, by their refs. -/
  opens : List (Ref × ChannelId)
  /-- The channels that are there. -/
  cores : ChannelId → Option Tenure

namespace Holdings

/-- Entries with some refs are removed. -/
def shed (h : Holdings) (refs : List Ref) : Holdings :=
  { h with
    errors := h.errors.filter fun e => !refs.contains e.1
    opens := h.opens.filter fun e => !refs.contains e.1 }

/-- A channel is forgotten. -/
def erase (h : Holdings) (c : ChannelId) : Holdings :=
  { h with cores := fun d => if d = c then none else h.cores d }

/-- A channel is struck out of the order and the registries; without a handle it is forgotten. -/
def strike (h : Holdings) (c : ChannelId) : Holdings :=
  match h.cores c with
  | none => h
  | some k =>
    let struck := { h.shed k.refs with order := h.order.filter (· ≠ c) }
    if k.orphaned then struck.erase c else struck

/-- A channel enters the order and the registries. -/
def enter (h : Holdings) (c : ChannelId) (onError onOpen : Ref) : Holdings where
  order := h.order ++ [c]
  errors := h.errors ++ [(onError, c)]
  opens := h.opens ++ [(onOpen, c)]
  cores := fun d => if d = c then some ⟨[onError, onOpen], false⟩ else h.cores d

/-- The handle of a channel goes: a channel out of the order is forgotten. -/
def letGo (h : Holdings) (c : ChannelId) : Holdings :=
  if c ∈ h.order then
    { h with cores := fun d =>
        if d = c then (h.cores c).map fun k => { k with orphaned := true } else h.cores d }
  else h.erase c

/-- All channels are forgotten. -/
def forget (h : Holdings) : Holdings := { h with order := [], cores := fun _ => none }

/-- A channel is struck out, or refs are removed. -/
inductive Lapse (h : Holdings) : Holdings → Prop
  | shed (refs : List Ref) : Lapse h (h.shed refs)
  | strike (c : ChannelId) : Lapse h (h.strike c)

/-- Any number of channels are struck out and refs removed. -/
abbrev Lapses : Holdings → Holdings → Prop := Relation.ReflTransGen Lapse

/-- What a command makes of the holdings. -/
inductive Turn (h : Holdings) : Command → Holdings → Prop
  | enter (c : ChannelId) (topic : String) (params : Params) (onError onOpen : Ref) :
    Turn h (.createChannel c topic params) (h.enter c onError onOpen)
  | letGo (c : ChannelId) : Turn h (.dropChannel c) (h.letGo c)
  | forget : Turn h .shutdown h.forget
  | lapse {cmd : Command} {h' : Holdings} (kept : ∀ c, cmd ≠ .dropChannel c)
    (lapses : Lapses h h') : Turn h cmd h'

end Holdings

namespace Socket

variable {ω : Type} {s t u : Socket ω} {c : ChannelId}

/-- What a socket holds of its channels. -/
def holdings (s : Socket ω) : Holdings :=
  ⟨s.order, s.callbacks.errorClaims, s.callbacks.openClaims,
    fun c => (s.channels.get? c).map Channel.tenure⟩

@[simp] theorem order_holdings (s : Socket ω) : s.holdings.order = s.order := rfl

@[simp] theorem cores_holdings (s : Socket ω) (c : ChannelId) :
    s.holdings.cores c = (s.channels.get? c).map Channel.tenure := rfl

/-- Channels are struck out and refs removed; nothing else happens to what the socket holds. -/
def Yields (s t : Socket ω) : Prop := Holdings.Lapses s.holdings t.holdings

theorem Yields.of_eq (h : t.holdings = s.holdings) : Yields s t := by
  rw [Yields, h]

@[refl] theorem Yields.refl (s : Socket ω) : Yields s s := .of_eq rfl

theorem Yields.trans (h : Yields s t) (h' : Yields t u) : Yields s u := Relation.ReflTransGen.trans h h'

/-- What leaves the holdings alone may happen before. -/
theorem Yields.after (h : Yields t u) (heq : t.holdings = s.holdings) : Yields s u :=
  (Yields.of_eq heq).trans h

/-- What leaves the holdings alone may happen afterwards. -/
theorem Yields.before (h : Yields s t) (heq : u.holdings = t.holdings) : Yields s u :=
  h.trans (.of_eq heq)

theorem yields_foldl {α : Type} {f : Socket ω → α → Socket ω} (hf : ∀ s a, Yields s (f s a))
    (l : List α) (s : Socket ω) : Yields s (l.foldl f s) := by
  induction l generalizing s with
  | nil => exact .refl s
  | cons a l ih => exact (hf s a).trans (ih (f s a))

theorem holdings_foldl {α : Type} {f : Socket ω → α → Socket ω}
    (hf : ∀ s a, (f s a).holdings = s.holdings) (l : List α) (s : Socket ω) :
    (l.foldl f s).holdings = s.holdings := by
  induction l generalizing s with
  | nil => rfl
  | cons a l ih => exact (ih (f s a)).trans (hf s a)

/-! ### What leaves the holdings alone -/

/-- A change of a channel that leaves its tenure alone. -/
theorem holdings_modifyChannel (s : Socket ω) (c : ChannelId) {f : Channel → Channel}
    (hf : ∀ ch, (f ch).tenure = ch.tenure) : (s.modifyChannel c f).holdings = s.holdings := by
  have hcores : ∀ d, ((s.channels.modify c f).get? d).map Channel.tenure =
      (s.channels.get? d).map Channel.tenure := by
    intro d
    by_cases hdc : d = c
    · subst hdc
      rw [Table.get?_modify_self, Option.map_map]
      exact congrFun (congrArg _ (funext hf)) _
    · rw [Table.get?_modify_of_ne _ hdc]
  simp only [holdings, modifyChannel, hcores]

@[simp] theorem holdings_modifyPush (s : Socket ω) (c : ChannelId) (p : PushId) (f : Push → Push) :
    (s.modifyPush c p f).holdings = s.holdings :=
  holdings_modifyChannel s c fun _ => rfl

@[simp] theorem holdings_drawRef (s : Socket ω) : s.drawRef.2.holdings = s.holdings := rfl

@[simp] theorem holdings_drawPush (s : Socket ω) (c : ChannelId) :
    (s.drawPush c).2.holdings = s.holdings := rfl

@[simp] theorem holdings_drawBinding (s : Socket ω) (c : ChannelId) :
    (s.drawBinding c).2.holdings = s.holdings := rfl

@[simp] theorem holdings_armPush (s : Socket ω) (c : ChannelId) (p : PushId) (push : Push) :
    (s.armPush c p push).holdings = s.holdings := holdings_modifyPush s c p _

@[simp] theorem holdings_startTimeout (s : Socket ω) (c : ChannelId) (p : PushId) :
    (s.startTimeout c p).holdings = s.holdings := by
  simp only [startTimeout]
  split
  · rfl
  · split
    · rfl
    · rw [holdings_modifyChannel _ _ fun ch => by
        simp only [Channel.bind]
        exact Channel.tenure_dropBindings? ch _]
      simp

@[simp] theorem holdings_resetPush (s : Socket ω) (c : ChannelId) (p : PushId) :
    (s.resetPush c p).holdings = s.holdings := by
  unfold resetPush
  split
  · rfl
  · exact holdings_modifyChannel s c fun ch => Channel.tenure_dropBindings? _ _

@[simp] theorem holdings_releasePush (s : Socket ω) (c : ChannelId) (p : PushId) :
    (s.releasePush c p).holdings = s.holdings := by
  unfold releasePush
  split
  · rfl
  · split
    · rfl
    · split
      · exact holdings_modifyChannel s c fun ch => Channel.tenure_dropBindings? _ _
      · rfl

@[simp] theorem holdings_release (s : Socket ω) (c : ChannelId) (p : PushId) :
    (s.release c p).holdings = s.holdings := by
  unfold release
  split <;> simp

@[simp] theorem holdings_scheduleRejoin (s : Socket ω) (c : ChannelId) :
    (s.scheduleRejoin c).holdings = s.holdings := by
  unfold scheduleRejoin
  split
  · rfl
  · exact holdings_modifyChannel s c fun _ => rfl

@[simp] theorem holdings_markErrored (s : Socket ω) (c : ChannelId) :
    (s.markErrored c).holdings = s.holdings := holdings_modifyChannel s c fun _ => rfl

@[simp] theorem holdings_resetRejoin (s : Socket ω) (c : ChannelId) :
    (s.resetRejoin c).holdings = s.holdings := holdings_modifyChannel s c fun _ => rfl

section Outside

variable [Outside ω]

@[simp] theorem holdings_perform (s : Socket ω) (e : Effect) : (s.perform e).holdings = s.holdings :=
  rfl

@[simp] theorem holdings_performAll (s : Socket ω) (es : List Effect) :
    (s.performAll es).holdings = s.holdings :=
  holdings_foldl holdings_perform es s

@[simp] theorem holdings_discardAll (s : Socket ω) (tickets : List Ticket) :
    (s.discardAll tickets).holdings = s.holdings := holdings_performAll s _

@[simp] theorem holdings_runErrors (failure : SocketError) (registry : Registry OnError)
    (context : ErrorContext) (s : Socket ω) :
    (runErrors failure registry context s).holdings = s.holdings := by
  induction registry generalizing context s with
  | nil => rfl
  | cons entry rest ih =>
    obtain ⟨ref, callback | channel⟩ := entry
    · exact ih _ _
    · exact ih context s

@[simp] theorem holdings_report (s : Socket ω) (failure : SocketError) :
    (s.report failure).holdings = s.holdings := holdings_runErrors _ _ _ s

@[simp] theorem holdings_transmit (s : Socket ω) (m : Message) :
    (s.transmit m).holdings = s.holdings := by
  unfold transmit
  split
  · rfl
  · split <;> simp

@[simp] theorem holdings_pushMessage (s : Socket ω) (sender : Sender) (m : Message) :
    (s.pushMessage sender m).holdings = s.holdings := by
  simp only [pushMessage]
  split
  · simp
  · rfl

@[simp] theorem holdings_flush (s : Socket ω) : s.flush.holdings = s.holdings := by
  unfold flush
  split
  · rfl
  · exact (holdings_foldl holdings_transmit _ _).trans rfl

@[simp] theorem holdings_dispatchPush (s : Socket ω) (c : ChannelId) (p : PushId) :
    (s.dispatchPush c p).holdings = s.holdings := by
  unfold dispatchPush
  split
  · rfl
  · dsimp only
    split
    · exact holdings_modifyChannel s c fun _ => rfl
    · rw [holdings_pushMessage, holdings_modifyPush]
      exact holdings_modifyChannel s c fun _ => rfl

@[simp] theorem holdings_sendPush (s : Socket ω) (c : ChannelId) (p : PushId) :
    (s.sendPush c p).holdings = s.holdings := by
  unfold sendPush
  split
  · rfl
  · split <;> simp

@[simp] theorem holdings_resendPush (s : Socket ω) (c : ChannelId) (p : PushId) (timeout : Nat) :
    (s.resendPush c p timeout).holdings = s.holdings := by
  simp [resendPush]

@[simp] theorem holdings_scheduleRejoinIfConnected (s : Socket ω) (c : ChannelId) :
    (s.scheduleRejoinIfConnected c).holdings = s.holdings := by
  unfold scheduleRejoinIfConnected
  split <;> simp

@[simp] theorem holdings_failChannel (s : Socket ω) (c : ChannelId) :
    (s.failChannel c).holdings = s.holdings := by
  unfold failChannel
  split
  · rfl
  · dsimp only
    split <;> simp

@[simp] theorem holdings_acceptJoin (s : Socket ω) (c : ChannelId) :
    (s.acceptJoin c).holdings = s.holdings := by
  unfold acceptJoin
  split
  · rfl
  · rw [holdings_foldl fun s p => holdings_sendPush s c p]
    exact holdings_modifyChannel s c fun _ => rfl

@[simp] theorem holdings_abandonJoin (s : Socket ω) (c : ChannelId) :
    (s.abandonJoin c).holdings = s.holdings := by
  unfold abandonJoin
  split
  · rfl
  · simp only [holdings_scheduleRejoinIfConnected, holdings_resetPush, holdings_markErrored,
      holdings_sendPush]
    exact holdings_modifyChannel (s.drawPush c).2 c fun _ => rfl

@[simp] theorem holdings_settlePush (s : Socket ω) (c : ChannelId) (p : PushId) (push : Push)
    (reply : Reply) : (s.settlePush c p push reply).holdings = s.holdings := by
  simp only [settlePush, holdings_perform]
  rw [holdings_modifyChannel _ _ fun ch => Channel.tenure_dropBindings? ch _]
  simp

/-! ### Channels that close -/

omit [Outside ω] in
theorem holdings_without (s : Socket ω) (refs : List Ref) :
    { s with callbacks := s.callbacks.without refs }.holdings = s.holdings.shed refs := by
  simp [holdings, Holdings.shed, Callbacks.without, Callbacks.errorClaims, Callbacks.openClaims,
    Registry.claims_without]

theorem holdings_off (s : Socket ω) (refs : List Ref) :
    (s.off refs).holdings = s.holdings.shed refs := by
  rw [off, holdings_performAll, holdings_without]

theorem holdings_eraseChannel (s : Socket ω) (c : ChannelId) :
    (s.eraseChannel c).holdings = s.holdings.erase c := by
  have herase : ∀ t : Table Channel, (fun d => ((t.erase c).get? d).map Channel.tenure) =
      fun d => if d = c then none else (t.get? d).map Channel.tenure := by
    intro t
    funext d
    rw [Table.get?_erase]
    split <;> rfl
  unfold eraseChannel
  split
  · next hnone =>
    -- A channel that is not there cannot be forgotten.
    refine congrArg (Holdings.mk _ _ _) (funext fun d => ?_)
    by_cases hdc : d = c
    · simp [hdc, hnone]
    · simp [hdc, holdings]
  · rw [holdings_discardAll]
    exact congrArg (Holdings.mk _ _ _) (herase s.channels)

omit [Outside ω] in
theorem holdings_unlisted (s : Socket ω) (c : ChannelId) :
    { s with order := s.order.filter (· ≠ c) }.holdings =
      { s.holdings with order := s.holdings.order.filter (· ≠ c) } := rfl

theorem holdings_removeChannel (s : Socket ω) (c : ChannelId) :
    (s.removeChannel c).holdings = s.holdings.strike c := by
  cases hc : s.channels.get? c with
  | none =>
    have hcore : s.holdings.cores c = none := by simp [holdings, hc]
    simp only [removeChannel, Holdings.strike, hc, hcore]
  | some ch =>
    have hcore : s.holdings.cores c = some ch.tenure := by simp [holdings, hc]
    have hstruck := holdings_unlisted (s.off ch.socketRefs) c
    rw [holdings_off] at hstruck
    simp only [removeChannel, Holdings.strike, hc, hcore]
    by_cases horphaned : ch.orphaned = true
    · rw [if_pos horphaned, if_pos (show ch.tenure.orphaned = true from horphaned),
        holdings_eraseChannel, hstruck]
      rfl
    · rw [if_neg horphaned, if_neg (show ¬ch.tenure.orphaned = true from horphaned), hstruck]
      rfl

/-- A channel that closes is struck out. -/
theorem holdings_closeChannel (s : Socket ω) (c : ChannelId) :
    (s.closeChannel c).holdings = s.holdings.strike c := by
  rw [closeChannel, holdings_removeChannel, holdings_modifyChannel]
  exact fun _ => rfl

theorem yields_closeChannel (s : Socket ω) (c : ChannelId) : Yields s (s.closeChannel c) := by
  rw [Yields, holdings_closeChannel]
  exact .single (.strike c)

/-! ### Events of channels -/

/-- Whatever is dispatched strikes channels out at most. -/
def Dispatch.Yielding (dispatch : Dispatch ω) : Prop :=
  ∀ c event payload ref joinRef s, Yields s (dispatch c event payload ref joinRef s)

variable {dispatch : Dispatch ω}

theorem Dispatch.Yielding.react (h : dispatch.Yielding) (c : ChannelId) (reaction : Reaction)
    (s : Socket ω) : Yields s (s.react dispatch c reaction) := by
  cases reaction with
  | joinOk => exact .of_eq (holdings_acceptJoin s c)
  | joinError =>
    simp only [Socket.react]
    split
    · exact .of_eq (by simp)
    · exact .refl s
  | joinTimeout => exact .of_eq (holdings_abandonJoin s c)
  | leaveDone => exact h _ _ _ _ _ s

theorem Dispatch.Yielding.resolvePush (h : dispatch.Yielding) (c : ChannelId) (p : PushId)
    (reply : Reply) (s : Socket ω) : Yields s (s.resolvePush dispatch c p reply) := by
  have hhook : ∀ (s : Socket ω) (index : Nat), Yields s (runReplyHook dispatch c p reply s index) := by
    intro s index
    unfold runReplyHook
    split
    · exact .refl s
    · dsimp only
      split
      · split
        · exact .refl s
        · exact (h.react c _ _).after rfl
      · exact .refl s
  unfold Socket.resolvePush
  split
  · exact .refl s
  · dsimp only
    refine Yields.before ?_ (holdings_releasePush _ c p)
    exact (yields_foldl hhook _ _).after (holdings_settlePush s c p _ reply)

theorem Dispatch.Yielding.runTarget (h : dispatch.Yielding) (c : ChannelId) (event : InboundEvent)
    (target : Target) (s : Socket ω) : Yields s (s.runTarget dispatch c event target) := by
  unfold Socket.runTarget
  split
  · exact .refl s
  · exact .refl s
  · unfold redirect
    split
    · exact h _ _ _ _ _ s
    · exact .refl s
  · split
    · exact h.resolvePush c _ _ s
    · exact .refl s
  · exact yields_closeChannel s c
  · exact .of_eq (holdings_failChannel s c)

theorem holdings_passHook (s : Socket ω) (ch : Channel) (event : String) (payload : Payload)
    (ref : Option Ref) : (s.passHook ch event payload ref).2.holdings = s.holdings := by
  unfold passHook
  split
  · rfl
  · dsimp only
    split
    · rfl
    · split
      · exact holdings_report _ _
      · rfl

theorem Dispatch.Yielding.dispatchWith (h : dispatch.Yielding) : (dispatchWith dispatch).Yielding := by
  intro c event payload ref joinRef s
  unfold Socket.dispatchWith
  split
  · exact .refl s
  · next ch _ =>
    have hhook := holdings_passHook s ch event payload ref
    split
    · next heq => exact .of_eq (by rw [heq] at hhook; exact hhook)
    · next payload' t heq =>
      rw [heq] at hhook
      refine Yields.after ?_ hhook
      unfold runBindings
      split
      · exact .refl t
      · refine yields_foldl (fun s number => ?_) _ t
        unfold runBinding
        split
        · exact h.runTarget c _ _ s
        · exact .refl s

theorem yielding_dispatchTo (n : Nat) : (dispatchTo n : Dispatch ω).Yielding := by
  induction n with
  | zero => exact fun _ _ _ _ _ s => .refl s
  | succ n ih => exact ih.dispatchWith

/-- An event of a channel strikes channels out at most, whatever it leads to. -/
theorem yields_trigger (s : Socket ω) (c : ChannelId) (event : String) (payload : Payload)
    (ref joinRef : Option Ref) : Yields s (s.trigger c event payload ref joinRef) :=
  yielding_dispatchTo 3 _ _ _ _ _ s

theorem yields_triggerErrors (s : Socket ω) : Yields s s.triggerErrors := by
  refine yields_foldl (fun (s : Socket ω) c => ?_) _ s
  split
  · split
    · exact yields_trigger _ _ _ _ _ _
    · exact .refl s
  · exact .refl s

theorem yields_triggerPush (s : Socket ω) (c : ChannelId) (p : PushId) (status : String)
    (response : Payload) : Yields s (s.triggerPush c p status response) := by
  unfold triggerPush
  split
  · exact yields_trigger _ _ _ _ _ _
  · exact .refl s

theorem yields_pushTimeout (s : Socket ω) (c : ChannelId) (p : PushId) (generation : Nat) :
    Yields s (s.pushTimeout c p generation) := by
  unfold pushTimeout
  split
  · exact .refl s
  · exact (yields_triggerPush _ _ _ _ _).after (holdings_modifyPush s c p _)

/-! ### Operations on channels -/

theorem yields_leave (s : Socket ω) (c : ChannelId) (p : PushId) (timeout : Nat) (detached : Bool) :
    Yields s (s.leave c p timeout detached) := by
  unfold leave
  split
  · exact .refl s
  · dsimp only
    generalize hsent : sendPush (modifyChannel s c _) c p = t
    have ht : t.holdings = s.holdings := by
      rw [← hsent, holdings_sendPush]
      exact holdings_modifyChannel s c fun _ => rfl
    split
    · exact .of_eq ht
    · exact (yields_triggerPush t c p _ _).after ht

theorem yields_leaveOpenTopic (s : Socket ω) (topic : String) (c : ChannelId) :
    Yields s (s.leaveOpenTopic topic c) := by
  unfold leaveOpenTopic
  split
  · exact .refl s
  · split
    · exact .refl s
    · exact (yields_leave _ _ _ _ _).after (holdings_drawPush s _)

/-- A join attempt strikes channels out at most: it may take the place of another channel. -/
theorem yields_rejoin (s : Socket ω) (c : ChannelId) : Yields s (s.rejoin c) := by
  unfold rejoin
  split
  · exact .refl s
  · split
    · exact .refl s
    · next ch _ _ =>
      dsimp only
      have hleave := yields_leaveOpenTopic s ch.topic c
      split
      · exact hleave
      · refine hleave.before ((holdings_resendPush _ _ _ _).trans ?_)
        exact holdings_modifyChannel _ c fun _ => rfl

theorem holdings_push (s : Socket ω) (c : ChannelId) (p : PushId) (event : String)
    (payload : Payload) (timeout : Nat) : (s.push c p event payload timeout).holdings = s.holdings := by
  unfold push
  split
  · rfl
  · dsimp only
    split
    · exact (holdings_sendPush _ c p).trans (holdings_modifyChannel s c fun _ => rfl)
    · rw [holdings_modifyChannel _ _ fun _ => by rfl, holdings_startTimeout]
      exact holdings_modifyChannel s c fun _ => rfl

theorem holdings_receive (s : Socket ω) (c : ChannelId) (p : PushId) (status : String)
    (callback : CallbackId) : (s.receive c p status callback).holdings = s.holdings := by
  unfold receive
  split
  · rfl
  · rw [holdings_modifyPush]
    split
    · split <;> rfl
    · rfl

theorem holdings_awaitReply (s : Socket ω) (c : ChannelId) (p : PushId) (ticket : Ticket) :
    (s.awaitReply c p ticket).holdings = s.holdings := by
  unfold awaitReply
  split
  · rfl
  · split
    · rfl
    · exact holdings_modifyPush s c p _

theorem holdings_tell (s : Socket ω) (c : ChannelId) (ticket : Ticket) (f : Channel → Answer) :
    (s.tell c ticket f).holdings = s.holdings := by
  unfold tell
  split <;> rfl

theorem yields_applyOp (s : Socket ω) (c : ChannelId) (op : ChannelOp) : Yields s (s.applyOp c op) := by
  cases op with
  | join timeout => exact (yields_rejoin _ c).after (holdings_modifyChannel s c fun _ => rfl)
  | push p event payload timeout => exact .of_eq (holdings_push s c p event payload timeout)
  | leave p timeout => exact yields_leave s c p timeout false
  | bind binding event listener => exact .of_eq (holdings_modifyChannel s c fun _ => rfl)
  | unbind event binding =>
    refine .of_eq (holdings_modifyChannel s c fun ch => ?_)
    cases binding <;> rfl
  | setHook hook => exact .of_eq (holdings_modifyChannel s c fun _ => rfl)
  | receive p status callback => exact .of_eq (holdings_receive s c p status callback)
  | awaitReply p ticket => exact .of_eq (holdings_awaitReply s c p ticket)
  | release p => exact .of_eq (holdings_release s c p)
  | askState ticket => exact .of_eq (holdings_tell s c ticket _)
  | askJoinRef ticket => exact .of_eq (holdings_tell s c ticket _)
  | askRejoinTries ticket => exact .of_eq (holdings_tell s c ticket _)

theorem yields_channelOp (s : Socket ω) (c : ChannelId) (op : ChannelOp) :
    Yields s (s.channelOp c op) := by
  unfold channelOp
  split
  · exact yields_applyOp s c op
  · split <;> exact .refl s

theorem yields_rejoinTimeout (s : Socket ω) (c : ChannelId) (generation : Nat) :
    Yields s (s.rejoinTimeout c generation) := by
  unfold rejoinTimeout
  split
  · exact .refl s
  · next timer _ =>
    have hfired : (s.modifyChannel c fun ch => { ch with rejoinTimer := timer }).holdings =
      s.holdings := holdings_modifyChannel s c fun _ => rfl
    dsimp only
    split
    · exact (yields_rejoin _ c).after hfired
    · exact .of_eq hfired

theorem yields_rejoinIfErrored (s : Socket ω) (c : ChannelId) : Yields s (s.rejoinIfErrored c) := by
  unfold rejoinIfErrored
  split
  · exact .refl s
  · dsimp only
    split
    · exact (yields_rejoin _ c).after (holdings_resetRejoin s c)
    · exact .of_eq (holdings_resetRejoin s c)

/-! ### The connection -/

theorem holdings_pruneRetired (s : Socket ω) : s.pruneRetired.holdings = s.holdings :=
  (holdings_performAll _ _).trans rfl

theorem holdings_connect (s : Socket ω) : s.connect.holdings = s.holdings := by
  unfold connect
  split
  · rfl
  · dsimp only
    split
    · rfl
    · exact (holdings_report _ _).trans rfl

theorem yields_retire (s : Socket ω) : Yields s s.retire := by
  unfold retire
  split
  · exact .refl s
  · exact (yields_triggerErrors _).after rfl

theorem yields_replaceTransport (s : Socket ω) (factory : Factory) :
    Yields s (s.replaceTransport factory) := by
  have hvoid : { s.tick.resetReconnect with
      closeWasClean := true, sendBuffer := [] }.pruneRetired.holdings = s.holdings :=
    (holdings_pruneRetired _).trans rfl
  exact ((yields_retire _).after hvoid).before rfl

theorem holdings_continueWith (s : Socket ω) (k : Continuation) (clock : Nat) :
    (s.continueWith k clock).holdings = s.holdings := by
  unfold continueWith
  split
  · split
    · exact holdings_connect s
    · rfl
  · split <;> rfl
  · rfl
  · rfl

theorem holdings_dropConnection (s : Socket ω) : s.dropConnection.holdings = s.holdings := by
  unfold dropConnection
  split <;> rfl

theorem holdings_finishTeardown (s : Socket ω) (t : Teardown) :
    (s.finishTeardown t).holdings = s.holdings := by
  rw [finishTeardown, holdings_continueWith, notifyAll, holdings_performAll, holdings_dropConnection]
  rfl

theorem holdings_stepTeardown (s : Socket ω) (t : Teardown) :
    (s.stepTeardown t).holdings = s.holdings := by
  unfold stepTeardown
  split
  · split
    · rfl
    · unfold closeConnection
      split <;> rfl
  · split
    · rfl
    · exact holdings_finishTeardown s t

theorem holdings_teardownTimeout (s : Socket ω) (number generation : Nat) :
    (s.teardownTimeout number generation).holdings = s.holdings := by
  unfold teardownTimeout
  split
  · rfl
  · split
    · split
      · exact holdings_stepTeardown _ _
      · rfl
    · rfl

theorem holdings_beginTeardown (s : Socket ω) (code : Option Nat) (reason : Option String)
    (k : Continuation) : (s.beginTeardown code reason k).holdings = s.holdings := by
  unfold beginTeardown
  dsimp only
  split
  · rw [holdings_continueWith, notifyAll, holdings_performAll]
    rfl
  · exact holdings_stepTeardown _ _

theorem holdings_disconnect (s : Socket ω) (code : Option Nat) (reason : Option String)
    (k : Continuation) : (s.disconnect code reason k).holdings = s.holdings :=
  holdings_beginTeardown _ _ _ _

theorem holdings_pause (s : Socket ω) : s.pause.holdings = s.holdings := by
  unfold pause
  split
  · exact holdings_disconnect s none none .nothing
  · rfl

theorem holdings_resume (s : Socket ω) : s.resume.holdings = s.holdings := by
  unfold resume
  split
  · exact holdings_connect _
  · rfl

/-! ### Signs of life -/

omit [Outside ω] in
theorem holdings_resetHeartbeat (s : Socket ω) : s.resetHeartbeat.holdings = s.holdings := by
  unfold resetHeartbeat
  split
  · split <;> rfl
  · rfl

theorem holdings_heartbeatDue (s : Socket ω) (generation : Nat) :
    (s.heartbeatDue generation).holdings = s.holdings := by
  unfold heartbeatDue
  split
  · unfold sendHeartbeat
    split
    · rfl
    · exact (holdings_pushMessage _ _ _).trans rfl
  · rfl

theorem yields_heartbeatTimeoutDue (s : Socket ω) (generation : Nat) :
    Yields s (s.heartbeatTimeoutDue generation) := by
  unfold heartbeatTimeoutDue
  split
  · exact .refl s
  · dsimp only
    split
    · unfold loseConnection
      refine Yields.before ?_ (holdings_beginTeardown _ _ _ _)
      exact ((yields_triggerErrors _).before rfl).after rfl
    · exact .refl s

theorem holdings_ping (s : Socket ω) (ticket : Ticket) : (s.ping ticket).holdings = s.holdings := by
  unfold ping
  split
  · rfl
  · exact (holdings_pushMessage s.drawRef.2 _ _).trans rfl

/-! ### What transports report -/

theorem yields_connectionOpened (s : Socket ω) : Yields s s.connectionOpened := by
  have hopen : s.markOpen.holdings = s.holdings := by
    rw [markOpen, holdings_resetHeartbeat]
    exact holdings_flush _
  unfold connectionOpened
  refine (yields_foldl (fun s ref => ?_) _ _).after hopen
  unfold runOnOpen
  split
  · exact .refl s
  · exact yields_rejoinIfErrored s _
  · exact .refl s

theorem yields_connectionClosed (s : Socket ω) (event : CloseEvent) :
    Yields s (s.connectionClosed event) := by
  unfold connectionClosed
  dsimp only
  refine (yields_triggerErrors s).trans ?_
  refine (yields_foldl (fun s ref => ?_) _ _).after ?_
  · unfold runOnClose
    split <;> exact .refl s
  · split <;> rfl

theorem holdings_runOnErrors (failure : SocketError) (refs : List Ref) (context : ErrorContext)
    (s : Socket ω) : (refs.foldl (runOnError failure) (context, s)).2.holdings = s.holdings := by
  induction refs generalizing context s with
  | nil => rfl
  | cons ref rest ih =>
    have hone : (runOnError failure (context, s) ref).2.holdings = s.holdings := by
      unfold runOnError
      dsimp only
      split
      · rfl
      · exact holdings_resetRejoin s _
      · rfl
    rcases hrun : runOnError failure (context, s) ref with ⟨context', t⟩
    rw [hrun] at hone
    rw [List.foldl_cons, hrun]
    exact (ih context' t).trans hone

theorem yields_takeFallback (s : Socket ω) (fallback : Option Factory) :
    Yields s (s.takeFallback fallback) := by
  unfold takeFallback
  split
  · exact (yields_replaceTransport s _).before (holdings_connect _)
  · exact .refl s

theorem yields_connectionFailed (s : Socket ω) (cause : TransportError) :
    Yields s (s.connectionFailed cause) := by
  have hran := holdings_runOnErrors (.transport cause) s.callbacks.onError.refs s.errorContext s
  unfold connectionFailed
  rcases hrun : s.callbacks.onError.refs.foldl (runOnError (.transport cause)) (s.errorContext, s)
    with ⟨context, t⟩
  rw [hrun] at hran
  have hfallback := (yields_takeFallback t context.fallback).after hran
  dsimp only
  split
  · exact hfallback.trans (yields_triggerErrors _)
  · exact hfallback

/-- The entry of a ping that is over goes, as any entry under its ref would. -/
theorem yields_finishPing (s : Socket ω) (entry : Ref) (started : Nat) (ticket : Ticket) :
    Yields s (s.finishPing entry started ticket) := by
  rw [Yields, finishPing, holdings_without]
  exact .single (.shed [entry])

theorem yields_messageReceived (s : Socket ω) (m : Message) : Yields s (s.messageReceived m) := by
  unfold messageReceived
  dsimp only
  refine (Yields.trans (yields_foldl (fun s c => ?_) _ _) (yields_foldl (fun s ref => ?_) _ _)).after ?_
  · unfold deliver
    split
    · exact yields_trigger _ _ _ _ _ _
    · exact .refl s
  · unfold runOnMessage
    split
    · exact .refl s
    · split
      · exact yields_finishPing s ref _ _
      · exact .refl s
    · exact .refl s
  · split <;> rfl

theorem yields_frameReceived (s : Socket ω) (serializer : Serializer) (frame : Frame) :
    Yields s (s.frameReceived serializer frame) := by
  unfold frameReceived
  split
  · exact yields_messageReceived s _
  · exact .of_eq (holdings_report s _)

theorem yields_transportEvent (s : Socket ω) (t : TransportId) (event : TransportEvent) :
    Yields s (s.transportEvent t event) := by
  unfold transportEvent
  dsimp only
  have hpruned := holdings_pruneRetired s
  split
  · exact .of_eq hpruned
  · split
    · split
      · exact (yields_connectionOpened _).after hpruned
      · exact (yields_connectionFailed _ _).after hpruned
      · exact (yields_frameReceived _ _ _).after hpruned
      · exact (yields_connectionClosed _ _).after hpruned
    · exact .of_eq hpruned

theorem yields_timerEvent (s : Socket ω) (event : TimerEvent) : Yields s (s.timerEvent event) := by
  cases event with
  | heartbeatDue generation => exact .of_eq (holdings_heartbeatDue s generation)
  | heartbeatTimeout generation => exact yields_heartbeatTimeoutDue s generation
  | reconnect generation =>
    simp only [timerEvent]
    split
    · exact .of_eq (holdings_beginTeardown _ _ _ _)
    · exact .refl s
  | rejoin c generation => exact yields_rejoinTimeout s c generation
  | pushTimeout c p generation => exact yields_pushTimeout s c p generation
  | teardown number generation => exact .of_eq (holdings_teardownTimeout s number generation)

/-! ### Commands -/

omit [Outside ω] in
theorem holdings_createChannel (s : Socket ω) (c : ChannelId) (topic : String) (params : Params) :
    (s.createChannel c topic params).holdings =
      s.holdings.enter c s.drawRef.1 s.drawRef.2.drawRef.1 := by
  have hcores : ∀ ch : Channel, (fun d => ((s.channels.set c ch).get? d).map Channel.tenure) =
      fun d => if d = c then some ch.tenure else (s.channels.get? d).map Channel.tenure := by
    intro ch
    funext d
    rw [Table.get?_set]
    split <;> rfl
  have hchannels := hcores (.new topic params s.config.timeout [s.drawRef.1, s.drawRef.2.drawRef.1])
  unfold createChannel holdings Holdings.enter
  simp only [Callbacks.errorClaims, Callbacks.openClaims, Registry.claims_append]
  exact congrArg (Holdings.mk _ _ _) hchannels

theorem holdings_dropChannel (s : Socket ω) (c : ChannelId) :
    (s.dropChannel c).holdings = s.holdings.letGo c := by
  unfold dropChannel Holdings.letGo
  rw [order_holdings]
  by_cases hlisted : c ∈ s.order
  · rw [if_pos (List.contains_iff_mem.mpr hlisted), if_pos hlisted]
    refine congrArg (Holdings.mk _ _ _) (funext fun d => ?_)
    by_cases hdc : d = c
    · subst hdc
      rw [if_pos rfl, cores_holdings, modifyChannel, Table.get?_modify_self, Option.map_map,
        Option.map_map]
      rfl
    · rw [if_neg hdc, modifyChannel, Table.get?_modify_of_ne _ hdc]
      rfl
  · rw [if_neg (fun h => hlisted (List.contains_iff_mem.mp h)), if_neg hlisted]
    exact holdings_eraseChannel s c

theorem holdings_shutdown (s : Socket ω) : s.shutdown.holdings = s.holdings.forget := by
  have hconn : ∀ s : Socket ω, s.abandonConnection.callbacks = s.callbacks := by
    intro s
    unfold abandonConnection
    split <;> rfl
  have hretired : ∀ (l : List Connection) (s : Socket ω),
      (l.foldl abandonRetired s).callbacks = s.callbacks := by
    intro l
    induction l with
    | nil => exact fun _ => rfl
    | cons conn l ih => exact fun s => (ih _).trans rfl
  unfold shutdown
  simp only [holdings, Holdings.forget, hretired, hconn]
  rfl

omit [Outside ω] in
theorem turn_of_yields {cmd : Command} (kept : ∀ c, cmd ≠ .dropChannel c) (h : Yields s t) :
    s.holdings.Turn cmd t.holdings := .lapse kept h

/-- What each command makes of the holdings. -/
theorem turn_handle (s : Socket ω) (cmd : Command) :
    s.holdings.Turn cmd (s.handle cmd).holdings := by
  cases cmd with
  | connect => exact turn_of_yields nofun (.of_eq (holdings_connect s))
  | disconnect code reason done => exact turn_of_yields nofun (.of_eq (holdings_disconnect s code reason _))
  | replaceTransport factory => exact turn_of_yields nofun (yields_replaceTransport s factory)
  | pause => exact turn_of_yields nofun (.of_eq (holdings_pause s))
  | resume => exact turn_of_yields nofun (.of_eq (holdings_resume s))
  | register occasion ref callback =>
    refine turn_of_yields nofun (.of_eq ?_)
    cases occasion <;> simp [handle, holdings, Callbacks.register, Callbacks.errorClaims,
      Callbacks.openClaims, Registry.claims, OnOpen.claim?, OnError.claim?]
  | off refs =>
    rw [handle, holdings_off]
    exact .lapse nofun (.single (.shed refs))
  | ping ticket => exact turn_of_yields nofun (.of_eq (holdings_ping s ticket))
  | askReadyState ticket => exact turn_of_yields nofun (.refl s)
  | askReconnectTries ticket => exact turn_of_yields nofun (.refl s)
  | askEstablished ticket => exact turn_of_yields nofun (.refl s)
  | createChannel c topic params =>
    rw [handle, holdings_createChannel]
    exact .enter c topic params _ _
  | channel c op => exact turn_of_yields nofun (yields_channelOp s c op)
  | dropChannel c =>
    rw [handle, holdings_dropChannel]
    exact .letGo c
  | transport t event => exact turn_of_yields nofun (yields_transportEvent s t event)
  | timer event => exact turn_of_yields nofun (yields_timerEvent s event)
  | shutdown =>
    rw [handle, holdings_shutdown]
    exact .forget

end Outside

end Socket

end Switchboard
