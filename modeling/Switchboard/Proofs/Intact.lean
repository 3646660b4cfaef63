import Switchboard.Proofs.Operations

/-!
# What users leave alone

Where users install no hook and remove no binding with a reserved name, every channel keeps its own
bindings and is without a hook, whatever else happens.

Main definitions

* `Event.NamesReply`, `Event.IsReserved`: reserved names;
* `ChannelOp.Spares`, `Command.Spares`, `Prompt.Spares`: no hook, and no removal of certain bindings;
* `Channel.Intact`, `Socket.Intact`: no hook, and all own bindings with certain names.

Main results

* `Socket.Rough.intact`, `Socket.Roughly.intact`: moves keep channels intact.
-/

set_option autoImplicit false

namespace Switchboard

/-- The events of replies to single pushes. -/
def Event.NamesReply (event : String) : Prop := ∃ r, event = Event.replyTo r

/-- The events that the protocol and the channels keep for themselves. -/
def Event.IsReserved (event : String) : Prop :=
  (∃ rest, event = "phx_" ++ rest) ∨ Event.NamesReply event

/-- An operation installs no hook, and removes no binding with certain names. -/
def ChannelOp.Spares (names : String → Prop) : ChannelOp → Prop
  | .setHook _ => False
  | .unbind event _ => ¬ names event
  | _ => True

/-- A command installs no hook, and removes no binding with certain names. -/
def Command.Spares (names : String → Prop) : Command → Prop
  | .channel _ op => op.Spares names
  | _ => True

/-- To spare some names is to spare fewer. -/
theorem Command.Spares.mono {names names' : String → Prop} {cmd : Command} (h : cmd.Spares names)
    (hle : ∀ event, names' event → names event) : cmd.Spares names' := by
  cases cmd with
  | channel c op =>
    cases op with
    | setHook callback => exact h
    | unbind event number => exact fun hname => h (hle event hname)
    | _ => trivial
  | _ => trivial

/-- A prompt is no operation, or one that spares certain names. -/
def Prompt.Spares (names : String → Prop) : Prompt → Prop
  | .op request => request.Spares names
  | _ => True

/-- A channel has no hook, and all its own bindings with certain names. -/
structure Channel.Intact (names : String → Prop) (ch : Channel) : Prop where
  unhooked : ch.hook = none
  owns : ch.Owns names

theorem Channel.Starts.intact {x y z : Exchange} {c : ChannelId} {ch ch' : Channel} {p : PushId}
    {names : String → Prop} (h : ch.Starts x y c p ch') (hs : ch.Sound z c)
    (hi : ch.Intact names) : ch'.Intact names :=
  ⟨h.hook_eq.trans hi.unhooked, hi.owns.starts hs h⟩

/-- A new push is added to a sound channel. -/
theorem Channel.Sound.insert_new {x : Exchange} {c : ChannelId} {ch : Channel} {p : PushId}
    {q : Push} (hs : ch.Sound x c) (hspent : x.Spent (.pushes c) p)
    (hfree : ch.pushes.get? p = none) (hq : q.IsNew) : (ch.insert p q).Sound x c := by
  refine hs.insert hspent hfree ?_ ?_ hq.hooks
  · rw [hq.ref, hq.refEvent, Option.map_none]
  · rw [hq.ref]
    simp

theorem Channel.Starts.intact_insert {x y z : Exchange} {c : ChannelId} {ch ch' : Channel}
    {p : PushId} {q : Push} {names : String → Prop} (h : (ch.insert p q).Starts x y c p ch')
    (hs : ch.Sound z c) (hspent : z.Spent (.pushes c) p) (hfree : ch.pushes.get? p = none)
    (hq : q.IsNew) (hi : ch.Intact names) : ch'.Intact names :=
  h.intact (hs.insert_new hspent hfree hq) ⟨hi.unhooked, hi.owns.of_eq rfl⟩

namespace Socket

variable {ω : Type} {s t u : Socket (Recorded ω)} {k : Prompt} {c d : ChannelId}
variable {ch ch' : Channel} {p : PushId} {q : Push} {es : List Effect} {names : String → Prop}

/-- No channel has a hook. -/
def Unhooked (s : Socket (Recorded ω)) : Prop :=
  ∀ ⦃c ch⦄, s.channels.get? c = some ch → ch.hook = none

/-- All channels are without a hook, and have their own bindings with certain names. -/
def Intact (names : String → Prop) (s : Socket (Recorded ω)) : Prop :=
  ∀ ⦃c ch⦄, s.channels.get? c = some ch → ch.Intact names

theorem Intact.to_unhooked (h : Intact names s) : s.Unhooked := fun _ _ hc => (h hc).unhooked

theorem Alter.intact {registered : Prop} {x y : Exchange}
    (h : Alter k x y registered c ch ch' es) (hk : k.Spares names) (hs : ch.Sound x c)
    (hxy : x.Evolves y) (hi : ch.Intact names) : ch'.Intact names := by
  have hsy := hs.mono hxy
  cases h with
  | alike same notes => exact ⟨same.hook.trans hi.unhooked, hi.owns.of_eq same.bindings⟩
  | hooked op =>
    subst op
    exact hk.elim
  | listen op spent fresh =>
    exact ⟨hi.unhooked, fun b hb hname => List.mem_append_left _ (hi.owns b hb hname)⟩
  | unbind op =>
    subst op
    exact ⟨hi.unhooked, hi.owns.unbind hk _⟩
  | enlist op free spent other starts waits accepts =>
    have h' := starts.intact_insert hsy spent free (Push.isNew_new _ _ _) hi
    exact ⟨h'.unhooked, h'.owns.of_eq rfl⟩
  | settle other push awaits unarmed answers =>
    exact ⟨(Channel.settle_hook _ _).trans hi.unhooked, hi.owns.settle hs push _ _⟩
  | forget other push received =>
    exact ⟨Channel.forget_hook.trans hi.unhooked, hi.owns.forget hs push⟩
  | unheard push awaits unarmed answers =>
    exact ⟨(Channel.settle_hook _ _).trans hi.unhooked, hi.owns.settle hs push _ _⟩
  | refused push awaits unarmed answers =>
    exact ⟨(Channel.settle_hook _ _).trans hi.unhooked, (hi.owns.settle hs push _ _).of_eq rfl⟩
  | @abandoned q q' timer reply p timeout m ch' push awaits unarmed answers fresh free spent other
      starts push' =>
    have hsettled := hs.settle push timer reply
    have hfree : (ch.settle joinPush q timer reply).pushes.get? p = none := by
      rw [Channel.settle_pushes, Table.get?_set_of_ne _ other]
      exact free
    have hch' := starts.sound_insert hsettled hxy spent hfree (Push.isNew_bareLeave _ _)
    have hi' : ch'.Intact names := starts.intact_insert (hsettled.mono hxy) spent hfree
      (Push.isNew_bareLeave _ _)
      ⟨(Channel.settle_hook _ _).trans hi.unhooked, hi.owns.settle hs push timer reply⟩
    have herrored : { ch' with state := .errored }.Sound y c :=
      hch'.filter (List.Sublist.refl _) rfl fun _ => id
    have howns : { ch' with state := .errored }.Owns names := hi'.owns.of_eq rfl
    exact ⟨Channel.takeBack_hook.trans hi'.unhooked, howns.takeBack herrored push'⟩
  | failed listed push =>
    split
    · exact ⟨Channel.takeBack_hook.trans hi.unhooked, (hi.owns.takeBack hs push).of_eq rfl⟩
    · exact ⟨hi.unhooked, hi.owns.of_eq rfl⟩

/-- One channel becomes another that is intact. -/
theorem Intact.works (hi : Intact names s) (hw : Works c ch' es s t) (h : ch'.Intact names) :
    Intact names t := by
  intro d ch₁ hd
  by_cases hdc : d = c
  · subst hdc
    rw [hw.get?] at hd
    cases hd
    exact h
  · rw [hw.get?_of_ne hdc] at hd
    exact hi hd

theorem Intact.turns (hi : Intact names s) (h : Turns s t s.channels es) : Intact names t := by
  intro d ch hd
  rw [h.channels_eq] at hd
  exact hi hd

theorem Flush.intact {ps : List PushId} (h : Flush c ps s t) (hs : Sound s)
    (hi : Intact names s) : Intact names t := by
  induction h with
  | nil => exact hi
  | pass late rest ih => exact ih hs hi
  | send channel push inTime starts works rest ih =>
    have hch := hs.channels channel
    refine ih (hs.starts channel starts works) ?_
    exact hi.works works (starts.intact hch (hi channel))

theorem Move.intact (h : Move k c s t) (hk : k.Spares names) (hs : Sound s)
    (hi : Intact names s) : Intact names t := by
  cases h with
  | quiet quiet => exact hi.turns quiet
  | alter channel alter works =>
    exact hi.works works (alter.intact hk (hs.channels channel) works.evolves (hi channel))
  | @accepted u v ch q timer reply channel push awaits unarmed answers status works flush =>
    have hch := hs.channels channel
    have hich := hi channel
    refine flush.intact (hs.accept channel push works) (hi.works works ⟨?_, ?_⟩)
    · exact (Channel.settle_hook _ _).trans hich.unhooked
    · exact (hich.owns.settle hch push timer reply).of_eq rfl
  | @closed _ ch channel closes =>
    intro d ch' hd
    by_cases hdc : d = c
    · subst hdc
      rw [closes.get?_self] at hd
      split at hd
      · cases hd
      · cases hd
        exact ⟨(hi channel).unhooked, (hi channel).owns.of_eq rfl⟩
    · rw [closes.get?_of_ne hdc] at hd
      exact hi hd

theorem Rough.intact (h : Rough k c s t) (hk : k.Spares names) (hs : Sound s)
    (hi : Intact names s) : Intact names t := by
  cases h with
  | move move => exact move.intact hk hs hi
  | lapse channel push works =>
    exact hi.works works ⟨(hi channel).unhooked, (hi channel).owns.of_eq rfl⟩
  | departs channel push free spent other starts works accepts =>
    have hdep := (departing_sound (hs.channels channel) push).mono works.evolves
    refine hi.works works (starts.intact_insert hdep spent ?_ (Push.isNew_leave _ _)
      ⟨(hi channel).unhooked, (hi channel).owns.of_eq rfl⟩)
    rw [departing, Table.get?_set_of_ne _ other]
    exact free
  | @joins ch ch' join timeout value channel push stays starts works =>
    have hjoin := joining_sound (hs.channels channel) push timeout
    have hb : { ch with
        state := .joining
        pushes := ch.pushes.set joinPush { join with timeout := timeout }.reset }.bindings =
          ch.bindings := rfl
    have howns := (hi channel).owns.drop (hs.channels channel) push hb
    exact hi.works works
      (starts.intact hjoin ⟨Channel.takeBack_hook.trans (hi channel).unhooked, howns⟩)

theorem Moves.intact (h : Moves k c s t) (hk : k.Spares names) (hs : Sound s)
    (hi : Intact names s) : Intact names t := by
  induction h with
  | refl => exact hi
  | tail moves move ih => exact move.intact hk (Moves.sound moves hs) ih

theorem Roughly.intact (h : Roughly k c s t) (hk : k.Spares names) (hs : Sound s)
    (hi : Intact names s) : Intact names t := by
  induction h with
  | refl => exact hi
  | tail moves move ih => exact move.intact hk (Roughly.sound moves hs) ih

end Socket

end Switchboard
