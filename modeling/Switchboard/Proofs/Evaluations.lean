import Switchboard.Proofs.Custody
import Switchboard.Proofs.Routines

/-!
# Evaluations of parameters

The parameters of a channel are evaluated each time one of its pushes is sent, whatever that push
carries.  So when a channel joins again, the value that it joins with depends on how many messages all of
its pushes have been sent with before, and not on how often it has joined.

Main definitions

* `Params.after`: parameters that were evaluated a number of times;
* `Socket.letters`, `Socket.joins`: the messages of the pushes of a channel, and those of its joins;
* `Socket.Unsent`, `Socket.Reckoned`: before a channel is created, and from then on.

Main results

* `Socket.Routine.reckoned`: a routine evaluates as often as it sends;
* `Socket.Course.reckoned`: so does a course;
* `Socket.evaluated_at_each_message`: how often the parameters of a channel were evaluated, and what its
  joins carry.
-/

set_option autoImplicit false

namespace Switchboard

namespace Params

/-- Parameters after a number of evaluations. -/
def after (params : Params) (n : Nat) : Params := { params with evaluations := params.evaluations + n }

@[simp] theorem after_zero (params : Params) : params.after 0 = params := rfl

theorem resolve_after (params : Params) (n : Nat) :
    (params.after n).resolve = ((params.after n).value, params.after (n + 1)) := rfl

theorem after_inj {params : Params} {n m : Nat} : params.after n = params.after m ↔ n = m := by
  simp [after]

/-- The value of the n-th evaluation, counted from zero. -/
@[simp] theorem value_after_computed (f : Nat → Json) (n : Nat) : ((computed f).after n).value = f n := by
  simp [after, computed, value]

end Params

/-- The message of a push of a channel that an effect accepts, with its push. -/
def Effect.letter? (c : ChannelId) : Effect → Option (PushId × Message)
  | .accept (.push d p) m => if d = c then some (p, m) else none
  | _ => none

namespace Socket

/-! ### The messages of a channel -/

/-- The messages of the pushes of a channel in a record, with their pushes. -/
def letters (c : ChannelId) (log : List Effect) : List (PushId × Message) :=
  log.filterMap (Effect.letter? c)

/-- The messages by which a channel asks to join. -/
def joins (c : ChannelId) (log : List Effect) : List Message :=
  ((letters c log).filter fun l => l.1 = joinPush).map (·.2)

/-- There are as many joins as messages only if no other push was sent. -/
theorem length_joins_eq_iff {c : ChannelId} {log : List Effect} :
    (joins c log).length = (letters c log).length ↔ ∀ l ∈ letters c log, l.1 = joinPush := by
  rw [joins, List.length_map, List.length_filter_eq_length_iff]
  simp

variable {ω : Type} {s t : Socket (Recorded ω)} {c d : ChannelId} {given : Params}

/-- Nothing was sent for a channel that is not there. -/
structure Unsent (c : ChannelId) (s : Socket (Recorded ω)) : Prop where
  absent : s.channels.get? c = none
  letters : letters c s.log = []

/-- The parameters of a channel were evaluated for each message of its pushes, and the messages by which
it asks to join carry what they were evaluated to. -/
structure Reckoned (c : ChannelId) (given : Params) (s : Socket (Recorded ω)) : Prop where
  params : ∀ ⦃ch⦄, s.channels.get? c = some ch → ch.params = given.after (letters c s.log).length
  join : ∀ ⦃ch⦄, s.channels.get? c = some ch → ch.joinTerms = some (Event.join, .channelParams)
  joins : ∀ ⦃k : Nat⦄ ⦃m : Message⦄, (letters c s.log)[k]? = some (joinPush, m) →
    m.event = Event.join ∧ m.payload = .json (given.after k).value

/-! ### One routine -/

/-- What a routine comes to for one channel: either nothing is sent, or one of its pushes is, and then
its parameters are evaluated. -/
inductive Fares (c : ChannelId) (s t : Socket (Recorded ω)) : Prop
  | keeps (letters : letters c t.log = letters c s.log)
    (channel : ∀ ⦃ch'⦄, t.channels.get? c = some ch' → ∃ ch, s.channels.get? c = some ch ∧ ch.Keeps ch')
  | sends {p : PushId} {q : Push} {m : Message} {ch ch' : Channel}
    (channel : s.channels.get? c = some ch) (push : ch.pushes.get? p = some q)
    (after : t.channels.get? c = some ch') (params : ch'.params = ch.params.resolve.2)
    (join : ch'.joinTerms = ch.joinTerms)
    (letters : Socket.letters c t.log = Socket.letters c s.log ++ [(p, m)])
    (event : m.event = q.event) (payload : m.payload = bodyOf q ch.params.resolve.1)

/-- Only other things happen than that a push is sent. -/
theorem Fares.of_eq (hchannels : t.channels = s.channels) (hletters : letters c t.log = letters c s.log) :
    Fares c s t := .keeps hletters fun ch' hc => ⟨ch', hchannels ▸ hc, .refl ch'⟩

/-- Another channel changes. -/
theorem Fares.of_set {ch ch' : Channel} (hlog : t.log = s.log)
    (hchannels : t.channels = s.channels.set d ch') (hd : s.channels.get? d = some ch)
    (hkeeps : ch.Keeps ch') : Fares c s t := by
  refine .keeps (by rw [hlog]) fun ch'' hc => ?_
  rw [hchannels, Table.get?_set] at hc
  split at hc
  · rename_i heq
    cases hc
    exact ⟨ch, heq ▸ hd, hkeeps⟩
  · exact ⟨ch'', hc, .refl ch''⟩

theorem Fares.unsent (h : Fares c s t) (hs : Unsent c s) : Unsent c t := by
  cases h with
  | keeps letters channel =>
    refine ⟨Option.eq_none_iff_forall_ne_some.mpr fun ch' hc => ?_, letters.trans hs.letters⟩
    obtain ⟨ch, hch, -⟩ := channel hc
    exact absurd (hs.absent.symm.trans hch) (by simp)
  | sends channel => exact absurd (hs.absent.symm.trans channel) (by simp)

/-- What is sent is one more message, and the parameters are evaluated once more. -/
theorem Fares.reckoned (h : Fares c s t) (hs : Reckoned c given s) : Reckoned c given t := by
  cases h with
  | keeps hletters channel =>
    refine ⟨fun ch' hc => ?_, fun ch' hc => ?_, hletters ▸ hs.joins⟩
    · obtain ⟨ch, hch, hkeeps⟩ := channel hc
      rw [hletters, hkeeps.params, hs.params hch]
    · obtain ⟨ch, hch, hkeeps⟩ := channel hc
      rw [hkeeps.join, hs.join hch]
  | @sends p q m ch ch' hc hq hafter hparams hjoin hletters hevent hpayload =>
    have hbefore := hs.params hc
    rw [hbefore, Params.resolve_after] at hparams hpayload
    refine ⟨fun ch'' hc'' => ?_, fun ch'' hc'' => ?_, fun k m' hk => ?_⟩
    · cases hafter.symm.trans hc''
      rw [hparams, hletters, List.length_append, List.length_singleton]
    · cases hafter.symm.trans hc''
      rw [hjoin, hs.join hc]
    · rw [hletters, List.getElem?_append] at hk
      split at hk
      · exact hs.joins hk
      -- The message is the last one, and it is that of the push by which the channel joins.
      · obtain ⟨hlast, heq⟩ := List.getElem?_eq_some_iff.mp hk
        have hk' : k = (letters c s.log).length := by
          rw [List.length_singleton] at hlast
          omega
        subst hk'
        obtain ⟨rfl, rfl⟩ : p = joinPush ∧ m = m' := by simpa using heq
        have hterms : some (q.event, q.body) = some (Event.join, .channelParams) := by
          rw [← hs.join hc, Channel.joinTerms, hq, Option.map_some]
        obtain ⟨hjoins, hbody⟩ := Prod.mk.inj (Option.some.inj hterms)
        refine ⟨hevent.trans hjoins, ?_⟩
        rw [hpayload, bodyOf, hbody]

/-- A channel that is created has the parameters that it was given, and joins with them. -/
theorem Unsent.reckoned (h : Unsent c s) (topic : String) :
    Reckoned c given (s.createChannel c topic given) := by
  have hget : (s.createChannel c topic given).channels.get? c =
      some (.new topic given s.config.timeout [s.drawRef.1, s.drawRef.2.drawRef.1]) :=
    Table.get?_set_self ..
  have hletters : Socket.letters c (s.createChannel c topic given).log = [] := h.letters
  refine ⟨fun ch hc => ?_, fun ch hc => ?_, fun k m hk => ?_⟩
  · cases hget.symm.trans hc
    rw [hletters, List.length_nil, Params.after_zero]
    rfl
  · cases hget.symm.trans hc
    rw [Channel.joinTerms, Channel.new, Table.get?_set_self]
    rfl
  · rw [hletters] at hk
    cases hk

section Outside

variable [Outside ω] {cmd : Command}

/-- An effect that happens adds its message, if it is that of a push of the channel. -/
theorem letters_perform (c : ChannelId) (s : Socket (Recorded ω)) (e : Effect) :
    letters c (s.perform e).log = letters c s.log ++ (e.letter? c).toList := by
  have hrecorded : ([e].filter Effect.concernsPush).filterMap (Effect.letter? c)
      = (e.letter? c).toList := by
    cases he : e.letter? c with
    | none =>
      refine List.filterMap_eq_nil_iff.mpr fun e' he' => ?_
      rwa [List.mem_singleton.mp (List.mem_of_mem_filter he')]
    | some l =>
      have hconcerns : e.concernsPush = true := by
        unfold Effect.letter? at he
        split at he
        · rfl
        · cases he
      simp [hconcerns, he]
  have hlog : (s.perform e).log = s.log ++ [e].filter Effect.concernsPush := rfl
  rw [hlog, letters, List.filterMap_append, hrecorded]
  rfl

theorem Routine.fares (h : Routine cmd s t) (htidy : s.exchange.Tidy)
    (hcmd : ∀ topic params, cmd ≠ .createChannel c topic params) : Fares c s t := by
  cases h with
  | elsewhere elsewhere => exact .of_eq elsewhere.channels (by rw [log, elsewhere.outside, log])
  | draws evolves => exact .of_eq rfl rfl
  | @perform e plain =>
    have hnone : e.letter? c = none := by
      unfold Effect.letter?
      split
      · cases plain
      · rfl
    refine .of_eq rfl ?_
    rw [letters_perform, hnone, Option.toList_none, List.append_nil]
  | hook callback event payload ref => exact .of_eq rfl rfl
  | error callback failure context => exact .of_eq rfl rfl
  | opens address => exact .of_eq rfl ((letters_perform ..).trans (List.append_nil _))
  | alters channel keeps => exact .of_set rfl rfl channel keeps
  | enters channel keeps =>
    exact .of_set rfl rfl channel (keeps (Exchange.drawPush_ne_joinPush htidy _))
  | @sends d p ch ch' q m channel push params join event payload =>
    by_cases hd : d = c
    · subst hd
      refine .sends channel push (Table.get?_set_self ..) params join ?_ event payload
      rw [letters_perform, Effect.letter?, if_pos rfl]
      rfl
    · refine .keeps ?_ fun ch'' hc => ⟨ch'', ?_, .refl ch''⟩
      · rw [letters_perform, Effect.letter?, if_neg hd]
        exact List.append_nil _
      · exact (Table.get?_set_of_ne _ (Ne.symm hd) _).symm.trans hc
  | @creates d topic params timeout refs asked =>
    have hd : c ≠ d := fun heq => hcmd topic params (heq ▸ asked)
    exact .keeps rfl fun ch'' hc => ⟨ch'', (Table.get?_set_of_ne _ hd _).symm.trans hc, .refl ch''⟩
  | erases d =>
    refine .keeps rfl fun ch'' hc => ⟨ch'', ?_, .refl ch''⟩
    rw [Table.get?_erase] at hc
    split at hc
    · cases hc
    · exact hc
  | ends => exact .keeps rfl fun ch' hc => by cases hc

/-! ### Courses -/

section Obliging

variable [Obliging ω]

theorem Routine.evolves (h : Routine cmd s t) : s.exchange.Evolves t.exchange := by
  cases h with
  | elsewhere elsewhere => rw [elsewhere.exchange]
  | draws evolves => exact evolves
  | perform plain => exact (turns_perform s _).evolves
  | hook callback event payload ref =>
    exact (Obliging.hook callback event payload ref s.exchange s.outside.outside).evolves
  | error callback failure context => exact (quiet_runError s callback failure context).evolves
  | opens address => exact (turns_perform s _).evolves
  | alters channel keeps => exact .refl _
  | enters channel keeps => exact (Exchange.Draws.push _ _).evolves
  | sends channel push params join event payload => exact (turns_perform _ _).evolves
  | creates timeout refs asked => exact .refl _
  | erases d => exact .refl _
  | ends => exact .refl _

theorem Routines.evolves (h : Routines cmd s t) : s.exchange.Evolves t.exchange := by
  induction h with
  | refl => exact .refl _
  | tail _ routine ih => exact ih.trans routine.evolves

/-- What each routine keeps that is not the creation of a channel is kept by all of them. -/
theorem Routines.fares {I : Socket (Recorded ω) → Prop} (step : ∀ {s t}, Fares c s t → I s → I t)
    (h : Routines cmd s t) (htidy : s.exchange.Tidy)
    (hcmd : ∀ topic params, cmd ≠ .createChannel c topic params) (hs : I s) : I t := by
  induction h with
  | refl => exact hs
  | tail routines routine ih =>
    exact step (routine.fares ((Routines.evolves routines).tidy htidy) hcmd) ih

variable {cmds : List Command} {topic : String}

/-- Before a channel is created nothing is sent for it, and from then on its parameters are evaluated
with each message. -/
theorem Course.reckoned (h : Course KeepsRecord s cmds t) (hs : Sound s) (hstart : ∀ c, Unsent c s) :
    (¬Created cmds c → Unsent c t) ∧
      ∀ topic given, Command.createChannel c topic given ∈ cmds → Reckoned c given t := by
  induction h with
  | start => exact ⟨fun _ => hstart c, fun topic given hmem => absurd hmem (by simp)⟩
  | @surroundings cmds t x o before allowed ih =>
    have hfares : Fares c t { t with exchange := x, outside := o } :=
      .of_eq rfl (by rw [log, allowed.2])
    exact ⟨fun hc => hfares.unsent (ih.1 hc), fun topic given hmem => hfares.reckoned (ih.2 _ _ hmem)⟩
  | @take cmds t cmd x before next ih =>
    have hsound := (before.sound hs).quiet (quiet_next? next)
    have hdue := due_of_next? (before.sound hs) next
    have hroutines := routines_handle { t with exchange := x } cmd fun d p hp => (hdue.push hp).2.1
    have hx : Fares c t { t with exchange := x } := .of_eq rfl rfl
    by_cases hcmd : ∃ topic given, cmd = .createChannel c topic given
    · obtain ⟨topic, given, rfl⟩ := hcmd
      have hunmade := before.not_created hs next rfl
      refine ⟨fun hc => absurd ⟨topic, given, by simp⟩ hc, fun topic' given' hmem => ?_⟩
      rcases List.mem_append.mp hmem with hold | hnew
      · exact absurd ⟨topic', given', hold⟩ hunmade
      · cases List.mem_singleton.mp hnew
        exact (hx.unsent (ih.1 hunmade)).reckoned topic
    · have hother : ∀ topic given, cmd ≠ .createChannel c topic given := fun topic given heq =>
        hcmd ⟨topic, given, heq⟩
      refine ⟨fun hc => ?_, fun topic given hmem => ?_⟩
      · exact hroutines.fares Fares.unsent hsound.tidy hother
          (hx.unsent (ih.1 fun hold => hc (hold.append _)))
      · have hold := (List.mem_append.mp hmem).resolve_right fun hnew =>
          hother topic given (List.mem_singleton.mp hnew).symm
        exact hroutines.fares Fares.reckoned hsound.tidy hother (hx.reckoned (ih.2 _ _ hold))
  | @abandon cmds t before ih =>
    have hroutines : Routines .shutdown t t.shutdown := routines_shutdown t
    have htidy := (before.sound hs).tidy
    have hother : ∀ topic params, Command.shutdown ≠ .createChannel c topic params := by simp
    refine ⟨fun hc => ?_, fun topic given hmem => ?_⟩
    · exact hroutines.fares Fares.unsent htidy hother (ih.1 fun hold => hc (hold.append _))
    · have hold := (List.mem_append.mp hmem).resolve_right (by simp)
      exact hroutines.fares Fares.reckoned htidy hother (ih.2 _ _ hold)

/--
The parameters of a channel are evaluated with each message of any of its pushes: a join, a leave, or what
users push.  So they were evaluated as often as messages were sent, and that is as often as the channel
has asked to join only if nothing else was ever sent for it.  What asks to join carries the value of an
evaluation, but that is counted by all messages before it.
-/
theorem evaluated_at_each_message {endpoint : String} {config : Config} {factory : Factory} {outside : ω}
    (h : Course KeepsRecord (Socket.new endpoint config factory ⟨outside, [], []⟩) cmds s)
    (hcreated : Command.createChannel c topic given ∈ cmds) :
    (∀ ch, s.channels.get? c = some ch → ch.params = given.after (letters c s.log).length ∧
      (ch.params = given.after (joins c s.log).length ↔ ∀ l ∈ letters c s.log, l.1 = joinPush)) ∧
      (∀ (k : Nat) (m : Message), (letters c s.log)[k]? = some (joinPush, m) →
        m.event = Event.join ∧ m.payload = .json (given.after k).value) ∧
      ((∀ l ∈ letters c s.log, l.1 = joinPush) → ∀ (k : Nat) (m : Message), (joins c s.log)[k]? = some m →
        m.event = Event.join ∧ m.payload = .json (given.after k).value) := by
  have hreckoned := (h.reckoned (c := c) (sound_new ..) fun c => ⟨rfl, rfl⟩).2 topic given hcreated
  refine ⟨fun ch hc => ⟨hreckoned.params hc, ?_⟩, fun k m hk => hreckoned.joins hk, fun hall k m hk => ?_⟩
  · rw [hreckoned.params hc, Params.after_inj, ← length_joins_eq_iff, eq_comm]
  · have hsame : (letters c s.log).filter (fun l => l.1 = joinPush) = letters c s.log :=
      List.filter_eq_self.mpr fun l hl => by simpa using hall l hl
    rw [joins, hsame, List.getElem?_map, Option.map_eq_some_iff] at hk
    obtain ⟨⟨p, m'⟩, hk, rfl⟩ := hk
    obtain rfl : p = joinPush := hall _ (List.mem_of_getElem? hk)
    exact hreckoned.joins hk

end Obliging

end Outside

/-! ### A push between two joins -/

/-- Each evaluation has a value of its own. -/
def counted (n : Nat) : Json := .array (List.replicate n .null)

/-- A channel joins, a user pushes, and the channel fails and joins again. -/
def pushedBetween : List Deed :=
  connecting ++ [.acts (fun x => (x.openChannel "room" (.computed counted)).2) fun x =>
    .single (.openChannel x _ _), .take, .join 0 10000, .take, .answer 0 "3" "3" "room" Status.ok, .take,
    .push 0 "early" 10000, .take, .announce 0 "3" "room" Event.error, .take, .fire (.rejoin 0 2), .take]

/-- What a command gives to a channel. -/
def given? : Command → Option (ChannelId × String × Params)
  | .createChannel c topic params => some (c, topic, params)
  | _ => none

theorem createChannel_mem {cmds : List Command} {c : ChannelId} {topic : String} {params : Params}
    (h : (c, topic, params) ∈ cmds.filterMap given?) : .createChannel c topic params ∈ cmds := by
  obtain ⟨cmd, hmem, hcmd⟩ := List.mem_filterMap.mp h
  unfold given? at hcmd
  split at hcmd
  · cases hcmd
    exact hmem
  · cases hcmd

/-- The second join carries the third value, since a push was sent in between. -/
theorem evaluated_at_each_message_rejoined : ∃ (cmds : List Command) (s : Socket (Recorded Idle))
    (first second : Message) (ch : Channel), Course KeepsRecord ready cmds s ∧
      .createChannel 0 "room" (.computed counted) ∈ cmds ∧ joins 0 s.log = [first, second] ∧
      second.event = Event.join ∧ second.payload = .json (counted 2) ∧
      s.channels.get? 0 = some ch ∧ ch.params = (Params.computed counted).after 3 := by
  obtain ⟨⟨cmds, s⟩, hplay, hview⟩ := Option.map_eq_some_iff.mp
    (show (ready.follow? anyhow recording pushedBetween).map (fun r =>
        (r.1.filterMap given?, (letters 0 r.2.log).map (·.1), (r.2.channels.get? 0).isSome)) =
      some ([(0, "room", .computed counted)], [0, 1, 0], true) by cbv)
  simp only [Prod.mk.injEq] at hview
  obtain ⟨hgiven, hpushes, hsome⟩ := hview
  have hcourse : Course KeepsRecord ready cmds s :=
    course_of_follow? (fun hacts _ => ⟨hacts, rfl⟩) (fun _ _ => ⟨.refl, rfl⟩) hplay
  have hcreated : .createChannel 0 "room" (.computed counted) ∈ cmds :=
    createChannel_mem (by simp [hgiven])
  obtain ⟨ch, hc⟩ := Option.isSome_iff_exists.mp hsome
  obtain ⟨hparams, hjoins, -⟩ := evaluated_at_each_message hcourse hcreated
  obtain ⟨⟨p₀, m₀⟩, ⟨p₁, m₁⟩, ⟨p₂, m₂⟩, hletters⟩ :
      ∃ l₀ l₁ l₂, letters 0 s.log = [l₀, l₁, l₂] :=
    List.length_eq_three.mp (by simpa using congrArg List.length hpushes)
  obtain ⟨rfl, rfl, rfl⟩ : p₀ = 0 ∧ p₁ = 1 ∧ p₂ = 0 := by simpa [hletters] using hpushes
  obtain ⟨hevent, hpayload⟩ := hjoins 2 m₂ (by rw [hletters]; rfl)
  refine ⟨cmds, s, m₀, m₂, ch, hcourse, hcreated, ?_, hevent, ?_, hc, ?_⟩
  · rw [joins, hletters]
    rfl
  · rw [hpayload, Params.value_after_computed]
  · rw [(hparams ch hc).1, hletters]
    rfl

end Socket

end Switchboard
