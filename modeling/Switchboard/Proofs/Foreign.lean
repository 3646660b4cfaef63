import Switchboard.Proofs.Courses

/-!
# Messages for other channels

A message is for the registered channels of its topic, as long as it belongs to no other join of theirs
than the present one.  For every other channel it is as if it had not come, whatever its event is and
whatever it does to the channels that it is for.

Main definitions

* `Socket.Foreign`: a message is not for a channel.

Main results

* `Socket.foreign_message_inert`: the channels that a message is not for stay as they are, and nothing
  of them runs.
-/

set_option autoImplicit false

namespace Switchboard

namespace Socket

section Outside

variable {ω : Type} [Outside ω] {s t : Socket ω} {about : ChannelId → Prop} {c d : ChannelId}
variable {m : Message}

/-- A message is not for a channel: the channel is not registered, has another topic, or has a join ref
that differs from the one of the message. -/
def Foreign (s : Socket ω) (m : Message) (c : ChannelId) : Prop :=
  ∀ ch, s.channels.get? c = some ch →
    c ∉ s.order ∨ ch.topic ≠ m.topic ∨ ∃ r, m.joinRef = some r ∧ ch.joinRef ≠ some r

omit [Outside ω] in
theorem Foreign.not_addresses (h : s.Foreign m c) : ¬ s.Addresses m c := by
  rintro ⟨hlisted, hmember⟩
  unfold isMember at hmember
  split at hmember
  · cases hmember
  · rename_i ch hch
    simp only [Bool.and_eq_true, beq_iff_eq] at hmember
    rcases h ch hch with hnot | htopic | ⟨r, hr, hjoin⟩
    · exact hnot hlisted
    · exact htopic hmember.1
    · rw [hr] at hmember
      exact hjoin (by simpa using hmember.2)

end Outside

variable {ω : Type} [Outside ω] {s : Socket (Watched ω)} {cmd : Command} {m : Message}
variable {d : ChannelId}

/-- A message leaves every channel that it is not for exactly as it was, in the registry or not, and
runs no hook, no listener and nothing that waits for a reply of that channel: all that runs belongs to
other channels, which the message is for. -/
theorem foreign_message_inert (hm : s.incoming? cmd = some m) (hd : s.Foreign m d) :
    (s.handle cmd).channels.get? d = s.channels.get? d ∧
      (d ∈ (s.handle cmd).order ↔ d ∈ s.order) ∧
      ∃ calls, (s.handle cmd).calls = s.calls ++ calls ∧
        ∀ call ∈ calls, call.IsOf (fun c => c ≠ d ∧ s.Addresses m c) s.channels := by
  have hchannels : s.pruneRetired.channels = s.channels := by rw [pruneRetired_eq]
  have horder : s.pruneRetired.order = s.order := by rw [pruneRetired_eq]
  have haddresses : s.pruneRetired.Addresses m = s.Addresses m := by
    funext c
    have hmember : s.pruneRetired.isMember c m = s.isMember c m :=
      isMember_congr (by rw [hchannels])
    rw [Addresses, Addresses, horder, hmember]
  have hstrokes := strokes_messageReceived s.pruneRetired m
  rw [haddresses] at hstrokes
  obtain ⟨hget, hlisted⟩ := hstrokes.others hd.not_addresses
  obtain ⟨calls, hcalls, hof⟩ := hstrokes.calls
  rw [handle_of_incoming? hm]
  refine ⟨by rw [hget, hchannels], by rw [hlisted, horder],
    (s.retired.filter s.retiredIsClosed).map (fun c => .effect (.release c.transport)) ++ calls,
    ?_, ?_⟩
  · rw [hcalls, calls_pruneRetired, List.append_assoc]
  · intro call hmem
    rcases List.mem_append.mp hmem with hmem | hmem
    · obtain ⟨c, -, rfl⟩ := List.mem_map.mp hmem
      exact ⟨fun _ h => (by cases h), fun _ h => (by cases h)⟩
    · exact (hchannels ▸ hof call hmem).mono fun c hc => ⟨fun heq => hd.not_addresses (heq ▸ hc), hc⟩

/-- The server closes a join that is over; the channel stays joined. -/
theorem foreign_message_inert_outdated : ∃ (s : Socket (Watched Idle)) (cmd : Command) (m : Message)
    (ch : Channel), s.incoming? cmd = some m ∧ m.event = Event.close ∧ s.Foreign m 0 ∧
    s.channels.get? 0 = some ch ∧ ch.state = .joined ∧
    (s.handle cmd).channels.get? 0 = some ch := by
  obtain ⟨⟨cmds, s⟩, -, hview⟩ := Option.map_eq_some_iff.mp
    (show (watched.follow? anyhow watching (joined "room" ++ [.announce 0 "2" "room" Event.close])).map
        (fun r => (r.2.exchange.next?.map fun n => (r.2.incoming? n.1).map fun m =>
            (m.event, m.joinRef), (r.2.channels.get? 0).map fun ch => (ch.joinRef, ch.state))) =
      some (some (some (Event.close, some "2")), some (some "3", .joined)) by cbv)
  simp only [Prod.mk.injEq] at hview
  obtain ⟨hnext, hchannel⟩ := hview
  obtain ⟨⟨cmd, x⟩, -, hm⟩ := Option.map_eq_some_iff.mp hnext
  obtain ⟨m, hm, hview⟩ := Option.map_eq_some_iff.mp hm
  obtain ⟨ch, hch, hjoined⟩ := Option.map_eq_some_iff.mp hchannel
  simp only [Prod.mk.injEq] at hview hjoined
  have hforeign : s.Foreign m 0 := by
    intro ch' hch'
    rw [hch] at hch'
    cases hch'
    exact .inr (.inr ⟨"2", hview.2, by rw [hjoined.1]; decide⟩)
  obtain ⟨hkept, -, -⟩ := foreign_message_inert hm hforeign
  exact ⟨s, cmd, m, ch, hm, hview.1, hforeign, hch, hjoined.2, hkept.trans hch⟩

end Socket

end Switchboard
