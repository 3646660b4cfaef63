import Mathlib
import Switchboard.Codec.Serializer
import Switchboard.Proofs.Frames

/-!
# Binary pushes of a client

A client writes raw bytes as a push: the kind, four length bytes, join ref, ref, topic, event, and the
payload.  What a server sends under the same kind has one field less, so it is read by other means, and
that a push says what was meant rests on its layout alone: the length bytes tell where each field ends,
and what is left is payload.

A frame has no way to leave a ref out.  An absent ref is written as the empty one, and this is all that
a frame does not tell.

Main definitions

* `Message.pushFields`: the fields of a push frame;
* `Message.withoutEmptyRefs`: the message that a reader makes of a written one;
* `Message.SameFields`: two messages that differ in nothing that a frame tells.

Main results

* `Message.decodePush_eq_ok_iff`: the reader accepts the layouts of four texts and a payload;
* `Message.encodePush_unambiguous`: every frame is the layout of its message, is read as that message,
  and is written for no other.
-/

set_option autoImplicit false

namespace Switchboard

namespace Message

open BinaryFrame

variable {m m' : Message} {f b : Bytes} {fs : List (Field × String)} {r r' : Option Ref}

/-! ### What a frame tells -/

/-- The fields of a push frame in their order; an absent ref is empty. -/
def pushFields (m : Message) : List (Field × String) :=
  [(.joinRef, m.joinRef.getD ""), (.ref, m.ref.getD ""), (.topic, m.topic), (.event, m.event)]

/-- A message with no ref in the place of an empty one. -/
def withoutEmptyRefs (m : Message) : Message :=
  { m with joinRef := m.joinRef.filter (· ≠ ""), ref := m.ref.filter (· ≠ "") }

/-- Two messages with the same fields and the same payload, where an absent ref is as an empty one. -/
structure SameFields (m m' : Message) : Prop where
  topic : m.topic = m'.topic
  event : m.event = m'.event
  payload : m.payload = m'.payload
  joinRef : m.joinRef.getD "" = m'.joinRef.getD ""
  ref : m.ref.getD "" = m'.ref.getD ""

theorem getD_filter (r : Option Ref) : (r.filter (· ≠ "")).getD "" = r.getD "" := by
  cases r with
  | none => rfl
  | some r => by_cases hr : r = "" <;> simp [hr, Option.filter]

theorem getD_eq_of_filter_eq (h : r.filter (· ≠ "") = r'.filter (· ≠ "")) :
    r.getD "" = r'.getD "" := by
  rw [← getD_filter r, h, getD_filter]

/-- Nothing but the emptiness of a ref is lost when empty refs are left out. -/
theorem sameFields_of_withoutEmptyRefs (h : m.withoutEmptyRefs = m'.withoutEmptyRefs) :
    m.SameFields m' := by
  obtain ⟨hjoinRef, href, htopic, hevent, hpayload⟩ := Message.mk.inj h
  exact ⟨htopic, hevent, hpayload, getD_eq_of_filter_eq hjoinRef, getD_eq_of_filter_eq href⟩

/-! ### Writing -/

theorem encodePush_eq_ok_iff : m.encodePush = .ok f ↔
    (∀ p ∈ m.pushFields, Fits p.2) ∧ ∃ b, m.payload = .bytes b ∧ frameOf pushKind m.pushFields b = f :=
  write_eq_ok_iff

/-- A frame is made of the fields and the payload, and of nothing else. -/
theorem SameFields.encodePush_eq (h : m.SameFields m') : m.encodePush = m'.encodePush := by
  have hfields : m.pushFields = m'.pushFields := by
    rw [pushFields, pushFields, h.joinRef, h.ref, h.topic, h.event]
  calc m.encodePush = write pushKind m.pushFields m.payload := rfl
    _ = write pushKind m'.pushFields m'.payload := by rw [hfields, h.payload]
    _ = m'.encodePush := rfl

/-- The binary frames of the standard wire format are the pushes. -/
theorem encodeStandard_eq_binary_iff :
    Serializer.encodeStandard m = .ok (.binary f) ↔ m.encodePush = .ok f := by
  have hmap : ∀ r : Except CodecError Bytes, r.map Frame.binary = .ok (.binary f) ↔ r = .ok f := by
    intro r
    cases r <;> simp [Except.map]
  have htext : ∀ r : Except CodecError String, r.map Frame.text ≠ .ok (.binary f) := by
    intro r
    cases r <;> simp [Except.map]
  unfold Serializer.encodeStandard
  split
  · exact hmap _
  · rename_i other
    refine ⟨fun h => absurd h (htext _), fun h => ?_⟩
    obtain ⟨-, b, hb, -⟩ := encodePush_eq_ok_iff.mp h
    exact absurd hb (other b)

/-! ### Reading -/

/-- The message that the fields and the payload of a push frame make. -/
def ofPush (fs : List (Field × String)) (b : Bytes) : Message :=
  ⟨refOf fs .joinRef, refOf fs .ref, valueOf fs .topic, valueOf fs .event, .bytes b⟩

theorem ofPush_pushFields (h : m.payload = .bytes b) :
    ofPush m.pushFields b = m.withoutEmptyRefs := by
  obtain ⟨joinRef, ref, topic, event, payload⟩ := m
  cases h
  simp [ofPush, pushFields, withoutEmptyRefs, refOf_eq_filter (r := joinRef),
    refOf_eq_filter (r := ref)]

theorem decodePush_kind (body : Bytes) : decodePush (pushKind :: body) =
    (Cursor.mk 1 body).fields [.joinRef, .ref, .topic, .event] >>= fun r => .ok (ofPush r.1 r.2) :=
  rfl

theorem kind_of_decodePush (h : decodePush f = .ok m) : ∃ body, f = pushKind :: body := by
  cases f with
  | nil => cases h
  | cons kind body =>
    by_cases hkind : kind = pushKind
    · exact ⟨body, by rw [hkind]⟩
    · simp only [decodePush, Cursor.ofFrame, Cursor.byte, bind, Except.bind, if_neg hkind] at h
      cases h

/-- The reader of pushes accepts the layouts of four texts and a payload, and reads just these. -/
theorem decodePush_eq_ok_iff : decodePush f = .ok m ↔
    ∃ fs b, fs.map (·.1) = [.joinRef, .ref, .topic, .event] ∧
      (∀ p ∈ fs, p.2.utf8ByteSize ≤ 255) ∧ f = frameOf pushKind fs b ∧ m = ofPush fs b := by
  constructor
  · intro h
    obtain ⟨body, rfl⟩ := kind_of_decodePush h
    rw [decodePush_kind, bind_eq_ok_iff] at h
    obtain ⟨⟨fs, b⟩, hfields, hm⟩ := h
    obtain ⟨hnames, hshort, hframe⟩ := (Cursor.fields_eq_ok_iff_layout pushKind).mp hfields
    exact ⟨fs, b, hnames, hshort, hframe, (Except.ok.inj hm).symm⟩
  · rintro ⟨fs, b, hnames, hshort, rfl, rfl⟩
    have hfields : (Cursor.mk 1 (frameOf pushKind fs b).tail).fields
        [.joinRef, .ref, .topic, .event] = .ok (fs, b) :=
      (Cursor.fields_eq_ok_iff_layout pushKind).mpr ⟨hnames, hshort, rfl⟩
    calc decodePush (frameOf pushKind fs b)
        = decodePush (pushKind :: (frameOf pushKind fs b).tail) := rfl
      _ = .ok (ofPush fs b) := by
        rw [decodePush_kind, hfields]
        rfl

/-- What was written is read. -/
theorem decodePush_of_encodePush (h : m.encodePush = .ok f) :
    decodePush f = .ok m.withoutEmptyRefs := by
  obtain ⟨fits, b, hb, rfl⟩ := encodePush_eq_ok_iff.mp h
  exact decodePush_eq_ok_iff.mpr
    ⟨m.pushFields, b, rfl, fun p hp => (fits p hp).short, rfl, (ofPush_pushFields hb).symm⟩

/-- Messages with one frame are told as one message. -/
theorem sameFields_of_encodePush (h : m.encodePush = .ok f) (h' : m'.encodePush = .ok f) :
    m.SameFields m' := by
  have hread := decodePush_of_encodePush h
  rw [decodePush_of_encodePush h'] at hread
  exact sameFields_of_withoutEmptyRefs (Except.ok.inj hread).symm

/--
The pushes of a client are its binary frames.  Each is the layout of its join ref, its ref, its topic,
its event and its payload, and a reader of this layout recovers them.  So one frame is written for the
messages with just these fields and this payload and for no others, where an absent ref is as an empty
one.
-/
theorem encodePush_unambiguous (m : Message) (f : Bytes) :
    (Serializer.encodeStandard m = .ok (.binary f) ↔ m.encodePush = .ok f) ∧
    (m.encodePush = .ok f →
      (∃ b, m.payload = .bytes b ∧ f = layout pushKind
        [utf8Bytes (m.joinRef.getD ""), utf8Bytes (m.ref.getD ""), utf8Bytes m.topic,
          utf8Bytes m.event] b) ∧
      decodePush f = .ok m.withoutEmptyRefs ∧
      ∀ m' : Message, m'.encodePush = .ok f ↔ m'.SameFields m) := by
  refine ⟨encodeStandard_eq_binary_iff, fun h => ⟨?_, decodePush_of_encodePush h, fun m' => ⟨?_, ?_⟩⟩⟩
  · obtain ⟨-, b, hb, hf⟩ := encodePush_eq_ok_iff.mp h
    exact ⟨b, hb, hf.symm⟩
  · exact fun h' => sameFields_of_encodePush h' h
  · exact fun same => same.encodePush_eq.trans h

/-- A push without a join ref is read as it was written, and a push with an empty one is the same. -/
theorem encodePush_unambiguous_short :
    let m : Message := ⟨none, some "3", "t", "e", .bytes [9, 8]⟩
    m.encodePush = .ok [0, 0, 1, 1, 1, 51, 116, 101, 9, 8] ∧
      decodePush [0, 0, 1, 1, 1, 51, 116, 101, 9, 8] = .ok m ∧
      { m with joinRef := some "" }.encodePush = .ok [0, 0, 1, 1, 1, 51, 116, 101, 9, 8] := by
  intro m
  have h : m.encodePush = .ok [0, 0, 1, 1, 1, 51, 116, 101, 9, 8] := by cbv
  obtain ⟨-, hread, hsame⟩ := (encodePush_unambiguous m _).2 h
  exact ⟨h, hread, (hsame _).mpr ⟨rfl, rfl, rfl, rfl, rfl⟩⟩

end Message

end Switchboard
