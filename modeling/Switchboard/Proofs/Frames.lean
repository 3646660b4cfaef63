import Mathlib
import Switchboard.Codec.Binary

/-!
# Binary frames, written and read

What the writers of binary frames accept and what the reader accepts.  A writer wants raw bytes and
fields that fit their length bytes; its error is about the first field that does not.  The reader wants
a known kind, a complete header, as many bytes as the header announces, and fields that are texts.
Both sides meet in `layout`: the reader gives fields and a payload if and only if the frame is their
layout, so reading undoes writing, and writing undoes reading when the fields are ASCII.

A reply is read as a status and a response, and is written again from that response: the writers take
raw bytes only.

Main definitions

* `BinaryFrame.Kind`: what a server sends, with the fields of its header;
* `BinaryFrame.Fits`, `BinaryFrame.FirstFault`: what a writer wants of its fields;
* `BinaryFrame.Grammatical`, `BinaryFrame.EndsEarly`: what the reader wants of a frame;
* `BinaryFrame.Cursor.Reached`: the places that a reader gets to.

Main results

* `BinaryFrame.decode_encode`: what the writers accept, how they fail, and that reading undoes them;
* `BinaryFrame.decode_iff_grammatical`: what the reader accepts, what it makes of it, and that it never
  leaves the frame.
-/

set_option autoImplicit false

namespace Switchboard

/-- The response of a reply, or the payload itself. -/
def Payload.body : Payload → Payload
  | .reply _ response => response
  | payload => payload

/-- More bytes at the end of raw bytes, also of those in a reply. -/
def Payload.extend (x : Bytes) : Payload → Payload
  | .bytes b => .bytes (b ++ x)
  | .reply status response => .reply status (response.extend x)
  | .json value => .json value

namespace Message

/-- The status of a reply; other messages have none. -/
def status (m : Message) : String := (m.payload.reply?.map (·.status)).getD ""

/-- A message that carries the response of its reply. -/
def bare (m : Message) : Message := { m with payload := m.payload.body }

/-- A message with more bytes at the end of its payload. -/
def extend (x : Bytes) (m : Message) : Message := { m with payload := m.payload.extend x }

end Message

namespace BinaryFrame

variable {field : Field} {value : String} {names : List Field} {fs : List (Field × String)}
variable {ns : List (Field × Nat)} {sz : List Nat} {bs : List Bytes} {b body payload f x : Bytes}
variable {n : Nat} {c c' : Cursor} {e : CodecError} {kind : UInt8} {m : Message}

/-! ### Steps that can fail -/

theorem bind_eq_ok_iff {α β : Type} {a : Except CodecError α} {g : α → Except CodecError β} {r : β} :
    (a >>= g) = .ok r ↔ ∃ v, a = .ok v ∧ g v = .ok r := by
  cases a <;> simp [bind, Except.bind]

theorem bind_eq_error_iff {α β : Type} {a : Except CodecError α} {g : α → Except CodecError β} :
    (a >>= g) = .error e ↔ a = .error e ∨ ∃ v, a = .ok v ∧ g v = .error e := by
  cases a <;> simp [bind, Except.bind]

/-! ### Fields that fit -/

/-- All characters are ASCII. -/
def Ascii (value : String) : Prop := ∀ c ∈ value.toList, c.toNat < 128

/-- A text that a field of a frame can carry. -/
structure Fits (value : String) : Prop where
  ascii : Ascii value
  short : value.utf8ByteSize ≤ 255

/-- What is wrong with the text of a field: characters come before length. -/
inductive Faulty (field : Field) (value : String) : CodecError → Prop
  | nonAscii (other : ¬ Ascii value) : Faulty field value (.nonAsciiField field.name)
  | tooLong (ascii : Ascii value) (long : 255 < value.utf8ByteSize) :
    Faulty field value (.fieldTooLong field.name value.utf8ByteSize)

/-- What is wrong with the first of several fields that does not fit. -/
inductive FirstFault : List (Field × String) → CodecError → Prop
  | here {field : Field} {value : String} {rest : List (Field × String)} {e : CodecError}
    (faulty : Faulty field value e) : FirstFault ((field, value) :: rest) e
  | later {field : Field} {value : String} {rest : List (Field × String)} {e : CodecError}
    (fits : Fits value) (fault : FirstFault rest e) : FirstFault ((field, value) :: rest) e

theorem isAscii_iff : isAscii value = true ↔ Ascii value := by
  simp [isAscii, Ascii]

instance (value : String) : Decidable (Ascii value) :=
  decidable_of_iff (isAscii value = true) isAscii_iff

theorem not_isAscii_iff : isAscii value = false ↔ ¬ Ascii value := by
  rw [← isAscii_iff, Bool.not_eq_true]

theorem fieldBytes_eq_ok_iff : fieldBytes field value = .ok b ↔ Fits value ∧ utf8Bytes value = b := by
  unfold fieldBytes
  constructor
  · intro h
    split_ifs at h with other long
    refine ⟨⟨isAscii_iff.mp (by simpa using other), by omega⟩, ?_⟩
    cases h
    rfl
  · rintro ⟨fits, rfl⟩
    rw [if_neg (by simp [isAscii_iff.mpr fits.ascii]), if_neg (by have := fits.short; omega)]

theorem fieldBytes_eq_error_iff : fieldBytes field value = .error e ↔ Faulty field value e := by
  unfold fieldBytes
  constructor
  · intro h
    split_ifs at h with other long
    · cases h
      exact .nonAscii (not_isAscii_iff.mp (by simpa using other))
    · cases h
      exact .tooLong (isAscii_iff.mp (by simpa using other)) long
  · intro h
    cases h with
    | nonAscii other => rw [if_pos (by simp [not_isAscii_iff.mpr other])]
    | tooLong ascii long => rw [if_neg (by simp [isAscii_iff.mpr ascii]), if_pos long]

theorem fieldsBytes_eq_ok_iff : fieldsBytes fs = .ok bs ↔
    (∀ p ∈ fs, Fits p.2) ∧ fs.map (fun p => utf8Bytes p.2) = bs := by
  induction fs generalizing bs with
  | nil => simp [fieldsBytes]
  | cons p rest ih =>
    simp only [fieldsBytes, bind_eq_ok_iff, fieldBytes_eq_ok_iff, ih, List.forall_mem_cons,
      List.map_cons]
    constructor
    · rintro ⟨_, ⟨fits, rfl⟩, _, ⟨hrest, rfl⟩, h⟩
      cases h
      exact ⟨⟨fits, hrest⟩, rfl⟩
    · rintro ⟨⟨fits, hrest⟩, rfl⟩
      exact ⟨_, ⟨fits, rfl⟩, _, ⟨hrest, rfl⟩, rfl⟩

theorem fieldsBytes_eq_error_iff : fieldsBytes fs = .error e ↔ FirstFault fs e := by
  induction fs with
  | nil =>
    constructor
    · intro h
      cases h
    · intro h
      cases h
  | cons p rest ih =>
    simp only [fieldsBytes, bind_eq_error_iff, fieldBytes_eq_ok_iff, fieldBytes_eq_error_iff, ih]
    constructor
    · rintro (faulty | ⟨_, ⟨fits, rfl⟩, fault | ⟨_, _, h⟩⟩)
      · exact .here faulty
      · exact .later fits fault
      · cases h
    · intro h
      cases h with
      | here faulty => exact .inl faulty
      | later fits fault => exact .inr ⟨_, ⟨fits, rfl⟩, .inl fault⟩

/-! ### Writing -/

/-- The frame of fields and a payload. -/
def frameOf (kind : UInt8) (fs : List (Field × String)) (payload : Bytes) : Bytes :=
  layout kind (fs.map fun p => utf8Bytes p.2) payload

theorem write_eq_ok_iff {body : Payload} : write kind fs body = .ok f ↔
    (∀ p ∈ fs, Fits p.2) ∧ ∃ b, body = .bytes b ∧ frameOf kind fs b = f := by
  simp only [write, bind_eq_ok_iff, fieldsBytes_eq_ok_iff]
  constructor
  · rintro ⟨_, ⟨fits, rfl⟩, h⟩
    cases body with
    | bytes b =>
      cases h
      exact ⟨fits, b, rfl, rfl⟩
    | json value => cases h
    | reply status response => cases h
  · rintro ⟨fits, b, rfl, rfl⟩
    exact ⟨_, ⟨fits, rfl⟩, rfl⟩

/-- The error of a payload that is not raw bytes. -/
def rawOnly : CodecError := .unencodablePayload "binary frames carry raw bytes only"

theorem write_eq_error_iff {body : Payload} : write kind fs body = .error e ↔
    FirstFault fs e ∨ (∀ p ∈ fs, Fits p.2) ∧ (∀ b, body ≠ .bytes b) ∧ e = rawOnly := by
  simp only [write, bind_eq_error_iff, fieldsBytes_eq_ok_iff, fieldsBytes_eq_error_iff]
  refine or_congr_right ⟨?_, ?_⟩
  · rintro ⟨_, ⟨fits, rfl⟩, h⟩
    cases body with
    | bytes b => cases h
    | json value =>
      cases h
      exact ⟨fits, nofun, rfl⟩
    | reply status response =>
      cases h
      exact ⟨fits, nofun, rfl⟩
  · rintro ⟨fits, other, rfl⟩
    refine ⟨_, ⟨fits, rfl⟩, ?_⟩
    cases body with
    | bytes b => exact absurd rfl (other b)
    | json value => rfl
    | reply status response => rfl

/-! ### The parts of a frame -/

/-- The lengths that the first `n` bytes announce. -/
def sizes (n : Nat) (body : Bytes) : List Nat := (body.take n).map UInt8.toNat

/-- The bytes of the fields that they announce. -/
def slices (n : Nat) (body : Bytes) : List Bytes := (sizes n body).splitLengths (body.drop n)

/-- The bytes behind the fields. -/
def remainder (n : Nat) (body : Bytes) : Bytes := (body.drop n).drop (sizes n body).sum

/-- Bytes that are the UTF-8 of a text. -/
def IsText (b : Bytes) : Prop := ∃ s, utf8Bytes s = b

/-- A header of `n` length bytes and as many bytes behind it as it announces. -/
structure Complete (n : Nat) (body : Bytes) : Prop where
  header : n ≤ body.length
  fields : (sizes n body).sum ≤ (body.drop n).length

theorem flatten_splitLengths_append (sz : List Nat) (b : Bytes) :
    (sz.splitLengths b).flatten ++ b.drop sz.sum = b := by
  induction sz generalizing b with
  | nil => simp
  | cons n sz ih =>
    rw [List.splitLengths_cons, List.flatten_cons, List.sum_cons, ← List.drop_drop, List.append_assoc,
      ih, List.take_append_drop]

theorem splitLengths_flatten_append (bs : List Bytes) (x : Bytes) :
    (bs.map List.length).splitLengths (bs.flatten ++ x) = bs := by
  induction bs with
  | nil => rfl
  | cons b bs ih => simp [List.splitLengths_cons, ih]

theorem length_of_mem_slices (h : b ∈ slices n body) : b.length ≤ 255 := by
  refine List.length_mem_splitLengths _ _ 255 (fun k hk => ?_) b h
  obtain ⟨u, -, rfl⟩ := List.mem_map.mp hk
  exact Nat.le_of_lt_succ u.toNat_lt

/-- A complete frame is the layout of its parts. -/
theorem Complete.layout_slices (h : Complete n body) :
    layout kind (slices n body) (remainder n body) = kind :: body := by
  have hlengths : (slices n body).map List.length = sizes n body :=
    List.map_splitLengths_length _ _ h.fields
  have hheader : (slices n body).map (fun b => UInt8.ofNat b.length) = body.take n := by
    calc (slices n body).map (fun b => UInt8.ofNat b.length)
        = ((slices n body).map List.length).map UInt8.ofNat := by rw [List.map_map]; rfl
      _ = (body.take n).map (fun u => UInt8.ofNat u.toNat) := by rw [hlengths, sizes, List.map_map]; rfl
      _ = body.take n := by simp
  unfold layout
  rw [hheader, slices, remainder, flatten_splitLengths_append, List.take_append_drop]

/-- A layout is complete, and its parts are the ones it was made of. -/
theorem complete_layout (hshort : ∀ b ∈ bs, b.length ≤ 255) (hbody : kind :: body = layout kind bs x) :
    Complete bs.length body ∧ slices bs.length body = bs ∧ remainder bs.length body = x := by
  cases hbody
  have hsizes : sizes bs.length
      (bs.map (fun b => UInt8.ofNat b.length) ++ (bs.flatten ++ x)) = bs.map List.length := by
    rw [sizes, List.take_left' (by simp), List.map_map]
    refine List.map_congr_left fun b hb => ?_
    have := hshort b hb
    simp only [Function.comp_apply, UInt8.toNat_ofNat']
    omega
  have hdrop : (bs.map (fun b => UInt8.ofNat b.length) ++ (bs.flatten ++ x)).drop bs.length
      = bs.flatten ++ x := List.drop_left' (by simp)
  have hsum : (bs.map List.length).sum = bs.flatten.length := (List.length_flatten).symm
  refine ⟨⟨by simp, ?_⟩, ?_, ?_⟩
  · rw [hsizes, hdrop, hsum]
    simp
  · rw [slices, hsizes, hdrop, splitLengths_flatten_append]
  · rw [remainder, hsizes, hdrop, hsum, List.drop_left]

/-! ### Reading -/

namespace Cursor

/-- The place `n` bytes further on. -/
def skip (c : Cursor) (n : Nat) : Cursor := ⟨c.passed + n, c.rest.drop n⟩

theorem available_skip (h : n ≤ c.rest.length) : (c.skip n).available = c.available := by
  simp only [available, skip, List.length_drop]
  omega

theorem skip_skip (c : Cursor) (n k : Nat) : (c.skip n).skip k = c.skip (n + k) := by
  simp [skip, Nat.add_assoc]

theorem take_eq_ok_iff : c.take n = .ok (b, c') ↔
    n ≤ c.rest.length ∧ b = c.rest.take n ∧ c' = c.skip n := by
  unfold take skip
  split_ifs with h <;> simp [h, eq_comm]

theorem text_eq_ok_iff : c.text field n = .ok (value, c') ↔
    n ≤ c.rest.length ∧ utf8Bytes value = c.rest.take n ∧ c' = c.skip n := by
  simp only [text, bind_eq_ok_iff, Prod.exists, take_eq_ok_iff]
  constructor
  · rintro ⟨_, _, ⟨h, rfl, rfl⟩, hs⟩
    split at hs
    · rename_i s hread
      cases hs
      exact ⟨h, utf8Text?_eq_some_iff.mp hread, rfl⟩
    · cases hs
  · rintro ⟨h, hvalue, rfl⟩
    refine ⟨_, _, ⟨h, rfl, rfl⟩, ?_⟩
    rw [utf8Text?_eq_some_iff.mpr hvalue]
    rfl

/-- A complete header is read off, one length for each name. -/
theorem lengths_of_le (h : names.length ≤ c.rest.length) :
    c.lengths names = .ok (names.zip (sizes names.length c.rest), c.skip names.length) := by
  induction names generalizing c with
  | nil => rfl
  | cons name names ih =>
    obtain ⟨passed, rest⟩ := c
    cases rest with
    | nil => simp at h
    | cons u rest =>
      have hih := ih (c := ⟨passed + 1, rest⟩) (by simpa using h)
      simp only [lengths, byte, bind, Except.bind, hih, pure, Except.pure, sizes, skip,
        List.length_cons, List.take_succ_cons, List.map_cons, List.zip_cons_cons, List.drop_succ_cons]
      rw [Nat.add_assoc, Nat.add_comm 1]

/-- A header that breaks off is an error: one more byte is needed. -/
theorem lengths_of_lt (h : c.rest.length < names.length) :
    c.lengths names = .error (.truncated (c.available + 1) c.available) := by
  induction names generalizing c with
  | nil => simp at h
  | cons name names ih =>
    obtain ⟨passed, rest⟩ := c
    cases rest with
    | nil => rfl
    | cons u rest =>
      have hih := ih (c := ⟨passed + 1, rest⟩) (by simpa using h)
      simp only [lengths, byte, bind, Except.bind, hih, available, List.length_cons]
      rw [Nat.add_assoc passed 1, Nat.add_comm 1]

theorem texts_eq_ok_iff : c.texts ns = .ok (fs, c') ↔
    (ns.map (·.2)).sum ≤ c.rest.length ∧ fs.map (·.1) = ns.map (·.1) ∧
      fs.map (fun p => utf8Bytes p.2) = (ns.map (·.2)).splitLengths c.rest ∧
      c' = c.skip (ns.map (·.2)).sum := by
  induction ns generalizing c c' fs with
  | nil =>
    simp only [texts, List.map_nil, List.sum_nil, Nat.zero_le, true_and, List.splitLengths_nil,
      List.map_eq_nil_iff]
    constructor
    · intro h
      cases h
      exact ⟨rfl, rfl, rfl⟩
    · rintro ⟨rfl, -, rfl⟩
      rfl
  | cons p ns ih =>
    obtain ⟨name, n⟩ := p
    simp only [texts, bind_eq_ok_iff, Prod.exists, text_eq_ok_iff, List.map_cons, List.sum_cons,
      List.splitLengths_cons]
    constructor
    · rintro ⟨s, _, ⟨hn, hs, rfl⟩, ss, c'', hss, h⟩
      obtain ⟨hsum, hnames, hslices, rfl⟩ := ih.mp hss
      cases h
      refine ⟨?_, by simp [hnames], by simpa [hs, skip] using hslices, skip_skip c n _⟩
      rw [skip, List.length_drop] at hsum
      omega
    · rintro ⟨hsum, hnames, hslices, rfl⟩
      obtain ⟨⟨_, s⟩, ss, rfl, rfl, -⟩ := List.map_eq_cons_iff.mp hnames
      obtain ⟨hs, hslices⟩ := List.cons.inj hslices
      obtain ⟨-, hnames⟩ := List.cons.inj hnames
      have hrest : (ns.map (·.2)).sum ≤ (c.skip n).rest.length := by
        rw [skip, List.length_drop]
        omega
      exact ⟨s, _, ⟨by omega, hs, rfl⟩, ss, _, ih.mpr ⟨hrest, hnames, hslices, (skip_skip c n _).symm⟩,
        rfl⟩

/-- Fields that break off are an error, if all fields before them are texts. -/
theorem texts_of_lt {before after : List (Field × Nat)} (hns : ns = before ++ (field, n) :: after)
    (fit : (before.map (·.2)).sum ≤ c.rest.length)
    (texts : ∀ b ∈ (before.map (·.2)).splitLengths c.rest, IsText b)
    (short : c.rest.length < (before.map (·.2)).sum + n) :
    c.texts ns = .error (.truncated (c.passed + (before.map (·.2)).sum + n) c.available) := by
  subst hns
  induction before generalizing c with
  | nil =>
    have htake : c.take n = .error (.truncated (c.passed + n) c.available) := by
      simp at short
      simp [take, Nat.not_le.mpr short]
    simp [Cursor.texts, text, htake, bind, Except.bind]
  | cons p before ih =>
    obtain ⟨name, k⟩ := p
    simp only [List.map_cons, List.sum_cons, List.splitLengths_cons, List.forall_mem_cons] at fit texts
    rw [List.map_cons, List.sum_cons] at short
    obtain ⟨⟨s, hs⟩, texts⟩ := texts
    have hk : k ≤ c.rest.length := by omega
    have htext : c.text name k = .ok (s, c.skip k) := text_eq_ok_iff.mpr ⟨hk, hs, rfl⟩
    have hlength : (c.skip k).rest.length = c.rest.length - k := by simp [skip]
    have hih := ih (c := c.skip k) (by omega) texts (by omega)
    rw [available_skip hk] at hih
    simp only [List.cons_append, Cursor.texts, htext, bind, Except.bind, hih, List.map_cons,
      List.sum_cons]
    simp [skip, Nat.add_assoc]

/-- Every complete list of texts is read. -/
theorem texts_ok (fit : (ns.map (·.2)).sum ≤ c.rest.length)
    (texts : ∀ b ∈ (ns.map (·.2)).splitLengths c.rest, IsText b) : ∃ r, c.texts ns = .ok r := by
  induction ns generalizing c with
  | nil => exact ⟨_, rfl⟩
  | cons p ns ih =>
    obtain ⟨name, n⟩ := p
    simp only [List.map_cons, List.sum_cons, List.splitLengths_cons, List.forall_mem_cons] at fit texts
    obtain ⟨⟨s, hs⟩, texts⟩ := texts
    have htext : c.text name n = .ok (s, c.skip n) := text_eq_ok_iff.mpr ⟨by omega, hs, rfl⟩
    have hlength : (c.skip n).rest.length = c.rest.length - n := by simp [skip]
    obtain ⟨⟨ss, c'⟩, hss⟩ := ih (c := c.skip n) (by omega) texts
    refine ⟨((name, s) :: ss, c'), ?_⟩
    simp only [Cursor.texts, htext, hss, bind, Except.bind, pure, Except.pure]

theorem map_fst_zip_sizes (h : names.length ≤ body.length) :
    (names.zip (sizes names.length body)).map (·.1) = names :=
  List.map_fst_zip (by simp [sizes, h])

theorem map_snd_zip_sizes : (names.zip (sizes names.length body)).map (·.2) = sizes names.length body :=
  List.map_snd_zip (by simp [sizes])

/-- The fields and the payload are what the header announces. -/
theorem fields_eq_ok_iff : c.fields names = .ok (fs, payload) ↔
    Complete names.length c.rest ∧ fs.map (·.1) = names ∧
      fs.map (fun p => utf8Bytes p.2) = slices names.length c.rest ∧
      payload = remainder names.length c.rest := by
  rcases Nat.lt_or_ge c.rest.length names.length with hlt | hle
  · simp only [fields, lengths_of_lt hlt, bind, Except.bind]
    refine ⟨nofun, fun h => ?_⟩
    exact absurd h.1.header (Nat.not_le.mpr hlt)
  · simp only [fields, lengths_of_le hle, bind_eq_ok_iff, Prod.exists]
    constructor
    · rintro ⟨_, _, h, ss, c', hss, hr⟩
      cases h
      cases hr
      obtain ⟨hsum, hnames, hslices, rfl⟩ := texts_eq_ok_iff.mp hss
      rw [map_snd_zip_sizes] at hsum hslices ⊢
      exact ⟨⟨hle, hsum⟩, hnames.trans (map_fst_zip_sizes hle), hslices, rfl⟩
    · rintro ⟨complete, hnames, hslices, rfl⟩
      refine ⟨_, _, rfl, fs, _, texts_eq_ok_iff.mpr ⟨?_, ?_, ?_, rfl⟩, ?_⟩
      · rw [map_snd_zip_sizes]
        exact complete.fields
      · rw [hnames, map_fst_zip_sizes hle]
      · rw [map_snd_zip_sizes]
        exact hslices
      · rw [map_snd_zip_sizes]
        rfl

/-- The fields and the payload are those that the frame is the layout of. -/
theorem fields_eq_ok_iff_layout (kind : UInt8) : c.fields names = .ok (fs, payload) ↔
    fs.map (·.1) = names ∧ (∀ p ∈ fs, p.2.utf8ByteSize ≤ 255) ∧
      kind :: c.rest = frameOf kind fs payload := by
  rw [fields_eq_ok_iff]
  constructor
  · rintro ⟨complete, hnames, hslices, rfl⟩
    refine ⟨hnames, fun p hp => ?_, ?_⟩
    · rw [← length_utf8Bytes]
      exact length_of_mem_slices (hslices ▸ List.mem_map_of_mem hp)
    · rw [frameOf, hslices, complete.layout_slices]
  · rintro ⟨rfl, hshort, hframe⟩
    have hbytes : ∀ b ∈ fs.map (fun p => utf8Bytes p.2), b.length ≤ 255 := by
      intro b hb
      obtain ⟨p, hp, rfl⟩ := List.mem_map.mp hb
      rw [length_utf8Bytes]
      exact hshort p hp
    obtain ⟨complete, hslices, hremainder⟩ := complete_layout hbytes hframe
    rw [List.length_map] at complete hslices hremainder
    rw [List.length_map]
    exact ⟨complete, rfl, hslices.symm, hremainder.symm⟩

/-- Complete fields that are texts are read. -/
theorem fields_ok_iff : (∃ r, c.fields names = .ok r) ↔
    Complete names.length c.rest ∧ ∀ b ∈ slices names.length c.rest, IsText b := by
  constructor
  · rintro ⟨⟨fs, payload⟩, h⟩
    obtain ⟨complete, -, hslices, -⟩ := fields_eq_ok_iff.mp h
    refine ⟨complete, fun b hb => ?_⟩
    rw [← hslices] at hb
    obtain ⟨p, -, rfl⟩ := List.mem_map.mp hb
    exact ⟨p.2, rfl⟩
  · rintro ⟨complete, htexts⟩
    have hread : ∃ r, (c.skip names.length).texts (names.zip (sizes names.length c.rest)) = .ok r := by
      refine texts_ok ?_ ?_
      · rw [map_snd_zip_sizes]
        exact complete.fields
      · rw [map_snd_zip_sizes]
        exact htexts
    obtain ⟨⟨ss, c'⟩, hss⟩ := hread
    refine ⟨(ss, c'.rest), ?_⟩
    simp only [fields, lengths_of_le complete.header, hss, bind, Except.bind, pure, Except.pure]

end Cursor

/-! ### What a server sends -/

/-- What a server sends. -/
inductive Kind where
  | push
  | reply
  | broadcast
  deriving DecidableEq, Repr

namespace Kind

variable {k : Kind} {s status : String}

/-- The first byte of a frame. -/
def byte : Kind → UInt8
  | .push => 0
  | .reply => 1
  | .broadcast => 2

/-- The fields of a header. -/
def header : Kind → List Field
  | .push => [.joinRef, .topic, .event]
  | .reply => [.joinRef, .ref, .topic, .event]
  | .broadcast => [.topic, .event]

/-- The writer of a kind; only replies have a status. -/
def encode : Kind → String → Message → Except CodecError Bytes
  | .push, _, m => m.encodeServerPush
  | .reply, status, m => m.encodeReply status
  | .broadcast, _, m => m.encodeBroadcast

/-- The fields that are written; an absent ref is empty. -/
def written : Kind → String → Message → List (Field × String)
  | .push, _, m => [(.joinRef, m.joinRef.getD ""), (.topic, m.topic), (.event, m.event)]
  | .reply, status, m =>
    [(.joinRef, m.joinRef.getD ""), (.ref, m.ref.getD ""), (.topic, m.topic), (.event, status)]
  | .broadcast, _, m => [(.topic, m.topic), (.event, m.event)]

/-- The message that the fields and the payload of a frame make. -/
def received : Kind → List (Field × String) → Bytes → Message
  | .push, fs, b => ⟨refOf fs .joinRef, none, valueOf fs .topic, valueOf fs .event, .bytes b⟩
  | .reply, fs, b =>
    ⟨refOf fs .joinRef, refOf fs .ref, valueOf fs .topic, Event.reply,
      .reply (valueOf fs .event) (.bytes b)⟩
  | .broadcast, fs, b => ⟨none, none, valueOf fs .topic, valueOf fs .event, .bytes b⟩

/-- The message that a reader makes of a written one; an empty ref is no ref. -/
def readBack : Kind → String → Message → Message
  | .push, _, m => { m with joinRef := m.joinRef.filter (· ≠ ""), ref := none }
  | .reply, status, m =>
    { m with
      joinRef := m.joinRef.filter (· ≠ "")
      ref := m.ref.filter (· ≠ "")
      event := Event.reply
      payload := .reply status m.payload }
  | .broadcast, _, m => { m with joinRef := none, ref := none }

theorem encode_eq (k : Kind) (status : String) (m : Message) :
    k.encode status m = write k.byte (k.written status m) m.payload := by
  cases k <;> rfl

theorem map_fst_written (k : Kind) (status : String) (m : Message) :
    (k.written status m).map (·.1) = k.header := by
  cases k <;> rfl

end Kind

/-! ### Fields by name -/

@[simp] theorem valueOf_cons_self : valueOf ((field, value) :: fs) field = value := by
  simp [valueOf]

@[simp] theorem valueOf_cons_of_ne {other : Field} (h : other ≠ field) :
    valueOf ((other, value) :: fs) field = valueOf fs field := by
  have hne : (field == other) = false := by simpa using h.symm
  simp [valueOf, List.lookup_cons, hne]

theorem refOf_eq_filter {r : Option Ref} (h : valueOf fs field = r.getD "") :
    refOf fs field = r.filter (· ≠ "") := by
  rw [refOf, h]
  cases r with
  | none => rfl
  | some r => by_cases hr : r = "" <;> simp [hr, Option.filter]

/-- Fields whose names differ are told by their values. -/
theorem map_valueOf (h : (fs.map (·.1)).Nodup) :
    (fs.map (·.1)).map (fun field => (field, valueOf fs field)) = fs := by
  induction fs with
  | nil => rfl
  | cons p fs ih =>
    obtain ⟨field, value⟩ := p
    obtain ⟨hfresh, hnodup⟩ := List.nodup_cons.mp h
    have hrest : (fs.map (·.1)).map (fun other => (other, valueOf ((field, value) :: fs) other))
        = (fs.map (·.1)).map (fun other => (other, valueOf fs other)) := by
      refine List.map_congr_left fun other hother => ?_
      have hne : field ≠ other := fun heq => hfresh (by rwa [heq])
      rw [valueOf_cons_of_ne hne]
    rw [List.map_cons, List.map_cons, hrest, ih hnodup, valueOf_cons_self]

theorem getD_refOf (fs : List (Field × String)) (field : Field) :
    (refOf fs field).getD "" = valueOf fs field := by
  unfold refOf
  split_ifs with h
  · exact h.symm
  · rfl

namespace Kind

variable {k : Kind} {status : String}

theorem received_written (h : m.payload = .bytes b) :
    k.received (k.written status m) b = k.readBack status m := by
  obtain ⟨joinRef, ref, topic, event, payload⟩ := m
  cases h
  cases k with
  | push => simp [received, written, readBack, refOf_eq_filter (r := joinRef)]
  | reply =>
    simp [received, written, readBack, refOf_eq_filter (r := joinRef), refOf_eq_filter (r := ref)]
  | broadcast => simp [received, written, readBack]

/-- The fields of a received message are those of its frame. -/
theorem written_received (h : fs.map (·.1) = k.header) :
    k.written (k.received fs b).status (k.received fs b) = fs := by
  have hnodup : (fs.map (·.1)).Nodup := by
    rw [h]
    cases k <;> decide
  calc k.written (k.received fs b).status (k.received fs b)
      = k.header.map (fun field => (field, valueOf fs field)) := by
        cases k <;> simp [written, received, header, getD_refOf, Message.status, Payload.reply?]
    _ = fs := by rw [← h, map_valueOf hnodup]

theorem written_bare (k : Kind) (status : String) (m : Message) :
    k.written status m.bare = k.written status m := by
  cases k <;> rfl

theorem body_received (k : Kind) (fs : List (Field × String)) (b : Bytes) :
    (k.received fs b).bare.payload = .bytes b := by
  cases k <;> rfl

theorem received_append (k : Kind) (fs : List (Field × String)) (b x : Bytes) :
    k.received fs (b ++ x) = (k.received fs b).extend x := by
  cases k <;> rfl

end Kind

/-! ### Frames of a server -/

theorem decodeBinary_byte (k : Kind) (body : Bytes) :
    Message.decodeBinary (k.byte :: body) =
      (Cursor.mk 1 body).fields k.header >>= fun r => .ok (k.received r.1 r.2) := by
  cases k <;> rfl

theorem decodeBinary_of_ne (h : ∀ k : Kind, k.byte ≠ kind) :
    Message.decodeBinary (kind :: body) = .error (.unknownKind kind) := by
  have hpush : kind ≠ pushKind := (h .push).symm
  have hreply : kind ≠ replyKind := (h .reply).symm
  have hbroadcast : kind ≠ broadcastKind := (h .broadcast).symm
  simp only [Message.decodeBinary, Cursor.ofFrame, Cursor.byte, bind, Except.bind, if_neg hpush,
    if_neg hreply, if_neg hbroadcast]
  rfl

/-- A frame is read as a message only if it has a kind and a body. -/
theorem kind_of_decodeBinary (h : Message.decodeBinary f = .ok m) :
    ∃ (k : Kind) (body : Bytes), f = k.byte :: body := by
  cases f with
  | nil => cases h
  | cons u body =>
    by_cases hu : ∃ k : Kind, k.byte = u
    · obtain ⟨k, rfl⟩ := hu
      exact ⟨k, body, rfl⟩
    · rw [decodeBinary_of_ne fun k hk => hu ⟨k, hk⟩] at h
      cases h

theorem decodeBinary_byte_eq_ok_iff {k : Kind} : Message.decodeBinary (k.byte :: body) = .ok m ↔
    ∃ fs b, (Cursor.mk 1 body).fields k.header = .ok (fs, b) ∧ m = k.received fs b := by
  rw [decodeBinary_byte, bind_eq_ok_iff]
  constructor
  · rintro ⟨⟨fs, b⟩, hfields, h⟩
    cases h
    exact ⟨fs, b, hfields, rfl⟩
  · rintro ⟨fs, b, hfields, rfl⟩
    exact ⟨(fs, b), hfields, rfl⟩

/-- The layout of fields and a payload is read as their message. -/
theorem decodeBinary_frameOf {k : Kind} (hnames : fs.map (·.1) = k.header)
    (hshort : ∀ p ∈ fs, p.2.utf8ByteSize ≤ 255) :
    Message.decodeBinary (frameOf k.byte fs b) = .ok (k.received fs b) :=
  decodeBinary_byte_eq_ok_iff.mpr
    ⟨fs, b, (Cursor.fields_eq_ok_iff_layout k.byte).mpr ⟨hnames, hshort, rfl⟩, rfl⟩

theorem frameOf_append (kind : UInt8) (fs : List (Field × String)) (b x : Bytes) :
    frameOf kind fs b ++ x = frameOf kind fs (b ++ x) := by
  simp [frameOf, layout]

theorem encode_eq_ok_iff {k : Kind} {status : String} : k.encode status m = .ok f ↔
    (∀ p ∈ k.written status m, Fits p.2) ∧
      ∃ b, m.payload = .bytes b ∧ frameOf k.byte (k.written status m) b = f := by
  rw [Kind.encode_eq, write_eq_ok_iff]

/--
The writers accept raw bytes in fields that fit, and nothing else; what they write is read as the
message that was written, in the form of its kind.  They report the first field that does not fit, and
the payload only when all fields fit.
-/
theorem decode_encode (k : Kind) (status : String) (m : Message) :
    ((∃ f, k.encode status m = .ok f) ↔
      (∃ b, m.payload = .bytes b) ∧ ∀ p ∈ k.written status m, Fits p.2) ∧
    (∀ f, k.encode status m = .ok f → Message.decodeBinary f = .ok (k.readBack status m)) ∧
    ∀ e, k.encode status m = .error e ↔
      FirstFault (k.written status m) e ∨
        (∀ p ∈ k.written status m, Fits p.2) ∧ (∀ b, m.payload ≠ .bytes b) ∧ e = rawOnly := by
  refine ⟨⟨?_, ?_⟩, ?_, ?_⟩
  · rintro ⟨f, h⟩
    obtain ⟨fits, b, hb, -⟩ := encode_eq_ok_iff.mp h
    exact ⟨⟨b, hb⟩, fits⟩
  · rintro ⟨⟨b, hb⟩, fits⟩
    exact ⟨_, encode_eq_ok_iff.mpr ⟨fits, b, hb, rfl⟩⟩
  · intro f h
    obtain ⟨fits, b, hb, rfl⟩ := encode_eq_ok_iff.mp h
    rw [decodeBinary_frameOf (k.map_fst_written status m) fun p hp => (fits p hp).short,
      Kind.received_written hb]
  · intro e
    rw [Kind.encode_eq, write_eq_error_iff]

/-! ### The grammar of frames -/

/-- A frame of a known kind with a complete header, complete fields, and texts in the fields. -/
def Grammatical (f : Bytes) : Prop :=
  ∃ (k : Kind) (body : Bytes), f = k.byte :: body ∧ Complete k.header.length body ∧
    ∀ b ∈ slices k.header.length body, IsText b

/-- A frame that ends within its header, or within a field when all fields before it are texts. -/
inductive EndsEarly : Bytes → Prop
  | empty : EndsEarly []
  | header {k : Kind} {body : Bytes} (short : body.length < k.header.length) :
    EndsEarly (k.byte :: body)
  | field {k : Kind} {body : Bytes} {before after : List Nat} {n : Nat}
    (complete : k.header.length ≤ body.length)
    (announced : sizes k.header.length body = before ++ n :: after)
    (fit : before.sum ≤ (body.drop k.header.length).length)
    (texts : ∀ b ∈ before.splitLengths (body.drop k.header.length), IsText b)
    (short : (body.drop k.header.length).length < before.sum + n) : EndsEarly (k.byte :: body)

theorem decodeBinary_ok_iff : (∃ m, Message.decodeBinary f = .ok m) ↔ Grammatical f := by
  constructor
  · rintro ⟨m, h⟩
    obtain ⟨k, body, rfl⟩ := kind_of_decodeBinary h
    obtain ⟨fs, b, hfields, -⟩ := decodeBinary_byte_eq_ok_iff.mp h
    exact ⟨k, body, rfl, Cursor.fields_ok_iff.mp ⟨_, hfields⟩⟩
  · rintro ⟨k, body, rfl, hbody⟩
    obtain ⟨⟨fs, b⟩, hfields⟩ := (Cursor.fields_ok_iff (c := ⟨1, body⟩)).mpr hbody
    exact ⟨_, decodeBinary_byte_eq_ok_iff.mpr ⟨fs, b, hfields, rfl⟩⟩

/-- Fields of a frame that break off are an error that says how far the frame should reach. -/
theorem Cursor.fields_of_lt {before after : List Nat} (complete : names.length ≤ c.rest.length)
    (announced : sizes names.length c.rest = before ++ n :: after)
    (fit : before.sum ≤ (c.rest.drop names.length).length)
    (texts : ∀ b ∈ before.splitLengths (c.rest.drop names.length), IsText b)
    (short : (c.rest.drop names.length).length < before.sum + n) :
    c.fields names =
      .error (.truncated (c.passed + names.length + before.sum + n) c.available) := by
  obtain ⟨ns₁, ns₂, hns, rfl, hns₂⟩ :=
    List.map_eq_append_iff.mp (map_snd_zip_sizes.trans announced)
  obtain ⟨⟨field, _⟩, ns₃, rfl, rfl, -⟩ := List.map_eq_cons_iff.mp hns₂
  have htexts := texts_of_lt (c := c.skip names.length) hns fit texts short
  rw [available_skip complete] at htexts
  simp only [fields, lengths_of_le complete, htexts, bind, Except.bind]
  rfl

/-- A frame that ends early is truncated: more bytes are needed than there are. -/
theorem EndsEarly.truncated (h : EndsEarly f) :
    ∃ needed, f.length < needed ∧ Message.decodeBinary f = .error (.truncated needed f.length) := by
  cases h with
  | empty => exact ⟨1, Nat.one_pos, rfl⟩
  | @header k body short =>
    have hlengths := Cursor.lengths_of_lt (c := ⟨1, body⟩) short
    refine ⟨body.length + 2, by simp, ?_⟩
    rw [decodeBinary_byte, Cursor.fields, hlengths]
    simp [Cursor.available, bind, Except.bind, Nat.add_comm 1]
  | @field k body before after n complete announced fit texts short =>
    have hfields := Cursor.fields_of_lt (c := ⟨1, body⟩) complete announced fit texts short
    refine ⟨1 + k.header.length + before.sum + n, ?_, ?_⟩
    · rw [List.length_drop] at short
      rw [List.length_cons]
      omega
    · rw [decodeBinary_byte, hfields, List.length_cons, Nat.add_comm body.length]
      rfl

/-- A broadcast announces a topic of five bytes and an event of one, and has one byte. -/
example : Message.decodeBinary [2, 5, 1, 97] = .error (.truncated 8 4) := rfl

/-! ### The reader stays in the frame -/

/-- The places that a reader of a frame gets to, byte by byte or by several bytes at once. -/
inductive Cursor.Reached (f : Bytes) : Cursor → Prop
  | start : Reached f (.ofFrame f)
  | byte {c c' : Cursor} {u : UInt8} (reached : Reached f c) (read : c.byte = .ok (u, c')) :
    Reached f c'
  | take {c c' : Cursor} {n : Nat} {b : Bytes} (reached : Reached f c) (read : c.take n = .ok (b, c')) :
    Reached f c'

namespace Cursor

theorem byte_eq_ok_iff {u : UInt8} : c.byte = .ok (u, c') ↔
    ∃ rest, c.rest = u :: rest ∧ c' = ⟨c.passed + 1, rest⟩ := by
  obtain ⟨passed, rest⟩ := c
  cases rest with
  | nil => simp [byte]
  | cons v rest =>
    constructor
    · intro h
      cases h
      exact ⟨rest, rfl, rfl⟩
    · rintro ⟨_, h, rfl⟩
      cases h
      rfl

/-- What is left of the frame begins where the reader is. -/
theorem Reached.inside (h : c.Reached f) : c.passed ≤ f.length ∧ c.rest = f.drop c.passed := by
  induction h with
  | start => exact ⟨Nat.zero_le _, rfl⟩
  | @byte c c' u _ read ih =>
    obtain ⟨hle, hrest⟩ := ih
    obtain ⟨rest, hcons, rfl⟩ := byte_eq_ok_iff.mp read
    rw [hrest] at hcons
    have hlength := congrArg List.length hcons
    rw [List.length_drop, List.length_cons] at hlength
    refine ⟨by dsimp only; omega, ?_⟩
    rw [← List.drop_drop, hcons]
    rfl
  | @take c c' n b _ read ih =>
    obtain ⟨hle, hrest⟩ := ih
    obtain ⟨hn, -, rfl⟩ := take_eq_ok_iff.mp read
    rw [hrest, List.length_drop] at hn
    refine ⟨by dsimp only [skip]; omega, ?_⟩
    rw [skip, hrest, List.drop_drop]

end Cursor

/--
The reader accepts the frames of the grammar and no others.  The fields of the message are the announced
slices and its payload is the rest of the frame, so more bytes at the end are more payload; a message
whose fields are ASCII is written as the frame it was read from, where a reply is written from its
response.  A frame that ends early is truncated, and whatever the frame, each read is of bytes of it.
-/
theorem decode_iff_grammatical (f : Bytes) :
    ((∃ m, Message.decodeBinary f = .ok m) ↔ Grammatical f) ∧
    (∀ m, Message.decodeBinary f = .ok m → ∃ (k : Kind) (body : Bytes) (fs : List (Field × String)),
      f = k.byte :: body ∧ fs.map (·.1) = k.header ∧
      fs.map (fun p => utf8Bytes p.2) = slices k.header.length body ∧
      m = k.received fs (remainder k.header.length body) ∧
      (∀ x, Message.decodeBinary (f ++ x) = .ok (m.extend x)) ∧
      ((∀ p ∈ fs, Ascii p.2) → k.encode m.status m.bare = .ok f)) ∧
    (EndsEarly f → ∃ needed, f.length < needed ∧
      Message.decodeBinary f = .error (.truncated needed f.length)) ∧
    ∀ c : Cursor, c.Reached f →
      (∀ u c', c.byte = .ok (u, c') → f[c.passed]? = some u) ∧
      ∀ n b c', c.take n = .ok (b, c') → c.passed + n ≤ f.length ∧ b = (f.drop c.passed).take n := by
  refine ⟨decodeBinary_ok_iff, ?_, EndsEarly.truncated, ?_⟩
  · intro m h
    obtain ⟨k, body, rfl⟩ := kind_of_decodeBinary h
    obtain ⟨fs, b, hfields, rfl⟩ := decodeBinary_byte_eq_ok_iff.mp h
    obtain ⟨-, hnames, hslices, hb⟩ := Cursor.fields_eq_ok_iff.mp hfields
    obtain ⟨-, hshort, hframe⟩ := (Cursor.fields_eq_ok_iff_layout k.byte).mp hfields
    refine ⟨k, body, fs, rfl, hnames, hslices, by rw [← hb], ?_, ?_⟩
    · intro x
      rw [hframe, frameOf_append, decodeBinary_frameOf hnames hshort, Kind.received_append]
    · intro hascii
      refine encode_eq_ok_iff.mpr ⟨?_, b, Kind.body_received k fs b, ?_⟩
      · rw [Kind.written_bare, Kind.written_received hnames]
        exact fun p hp => ⟨hascii p hp, hshort p hp⟩
      · rw [Kind.written_bare, Kind.written_received hnames, hframe]
  · intro c hc
    obtain ⟨hle, hrest⟩ := hc.inside
    refine ⟨fun u c' h => ?_, fun n b c' h => ?_⟩
    · obtain ⟨rest, hcons, -⟩ := Cursor.byte_eq_ok_iff.mp h
      rw [hrest] at hcons
      rw [← Nat.add_zero c.passed, ← List.getElem?_drop, hcons]
      rfl
    · obtain ⟨hn, hb, -⟩ := Cursor.take_eq_ok_iff.mp h
      rw [hrest] at hn hb
      rw [List.length_drop] at hn
      exact ⟨by omega, hb⟩

/-- A reply is not written as it was read: its payload is no longer raw bytes. -/
theorem reply_not_rewritten :
    ∃ m, Message.decodeBinary [1, 0, 0, 1, 2, 116, 111, 107, 7] = .ok m ∧
      (∀ p ∈ Kind.reply.written m.status m, Ascii p.2) ∧
      Kind.reply.encode m.status m = .error rawOnly := by
  have hnames : [(Field.joinRef, ""), (.ref, ""), (.topic, "t"), (.event, "ok")].map (·.1)
      = Kind.reply.header := rfl
  have hfits : ∀ p ∈ [(Field.joinRef, ""), (.ref, ""), (.topic, "t"), (.event, "ok")], Fits p.2 := by
    have hempty : Fits "" := ⟨by decide, by decide⟩
    have ht : Fits "t" := ⟨by decide, by decide⟩
    have hok : Fits "ok" := ⟨by decide, by decide⟩
    simp only [List.forall_mem_cons]
    exact ⟨hempty, hempty, ht, hok, nofun⟩
  have hread := decodeBinary_frameOf (b := [7]) hnames fun p hp => (hfits p hp).short
  have hwritten := Kind.written_received (b := [7]) hnames
  refine ⟨_, hread, ?_, ?_⟩
  · rw [hwritten]
    exact fun p hp => (hfits p hp).ascii
  · rw [Kind.encode_eq, write_eq_error_iff, hwritten]
    exact .inr ⟨hfits, nofun, rfl⟩

end BinaryFrame

end Switchboard
