/-!
# UTF-8

Texts as bytes.

Main definitions

* `utf8Bytes`: the bytes of a text;
* `utf8Text?`: the text of bytes;
* `hexText`: bytes as hexadecimal digits.

Main results

* `utf8Text?_utf8Bytes`: reading undoes writing;
* `utf8Bytes_of_utf8Text?`: bytes that are read are the bytes of what was read;
* `length_utf8Bytes`: a text has as many bytes as its size says.
-/

set_option autoImplicit false

namespace Switchboard

/-- Raw bytes. -/
abbrev Bytes : Type := List UInt8

/-- The UTF-8 bytes of a text. -/
def utf8Bytes (s : String) : Bytes := s.toUTF8.data.toList

/-- The text that bytes encode; nothing if they are not UTF-8. -/
def utf8Text? (b : Bytes) : Option String := String.fromUTF8? ⟨b.toArray⟩

/-- Two hexadecimal digits for each byte. -/
def hexText (b : Bytes) : String :=
  String.ofList (b.flatMap fun x => [Nat.digitChar (x.toNat / 16), Nat.digitChar (x.toNat % 16)])

theorem utf8Text?_utf8Bytes (s : String) : utf8Text? (utf8Bytes s) = some s := by
  have h : (⟨(utf8Bytes s).toArray⟩ : ByteArray) = s.toUTF8 := by simp [utf8Bytes]
  unfold utf8Text?
  rw [h]
  unfold String.fromUTF8?
  split
  · rfl
  · rename_i hs
    exact absurd s.isValidUTF8 (by simpa using hs)

theorem utf8Bytes_of_utf8Text? {b : Bytes} {s : String} (h : utf8Text? b = some s) :
    utf8Bytes s = b := by
  unfold utf8Text? String.fromUTF8? at h
  split at h
  · cases h
    simp [utf8Bytes, String.fromUTF8]
  · cases h

theorem utf8Text?_eq_some_iff {b : Bytes} {s : String} : utf8Text? b = some s ↔ utf8Bytes s = b :=
  ⟨utf8Bytes_of_utf8Text?, fun h => h ▸ utf8Text?_utf8Bytes s⟩

theorem length_utf8Bytes (s : String) : (utf8Bytes s).length = s.utf8ByteSize := by
  simp [utf8Bytes]

end Switchboard
