import Switchboard.DomainName.Ascii
import Switchboard.Error
import Switchboard.Text.Percent
import Switchboard.Text.Quoted

/-!
# Hosts

The host of a URL is a name or an address.  A host of one of the well-known schemes is a domain name
in ASCII and may be an IPv4 address in any of its spellings; an IPv6 address stands in brackets and
is printed in its shortest form.

Main definitions

* `Host`, `Host.text`, `Host.description`;
* `Host.ipv4Of?`, `Host.ipv6Of?`: reading addresses;
* `Host.ofSpecial`, `Host.ofOpaque`: the host of a well-known and of any other scheme.
-/

set_option autoImplicit false

namespace Switchboard

/-- The host of a URL. -/
inductive Host where
  | domain (name : String)
  | ipv4 (address : Nat)
  | ipv6 (groups : List Nat)
  deriving DecidableEq, Repr, Inhabited

namespace Host

/-! ### IPv4 -/

/-- The number that digits write in a base; nothing if one is no digit of it. -/
def numberIn? (base : Nat) (ds : List Char) : Option Nat :=
  ds.foldlM
    (fun n d =>
      let v := if d.isDigit then d.toNat - '0'.toNat
        else if 'a' ≤ d.toLower ∧ d.toLower ≤ 'f' then d.toLower.toNat - 'a'.toNat + 10
        else 16
      if v < base then some (n * base + v) else none)
    0

/-- A number of an address: decimal, octal behind `0`, hexadecimal behind `0x`. -/
def ipv4Part? : List Char → Option Nat
  | [] => none
  | '0' :: c :: rest =>
    if c = 'x' ∨ c = 'X' then numberIn? 16 rest else numberIn? 8 (c :: rest)
  | ds => numberIn? 10 ds

/-- The pieces of a dotted name without the empty one behind a final point. -/
def dottedParts (cs : List Char) : List (List Char) :=
  let parts := splitAt '.' cs
  if 1 < parts.length ∧ parts.getLast? = some [] then parts.dropLast else parts

/-- Whether the last part is a number, so that the name has to be an address. -/
def endsInNumber (cs : List Char) : Bool :=
  match (dottedParts cs).getLast? with
  | none => false
  | some part =>
    (part != [] && part.all Char.isDigit) ||
      match part with
      | '0' :: c :: rest => (c == 'x' || c == 'X') && (numberIn? 16 rest).isSome
      | _ => false

/-- The address of up to four numbers, of which the last fills what the others leave. -/
def ipv4Of? (cs : List Char) : Option Nat := do
  let parts := dottedParts cs
  if 4 < parts.length then none
  else
    let ns ← parts.mapM ipv4Part?
    let last ← ns.getLast?
    let firsts := ns.dropLast
    -- Each number but the last is one byte; the last one fills the bytes that are left.
    if firsts.any (255 < ·) ∨ Nat.pow 256 (4 - firsts.length) ≤ last then none
    else some (firsts.foldl (fun n v => n * 256 + v) 0 * Nat.pow 256 (4 - firsts.length) + last)

/-- The four numbers of an address. -/
def ipv4Text (n : Nat) : String :=
  natText (n / 0x1000000 % 256) ++ "." ++ natText (n / 0x10000 % 256) ++ "."
    ++ natText (n / 256 % 256) ++ "." ++ natText (n % 256)

/-! ### IPv6 -/

/-- A group of one to four hexadecimal digits. -/
def group? (cs : List Char) : Option Nat :=
  if cs = [] ∨ 4 < cs.length then none else numberIn? 16 cs

/-- The groups of a side of the gap; the last one may be an IPv4 address of two groups. -/
def groups? (allowAddress : Bool) : List (List Char) → Option (List Nat)
  | [] => some []
  | [last] =>
    if allowAddress ∧ '.' ∈ last then do
      let parts := splitAt '.' last
      let ns ← parts.mapM fun p =>
        if p.length ≤ 3 ∧ (p.length = 1 ∨ p.head? ≠ some '0') ∧ p ≠ [] then numberIn? 10 p
        else none
      match ns with
      | [a, b, c, d] =>
        if a < 256 ∧ b < 256 ∧ c < 256 ∧ d < 256 then some [a * 256 + b, c * 256 + d] else none
      | _ => none
    else (group? last).map ([·])
  | g :: rest => do
    let n ← group? g
    let ns ← groups? allowAddress rest
    return n :: ns

/-- The place of a double colon: what stands before and behind it. -/
def gap? : List Char → Option (List Char × List Char)
  | [] => none
  | ':' :: ':' :: rest => some ([], rest)
  | c :: rest => (gap? rest).map fun (before, after) => (c :: before, after)

/-- The pieces between colons; an empty text has none. -/
def colonParts (cs : List Char) : List (List Char) := if cs = [] then [] else splitAt ':' cs

/-- The eight groups of an address; a double colon stands for at least one group of zeros. -/
def ipv6Of? (cs : List Char) : Option (List Nat) :=
  match gap? cs with
  | none => do
    let gs ← groups? true (colonParts cs)
    if gs.length = 8 then some gs else none
  | some (before, after) => do
    let front ← groups? false (colonParts before)
    let back ← groups? true (colonParts after)
    if front.length + back.length ≤ 7 then
      some (front ++ List.replicate (8 - front.length - back.length) 0 ++ back)
    else none

/-- How many zeros a list starts with. -/
def leadingZeros (gs : List Nat) : Nat := (gs.takeWhile (· == 0)).length

/-- The start and length of the longest run of zeros, the first one of equal runs. -/
def longestZeros (gs : List Nat) : Nat × Nat :=
  (List.range gs.length).foldl
    (fun best i =>
      if best.2 < leadingZeros (gs.drop i) then (i, leadingZeros (gs.drop i)) else best)
    (0, 0)

/-- Groups between colons. -/
def groupsText (gs : List Nat) : String :=
  ":".intercalate (gs.map fun g => String.ofList (Nat.toDigits 16 g))

/-- The shortest form of an address: the longest run of two or more zeros is left out. -/
def ipv6Text (gs : List Nat) : String :=
  let (start, length) := longestZeros gs
  if length < 2 then groupsText gs
  else groupsText (gs.take start) ++ "::" ++ groupsText (gs.drop (start + length))

/-- The IPv4 address inside an address whose groups say that it holds one. -/
def mappedIpv4? : List Nat → Option Nat
  | [0, 0, 0, 0, 0, 0xffff, a, b] => some (a * 0x10000 + b)
  | _ => none

/-! ### Hosts -/

/-- The text of a host inside a URL. -/
def text : Host → String
  | .domain name => name
  | .ipv4 n => ipv4Text n
  | .ipv6 gs => "[" ++ ipv6Text gs ++ "]"

/-- A host with its kind; an IPv4 address inside an IPv6 address is written as such. -/
def description : Host → String
  | .domain name => "Domain(" ++ quoteText name ++ ")"
  | .ipv4 n => "Ipv4(" ++ ipv4Text n ++ ")"
  | .ipv6 gs =>
    match mappedIpv4? gs with
    | some n => "Ipv6(::ffff:" ++ ipv4Text n ++ ")"
    | none => "Ipv6(" ++ ipv6Text gs ++ ")"

/-- Characters that no host may contain. -/
def isForbidden (c : Char) : Bool :=
  c ∈ ['\x00', '\t', '\n', '\r', ' ', '#', '/', ':', '<', '>', '?', '@', '[', '\\', ']', '^', '|']

/-- Characters that no name of a well-known scheme may contain. -/
def isForbiddenInDomain (c : Char) : Bool :=
  isForbidden c || c.toNat < 32 || c == '%' || c.toNat == 127

/-- The bytes of a text with its percent escapes undone. -/
def unescapedBytes : List Char → Bytes
  | '%' :: a :: b :: rest =>
    match numberIn? 16 [a, b] with
    | some n => UInt8.ofNat n :: unescapedBytes rest
    | none => UInt8.ofNat '%'.toNat :: unescapedBytes (a :: b :: rest)
  | c :: rest => utf8Bytes (String.singleton c) ++ unescapedBytes rest
  | [] => []
termination_by cs => cs.length

/-- A text with its percent escapes undone; nothing if they are not UTF-8. -/
def unescape? (cs : List Char) : Option (List Char) :=
  (utf8Text? (unescapedBytes cs)).map String.toList

/-- An address in brackets. -/
def bracketed (cs : List Char) : Except OriginError Host :=
  if cs.getLast? = some ']' then
    match ipv6Of? cs.dropLast with
    | some gs => .ok (.ipv6 gs)
    | none => .error .invalidIpv6
  else .error .invalidIpv6

/-- The host of a well-known scheme. -/
def ofSpecial : List Char → Except OriginError Host
  | '[' :: rest => bracketed rest
  | cs =>
    match (unescape? cs).bind DomainName.ascii? with
    | none => .error .invalidName
    | some name =>
      if name = [] then .error .emptyHost
      else if name.any isForbiddenInDomain then .error .invalidName
      else if endsInNumber name then
        match ipv4Of? name with
        | some n => .ok (.ipv4 n)
        | none => .error .invalidIpv4
      else .ok (.domain (String.ofList name))

/-- The host of any other scheme, kept as it is written. -/
def ofOpaque : List Char → Except OriginError Host
  | '[' :: rest => bracketed rest
  | cs =>
    if cs.any isForbidden then .error .invalidCharacter
    else
      .ok (.domain (String.ofList (cs.flatMap fun c =>
        if c.toNat < 32 ∨ 126 < c.toNat then (utf8Bytes (String.singleton c)).flatMap percentByte
        else [c])))

end Host

end Switchboard
