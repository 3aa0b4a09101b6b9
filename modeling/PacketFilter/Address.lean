import PacketFilter.Text

/-!
# Network addresses and their texts

An address is four octets or eight 16-bit groups. Each has one canonical text, and reading takes
other spellings of the same address too.
-/
namespace PacketFilter

/-! ## Network addresses

An address is four octets (version 4) or eight 16-bit groups (version 6), most significant first. -/

/-- A host address of either version. -/
inductive Address where
  /-- Four octets. -/
  | v4 (octets : Vector UInt8 4)
  /-- Eight groups of 16 bits. -/
  | v6 (groups : Vector UInt16 8)
  deriving DecidableEq, Repr

end PacketFilter

namespace PacketFilter.Address

/-! ## Address text

The canonical text of an address is dotted decimal for version 4. For version 6 it is lower-case
hexadecimal groups without leading zeros, with the longest run of two or more zero groups (the
leftmost of equals) written as two colons, and dotted decimal in the last 32 bits of an address
that maps a version 4 one. Reading also takes upper case, leading zeros in groups, and dotted
decimal in the last two groups of any version 6 address; it takes no leading zeros in octets. -/

open Text

/-- Octets joined by points. -/
def dotted (octets : List UInt8) : List Char :=
  ['.'].intercalate (octets.map fun octet => Nat.toDigits 10 octet.toNat)

/-- Groups joined by colons. -/
def colonSeparated (groups : List UInt16) : List Char :=
  [':'].intercalate (groups.map fun group => Nat.toDigits 16 group.toNat)

/-- The number of zero groups at the start. -/
def leadingZeros (groups : List UInt16) : Nat := (groups.takeWhile (· == 0)).length

/-- Start and length of the longest run of zero groups, the leftmost of equals; the length is
zero when there is none. -/
def longestZeroRun : List UInt16 → Nat × Nat
  | [] => (0, 0)
  | group :: rest =>
    let here := leadingZeros (group :: rest)
    let (start, length) := longestZeroRun rest
    if length ≤ here then (0, here) else (start + 1, length)

/-- The canonical text of eight groups that map no version 4 address. -/
def compressed (groups : List UInt16) : List Char :=
  let (start, length) := longestZeroRun groups
  if 1 < length then
    colonSeparated (groups.take start) ++ [':', ':'] ++
      colonSeparated (groups.drop (start + length))
  else colonSeparated groups

/-- The high and the low octet of a group. -/
def octetsOfGroup (group : UInt16) : List UInt8 := [(group >>> 8).toUInt8, group.toUInt8]

/-- The canonical text of eight groups. -/
def groupsText : List UInt16 → List Char
  | [0, 0, 0, 0, 0, 0xFFFF, high, low] =>
    [':', ':', 'f', 'f', 'f', 'f', ':'] ++ dotted (octetsOfGroup high ++ octetsOfGroup low)
  | groups => compressed groups

/-- The canonical text of an address. -/
def text : Address → String
  | v4 octets => String.ofList (dotted octets.toList)
  | v6 groups => String.ofList (groupsText groups.toList)

/-! ### Reading -/

/-- A run of digits of the base at the start, with the text after it. -/
def takeDigits (base : Nat) (chars : List Char) : List Char × List Char :=
  chars.span fun char => (digitValue? char).any (· < base)

/-- One octet at the start: up to three decimal digits, below 256, without a leading zero. -/
def takeOctet (chars : List Char) : Option (UInt8 × List Char) := do
  let (digits, rest) := takeDigits 10 chars
  let value ← readNumeral? 10 digits
  let zeroLed := digits.head? = some '0' && 1 < digits.length
  if zeroLed || 3 < digits.length || 256 ≤ value then none else some (value.toUInt8, rest)

/-- One group at the start: up to four hexadecimal digits. -/
def takeGroup (chars : List Char) : Option (UInt16 × List Char) := do
  let (digits, rest) := takeDigits 16 chars
  let value ← readNumeral? 16 digits
  if 4 < digits.length then none else some (value.toUInt16, rest)

/-- The text after one expected character. -/
def skipChar (expected : Char) : List Char → Option (List Char)
  | [] => none
  | char :: rest => if char = expected then some rest else none

/-- Four octets joined by points at the start. -/
def takeDotted (chars : List Char) : Option (Vector UInt8 4 × List Char) := do
  let (a, rest) ← takeOctet chars
  let (b, rest) ← takeOctet (← skipChar '.' rest)
  let (c, rest) ← takeOctet (← skipChar '.' rest)
  let (d, rest) ← takeOctet (← skipChar '.' rest)
  some (#v[a, b, c, d], rest)

/-- The group made of a high and a low octet. -/
def groupOfOctets (high low : UInt8) : UInt16 := high.toUInt16 <<< 8 ||| low.toUInt16

/-- The text where the next group may start: after a colon, except before the first group. -/
def groupStart (first : Bool) (chars : List Char) : Option (List Char) :=
  if first then some chars else skipChar ':' chars

/-- Groups joined by colons at the start, at most as many as there is room for, with the text
after them. The flag tells whether dotted decimal gave the last two; it needs room for both, and
nothing is read after it. -/
def takeGroups (first : Bool) : Nat → List Char → List UInt16 × Bool × List Char
  | 0, chars => ([], false, chars)
  | room + 1, chars =>
    let embedded := if room = 0 then none else groupStart first chars >>= takeDotted
    match embedded with
    | some (octets, rest) =>
      ([groupOfOctets octets[0] octets[1], groupOfOctets octets[2] octets[3]], true, rest)
    | none =>
      match groupStart first chars >>= takeGroup with
      | some (group, rest) =>
        let (groups, isDotted, rest) := takeGroups false room rest
        (group :: groups, isDotted, rest)
      | none => ([], false, chars)

/-- Eight groups from a list, if it has that many. -/
def ofGroups? (groups : List UInt16) : Option Address :=
  if size : groups.length = 8 then some (v6 ⟨groups.toArray, by simpa using size⟩) else none

/-- A version 6 address at the start, with the text after it. Two colons stand for at least one
zero group, and dotted decimal never stands before them. -/
def takeV6 (chars : List Char) : Option (Address × List Char) := do
  let (head, isDotted, rest) := takeGroups true 8 chars
  if head.length = 8 then
    some (← ofGroups? head, rest)
  else if isDotted then none
  else
    let rest ← skipChar ':' (← skipChar ':' rest)
    let (tail, _, rest) := takeGroups true (7 - head.length) rest
    let zeros := List.replicate (8 - head.length - tail.length) 0
    some (← ofGroups? (head ++ zeros ++ tail), rest)

/-- The address that a text writes, if all of the text is one address. -/
def ofText? (text : String) : Option Address :=
  let chars := text.toList
  let taken :=
    match takeDotted chars with
    | some (octets, rest) => some (v4 octets, rest)
    | none => takeV6 chars
  match taken with
  | some (address, []) => some address
  | _ => none

end PacketFilter.Address
