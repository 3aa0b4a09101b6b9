import Mathlib.Data.List.TakeDrop
import PacketFilter.Address
import PacketFilter.Proofs.Text.Decimal

/-!
# Pieces of an address

A written octet or group is read as itself where no digit follows, and so are four octets with
points between them. Two colons in the text of eight groups stand for a run of zeros. No address is
written with other characters than digits, colons and points.
-/
namespace PacketFilter.Address

open Text

/-! ## Octets and groups -/

/-- No digit of the base follows: the text is over, or it goes on with another character. -/
def Stops (base : Nat) (rest : List Char) : Prop :=
  ∀ char ∈ rest.head?, (digitValue? char).any (· < base) = false

/-- Nothing follows where the text is over. -/
theorem stops_nil (base : Nat) : Stops base [] := by
  intro char member
  exact absurd member (by simp)

/-- A character that is no digit stops a number. -/
theorem stops_cons {char : Char} (noDigit : digitValue? char = none) (base : Nat)
    (rest : List Char) : Stops base (char :: rest) := by
  intro other member
  obtain rfl : char = other := Option.some.inj member
  rw [noDigit, Option.any_none]

/-- The digits of a number are the run of digits at the start. -/
theorem takeDigits_toDigits {base : Nat} (least : 1 < base) (most : base ≤ 16) (number : Nat)
    {rest : List Char} (stops : Stops base rest) :
    takeDigits base (Nat.toDigits base number ++ rest) = (Nat.toDigits base number, rest) := by
  have digits : ∀ char ∈ Nat.toDigits base number, (digitValue? char).any (· < base) = true := by
    intro char member
    obtain ⟨digit, small, value⟩ := digitValue?_of_mem_toDigits least most member
    rw [value, Option.any_some, decide_eq_true small]
  rw [takeDigits, List.span_eq_takeWhile_dropWhile, List.takeWhile_append_of_pos digits,
    List.dropWhile_append_of_pos digits]
  cases rest with
  | nil => simp
  | cons char rest =>
    have other : (digitValue? char).any (· < base) = false := stops char rfl
    simp [other]

/-- A written octet is read as that octet. -/
theorem takeOctet_toDigits (octet : UInt8) {rest : List Char} (stops : Stops 10 rest) :
    takeOctet (Nat.toDigits 10 octet.toNat ++ rest) = some (octet, rest) := by
  have small : octet.toNat < 256 := octet.toNat_lt
  have short : (Nat.toDigits 10 octet.toNat).length ≤ 3 :=
    (Nat.length_toDigits_le_iff (by decide) (by decide)).2 (by omega)
  have notZeroLed : (Nat.toDigits 10 octet.toNat).head? = some '0' →
      (Nat.toDigits 10 octet.toNat).length ≤ 1 := by
    intro zeroLed
    rw [(head?_toDigits (by decide) _).1 zeroLed]
    decide
  have value : readNumeral? 10 (Nat.toDigits 10 octet.toNat) = some octet.toNat :=
    readNumeral?_toDigits (by decide) (by decide) _
  have back : octet.toNat.toUInt8 = octet := UInt8.ofNat_toNat
  rw [takeOctet, takeDigits_toDigits (by decide) (by decide) _ stops]
  simp only [value, Option.bind_eq_bind, Option.bind_some]
  rw [if_neg (by simpa [short, small] using notZeroLed), back]

/-- A written group is read as that group. -/
theorem takeGroup_toDigits (group : UInt16) {rest : List Char} (stops : Stops 16 rest) :
    takeGroup (Nat.toDigits 16 group.toNat ++ rest) = some (group, rest) := by
  have small : group.toNat < 65536 := group.toNat_lt
  have short : (Nat.toDigits 16 group.toNat).length ≤ 4 :=
    (Nat.length_toDigits_le_iff (by decide) (by decide)).2 (by omega)
  have value : readNumeral? 16 (Nat.toDigits 16 group.toNat) = some group.toNat :=
    readNumeral?_toDigits (by decide) (by decide) _
  have back : group.toNat.toUInt16 = group := UInt16.ofNat_toNat
  rw [takeGroup, takeDigits_toDigits (by decide) (by decide) _ stops]
  simp only [value, Option.bind_eq_bind, Option.bind_some]
  rw [if_neg (by omega), back]

/-- A group is that of its two octets. -/
theorem groupOfOctets_octetsOfGroup (group : UInt16) :
    groupOfOctets (group >>> 8).toUInt8 group.toUInt8 = group := by
  have small : group.toNat < 65536 := group.toNat_lt
  have upper : group.toNat >>> 8 % 256 = group.toNat / 256 := by omega
  have fits : (group.toNat / 256) <<< 8 % 65536 = (group.toNat / 256) <<< 8 := by omega
  apply UInt16.toNat_inj.1
  calc (groupOfOctets (group >>> 8).toUInt8 group.toUInt8).toNat
      = (group.toNat >>> 8 % 256) <<< 8 % 65536 ||| group.toNat % 256 := by simp [groupOfOctets]
    _ = (group.toNat / 256) <<< 8 + group.toNat % 256 := by
      rw [upper, fits, Nat.shiftLeft_add_eq_or_of_lt (by omega)]
    _ = group.toNat := by omega

/-! ## Dotted decimal -/

/-- Four octets are their digits with a point between each two. -/
theorem dotted_append (a b c d : UInt8) (rest : List Char) :
    dotted [a, b, c, d] ++ rest =
      Nat.toDigits 10 a.toNat ++ '.' :: (Nat.toDigits 10 b.toNat ++ '.' ::
        (Nat.toDigits 10 c.toNat ++ '.' :: (Nat.toDigits 10 d.toNat ++ rest))) := by
  simp [dotted]

/-- Four written octets are read as these octets. -/
theorem takeDotted_dotted (a b c d : UInt8) {rest : List Char} (stops : Stops 10 rest) :
    takeDotted (dotted [a, b, c, d] ++ rest) = some (#v[a, b, c, d], rest) := by
  have point : ∀ after, Stops 10 ('.' :: after) := stops_cons rfl 10
  rw [dotted_append, takeDotted]
  simp only [takeOctet_toDigits _ (point _), takeOctet_toDigits _ stops, skipChar, if_true,
    Option.bind_eq_bind, Option.bind_some]

/-- A character that a text does not have is not skipped in it. -/
theorem skipChar_eq_none {expected : Char} {chars : List Char} (absent : expected ∉ chars) :
    skipChar expected chars = none := by
  cases chars with
  | nil => rfl
  | cons char rest => exact if_neg (List.ne_of_not_mem_cons absent).symm

/-- A character that is skipped is the first one. -/
theorem eq_cons_of_skipChar {expected : Char} {chars rest : List Char}
    (skipped : skipChar expected chars = some rest) : chars = expected :: rest := by
  cases chars with
  | nil => exact absurd skipped (Option.some_ne_none _).symm
  | cons char after =>
    rw [skipChar] at skipped
    split at skipped
    · next same => rw [same, Option.some.inj skipped]
    · exact absurd skipped (Option.some_ne_none _).symm

/-- What an octet leaves is the end of the text. -/
theorem suffix_of_takeOctet {chars rest : List Char} {octet : UInt8}
    (taken : takeOctet chars = some (octet, rest)) : rest <:+ chars := by
  have after : (takeDigits 10 chars).2 <:+ chars := by
    rw [takeDigits, List.span_eq_takeWhile_dropWhile]
    exact List.dropWhile_suffix _
  rw [takeOctet] at taken
  simp only [Option.bind_eq_bind, Option.bind_eq_some_iff] at taken
  obtain ⟨value, -, taken⟩ := taken
  split at taken
  · exact absurd taken (Option.some_ne_none _).symm
  · obtain ⟨-, rfl⟩ := Prod.mk.inj (Option.some.inj taken)
    exact after

/-- Without a point there is no dotted decimal. -/
theorem takeDotted_eq_none {chars : List Char} (pointless : '.' ∉ chars) :
    takeDotted chars = none := by
  rw [takeDotted]
  cases first : takeOctet chars with
  | none => rfl
  | some taken =>
    obtain ⟨octet, rest⟩ := taken
    have absent : '.' ∉ rest := fun member => pointless ((suffix_of_takeOctet first).mem member)
    simp only [Option.bind_eq_bind, Option.bind_some, skipChar_eq_none absent, Option.bind_none]

/-! ## Runs of zeros -/

/-- The zeros at the start of groups are followed by the others. -/
theorem leadingZeros_append (groups : List UInt16) :
    List.replicate (leadingZeros groups) 0 ++ groups.dropWhile (· == 0) = groups := by
  have zeros : groups.takeWhile (· == 0) = List.replicate (leadingZeros groups) 0 := by
    refine List.eq_replicate_iff.2 ⟨rfl, fun group member => ?_⟩
    simpa using List.mem_takeWhile_imp member
  rw [← zeros, List.takeWhile_append_dropWhile]

/-- The longest run of zeros is where its place and its length say. -/
theorem exists_longestZeroRun (groups : List UInt16) :
    ∃ before after, before.length = (longestZeroRun groups).1 ∧
      groups = before ++ (List.replicate (longestZeroRun groups).2 0 ++ after) := by
  induction groups with
  | nil => exact ⟨[], [], rfl, rfl⟩
  | cons group rest ih =>
    obtain ⟨before, after, start, cut⟩ := ih
    simp only [longestZeroRun]
    split
    · exact ⟨[], _, rfl, (leadingZeros_append (group :: rest)).symm⟩
    · exact ⟨group :: before, after, congrArg (· + 1) start, congrArg (group :: ·) cut⟩

/-- Groups are written all of them, or two colons stand for a run of zeros. -/
theorem compressed_cases (groups : List UInt16) :
    compressed groups = colonSeparated groups ∨
      ∃ before zeros after, 1 < zeros ∧ groups = before ++ (List.replicate zeros 0 ++ after) ∧
        compressed groups = colonSeparated before ++ ':' :: ':' :: colonSeparated after := by
  obtain ⟨before, after, place, cut⟩ := exists_longestZeroRun groups
  rcases run : longestZeroRun groups with ⟨start, zeros⟩
  rw [run] at place cut
  rw [compressed, run]
  by_cases long : 1 < zeros
  · have front : groups.take start = before := by rw [cut, List.take_left' place]
    have back : groups.drop (start + zeros) = after := by
      rw [cut, ← List.drop_drop, List.drop_left' place, List.drop_left' List.length_replicate]
    right
    refine ⟨before, zeros, after, long, cut, ?_⟩
    simp only [if_pos long, front, back, List.append_assoc, List.cons_append, List.nil_append]
  · left
    exact if_neg long

/-! ## Characters -/

variable {char : Char}

/-- Dotted decimal has digits and points. -/
theorem notMem_dotted (noDigit : digitValue? char = none) (noPoint : char ≠ '.')
    (octets : List UInt8) : char ∉ dotted octets := by
  intro within
  obtain ⟨part, member, inside⟩ := exists_mem_of_mem_intercalate within noPoint
  obtain ⟨octet, -, rfl⟩ := List.mem_map.1 member
  exact notMem_toDigits (by decide) (by decide) noDigit _ inside

/-- Groups have digits and colons. -/
theorem notMem_colonSeparated (noDigit : digitValue? char = none) (noColon : char ≠ ':')
    (groups : List UInt16) : char ∉ colonSeparated groups := by
  intro within
  obtain ⟨part, member, inside⟩ := exists_mem_of_mem_intercalate within noColon
  obtain ⟨group, -, rfl⟩ := List.mem_map.1 member
  exact notMem_toDigits (by decide) (by decide) noDigit _ inside

/-- Compressed groups have digits and colons, too. -/
theorem notMem_compressed (noDigit : digitValue? char = none) (noColon : char ≠ ':')
    (groups : List UInt16) : char ∉ compressed groups := by
  have written := notMem_colonSeparated noDigit noColon
  rcases compressed_cases groups with full | ⟨before, zeros, after, -, -, gap⟩
  · rw [full]
    exact written groups
  · rw [gap]
    simp [written, noColon]

/-- The canonical text of eight groups has digits, colons and points. -/
theorem notMem_groupsText (noDigit : digitValue? char = none) (noColon : char ≠ ':')
    (noPoint : char ≠ '.') (groups : List UInt16) : char ∉ groupsText groups := by
  have noF : char ≠ 'f' := by
    rintro rfl
    exact absurd noDigit (by decide)
  unfold groupsText
  split
  · simp [notMem_dotted noDigit noPoint, noColon, noF]
  · exact notMem_compressed noDigit noColon _

/-- The text of an address has no other characters than digits, colons and points. -/
theorem notMem_text (noDigit : digitValue? char = none) (noColon : char ≠ ':')
    (noPoint : char ≠ '.') (address : Address) : char ∉ address.text.toList := by
  cases address with
  | v4 octets => simpa [text] using notMem_dotted noDigit noPoint _
  | v6 groups => simpa [text] using notMem_groupsText noDigit noColon noPoint _

end PacketFilter.Address
