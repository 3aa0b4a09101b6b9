import PacketFilter.Proofs.Address.Pieces

/-!
# Addresses that are read back

The canonical text of an address is read as that address, so it tells addresses apart. Groups in a
row are read one after the other, until the text is over or two colons stand. The zero groups that
two colons leave out are as many as are missing from eight.
-/
namespace PacketFilter.Address

open Text

/-! ## Groups in a row -/

/-- Groups with a colon before each of them. -/
def colonLed (groups : List UInt16) : List Char :=
  groups.flatMap fun group => ':' :: Nat.toDigits 16 group.toNat

/-- Groups that are joined by colons have one before each but the first. -/
theorem colonSeparated_cons (group : UInt16) (groups : List UInt16) :
    colonSeparated (group :: groups) = Nat.toDigits 16 group.toNat ++ colonLed groups := by
  induction groups generalizing group with
  | nil => simp [colonSeparated, colonLed]
  | cons next rest ih =>
    have later := ih next
    rw [colonSeparated] at later ⊢
    simp only [List.map_cons] at later ⊢
    rw [List.intercalate_cons_cons, later, colonLed, colonLed, List.flatMap_cons]
    simp

/-- No more groups follow: the text is over, or two colons stand. -/
inductive Closes : List Char → Prop
  /-- The text is over. -/
  | ended : Closes []
  /-- Two colons stand. -/
  | gap (rest : List Char) : Closes (':' :: ':' :: rest)

/-- Where groups close there is no digit. -/
theorem Closes.stops {rest : List Char} (closes : Closes rest) : Stops 16 rest := by
  cases closes with
  | ended => exact stops_nil 16
  | gap rest => exact stops_cons rfl 16 _

/-- Where groups close no group starts. -/
theorem Closes.groupStart_takeGroup {rest : List Char} (closes : Closes rest) (first : Bool) :
    groupStart first rest >>= takeGroup = none := by
  cases closes with
  | ended => cases first <;> rfl
  | gap rest => cases first <;> rfl

variable {first : Bool} {room : Nat} {chars rest : List Char}

/-- Where no group starts no groups are read. -/
theorem takeGroups_of_none (notDotted : groupStart first chars >>= takeDotted = none)
    (noGroup : groupStart first chars >>= takeGroup = none) :
    takeGroups first room chars = ([], false, chars) := by
  cases room with
  | zero => rfl
  | succ room => simp only [takeGroups, notDotted, noGroup, ite_self]

/-- A group is read, and then the groups after it. -/
theorem takeGroups_of_some {group : UInt16} {groups : List UInt16} {isDotted : Bool}
    {after : List Char} (notDotted : groupStart first chars >>= takeDotted = none)
    (next : groupStart first chars >>= takeGroup = some (group, rest))
    (later : takeGroups false room rest = (groups, isDotted, after)) :
    takeGroups first (room + 1) chars = (group :: groups, isDotted, after) := by
  simp only [takeGroups, notDotted, next, later, ite_self]

/-- Dotted decimal is read as two groups where there is room for them. -/
theorem takeGroups_of_dotted {a b c d : UInt8}
    (next : groupStart first chars >>= takeDotted = some (#v[a, b, c, d], rest)) :
    takeGroups first (room + 2) chars =
      ([groupOfOctets a b, groupOfOctets c d], true, rest) := by
  simp only [takeGroups, next, Nat.add_eq_zero_iff, Nat.one_ne_zero, and_false, if_false]
  rfl

/-- Without a point no dotted decimal is read in place of a group. -/
theorem groupStart_takeDotted (pointless : '.' ∉ chars) (first : Bool) :
    groupStart first chars >>= takeDotted = none := by
  cases started : groupStart first chars with
  | none => rfl
  | some after =>
    have within : after <:+ chars := by
      cases first with
      | true => exact Option.some.inj started ▸ List.suffix_refl _
      | false => exact eq_cons_of_skipChar started ▸ List.suffix_cons _ _
    exact takeDotted_eq_none fun member => pointless (within.mem member)

/-- Groups with a colon before each have no points. -/
theorem point_notMem_colonLed (groups : List UInt16) : '.' ∉ colonLed groups := by
  have digits : ∀ group : UInt16, '.' ∉ Nat.toDigits 16 group.toNat :=
    fun group => notMem_toDigits (by decide) (by decide) rfl _
  simp [colonLed, digits]

/-- No digit stands before groups with a colon before each. -/
theorem stops_colonLed (closes : Closes rest) (groups : List UInt16) :
    Stops 16 (colonLed groups ++ rest) := by
  cases groups with
  | nil => exact closes.stops
  | cons group groups => exact stops_cons rfl 16 _

/-- Groups with a colon before each are read as these groups. -/
theorem takeGroups_colonLed {groups : List UInt16} (pointless : '.' ∉ rest) (closes : Closes rest)
    (fits : groups.length ≤ room) :
    takeGroups false room (colonLed groups ++ rest) = (groups, false, rest) := by
  induction groups generalizing room with
  | nil =>
    exact takeGroups_of_none (groupStart_takeDotted pointless _) (closes.groupStart_takeGroup _)
  | cons group groups ih =>
    obtain ⟨room, rfl⟩ := Nat.exists_eq_add_of_le' fits
    have noPoint : '.' ∉ colonLed (group :: groups) ++ rest := by
      simp [point_notMem_colonLed, pointless]
    have text : colonLed (group :: groups) ++ rest =
        ':' :: (Nat.toDigits 16 group.toNat ++ (colonLed groups ++ rest)) := by
      simp [colonLed]
    have next : groupStart false (colonLed (group :: groups) ++ rest) >>= takeGroup =
        some (group, colonLed groups ++ rest) := by
      rw [text]
      exact takeGroup_toDigits group (stops_colonLed closes groups)
    have later := ih (Nat.le_add_left groups.length room)
    exact takeGroups_of_some (groupStart_takeDotted noPoint _) next later

/-- Groups that are joined by colons are read as these groups. -/
theorem takeGroups_colonSeparated {groups : List UInt16} (pointless : '.' ∉ rest)
    (closes : Closes rest) (fits : groups.length ≤ room) :
    takeGroups true room (colonSeparated groups ++ rest) = (groups, false, rest) := by
  cases groups with
  | nil =>
    exact takeGroups_of_none (groupStart_takeDotted pointless _) (closes.groupStart_takeGroup _)
  | cons group groups =>
    obtain ⟨room, rfl⟩ := Nat.exists_eq_add_of_le' fits
    have noPoint : '.' ∉ colonSeparated (group :: groups) ++ rest := by
      have plain : '.' ∉ colonSeparated (group :: groups) :=
        notMem_colonSeparated rfl (by decide) _
      simp [plain, pointless]
    have next : groupStart true (colonSeparated (group :: groups) ++ rest) >>= takeGroup =
        some (group, colonLed groups ++ rest) := by
      rw [colonSeparated_cons, List.append_assoc]
      exact takeGroup_toDigits group (stops_colonLed closes groups)
    have later : takeGroups false (room + groups.length) (colonLed groups ++ rest) =
        (groups, false, rest) := takeGroups_colonLed pointless closes (by omega)
    exact takeGroups_of_some (groupStart_takeDotted noPoint _) next later

/-! ## Round trip -/

/-- The list of eight groups makes up the address. -/
theorem ofGroups?_toList (groups : Vector UInt16 8) :
    ofGroups? groups.toList = some (v6 groups) := by
  rw [ofGroups?, dif_pos (by simp)]
  rfl

/-- Two colons are read as the groups that are missing between those before and those after. -/
theorem takeV6_of_gap {head tail : List UInt16} {isDotted : Bool} {address : Address}
    (before : takeGroups true 8 chars = (head, false, ':' :: ':' :: rest))
    (short : head.length ≠ 8)
    (after : takeGroups true (7 - head.length) rest = (tail, isDotted, []))
    (whole : ofGroups? (head ++ List.replicate (8 - head.length - tail.length) 0 ++ tail) =
      some address) : takeV6 chars = some (address, []) := by
  rw [takeV6, before]
  simp only [if_neg short, Bool.false_eq_true, if_false, skipChar, if_true, after, whole,
    Option.bind_eq_bind, Option.bind_some]

/-- Compressed groups are read as these groups. -/
theorem takeV6_compressed (groups : Vector UInt16 8) :
    takeV6 (compressed groups.toList) = some (v6 groups, []) := by
  have size : groups.toList.length = 8 := Vector.length_toList
  rcases compressed_cases groups.toList with full | ⟨before, zeros, after, several, cut, gap⟩
  · have read : takeGroups true 8 (compressed groups.toList) = (groups.toList, false, []) := by
      rw [full, ← List.append_nil (colonSeparated groups.toList)]
      exact takeGroups_colonSeparated List.not_mem_nil .ended (by omega)
    rw [takeV6, read]
    simp only [if_pos size, ofGroups?_toList, Option.bind_eq_bind, Option.bind_some]
  · have sizes : before.length + (zeros + after.length) = 8 := by
      rw [← size, cut, List.length_append, List.length_append, List.length_replicate]
    have noPoint : '.' ∉ colonSeparated after := notMem_colonSeparated rfl (by decide) _
    have head : takeGroups true 8 (compressed groups.toList) =
        (before, false, ':' :: ':' :: colonSeparated after) := by
      rw [gap]
      exact takeGroups_colonSeparated (by simp [noPoint]) (.gap _) (by omega)
    -- The colons stand for two zeros at least, which leaves room for all groups after them.
    have tail : takeGroups true (7 - before.length) (colonSeparated after) =
        (after, false, []) := by
      rw [← List.append_nil (colonSeparated after)]
      exact takeGroups_colonSeparated List.not_mem_nil .ended (by omega)
    have missing : 8 - before.length - after.length = zeros := by omega
    refine takeV6_of_gap head (by omega) tail ?_
    rw [missing, List.append_assoc, ← cut, ofGroups?_toList]

/-- Two groups in dotted decimal are read as these groups. -/
theorem takeGroups_octetsOfGroup (high low : UInt16) (room : Nat) :
    takeGroups false (room + 2) (':' :: dotted (octetsOfGroup high ++ octetsOfGroup low)) =
      ([high, low], true, []) := by
  have octets := takeDotted_dotted (high >>> 8).toUInt8 high.toUInt8 (low >>> 8).toUInt8 low.toUInt8
    (stops_nil 10)
  rw [List.append_nil] at octets
  have next : groupStart false (':' :: dotted (octetsOfGroup high ++ octetsOfGroup low)) >>=
      takeDotted = some (#v[(high >>> 8).toUInt8, high.toUInt8, (low >>> 8).toUInt8, low.toUInt8],
        []) := octets
  rw [takeGroups_of_dotted next, groupOfOctets_octetsOfGroup, groupOfOctets_octetsOfGroup]

/-- The text of an address that maps a version 4 one is read as that address. -/
theorem takeV6_mapped (high low : UInt16) :
    takeV6 (':' :: ':' :: 'f' :: 'f' :: 'f' :: 'f' :: ':' ::
        dotted (octetsOfGroup high ++ octetsOfGroup low)) =
      some (v6 #v[0, 0, 0, 0, 0, 0xFFFF, high, low], []) := by
  -- Nothing stands before the colons, and the group after them is not taken for dotted decimal.
  have head : ∀ rest, takeGroups true 8 (':' :: ':' :: rest) = ([], false, ':' :: ':' :: rest) :=
    fun rest => takeGroups_of_none rfl rfl
  have group : ∀ rest, groupStart true ('f' :: 'f' :: 'f' :: 'f' :: ':' :: rest) >>= takeGroup =
      some (0xFFFF, ':' :: rest) := by
    intro rest
    have digits : Nat.toDigits 16 (0xFFFF : UInt16).toNat = ['f', 'f', 'f', 'f'] := by decide
    have stops : Stops 16 (':' :: rest) := stops_cons rfl 16 rest
    have read := takeGroup_toDigits 0xFFFF stops
    rwa [digits] at read
  have tail : takeGroups true 7 ('f' :: 'f' :: 'f' :: 'f' :: ':' ::
      dotted (octetsOfGroup high ++ octetsOfGroup low)) = ([0xFFFF, high, low], true, []) :=
    takeGroups_of_some rfl (group _) (takeGroups_octetsOfGroup high low _)
  exact takeV6_of_gap (head _) (by decide) tail rfl

/-- The canonical text of eight groups is read as these groups. -/
theorem takeV6_groupsText (groups : Vector UInt16 8) :
    takeV6 (groupsText groups.toList) = some (v6 groups, []) := by
  unfold groupsText
  split
  · next high low mapped =>
    have same : groups = #v[0, 0, 0, 0, 0, 0xFFFF, high, low] := Vector.toList_inj.1 mapped
    rw [same]
    exact takeV6_mapped high low
  · exact takeV6_compressed groups

/-- An address of version 4 has four octets. -/
theorem exists_octets (octets : Vector UInt8 4) : ∃ a b c d, octets = #v[a, b, c, d] := by
  refine ⟨octets[0], octets[1], octets[2], octets[3], ?_⟩
  ext index bound
  have place : index = 0 ∨ index = 1 ∨ index = 2 ∨ index = 3 := by omega
  rcases place with rfl | rfl | rfl | rfl <;> rfl

/-- The canonical text of eight groups is no dotted decimal. -/
theorem takeDotted_groupsText (groups : List UInt16) : takeDotted (groupsText groups) = none := by
  unfold groupsText
  split
  · rfl
  · exact takeDotted_eq_none (notMem_compressed rfl (by decide) _)

/-- The canonical text of an address is read as that address. -/
theorem ofText?_text (address : Address) : ofText? address.text = some address := by
  cases address with
  | v4 octets =>
    obtain ⟨a, b, c, d, rfl⟩ := exists_octets octets
    have taken : takeDotted (dotted #v[a, b, c, d].toList) = some (#v[a, b, c, d], []) := by
      rw [← List.append_nil (dotted _)]
      exact takeDotted_dotted a b c d (stops_nil 10)
    simp only [ofText?, text, String.toList_ofList, taken]
  | v6 groups =>
    simp only [ofText?, text, String.toList_ofList, takeDotted_groupsText, takeV6_groupsText]

example : text (v6 #v[0x2001, 0xDB8, 0, 0, 1, 0, 0, 1]) = "2001:db8::1:0:0:1" := by decide

/-- Different addresses have different texts. -/
theorem text_injective : Function.Injective text := by
  intro first second same
  have read := ofText?_text first
  rw [same, ofText?_text] at read
  exact (Option.some.inj read).symm

end PacketFilter.Address
