import Mathlib.Data.List.Forall2
import Mathlib.Data.List.Nodup
import PacketFilter.Tracker
import PacketFilter.Packet.Forms
import PacketFilter.Proofs.Address.RoundTrip

/-!
# Packets that are read back

A packet is written as a record with a field for each layer that it has. A layer that it lacks is
left out or written as no value; the fields come in any order, and among others that packets do not
have. `Packet.WrittenAs` says so for any format of records. From each of these forms the packet is
read back, as JSON and as YAML, so its own form (`Packet.toJson`) tells packets apart
(`Packet.readBack`).
-/
namespace PacketFilter

open Text

/-! ## Forms of packets -/

/-- How a format writes texts, numbers, the lack of a value, and records. -/
structure RecordFormat (Value : Type) where
  /-- A value writes a text. -/
  IsText : String → Value → Prop
  /-- A value writes a number. -/
  IsNumber : Nat → Value → Prop
  /-- A value says that there is none. -/
  IsNull : Value → Prop
  /-- A value is a record of named values in order. -/
  IsRecord : List (String × Value) → Value → Prop

namespace RecordFormat

/-- Strings, numbers in decimal, `null` and objects. -/
def json : RecordFormat Json where
  IsText text value := value = .ofString text
  IsNumber number value := value = .ofNat number
  IsNull value := value = .null
  IsRecord fields value := value = .ofFields fields

/-- A pair of a mapping is a named value if its key is a scalar with the name. -/
inductive IsPair : Yaml.Node × Yaml.Node → String × Yaml.Node → Prop
  /-- The name may be plain or quoted. -/
  | named (plain : Bool) (name : String) (value : Yaml.Node) :
      IsPair (.scalar plain name, value) (name, value)

/-- Scalars, plain numbers in decimal, words for no value, and mappings. -/
def yaml : RecordFormat Yaml.Node where
  IsText text value := ∃ plain, value = .scalar plain text
  IsNumber number value := value = .scalar true (toString number)
  IsNull value := ∃ word ∈ ["", "~", "null", "Null", "NULL"], value = .scalar true word
  IsRecord fields value := ∃ pairs, List.Forall₂ IsPair pairs fields ∧ value = .mapping pairs

variable {Value : Type} (format : RecordFormat Value)

/-- A value is a record that has the given fields, in any order and among others whose names it does
not know. -/
def HasFields (names : List String) (fields : List (String × Value)) (value : Value) : Prop :=
  ∃ all others, all.Perm (fields ++ others) ∧ (∀ other ∈ others, other.1 ∉ names) ∧
    format.IsRecord all value

/-- The fields for a layer that may be absent. -/
inductive LayerFields {α : Type} (writes : α → Value → Prop) (name : String) :
    Option α → List (String × Value) → Prop
  /-- An absent layer is left out. -/
  | leftOut : LayerFields writes name none []
  /-- An absent layer is written as no value. -/
  | null {value : Value} (isNull : format.IsNull value) :
      LayerFields writes name none [(name, value)]
  /-- A layer is written under its name. -/
  | present {layer : α} {value : Value} (written : writes layer value) :
      LayerFields writes name (some layer) [(name, value)]

end RecordFormat

section Forms

variable {Value : Type} (format : RecordFormat Value)

/-- A network layer is written with the canonical texts of its addresses. -/
def NetworkLayer.WrittenAs (layer : NetworkLayer) (value : Value) : Prop :=
  ∃ source destination,
    format.IsText layer.source.text source ∧ format.IsText layer.destination.text destination ∧
      format.HasFields ["src", "dst"] [("src", source), ("dst", destination)] value

/-- A transport layer is written with the name of its protocol and the numbers of its ports. -/
def TransportLayer.WrittenAs (layer : TransportLayer) (value : Value) : Prop :=
  ∃ protocol sourcePort destinationPort,
    format.IsText layer.protocol.name protocol ∧
      format.IsNumber layer.sourcePort.toNat sourcePort ∧
      format.IsNumber layer.destinationPort.toNat destinationPort ∧
      format.HasFields ["protocol", "src_port", "dst_port"]
        [("protocol", protocol), ("src_port", sourcePort), ("dst_port", destinationPort)] value

/-- An ICMP layer is written as the name of its version. -/
def IcmpVersion.WrittenAs (version : IcmpVersion) (value : Value) : Prop :=
  format.IsText version.name value

/-- A packet is written as a record of its layers. -/
def Packet.WrittenAs (packet : Packet) (value : Value) : Prop :=
  ∃ network transport icmp,
    format.LayerFields (NetworkLayer.WrittenAs format) "network" packet.network network ∧
      format.LayerFields (TransportLayer.WrittenAs format) "transport" packet.transport transport ∧
      format.LayerFields (IcmpVersion.WrittenAs format) "icmp" packet.icmp icmp ∧
      format.HasFields ["network", "transport", "icmp"] (network ++ transport ++ icmp) value

end Forms

/-! ## Fields of records -/

section Fields

variable {Value : Type} {format : RecordFormat Value} {names : List String}
  {all fields others : List (String × Value)}

/-- There is one field of a name at most where no name occurs twice. -/
theorem filter_eq_toList_lookup (distinct : (fields.map Prod.fst).Nodup) (name : String) :
    fields.filter (fun field => field.1 = name) =
      ((fields.lookup name).map fun value => (name, value)).toList := by
  induction fields with
  | nil => rfl
  | cons field rest ih =>
    obtain ⟨fresh, later⟩ := List.nodup_cons.1 distinct
    obtain ⟨other, value⟩ := field
    by_cases same : other = name
    · subst same
      have noMore : rest.filter (fun field => field.1 = other) = [] := by
        refine List.filter_eq_nil_iff.2 fun field within twin => fresh ?_
        exact List.mem_map.2 ⟨field, within, of_decide_eq_true twin⟩
      simp [noMore]
    · have skipped : (name == other) = false := by simpa using Ne.symm same
      rw [List.filter_cons_of_neg (by simpa using same), ih later, List.lookup_cons, skipped]

/-- The fields of a name that a record knows are the one that it was given, if it was given one,
wherever that stands and whatever unknown fields there are. -/
theorem filter_eq_of_perm (order : all.Perm (fields ++ others))
    (unknown : ∀ other ∈ others, other.1 ∉ names) (distinct : (fields.map Prod.fst).Nodup)
    {name : String} (known : name ∈ names) :
    all.filter (fun field => field.1 = name) =
      ((fields.lookup name).map fun value => (name, value)).toList := by
  have foreign : others.filter (fun field => field.1 = name) = [] := by
    refine List.filter_eq_nil_iff.2 fun other within same => unknown other within ?_
    rwa [of_decide_eq_true same]
  have filtered := order.filter fun field => field.1 = name
  rw [List.filter_append, foreign, List.append_nil, filter_eq_toList_lookup distinct] at filtered
  cases found : fields.lookup name with
  | none =>
    rw [found] at filtered
    exact filtered.eq_nil
  | some value =>
    rw [found] at filtered
    exact filtered.eq_singleton

/-- Items that are all read give what they are read as. -/
theorem mapM_eq_some {α β : Type} {read : α → Option β} {items : List α} {values : List β}
    (reads : List.Forall₂ (fun item value => read item = some value) items values) :
    items.mapM read = some values := by
  induction reads with
  | nil => rfl
  | cons first _ ih => simp [List.mapM_cons, first, ih]

variable {α : Type} {writes : α → Value → Prop} {name : String} {layer : Option α}

/-- The fields for a layer have its name, and there is one of them at most. -/
theorem RecordFormat.LayerFields.names_sublist
    (written : format.LayerFields writes name layer fields) :
    (fields.map Prod.fst).Sublist [name] := by
  cases written with
  | leftOut => exact List.nil_sublist _
  | null | present => exact List.Sublist.refl _

/-- The fields for a layer have no other name. -/
theorem RecordFormat.LayerFields.lookup_of_ne
    (written : format.LayerFields writes name layer fields) {other : String}
    (differs : other ≠ name) : fields.lookup other = none := by
  have skipped : (other == name) = false := by simpa using differs
  cases written with
  | leftOut => rfl
  | null | present => rw [List.lookup_cons, skipped, List.lookup_nil]

/-- A layer that is written whenever it is there has the fields of that layer. -/
theorem RecordFormat.layerFields_toList {write : α → Value}
    (written : ∀ layer, writes layer (write layer)) (name : String) (layer : Option α) :
    format.LayerFields writes name layer (layer.map fun layer => (name, write layer)).toList := by
  cases layer with
  | none => exact .leftOut
  | some layer => exact .present (written layer)

end Fields

namespace Json

variable {names : List String} {fields : List (String × Json)} {value : Json}

/-- The fields of a record are found by their names, in any order and among others. -/
theorem record?_of_hasFields (has : RecordFormat.json.HasFields names fields value)
    (distinct : (fields.map Prod.fst).Nodup) :
    value.record? names = some (names.map fun name => fields.lookup name) := by
  obtain ⟨all, others, order, unknown, rfl⟩ := has
  have only : ∀ name ∈ names, onlyField? (all.map fun field => (some field.1, field.2)) name =
      some (fields.lookup name) := by
    intro name known
    have same : ((all.map fun field => (some field.1, field.2)).filter
        fun field => field.1 == some name) =
          (all.filter fun field => field.1 = name).map fun field => (some field.1, field.2) := by
      rw [List.filter_map]
      rfl
    rw [onlyField?, same, filter_eq_of_perm order unknown distinct known]
    cases fields.lookup name <;> rfl
  have named : ((all.map fun field => (some field.1, field.2)).all
      fun field => field.1.isSome) = true := by simp
  rw [ofFields, record?, if_pos named]
  exact mapM_eq_some (List.forall₂_map_right_iff.2 (List.forall₂_same.2 only))

/-- A record is not taken for no value. -/
theorem isNull_of_hasFields (has : RecordFormat.json.HasFields names fields value) :
    value.isNull = false := by
  obtain ⟨all, others, -, -, rfl⟩ := has
  rfl

end Json

namespace Yaml.Node

variable {names : List String} {fields : List (String × Node)} {node : Node}

/-- The fields of a record are found by their names, in any order and among others. -/
theorem record?_of_hasFields (has : RecordFormat.yaml.HasFields names fields node)
    (distinct : (fields.map Prod.fst).Nodup) :
    node.record? names = some (names.map fun name => fields.lookup name) := by
  obtain ⟨all, others, order, unknown, pairs, paired, rfl⟩ := has
  have keys : (pairs.mapM fun pair => pair.1.text?.map (·, pair.2)) = some all := by
    refine mapM_eq_some (paired.imp fun pair field isPair => ?_)
    cases isPair
    rfl
  have only : ∀ name ∈ names, onlyValue? all name = some (fields.lookup name) := by
    intro name known
    rw [onlyValue?, filter_eq_of_perm order unknown distinct known]
    cases fields.lookup name <;> rfl
  rw [record?, keys]
  exact mapM_eq_some (List.forall₂_map_right_iff.2 (List.forall₂_same.2 only))

/-- A record is not taken for no value. -/
theorem isNull_of_hasFields (has : RecordFormat.yaml.HasFields names fields node) :
    node.isNull = false := by
  obtain ⟨all, others, -, -, pairs, -, rfl⟩ := has
  rfl

/-- A number in decimal is taken neither for one with a sign nor for one in another base. -/
theorem natOfText?_toString (number : Nat) :
    natOfText? (toString number).toList = some number := by
  by_cases isZero : number = 0
  · subst isZero
    decide
  · have read := readNumeral?_toString number
    rw [Nat.toString_eq_repr, Nat.toList_repr] at read ⊢
    have led : (Nat.toDigits 10 number).head? ≠ some '0' := fun zeroLed =>
      isZero ((head?_toDigits (by decide) number).1 zeroLed)
    have unsigned : '+' ∉ Nat.toDigits 10 number :=
      notMem_toDigits (by decide) (by decide) rfl number
    cases digits : Nat.toDigits 10 number with
    | nil => exact absurd digits Nat.toDigits_ne_nil
    | cons first rest =>
      rw [digits] at read led unsigned
      have notZero : first ≠ '0' := fun same => led (congrArg some same)
      have notPlus : first ≠ '+' := fun same => unsigned (same ▸ List.mem_cons_self)
      simp [natOfText?, basedNumeral?, isZeroLed, notZero, Ne.symm notZero, notPlus, read]

/-- A number in decimal is read as that number, if it fits in a machine word. -/
theorem nat?_toString {number : Nat} (fits : number < wordLimit) :
    (scalar true (toString number)).nat? = some number := by
  rw [nat?, natOfText?_toString, Option.filter_some, if_pos (decide_eq_true fits)]

end Yaml.Node

/-! ## Packets -/

/-- The name of a transport protocol is read as that protocol. -/
theorem TransportProtocol.ofName?_name (protocol : TransportProtocol) :
    ofName? protocol.name = some protocol := by
  cases protocol <;> rfl

/-- The name of an ICMP version is read as that version. -/
theorem IcmpVersion.ofName?_name (version : IcmpVersion) :
    ofName? version.name = some version := by
  cases version <;> rfl

/-- The number of a port is that of the port alone. -/
theorem portOfNat?_toNat (port : UInt16) : portOfNat? port.toNat = some port := by
  rw [portOfNat?, if_pos port.toNat_lt_size, Nat.toUInt16_eq, UInt16.ofNat_toNat]

namespace Packet

section Layers

variable {Value : Type} {format : RecordFormat Value} {packet : Packet}
  {network transport icmp : List (String × Value)}
  (hasNetwork : format.LayerFields (NetworkLayer.WrittenAs format) "network" packet.network network)
  (hasTransport : format.LayerFields (TransportLayer.WrittenAs format) "transport"
    packet.transport transport)
  (hasIcmp : format.LayerFields (IcmpVersion.WrittenAs format) "icmp" packet.icmp icmp)
include hasNetwork hasTransport hasIcmp

/-- No two fields of a packet have one name. -/
theorem nodup_layerFields : ((network ++ transport ++ icmp).map Prod.fst).Nodup := by
  have within : ((network ++ transport ++ icmp).map Prod.fst).Sublist
      ["network", "transport", "icmp"] := by
    rw [List.map_append, List.map_append]
    exact (hasNetwork.names_sublist.append hasTransport.names_sublist).append hasIcmp.names_sublist
  exact within.nodup (by decide)

/-- The field of each layer is found among the fields for that layer. -/
theorem lookup_layerFields :
    (["network", "transport", "icmp"].map fun name => (network ++ transport ++ icmp).lookup name) =
      [network.lookup "network", transport.lookup "transport", icmp.lookup "icmp"] := by
  simp only [List.map_cons, List.map_nil, List.lookup_append]
  have noNetwork : transport.lookup "network" = none ∧ icmp.lookup "network" = none :=
    ⟨hasTransport.lookup_of_ne (by decide), hasIcmp.lookup_of_ne (by decide)⟩
  have noTransport : network.lookup "transport" = none ∧ icmp.lookup "transport" = none :=
    ⟨hasNetwork.lookup_of_ne (by decide), hasIcmp.lookup_of_ne (by decide)⟩
  have noIcmp : network.lookup "icmp" = none ∧ transport.lookup "icmp" = none :=
    ⟨hasNetwork.lookup_of_ne (by decide), hasTransport.lookup_of_ne (by decide)⟩
  simp only [noNetwork, noTransport, noIcmp, Option.or_none, Option.none_or]

end Layers

/-! ### From JSON -/

section FromJson

variable {packet : Packet} {value : Json}

/-- A network layer is read back from JSON. -/
theorem networkOfJson?_of_writtenAs {layer : NetworkLayer} (written : layer.WrittenAs .json value) :
    value.isNull = false ∧ networkOfJson? value = some layer := by
  obtain ⟨source, destination, rfl, rfl, has⟩ := written
  have address (address : Address) : addressOfJson? (.ofString address.text) = some address :=
    address.ofText?_text
  refine ⟨Json.isNull_of_hasFields has, ?_⟩
  rw [networkOfJson?, Json.record?_of_hasFields has (by simp)]
  simp [List.lookup_cons, address]

/-- A transport layer is read back from JSON. -/
theorem transportOfJson?_of_writtenAs {layer : TransportLayer}
    (written : layer.WrittenAs .json value) :
    value.isNull = false ∧ transportOfJson? value = some layer := by
  obtain ⟨protocol, sourcePort, destinationPort, rfl, rfl, rfl, has⟩ := written
  have choice : (Json.ofString layer.protocol.name).choice? >>= TransportProtocol.ofName? =
      some layer.protocol := layer.protocol.ofName?_name
  have port (port : UInt16) : portOfJson? (.ofNat port.toNat) = some port := by
    have read : (Json.ofNat port.toNat).nat? = some port.toNat := readNumeral?_toString port.toNat
    rw [portOfJson?, read]
    exact portOfNat?_toNat port
  refine ⟨Json.isNull_of_hasFields has, ?_⟩
  rw [transportOfJson?, Json.record?_of_hasFields has (by simp)]
  simp [List.lookup_cons, choice, port]

/-- An ICMP layer is read back from JSON. -/
theorem icmpOfJson?_of_writtenAs {version : IcmpVersion} (written : version.WrittenAs .json value) :
    value.isNull = false ∧ icmpOfJson? value = some version := by
  obtain rfl : value = .ofString version.name := written
  exact ⟨rfl, version.ofName?_name⟩

/-- A layer that may be absent is read back from JSON if it is read back when it is there. -/
theorem layerOfJson?_of_layerFields {α : Type} {writes : α → Json → Prop} {read : Json → Option α}
    {name : String} {layer : Option α} {fields : List (String × Json)}
    (reads : ∀ {layer value}, writes layer value → value.isNull = false ∧ read value = some layer)
    (written : RecordFormat.json.LayerFields writes name layer fields) :
    layerOfJson? read (fields.lookup name) = some layer := by
  cases written with
  | leftOut => rfl
  | @null value isNull =>
    obtain rfl : value = .null := isNull
    rw [List.lookup_cons_self]
    rfl
  | present written =>
    obtain ⟨notNull, isLayer⟩ := reads written
    rw [List.lookup_cons_self, layerOfJson?, notNull, if_neg Bool.false_ne_true, isLayer,
      Option.map_some]

/-- A packet is read back from each of its forms in JSON. -/
theorem ofJson?_of_writtenAs (written : packet.WrittenAs .json value) :
    ofJson? value = some packet := by
  obtain ⟨network, transport, icmp, hasNetwork, hasTransport, hasIcmp, has⟩ := written
  have fields := Json.record?_of_hasFields has (nodup_layerFields hasNetwork hasTransport hasIcmp)
  rw [lookup_layerFields hasNetwork hasTransport hasIcmp] at fields
  rw [ofJson?, fields]
  dsimp only
  rw [layerOfJson?_of_layerFields networkOfJson?_of_writtenAs hasNetwork,
    layerOfJson?_of_layerFields transportOfJson?_of_writtenAs hasTransport,
    layerOfJson?_of_layerFields icmpOfJson?_of_writtenAs hasIcmp]
  rfl

/-- The form without fields for absent layers is one of the forms in JSON. -/
theorem writtenAs_toJson (packet : Packet) : packet.WrittenAs .json packet.toJson := by
  have alone (names : List String) (fields : List (String × Json)) :
      RecordFormat.json.HasFields names fields (.ofFields fields) :=
    ⟨fields, [], List.Perm.of_eq (List.append_nil fields).symm, nofun, rfl⟩
  have network (layer : NetworkLayer) : layer.WrittenAs .json (networkToJson layer) :=
    ⟨_, _, rfl, rfl, alone _ _⟩
  have transport (layer : TransportLayer) : layer.WrittenAs .json (transportToJson layer) :=
    ⟨_, _, _, rfl, rfl, rfl, alone _ _⟩
  have icmp (version : IcmpVersion) : version.WrittenAs .json (.ofString version.name) := rfl
  exact ⟨_, _, _, RecordFormat.layerFields_toList network _ _,
    RecordFormat.layerFields_toList transport _ _, RecordFormat.layerFields_toList icmp _ _,
    alone _ _⟩

end FromJson

/-! ### From YAML -/

section FromYaml

variable {packet : Packet} {node : Yaml.Node}

/-- A network layer is read back from YAML. -/
theorem networkOfNode?_of_writtenAs {layer : NetworkLayer} (written : layer.WrittenAs .yaml node) :
    node.isNull = false ∧ networkOfNode? node = some layer := by
  obtain ⟨_, _, ⟨plain, rfl⟩, ⟨plainToo, rfl⟩, has⟩ := written
  have address (plain : Bool) (address : Address) :
      addressOfNode? (.scalar plain address.text) = some address := address.ofText?_text
  refine ⟨Yaml.Node.isNull_of_hasFields has, ?_⟩
  rw [networkOfNode?, Yaml.Node.record?_of_hasFields has (by simp)]
  simp [List.lookup_cons, address]

/-- A transport layer is read back from YAML. -/
theorem transportOfNode?_of_writtenAs {layer : TransportLayer}
    (written : layer.WrittenAs .yaml node) :
    node.isNull = false ∧ transportOfNode? node = some layer := by
  obtain ⟨_, _, _, ⟨plain, rfl⟩, rfl, rfl, has⟩ := written
  have choice : (Yaml.Node.scalar plain layer.protocol.name).text? >>= TransportProtocol.ofName? =
      some layer.protocol := layer.protocol.ofName?_name
  have port (port : UInt16) : portOfNode? (.scalar true (toString port.toNat)) = some port := by
    have fits : port.toNat < wordLimit := Nat.lt_trans port.toNat_lt_size (by decide)
    rw [portOfNode?, Yaml.Node.nat?_toString fits]
    exact portOfNat?_toNat port
  refine ⟨Yaml.Node.isNull_of_hasFields has, ?_⟩
  rw [transportOfNode?, Yaml.Node.record?_of_hasFields has (by simp)]
  simp [List.lookup_cons, choice, port, -Nat.toString_eq_repr]

/-- An ICMP layer is read back from YAML. -/
theorem icmpOfNode?_of_writtenAs {version : IcmpVersion} (written : version.WrittenAs .yaml node) :
    node.isNull = false ∧ icmpOfNode? node = some version := by
  obtain ⟨plain, rfl⟩ := written
  refine ⟨?_, version.ofName?_name⟩
  cases plain <;> cases version <;> decide

/-- A layer that may be absent is read back from YAML if it is read back when it is there. -/
theorem layerOfNode?_of_layerFields {α : Type} {writes : α → Yaml.Node → Prop}
    {read : Yaml.Node → Option α} {name : String} {layer : Option α}
    {fields : List (String × Yaml.Node)}
    (reads : ∀ {layer node}, writes layer node → node.isNull = false ∧ read node = some layer)
    (written : RecordFormat.yaml.LayerFields writes name layer fields) :
    layerOfNode? read (fields.lookup name) = some layer := by
  cases written with
  | leftOut => rfl
  | null isNull =>
    obtain ⟨word, isWord, rfl⟩ := isNull
    have null : (Yaml.Node.scalar true word).isNull = true := by
      simpa [Yaml.Node.isNull] using isWord
    rw [List.lookup_cons_self, layerOfNode?, if_pos null]
  | present written =>
    obtain ⟨notNull, isLayer⟩ := reads written
    rw [List.lookup_cons_self, layerOfNode?, notNull, if_neg Bool.false_ne_true, isLayer,
      Option.map_some]

/-- A packet is read back from each of its forms in YAML. -/
theorem ofNode?_of_writtenAs (written : packet.WrittenAs .yaml node) :
    ofNode? node = some packet := by
  obtain ⟨network, transport, icmp, hasNetwork, hasTransport, hasIcmp, has⟩ := written
  have fields := Yaml.Node.record?_of_hasFields has
    (nodup_layerFields hasNetwork hasTransport hasIcmp)
  rw [lookup_layerFields hasNetwork hasTransport hasIcmp] at fields
  rw [ofNode?, fields]
  dsimp only
  rw [layerOfNode?_of_layerFields networkOfNode?_of_writtenAs hasNetwork,
    layerOfNode?_of_layerFields transportOfNode?_of_writtenAs hasTransport,
    layerOfNode?_of_layerFields icmpOfNode?_of_writtenAs hasIcmp]
  rfl

end FromYaml

/-! ### Read back -/

/-- What was read is the packet that was written, so rules and the tracker are shown the same. -/
structure IsReadBack (written : Packet) (outcome : Option Packet) : Prop where
  /-- The packet is read. -/
  packet : outcome = some written
  /-- It has the same layers and the same endpoints. -/
  view : outcome.map Packet.view = some written.view
  /-- It belongs to the same flow, or to none. -/
  flow : outcome.map (fun read => FlowKey.ofView? read.view) = some (FlowKey.ofView? written.view)

/-- A packet that is read is shown as it was written. -/
theorem isReadBack_of_eq {packet : Packet} {outcome : Option Packet}
    (read : outcome = some packet) : packet.IsReadBack outcome := by
  subst read
  exact ⟨rfl, rfl, rfl⟩

/-- A packet is read back from its own form and from every other form that it may be written in:
with absent layers left out or written as no value, with its fields in any order, and with unknown
fields among them, both as JSON and as YAML. So packets have the same form only if they are the
same. -/
theorem readBack_of_writtenAs :
    (∀ packet : Packet, packet.IsReadBack (ofJson? packet.toJson)) ∧
      (∀ (packet : Packet) (value : Json), packet.WrittenAs .json value →
        packet.IsReadBack (ofJson? value)) ∧
      (∀ (packet : Packet) (node : Yaml.Node), packet.WrittenAs .yaml node →
        packet.IsReadBack (ofNode? node)) ∧
      ∀ packet other : Packet, packet.toJson = other.toJson ↔ packet = other := by
  have own (packet : Packet) : ofJson? packet.toJson = some packet :=
    ofJson?_of_writtenAs packet.writtenAs_toJson
  refine ⟨fun packet => isReadBack_of_eq (own packet),
    fun packet value written => isReadBack_of_eq (ofJson?_of_writtenAs written),
    fun packet node written => isReadBack_of_eq (ofNode?_of_writtenAs written),
    fun packet other => ⟨fun same => ?_, congrArg toJson⟩⟩
  have read := own packet
  rw [same, own other] at read
  exact (Option.some.inj read).symm

/-- A network layer from an address that maps one of version 4. -/
def mappedNetwork : NetworkLayer where
  source := .v6 #v[0, 0, 0, 0, 0, 0xFFFF, 0x0A00, 1]
  destination := .v6 #v[0x2001, 0xDB8, 0, 0, 0, 0, 0, 1]

/-- A packet with this layer and no other. -/
def mappedPacket : Packet := ⟨some mappedNetwork, none, none⟩

/-- A form of it as JSON, with a field that network layers do not have and one absent layer. -/
def mappedJson : Json :=
  .ofFields [("icmp", .null), ("network", .ofFields [("ttl", .ofNat 64),
    ("dst", .ofString "2001:db8::1"), ("src", .ofString "::ffff:10.0.0.1")])]

/-- A form of it as YAML, with a field that packets do not have and one absent layer. -/
def mappedNode : Yaml.Node :=
  .mapping [(.scalar false "note", .sequence []), (.scalar true "icmp", .scalar true "~"),
    (.scalar true "network", .mapping [(.scalar true "dst", .scalar true "2001:db8::1"),
      (.scalar true "src", .scalar false "::ffff:10.0.0.1")])]

/-- The packet is read back from both. -/
theorem readBack_mappedPacket :
    mappedPacket.WrittenAs .json mappedJson ∧ ofJson? mappedJson = some mappedPacket ∧
      mappedPacket.WrittenAs .yaml mappedNode ∧ ofNode? mappedNode = some mappedPacket := by
  have source : mappedNetwork.source.text = "::ffff:10.0.0.1" := by decide
  have destination : mappedNetwork.destination.text = "2001:db8::1" := by decide
  have json : mappedPacket.WrittenAs .json mappedJson := by
    have network : mappedNetwork.WrittenAs .json (.ofFields [("ttl", .ofNat 64),
        ("dst", .ofString "2001:db8::1"), ("src", .ofString "::ffff:10.0.0.1")]) :=
      ⟨_, _, source ▸ rfl, destination ▸ rfl, _, [("ttl", .ofNat 64)], List.reverse_perm _,
        by simp, rfl⟩
    exact ⟨_, _, _, .present network, .leftOut, .null rfl, _, [], List.reverse_perm _, nofun, rfl⟩
  have yaml : mappedPacket.WrittenAs .yaml mappedNode := by
    have network : mappedNetwork.WrittenAs .yaml (.mapping [
        (.scalar true "dst", .scalar true "2001:db8::1"),
        (.scalar true "src", .scalar false "::ffff:10.0.0.1")]) :=
      ⟨_, _, ⟨false, source ▸ rfl⟩, ⟨true, destination ▸ rfl⟩, _, [], List.reverse_perm _, nofun,
        _, .cons (.named true "dst" _) (.cons (.named true "src" _) .nil), rfl⟩
    exact ⟨_, _, _, .present network, .leftOut, .null ⟨"~", by simp, rfl⟩, _,
      [("note", .sequence [])], List.reverse_perm _, by simp, _,
      .cons (.named false "note" _) (.cons (.named true "icmp" _)
        (.cons (.named true "network" _) .nil)), rfl⟩
  obtain ⟨-, fromJson, fromYaml, -⟩ := readBack_of_writtenAs
  exact ⟨json, (fromJson _ _ json).packet, yaml, (fromYaml _ _ yaml).packet⟩

end Packet

end PacketFilter
