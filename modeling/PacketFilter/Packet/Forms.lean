import PacketFilter.Json
import PacketFilter.Packet
import PacketFilter.Yaml.Node

/-!
# Written forms of packets

A packet is a record with a field for each layer, as JSON or as YAML.
-/
namespace PacketFilter

/-! ## Packets as JSON

A packet is written as an object without the layers that it lacks. Reading also takes `null` for
an absent layer, an array with the fields of a record in order, fields that packets do not have,
and an object with one name for a choice. -/

/-- The word for a transport protocol. -/
def TransportProtocol.name : TransportProtocol → String
  | tcp => "tcp"
  | udp => "udp"

/-- The transport protocol that a word names. -/
def TransportProtocol.ofName? (word : String) : Option TransportProtocol :=
  if word = "tcp" then some .tcp else if word = "udp" then some .udp else none

/-- The word for an ICMP version. -/
def IcmpVersion.name : IcmpVersion → String
  | v4 => "v4"
  | v6 => "v6"

/-- The ICMP version that a word names. -/
def IcmpVersion.ofName? (word : String) : Option IcmpVersion :=
  if word = "v4" then some .v4 else if word = "v6" then some .v6 else none

/-- The port of a number in range. -/
def portOfNat? (value : Nat) : Option UInt16 :=
  if value < UInt16.size then some value.toUInt16 else none

namespace Packet

/-- A network layer as JSON. -/
def networkToJson (layer : NetworkLayer) : Json :=
  .ofFields [("src", .ofString layer.source.text), ("dst", .ofString layer.destination.text)]

/-- A transport layer as JSON. -/
def transportToJson (layer : TransportLayer) : Json :=
  .ofFields [("protocol", .ofString layer.protocol.name),
    ("src_port", .ofNat layer.sourcePort.toNat), ("dst_port", .ofNat layer.destinationPort.toNat)]

/-- A packet as JSON, without absent layers. -/
def toJson (packet : Packet) : Json :=
  .ofFields <|
    (packet.network.map fun layer => ("network", networkToJson layer)).toList ++
    (packet.transport.map fun layer => ("transport", transportToJson layer)).toList ++
    (packet.icmp.map fun version => ("icmp", Json.ofString version.name)).toList

/-- An address from JSON. -/
def addressOfJson? (json : Json) : Option Address := json.text? >>= Address.ofText?

/-- A port from JSON. -/
def portOfJson? (json : Json) : Option UInt16 := json.nat? >>= portOfNat?

/-- A network layer from JSON. -/
def networkOfJson? (json : Json) : Option NetworkLayer :=
  match json.record? ["src", "dst"] with
  | some [some source, some destination] => do
    some ⟨← addressOfJson? source, ← addressOfJson? destination⟩
  | _ => none

/-- A transport layer from JSON. -/
def transportOfJson? (json : Json) : Option TransportLayer :=
  match json.record? ["protocol", "src_port", "dst_port"] with
  | some [some protocol, some sourcePort, some destinationPort] => do
    let protocol ← protocol.choice? >>= TransportProtocol.ofName?
    some ⟨protocol, ← portOfJson? sourcePort, ← portOfJson? destinationPort⟩
  | _ => none

/-- An ICMP version from JSON. -/
def icmpOfJson? (json : Json) : Option IcmpVersion := json.choice? >>= IcmpVersion.ofName?

/-- A layer from the value of its field, absent where the value is. The outcome is nothing where
the value is there and not a layer. -/
def layerOfJson? {α : Type} (read : Json → Option α) : Option Json → Option (Option α)
  | none => some none
  | some json => if json.isNull then some none else (read json).map some

/-- A packet from JSON. -/
def ofJson? (json : Json) : Option Packet :=
  match json.record? ["network", "transport", "icmp"] with
  | some [network, transport, icmp] => do
    some ⟨← layerOfJson? networkOfJson? network, ← layerOfJson? transportOfJson? transport,
      ← layerOfJson? icmpOfJson? icmp⟩
  | _ => none

/-- A list of packets from JSON. -/
def listOfJson? : Json → Option (List Packet)
  | .array items => items.mapM ofJson?
  | _ => none

end Packet

end PacketFilter

namespace PacketFilter.Packet

/-! ## Packets as YAML

Packets are mappings with the field names that they have as JSON. A layer is absent where its
value is left out or a word for no value; choices are scalars, and ports plain numbers. -/

open Yaml

/-- An address from YAML. -/
def addressOfNode? (node : Node) : Option Address := node.text? >>= Address.ofText?

/-- A port from YAML. -/
def portOfNode? (node : Node) : Option UInt16 := node.nat? >>= portOfNat?

/-- A network layer from YAML. -/
def networkOfNode? (node : Node) : Option NetworkLayer :=
  match node.record? ["src", "dst"] with
  | some [some source, some destination] => do
    some ⟨← addressOfNode? source, ← addressOfNode? destination⟩
  | _ => none

/-- A transport layer from YAML. -/
def transportOfNode? (node : Node) : Option TransportLayer :=
  match node.record? ["protocol", "src_port", "dst_port"] with
  | some [some protocol, some sourcePort, some destinationPort] => do
    let protocol ← protocol.text? >>= TransportProtocol.ofName?
    some ⟨protocol, ← portOfNode? sourcePort, ← portOfNode? destinationPort⟩
  | _ => none

/-- An ICMP version from YAML. -/
def icmpOfNode? (node : Node) : Option IcmpVersion := node.text? >>= IcmpVersion.ofName?

/-- A layer from the value of its field, absent where the value is. The outcome is nothing where
the value is there and not a layer. -/
def layerOfNode? {α : Type} (read : Node → Option α) : Option Node → Option (Option α)
  | none => some none
  | some node => if node.isNull then some none else (read node).map some

/-- A packet from YAML. -/
def ofNode? (node : Node) : Option Packet :=
  match node.record? ["network", "transport", "icmp"] with
  | some [network, transport, icmp] => do
    some ⟨← layerOfNode? networkOfNode? network, ← layerOfNode? transportOfNode? transport,
      ← layerOfNode? icmpOfNode? icmp⟩
  | _ => none

/-- A list of packets from YAML; a list that is left out is empty. -/
def listOfNode? : Node → Option (List Packet)
  | .sequence items => items.mapM ofNode?
  | node => if node.isEmpty then some [] else none

end PacketFilter.Packet
