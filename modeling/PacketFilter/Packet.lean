import PacketFilter.Address

/-!
# Packets and what a rule can see of them

Rules never look at raw bytes. They ask which layers a packet has and which endpoints its network
and transport layers name, as text. `PacketView` holds exactly these answers; `Packet` is a
decoded packet, and `Packet.view` its view.
-/
namespace PacketFilter

/-- A layer that a rule can ask for. -/
inductive Layer where
  /-- The TCP transport layer. -/
  | tcp
  /-- The UDP transport layer. -/
  | udp
  /-- ICMP for version 4. -/
  | icmpV4
  /-- ICMP for version 6. -/
  | icmpV6
  deriving DecidableEq, Repr

/-- The two ends of a layer, as the text that rules compare. -/
structure Endpoints where
  /-- The sending end. -/
  source : String
  /-- The receiving end. -/
  destination : String
  deriving DecidableEq, Repr

/-- The ends seen from the other direction. -/
def Endpoints.reversed (ends : Endpoints) : Endpoints := ⟨ends.destination, ends.source⟩

/-- All that a rule can see of a packet; an absent layer has no endpoints at all. -/
structure PacketView where
  /-- The layers that are present. -/
  layers : List Layer
  /-- The addresses, if there is a network layer. -/
  network : Option Endpoints
  /-- The ports, if there is a transport layer. -/
  transport : Option Endpoints
  deriving DecidableEq, Repr

/-- Whether a layer is present. -/
def PacketView.has (view : PacketView) (layer : Layer) : Bool := view.layers.contains layer

/-- The protocol of a transport layer. -/
inductive TransportProtocol where
  /-- TCP. -/
  | tcp
  /-- UDP. -/
  | udp
  deriving DecidableEq, Repr

/-- The version of an ICMP layer. -/
inductive IcmpVersion where
  /-- Version 4. -/
  | v4
  /-- Version 6. -/
  | v6
  deriving DecidableEq, Repr

/-- The network layer of a decoded packet. -/
structure NetworkLayer where
  /-- The sending host. -/
  source : Address
  /-- The receiving host. -/
  destination : Address
  deriving DecidableEq, Repr

/-- The transport layer of a decoded packet. -/
structure TransportLayer where
  /-- Its protocol. -/
  protocol : TransportProtocol
  /-- The sending port. -/
  sourcePort : UInt16
  /-- The receiving port. -/
  destinationPort : UInt16
  deriving DecidableEq, Repr

/-- A decoded packet; every layer may be absent. -/
structure Packet where
  /-- The network layer. -/
  network : Option NetworkLayer
  /-- The transport layer. -/
  transport : Option TransportLayer
  /-- The ICMP layer. -/
  icmp : Option IcmpVersion
  deriving DecidableEq, Repr

namespace Packet

/-- The layer that a transport protocol shows as. -/
def transportLayer : TransportProtocol → Layer
  | .tcp => .tcp
  | .udp => .udp

/-- The layer that an ICMP version shows as. -/
def icmpLayer : IcmpVersion → Layer
  | .v4 => .icmpV4
  | .v6 => .icmpV6

/-- What a rule sees of a decoded packet: addresses in canonical text, ports in decimal. -/
def view (packet : Packet) : PacketView where
  layers :=
    (packet.transport.map fun transport => transportLayer transport.protocol).toList ++
      (packet.icmp.map icmpLayer).toList
  network := packet.network.map fun network => ⟨network.source.text, network.destination.text⟩
  transport := packet.transport.map fun transport =>
    ⟨toString transport.sourcePort.toNat, toString transport.destinationPort.toNat⟩

/-- A packet between two ports. -/
def betweenPorts (protocol : TransportProtocol) (source : Address) (sourcePort : UInt16)
    (destination : Address) (destinationPort : UInt16) : Packet where
  network := some ⟨source, destination⟩
  transport := some ⟨protocol, sourcePort, destinationPort⟩
  icmp := none

/-- The ICMP version used from an address. -/
def icmpVersionOf : Address → IcmpVersion
  | .v4 _ => .v4
  | .v6 _ => .v6

/-- An ICMP packet; its version follows the address it is sent from. -/
def betweenHosts (source destination : Address) : Packet where
  network := some ⟨source, destination⟩
  transport := none
  icmp := some (icmpVersionOf source)

end Packet

end PacketFilter
