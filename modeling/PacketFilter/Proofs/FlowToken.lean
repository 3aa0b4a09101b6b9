import PacketFilter.Proofs.Address.RoundTrip
import PacketFilter.Proofs.LeastRecent

/-!
# Tokens tell flows apart

A flow is tracked by its four texts joined by single spaces. Where none of them has a space, cutting
the token at its spaces gives the texts back, empty ones included. So a tracker that looks up tokens
knows the flows themselves. The keys of decoded packets are of this kind, since neither an address
nor a port is written with a space.
-/
namespace PacketFilter

open Text

namespace FlowKey

variable {first second key : FlowKey}

/-- The four texts of a key, in the order of its token. -/
def fields (key : FlowKey) : List String :=
  [key.sourceAddress, key.sourcePort, key.destinationAddress, key.destinationPort]

/-- None of the four texts has a space. An empty one has none. -/
def Spaceless (key : FlowKey) : Prop := ∀ field ∈ key.fields, ' ' ∉ field.toList

/-- This can be checked text by text. -/
instance (key : FlowKey) : Decidable key.Spaceless :=
  inferInstanceAs (Decidable (∀ field ∈ key.fields, ' ' ∉ field.toList))

/-- A key is its four texts. -/
theorem fields_injective : Function.Injective fields := by
  intro first second same
  cases first
  cases second
  simpa [fields] using same

/-- The opposite direction has the same texts. -/
theorem mem_fields_reversed {field : String} : field ∈ key.reversed.fields ↔ field ∈ key.fields := by
  simp only [fields, reversed, List.mem_cons, List.not_mem_nil, or_false]
  constructor <;> (rintro (same | same | same | same) <;> simp [same])

/-- The opposite direction has no spaces, either. -/
theorem Spaceless.reversed (spaceless : key.Spaceless) : key.reversed.Spaceless :=
  fun field member => spaceless field (mem_fields_reversed.1 member)

/-- The token is the four texts joined by spaces. -/
theorem toList_token (key : FlowKey) :
    key.token.toList = [' '].intercalate (key.fields.map String.toList) := by
  simp [token, fields]

/-- The token of a key without spaces is cut into its four texts. -/
theorem Spaceless.split_token (spaceless : key.Spaceless) :
    split (· == ' ') key.token.toList = key.fields.map String.toList := by
  rw [toList_token]
  refine split_intercalate (by simp [fields]) fun part member => ?_
  obtain ⟨field, inside, rfl⟩ := List.mem_map.1 member
  exact spaceless field inside

/-- Keys without spaces have the same token only if they are the same. -/
theorem Spaceless.token_inj (one : first.Spaceless) (other : second.Spaceless) :
    first.token = second.token ↔ first = second := by
  constructor
  · intro same
    have cut : first.fields.map String.toList = second.fields.map String.toList := by
      rw [← one.split_token, same, other.split_token]
    have texts : Function.Injective String.toList := fun _ _ => String.toList_injective
    exact fields_injective (List.map_injective_iff.2 texts cut)
  · rintro rfl
    rfl

/-- The key of a packet that has these two layers. -/
def ofLayers (network : NetworkLayer) (transport : TransportLayer) : FlowKey where
  sourceAddress := network.source.text
  sourcePort := toString transport.sourcePort.toNat
  destinationAddress := network.destination.text
  destinationPort := toString transport.destinationPort.toNat

/-- A decoded packet that has both layers has a key, made of these alone. -/
theorem ofView?_view {packet : Packet} {network : NetworkLayer} {transport : TransportLayer}
    (hasNetwork : packet.network = some network) (hasTransport : packet.transport = some transport) :
    ofView? packet.view = some (ofLayers network transport) := by
  simp [ofView?, Packet.view, hasNetwork, hasTransport, ofLayers]

/-- No numeral has a space. -/
theorem space_notMem_toString (number : Nat) : ' ' ∉ (toString number).toList := by
  rw [Nat.toString_eq_repr, Nat.toList_repr]
  exact notMem_toDigits (by decide) (by decide) rfl number

/-- Neither addresses nor ports are written with a space. -/
theorem spaceless_ofLayers (network : NetworkLayer) (transport : TransportLayer) :
    (ofLayers network transport).Spaceless := by
  have address : ∀ address : Address, ' ' ∉ address.text.toList :=
    Address.notMem_text rfl (by decide) (by decide)
  intro field member
  simp only [fields, ofLayers, List.mem_cons, List.not_mem_nil, or_false] at member
  rcases member with rfl | rfl | rfl | rfl
  · exact address _
  · exact space_notMem_toString _
  · exact address _
  · exact space_notMem_toString _

/-- Ports that are written alike are the same. -/
theorem port_inj {first second : UInt16} :
    toString first.toNat = toString second.toNat ↔ first = second := by
  constructor
  · intro same
    have read := readNumeral?_toString first.toNat
    rw [same, readNumeral?_toString] at read
    exact UInt16.toNat_inj.1 (Option.some.inj read).symm
  · rintro rfl
    rfl

/-- Both layers give the same key exactly if addresses and ports are the same. -/
theorem ofLayers_inj {network other : NetworkLayer} {transport another : TransportLayer} :
    ofLayers network transport = ofLayers other another ↔
      network.source = other.source ∧ transport.sourcePort = another.sourcePort ∧
        network.destination = other.destination ∧
        transport.destinationPort = another.destinationPort := by
  simp only [ofLayers, FlowKey.mk.injEq, port_inj, Address.text_injective.eq_iff]

end FlowKey

namespace Tracker

variable {keys : List FlowKey} {key : FlowKey}

/-- A tracker without a capacity holds the token of a flow exactly if the flow was recorded. -/
theorem contains_token_recordAll (all : ∀ recorded ∈ keys, recorded.Spaceless)
    (one : key.Spaceless) :
    ((empty none).recordAll keys).contains key.token = true ↔ key ∈ keys := by
  rw [contains, List.contains_iff_mem, mem_tokens_recordAll_of_unbounded rfl rfl, List.mem_map]
  constructor
  · rintro ⟨recorded, member, same⟩
    exact ((all recorded member).token_inj one).1 same ▸ member
  · intro member
    exact ⟨key, member, rfl⟩

/-- A flow is established exactly if it or its reply direction was recorded. -/
theorem isEstablished_recordAll (all : ∀ recorded ∈ keys, recorded.Spaceless)
    (one : key.Spaceless) :
    ((empty none).recordAll keys).isEstablished key = true ↔ key ∈ keys ∨ key.reversed ∈ keys := by
  rw [isEstablished, Bool.or_eq_true, contains_token_recordAll all one,
    contains_token_recordAll all one.reversed]

/-- Both directions of a flow are established or none is. -/
theorem isEstablished_reversed (tracker : Tracker) (key : FlowKey) :
    tracker.isEstablished key = tracker.isEstablished key.reversed := by
  rw [isEstablished, isEstablished, FlowKey.reversed_reversed, Bool.or_comm]

/-- What a tracker says of a flow is what follows from the flows that were recorded. -/
structure Knows (tracker : Tracker) (keys : List FlowKey) (key : FlowKey) : Prop where
  /-- The token is held if the flow was recorded, and not for any other flow. -/
  contains : tracker.contains key.token = true ↔ key ∈ keys
  /-- The flow is established if it was recorded, or the one whose address and port are those of its
  other end was. -/
  isEstablished : tracker.isEstablished key = true ↔ key ∈ keys ∨
    { sourceAddress := key.destinationAddress, sourcePort := key.destinationPort,
      destinationAddress := key.sourceAddress, destinationPort := key.sourcePort } ∈ keys
  /-- The reply direction is established as well. -/
  reversed : tracker.isEstablished key = tracker.isEstablished key.reversed

/-- No two flows are taken for each other. The tokens of two keys without spaces are the same only
if the keys are. So a tracker without a capacity, for which any such flows were recorded, knows of
every such flow whether it or its reply direction was among them. Every decoded packet that has both
layers has a token, which is that of another one exactly if addresses and ports are the same. -/
theorem recordAll_tellsApart :
    (∀ first second : FlowKey, first.Spaceless → second.Spaceless →
        (first.token = second.token ↔ first = second)) ∧
      (∀ (keys : List FlowKey) (key : FlowKey), (∀ recorded ∈ keys, recorded.Spaceless) →
        key.Spaceless → ((empty none).recordAll keys).Knows keys key) ∧
      ∀ (one other : Packet) (network network' : NetworkLayer)
        (transport transport' : TransportLayer),
        one.network = some network → one.transport = some transport →
        other.network = some network' → other.transport = some transport' →
          ∃ first second, FlowKey.ofView? one.view = some first ∧
            FlowKey.ofView? other.view = some second ∧
            (first.token = second.token ↔
              network.source = network'.source ∧ transport.sourcePort = transport'.sourcePort ∧
                network.destination = network'.destination ∧
                transport.destinationPort = transport'.destinationPort) := by
  refine ⟨fun _ _ one other => one.token_inj other, fun keys key all one => ?_, ?_⟩
  · constructor
    · exact contains_token_recordAll all one
    · exact isEstablished_recordAll all one
    · exact isEstablished_reversed _ key
  · intro one other network network' transport transport' hasNetwork hasTransport hasNetwork'
      hasTransport'
    refine ⟨_, _, FlowKey.ofView?_view hasNetwork hasTransport,
      FlowKey.ofView?_view hasNetwork' hasTransport', ?_⟩
    rw [(FlowKey.spaceless_ofLayers _ _).token_inj (FlowKey.spaceless_ofLayers _ _),
      FlowKey.ofLayers_inj]

/-- A packet of either protocol between two hosts of different versions. -/
def betweenVersions (protocol : TransportProtocol) : Packet :=
  Packet.betweenPorts protocol (.v4 #v[10, 0, 0, 1]) 5000 (.v6 #v[0, 0, 0, 0, 0, 0xFFFF, 2, 1]) 443

/-- A flow that was recorded is known in both directions, and not with its ports alone changing
places; it matters which of the texts are empty, and it does not matter what the protocol is. -/
theorem recordAll_tellsApart_fromPort :
    (((empty none).recordAll [⟨"10.0.0.1", "5000", "10.0.0.2", "443"⟩]).isEstablished
          ⟨"10.0.0.2", "443", "10.0.0.1", "5000"⟩ = true ∧
        ((empty none).recordAll [⟨"10.0.0.1", "5000", "10.0.0.2", "443"⟩]).isEstablished
          ⟨"10.0.0.1", "443", "10.0.0.2", "5000"⟩ = false) ∧
      (⟨"", "1", "", ""⟩ : FlowKey).token ≠ (⟨"1", "", "", ""⟩ : FlowKey).token ∧
      ∃ first second, FlowKey.ofView? (betweenVersions .tcp).view = some first ∧
        FlowKey.ofView? (betweenVersions .udp).view = some second ∧
        first.token = second.token := by
  have knows := fun key => recordAll_tellsApart.2.1 [⟨"10.0.0.1", "5000", "10.0.0.2", "443"⟩] key
    (by decide)
  refine ⟨⟨?_, ?_⟩, fun same => ?_, ?_⟩
  · exact (knows _ (by decide)).isEstablished.2 (by decide)
  · refine Bool.eq_false_iff.2 fun established => ?_
    exact absurd ((knows _ (by decide)).isEstablished.1 established) (by decide)
  · have equal := (recordAll_tellsApart.1 _ _ (by decide) (by decide)).1 same
    exact absurd equal (by decide)
  · obtain ⟨first, second, found, found', same⟩ := recordAll_tellsApart.2.2
      (betweenVersions .tcp) (betweenVersions .udp) _ _ _ _ rfl rfl rfl rfl
    exact ⟨first, second, found, found', same.2 ⟨rfl, rfl, rfl, rfl⟩⟩

end Tracker

end PacketFilter
