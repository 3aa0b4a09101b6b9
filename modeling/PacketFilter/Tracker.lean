import PacketFilter.Packet

/-!
# Flows and which of them are established

A flow is one direction of a connection. The tracker holds the flows of the packets that were
accepted, so that replies are known by the opposite direction.
-/
namespace PacketFilter

/-! ## Flows

A flow is the addresses and ports of a packet that has both layers. It is known by its token,
the four texts joined by single spaces. -/

/-- The addresses and ports of one direction of a connection. -/
structure FlowKey where
  /-- The sending address. -/
  sourceAddress : String
  /-- The sending port. -/
  sourcePort : String
  /-- The receiving address. -/
  destinationAddress : String
  /-- The receiving port. -/
  destinationPort : String
  deriving DecidableEq, Repr

namespace FlowKey

/-- The key of a packet that has both a network and a transport layer. -/
def ofView? (view : PacketView) : Option FlowKey := do
  let network ← view.network
  let transport ← view.transport
  some ⟨network.source, transport.source, network.destination, transport.destination⟩

/-- The key of the opposite direction, in which replies travel. -/
def reversed (key : FlowKey) : FlowKey :=
  ⟨key.destinationAddress, key.destinationPort, key.sourceAddress, key.sourcePort⟩

/-- The text by which the flow is tracked. -/
def token (key : FlowKey) : String :=
  key.sourceAddress ++ " " ++ key.sourcePort ++ " " ++ key.destinationAddress ++ " " ++
    key.destinationPort

/-- Reversing twice gives the key back. -/
@[simp] theorem reversed_reversed (key : FlowKey) : key.reversed.reversed = key := rfl

end FlowKey

/-! ## Established flows

The tracker holds the tokens of the flows that were accepted, the least recently recorded first.
Without a capacity it keeps every flow at the place where it was first recorded. With one,
recording a known flow moves it to the end, and the flows at the front make room. -/

/-- The established flows, with an optional bound on their number. -/
structure Tracker where
  /-- The greatest number of flows held. -/
  capacity : Option Nat
  /-- The tokens of the flows held, oldest first. -/
  tokens : List String
  deriving DecidableEq, Repr

namespace Tracker

/-- A tracker without flows. A capacity of zero counts as one. -/
def empty (capacity : Option Nat) : Tracker := ⟨capacity.map (max · 1), []⟩

/-- Whether a token is held. -/
def contains (tracker : Tracker) (token : String) : Bool := tracker.tokens.contains token

/-- The number of flows held. -/
def size (tracker : Tracker) : Nat := tracker.tokens.length

/-- Whether the flow or its reply direction is held. -/
def isEstablished (tracker : Tracker) (key : FlowKey) : Bool :=
  tracker.contains key.token || tracker.contains key.reversed.token

/-- The tokens in recording order once a token is recorded, before any makes room. -/
def refreshed (tracker : Tracker) (token : String) : List String :=
  tracker.tokens.filter (· != token) ++ [token]

/-- The tokens that have to make room when a token is recorded, oldest first. -/
def evicted (tracker : Tracker) (token : String) : List String :=
  match tracker.capacity with
  | none => []
  | some capacity =>
    let order := tracker.refreshed token
    order.take (order.length - capacity)

/-- The tracker once a flow is recorded. -/
def record (tracker : Tracker) (key : FlowKey) : Tracker :=
  match tracker.capacity with
  | none => if tracker.contains key.token then tracker
    else { tracker with tokens := tracker.tokens ++ [key.token] }
  | some capacity =>
    let order := tracker.refreshed key.token
    { tracker with tokens := order.drop (order.length - capacity) }

/-- Whether recording a flow adds one that is not held yet. -/
def isNew (tracker : Tracker) (key : FlowKey) : Bool := !tracker.contains key.token

/-- The tracker once flows are recorded in order. -/
def recordAll (tracker : Tracker) (keys : List FlowKey) : Tracker := keys.foldl record tracker

/-- Recording keeps the capacity. -/
@[simp] theorem capacity_record (tracker : Tracker) (key : FlowKey) :
    (tracker.record key).capacity = tracker.capacity := by
  unfold record
  split
  · split <;> rfl
  · rfl

end Tracker

end PacketFilter
