import Mathlib.Data.List.DropRight
import UserMessageProtocol.Packet.Format

/-!
Contract: the lists of received packets.

Owns: what the code does with `rcv_data_packets`, `rcv_data_so_far`,
`rcv_first_msg_end` and `rec_msg_packets` (`ReceiveLists`), once on `GList` nodes
with their `prev` and `next` links (`GLists`) and once on plain sequences
(`PlainLists`).

Does not own: the counters and the control flow around the lists
(`Socket.Receiver`).
-/

set_option autoImplicit false

namespace UserMessageProtocol

/-- The operations of `ump_sock.c` on its lists of received packets. -/
class ReceiveLists (Lists : Type) where
  /-- All pointers `NULL`. -/
  new : Lists
  /-- The packets from `rec_msg_packets` on; `none` when it is `NULL`. -/
  recMsgPackets : Lists → Option (List UMPPacket)
  /-- `g_list_free(rec_msg_packets); rec_msg_packets=NULL`. -/
  freeRecMsgPackets : Lists → Lists
  /-- What `ump_harvest_messages` does to the lists: the packets up to
  `rcv_first_msg_end` move to `rec_msg_packets`, and `rcv_first_msg_end` becomes
  the first packet with BDR left or, when there is not `another` message, `NULL`. -/
  harvest : (another : Bool) → Lists → Lists
  /-- The search from the tail and `g_list_insert_before`; `none` when the packet
  is there already. -/
  insertPacket : (UInt16 → UInt16 → Int) → UMPPacket → Lists → Option Lists
  /-- The packet `rcv_data_so_far` points to. -/
  soFarPacket : Lists → Option UMPPacket
  /-- The packet `rcv_data_packets` points to. -/
  firstPacket : Lists → Option UMPPacket
  /-- `rcv_data_so_far=rcv_data_packets`. -/
  startSoFar : Lists → Lists
  /-- The loop that moves `rcv_data_so_far` over consecutive numbers, and whether
  it moved. -/
  advanceSoFar : Lists → Lists × Bool
  /-- `rcv_first_msg_end=rcv_data_so_far`. -/
  markFirstMsgEnd : Lists → Lists

/-! ### Linked lists -/

/-- A `GList` node; `none` is `NULL`. -/
structure GNode where
  data : UMPPacket
  prev : Option Nat
  next : Option Nat
deriving DecidableEq, Repr

/-- The nodes by address and the four pointers into them. Addresses from `fresh`
on were never used; a released node is gone. -/
structure GLists where
  heap : Nat → Option GNode
  fresh : Nat
  rcvDataPackets : Option Nat
  rcvDataSoFar : Option Nat
  rcvFirstMsgEnd : Option Nat
  recMsgPackets : Option Nat

namespace GLists

variable (heap : Nat → Option GNode)

/-- The node a pointer points to. -/
def deref (pointer : Option Nat) : Option GNode := pointer.bind heap

/-- The heap with one node rewritten. -/
def modify (address : Nat) (change : GNode → GNode) : Nat → Option GNode := fun other =>
  if other = address then (heap address).map change else heap other

/-- `prev` of a node, `NULL` where there is none. -/
def prevOf (pointer : Option Nat) : Option Nat := (deref heap pointer).bind GNode.prev

/-- `next` of a node, `NULL` where there is none. -/
def nextOf (pointer : Option Nat) : Option Nat := (deref heap pointer).bind GNode.next

/-- The packets from a pointer on, along `next`; `fuel` bounds their number. -/
def packetsFrom : Nat → Option Nat → List UMPPacket
  | 0, _ => []
  | fuel + 1, pointer =>
      match deref heap pointer with
      | none => []
      | some node => node.data :: packetsFrom fuel node.next

/-- The addresses from a pointer on, along `next`. -/
def addressesFrom : Nat → Option Nat → List Nat
  | 0, _ => []
  | _ + 1, none => []
  | fuel + 1, some address => address :: addressesFrom fuel (nextOf heap (some address))

/-- `g_list_last`. -/
def lastFrom : Nat → Option Nat → Option Nat
  | 0, pointer => pointer
  | fuel + 1, pointer =>
      match nextOf heap pointer with
      | none => pointer
      | some address => lastFrom fuel (some address)

/-- The search for the place of `seq`: from `tail` along `prev` while `seq` is
before it; the result is the pair `tail`, `next` of the source. -/
def searchFrom (compare : UInt16 → UInt16 → Int) (seq : UInt16) :
    Nat → Option Nat → Option Nat → Option Nat × Option Nat
  | 0, tail, next => (tail, next)
  | fuel + 1, tail, next =>
      match deref heap tail with
      | none => (tail, next)
      | some node =>
          if compare seq node.data.seqNum < 0 then searchFrom compare seq fuel node.prev tail
          else (tail, next)

/-- The loop that moves `rcv_data_so_far`. -/
def advanceFrom : Nat → Option Nat → Option Nat
  | 0, pointer => pointer
  | fuel + 1, pointer =>
      match deref heap pointer, deref heap (nextOf heap pointer) with
      | some here, some next =>
          if here.data.seqNum + 1 = next.data.seqNum then advanceFrom fuel here.next
          else pointer
      | _, _ => pointer

/-- The loop that looks for a packet with BDR. -/
def searchBdr : Nat → Option Nat → Option Nat
  | 0, pointer => pointer
  | fuel + 1, pointer =>
      match deref heap pointer with
      | none => pointer
      | some node =>
          if uPacketGetFlag node.data UP_DATA_BDR then pointer else searchBdr fuel node.next

/-- `g_list_insert_before(list, sibling, p)`: the heap with the new node at
`fresh`, and the head that is returned. -/
def insertBefore (fresh : Nat) (list sibling : Option Nat) (p : UMPPacket) :
    (Nat → Option GNode) × Option Nat :=
  let place (node : GNode) : Nat → Option GNode := fun other =>
    if other = fresh then some node else heap other
  match sibling with
  | some address =>
      let before := prevOf heap sibling
      let heap := modify (place ⟨p, before, some address⟩) address
        fun node => { node with prev := some fresh }
      match before with
      | some previous => (modify heap previous fun node => { node with next := some fresh }, list)
      | none => (heap, some fresh)
  | none =>
      match list with
      | none => (place ⟨p, none, none⟩, some fresh)
      | some _ =>
          match lastFrom heap fresh list with
          | some last =>
              (modify (place ⟨p, some last, none⟩) last
                fun node => { node with next := some fresh }, list)
          | none => (place ⟨p, none, none⟩, list)

end GLists

open GLists in
instance : ReceiveLists GLists where
  new := ⟨fun _ => none, 0, none, none, none, none⟩
  recMsgPackets l := l.recMsgPackets.map fun head => packetsFrom l.heap l.fresh (some head)
  freeRecMsgPackets l :=
    let released := addressesFrom l.heap l.fresh l.recMsgPackets
    { l with
      heap := fun address => if address ∈ released then none else l.heap address
      recMsgPackets := none }
  harvest another l :=
    match l.rcvFirstMsgEnd with
    | none => l
    | some last =>
        let rest := nextOf l.heap (some last)
        let heap := modify l.heap last fun node => { node with next := none }
        { l with
          recMsgPackets := l.rcvDataPackets
          rcvDataPackets := rest
          heap := heap
          rcvDataSoFar := if l.rcvDataSoFar = some last then none else l.rcvDataSoFar
          rcvFirstMsgEnd := if another then searchBdr heap l.fresh rest else none }
  insertPacket compare p l :=
    let (tail, next) := searchFrom l.heap compare p.seqNum l.fresh
      (lastFrom l.heap l.fresh l.rcvDataPackets) none
    if (deref l.heap tail).any fun node => p.seqNum = node.data.seqNum then none
    else
      let (heap, head) := insertBefore l.heap l.fresh l.rcvDataPackets next p
      some { l with heap := heap, fresh := l.fresh + 1, rcvDataPackets := head }
  soFarPacket l := (deref l.heap l.rcvDataSoFar).map GNode.data
  firstPacket l := (deref l.heap l.rcvDataPackets).map GNode.data
  startSoFar l := { l with rcvDataSoFar := l.rcvDataPackets }
  advanceSoFar l :=
    let reached := advanceFrom l.heap l.fresh l.rcvDataSoFar
    ({ l with rcvDataSoFar := reached }, reached ≠ l.rcvDataSoFar)
  markFirstMsgEnd l := { l with rcvFirstMsgEnd := l.rcvDataSoFar }

/-! ### Plain sequences -/

/-- The lists as sequences: `rcvDataSoFar` counts the packets up to the one the
pointer points to (zero for `NULL`), `rcvFirstMsgEnd` likewise, and
`recMsgPackets` is empty for `NULL`. -/
structure PlainLists where
  rcvDataPackets : List UMPPacket
  rcvDataSoFar : Nat
  rcvFirstMsgEnd : Nat
  recMsgPackets : List UMPPacket
deriving DecidableEq, Repr

namespace PlainLists

/-- The packets that the search from the tail stops at, and those it passed. -/
def splitAtPlace (compare : UInt16 → UInt16 → Int) (seq : UInt16) (packets : List UMPPacket) :
    List UMPPacket × List UMPPacket :=
  (packets.rdropWhile fun q => compare seq q.seqNum < 0,
    packets.rtakeWhile fun q => compare seq q.seqNum < 0)

/-- A count up to a node is one more when a packet goes in before the node. -/
def shift (place count : Nat) : Nat := if place < count then count + 1 else count

/-- How many packets behind `last` carry consecutive numbers. -/
def consecutive : UMPPacket → List UMPPacket → Nat
  | _, [] => 0
  | last, p :: rest => if last.seqNum + 1 = p.seqNum then consecutive p rest + 1 else 0

/-- The count up to the first packet with BDR, zero without one. -/
def firstBdr (packets : List UMPPacket) : Nat :=
  match packets.findIdx? fun p => uPacketGetFlag p UP_DATA_BDR with
  | some index => index + 1
  | none => 0

end PlainLists

open PlainLists in
instance : ReceiveLists PlainLists where
  new := ⟨[], 0, 0, []⟩
  recMsgPackets l := if l.recMsgPackets = [] then none else some l.recMsgPackets
  freeRecMsgPackets l := { l with recMsgPackets := [] }
  harvest another l :=
    if l.rcvFirstMsgEnd = 0 then l
    else
      let rest := l.rcvDataPackets.drop l.rcvFirstMsgEnd
      { recMsgPackets := l.rcvDataPackets.take l.rcvFirstMsgEnd
        rcvDataPackets := rest
        rcvDataSoFar := l.rcvDataSoFar - l.rcvFirstMsgEnd
        rcvFirstMsgEnd := if another then firstBdr rest else 0 }
  insertPacket compare p l :=
    let (before, behind) := splitAtPlace compare p.seqNum l.rcvDataPackets
    if before.getLast?.any fun q => p.seqNum = q.seqNum then none
    else
      some
        { l with
          rcvDataPackets := before ++ p :: behind
          rcvDataSoFar := shift before.length l.rcvDataSoFar
          rcvFirstMsgEnd := shift before.length l.rcvFirstMsgEnd }
  soFarPacket l := if l.rcvDataSoFar = 0 then none else l.rcvDataPackets[l.rcvDataSoFar - 1]?
  firstPacket l := l.rcvDataPackets.head?
  startSoFar l := { l with rcvDataSoFar := if l.rcvDataPackets = [] then 0 else 1 }
  advanceSoFar l :=
    if l.rcvDataSoFar = 0 then (l, false)
    else
      match l.rcvDataPackets.drop (l.rcvDataSoFar - 1) with
      | [] => (l, false)
      | last :: rest =>
          ({ l with rcvDataSoFar := l.rcvDataSoFar + consecutive last rest },
            0 < consecutive last rest)
  markFirstMsgEnd l := { l with rcvFirstMsgEnd := l.rcvDataSoFar }

end UserMessageProtocol
