import UserMessageProtocol.Core.Buffers
import UserMessageProtocol.Foundation.Pair
import UserMessageProtocol.Foundation.Runs
import UserMessageProtocol.Packet.RoundTrip

/-!
Contract: two cores that know nothing of each other and the datagrams between them.

Owns: the machine of two cores with the datagrams on their way (`resetMachine`), and the
theorem that its runs end exactly when nothing is on its way: every datagram is answered
by a reset, a reset too.

The network may lose datagrams and delivers them in any order; it makes none.

Does not own: how a core finds a receiver (`Core.Calls`).
-/

set_option autoImplicit false

namespace UserMessageProtocol

/-! ### The machine -/

/-- The bytes `ump_send_reset_packet_to` sends: those of the packet that a socket sends. -/
def resetBytes : List UInt8 := resetPacket.rawData.getD []

/-- Two cores with their addresses, and the datagrams on their way to each side. -/
structure ResetNet (Lists : Type) where
  cores : Duo (UMPCore Lists)
  addresses : Duo SockaddrIn
  flight : List (Side × List UInt8)

/-- A datagram arrives, with what lies behind its buffer and what a new socket would get,
or is lost. -/
inductive ResetEvent where
  | deliver (side : Side) (bytes : List UInt8) (behind : Nat → UInt8) (seq : UInt16) (clock : Clock)
  | lose (side : Side) (bytes : List UInt8)

section Machine

variable {Lists : Type} [ReceiveLists Lists]

def resetEnabled (n : ResetNet Lists) : ResetEvent → Prop
  | .deliver side bytes _ _ _ => (side, bytes) ∈ n.flight
  | .lose side bytes => (side, bytes) ∈ n.flight

/-- A round of the receive thread of one side; a reset to the other side goes on its way. -/
def deliver (n : ResetNet Lists) (side : Side) (bytes : List UInt8) (behind : Nat → UInt8)
    (seq : UInt16) (clock : Clock) : ResetNet Lists :=
  let sender := n.addresses.get side.other
  let receipt := receiveThreadFunc (n.cores.get side) ⟨sender, bytes, behind⟩ seq clock
  let answer := if receipt.reset = some sender then [(side.other, resetBytes)] else []
  { n with
    cores := n.cores.set side receipt.core
    flight := n.flight.erase (side, bytes) ++ answer }

def resetStep (n : ResetNet Lists) : ResetEvent → ResetNet Lists
  | .deliver side bytes behind seq clock => deliver n side bytes behind seq clock
  | .lose side bytes => { n with flight := n.flight.erase (side, bytes) }

variable (Lists) in
/-- Two cores and the network between them, without user calls. -/
def resetMachine : Machine (ResetNet Lists) ResetEvent where
  enabled := resetEnabled
  step := resetStep

end Machine

/-! ### Datagrams without a receiver -/

/-- A well-formed datagram that does not ask for a connection. -/
structure Stray (bytes : List UInt8) : Prop where
  wellFormed : WellFormed bytes
  noRequest : ∀ behind, ∀ p ∈ (uPacketFromBinary bytes ⟨bytes, behind⟩).1,
    isConnectRequest p = false

/-- A reset is such a datagram itself. -/
theorem stray_reset : Stray resetBytes := by
  let reset := uPacketSetFlag (uPacketNew .control .outgoing) UP_CTRL_RST
  have proper : Proper reset := (proper_uPacketNew .control .outgoing).setFlag (by decide)
  have bytes : resetBytes = (freshEncoding reset).1 := rfl
  rw [bytes]
  refine ⟨wellFormed_encoding proper, ?_⟩
  intro behind p decoded
  obtain ⟨log, run⟩ := uPacketFromBinary_freshEncoding proper behind
  rw [run] at decoded
  rw [← Option.some.inj decoded]
  decide

theorem WellFormed.owned {raw : List UInt8} (good : WellFormed raw) : HeaderOwned raw :=
  ⟨good.1.1, good.1.2.1, good.1.2.2.1⟩

theorem WellFormed.notRefused {raw : List UInt8} (good : WellFormed raw) : ¬ RefusedOwned raw := by
  rintro ⟨-, wrongSum | short⟩
  · exact wrongSum good.1.2.2.2
  · have long := good.2
    omega

section Nets

variable {Lists : Type} [ReceiveLists Lists]

/-- The receive thread answers it with a reset, and the core stays as it is. -/
theorem receiveThreadFunc_stray (u_core : UMPCore Lists) (d : RecData) (stray : Stray d.bytes)
    (stranger : u_core.findSock d.sender = none) (seq : UInt16) (clock : Clock) :
    (receiveThreadFunc u_core d seq clock).core = u_core ∧
      (receiveThreadFunc u_core d seq clock).reset = some d.sender := by
  have nonempty : d.bytes ≠ [] := List.ne_nil_of_length_pos stray.wellFormed.owned.1
  obtain ⟨p, decoded, -⟩ := uPacketFromBinary_accepted d.behind stray.wellFormed.owned
    stray.wellFormed.notRefused
  have ignored : receiver u_core d.sender p seq clock = (u_core, none) := by
    unfold receiver
    rw [stranger]
    dsimp only
    rw [stray.noRequest d.behind p decoded]
    rfl
  unfold receiveThreadFunc
  rw [if_neg nonempty]
  dsimp only
  rw [decoded]
  dsimp only
  rw [ignored]
  exact ⟨rfl, rfl⟩

/-- Neither core has a socket for the other's address. -/
def Strangers (n : ResetNet Lists) : Prop :=
  ∀ side : Side, (n.cores.get side).findSock (n.addresses.get side.other) = none

/-- One datagram more is answered, and the cores stay as they are. -/
theorem deliver_stray {n : ResetNet Lists} (strangers : Strangers n) {side : Side}
    {bytes : List UInt8} (stray : Stray bytes) (behind : Nat → UInt8) (seq : UInt16)
    (clock : Clock) :
    deliver n side bytes behind seq clock =
      { n with flight := n.flight.erase (side, bytes) ++ [(side.other, resetBytes)] } := by
  obtain ⟨same, answered⟩ := receiveThreadFunc_stray (n.cores.get side)
    ⟨n.addresses.get side.other, bytes, behind⟩ stray (strangers side) seq clock
  unfold deliver
  dsimp only
  rw [same, answered, if_pos rfl, Duo.set_get]

/-- Two strangers with datagrams on their way that ask for no connection. -/
structure Storm (n : ResetNet Lists) : Prop where
  strangers : Strangers n
  stray : ∀ d ∈ n.flight, Stray d.2
  flying : n.flight ≠ []

/-- The first datagram on its way arrives. -/
def nextArrival (n : ResetNet Lists) : ResetEvent :=
  match n.flight with
  | [] => .lose .left []
  | (side, bytes) :: _ => .deliver side bytes (fun _ => 0) 0 ⟨fun _ => ⟨0, 0⟩, 0⟩

theorem Storm.arrives {n : ResetNet Lists} (storm : Storm n) :
    resetEnabled n (nextArrival n) ∧ Storm (resetStep n (nextArrival n)) := by
  obtain ⟨strangers, stray, flying⟩ := storm
  obtain ⟨⟨side, bytes⟩, rest, flight⟩ := List.exists_cons_of_ne_nil flying
  have first : (side, bytes) ∈ n.flight := by
    rw [flight]
    exact List.mem_cons_self
  have arrives : nextArrival n =
      .deliver side bytes (fun _ => 0) 0 ⟨fun _ => ⟨0, 0⟩, 0⟩ := by
    unfold nextArrival
    rw [flight]
  rw [arrives]
  refine ⟨first, ?_⟩
  show Storm (deliver n side bytes _ _ _)
  rw [deliver_stray strangers (stray _ first)]
  refine ⟨strangers, ?_, List.append_ne_nil_of_right_ne_nil _ (List.cons_ne_nil _ _)⟩
  intro d member
  rcases List.mem_append.mp member with before | answer
  · exact stray d (List.mem_of_mem_erase before)
  · rw [List.mem_singleton.mp answer]
    exact stray_reset

/-- One datagram between strangers is enough for a run that does not end. -/
theorem Storm.endless {n : ResetNet Lists} (storm : Storm n) : (resetMachine Lists).Endless n :=
  Machine.endless_of_next nextArrival storm fun _ => Storm.arrives

/-- Between strangers every run ends exactly when nothing is on its way. -/
theorem resetsEnd_iff {n : ResetNet Lists} (strangers : Strangers n)
    (stray : ∀ d ∈ n.flight, Stray d.2) :
    ¬ (resetMachine Lists).Endless n ↔ n.flight = [] := by
  constructor
  · intro ends
    by_contra flying
    exact ends (Storm.endless ⟨strangers, stray, flying⟩)
  · rintro nothing ⟨states, events, first, goes⟩
    have enabled : resetEnabled n (events 0) := by
      rw [← first]
      exact (goes 0).1
    cases event : events 0 <;>
    · rw [event] at enabled
      unfold resetEnabled at enabled
      rw [nothing] at enabled
      cases enabled

end Nets

/-- Two cores that were just bound, and one reset between them. -/
def strayReset : ResetNet PlainLists where
  cores := ⟨freshCore, freshCore⟩
  addresses := ⟨⟨5000, 1⟩, ⟨5000, 2⟩⟩
  flight := [(.left, resetBytes)]

theorem strangers_strayReset : Strangers strayReset := by
  intro side
  cases side <;> rfl

theorem stray_strayReset : ∀ d ∈ strayReset.flight, Stray d.2 := by
  intro d member
  rw [List.mem_singleton.mp member]
  exact stray_reset

/-- The theorem applies to them: the run need not end. -/
theorem resetsEnd_strayReset : (resetMachine PlainLists).Endless strayReset := by
  by_contra ends
  have nothing := (resetsEnd_iff strangers_strayReset stray_strayReset).mp ends
  cases nothing

/-- The two cores answer each other's resets for ever. -/
theorem resetsEnd_fails :
    ¬ ∀ n : ResetNet PlainLists, Strangers n → (∀ d ∈ n.flight, Stray d.2) →
      ¬ (resetMachine PlainLists).Endless n := by
  intro always
  apply always strayReset strangers_strayReset stray_strayReset
  apply Storm.endless
  exact ⟨strangers_strayReset, stray_strayReset, by simp [strayReset]⟩

end UserMessageProtocol
