import Mathlib.Data.List.AList
import UserMessageProtocol.Socket.Iteration

/-!
Contract: the state of a core, `ump_private.h`.

Owns: addresses, the four tables of sockets (`UMPCore`), the sockets with their queues,
and the operations of `GHashTable` on the tables.

A socket is known by a number, which stands for its pointer; numbers are given out
in order and never again. `freed` are the sockets given to `ump_sock_free`.

Does not own: the functions of `ump.c` and `core_thread.c` (`Core.Calls`).
-/

set_option autoImplicit false

namespace UserMessageProtocol

/-! ### Tables -/

/-- The part of `struct sockaddr_in` that `ump_inaddr_eq` compares. -/
structure SockaddrIn where
  sinPort : UInt16
  sinAddr : UInt32
deriving DecidableEq, Repr

abbrev SockId := Nat

/-- A `GHashTable` of sockets by their remote address. -/
abbrev SockTable := AList fun _ : SockaddrIn => SockId

/-- `g_hash_table_foreach_remove`. -/
def foreachRemove (table : SockTable) (toRemove : SockId → Bool) : SockTable :=
  ⟨table.entries.filter fun entry => !toRemove entry.2,
    table.nodupKeys.sublist List.filter_sublist⟩

/-- The sockets in a table. -/
def SockTable.values (table : SockTable) : List SockId := table.entries.map Sigma.snd

/-! ### Cores -/

/-- A socket with its address and the packets received for it. -/
structure CoreSock (Lists : Type) where
  theirAddr : SockaddrIn
  socket : UMPSocket Lists
  queues : PacketQueues

/-- `public_state`. -/
def CoreSock.publicState {Lists : Type} (s : CoreSock Lists) : UMPSockState :=
  s.socket.core.ctrl.publicState

/-- `UMPCore`, and what the threads that use it have in hand: the calls of
`ump_connect` between its two critical sections, how many calls of `ump_accept` are
past their wait, and the sockets users got and did not close. -/
structure UMPCore (Lists : Type) where
  umps : SockTable
  backlogLimit : Nat
  backlogUmps : SockTable
  actConnect : SockTable
  closedUmps : SockTable
  acceptOk : Bool
  socks : SockId → CoreSock Lists
  created : Nat
  freed : List SockId
  connecting : List (SockaddrIn × SockId)
  passing : Nat
  handed : List SockId

inductive TableName where
  | umps
  | backlogUmps
  | actConnect
  | closedUmps
deriving DecidableEq, Repr

namespace UMPCore

variable {Lists : Type} (u_core : UMPCore Lists)

def table : TableName → SockTable
  | .umps => u_core.umps
  | .backlogUmps => u_core.backlogUmps
  | .actConnect => u_core.actConnect
  | .closedUmps => u_core.closedUmps

/-- The lookups of `receive_thread_func`, in their order. -/
def findSock (from_ : SockaddrIn) : Option SockId :=
  (u_core.umps.lookup from_).or ((u_core.backlogUmps.lookup from_).or
    ((u_core.actConnect.lookup from_).or (u_core.closedUmps.lookup from_)))

/-- The core with one socket rewritten. -/
def setSock (id : SockId) (sock : CoreSock Lists) : UMPCore Lists :=
  { u_core with socks := Function.update u_core.socks id sock }

/-- `ump_sock_free`. -/
def sockFree (id : SockId) : UMPCore Lists := { u_core with freed := id :: u_core.freed }

/-- A socket that was created and not freed. -/
def Live (id : SockId) : Prop := id < u_core.created ∧ id ∉ u_core.freed

end UMPCore

/-- `ump_core_bind`; `memory` is what lies where sockets will be created. -/
def umpCoreBind {Lists : Type} (backlog : Nat) (memory : SockId → CoreSock Lists) :
    UMPCore Lists where
  umps := ∅
  backlogLimit := backlog
  backlogUmps := ∅
  actConnect := ∅
  closedUmps := ∅
  acceptOk := false
  socks := memory
  created := 0
  freed := []
  connecting := []
  passing := 0
  handed := []

/-- What lies in the memory of a core that was just bound. -/
def blankMemory (_ : SockId) : CoreSock PlainLists :=
  ⟨⟨0, 0⟩, umpSockNew PlainLists 0 ⟨fun _ => ⟨0, 0⟩, 0⟩, ⟨[], [], [], []⟩⟩

/-- A core that was just bound. -/
def freshCore : UMPCore PlainLists := umpCoreBind 4 blankMemory

end UserMessageProtocol
