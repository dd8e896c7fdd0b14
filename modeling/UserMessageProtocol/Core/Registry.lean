import UserMessageProtocol.Core.Machine
import UserMessageProtocol.Foundation.Tables

/-!
Contract: the registry of the sockets of a core.

Owns: the four tables of a core as `Tables`, the invariant that every core keeps
(`Registry`), and what creating and freeing a socket and moving its entry do to it and to
the entries that every live socket should have (`Complete`).

Does not own: tables in general (`Foundation.Tables`), nor the calls (`Core.Entries`).
-/

set_option autoImplicit false

namespace UserMessageProtocol

variable {Lists : Type}

/-! ### The tables -/

namespace UMPCore

/-- The tables of a core as functions. -/
def tables (u_core : UMPCore Lists) : Tables TableName SockaddrIn SockId := fun name address =>
  (u_core.table name).lookup address

def addressOf (u_core : UMPCore Lists) (id : SockId) : SockaddrIn := (u_core.socks id).theirAddr

variable {u_core w : UMPCore Lists} {name : TableName} {address : SockaddrIn} {id : SockId}

theorem tables_put (inserted : w.table name = (u_core.table name).insert address id)
    (others : ∀ other, other ≠ name → w.table other = u_core.table other) :
    w.tables = u_core.tables.put name address id := by
  funext other l
  by_cases same : other = name
  · by_cases here : l = address
    · rw [same, here, Tables.put_same]
      show (w.table name).lookup address = some id
      rw [inserted, AList.lookup_insert]
    · rw [Tables.put_other fun both => here both.2]
      show (w.table other).lookup l = (u_core.table other).lookup l
      rw [same, inserted, AList.lookup_insert_ne here]
  · rw [Tables.put_other fun both => same both.1]
    show (w.table other).lookup l = (u_core.table other).lookup l
    rw [others other same]

theorem tables_drop (erased : w.table name = (u_core.table name).erase address)
    (others : ∀ other, other ≠ name → w.table other = u_core.table other) :
    w.tables = u_core.tables.drop name address := by
  funext other l
  by_cases same : other = name
  · by_cases here : l = address
    · rw [same, here, Tables.drop_same]
      show (w.table name).lookup address = none
      rw [erased, AList.lookup_erase]
    · rw [Tables.drop_other fun both => here both.2]
      show (w.table other).lookup l = (u_core.table other).lookup l
      rw [same, erased, AList.lookup_erase_ne here]
  · rw [Tables.drop_other fun both => same both.1]
    show (w.table other).lookup l = (u_core.table other).lookup l
    rw [others other same]

end UMPCore

theorem mem_values {table : SockTable} {id : SockId} :
    id ∈ table.values ↔ ∃ address, table.lookup address = some id := by
  constructor
  · intro member
    obtain ⟨⟨address, found⟩, inEntries, rfl⟩ := List.mem_map.mp member
    exact ⟨address, AList.mem_lookup_iff.mpr inEntries⟩
  · rintro ⟨address, found⟩
    exact List.mem_map.mpr ⟨⟨address, id⟩, AList.mem_lookup_iff.mp found, rfl⟩

theorem lookup_foreachRemove {table : SockTable} {toRemove : SockId → Bool} {address : SockaddrIn}
    {id : SockId} : (foreachRemove table toRemove).lookup address = some id ↔
      table.lookup address = some id ∧ toRemove id = false := by
  rw [← Option.mem_def, AList.mem_lookup_iff, ← Option.mem_def (a := id), AList.mem_lookup_iff]
  show _ ∈ List.filter _ _ ↔ _
  simp

theorem findSock_eq_none {u_core : UMPCore Lists} {address : SockaddrIn} :
    u_core.findSock address = none ↔ ∀ name, u_core.tables name address = none := by
  unfold UMPCore.findSock
  simp only [Option.or_eq_none_iff]
  constructor
  · rintro ⟨umps, backlog, act, closed⟩ name
    cases name with
    | umps => exact umps
    | backlogUmps => exact backlog
    | actConnect => exact act
    | closedUmps => exact closed
  · intro none
    exact ⟨none .umps, none .backlogUmps, none .actConnect, none .closedUmps⟩

/-! ### The invariant -/

/-- What holds of the registry whenever `umps_lock` is free. -/
structure Registry (u_core : UMPCore Lists) : Prop where
  keyed : u_core.tables.Keyed u_core.addressOf u_core.Live
  connecting : ∀ call ∈ u_core.connecting, u_core.tables .actConnect call.1 = some call.2
  connectingOnce : u_core.connecting.Nodup
  handed : ∀ id ∈ u_core.handed, u_core.tables .umps (u_core.addressOf id) = some id
  handedOnce : u_core.handed.Nodup
  known : ∀ id ∈ u_core.freed, id < u_core.created

/-- Every live socket has an entry. -/
def Complete (u_core : UMPCore Lists) : Prop :=
  u_core.tables.Covers u_core.addressOf u_core.Live

/-- Every live socket but one has an entry. -/
def CompleteBut (u_core : UMPCore Lists) (id : SockId) : Prop :=
  ∀ another, u_core.Live another → another ≠ id →
    ∃ name, u_core.tables name (u_core.addressOf another) = some another

theorem registry_bind (backlog : Nat) (memory : SockId → CoreSock Lists) :
    Registry (umpCoreBind backlog memory) ∧ Complete (umpCoreBind backlog memory) := by
  have empty (name : TableName) (address : SockaddrIn) :
      (umpCoreBind backlog memory).tables name address = none := by
    cases name <;> rfl
  refine ⟨⟨⟨?_, ?_⟩, by simp [umpCoreBind], List.nodup_nil, by simp [umpCoreBind],
    List.nodup_nil, by simp [umpCoreBind]⟩, ?_⟩
  · intro name address id found
    rw [empty] at found
    cases found
  · intro name other address id another found
    rw [empty] at found
    cases found
  · intro id live
    exact absurd live.1 (Nat.not_lt_zero id)

section Steps

variable {u_core w : UMPCore Lists} {address : SockaddrIn} {id : SockId}

theorem live_congr (created : w.created = u_core.created) (freed : w.freed = u_core.freed) :
    w.Live = u_core.Live := by
  funext id
  rw [UMPCore.Live, UMPCore.Live, created, freed]

/-- A step that leaves the registry alone. -/
theorem Registry.congr (registry : Registry u_core) (tables : w.tables = u_core.tables)
    (addresses : w.addressOf = u_core.addressOf) (created : w.created = u_core.created)
    (freed : w.freed = u_core.freed) (connecting : w.connecting = u_core.connecting)
    (handed : w.handed = u_core.handed) : Registry w := by
  have live := live_congr created freed
  obtain ⟨keyed, connects, connectingOnce, hands, handedOnce, known⟩ := registry
  rw [← tables, ← addresses, ← live] at keyed
  rw [← tables, ← connecting] at connects
  rw [← connecting] at connectingOnce
  rw [← tables, ← addresses, ← handed] at hands
  rw [← handed] at handedOnce
  rw [← freed, ← created] at known
  exact ⟨keyed, connects, connectingOnce, hands, handedOnce, known⟩

theorem Complete.congr (complete : Complete u_core) (tables : w.tables = u_core.tables)
    (addresses : w.addressOf = u_core.addressOf) (created : w.created = u_core.created)
    (freed : w.freed = u_core.freed) : Complete w := by
  unfold Complete
  rw [tables, addresses, live_congr created freed]
  exact complete

/-- A socket rewritten at its address leaves the registry alone. -/
theorem addressOf_setSock (u_core : UMPCore Lists) (id : SockId) (sock : CoreSock Lists)
    (same : sock.theirAddr = u_core.addressOf id) :
    (u_core.setSock id sock).addressOf = u_core.addressOf := by
  funext other
  show (Function.update u_core.socks id sock other).theirAddr = _
  by_cases here : other = id
  · rw [here, Function.update_self, same]
  · rw [Function.update_of_ne here]
    rfl

/-! ### New sockets -/

section New

variable [ReceiveLists Lists] {theirAddr : SockaddrIn} {seq : UInt16} {clock : Clock}

theorem newSock_socket (u_core : UMPCore Lists) (theirAddr : SockaddrIn) (seq : UInt16)
    (clock : Clock) :
    ((newSock u_core theirAddr seq clock).1.socks u_core.created).socket =
      umpSockNew Lists seq clock := by
  show (Function.update u_core.socks u_core.created _ u_core.created).socket = _
  rw [Function.update_self]

theorem newSock_socks (different : id ≠ u_core.created) :
    (newSock u_core theirAddr seq clock).1.socks id = u_core.socks id := by
  show Function.update u_core.socks u_core.created _ id = _
  rw [Function.update_of_ne different]

theorem newSock_addressOf_new :
    (newSock u_core theirAddr seq clock).1.addressOf u_core.created = theirAddr := by
  show (Function.update u_core.socks u_core.created _ u_core.created).theirAddr = theirAddr
  rw [Function.update_self]

theorem newSock_addressOf (different : id ≠ u_core.created) :
    (newSock u_core theirAddr seq clock).1.addressOf id = u_core.addressOf id := by
  show ((newSock u_core theirAddr seq clock).1.socks id).theirAddr = _
  rw [newSock_socks different]
  rfl

theorem newSock_live (registry : Registry u_core) :
    (newSock u_core theirAddr seq clock).1.Live u_core.created :=
  ⟨Nat.lt_succ_self _, fun freed => Nat.lt_irrefl _ (registry.known _ freed)⟩

omit [ReceiveLists Lists] in
theorem live_different (live : u_core.Live id) : id ≠ u_core.created := Nat.ne_of_lt live.1

theorem newSock_live_old (live : u_core.Live id) :
    (newSock u_core theirAddr seq clock).1.Live id :=
  ⟨Nat.lt_succ_of_lt live.1, live.2⟩

theorem live_of_newSock (live : (newSock u_core theirAddr seq clock).1.Live id)
    (different : id ≠ u_core.created) : u_core.Live id := by
  exact ⟨Nat.lt_of_le_of_ne (Nat.le_of_lt_succ live.1) different, live.2⟩

/-- A new socket is in no table yet. -/
theorem Registry.newSock (registry : Registry u_core) (theirAddr : SockaddrIn) (seq : UInt16)
    (clock : Clock) : Registry (newSock u_core theirAddr seq clock).1 where
  keyed := registry.keyed.rekey (fun _ live => newSock_addressOf (live_different live))
    fun _ live => newSock_live_old live
  connecting := registry.connecting
  connectingOnce := registry.connectingOnce
  handed := by
    intro id member
    have found := registry.handed id member
    have live := (registry.keyed.owner found).2
    rw [newSock_addressOf (live_different live)]
    exact found
  handedOnce := registry.handedOnce
  known := fun id member => Nat.lt_succ_of_lt (registry.known id member)

/-- Every other live socket still has its entry. -/
theorem Complete.newSock (complete : Complete u_core) (theirAddr : SockaddrIn) (seq : UInt16)
    (clock : Clock) :
    CompleteBut (newSock u_core theirAddr seq clock).1 u_core.created := by
  intro id live different
  rw [newSock_addressOf different]
  exact complete id (live_of_newSock live different)

end New

/-! ### Entries put and dropped -/

section Moves

variable {name : TableName}

/-- A call of `ump_connect` under way has its entry. -/
theorem Registry.notConnecting (registry : Registry u_core)
    (free : u_core.tables .actConnect address = none) : (address, id) ∉ u_core.connecting := by
  intro member
  have found := registry.connecting _ member
  rw [free] at found
  cases found

/-- A socket that was handed out has its entry. -/
theorem Registry.notHanded (registry : Registry u_core)
    (free : u_core.tables .umps (u_core.addressOf id) = none) : id ∉ u_core.handed := by
  intro member
  have found := registry.handed _ member
  rw [free] at found
  cases found

/-- A live socket gets an entry at a free address. -/
theorem Registry.put (registry : Registry u_core)
    (tables : w.tables = u_core.tables.put name address id)
    (ofAddress : u_core.addressOf id = address) (isLive : u_core.Live id)
    (free : ∀ other, u_core.tables other address = none)
    (addresses : w.addressOf = u_core.addressOf) (created : w.created = u_core.created)
    (freed : w.freed = u_core.freed)
    (connecting : ∀ call ∈ w.connecting,
      call ∈ u_core.connecting ∨ name = .actConnect ∧ call = (address, id))
    (connectingOnce : w.connecting.Nodup)
    (handed : ∀ other ∈ w.handed, other ∈ u_core.handed ∨ name = .umps ∧ other = id)
    (handedOnce : w.handed.Nodup) : Registry w := by
  have live := live_congr created freed
  have kept {other : TableName} {l : SockaddrIn} {another : SockId}
      (found : u_core.tables other l = some another) : w.tables other l = some another := by
    rw [tables, Tables.put_other]
    · exact found
    · rintro ⟨-, rfl⟩
      rw [free] at found
      cases found
  have new : w.tables name address = some id := by
    rw [tables]
    exact Tables.put_same
  refine ⟨?_, ?_, connectingOnce, ?_, handedOnce, ?_⟩
  · rw [tables, addresses, live]
    exact registry.keyed.put ofAddress isLive fun other _ => free other
  · intro call member
    rcases connecting call member with before | ⟨rfl, rfl⟩
    · exact kept (registry.connecting call before)
    · exact new
  · intro other member
    rw [addresses]
    rcases handed other member with before | ⟨rfl, rfl⟩
    · exact kept (registry.handed other before)
    · rw [ofAddress]
      exact new
  · rw [freed, created]
    exact registry.known

/-- The one socket without an entry gets one. -/
theorem CompleteBut.put (others : CompleteBut u_core id)
    (tables : w.tables = u_core.tables.put name address id)
    (ofAddress : u_core.addressOf id = address) (free : u_core.tables name address = none)
    (addresses : w.addressOf = u_core.addressOf) (created : w.created = u_core.created)
    (freed : w.freed = u_core.freed) : Complete w := by
  have covers : u_core.tables.Covers u_core.addressOf fun another =>
      u_core.Live another ∧ another ≠ id := fun another both => others another both.1 both.2
  unfold Complete
  rw [tables, addresses, live_congr created freed]
  exact covers.put ofAddress free fun another isLive different => ⟨isLive, different⟩

/-- An entry is dropped with the calls and the users it belongs to. -/
theorem Registry.drop (registry : Registry u_core)
    (tables : w.tables = u_core.tables.drop name address)
    (addresses : w.addressOf = u_core.addressOf) (created : w.created = u_core.created)
    (freed : w.freed = u_core.freed) (connecting : w.connecting.Sublist u_core.connecting)
    (called : ∀ call ∈ w.connecting, ¬ (TableName.actConnect = name ∧ call.1 = address))
    (handed : w.handed.Sublist u_core.handed)
    (used : ∀ id ∈ w.handed, ¬ (TableName.umps = name ∧ u_core.addressOf id = address)) :
    Registry w where
  keyed := by
    rw [tables, addresses, live_congr created freed]
    exact registry.keyed.drop
  connecting := by
    intro call member
    rw [tables, Tables.drop_other (called call member)]
    exact registry.connecting call (connecting.subset member)
  connectingOnce := registry.connectingOnce.sublist connecting
  handed := by
    intro id member
    rw [addresses, tables, Tables.drop_other (used id member)]
    exact registry.handed id (handed.subset member)
  handedOnce := registry.handedOnce.sublist handed
  known := by
    rw [freed, created]
    exact registry.known

/-- Only the socket of a dropped entry loses it. -/
theorem Complete.drop (complete : Complete u_core)
    (tables : w.tables = u_core.tables.drop name address)
    (there : u_core.tables name address = some id) (addresses : w.addressOf = u_core.addressOf)
    (created : w.created = u_core.created) (freed : w.freed = u_core.freed) :
    CompleteBut w id := by
  have covers : w.tables.Covers w.addressOf fun another => w.Live another ∧ another ≠ id := by
    rw [tables, addresses, live_congr created freed]
    exact Tables.Covers.drop complete there fun _ both => both
  exact fun another isLive different => covers another ⟨isLive, different⟩

/-- A live socket without an entry is freed. -/
theorem Registry.sockFree (registry : Registry u_core) (isLive : u_core.Live id)
    (nowhere : ∀ name, u_core.tables name (u_core.addressOf id) = none) :
    Registry (u_core.sockFree id) where
  keyed := by
    apply registry.keyed.fewer
    intro name address another found
    have owner := registry.keyed.owner found
    refine ⟨found, owner.2.1, List.not_mem_cons_of_ne_of_not_mem ?_ owner.2.2⟩
    rintro rfl
    have none := nowhere name
    rw [owner.1] at none
    exact absurd (none.symm.trans found) (by simp)
  connecting := registry.connecting
  connectingOnce := registry.connectingOnce
  handed := registry.handed
  handedOnce := registry.handedOnce
  known := by
    intro another member
    rcases List.mem_cons.mp member with rfl | before
    · exact isLive.1
    · exact registry.known another before

theorem CompleteBut.sockFree (others : CompleteBut u_core id) : Complete (u_core.sockFree id) := by
  intro another isLive
  exact others another ⟨isLive.1, List.not_mem_of_not_mem_cons isLive.2⟩
    (List.ne_of_not_mem_cons isLive.2)

end Moves

end Steps

end UserMessageProtocol
