import UserMessageProtocol.Core.Entries

/-!
Contract: how many sockets wait in the backlog.

Owns: the bound on `backlog_umps` and what a refused SYN leaves alone (`BacklogBounded`),
the SYNs that find the table just full (`leavesRoom`), and the theorem that the bound holds
all along a run exactly when there is none.

Does not own: which sockets are in the backlog (`Core.Entries`).
-/

set_option autoImplicit false

namespace UserMessageProtocol

variable {Lists : Type}

/-- How many sockets wait in the backlog. -/
def backlogSize (u_core : UMPCore Lists) : Nat := u_core.backlogUmps.entries.length

/-- The datagram is a control packet with SYN from an address that no table has. -/
def asksForSocket (u_core : UMPCore Lists) (d : RecData) : Bool :=
  (u_core.findSock d.sender).isNone &&
    (uPacketFromBinary d.bytes ⟨d.bytes, d.behind⟩).1.any isConnectRequest

/-- A SYN comes from an unknown address only while the backlog does not have just
`backlog_limit` sockets. -/
def leavesRoom (u_core : UMPCore Lists) : CoreEvent → Prop
  | .receive d _ _ => asksForSocket u_core d = true → backlogSize u_core ≠ u_core.backlogLimit
  | _ => True

instance (u_core : UMPCore Lists) (event : CoreEvent) : Decidable (leavesRoom u_core event) :=
  match event with
  | .receive _ _ _ => by unfold leavesRoom; infer_instance
  | .connect .. | .finishConnect .. | .acceptWait | .accept .. | .close .. | .clean .. | .fetch .. |
    .call .. | .handle .. => instDecidableTrue

/-! ### Table sizes -/

section Tables

variable (table : SockTable) (address : SockaddrIn)

theorem length_erase : (table.erase address).entries.length ≤ table.entries.length :=
  (List.kerase_sublist address table.entries).length_le

theorem length_insert (id : SockId) :
    (table.insert address id).entries.length ≤ table.entries.length + 1 := by
  rw [AList.entries_insert, List.length_cons]
  exact Nat.succ_le_succ (length_erase table address)

theorem length_insert_new {id : SockId} (free : table.lookup address = none) :
    (table.insert address id).entries.length = table.entries.length + 1 := by
  have absent : address ∉ table.entries.keys := AList.lookup_eq_none.mp free
  rw [AList.entries_insert, List.kerase_of_notMem_keys absent, List.length_cons]

theorem length_foreachRemove (toRemove : SockId → Bool) :
    (foreachRemove table toRemove).entries.length ≤ table.entries.length :=
  List.length_filter_le _ _

end Tables

/-! ### The receive thread -/

section Receive

variable {u_core : UMPCore Lists}

theorem queuePacket_table (id : SockId) (u_p : UMPPacket) (name : TableName) :
    (queuePacket u_core id u_p).core.table name = u_core.table name := by
  unfold queuePacket
  dsimp only
  split <;> cases name <;> rfl

variable [ReceiveLists Lists] {d : RecData} (seq : UInt16) (clock : Clock)

/-- What a round of the receive thread does to the tables: nothing, or a new socket goes into
the backlog for a SYN. -/
theorem receiveThreadFunc_tables (u_core : UMPCore Lists) (d : RecData) :
    (∀ name, (receiveThreadFunc u_core d seq clock).core.table name = u_core.table name) ∨
      asksForSocket u_core d = true ∧ (receiveThreadFunc u_core d seq clock).reset = none ∧
        (receiveThreadFunc u_core d seq clock).core.backlogUmps =
          u_core.backlogUmps.insert d.sender u_core.created := by
  unfold receiveThreadFunc asksForSocket
  split
  · exact .inl fun _ => rfl
  · generalize uPacketFromBinary d.bytes ⟨d.bytes, d.behind⟩ = decoded
    obtain ⟨u_p, log⟩ := decoded
    cases u_p with
    | none => exact .inl fun _ => rfl
    | some u_p =>
        dsimp only
        rcases receiver_cases u_core d.sender u_p seq clock with
          ⟨id, found, -⟩ | ⟨free, ⟨ignored, -⟩ | ⟨request, added | refused⟩⟩
        · rw [found]
          exact .inl fun name => queuePacket_table id u_p name
        · rw [ignored]
          exact .inl fun _ => rfl
        · rw [added, free]
          refine .inr ⟨request, ?_, ?_⟩
          · dsimp only [queuePacket]
            split <;> rfl
          · exact queuePacket_table _ u_p .backlogUmps
        · rw [refused]
          exact .inl fun name => by cases name <;> rfl

/-- A SYN from an unknown address gets a socket up to and at the limit. -/
theorem receiveThreadFunc_added (asks : asksForSocket u_core d = true)
    (room : backlogSize u_core ≤ u_core.backlogLimit) :
    backlogSize (receiveThreadFunc u_core d seq clock).core = backlogSize u_core + 1 := by
  unfold asksForSocket at asks
  rw [Bool.and_eq_true, Option.isNone_iff_eq_none] at asks
  obtain ⟨free, decodes⟩ := asks
  have noEntry : u_core.backlogUmps.lookup d.sender = none := findSock_eq_none.mp free .backlogUmps
  have some : d.bytes ≠ [] := by
    intro empty
    rw [empty] at decodes
    cases decodes
  unfold receiveThreadFunc
  rw [if_neg some]
  generalize uPacketFromBinary d.bytes ⟨d.bytes, d.behind⟩ = decoded at decodes
  obtain ⟨u_p, log⟩ := decoded
  cases u_p with
  | none => cases decodes
  | some u_p =>
      have request : isConnectRequest u_p = true := decodes
      have added : receiver u_core d.sender u_p seq clock =
          ({ (newSock u_core d.sender seq clock).1 with
              backlogUmps := u_core.backlogUmps.insert d.sender u_core.created },
            .some u_core.created) := by
        unfold receiver
        rw [free]
        dsimp only
        rw [if_pos request]
        exact if_pos room
      dsimp only
      rw [added]
      show (queuePacket _ u_core.created u_p).core.backlogUmps.entries.length = _
      rw [show (queuePacket _ u_core.created u_p).core.backlogUmps = _ from
        queuePacket_table _ u_p .backlogUmps]
      exact length_insert_new _ _ noEntry

theorem receiveThreadFunc_limit (u_core : UMPCore Lists) (d : RecData) :
    (receiveThreadFunc u_core d seq clock).core.backlogLimit = u_core.backlogLimit := by
  have queued (w : UMPCore Lists) (id : SockId) (u_p : UMPPacket) :
      (queuePacket w id u_p).core.backlogLimit = w.backlogLimit := by
    unfold queuePacket
    dsimp only
    split <;> rfl
  unfold receiveThreadFunc
  split
  · rfl
  · generalize uPacketFromBinary d.bytes ⟨d.bytes, d.behind⟩ = decoded
    obtain ⟨u_p, log⟩ := decoded
    cases u_p with
    | none => rfl
    | some u_p =>
        dsimp only
        rcases receiver_cases u_core d.sender u_p seq clock with
          ⟨id, found, -⟩ | ⟨-, ⟨ignored, -⟩ | ⟨-, added | refused⟩⟩
        · rw [found]
          exact queued u_core id u_p
        · rw [ignored]
        · rw [added]
          exact queued _ u_core.created u_p
        · rw [refused]
          rfl

end Receive

/-! ### Steps -/

section Calls

variable (u_core : UMPCore Lists)

theorem umpConnect_backlogSize [ReceiveLists Lists] (theirAddr : SockaddrIn) (seq : UInt16)
    (clock : Clock) :
    (umpConnect u_core theirAddr seq clock).backlogLimit = u_core.backlogLimit ∧
      backlogSize (umpConnect u_core theirAddr seq clock) ≤ backlogSize u_core := by
  have erased := length_erase u_core.backlogUmps theirAddr
  unfold umpConnect
  split
  · exact ⟨rfl, Nat.le_refl _⟩
  split
  · exact ⟨rfl, Nat.le_refl _⟩
  split
  · exact ⟨rfl, Nat.le_refl _⟩
  split
  · dsimp only
    split <;> exact ⟨rfl, erased⟩
  · exact ⟨rfl, Nat.le_refl _⟩

theorem finishConnect_backlogSize (theirAddr : SockaddrIn) (id : SockId) (connectR : Bool) :
    (finishConnect u_core theirAddr id connectR).backlogLimit = u_core.backlogLimit ∧
      backlogSize (finishConnect u_core theirAddr id connectR) ≤ backlogSize u_core := by
  unfold finishConnect
  dsimp only
  split <;> exact ⟨rfl, Nat.le_refl _⟩

theorem umpAccept_backlogSize (order : List SockId) :
    (umpAccept u_core order).backlogLimit = u_core.backlogLimit ∧
      backlogSize (umpAccept u_core order) ≤ backlogSize u_core := by
  unfold umpAccept
  dsimp only
  split
  · exact ⟨rfl, Nat.le_refl _⟩
  · exact ⟨rfl, length_erase _ _⟩

theorem umpClose_backlogSize (id : SockId) :
    (umpClose u_core id).backlogLimit = u_core.backlogLimit ∧
      backlogSize (umpClose u_core id) ≤ backlogSize u_core := by
  have erased := length_erase u_core.backlogUmps (u_core.socks id).theirAddr
  unfold umpClose
  dsimp only
  split
  · exact ⟨rfl, erased⟩
  · split <;> exact ⟨rfl, erased⟩

end Calls

section Steps

variable [ReceiveLists Lists] {u_core : UMPCore Lists}

/-- No event changes the limit, and the backlog grows by one socket at most, with a SYN from an
unknown address. -/
theorem coreStep_backlogSize (u_core : UMPCore Lists) (event : CoreEvent) :
    (coreStep u_core event).backlogLimit = u_core.backlogLimit ∧
      (backlogSize (coreStep u_core event) ≤ backlogSize u_core ∨
        (∃ d seq clock, event = .receive d seq clock ∧ asksForSocket u_core d = true) ∧
          backlogSize (coreStep u_core event) ≤ backlogSize u_core + 1) := by
  cases event with
  | receive d seq clock =>
      refine ⟨receiveThreadFunc_limit seq clock u_core d, ?_⟩
      rcases receiveThreadFunc_tables seq clock u_core d with same | ⟨asks, -, added⟩
      · have kept : (receiveThreadFunc u_core d seq clock).core.backlogUmps = u_core.backlogUmps :=
          same .backlogUmps
        left
        show (receiveThreadFunc u_core d seq clock).core.backlogUmps.entries.length ≤ _
        rw [kept]
        exact Nat.le_refl _
      · right
        refine ⟨⟨d, seq, clock, rfl, asks⟩, ?_⟩
        show (receiveThreadFunc u_core d seq clock).core.backlogUmps.entries.length ≤ _
        rw [added]
        exact length_insert _ _ _
  | connect theirAddr seq clock =>
      obtain ⟨limit, size⟩ := umpConnect_backlogSize u_core theirAddr seq clock
      exact ⟨limit, .inl size⟩
  | finishConnect theirAddr id connectR =>
      obtain ⟨limit, size⟩ := finishConnect_backlogSize u_core theirAddr id connectR
      exact ⟨limit, .inl size⟩
  | acceptWait => exact ⟨rfl, .inl (Nat.le_refl _)⟩
  | accept order =>
      obtain ⟨limit, size⟩ := umpAccept_backlogSize u_core order
      exact ⟨limit, .inl size⟩
  | close id =>
      obtain ⟨limit, size⟩ := umpClose_backlogSize u_core id
      exact ⟨limit, .inl size⟩
  | clean cur => exact ⟨rfl, .inl (length_foreachRemove _ _)⟩
  | fetch id => exact ⟨rfl, .inl (Nat.le_refl _)⟩
  | call id event => exact ⟨rfl, .inl (Nat.le_refl _)⟩
  | handle id event => exact ⟨rfl, .inl (Nat.le_refl _)⟩

/-! ### The property -/

/-- The datagram is a SYN from an unknown address and is answered by a reset. -/
def Refuses (u_core : UMPCore Lists) (d : RecData) (seq : UInt16) (clock : Clock) : Prop :=
  asksForSocket u_core d = true ∧ (receiveThreadFunc u_core d seq clock).reset = some d.sender

/-- The backlog has no more than `backlog_limit` sockets, and a SYN that is refused leaves all
four tables as they are. -/
structure BacklogBounded (u_core : UMPCore Lists) : Prop where
  bound : backlogSize u_core ≤ u_core.backlogLimit
  refused : ∀ d seq clock, Refuses u_core d seq clock → ∀ name,
    (receiveThreadFunc u_core d seq clock).core.table name = u_core.table name

theorem refuses_tables {d : RecData} {seq : UInt16} {clock : Clock}
    (refuses : Refuses u_core d seq clock) (name : TableName) :
    (receiveThreadFunc u_core d seq clock).core.table name = u_core.table name := by
  rcases receiveThreadFunc_tables seq clock u_core d with same | ⟨-, noReset, -⟩
  · exact same name
  · rw [refuses.2] at noReset
    cases noReset

theorem coreStep_bounded {event : CoreEvent} (bound : backlogSize u_core ≤ u_core.backlogLimit)
    (room : leavesRoom u_core event) :
    backlogSize (coreStep u_core event) ≤ (coreStep u_core event).backlogLimit := by
  obtain ⟨limit, less | ⟨⟨d, seq, clock, rfl, asks⟩, one⟩⟩ := coreStep_backlogSize u_core
    event
  · omega
  · have notFull := room asks
    omega

/-- A SYN that finds the table just full leads to one socket too many. -/
theorem coreStep_overfull {event : CoreEvent} (full : ¬ leavesRoom u_core event) :
    (coreStep u_core event).backlogLimit < backlogSize (coreStep u_core event) := by
  cases event with
  | receive d seq clock =>
      obtain ⟨asks, atLimit⟩ := Classical.not_imp.mp full
      rw [ne_eq, not_not] at atLimit
      have limit : (coreStep u_core (.receive d seq clock)).backlogLimit = u_core.backlogLimit :=
        (coreStep_backlogSize u_core _).1
      have added : backlogSize (coreStep u_core (.receive d seq clock)) = backlogSize u_core + 1 :=
        receiveThreadFunc_added seq clock asks (Nat.le_of_eq atLimit)
      omega
  | _ => exact absurd trivial full

theorem bounded_of_run {backlog : Nat} {memory : SockId → CoreSock Lists}
    {events : List CoreEvent}
    (run : (coreMachine Lists).RunWhere leavesRoom (umpCoreBind backlog memory) events u_core) :
    BacklogBounded u_core where
  bound := by
    let Holds (u_core : UMPCore Lists) : Prop := backlogSize u_core ≤ u_core.backlogLimit
    have all : Holds u_core :=
      run.invariant (Nat.zero_le _) fun _ _ bound _ room => coreStep_bounded bound room
    exact all
  refused _ _ _ refuses := refuses_tables refuses

/-- The backlog is bounded all along a run exactly when no SYN from an unknown address finds
just `backlog_limit` sockets in it. -/
theorem backlogBounded_iff {backlog : Nat} {memory : SockId → CoreSock Lists}
    {events : List CoreEvent}
    (run : (coreMachine Lists).Run (umpCoreBind backlog memory) events u_core) :
    (∀ earlier later, events = earlier ++ later →
        BacklogBounded ((coreMachine Lists).after (umpCoreBind backlog memory) earlier)) ↔
      (coreMachine Lists).RunWhere leavesRoom (umpCoreBind backlog memory) events u_core := by
  constructor
  · intro bounded
    rw [Machine.RunWhere.each_iff run]
    rintro earlier event later rfl
    by_contra full
    have within := (bounded (earlier ++ [event]) later (by simp)).bound
    rw [Machine.after, List.foldl_append] at within
    exact absurd within (Nat.not_le.mpr (coreStep_overfull full))
  · rintro roomy earlier later rfl
    exact bounded_of_run roomy.first

end Steps

/-- The theorem holds of a run with one SYN. -/
theorem backlogBounded_crossedConnects :
    BacklogBounded ((coreMachine PlainLists).after freshCore crossedConnects) :=
  (backlogBounded_iff (Machine.runWhere_of_check (by decide))).mpr
    (Machine.runWhere_of_check (by decide)) crossedConnects [] (List.append_nil _).symm

/-- A core with a backlog of one gets a second socket. -/
theorem backlogBounded_fails :
    ¬ ∀ (backlog : Nat) (memory : SockId → CoreSock PlainLists) (events : List CoreEvent)
      (u_core : UMPCore PlainLists), 1 ≤ backlog →
      (coreMachine PlainLists).Run (umpCoreBind backlog memory) events u_core →
        BacklogBounded u_core := by
  intro always
  have run : (coreMachine PlainLists).Run (umpCoreBind 1 blankMemory)
      [.receive (synDatagram ⟨5000, 1⟩) 100 ⟨fun _ => ⟨0, 0⟩, 0⟩,
        .receive (synDatagram ⟨5000, 2⟩) 200 ⟨fun _ => ⟨0, 0⟩, 0⟩] _ :=
    Machine.runWhere_of_check (by decide)
  exact absurd (always _ _ _ _ (Nat.le_refl 1) run).bound (by decide)

end UserMessageProtocol
