import UserMessageProtocol.Core.Registry

/-!
Contract: what every event of a core does to the registry.

Owns: that each event keeps `Registry`, that all but some calls of `ump_connect` keep
`Complete` (`keepsSocket`), and the theorem that without these calls every live socket has
exactly one entry.

Does not own: how entries move (`Core.Registry`).
-/

set_option autoImplicit false

namespace UserMessageProtocol

variable {Lists : Type}

/-- An event keeps the registry, and what is complete stays complete. -/
def KeepsRegistry (u_core w : UMPCore Lists) : Prop :=
  Registry w ∧ (Complete u_core → Complete w)

section Events

variable {u_core : UMPCore Lists}

theorem stepSock_registry [ReceiveLists Lists] (registry : Registry u_core) (id : SockId)
    (event : SockEvent) : KeepsRegistry u_core (stepSock u_core id event) := by
  have addresses : (stepSock u_core id event).addressOf = u_core.addressOf :=
    addressOf_setSock _ _ _ rfl
  exact ⟨registry.congr rfl addresses rfl rfl rfl rfl,
    fun complete => complete.congr rfl addresses rfl rfl⟩

/-! ### The receive thread -/

/-- How the receive thread finds a socket. -/
theorem receiver_cases [ReceiveLists Lists] (u_core : UMPCore Lists) (sender : SockaddrIn)
    (u_p : UMPPacket) (seq : UInt16) (clock : Clock) :
    (∃ id, receiver u_core sender u_p seq clock = (u_core, some id) ∧
        u_core.findSock sender = some id) ∨
      u_core.findSock sender = none ∧
        (receiver u_core sender u_p seq clock = (u_core, none) ∧ isConnectRequest u_p = false ∨
          isConnectRequest u_p = true ∧
            (receiver u_core sender u_p seq clock =
                ({ (newSock u_core sender seq clock).1 with
                    backlogUmps := u_core.backlogUmps.insert sender u_core.created },
                  some u_core.created) ∨
              receiver u_core sender u_p seq clock =
                ((newSock u_core sender seq clock).1.sockFree u_core.created, none))) := by
  unfold receiver
  split
  · rename_i id found
    exact .inl ⟨id, rfl, found⟩
  · rename_i none
    refine .inr ⟨none, ?_⟩
    split
    · rename_i request
      refine .inr ⟨request, ?_⟩
      dsimp only
      split
      · exact .inl rfl
      · exact .inr rfl
    · rename_i noRequest
      exact .inl ⟨rfl, (Bool.not_eq_true _).mp noRequest⟩

theorem receiver_registry [ReceiveLists Lists] (registry : Registry u_core) (sender : SockaddrIn)
    (u_p : UMPPacket) (seq : UInt16) (clock : Clock) :
    KeepsRegistry u_core (receiver u_core sender u_p seq clock).1 := by
  have created := registry.newSock sender seq clock
  rcases receiver_cases u_core sender u_p seq clock with
    ⟨id, found, -⟩ | ⟨none, ⟨ignored, -⟩ | ⟨-, added | refused⟩⟩
  · rw [found]
    exact ⟨registry, fun complete => complete⟩
  · rw [ignored]
    exact ⟨registry, fun complete => complete⟩
  · rw [added]
    have free := findSock_eq_none.mp none
    have inserted : ({ (newSock u_core sender seq clock).1 with
        backlogUmps := u_core.backlogUmps.insert sender u_core.created } : UMPCore Lists).tables =
          u_core.tables.put .backlogUmps sender u_core.created := by
      apply UMPCore.tables_put rfl
      intro other different
      cases other <;> first | rfl | exact absurd rfl different
    refine ⟨?_, fun complete => ?_⟩
    · exact created.put inserted newSock_addressOf_new (newSock_live registry) free rfl rfl rfl
        (fun _ => .inl) registry.connectingOnce (fun _ => .inl) registry.handedOnce
    · exact (complete.newSock sender seq clock).put inserted newSock_addressOf_new
        (free .backlogUmps) rfl rfl rfl
  · rw [refused]
    refine ⟨created.sockFree (newSock_live registry) ?_,
      fun complete => (complete.newSock sender seq clock).sockFree⟩
    intro name
    rw [newSock_addressOf_new]
    exact findSock_eq_none.mp none name

theorem queuePacket_registry (registry : Registry u_core) (id : SockId) (u_p : UMPPacket) :
    KeepsRegistry u_core (queuePacket u_core id u_p).core := by
  unfold queuePacket
  dsimp only
  split
  · have addresses := addressOf_setSock u_core id
      { u_core.socks id with queues := (u_core.socks id).queues.receive u_p } rfl
    exact ⟨registry.congr rfl addresses rfl rfl rfl rfl,
      fun complete => complete.congr rfl addresses rfl rfl⟩
  · exact ⟨registry, fun complete => complete⟩

theorem receiveThreadFunc_registry [ReceiveLists Lists] (registry : Registry u_core) (d : RecData)
    (seq : UInt16) (clock : Clock) :
    KeepsRegistry u_core (receiveThreadFunc u_core d seq clock).core := by
  unfold receiveThreadFunc
  split
  · exact ⟨registry, fun complete => complete⟩
  · dsimp only
    split
    · exact ⟨registry, fun complete => complete⟩
    · rename_i u_p _
      have found := receiver_registry registry d.sender u_p seq clock
      split
      · exact found
      · rename_i id _
        have queued := queuePacket_registry found.1 id u_p
        exact ⟨queued.1, fun complete => queued.2 (found.2 complete)⟩

/-! ### Connecting -/

/-- A call of `ump_connect` does not meet a socket of the backlog that is closed or being
closed; every other event is allowed. -/
def keepsSocket (u_core : UMPCore Lists) : CoreEvent → Prop
  | .connect theirAddr _ _ => ∀ id ∈ u_core.backlogUmps.lookup theirAddr,
      (u_core.socks id).publicState ≠ .closed ∧ (u_core.socks id).publicState ≠ .closing
  | _ => True

instance (u_core : UMPCore Lists) (event : CoreEvent) : Decidable (keepsSocket u_core event) :=
  match event with
  | .connect _ _ _ => by unfold keepsSocket; infer_instance
  | .receive .. | .finishConnect .. | .acceptWait | .accept .. | .close .. | .clean .. | .fetch .. |
    .call .. | .handle .. => instDecidableTrue

/-- `ump_connect` puts its socket into `act_connect`. -/
theorem call_registry {id : SockId} {theirAddr : SockaddrIn} (registry : Registry u_core)
    (ofAddress : u_core.addressOf id = theirAddr) (isLive : u_core.Live id)
    (free : ∀ name, u_core.tables name theirAddr = none) :
    let w := { u_core with
      actConnect := u_core.actConnect.insert theirAddr id
      connecting := (theirAddr, id) :: u_core.connecting }
    Registry w ∧ (CompleteBut u_core id → Complete w) := by
  intro w
  have inserted : w.tables = u_core.tables.put .actConnect theirAddr id := by
    apply UMPCore.tables_put rfl
    intro other different
    cases other <;> first | rfl | exact absurd rfl different
  refine ⟨?_, fun others => others.put inserted ofAddress (free .actConnect) rfl rfl rfl⟩
  apply registry.put inserted ofAddress isLive free rfl rfl rfl
  · intro call member
    rcases List.mem_cons.mp member with same | before
    · exact .inr ⟨rfl, same⟩
    · exact .inl before
  · exact List.nodup_cons.mpr
      ⟨registry.notConnecting (free .actConnect), registry.connectingOnce⟩
  · exact fun _ => .inl
  · exact registry.handedOnce

/-- An entry leaves the backlog. -/
theorem leaveBacklog_registry {id : SockId} {theirAddr : SockaddrIn} (registry : Registry u_core)
    (found : u_core.backlogUmps.lookup theirAddr = some id) :
    let w := { u_core with backlogUmps := u_core.backlogUmps.erase theirAddr }
    Registry w ∧ (∀ name, w.tables name theirAddr = none) ∧
      (Complete u_core → CompleteBut w id) := by
  intro w
  have erased : w.tables = u_core.tables.drop .backlogUmps theirAddr := by
    apply UMPCore.tables_drop rfl
    intro other different
    cases other <;> first | rfl | exact absurd rfl different
  have there : u_core.tables .backlogUmps theirAddr = some id := found
  refine ⟨?_, ?_, fun complete => complete.drop erased there rfl rfl rfl⟩
  · apply registry.drop erased rfl rfl rfl (List.Sublist.refl _) _ (List.Sublist.refl _)
    · intro id _ both
      cases both.1
    · intro call _ both
      cases both.1
  · intro name
    rw [erased]
    exact registry.keyed.drop_free there name

theorem umpConnect_registry [ReceiveLists Lists] (registry : Registry u_core)
    (theirAddr : SockaddrIn) (seq : UInt16) (clock : Clock) :
    Registry (umpConnect u_core theirAddr seq clock) ∧
      (keepsSocket u_core (.connect theirAddr seq clock) → Complete u_core →
        Complete (umpConnect u_core theirAddr seq clock)) := by
  have unchanged : Registry u_core ∧ (keepsSocket u_core (.connect theirAddr seq clock) →
      Complete u_core → Complete u_core) := ⟨registry, fun _ complete => complete⟩
  unfold umpConnect
  split
  · exact unchanged
  rename_i noAct
  split
  · exact unchanged
  rename_i noUmps
  split
  · exact unchanged
  rename_i noClosed
  rw [Option.not_isSome_iff_eq_none] at noAct noUmps noClosed
  split
  · rename_i id found
    obtain ⟨left, free, others⟩ := leaveBacklog_registry registry found
    have owner := registry.keyed.owner (show u_core.tables .backlogUmps theirAddr = some id from
      found)
    dsimp only
    split
    · rename_i closing
      refine ⟨left, fun keeps => ?_⟩
      obtain ⟨notClosed, notClosing⟩ := keeps id found
      exact absurd closing (not_or.mpr ⟨notClosed, notClosing⟩)
    · obtain ⟨called, complete⟩ := call_registry left owner.1 owner.2 free
      exact ⟨called, fun _ before => complete (others before)⟩
  · rename_i noBacklog
    have created := registry.newSock theirAddr seq clock
    have free (name : TableName) : u_core.tables name theirAddr = none := by
      cases name with
      | umps => exact noUmps
      | backlogUmps => exact noBacklog
      | actConnect => exact noAct
      | closedUmps => exact noClosed
    obtain ⟨called, complete⟩ :=
      call_registry created newSock_addressOf_new (newSock_live registry) free
    exact ⟨called, fun _ before => complete (before.newSock theirAddr seq clock)⟩

/-- A socket without an entry is handed to a user. -/
theorem handOut_registry {id : SockId} {theirAddr : SockaddrIn} (registry : Registry u_core)
    (ofAddress : u_core.addressOf id = theirAddr) (isLive : u_core.Live id)
    (free : ∀ name, u_core.tables name theirAddr = none) :
    let w := { u_core with
      umps := u_core.umps.insert theirAddr id
      handed := id :: u_core.handed }
    Registry w ∧ (CompleteBut u_core id → Complete w) := by
  intro w
  have inserted : w.tables = u_core.tables.put .umps theirAddr id := by
    apply UMPCore.tables_put rfl
    intro other different
    cases other <;> first | rfl | exact absurd rfl different
  refine ⟨?_, fun others => others.put inserted ofAddress (free .umps) rfl rfl rfl⟩
  apply registry.put inserted ofAddress isLive free rfl rfl rfl
  · exact fun _ => .inl
  · exact registry.connectingOnce
  · intro other member
    rcases List.mem_cons.mp member with same | before
    · exact .inr ⟨rfl, same⟩
    · exact .inl before
  · rw [← ofAddress] at free
    exact List.nodup_cons.mpr ⟨registry.notHanded (free .umps), registry.handedOnce⟩

theorem finishConnect_registry {id : SockId} {theirAddr : SockaddrIn} (registry : Registry u_core)
    (called : (theirAddr, id) ∈ u_core.connecting) (connectR : Bool) :
    KeepsRegistry u_core (finishConnect u_core theirAddr id connectR) := by
  have there := registry.connecting _ called
  have owner := registry.keyed.owner there
  let w : UMPCore Lists := { u_core with
    actConnect := u_core.actConnect.erase theirAddr
    connecting := u_core.connecting.erase (theirAddr, id) }
  have erased : w.tables = u_core.tables.drop .actConnect theirAddr := by
    apply UMPCore.tables_drop rfl
    intro other different
    cases other <;> first | rfl | exact absurd rfl different
  have free (name : TableName) : w.tables name theirAddr = none := by
    rw [erased]
    exact registry.keyed.drop_free there name
  have left : Registry w := by
    apply registry.drop erased rfl rfl rfl List.erase_sublist _ (List.Sublist.refl _)
    · intro other _ both
      cases both.1
    · -- two calls for one address would be one call
      rintro ⟨address, other⟩ member ⟨-, rfl⟩
      have before := registry.connecting _ (List.mem_of_mem_erase member)
      have same : other = id := Option.some.inj (before.symm.trans there)
      rw [same] at member
      exact registry.connectingOnce.not_mem_erase member
  have others (complete : Complete u_core) : CompleteBut w id :=
    complete.drop erased there rfl rfl rfl
  unfold finishConnect
  cases connectR with
  | true =>
      obtain ⟨handed, complete⟩ := handOut_registry left owner.1 owner.2 free
      exact ⟨handed, fun before => complete (others before)⟩
  | false =>
      refine ⟨left.sockFree owner.2 fun name => ?_, fun before => (others before).sockFree⟩
      rw [show w.addressOf id = theirAddr from owner.1]
      exact free name

/-! ### Accepting -/

/-- The connection that is accepted comes from the backlog and is established. -/
theorem earliest_mem (u_core : UMPCore Lists) (order : List SockId) {start : Option SockId}
    {id : SockId} (picked : order.foldl (earlier u_core) start = some id) :
    start = some id ∨ id ∈ order ∧ (u_core.socks id).publicState = .established := by
  induction order generalizing start with
  | nil => exact .inl picked
  | cons s rest inductionHypothesis =>
      rcases inductionHypothesis picked with first | ⟨member, established⟩
      · unfold earlier at first
        split at first
        · rename_i isEstablished
          have here : s = id → id ∈ s :: rest ∧ (u_core.socks id).publicState = .established := by
            rintro rfl
            exact ⟨List.mem_cons_self, isEstablished⟩
          cases start with
          | none => exact .inr (here (Option.some.inj first))
          | some u =>
              dsimp only at first
              split at first
              · exact .inr (here (Option.some.inj first))
              · exact .inl first
        · exact .inl first
      · exact .inr ⟨List.mem_cons_of_mem s member, established⟩

theorem umpAccept_registry (registry : Registry u_core) {order : List SockId}
    (all : order.Perm u_core.backlogUmps.values) :
    KeepsRegistry u_core (umpAccept u_core order) := by
  unfold umpAccept
  dsimp only
  have passed : KeepsRegistry u_core { u_core with passing := u_core.passing - 1 } :=
    ⟨registry.congr rfl rfl rfl rfl rfl rfl, fun complete => complete.congr rfl rfl rfl rfl⟩
  split
  · exact passed
  · rename_i id picked
    rcases earliest_mem _ _ picked with none | ⟨member, -⟩
    · cases none
    obtain ⟨address, found⟩ := mem_values.mp (all.mem_iff.mp member)
    have owner := registry.keyed.owner (show u_core.tables .backlogUmps address = some id from
      found)
    have here : (u_core.socks id).theirAddr = address := owner.1
    rw [here]
    obtain ⟨left, free, others⟩ := leaveBacklog_registry passed.1 found
    obtain ⟨handed, complete⟩ := handOut_registry left owner.1 owner.2 free
    exact ⟨handed, fun before => complete (others (passed.2 before))⟩

/-! ### Closing -/

theorem umpClose_registry (registry : Registry u_core) {id : SockId}
    (isHanded : id ∈ u_core.handed) : KeepsRegistry u_core (umpClose u_core id) := by
  have there := registry.handed id isHanded
  have owner := registry.keyed.owner there
  have apart {other : TableName} (different : TableName.umps ≠ other) :
      u_core.tables other (u_core.addressOf id) = none := by
    by_contra found
    obtain ⟨another, found⟩ := Option.ne_none_iff_exists'.mp found
    exact different (registry.keyed.apart there found)
  let act : UMPCore Lists :=
    { u_core with actConnect := u_core.actConnect.erase (u_core.addressOf id) }
  let backlog : UMPCore Lists :=
    { act with backlogUmps := act.backlogUmps.erase (u_core.addressOf id) }
  let w : UMPCore Lists :=
    { backlog with
      umps := backlog.umps.erase (u_core.addressOf id)
      handed := u_core.handed.erase id }
  have erased : w.tables = u_core.tables.drop .umps (u_core.addressOf id) := by
    have first : act.tables = u_core.tables.drop .actConnect (u_core.addressOf id) := by
      apply UMPCore.tables_drop rfl
      intro other different
      cases other <;> first | rfl | exact absurd rfl different
    have second : backlog.tables = act.tables.drop .backlogUmps (u_core.addressOf id) := by
      apply UMPCore.tables_drop rfl
      intro other different
      cases other <;> first | rfl | exact absurd rfl different
    have third : w.tables = backlog.tables.drop .umps (u_core.addressOf id) := by
      apply UMPCore.tables_drop rfl
      intro other different
      cases other <;> first | rfl | exact absurd rfl different
    rw [Tables.drop_none (apart (by decide))] at first
    rw [first, Tables.drop_none (apart (by decide))] at second
    rw [third, second]
  have free (name : TableName) : w.tables name (u_core.addressOf id) = none := by
    rw [erased]
    exact registry.keyed.drop_free there name
  have left : Registry w := by
    apply registry.drop erased rfl rfl rfl (List.Sublist.refl _) _ List.erase_sublist
    · -- two sockets in the hands of users would have one entry
      rintro other member ⟨-, same⟩
      have before := registry.handed other (List.mem_of_mem_erase member)
      rw [same, there] at before
      rw [← Option.some.inj before] at member
      exact registry.handedOnce.not_mem_erase member
    · intro call _ both
      cases both.1
  let closed : UMPCore Lists :=
    { w with closedUmps := w.closedUmps.insert (u_core.addressOf id) id }
  have inserted : closed.tables = w.tables.put .closedUmps (u_core.addressOf id) id := by
    apply UMPCore.tables_put rfl
    intro other different
    cases other <;> first | rfl | exact absurd rfl different
  have isClosed : umpClose u_core id = closed := by
    unfold umpClose
    dsimp only
    rw [AList.lookup_erase]
    rfl
  rw [isClosed]
  refine ⟨?_, fun complete => ?_⟩
  · exact left.put inserted rfl owner.2 free rfl rfl rfl (fun _ => .inl) left.connectingOnce
      (fun _ => .inl) left.handedOnce
  · exact (complete.drop erased there rfl rfl rfl).put inserted rfl (free .closedUmps) rfl rfl rfl

/-! ### Cleaning -/

/-- The tables the cleaner goes through. -/
def isCleaned : TableName → Bool
  | .backlogUmps | .closedUmps => true
  | .umps | .actConnect => false

theorem cleanerPass_tables {cur : SockId → GTimeVal} {name : TableName} {address : SockaddrIn}
    {id : SockId} : (cleanerPass u_core cur).tables name address = some id ↔
      u_core.tables name address = some id ∧ (isCleaned name && toClean u_core cur id) = false := by
  cases name with
  | umps => exact (and_iff_left rfl).symm
  | actConnect => exact (and_iff_left rfl).symm
  | backlogUmps => exact lookup_foreachRemove
  | closedUmps => exact lookup_foreachRemove

theorem cleanerPass_freed {cur : SockId → GTimeVal} {id : SockId} :
    id ∈ (cleanerPass u_core cur).freed ↔ id ∈ u_core.freed ∨
      ∃ name address, u_core.tables name address = some id ∧
        (isCleaned name && toClean u_core cur id) = true := by
  have removed (table : SockTable) : id ∈ table.values.filter (toClean u_core cur) ↔
      ∃ address, table.lookup address = some id ∧ toClean u_core cur id = true := by
    rw [List.mem_filter, mem_values, exists_and_right]
  show id ∈ _ ++ _ ++ _ ↔ _
  rw [List.mem_append, List.mem_append, removed, removed]
  constructor
  · rintro ((⟨address, found⟩ | ⟨address, found⟩) | before)
    · exact .inr ⟨.backlogUmps, address, found⟩
    · exact .inr ⟨.closedUmps, address, found⟩
    · exact .inl before
  · rintro (before | ⟨name, address, found, cleaned⟩)
    · exact .inr before
    · cases name with
      | umps => cases cleaned
      | actConnect => cases cleaned
      | backlogUmps => exact .inl (.inl ⟨address, found, cleaned⟩)
      | closedUmps => exact .inl (.inr ⟨address, found, cleaned⟩)

theorem cleanerPass_registry (registry : Registry u_core) (cur : SockId → GTimeVal) :
    KeepsRegistry u_core (cleanerPass u_core cur) := by
  have kept {name : TableName} {address : SockaddrIn} {id : SockId}
      (found : u_core.tables name address = some id) (notCleaned : isCleaned name = false) :
      (cleanerPass u_core cur).tables name address = some id := by
    rw [cleanerPass_tables, notCleaned]
    exact ⟨found, rfl⟩
  refine ⟨⟨?_, ?_, registry.connectingOnce, ?_, registry.handedOnce, ?_⟩, ?_⟩
  · apply registry.keyed.fewer
    intro name address id found
    obtain ⟨before, stays⟩ := cleanerPass_tables.mp found
    have owner := registry.keyed.owner before
    refine ⟨before, owner.2.1, fun freed => ?_⟩
    rcases cleanerPass_freed.mp freed with already | ⟨other, l, there, cleaned⟩
    · exact owner.2.2 already
    · rw [(registry.keyed.unique there before).1, stays] at cleaned
      cases cleaned
  · intro call member
    exact kept (registry.connecting call member) rfl
  · intro id member
    exact kept (registry.handed id member) rfl
  · intro id freed
    rcases cleanerPass_freed.mp freed with already | ⟨name, address, there, -⟩
    · exact registry.known id already
    · exact (registry.keyed.owner there).2.1
  · intro complete id live
    obtain ⟨name, found⟩ := complete id ⟨live.1, fun freed => live.2 (cleanerPass_freed.mpr
      (.inl freed))⟩
    refine ⟨name, cleanerPass_tables.mpr ⟨found, ?_⟩⟩
    rw [← Bool.not_eq_true]
    intro cleaned
    exact live.2 (cleanerPass_freed.mpr (.inr ⟨name, _, found, cleaned⟩))

end Events

/-! ### Runs -/

section Runs

variable [ReceiveLists Lists] {u_core : UMPCore Lists}

theorem coreStep_registry {event : CoreEvent} (registry : Registry u_core)
    (enabled : coreEnabled u_core event) :
    Registry (coreStep u_core event) ∧
      (keepsSocket u_core event → Complete u_core → Complete (coreStep u_core event)) := by
  have always {w : UMPCore Lists} (keeps : KeepsRegistry u_core w) :
      Registry w ∧ (keepsSocket u_core event → Complete u_core → Complete w) :=
    ⟨keeps.1, fun _ => keeps.2⟩
  cases event with
  | receive d seq clock => exact always (receiveThreadFunc_registry registry d seq clock)
  | connect theirAddr seq clock => exact umpConnect_registry registry theirAddr seq clock
  | finishConnect theirAddr id connectR =>
      exact always (finishConnect_registry registry enabled connectR)
  | acceptWait =>
      exact always ⟨registry.congr rfl rfl rfl rfl rfl rfl,
        fun complete => complete.congr rfl rfl rfl rfl⟩
  | accept order => exact always (umpAccept_registry registry enabled.2)
  | close id => exact always (umpClose_registry registry enabled)
  | clean cur => exact always (cleanerPass_registry registry cur)
  | fetch id =>
      have addresses := addressOf_setSock u_core id
        { u_core.socks id with
          queues := umpSockFetchReceivedPackets (u_core.socks id).queues } rfl
      exact always ⟨registry.congr rfl addresses rfl rfl rfl rfl,
        fun complete => complete.congr rfl addresses rfl rfl⟩
  | call id event => exact always (stepSock_registry registry id event)
  | handle id event => exact always (stepSock_registry registry id event)

/-- Every socket that was created and not freed is the value of exactly one entry, no
address is a key of two tables, and no table holds a freed socket. -/
structure Registered (u_core : UMPCore Lists) : Prop where
  oneEntry : ∀ id, u_core.Live id →
    ∃! place : TableName × SockaddrIn, (u_core.table place.1).lookup place.2 = some id
  oneTable : ∀ name other address, address ∈ u_core.table name → address ∈ u_core.table other →
    name = other
  notFreed : ∀ name address, ∀ id ∈ (u_core.table name).lookup address, u_core.Live id

omit [ReceiveLists Lists] in
theorem Registry.registered (registry : Registry u_core) (complete : Complete u_core) :
    Registered u_core where
  oneEntry := by
    intro id live
    obtain ⟨name, found⟩ := complete id live
    refine ⟨(name, u_core.addressOf id), found, ?_⟩
    rintro ⟨other, address⟩ there
    obtain ⟨sameName, sameAddress⟩ := registry.keyed.unique there found
    exact Prod.ext sameName sameAddress
  oneTable := by
    intro name other address member another
    rw [← AList.lookup_isSome] at member another
    obtain ⟨id, found⟩ := Option.isSome_iff_exists.mp member
    obtain ⟨second, there⟩ := Option.isSome_iff_exists.mp another
    exact registry.keyed.apart found there
  notFreed := fun _ _ _ found => (registry.keyed.owner found).2

/-- While `ump_connect` meets no socket of the backlog that is closed or being closed, the
sockets are registered. -/
theorem registered_of_run {backlog : Nat} {memory : SockId → CoreSock Lists}
    {events : List CoreEvent}
    (run : (coreMachine Lists).RunWhere keepsSocket (umpCoreBind backlog memory) events u_core) :
    Registered u_core := by
  have kept : Registry u_core ∧ Complete u_core := by
    apply run.invariant (registry_bind backlog memory)
    intro u_core event holds enabled keeps
    obtain ⟨registry, complete⟩ := coreStep_registry holds.1 enabled
    exact ⟨registry, complete keeps holds.2⟩
  exact kept.1.registered kept.2

end Runs

/-! ### Two runs -/

/-- A connect request, as its bytes come in. -/
def synDatagram (sender : SockaddrIn) : RecData :=
  ⟨sender, (freshEncoding (synPacket 7 1400)).1, fun _ => 0⟩

/-- `ump_connect` to a peer that is opening the connection itself, and to another one; the
first call fails. -/
def crossedConnects : List CoreEvent :=
  let clock : Clock := ⟨fun _ => ⟨0, 0⟩, 0⟩
  [.receive (synDatagram ⟨5000, 1⟩) 100 clock, .fetch 0,
    .handle 0 (.ctrlPacket (receivedForm (synPacket 7 1400))), .connect ⟨5000, 1⟩ 200 clock,
    .connect ⟨5000, 2⟩ 300 clock, .call 0 (.userCtrl .connect),
    .finishConnect ⟨5000, 1⟩ 0 false, .finishConnect ⟨5000, 2⟩ 1 true, .close 1]

/-- The theorem holds of a run that frees one socket and closes the other. -/
theorem registered_crossedConnects :
    Registered ((coreMachine PlainLists).after freshCore crossedConnects) :=
  registered_of_run (Machine.runWhere_of_check (by decide))

/-- `ump_connect` to a peer whose request the new socket has not handled yet. -/
def earlyConnect : List CoreEvent :=
  [.receive (synDatagram ⟨5000, 1⟩) 100 ⟨fun _ => ⟨0, 0⟩, 0⟩,
    .connect ⟨5000, 1⟩ 200 ⟨fun _ => ⟨0, 0⟩, 0⟩]

/-- The socket leaves the backlog, and no table gets it. -/
theorem registered_fails :
    ¬ ∀ (backlog : Nat) (memory : SockId → CoreSock PlainLists) (events : List CoreEvent)
      (u_core : UMPCore PlainLists),
      (coreMachine PlainLists).Run (umpCoreBind backlog memory) events u_core →
        Registered u_core := by
  intro always
  have run : (coreMachine PlainLists).Run freshCore earlyConnect
      ((coreMachine PlainLists).after freshCore earlyConnect) :=
    Machine.runWhere_of_check (by decide)
  obtain ⟨⟨name, address⟩, found, -⟩ := (always _ _ _ _ run).oneEntry 0 (by decide)
  have inTable : (0 : SockId) ∈
      (((coreMachine PlainLists).after freshCore earlyConnect).table name).values :=
    mem_values.mpr ⟨address, found⟩
  revert inTable
  cases name <;> decide

end UserMessageProtocol
