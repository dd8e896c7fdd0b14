import UserMessageProtocol.Core.Entries

/-!
Contract: which sockets of a core are freed, and how often.

Owns: `ump_core_close` (`umpCoreClose`), the sockets that `ump_connect` takes out of the
backlog and drops (`lostBy`), and the theorem that closing a core leaves every other socket
freed exactly once (`coreClose_frees_of_run`).

Does not own: the entries that live sockets have (Core.Entries).
-/

set_option autoImplicit false

namespace UserMessageProtocol

variable {Lists : Type}

/-! ### Closing a core -/

/-- The socket that `ump_connect` takes out of the backlog and puts nowhere, because the peer
has closed it. -/
def lostBy (u_core : UMPCore Lists) : CoreEvent → List SockId
  | .connect theirAddr _ _ =>
      if (u_core.actConnect.lookup theirAddr).isSome ∨ (u_core.umps.lookup theirAddr).isSome ∨
          (u_core.closedUmps.lookup theirAddr).isSome then []
      else
        (u_core.backlogUmps.lookup theirAddr).toList.filter fun id =>
          (u_core.socks id).publicState = .closed ∨ (u_core.socks id).publicState = .closing
  | _ => []

/-- The sockets lost so far. -/
def noteLost (u_core : UMPCore Lists) (event : CoreEvent) (lost : List SockId) : List SockId :=
  lost ++ lostBy u_core event

/-- The core in which some sockets are written off as freed. -/
def UMPCore.writeOff (u_core : UMPCore Lists) (lost : List SockId) : UMPCore Lists :=
  { u_core with freed := u_core.freed ++ lost }

/-! ### Freed once -/

section

variable {u_core : UMPCore Lists}

theorem tableValues_nodup (registry : Registry u_core) (name : TableName) :
    (u_core.table name).values.Nodup := by
  apply List.Nodup.map_on
  · rintro ⟨address, id⟩ member ⟨other, another⟩ there same
    have found : u_core.tables name address = some id := AList.mem_lookup_iff.mpr member
    have second : u_core.tables name other = some another := AList.mem_lookup_iff.mpr there
    dsimp only at same
    rw [← same] at second
    rw [(registry.keyed.unique found second).2, same]
  · exact (u_core.table name).nodupKeys.nodup

theorem live_of_values (registry : Registry u_core) {name : TableName} {id : SockId}
    (member : id ∈ (u_core.table name).values) : u_core.Live id := by
  obtain ⟨address, found⟩ := mem_values.mp member
  exact (registry.keyed.owner (show u_core.tables name address = some id from found)).2

theorem values_disjoint (registry : Registry u_core) {name other : TableName}
    (different : name ≠ other) :
    (u_core.table name).values.Disjoint (u_core.table other).values := by
  intro id first second
  obtain ⟨address, found⟩ := mem_values.mp first
  obtain ⟨address', found'⟩ := mem_values.mp second
  exact different (registry.keyed.unique (show u_core.tables name address = some id from found)
    (show u_core.tables other address' = some id from found')).1

theorem values_notFreed (registry : Registry u_core) (name : TableName) :
    (u_core.table name).values.Disjoint u_core.freed :=
  fun _ member freed => (live_of_values registry member).2 freed

/-- A pass of the cleaner frees sockets of two tables, none of them freed before. -/
theorem cleanerPass_freedOnce (registry : Registry u_core) (once : u_core.freed.Nodup)
    (cur : SockId → GTimeVal) : (cleanerPass u_core cur).freed.Nodup := by
  have fewer (name : TableName) : ((u_core.table name).values.filter (toClean u_core cur)).Sublist
      (u_core.table name).values := List.filter_sublist
  have apart : ((u_core.table .backlogUmps).values.filter (toClean u_core cur)).Disjoint
      ((u_core.table .closedUmps).values.filter (toClean u_core cur)) := fun id first second =>
    values_disjoint registry (by decide : TableName.backlogUmps ≠ .closedUmps)
      ((fewer _).subset first) ((fewer _).subset second)
  have removed := ((tableValues_nodup registry .backlogUmps).sublist (fewer _)).append
    ((tableValues_nodup registry .closedUmps).sublist (fewer _)) apart
  refine removed.append once ?_
  intro id member freed
  rcases List.mem_append.mp member with first | second
  · exact values_notFreed registry .backlogUmps ((fewer _).subset first) freed
  · exact values_notFreed registry .closedUmps ((fewer _).subset second) freed

variable [ReceiveLists Lists]

/-- What an event frees. -/
theorem receiveThreadFunc_freed (u_core : UMPCore Lists) (d : RecData) (seq : UInt16)
    (clock : Clock) :
    (receiveThreadFunc u_core d seq clock).core.freed = u_core.freed ∨
      (receiveThreadFunc u_core d seq clock).core.freed = u_core.created :: u_core.freed := by
  have queued (w : UMPCore Lists) (id : SockId) (u_p : UMPPacket) :
      (queuePacket w id u_p).core.freed = w.freed := by
    unfold queuePacket
    dsimp only
    split <;> rfl
  unfold receiveThreadFunc
  split
  · exact .inl rfl
  · dsimp only
    split
    · exact .inl rfl
    · rename_i u_p _
      rcases receiver_cases u_core d.sender u_p seq clock with
        ⟨id, found, -⟩ | ⟨-, ⟨ignored, -⟩ | ⟨-, added | refused⟩⟩
      · rw [found]
        exact .inl (queued _ id u_p)
      · rw [ignored]
        exact .inl rfl
      · rw [added]
        exact .inl (queued _ _ u_p)
      · rw [refused]
        exact .inr rfl

theorem umpConnect_freed (u_core : UMPCore Lists) (theirAddr : SockaddrIn) (seq : UInt16)
    (clock : Clock) : (umpConnect u_core theirAddr seq clock).freed = u_core.freed := by
  unfold umpConnect
  repeat (split; rfl)
  split
  · dsimp only
    split <;> rfl
  · rfl

omit [ReceiveLists Lists] in
theorem umpAccept_freed (u_core : UMPCore Lists) (order : List SockId) :
    (umpAccept u_core order).freed = u_core.freed := by
  unfold umpAccept
  dsimp only
  split <;> rfl

omit [ReceiveLists Lists] in
theorem umpClose_freed (u_core : UMPCore Lists) (id : SockId) :
    (umpClose u_core id).freed = u_core.freed := by
  unfold umpClose
  dsimp only
  rw [AList.lookup_erase]

/-- No event frees a socket again. -/
theorem coreStep_freedOnce {event : CoreEvent} (registry : Registry u_core)
    (once : u_core.freed.Nodup)
    (called : ∀ theirAddr id connectR, event = .finishConnect theirAddr id connectR →
      (theirAddr, id) ∈ u_core.connecting) : (coreStep u_core event).freed.Nodup := by
  cases event with
  | receive d seq clock =>
      show (receiveThreadFunc u_core d seq clock).core.freed.Nodup
      rcases receiveThreadFunc_freed u_core d seq clock with same | refused
      · rw [same]
        exact once
      · rw [refused]
        refine List.nodup_cons.mpr ⟨fun member => ?_, once⟩
        exact absurd (registry.known _ member) (Nat.lt_irrefl _)
  | connect theirAddr seq clock =>
      show (umpConnect u_core theirAddr seq clock).freed.Nodup
      rw [umpConnect_freed]
      exact once
  | finishConnect theirAddr id connectR =>
      have there := registry.connecting _ (called theirAddr id connectR rfl)
      cases connectR with
      | true => exact once
      | false => exact List.nodup_cons.mpr ⟨(registry.keyed.owner there).2.2, once⟩
  | accept order =>
      show (umpAccept u_core order).freed.Nodup
      rw [umpAccept_freed]
      exact once
  | close id =>
      show (umpClose u_core id).freed.Nodup
      rw [umpClose_freed]
      exact once
  | clean cur => exact cleanerPass_freedOnce registry once cur
  | acceptWait => exact once
  | fetch id => exact once
  | call id made => exact once
  | handle id made => exact once

/-! ### Sockets written off -/

theorem receiver_writeOff (u_core : UMPCore Lists) (lost : List SockId) (sender : SockaddrIn)
    (u_p : UMPPacket) (seq : UInt16) (clock : Clock) :
    receiver (u_core.writeOff lost) sender u_p seq clock =
      ((receiver u_core sender u_p seq clock).1.writeOff lost,
        (receiver u_core sender u_p seq clock).2) := by
  unfold receiver
  have same : (u_core.writeOff lost).findSock sender = u_core.findSock sender := rfl
  rw [same]
  split
  · rfl
  · split
    · have backlog : (newSock (u_core.writeOff lost) sender seq clock).1.backlogUmps =
          (newSock u_core sender seq clock).1.backlogUmps := rfl
      have limit : (newSock (u_core.writeOff lost) sender seq clock).1.backlogLimit =
          (newSock u_core sender seq clock).1.backlogLimit := rfl
      dsimp only
      rw [backlog, limit]
      split <;> rfl
    · rfl

omit [ReceiveLists Lists] in
theorem queuePacket_writeOff (u_core : UMPCore Lists) (lost : List SockId) (id : SockId)
    (u_p : UMPPacket) :
    (queuePacket (u_core.writeOff lost) id u_p).core =
      (queuePacket u_core id u_p).core.writeOff lost := by
  unfold queuePacket
  have same : (u_core.writeOff lost).socks = u_core.socks := rfl
  rw [same]
  dsimp only
  split <;> rfl

theorem receiveThreadFunc_writeOff (u_core : UMPCore Lists) (lost : List SockId) (d : RecData)
    (seq : UInt16) (clock : Clock) :
    (receiveThreadFunc (u_core.writeOff lost) d seq clock).core =
      (receiveThreadFunc u_core d seq clock).core.writeOff lost := by
  unfold receiveThreadFunc
  split
  · rfl
  · dsimp only
    split
    · rfl
    · rename_i u_p _
      rw [receiver_writeOff]
      dsimp only
      split
      · rfl
      · exact queuePacket_writeOff _ lost _ u_p

theorem umpConnect_writeOff (u_core : UMPCore Lists) (lost : List SockId) (theirAddr : SockaddrIn)
    (seq : UInt16) (clock : Clock) :
    umpConnect (u_core.writeOff lost) theirAddr seq clock =
      (umpConnect u_core theirAddr seq clock).writeOff lost := by
  have act : (u_core.writeOff lost).actConnect = u_core.actConnect := rfl
  have umps : (u_core.writeOff lost).umps = u_core.umps := rfl
  have closed : (u_core.writeOff lost).closedUmps = u_core.closedUmps := rfl
  have backlog : (u_core.writeOff lost).backlogUmps = u_core.backlogUmps := rfl
  unfold umpConnect
  rw [act, umps, closed, backlog]
  split
  · rfl
  split
  · rfl
  split
  · rfl
  split
  · have socks : (u_core.writeOff lost).socks = u_core.socks := rfl
    dsimp only
    rw [socks]
    split <;> rfl
  · rfl

omit [ReceiveLists Lists] in
theorem umpAccept_writeOff (u_core : UMPCore Lists) (lost : List SockId) (order : List SockId) :
    umpAccept (u_core.writeOff lost) order = (umpAccept u_core order).writeOff lost := by
  have same : earlier { u_core.writeOff lost with passing := (u_core.writeOff lost).passing - 1 } =
      earlier { u_core with passing := u_core.passing - 1 } := rfl
  unfold umpAccept
  dsimp only
  rw [same]
  split <;> rfl

omit [ReceiveLists Lists] in
theorem umpClose_writeOff (u_core : UMPCore Lists) (lost : List SockId) (id : SockId) :
    umpClose (u_core.writeOff lost) id = (umpClose u_core id).writeOff lost := by
  have umps : (u_core.writeOff lost).umps = u_core.umps := rfl
  have socks : (u_core.writeOff lost).socks = u_core.socks := rfl
  unfold umpClose
  dsimp only
  rw [umps, socks, AList.lookup_erase]
  rfl

omit [ReceiveLists Lists] in
theorem cleanerPass_writeOff (u_core : UMPCore Lists) (lost : List SockId)
    (cur : SockId → GTimeVal) :
    cleanerPass (u_core.writeOff lost) cur = (cleanerPass u_core cur).writeOff lost :=
  congrArg (fun freed => { cleanerPass u_core cur with freed := freed })
    (List.append_assoc _ u_core.freed lost).symm

/-- What is written off makes no difference to a core. -/
theorem coreStep_writeOff (u_core : UMPCore Lists) (lost : List SockId) (event : CoreEvent) :
    coreStep (u_core.writeOff lost) event = (coreStep u_core event).writeOff lost := by
  cases event with
  | receive d seq clock => exact receiveThreadFunc_writeOff u_core lost d seq clock
  | connect theirAddr seq clock => exact umpConnect_writeOff u_core lost theirAddr seq clock
  | finishConnect theirAddr id connectR => cases connectR <;> rfl
  | accept order => exact umpAccept_writeOff u_core lost order
  | close id => exact umpClose_writeOff u_core lost id
  | clean cur => exact cleanerPass_writeOff u_core lost cur
  | acceptWait => rfl
  | fetch id => rfl
  | call id made => rfl
  | handle id made => rfl

/-! ### The ledger -/

/-- Every socket is freed, lost, or in a table, and no socket twice. -/
structure Ledger (u_core : UMPCore Lists) (lost : List SockId) : Prop where
  registry : Registry (u_core.writeOff lost)
  complete : Complete (u_core.writeOff lost)
  once : (u_core.freed ++ lost).Nodup

omit [ReceiveLists Lists] in
/-- The order in which sockets were freed does not matter. -/
theorem Registry.reordered {u_core w : UMPCore Lists} (registry : Registry u_core)
    (tables : w.tables = u_core.tables) (addresses : w.addressOf = u_core.addressOf)
    (created : w.created = u_core.created) (freed : ∀ id, id ∈ w.freed ↔ id ∈ u_core.freed)
    (connecting : w.connecting = u_core.connecting) (handed : w.handed = u_core.handed) :
    Registry w ∧ (Complete u_core → Complete w) := by
  have live : w.Live = u_core.Live := by
    funext id
    rw [UMPCore.Live, UMPCore.Live, created, freed id]
  obtain ⟨keyed, connects, connectingOnce, hands, handedOnce, known⟩ := registry
  rw [← tables, ← addresses, ← live] at keyed
  rw [← tables, ← connecting] at connects
  rw [← connecting] at connectingOnce
  rw [← tables, ← addresses, ← handed] at hands
  rw [← handed] at handedOnce
  rw [← created] at known
  refine ⟨⟨keyed, connects, connectingOnce, hands, handedOnce, ?_⟩, fun complete => ?_⟩
  · exact fun id member => known id ((freed id).mp member)
  · unfold Complete
    rw [tables, addresses, live]
    exact complete

omit [ReceiveLists Lists] in
/-- A connection that `ump_connect` loses: it leaves the backlog for good. -/
theorem ledger_lost {lost : List SockId} {theirAddr : SockaddrIn} {id : SockId}
    (ledger : Ledger u_core lost) (found : u_core.backlogUmps.lookup theirAddr = some id) :
    Ledger { u_core with backlogUmps := u_core.backlogUmps.erase theirAddr } (lost ++ [id]) := by
  have kept : Registry (u_core.writeOff lost) := ledger.registry
  obtain ⟨left, free, others⟩ := leaveBacklog_registry kept found
  have owner := ledger.registry.keyed.owner
    (show (u_core.writeOff lost).tables .backlogUmps theirAddr = some id from found)
  have nowhere (name : TableName) :
      ({ u_core.writeOff lost with
        backlogUmps := u_core.backlogUmps.erase theirAddr } : UMPCore Lists).tables name
          ((u_core.writeOff lost).addressOf id) = none := by
    rw [owner.1]
    exact free name
  have freed := left.sockFree owner.2 nowhere
  have complete := (others ledger.complete).sockFree
  have moved := freed.reordered (w := ({ u_core with
    backlogUmps := u_core.backlogUmps.erase theirAddr } : UMPCore Lists).writeOff (lost ++ [id]))
    rfl rfl rfl (fun other => ?_) rfl rfl
  · refine ⟨moved.1, moved.2 complete, ?_⟩
    show (u_core.freed ++ (lost ++ [id])).Nodup
    rw [← List.append_assoc]
    refine ledger.once.append (List.nodup_singleton id) ?_
    intro other before same
    rw [List.mem_singleton.mp same] at before
    exact owner.2.2 before
  · show other ∈ u_core.freed ++ (lost ++ [id]) ↔ other ∈ id :: (u_core.freed ++ lost)
    rw [← List.append_assoc, List.mem_append, List.mem_singleton, List.mem_cons, or_comm]

/-- `ump_connect` does nothing, loses a connection of the backlog, or meets none that is closed
or being closed. -/
theorem umpConnect_cases (u_core : UMPCore Lists) (theirAddr : SockaddrIn) (seq : UInt16)
    (clock : Clock) :
    (umpConnect u_core theirAddr seq clock = u_core ∧
        lostBy u_core (.connect theirAddr seq clock) = []) ∨
      (∃ id, u_core.backlogUmps.lookup theirAddr = some id ∧
        lostBy u_core (.connect theirAddr seq clock) = [id] ∧
        umpConnect u_core theirAddr seq clock =
          { u_core with backlogUmps := u_core.backlogUmps.erase theirAddr }) ∨
      (keepsSocket u_core (.connect theirAddr seq clock) ∧
        lostBy u_core (.connect theirAddr seq clock) = []) := by
  unfold umpConnect
  simp only [lostBy]
  split
  · rename_i act
    exact .inl ⟨rfl, if_pos (.inl act)⟩
  rename_i noAct
  split
  · rename_i umps
    exact .inl ⟨rfl, if_pos (.inr (.inl umps))⟩
  rename_i noUmps
  split
  · rename_i closed
    exact .inl ⟨rfl, if_pos (.inr (.inr closed))⟩
  rename_i noClosed
  rw [if_neg (not_or.mpr ⟨noAct, not_or.mpr ⟨noUmps, noClosed⟩⟩)]
  split
  · rename_i id found
    rw [found]
    dsimp only [Option.toList_some]
    split
    · rename_i closing
      exact .inr (.inl ⟨id, rfl, by simp [closing], rfl⟩)
    · rename_i notClosing
      refine .inr (.inr ⟨?_, by simp [notClosing]⟩)
      intro other there
      cases found.symm.trans there
      exact not_or.mp notClosing
  · rename_i none
    rw [none]
    refine .inr (.inr ⟨?_, rfl⟩)
    intro id found
    cases none.symm.trans found

theorem Ledger.step {lost : List SockId} {event : CoreEvent} (ledger : Ledger u_core lost)
    (enabled : coreEnabled u_core event) :
    Ledger (coreStep u_core event) (noteLost u_core event lost) := by
  -- an event that loses nothing goes on in the core in which the others are written off
  have kept (none : lostBy u_core event = [])
      (next : Registry (coreStep (u_core.writeOff lost) event) ∧
        Complete (coreStep (u_core.writeOff lost) event))
      (called : ∀ theirAddr id connectR, event = .finishConnect theirAddr id connectR →
        (theirAddr, id) ∈ u_core.connecting) :
      Ledger (coreStep u_core event) (noteLost u_core event lost) := by
    have once := coreStep_freedOnce ledger.registry ledger.once called
    rw [coreStep_writeOff] at next once
    rw [noteLost, none, List.append_nil]
    exact ⟨next.1, next.2, once⟩
  have always {w : UMPCore Lists} (keeps : KeepsRegistry (u_core.writeOff lost) w) :
      Registry w ∧ Complete w := ⟨keeps.1, keeps.2 ledger.complete⟩
  have stepped (able : coreEnabled (u_core.writeOff lost) event)
      (keeps : keepsSocket (u_core.writeOff lost) event) :
      Registry (coreStep (u_core.writeOff lost) event) ∧
        Complete (coreStep (u_core.writeOff lost) event) :=
    (coreStep_registry ledger.registry able).imp_right fun complete =>
      complete keeps ledger.complete
  cases event with
  | connect theirAddr seq clock =>
      rcases umpConnect_cases u_core theirAddr seq clock with
        ⟨same, none⟩ | ⟨id, found, loses, left⟩ | ⟨keeps, none⟩
      · have unchanged : coreStep u_core (.connect theirAddr seq clock) = u_core := same
        rw [unchanged, noteLost, none, List.append_nil]
        exact ledger
      · have erased : coreStep u_core (.connect theirAddr seq clock) = _ := left
        rw [erased, noteLost, loses]
        exact ledger_lost ledger found
      · exact kept none (stepped trivial keeps) (by simp)
  | receive d seq clock => exact kept rfl (stepped trivial trivial) (by simp)
  | finishConnect theirAddr id connectR =>
      refine kept rfl (stepped enabled trivial) ?_
      rintro _ _ _ ⟨⟩
      exact enabled
  | acceptWait => exact kept rfl (stepped enabled trivial) (by simp)
  | accept order => exact kept rfl (stepped enabled trivial) (by simp)
  | close id => exact kept rfl (stepped enabled trivial) (by simp)
  | clean cur => exact kept rfl (stepped trivial trivial) (by simp)
  | fetch id =>
      have addresses := addressOf_setSock (u_core.writeOff lost) id
        { u_core.socks id with
          queues := umpSockFetchReceivedPackets (u_core.socks id).queues } rfl
      exact kept rfl ⟨ledger.registry.congr rfl addresses rfl rfl rfl rfl,
        ledger.complete.congr rfl addresses rfl rfl⟩ (by simp)
  | call id made => exact kept rfl (always (stepSock_registry ledger.registry id made)) (by simp)
  | handle id made => exact kept rfl (always (stepSock_registry ledger.registry id made)) (by simp)

end

end UserMessageProtocol
