import UserMessageProtocol.Receiver.Counting

/-!
Contract: a socket with linked lists does what one with plain lists does.

Owns: when a socket follows another (`Follows`), and that the handlers of received data
keep that, as long as no packet goes before a head with `prev`.

Does not own: what happens behind such an insertion (`Receiver.Trapped`).
-/

set_option autoImplicit false

namespace UserMessageProtocol

open PlainLists

/-- The same socket, once with linked and once with plain lists. -/
structure Follows (u : UMPSocket GLists) (v : UMPSocket PlainLists) : Prop where
  core : u.core = v.core
  lists : GLists.Refines u.lists v.lists

variable {u : UMPSocket GLists} {v : UMPSocket PlainLists} {p : UMPPacket}

theorem umpHarvestMessages_follows (follows : Follows u v)
    (ordered : v.lists.rcvFirstMsgEnd ≤ v.lists.rcvDataSoFar) :
    Follows (umpHarvestMessages u) (umpHarvestMessages v) := by
  unfold umpHarvestMessages
  rw [follows.core]
  exact ⟨rfl, GLists.harvest_refines follows.lists ordered _⟩

theorem joinMessage_follows (follows : Follows u v) :
    Follows (joinMessage u) (joinMessage v) := by
  unfold joinMessage
  rw [follows.core, GLists.recMsgPackets_refines follows.lists]
  exact ⟨rfl, GLists.freeRecMsgPackets_refines follows.lists⟩

theorem pushAck_follows (follows : Follows u v) : Follows (pushAck u) (pushAck v) := by
  unfold pushAck
  rw [follows.core]
  exact ⟨rfl, follows.lists⟩

theorem umpEndReceiveInternal_follows (follows : Follows u v)
    (ordered : v.lists.rcvFirstMsgEnd ≤ v.lists.rcvDataSoFar) :
    Follows (umpEndReceiveInternal u) (umpEndReceiveInternal v) := by
  have joined := joinMessage_follows follows
  rw [umpEndReceiveInternal_eq, umpEndReceiveInternal_eq, follows.core]
  apply pushAck_follows
  split
  · exact umpHarvestMessages_follows joined ordered
  · exact joined

theorem finishReceive_follows (follows : Follows u v)
    (ordered : v.lists.rcvFirstMsgEnd ≤ v.lists.rcvDataSoFar) :
    Follows (finishReceive u) (finishReceive v) := by
  have ended := umpEndReceiveInternal_follows follows ordered
  unfold finishReceive
  dsimp only
  rw [GLists.recMsgPackets_refines follows.lists, ended.core]
  exact ⟨rfl, ended.lists⟩

theorem umpEndReceive_follows (follows : Follows u v)
    (ordered : v.lists.rcvFirstMsgEnd ≤ v.lists.rcvDataSoFar) :
    Follows (umpEndReceive u) (umpEndReceive v) := by
  unfold umpEndReceive
  rw [follows.core]
  split
  · exact follows
  · have unlocked : Follows (unlockReceive u) (unlockReceive v) := by
      unfold unlockReceive
      rw [follows.core]
      exact ⟨rfl, follows.lists⟩
    have finished := finishReceive_follows unlocked ordered
    rw [unlockReceive, follows.core] at finished
    exact finished

theorem umpHandleReceive_follows (follows : Follows u v) (inOrder : InOrder v) :
    Follows (umpHandleReceive u) (umpHandleReceive v) := by
  have finished := finishReceive_follows follows inOrder.arranged.counted.firstEnd
  unfold umpHandleReceive
  rw [follows.core, GLists.recMsgPackets_refines follows.lists]
  dsimp only
  repeat' split
  all_goals
    first
    | exact follows
    | exact finished
    | exact ⟨rfl, follows.lists⟩

theorem countMessage_follows (follows : Follows u v) :
    Follows (countMessage u) (countMessage v) := by
  unfold countMessage
  rw [follows.core]
  refine ⟨rfl, ?_⟩
  dsimp only
  split
  · exact GLists.markFirstMsgEnd_refines follows.lists
  · exact follows.lists

theorem umpCheckRcvDataSoFar_follows {index : Nat} (follows : Follows u v)
    (arranged : Arranged v index) (moved : v.lists.rcvDataSoFar = index + 1) :
    Follows (umpCheckRcvDataSoFar u) (umpCheckRcvDataSoFar v) := by
  have counted := countMessage_follows follows
  rw [umpCheckRcvDataSoFar_eq, umpCheckRcvDataSoFar_eq, GLists.soFarPacket_refines follows.lists,
    GLists.recMsgPackets_refines counted.lists]
  split
  · rename_i ends
    have counting := countMessage_arranged arranged moved ends
    split
    · have harvested := (umpHarvestMessages_inOrder counting.1 counting.2).1
      apply umpEndReceive_follows _ harvested.arranged.counted.firstEnd
      exact umpHarvestMessages_follows counted counting.1.counted.firstEnd
    · exact counted
  · exact follows

theorem moveSoFar_follows (follows : Follows u v) : Follows (moveSoFar u) (moveSoFar v) := by
  have advanced := GLists.advanceSoFar_refines follows.lists
  unfold moveSoFar
  rw [follows.core, GLists.soFarPacket_refines advanced.1]
  exact ⟨rfl, advanced.1⟩

theorem startMoving_follows (follows : Follows u v) :
    Follows (startMoving u) (startMoving v) := by
  unfold startMoving
  rw [GLists.soFarPacket_refines follows.lists]
  split
  · exact follows
  · exact ⟨follows.core, GLists.startSoFar_refines follows.lists⟩

theorem movesSoFar_follows (follows : Follows u v) : movesSoFar u = movesSoFar v := by
  unfold movesSoFar
  rw [GLists.soFarPacket_refines follows.lists, GLists.firstPacket_refines follows.lists,
    (GLists.advanceSoFar_refines follows.lists).2, follows.core]

theorem advanceTheirBase_follows {check : Bool} {bound : Nat} (follows : Follows u v)
    (moving : Moving v check bound) :
    Follows (advanceTheirBase u check) (advanceTheirBase v check) := by
  have moved := moveSoFar_follows follows
  rw [advanceTheirBase_eq, advanceTheirBase_eq, (GLists.advanceSoFar_refines follows.lists).2]
  split
  · rename_i changed
    obtain ⟨index, arranged, atIndex⟩ := moving.moved changed
    exact umpCheckRcvDataSoFar_follows moved arranged atIndex
  · exact moved

theorem takeInOrder_follows (follows : Follows u v) (inOrder : InOrder v) :
    Follows (takeInOrder u) (takeInOrder v) := by
  unfold takeInOrder
  rw [GLists.soFarPacket_refines follows.lists, GLists.firstPacket_refines follows.lists,
    follows.core]
  split
  · rename_i q found
    exact advanceTheirBase_follows follows (inOrder.moving found)
  · rename_i none
    split
    · rename_i first
      apply advanceTheirBase_follows _ (inOrder.starting none first)
      exact ⟨rfl, GLists.startSoFar_refines follows.lists⟩
    · exact follows

/-- The place of a packet is not before a head with `prev`. -/
def InsideList (u : UMPSocket GLists) (v : UMPSocket PlainLists) (p : UMPPacket) : Prop :=
  GLists.Inside (umpCmpInRcvbase v.core.rcv) p.seqNum u.lists v.lists

theorem storePacket_follows (follows : Follows u v) (inOrder : InOrder v)
    (inRange : ¬ umpCmpInRcvbase v.core.rcv p.seqNum v.core.rcv.theirDataSeqBase < 0)
    (inside : InsideList u v p) : Follows (storePacket u p) (storePacket v p) := by
  unfold storePacket
  rw [follows.core]
  rcases GLists.insertPacket_refines _ p follows.lists inside with
    ⟨known, plain⟩ | ⟨l, m, linked, plain, refines⟩
  · rw [known, plain]
    exact follows
  · rw [linked, plain]
    apply takeInOrder_follows
    · exact ⟨rfl, refines⟩
    · obtain ⟨ordered, -, sameRec⟩ := inOrder.arranged.insert inRange plain
      exact ⟨ordered, by rw [sameRec]; exact inOrder.waiting⟩

end UserMessageProtocol
