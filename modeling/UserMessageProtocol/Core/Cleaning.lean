import UserMessageProtocol.Core.Entries
import UserMessageProtocol.Socket.Stamps

/-!
Contract: which sockets the cleaner frees.

Owns: when sockets entered `UMP_CLOSED` last (`noteClosing`), the property that the cleaner
respects `UMP_CALM_MICROS` (`Calm`), the passes that do (`spares`), and the theorem that every
pass of a run keeps the property exactly when every one is such a pass.

Does not own: what else a pass does to the tables (`Core.Entries`).
-/

set_option autoImplicit false

namespace UserMessageProtocol

variable {Lists : Type}

/-! ### The test -/

/-- The milliseconds since 1970 at 20 seconds before `cur`, as a `glong`, are negative. -/
def negativeHalf (cur : GTimeVal) : Prop :=
  2147483648 ≤ (cur.micros - UMP_CALM_MICROS) / 1000 % 4294967296

/-- Less than a millisecond is missing in the second in which the calm time ends. -/
def justBefore (closeTime cur : GTimeVal) : Prop :=
  cur.tvSec = closeTime.tvSec + 20 ∧ cur.tvUsec < closeTime.tvUsec ∧
    closeTime.tvUsec < cur.tvUsec + 1000

instance (cur : GTimeVal) : Decidable (negativeHalf cur) := by
  unfold negativeHalf
  infer_instance

instance (closeTime cur : GTimeVal) : Decidable (justBefore closeTime cur) := by
  unfold justBefore
  infer_instance

section Test

variable {closeTime cur : GTimeVal}

theorem glong_nonneg_iff (value : Int) : 0 ≤ glong value ↔ value % 4294967296 < 2147483648 := by
  unfold glong
  rw [Int.bmod_def]
  split <;> omega

theorem gTimeValAdd_calm (unix : cur.Unix) :
    gTimeValAdd cur (-UMP_CALM_MICROS) = ⟨cur.tvSec - 20, cur.tvUsec⟩ := by
  have := unix.started
  have := unix.fits
  have usec : ¬ cur.tvUsec < 0 := by
    have := unix.usec
    omega
  have second : glong (cur.tvSec - 20) = cur.tvSec - 20 := glong_eq (by omega) (by omega)
  simp only [gTimeValAdd, UMP_CALM_MICROS, G_USEC_PER_SEC]
  norm_num [usec, second]

/-- The test compares the milliseconds since `closeTime` with the calm time, up to whole turns. -/
theorem umpTimeSub_calm (unix : cur.Unix) (closedUnix : closeTime.Unix) :
    umpTimeSub (gTimeValAdd cur (-UMP_CALM_MICROS)) closeTime =
      glong (elapsedMs cur closeTime - 20000) := by
  have := unix.usec
  have := unix.second
  have := closedUnix.usec
  have := closedUnix.second
  have usec : glong (cur.tvUsec - closeTime.tvUsec) = cur.tvUsec - closeTime.tvUsec :=
    glong_eq (by omega) (by omega)
  have shifted : elapsedMs ⟨cur.tvSec - 20, cur.tvUsec⟩ closeTime =
      elapsedMs cur closeTime - 20000 := by
    simp only [elapsedMs]
    omega
  rw [gTimeValAdd_calm unix, ← shifted]
  exact umpTimeSub_wraps usec

/-- A socket that never closed passes the test in half of the time. -/
theorem umpTimeSub_fresh (unix : cur.Unix) :
    umpTimeSub (gTimeValAdd cur (-UMP_CALM_MICROS)) ⟨0, 0⟩ ≥ 0 ↔ ¬ negativeHalf cur := by
  have elapsed : elapsedMs cur ⟨0, 0⟩ - 20000 = (cur.micros - UMP_CALM_MICROS) / 1000 := by
    have := unix.usec
    simp only [elapsedMs, GTimeVal.micros, UMP_CALM_MICROS]
    rcases tdiv_cases (cur.tvUsec - 0) with ⟨_, part⟩ | ⟨_, part⟩ <;> omega
  rw [umpTimeSub_calm unix GTimeVal.unix_zero, ge_iff_le, glong_nonneg_iff, elapsed, negativeHalf]
  omega

theorem umpTimeSub_justBefore (unix : cur.Unix) (closedUnix : closeTime.Unix)
    (before : justBefore closeTime cur) :
    umpTimeSub (gTimeValAdd cur (-UMP_CALM_MICROS)) closeTime ≥ 0 := by
  obtain ⟨second, less, near⟩ := before
  have elapsed : elapsedMs cur closeTime - 20000 = 0 := by
    simp only [elapsedMs]
    rcases tdiv_cases (cur.tvUsec - closeTime.tvUsec) with ⟨_, part⟩ | ⟨_, part⟩ <;> omega
  rw [umpTimeSub_calm unix closedUnix, elapsed]
  decide

/-- A socket that closed passes the test behind the calm time, or just before its end. -/
theorem umpTimeSub_late (unix : cur.Unix) (closedUnix : closeTime.Unix)
    (order : closeTime.micros ≤ cur.micros)
    (passes : umpTimeSub (gTimeValAdd cur (-UMP_CALM_MICROS)) closeTime ≥ 0) :
    closeTime.micros + UMP_CALM_MICROS ≤ cur.micros ∨ justBefore closeTime cur := by
  have elapsed := elapsedMs_nonneg unix closedUnix order
  rw [umpTimeSub_calm unix closedUnix, ge_iff_le, glong_nonneg_iff] at passes
  have behind : 20000 ≤ elapsedMs cur closeTime := by omega
  have := unix.usec
  have := unix.second
  have := closedUnix.usec
  have := closedUnix.second
  simp only [elapsedMs] at behind
  simp only [GTimeVal.micros, UMP_CALM_MICROS, justBefore]
  rcases tdiv_cases (cur.tvUsec - closeTime.tvUsec) with ⟨_, part⟩ | ⟨_, part⟩ <;> omega

end Test

/-! ### When sockets closed -/

/-- The reading a clock made last. -/
def Clock.lastReading (clock : Clock) : GTimeVal := clock.readings (clock.ticks - 1)

def CoreSock.stamps (s : CoreSock Lists) : Stamps := s.socket.core.stamps

/-- When a socket entered `UMP_CLOSED` last, behind a step from `k` to `k'`. Entering it is
the last thing in a step for which the clock is read. -/
def closingTime (k k' : Stamps) (closedAt : Option GTimeVal) : Option GTimeVal :=
  if k.closings < k'.closings then some k'.clock.lastReading else closedAt

/-- When the sockets of a core entered `UMP_CLOSED` last, behind an event. -/
def noteClosing [ReceiveLists Lists] (u_core : UMPCore Lists) (event : CoreEvent)
    (closedAt : SockId → Option GTimeVal) : SockId → Option GTimeVal := fun id =>
  closingTime (u_core.socks id).stamps ((coreStep u_core event).socks id).stamps (closedAt id)

/-- When the sockets entered `UMP_CLOSED` last along some events. -/
def closedTimes [ReceiveLists Lists] (start : UMPCore Lists) (events : List CoreEvent) :
    SockId → Option GTimeVal :=
  (coreMachine Lists).noted noteClosing start events fun _ => none

/-- The close time of a socket is when it entered `UMP_CLOSED` last, and zero before. -/
structure Dated (k : Stamps) (closedAt : Option GTimeVal) : Prop where
  lawful : k.clock.Lawful
  time : k.closeTime = closedAt.getD ⟨0, 0⟩
  made : ∀ t ∈ closedAt, ∃ n < k.clock.ticks, k.clock.readings n = t
  counted : k.closings = 0 ↔ closedAt = none

section Dates

variable {k k' : Stamps} {closedAt : Option GTimeVal} {event : SockEvent}

theorem notifyWnd_closing (k : Stamps) (p : UMPPacket) :
    (k.notifyWnd p).closings = k.closings ∧ (k.notifyWnd p).closeTime = k.closeTime := by
  unfold Stamps.notifyWnd
  split
  · split <;> exact ⟨rfl, rfl⟩
  · exact ⟨rfl, rfl⟩

/-- The close time changes with entering `UMP_CLOSED`, to the reading made for it. -/
theorem stampStep_closing (step : StampStep k event k') :
    k'.closings = k.closings ∧ k'.closeTime = k.closeTime ∨
      k'.closings = k.closings + 1 ∧ k'.closeTime = k'.clock.lastReading ∧ 0 < k'.clock.ticks := by
  cases step with
  | read event n => exact .inl ⟨rfl, rfl⟩
  | close event n => exact .inr ⟨rfl, rfl, Nat.succ_pos _⟩
  | window p n => exact .inl (notifyWnd_closing k p)
  | acked n => exact .inl ⟨rfl, rfl⟩
  | beat => exact .inl ⟨rfl, rfl⟩

theorem Dated.step (dated : Dated k closedAt) (step : StampStep k event k') :
    Dated k' (closingTime k k' closedAt) := by
  obtain ⟨readings, ticks⟩ := stampStep_clock step
  have lawful : k'.clock.Lawful := by
    constructor
    · rw [readings]
      exact dated.lawful.unix
    · rw [readings]
      exact dated.lawful.forward
  unfold closingTime
  rcases stampStep_closing step with ⟨same, time⟩ | ⟨one, time, read⟩
  · rw [if_neg (Nat.not_lt.mpr (Nat.le_of_eq same))]
    refine ⟨lawful, time.trans dated.time, ?_, ?_⟩
    · intro t isSome
      obtain ⟨n, made, reading⟩ := dated.made t isSome
      rw [readings]
      exact ⟨n, Nat.lt_of_lt_of_le made ticks, reading⟩
    · rw [same]
      exact dated.counted
  · rw [if_pos (by omega)]
    refine ⟨lawful, time, ?_, ?_⟩
    · rintro t ⟨⟩
      exact ⟨k'.clock.ticks - 1, Nat.sub_lt read Nat.one_pos, rfl⟩
    · simp [one]

theorem dated_new (seq : UInt16) {clock : Clock} (lawful : clock.Lawful) [ReceiveLists Lists] :
    Dated (umpSockNew Lists seq clock).core.stamps none where
  lawful := lawful
  time := rfl
  made := fun _ isSome => by cases isSome
  counted := ⟨fun _ => rfl, fun _ => rfl⟩

end Dates

/-! ### Sockets of a core -/

/-- No socket was created, and none did a step. -/
def SameSockets (u_core w : UMPCore Lists) : Prop :=
  w.created = u_core.created ∧ ∀ id, (w.socks id).socket = (u_core.socks id).socket

/-- One socket was created, with a clock. -/
structure AddsSocket [ReceiveLists Lists] (u_core w : UMPCore Lists) (clock : Clock) : Prop where
  created : w.created = u_core.created + 1
  new : ∃ seq, (w.socks u_core.created).socket = umpSockNew Lists seq clock
  others : ∀ id, id ≠ u_core.created → (w.socks id).socket = (u_core.socks id).socket

/-- One socket that lives did a step. -/
structure StepsSocket [ReceiveLists Lists] (u_core w : UMPCore Lists) (id : SockId)
    (event : SockEvent) : Prop where
  live : u_core.Live id
  created : w.created = u_core.created
  stepped : (w.socks id).socket = sockStep (u_core.socks id).socket event
  others : ∀ other, other ≠ id → (w.socks other).socket = (u_core.socks other).socket

/-- The clock of the socket that an event may create. -/
def CoreEvent.newClock : CoreEvent → Option Clock
  | .receive _ _ clock => some clock
  | .connect _ _ clock => some clock
  | _ => none

section Sockets

variable {u_core : UMPCore Lists} {id : SockId}

theorem queuePacket_sockets (u_core : UMPCore Lists) (id : SockId) (u_p : UMPPacket) :
    SameSockets u_core (queuePacket u_core id u_p).core := by
  unfold queuePacket
  dsimp only
  split
  · refine ⟨rfl, fun other => ?_⟩
    show (Function.update u_core.socks id _ other).socket = _
    by_cases here : other = id
    · rw [here, Function.update_self]
    · rw [Function.update_of_ne here]
  · exact ⟨rfl, fun _ => rfl⟩

variable [ReceiveLists Lists]

theorem newSock_adds (u_core : UMPCore Lists) (theirAddr : SockaddrIn) (seq : UInt16)
    (clock : Clock) : AddsSocket u_core (newSock u_core theirAddr seq clock).1 clock where
  created := rfl
  new := ⟨seq, newSock_socket u_core theirAddr seq clock⟩
  others := fun _ different => by rw [newSock_socks different]

/-- Queues and tables do not matter. -/
theorem AddsSocket.same {w x : UMPCore Lists} {clock : Clock} (adds : AddsSocket u_core w clock)
    (same : SameSockets w x) : AddsSocket u_core x clock where
  created := same.1.trans adds.created
  new := by
    rw [same.2]
    exact adds.new
  others := fun id different => (same.2 id).trans (adds.others id different)

theorem receiveThreadFunc_sockets (u_core : UMPCore Lists) (d : RecData) (seq : UInt16)
    (clock : Clock) :
    SameSockets u_core (receiveThreadFunc u_core d seq clock).core ∨
      AddsSocket u_core (receiveThreadFunc u_core d seq clock).core clock := by
  have same : SameSockets u_core u_core := ⟨rfl, fun _ => rfl⟩
  unfold receiveThreadFunc
  split
  · exact .inl same
  · generalize uPacketFromBinary d.bytes ⟨d.bytes, d.behind⟩ = decoded
    obtain ⟨u_p, log⟩ := decoded
    cases u_p with
    | none => exact .inl same
    | some u_p =>
        have adds := newSock_adds u_core d.sender seq clock
        dsimp only
        rcases receiver_cases u_core d.sender u_p seq clock with
          ⟨id, found, -⟩ | ⟨-, ⟨ignored, -⟩ | ⟨-, added | refused⟩⟩
        · rw [found]
          exact .inl (queuePacket_sockets u_core id u_p)
        · rw [ignored]
          exact .inl same
        · rw [added]
          have moved : AddsSocket u_core
              { (newSock u_core d.sender seq clock).1 with
                backlogUmps := u_core.backlogUmps.insert d.sender u_core.created } clock :=
            adds.same ⟨rfl, fun _ => rfl⟩
          exact .inr (moved.same (queuePacket_sockets _ u_core.created u_p))
        · rw [refused]
          exact .inr (adds.same ⟨rfl, fun _ => rfl⟩)

theorem umpConnect_sockets (u_core : UMPCore Lists) (theirAddr : SockaddrIn) (seq : UInt16)
    (clock : Clock) :
    SameSockets u_core (umpConnect u_core theirAddr seq clock) ∨
      AddsSocket u_core (umpConnect u_core theirAddr seq clock) clock := by
  have same : SameSockets u_core u_core := ⟨rfl, fun _ => rfl⟩
  unfold umpConnect
  split
  · exact .inl same
  split
  · exact .inl same
  split
  · exact .inl same
  split
  · left
    dsimp only
    split <;> exact ⟨rfl, fun _ => rfl⟩
  · exact .inr ((newSock_adds u_core theirAddr seq clock).same ⟨rfl, fun _ => rfl⟩)

theorem stepSock_steps (live : u_core.Live id) (event : SockEvent) :
    StepsSocket u_core (stepSock u_core id event) id event where
  live := live
  created := rfl
  stepped := by
    show (Function.update u_core.socks id _ id).socket = _
    rw [Function.update_self]
  others := by
    intro other different
    show (Function.update u_core.socks id _ other).socket = _
    rw [Function.update_of_ne different]

/-- An event creates one socket with its clock, or lets one do a step, or leaves all of
them alone. -/
theorem coreStep_sockets {event : CoreEvent} (enabled : coreEnabled u_core event) :
    SameSockets u_core (coreStep u_core event) ∨
      (∃ clock ∈ event.newClock, AddsSocket u_core (coreStep u_core event) clock) ∨
      ∃ id step, StepsSocket u_core (coreStep u_core event) id step := by
  cases event with
  | receive d seq clock =>
      rcases receiveThreadFunc_sockets u_core d seq clock with same | adds
      · exact .inl same
      · exact .inr (.inl ⟨clock, rfl, adds⟩)
  | connect theirAddr seq clock =>
      rcases umpConnect_sockets u_core theirAddr seq clock with same | adds
      · exact .inl same
      · exact .inr (.inl ⟨clock, rfl, adds⟩)
  | finishConnect theirAddr id connectR =>
      left
      show SameSockets u_core (finishConnect u_core theirAddr id connectR)
      unfold finishConnect
      dsimp only
      split <;> exact ⟨rfl, fun _ => rfl⟩
  | acceptWait => exact .inl ⟨rfl, fun _ => rfl⟩
  | accept order =>
      left
      show SameSockets u_core (umpAccept u_core order)
      unfold umpAccept
      dsimp only
      split <;> exact ⟨rfl, fun _ => rfl⟩
  | close id =>
      left
      show SameSockets u_core (umpClose u_core id)
      unfold umpClose
      dsimp only
      split
      · exact ⟨rfl, fun _ => rfl⟩
      · split <;> exact ⟨rfl, fun _ => rfl⟩
  | clean cur => exact .inl ⟨rfl, fun _ => rfl⟩
  | fetch id =>
      refine .inl ⟨rfl, fun other => ?_⟩
      show (Function.update u_core.socks id _ other).socket = _
      by_cases here : other = id
      · rw [here, Function.update_self]
      · rw [Function.update_of_ne here]
  | call id event => exact .inr (.inr ⟨id, event, stepSock_steps enabled.1 event⟩)
  | handle id event => exact .inr (.inr ⟨id, event, stepSock_steps enabled.1 event⟩)

end Sockets

/-! ### The property -/

/-- Every socket that a pass frees entered `UMP_CLOSED`, and the last time `UMP_CALM_MICROS`
before or earlier. -/
def Calm (u_core : UMPCore Lists) (closedAt : SockId → Option GTimeVal)
    (cur : SockId → GTimeVal) : Prop :=
  ∀ id, id ∈ (cleanerPass u_core cur).freed → id ∉ u_core.freed →
    ∃ t, closedAt id = some t ∧ t.micros + UMP_CALM_MICROS ≤ (cur id).micros

/-- The cleaner reads its clock behind what the sockets read. -/
def readsLater (u_core : UMPCore Lists) : CoreEvent → Prop
  | .clean cur => ∀ id < u_core.created, (cur id).Unix ∧
      ∀ n < (u_core.socks id).stamps.clock.ticks,
        ((u_core.socks id).stamps.clock.readings n).micros ≤ (cur id).micros
  | _ => True

/-- The sockets a pass tests. -/
def scanned (u_core : UMPCore Lists) : List SockId :=
  u_core.backlogUmps.values ++ u_core.closedUmps.values

/-- A pass meets closed sockets that never entered `UMP_CLOSED` only in the negative half of
the time, and the others not just before the end of their calm time. -/
def spares (u_core : UMPCore Lists) : CoreEvent → Prop
  | .clean cur => ∀ id ∈ scanned u_core, (u_core.socks id).publicState = .closed →
      if (u_core.socks id).stamps.closings = 0 then negativeHalf (cur id)
      else ¬ justBefore (u_core.socks id).stamps.closeTime (cur id)
  | _ => True

instance (u_core : UMPCore Lists) (event : CoreEvent) : Decidable (readsLater u_core event) :=
  match event with
  | .clean _ => by unfold readsLater; infer_instance
  | .receive .. | .connect .. | .finishConnect .. | .acceptWait | .accept .. | .close .. |
    .fetch .. | .call .. | .handle .. => instDecidableTrue

instance (u_core : UMPCore Lists) (event : CoreEvent) : Decidable (spares u_core event) :=
  match event with
  | .clean _ => by unfold spares; infer_instance
  | .receive .. | .connect .. | .finishConnect .. | .acceptWait | .accept .. | .close .. |
    .fetch .. | .call .. | .handle .. => instDecidableTrue

/-- The close times of all sockets of a core are dated. -/
structure DatedCore (u_core : UMPCore Lists) (closedAt : SockId → Option GTimeVal) : Prop where
  registry : Registry u_core
  each : ∀ id < u_core.created, Dated (u_core.socks id).stamps (closedAt id)
  unborn : ∀ id, u_core.created ≤ id → closedAt id = none

section Passes

variable {u_core w : UMPCore Lists} {closedAt : SockId → Option GTimeVal}

theorem closingTime_same (k : Stamps) (t : Option GTimeVal) : closingTime k k t = t :=
  if_neg (Nat.lt_irrefl _)

theorem stamps_same {id : SockId} (same : (w.socks id).socket = (u_core.socks id).socket) :
    (w.socks id).stamps = (u_core.socks id).stamps := by
  unfold CoreSock.stamps
  rw [same]

theorem coreStep_dated [ReceiveLists Lists] {event : CoreEvent}
    (dated : DatedCore u_core closedAt) (enabled : coreEnabled u_core event)
    (lawful : ∀ clock ∈ event.newClock, clock.Lawful) :
    DatedCore (coreStep u_core event) (noteClosing u_core event closedAt) := by
  have kept {id : SockId}
      (same : ((coreStep u_core event).socks id).socket = (u_core.socks id).socket) :
      ((coreStep u_core event).socks id).stamps = (u_core.socks id).stamps ∧
        noteClosing u_core event closedAt id = closedAt id := by
    unfold noteClosing
    rw [stamps_same same]
    exact ⟨rfl, closingTime_same _ _⟩
  refine ⟨(coreStep_registry dated.registry enabled).1, ?_, ?_⟩
  · intro id below
    have old (before : id < u_core.created)
        (same : ((coreStep u_core event).socks id).socket = (u_core.socks id).socket) :
        Dated ((coreStep u_core event).socks id).stamps (noteClosing u_core event closedAt id) := by
      rw [(kept same).1, (kept same).2]
      exact dated.each id before
    rcases coreStep_sockets enabled with same | ⟨clock, isNew, adds⟩ | ⟨other, step, steps⟩
    · rw [same.1] at below
      exact old below (same.2 id)
    · by_cases new : id = u_core.created
      · obtain ⟨seq, created⟩ := adds.new
        have stamps : ((coreStep u_core event).socks id).stamps =
            (umpSockNew Lists seq clock).core.stamps := by
          rw [new, CoreSock.stamps, created]
        have noted : noteClosing u_core event closedAt id = none := by
          unfold noteClosing
          rw [stamps, dated.unborn id (Nat.le_of_eq new.symm)]
          exact if_neg (Nat.not_lt_zero _)
        rw [stamps, noted]
        exact dated_new seq (lawful clock isNew)
      · rw [adds.created] at below
        exact old (Nat.lt_of_le_of_ne (Nat.le_of_lt_succ below) new) (adds.others id new)
    · rw [steps.created] at below
      by_cases here : id = other
      · have stepped : StampStep (u_core.socks id).stamps step
            ((coreStep u_core event).socks id).stamps := by
          rw [here, CoreSock.stamps, CoreSock.stamps, steps.stepped]
          exact stamps_step _ step
        exact (dated.each id below).step stepped
      · exact old below (steps.others id here)
  · intro id above
    rcases coreStep_sockets enabled with same | ⟨clock, -, adds⟩ | ⟨other, step, steps⟩
    · rw [(kept (same.2 id)).2]
      exact dated.unborn id (same.1 ▸ above)
    · rw [adds.created] at above
      rw [(kept (adds.others id (Nat.ne_of_gt above))).2]
      exact dated.unborn id (Nat.le_of_succ_le above)
    · rw [steps.created] at above
      have different : id ≠ other := Nat.ne_of_gt (Nat.lt_of_lt_of_le steps.live.1 above)
      rw [(kept (steps.others id different)).2]
      exact dated.unborn id above

/-- The sockets a pass frees. -/
theorem mem_scanned_iff {cur : SockId → GTimeVal} {id : SockId} (registry : Registry u_core) :
    (id ∈ (cleanerPass u_core cur).freed ∧ id ∉ u_core.freed) ↔
      id ∈ scanned u_core ∧ toClean u_core cur id = true := by
  have inTables : id ∈ scanned u_core ↔
      ∃ name address, u_core.tables name address = some id ∧ isCleaned name = true := by
    unfold scanned
    rw [List.mem_append, mem_values, mem_values]
    constructor
    · rintro (⟨address, found⟩ | ⟨address, found⟩)
      · exact ⟨.backlogUmps, address, found, rfl⟩
      · exact ⟨.closedUmps, address, found, rfl⟩
    · rintro ⟨name, address, found, cleaned⟩
      cases name with
      | umps | actConnect => cases cleaned
      | backlogUmps => exact .inl ⟨address, found⟩
      | closedUmps => exact .inr ⟨address, found⟩
  rw [cleanerPass_freed, inTables]
  constructor
  · rintro ⟨before | ⟨name, address, found, cleaned⟩, notFreed⟩
    · exact absurd before notFreed
    · rw [Bool.and_eq_true] at cleaned
      exact ⟨⟨name, address, found, cleaned.1⟩, cleaned.2⟩
  · rintro ⟨⟨name, address, found, cleaned⟩, passes⟩
    refine ⟨.inr ⟨name, address, found, ?_⟩, (registry.keyed.owner found).2.2⟩
    rw [cleaned, passes]
    rfl

end Passes

section Runs

variable {u_core : UMPCore Lists} {closedAt : SockId → Option GTimeVal} {cur : SockId → GTimeVal}

theorem justBefore_micros {closeTime cur : GTimeVal} (before : justBefore closeTime cur) :
    cur.micros < closeTime.micros + UMP_CALM_MICROS := by
  obtain ⟨second, less, -⟩ := before
  simp only [GTimeVal.micros, UMP_CALM_MICROS]
  omega

theorem scanned_below (registry : Registry u_core) {id : SockId} (member : id ∈ scanned u_core) :
    id < u_core.created := by
  rcases List.mem_append.mp member with inTable | inTable
  · obtain ⟨address, found⟩ := mem_values.mp inTable
    exact (registry.keyed.owner (show u_core.tables .backlogUmps address = some id from found)).2.1
  · obtain ⟨address, found⟩ := mem_values.mp inTable
    exact (registry.keyed.owner (show u_core.tables .closedUmps address = some id from found)).2.1

theorem toClean_iff {id : SockId} : toClean u_core cur id = true ↔
    (u_core.socks id).publicState = .closed ∧
      umpTimeSub (gTimeValAdd (cur id) (-UMP_CALM_MICROS)) (u_core.socks id).stamps.closeTime ≥
        0 := by
  unfold toClean
  rw [Bool.and_eq_true, decide_eq_true_eq, decide_eq_true_eq]
  rfl

/-- A pass is calm exactly when it spares the sockets in the two cases. -/
theorem calm_iff_spares (dated : DatedCore u_core closedAt)
    (order : readsLater u_core (.clean cur)) :
    Calm u_core closedAt cur ↔ spares u_core (.clean cur) := by
  constructor
  · intro calm id member closed
    have below := scanned_below dated.registry member
    have each := dated.each id below
    obtain ⟨unix, made⟩ := order id below
    have frees (passes : umpTimeSub (gTimeValAdd (cur id) (-UMP_CALM_MICROS))
        (u_core.socks id).stamps.closeTime ≥ 0) :
        ∃ t, closedAt id = some t ∧ t.micros + UMP_CALM_MICROS ≤ (cur id).micros := by
      obtain ⟨freed, notFreed⟩ := (mem_scanned_iff dated.registry).mpr
        ⟨member, toClean_iff.mpr ⟨closed, passes⟩⟩
      exact calm id freed notFreed
    split
    · rename_i never
      have noTime : closedAt id = none := each.counted.mp never
      rw [each.time, noTime] at frees
      by_contra positive
      obtain ⟨t, isSome, -⟩ := frees ((umpTimeSub_fresh unix).mpr positive)
      cases isSome
    · rename_i entered
      obtain ⟨t, isSome⟩ := Option.ne_none_iff_exists'.mp fun none => entered (each.counted.mpr none)
      obtain ⟨n, -, reading⟩ := each.made t isSome
      have time : (u_core.socks id).stamps.closeTime = t := by
        rw [each.time, isSome]
        rfl
      have closedUnix : t.Unix := by
        rw [← reading]
        exact each.lawful.unix n
      rw [time] at frees ⊢
      intro before
      obtain ⟨t', same, calmTime⟩ := frees (umpTimeSub_justBefore unix closedUnix before)
      rw [isSome, Option.some.injEq] at same
      rw [← same] at calmTime
      exact absurd (justBefore_micros before) (Int.not_lt.mpr calmTime)
  · intro spared id freed notFreed
    obtain ⟨member, passes⟩ := (mem_scanned_iff dated.registry).mp ⟨freed, notFreed⟩
    obtain ⟨closed, passes⟩ := toClean_iff.mp passes
    have below := scanned_below dated.registry member
    have each := dated.each id below
    obtain ⟨unix, made⟩ := order id below
    have condition := spared id member closed
    cases found : closedAt id with
    | none =>
        rw [if_pos (each.counted.mpr found)] at condition
        rw [each.time, found] at passes
        exact absurd condition ((umpTimeSub_fresh unix).mp passes)
    | some t =>
        have entered : (u_core.socks id).stamps.closings ≠ 0 := by
          intro never
          rw [each.counted.mp never] at found
          cases found
        have time : (u_core.socks id).stamps.closeTime = t := by
          rw [each.time, found]
          rfl
        rw [if_neg entered, time] at condition
        rw [time] at passes
        obtain ⟨n, read, reading⟩ := each.made t found
        have order := made n read
        have closedUnix := each.lawful.unix n
        rw [reading] at order closedUnix
        rcases umpTimeSub_late unix closedUnix order passes with late | before
        · exact ⟨t, rfl, late⟩
        · exact absurd before condition

variable [ReceiveLists Lists] {backlog : Nat} {memory : SockId → CoreSock Lists}
  {events : List CoreEvent}

omit [ReceiveLists Lists] in
theorem dated_bind (backlog : Nat) (memory : SockId → CoreSock Lists) :
    DatedCore (umpCoreBind backlog memory) fun _ => none where
  registry := (registry_bind backlog memory).1
  each := fun _ below => absurd below (Nat.not_lt_zero _)
  unborn := fun _ _ => rfl

theorem dated_of_run
    (run : (coreMachine Lists).RunWhere
      (fun _ event => ∀ clock ∈ event.newClock, clock.Lawful) (umpCoreBind backlog memory) events
      u_core) : DatedCore u_core (closedTimes (umpCoreBind backlog memory) events) :=
  run.noted_invariant (dated_bind backlog memory) fun _ _ _ dated enabled lawful =>
    coreStep_dated dated enabled lawful

/-- Where clocks do not go back, every pass of a run is calm exactly when every pass meets new
sockets in the negative half of the time only, and no other one just before the end of its
calm time. -/
theorem calm_iff (lawful : ∀ event ∈ events, ∀ clock ∈ event.newClock, clock.Lawful)
    (run : (coreMachine Lists).RunWhere readsLater (umpCoreBind backlog memory) events u_core) :
    (∀ earlier cur later, events = earlier ++ .clean cur :: later →
        Calm ((coreMachine Lists).after (umpCoreBind backlog memory) earlier)
          (closedTimes (umpCoreBind backlog memory) earlier) cur) ↔
      (coreMachine Lists).RunWhere spares (umpCoreBind backlog memory) events u_core := by
  have order := (Machine.RunWhere.each_iff run.toRun).mp run
  have pass (earlier : List CoreEvent) (cur : SockId → GTimeVal) (later : List CoreEvent)
      (same : events = earlier ++ .clean cur :: later) :
      Calm ((coreMachine Lists).after (umpCoreBind backlog memory) earlier)
          (closedTimes (umpCoreBind backlog memory) earlier) cur ↔
        spares ((coreMachine Lists).after (umpCoreBind backlog memory) earlier) (.clean cur) := by
    have whole := run.toRun.with_events lawful
    rw [same] at whole
    have before := whole.first.mono fun _ _ both => both.2
    exact calm_iff_spares (dated_of_run before) (order earlier (.clean cur) later same)
  rw [Machine.RunWhere.each_iff run.toRun]
  constructor
  · intro calm earlier event later same
    cases event with
    | clean cur => exact (pass earlier cur later same).mp (calm earlier cur later same)
    | _ => exact trivial
  · intro spared earlier cur later same
    exact (pass earlier cur later same).mpr (spared earlier (.clean cur) later same)

end Runs

/-! ### Two runs -/

/-- A SYN comes in, the cleaner passes, the new socket handles the SYN, and a reset closes it. -/
def opensAndResets : List CoreEvent :=
  let clock : Clock := .stopped ⟨1700000000, 0⟩
  [.receive (synDatagram ⟨5000, 1⟩) 100 clock, .clean fun _ => ⟨1700000001, 0⟩, .fetch 0,
    .handle 0 (.ctrlPacket (receivedForm (synPacket 7 1400))),
    .receive ⟨⟨5000, 1⟩, resetPacket.rawData.getD [], fun _ => 0⟩ 101 clock, .fetch 0,
    .handle 0 (.ctrlPacket (receivedForm resetPacket))]

/-- The cleaner passes again 20 seconds later. -/
def opensAndResetsCleaned : List CoreEvent :=
  opensAndResets ++ [.clean fun _ => ⟨1700000020, 0⟩]

theorem opensAndResetsCleaned_lawful : ∀ event ∈ opensAndResetsCleaned,
    ∀ clock ∈ event.newClock, clock.Lawful := by
  have clockOf (event : CoreEvent) (member : event ∈ opensAndResetsCleaned) :
      ∀ clock ∈ event.newClock, clock = .stopped ⟨1700000000, 0⟩ := by
    simp only [opensAndResetsCleaned, opensAndResets, List.cons_append, List.nil_append,
      List.mem_cons, List.not_mem_nil, or_false] at member
    rcases member with rfl | rfl | rfl | rfl | rfl | rfl | rfl | rfl <;>
      simp [CoreEvent.newClock]
  intro event member clock isNew
  rw [clockOf event member clock isNew]
  exact Clock.stopped_lawful (by decide)

/-- The theorem holds of a run whose second pass frees the socket. -/
theorem calm_opensAndResets :
    Calm ((coreMachine PlainLists).after freshCore opensAndResets)
      (closedTimes freshCore opensAndResets) fun _ => ⟨1700000020, 0⟩ :=
  (calm_iff opensAndResetsCleaned_lawful (Machine.runWhere_of_check (by decide +kernel))).mpr
    (Machine.runWhere_of_check (by decide +kernel)) opensAndResets _ [] rfl

example : ((coreMachine PlainLists).after freshCore opensAndResetsCleaned).freed = [0] := by
  decide +kernel

/-- The cleaner frees a socket that did not handle its SYN yet. -/
theorem calm_fails :
    ¬ ∀ (backlog : Nat) (memory : SockId → CoreSock PlainLists) (events : List CoreEvent)
      (u_core : UMPCore PlainLists), (∀ event ∈ events, ∀ clock ∈ event.newClock, clock.Lawful) →
      (coreMachine PlainLists).RunWhere readsLater (umpCoreBind backlog memory) events u_core →
      ∀ earlier cur later, events = earlier ++ .clean cur :: later →
        Calm ((coreMachine PlainLists).after (umpCoreBind backlog memory) earlier)
          (closedTimes (umpCoreBind backlog memory) earlier) cur := by
  intro always
  have lawful : (Clock.stopped ⟨1698000000, 0⟩).Lawful := Clock.stopped_lawful (by decide)
  have run : (coreMachine PlainLists).RunWhere readsLater freshCore
      [.receive (synDatagram ⟨5000, 1⟩) 100 (.stopped ⟨1698000000, 0⟩),
        .clean fun _ => ⟨1698000000, 0⟩] _ :=
    Machine.runWhere_of_check (by decide +kernel)
  have calm := always _ _ _ _ (by simpa [CoreEvent.newClock] using lawful) run
    [.receive (synDatagram ⟨5000, 1⟩) 100 (.stopped ⟨1698000000, 0⟩)] _ [] rfl
  obtain ⟨t, closed, -⟩ := calm 0 (by decide +kernel) (by decide +kernel)
  have never : closedTimes freshCore
      [.receive (synDatagram ⟨5000, 1⟩) 100 (.stopped ⟨1698000000, 0⟩)] 0 = none := by
    decide +kernel
  exact absurd (closed.symm.trans never) (by simp)

end UserMessageProtocol
