import UserMessageProtocol.Connection.Errors
import UserMessageProtocol.Sender.IndexSafety
import UserMessageProtocol.Socket.Elapsed
import UserMessageProtocol.Socket.Iteration
import UserMessageProtocol.Socket.Stamps

/-!
Contract: how long the socket thread sleeps.

Owns: what the handlers write through `sleep_ms` (`handlerSleep`), the time an iteration of
`ump_sock_thread_func` hands to `m_event_timed_wait` (`threadSleep`), and the theorem that
the thread never waits without a limit, and sleeps only when nothing is left to be sent
(`threadSleep_safe`).

Does not own: what the handlers do to the socket (Socket.Thread), or the wait itself
(Event.MEvent).
-/

set_option autoImplicit false

namespace UserMessageProtocol

/-! ### What the handlers write -/

/-- `ump_handle_wnd_notify`: a window that grows keeps the thread awake, a closed one lets
it wake up for the probe. -/
def wndNotifySleep (s : SocketCore) (u_p : UMPPacket) (sleepMs : Int) : Int :=
  if uPacketGetFlag u_p UP_DATA_WND then
    let snd := umpRefreshSndWndPos { s.snd with theirWnd := u_p.wndNum }
    let sleepMs := if snd.ourWndPos > s.snd.ourWndPos then 0 else sleepMs
    if u_p.wndNum = 0 then min sleepMs REQ_WND_DELAY else sleepMs
  else sleepMs

/-- `ump_handle_data_ack`. -/
def dataAckSleep (s : SocketCore) (u_p : UMPPacket) (sleepMs : Int) : Int :=
  if uPacketGetFlag u_p UP_DATA_ACK then
    let ackSeq := u_p.ackNum
    let counted := countRepeatedAck s.snd ackSeq
    let sleepMs := if counted.ackRepCount > 1 then 0 else sleepMs
    let snd := fastRetransmit counted
    if ackInRange snd ackSeq then
      let snd := if ackDiff snd ackSeq > 0 then advanceBase snd ackSeq else snd
      wndNotifySleep { s with snd := snd } u_p sleepMs
    else sleepMs
  else wndNotifySleep s u_p sleepMs

/-- `ump_handle_data_timeout`: the packets of a window that starts anew go out at once. -/
def dataTimeoutSleep (s : SocketCore) (sleepMs : Int) : Int :=
  if getNextTimeout s.snd.tmList s.now then
    if rtoGetRto s.snd.rtoCpt ≥ TIMEOUT_LIMIT then sleepMs else 0
  else sleepMs

/-- `ump_refresh_our_ack_info`. -/
def refreshAckSleep (s : SocketCore) (sleepMs : Int) : Int :=
  if s.ackInfo.pushAck then 0
  else if s.ackInfo.scheduleAck then
    let delay := umpTimeSub s.now s.ackInfo.lastAckT
    if delay < ACK_DELAY then min (glong (ACK_DELAY - delay)) sleepMs else 0
  else sleepMs

/-- `ump_act_req_wnd`. -/
def actReqWndSleep (s : SocketCore) (sleepMs : Int) : Int :=
  if s.snd.actReqWnd = false then sleepMs
  else
    let delay := umpTimeSub s.now s.snd.lastReqWndTime
    if delay ≥ REQ_WND_DELAY then min sleepMs REQ_WND_DELAY
    else min sleepMs (glong (REQ_WND_DELAY - delay))

/-- `ump_handle_ctrl_timeout`. -/
def ctrlTimeoutSleep (s : SocketCore) (sleepMs : Int) : Int :=
  if s.ctrl.ctrlPacketToSend = none then sleepMs
  else
    let sleepMs := min sleepMs s.ctrl.ctrlRto
    if s.ctrl.ctrlPacketSent = false then sleepMs
    else if umpTimeSub s.now s.ctrl.ctrlResendTime < 0 then sleepMs
    else if s.ctrl.ctrlRto < TIMEOUT_LIMIT then 0
    else sleepMs

/-- `ump_handle_send_heartbeat`. -/
def heartbeatSleep (s : SocketCore) (sleepMs : Int) : Int :=
  if s.ctrl.state ≠ .established then sleepMs
  else if umpTimeSub s.now s.lastHeartbeat > HEATTBEAT_INTERVAL then 0
  else sleepMs

/-- `ump_handle_send_data`: more may be sent in the window that is not used up. -/
def sendDataSleep (s : SocketCore) (sleepMs : Int) : Int :=
  match s.snd.sndLocked with
  | .unlocked => sleepMs
  | .locked => if s.snd.ourDataPos < s.snd.ourWndPos then 0 else sleepMs

section Handlers

variable {Lists : Type}

/-- The value of `sleep_ms` behind a handler. The handlers of user calls and of control
packets pass it on, `ump_refresh_our_rwnd_pos` does not get it. -/
def handlerSleep (u : UMPSocket Lists) (event : SockEvent) (sleepMs : Int) : Int :=
  match event with
  | .dataPacket p =>
      if u.core.ctrl.state = .connecting then sleepMs else dataAckSleep u.core p sleepMs
  | .dataTimeout => dataTimeoutSleep u.core sleepMs
  | .refreshAck => refreshAckSleep u.core sleepMs
  | .actReqWnd => actReqWndSleep u.core sleepMs
  | .ctrlTimeout => ctrlTimeoutSleep u.core sleepMs
  | .heartbeat => heartbeatSleep u.core sleepMs
  | .sendData => sendDataSleep u.core sleepMs
  | _ => sleepMs

/-- `ump_sock_fetch_received_packets`. -/
def fetchSleep (q : PacketQueues) (sleepMs : Int) : Int :=
  if q.recControlPackets ≠ [] ∨ q.recDataPackets ≠ [] then 0 else sleepMs

variable [ReceiveLists Lists]

/-- The value of `sleep_ms` behind the handlers of an iteration. -/
def umpSockThreadSleep (s : UMPSocket Lists) (q : PacketQueues) : Int :=
  let s := [.handleCtrl, .handleSend, .handleReceive].foldl sockStep s
  if s.core.ctrl.errorOccured then UMP_MAX_SLEEP_MS
  else
    -- up to here and for the control packets only the fetch writes the value
    let sleepMs := fetchSleep q UMP_MAX_SLEEP_MS
    let q := umpSockFetchReceivedPackets q
    let s := sockStep s (.bufferLoad q.recDataPackets.length)
    let s := (handleCtrlPackets s q.localCtrlPackets).1
    if s.core.ctrl.errorOccured then sleepMs
    else
      (sockMachine Lists).noted handlerSleep s
        (q.localDataPackets.map .dataPacket ++ timedEvents) sleepMs

/-- What an iteration passes to `m_event_timed_wait`. The thread reads the clock at its
start, in `tm_get_next_event` and at its end. -/
def threadSleep (s : UMPSocket Lists) (q : PacketQueues) (tStart tNext tEnd : GTimeVal) : Int :=
  let sleepMs := min (umpSockThreadSleep s q)
    (tmGetNextEvent (umpSockThreadFunc s q).1.core.snd.tmList tNext)
  let tDelta := umpTimeSub tEnd tStart
  if tDelta ≥ sleepMs then 0 else glong (sleepMs - tDelta)

/-- Two times less than twenty-four days apart, whose difference fits a `glong`. -/
structure Near (t1 t2 : GTimeVal) : Prop where
  unix1 : t1.Unix
  unix2 : t2.Unix
  low : -2147483648 ≤ elapsedMs t1 t2
  high : elapsedMs t1 t2 < 2147483648

theorem Near.sub {t1 t2 : GTimeVal} (near : Near t1 t2) : umpTimeSub t1 t2 = elapsedMs t1 t2 :=
  umpTimeSub_exact near.unix1 near.unix2 near.low near.high

/-- What is not too small wraps downwards only. -/
theorem glong_le_self {value : Int} (low : -2147483648 ≤ value) : glong value ≤ value := by
  obtain ⟨turns, wrapped⟩ := glong_turns value
  have range := glong_range value
  omega

/-- Nothing is left to be sent at once, and no ack is pushed. -/
structure AtRest (u : UMPSocket Lists) : Prop where
  sent : ∀ event ∈ [SockEvent.sendCtrlPacket, .sendData, .sendReset], sockStep u event = u
  unpushed : u.core.ackInfo.pushAck = false

/-- An iteration that handled all packets and left nothing to be sent. -/
structure LeavesNothing (u : UMPSocket Lists) (q : PacketQueues) : Prop where
  handled : q = ⟨[], [], [], []⟩
  rests : AtRest u

/-- The thread does not wait without a limit. It sleeps only when nothing is left to be done,
and no longer than to the next retransmission timer and to the ack that is scheduled, but for
the two milliseconds `ump_time_sub` rounds away. -/
structure SleepsSafely (s : UMPSocket Lists) (q : PacketQueues) (tNext tEnd : GTimeVal)
    (sleepMs : Int) : Prop where
  limit : 0 ≤ sleepMs ∧ sleepMs ≤ 200
  rests : 0 < sleepMs → RunsAllHandlers s q →
    LeavesNothing (umpSockThreadFunc s q).1 (umpSockThreadFunc s q).2
  timers : 0 < sleepMs → ∀ first ∈ (umpSockThreadFunc s q).1.core.snd.tmList.head?,
    Near first.fireTime tNext → tEnd.micros + 1000 * sleepMs < first.fireTime.micros + 2000
  acks : 0 < sleepMs → RunsAllHandlers s q →
    (umpSockThreadFunc s q).1.core.ackInfo.scheduleAck = true →
      Near s.core.now (umpSockThreadFunc s q).1.core.ackInfo.lastAckT →
        Near (umpSockThreadFunc s q).1.core.now (umpSockThreadFunc s q).1.core.ackInfo.lastAckT →
          tEnd.micros + 1000 * sleepMs <
            (umpSockThreadFunc s q).1.core.ackInfo.lastAckT.micros + 102000

/-! ### A handler only shortens the sleep -/

section Shorter

variable {sleepMs bound : Int}

theorem wndNotifySleep_le (s : SocketCore) (u_p : UMPPacket) (nonneg : 0 ≤ bound)
    (below : sleepMs ≤ bound) : wndNotifySleep s u_p sleepMs ≤ bound := by
  unfold wndNotifySleep
  dsimp only
  split_ifs <;> first | assumption | exact (min_le_left _ _).trans ‹_›

theorem dataAckSleep_le (s : SocketCore) (u_p : UMPPacket) (nonneg : 0 ≤ bound)
    (below : sleepMs ≤ bound) : dataAckSleep s u_p sleepMs ≤ bound := by
  unfold dataAckSleep
  dsimp only
  split
  · have shorter : (if (countRepeatedAck s.snd u_p.ackNum).ackRepCount > 1 then 0 else sleepMs) ≤
        bound := by
      split <;> assumption
    split
    · exact wndNotifySleep_le _ u_p nonneg shorter
    · exact shorter
  · exact wndNotifySleep_le s u_p nonneg below

omit [ReceiveLists Lists] in
theorem handlerSleep_le (u : UMPSocket Lists) (event : SockEvent) (nonneg : 0 ≤ bound)
    (below : sleepMs ≤ bound) : handlerSleep u event sleepMs ≤ bound := by
  have least (other : Int) : min sleepMs other ≤ bound := (min_le_left _ _).trans below
  cases event with
  | dataPacket p =>
      unfold handlerSleep
      dsimp only
      split
      · exact below
      · exact dataAckSleep_le u.core p nonneg below
  | dataTimeout =>
      show dataTimeoutSleep u.core sleepMs ≤ bound
      unfold dataTimeoutSleep
      split_ifs <;> assumption
  | refreshAck =>
      show refreshAckSleep u.core sleepMs ≤ bound
      unfold refreshAckSleep
      dsimp only
      split_ifs
      · exact nonneg
      · exact (min_le_right _ _).trans below
      · exact nonneg
      · exact below
  | actReqWnd =>
      show actReqWndSleep u.core sleepMs ≤ bound
      unfold actReqWndSleep
      dsimp only
      split_ifs
      · exact below
      · exact least _
      · exact least _
  | ctrlTimeout =>
      show ctrlTimeoutSleep u.core sleepMs ≤ bound
      unfold ctrlTimeoutSleep
      dsimp only
      split_ifs
      · exact below
      · exact least _
      · exact least _
      · exact nonneg
      · exact least _
  | heartbeat =>
      show heartbeatSleep u.core sleepMs ≤ bound
      unfold heartbeatSleep
      split_ifs <;> assumption
  | sendData =>
      show sendDataSleep u.core sleepMs ≤ bound
      unfold sendDataSleep
      split
      · exact below
      · split <;> assumption
  | _ => exact below

/-- What is left of the sleep behind some handlers. -/
theorem handlersSleep_le (u : UMPSocket Lists) (events : List SockEvent) (nonneg : 0 ≤ bound)
    (below : sleepMs ≤ bound) :
    (sockMachine Lists).noted handlerSleep u events sleepMs ≤ bound := by
  induction events generalizing u sleepMs with
  | nil => exact below
  | cons event rest inductionHypothesis =>
      exact inductionHypothesis _ (handlerSleep_le u event nonneg below)

/-- A thread that will sleep was about to sleep before, and not shorter. -/
theorem handlersSleep_pos {u : UMPSocket Lists} (events : List SockEvent)
    (sleeps : 0 < (sockMachine Lists).noted handlerSleep u events sleepMs) :
    0 < sleepMs ∧ (sockMachine Lists).noted handlerSleep u events sleepMs ≤ sleepMs := by
  have positive : 0 < sleepMs := by
    by_contra none
    exact absurd (handlersSleep_le u events (Int.le_refl 0) (not_lt.mp none)) (not_le.mpr sleeps)
  exact ⟨positive, handlersSleep_le u events positive.le (Int.le_refl _)⟩

end Shorter

/-! ### What a thread leaves that will sleep -/

section Left

variable {s : SocketCore} {sleepMs : Int}

theorem refreshAck_unpushed : (umpRefreshOurAckInfo s).ackInfo.pushAck = false := by
  unfold umpRefreshOurAckInfo
  dsimp only
  split
  · rfl
  · rename_i unpushed
    have unpushed := (Bool.not_eq_true _).mp unpushed
    split
    · split
      · exact unpushed
      · rfl
    · exact unpushed

/-- An ack that stays scheduled wakes the thread up. -/
theorem refreshAck_scheduled (sleeps : 0 < refreshAckSleep s sleepMs)
    (scheduled : (umpRefreshOurAckInfo s).ackInfo.scheduleAck = true) :
    refreshAckSleep s sleepMs ≤
      glong (ACK_DELAY - umpTimeSub s.now (umpRefreshOurAckInfo s).ackInfo.lastAckT) := by
  unfold refreshAckSleep at sleeps ⊢
  unfold umpRefreshOurAckInfo at scheduled ⊢
  dsimp only at sleeps scheduled ⊢
  by_cases pushed : s.ackInfo.pushAck = true
  · rw [if_pos pushed] at sleeps
    exact absurd sleeps (lt_irrefl 0)
  · rw [if_neg pushed] at sleeps scheduled ⊢
    by_cases waits : s.ackInfo.scheduleAck = true
    · rw [if_pos waits] at sleeps scheduled ⊢
      by_cases early : umpTimeSub s.now s.ackInfo.lastAckT < ACK_DELAY
      · rw [if_pos early]
        rw [if_neg pushed, if_pos waits, if_pos (by exact early)]
        exact min_le_left _ _
      · rw [if_neg early] at sleeps
        exact absurd sleeps (lt_irrefl 0)
    · rw [if_neg waits] at scheduled
      exact absurd scheduled waits

/-- The pending packet is on its way, and its ack with it. -/
theorem umpHandleSendCtrlPacket_sent :
    ((umpHandleSendCtrlPacket s).ctrl.ctrlPacketToSend = none ∨
      (umpHandleSendCtrlPacket s).ctrl.ctrlPacketSent = true) ∧
    (umpHandleSendCtrlPacket s).ackInfo = { s.ackInfo with ctrlAckSet := false } := by
  have alone : (sendCtrlAckAlone s).ctrl = s.ctrl ∧
      (sendCtrlAckAlone s).ackInfo = { s.ackInfo with ctrlAckSet := false } := by
    unfold sendCtrlAckAlone
    split
    · exact ⟨rfl, rfl⟩
    · rename_i unset
      refine ⟨rfl, ?_⟩
      rw [← (Bool.not_eq_true _).mp unset]
  unfold umpHandleSendCtrlPacket
  split
  · split
    · exact ⟨.inr rfl, rfl⟩
    · rename_i sent
      refine ⟨.inr ?_, alone.2⟩
      rw [alone.1]
      exact (Bool.not_eq_false _).mp sent
  · rename_i none
    refine ⟨.inl ?_, alone.2⟩
    rw [alone.1]
    exact none

theorem heartbeat_same (sleeps : 0 < heartbeatSleep s sleepMs) :
    (umpHandleSendHeartbeat s).ackInfo = s.ackInfo := by
  unfold heartbeatSleep at sleeps
  unfold umpHandleSendHeartbeat
  by_cases other : s.ctrl.state ≠ .established
  · rw [if_pos other]
  · rw [if_neg other] at sleeps ⊢
    by_cases late : umpTimeSub s.now s.lastHeartbeat > HEATTBEAT_INTERVAL
    · rw [if_pos late] at sleeps
      exact absurd sleeps (lt_irrefl 0)
    · dsimp only
      rw [if_neg (by exact late)]
      rfl

/-- The window is used up, and the ack has gone out. -/
theorem sendData_exhausted (sleeps : 0 < sendDataSleep s sleepMs) :
    0 < sleepMs ∧ umpHandleSendData s = sendAckAlone s ∧
      (s.snd.sndLocked = .locked → ¬ s.snd.ourDataPos < s.snd.ourWndPos) := by
  unfold sendDataSleep at sleeps
  unfold umpHandleSendData umpSndlockedHandleSendData
  cases locked : s.snd.sndLocked with
  | unlocked =>
      rw [locked] at sleeps
      exact ⟨sleeps, rfl, fun other => by cases other⟩
  | locked =>
      rw [locked] at sleeps
      dsimp only at sleeps ⊢
      split_ifs at sleeps ⊢ with more
      · exact absurd sleeps (lt_irrefl 0)
      · exact ⟨sleeps, rfl, fun _ => more⟩

theorem sendAckAlone_ackInfo :
    (sendAckAlone s).ackInfo = { s.ackInfo with dataAckSet := false } := by
  unfold sendAckAlone
  split
  · rfl
  · rename_i unset
    rw [← (Bool.not_eq_true _).mp unset]

end Left

/-- The fields that say that nothing is left to be sent. -/
structure Settled (s : SocketCore) : Prop where
  ctrl : s.ctrl.ctrlPacketToSend = none ∨ s.ctrl.ctrlPacketSent = true
  ctrlAck : s.ackInfo.ctrlAckSet = false
  dataAck : s.ackInfo.dataAckSet = false
  pushed : s.ackInfo.pushAck = false
  window : s.snd.sndLocked = .locked → ¬ s.snd.ourDataPos < s.snd.ourWndPos
  reset : s.ctrl.sendResetPacket = false

theorem Settled.atRest {u : UMPSocket Lists} (settled : Settled u.core) : AtRest u := by
  have ctrlAlone : sendCtrlAckAlone u.core = u.core := by
    unfold sendCtrlAckAlone
    rw [settled.ctrlAck]
    rfl
  have ackAlone : sendAckAlone u.core = u.core := by
    unfold sendAckAlone
    rw [settled.dataAck]
    rfl
  have ctrl : umpHandleSendCtrlPacket u.core = u.core := by
    unfold umpHandleSendCtrlPacket
    rcases settled.ctrl with none | sent
    · rw [none]
      exact ctrlAlone
    · rw [sent]
      cases u.core.ctrl.ctrlPacketToSend <;> exact ctrlAlone
  have data : umpHandleSendData u.core = u.core := by
    unfold umpHandleSendData umpSndlockedHandleSendData
    cases locked : u.core.snd.sndLocked with
    | unlocked => exact ackAlone
    | locked =>
        dsimp only
        rw [if_neg (settled.window locked)]
        exact ackAlone
  have reset : umpHandleSendResetPacket u.core = u.core := by
    unfold umpHandleSendResetPacket
    rw [settled.reset]
    rfl
  refine ⟨?_, settled.pushed⟩
  intro event member
  simp only [List.mem_cons, List.not_mem_nil, or_false] at member
  rcases member with rfl | rfl | rfl
  · exact congrArg (fun core => { u with core := core }) ctrl
  · exact congrArg (fun core => { u with core := core }) data
  · exact congrArg (fun core => { u with core := core }) reset

theorem umpHandleSendResetPacket_reset (s : SocketCore) :
    (umpHandleSendResetPacket s).ackInfo = s.ackInfo ∧ (umpHandleSendResetPacket s).snd = s.snd ∧
      (umpHandleSendResetPacket s).ctrl = { s.ctrl with sendResetPacket := false } := by
  unfold umpHandleSendResetPacket
  split
  · exact ⟨rfl, rfl, rfl⟩
  · rename_i unset
    refine ⟨rfl, rfl, ?_⟩
    rw [← (Bool.not_eq_true _).mp unset]

/-- The handlers that send settle everything, or keep the thread awake. -/
theorem sendingHandlers_settled {s : SocketCore} {sleepMs : Int}
    (unpushed : s.ackInfo.pushAck = false)
    (sleeps : 0 < sendDataSleep (umpHandleSendHeartbeat (umpHandleSendCtrlPacket s))
      (heartbeatSleep (umpHandleSendCtrlPacket s) sleepMs)) :
    Settled (umpHandleSendResetPacket (umpHandleSendData
      (umpHandleSendHeartbeat (umpHandleSendCtrlPacket s)))) ∧
    (umpHandleSendResetPacket (umpHandleSendData
      (umpHandleSendHeartbeat (umpHandleSendCtrlPacket s)))).ackInfo =
      { s.ackInfo with ctrlAckSet := false, dataAckSet := false } := by
  obtain ⟨pending, acked⟩ := umpHandleSendCtrlPacket_sent (s := s)
  generalize umpHandleSendCtrlPacket s = sent at sleeps pending acked ⊢
  obtain ⟨awake, alone, window⟩ := sendData_exhausted sleeps
  obtain ⟨resetAck, resetSnd, resetCtrl⟩ :=
    umpHandleSendResetPacket_reset (sendAckAlone (umpHandleSendHeartbeat sent))
  rw [sendAckAlone_ackInfo, heartbeat_same awake, acked] at resetAck
  rw [sendAckAlone_snd] at resetSnd
  rw [sendAckAlone_ctrl, umpHandleSendHeartbeat_ctrl] at resetCtrl
  rw [alone]
  refine ⟨⟨?_, ?_, ?_, ?_, ?_, ?_⟩, resetAck⟩
  · rw [resetCtrl]
    exact pending
  · rw [resetAck]
  · rw [resetAck]
  · rw [resetAck]
    exact unpushed
  · rw [resetSnd]
    exact window
  · rw [resetCtrl]

section Timed

variable {u : UMPSocket Lists} {sleepMs : Int}

theorem timedEvents_settled
    (sleeps : 0 < (sockMachine Lists).noted handlerSleep u timedEvents sleepMs) :
    Settled ((sockMachine Lists).after u timedEvents).core ∧
      ((sockMachine Lists).after u timedEvents).core.ackInfo =
        { (umpRefreshOurAckInfo ((sockMachine Lists).after u
            [.dataTimeout, .refreshRwnd]).core).ackInfo with
          ctrlAckSet := false
          dataAckSet := false } := by
  -- between the refresh and the handlers that send nothing touches the acks
  have same : (umpHandleCtrlTimeout (umpActReqWnd (umpRefreshOurAckInfo
      ((sockMachine Lists).after u [.dataTimeout, .refreshRwnd]).core))).ackInfo =
      (umpRefreshOurAckInfo ((sockMachine Lists).after u
        [.dataTimeout, .refreshRwnd]).core).ackInfo := by
    rw [umpHandleCtrlTimeout_ackInfo, umpActReqWnd_ackInfo]
  have settled := sendingHandlers_settled ((congrArg UMPAckInfo.pushAck same).trans
    refreshAck_unpushed) sleeps
  rw [same] at settled
  exact settled

/-- A sleep that follows is no longer than what is left of the delay of the ack. -/
theorem timedEvents_ack
    (sleeps : 0 < (sockMachine Lists).noted handlerSleep u timedEvents sleepMs)
    (scheduled : ((sockMachine Lists).after u timedEvents).core.ackInfo.scheduleAck = true) :
    (sockMachine Lists).noted handlerSleep u timedEvents sleepMs ≤ glong (ACK_DELAY -
      umpTimeSub ((sockMachine Lists).after u [.dataTimeout, .refreshRwnd]).core.now
        ((sockMachine Lists).after u timedEvents).core.ackInfo.lastAckT) := by
  rw [(timedEvents_settled sleeps).2] at scheduled ⊢
  obtain ⟨positive, shorter⟩ := handlersSleep_pos
    (u := (sockMachine Lists).after u [.dataTimeout, .refreshRwnd, .refreshAck])
    [.actReqWnd, .ctrlTimeout, .sendCtrlPacket, .heartbeat, .sendData, .sendReset] sleeps
  exact shorter.trans (refreshAck_scheduled positive scheduled)

end Timed

/-! ### The sleep of an iteration -/

/-- Without an error every control packet was handled. -/
theorem handleCtrlPackets_all {s : UMPSocket Lists} {packets : List UMPPacket}
    (noError : (handleCtrlPackets s packets).1.core.ctrl.errorOccured = false) :
    (handleCtrlPackets s packets).2 = [] := by
  induction packets generalizing s with
  | nil => rfl
  | cons p rest inductionHypothesis =>
      unfold handleCtrlPackets at noError ⊢
      dsimp only at noError ⊢
      by_cases reset : uPacketGetFlag p UP_CTRL_RST
      · rw [if_pos reset] at noError
        have failed : (sockStep s (.ctrlPacket p)).core.ctrl.errorOccured = true := by
          show (umpHandleCtrlPacket s.core p).ctrl.errorOccured = true
          unfold umpHandleCtrlPacket
          rw [if_pos reset]
          exact umpConnectionErrorOccured_down.failed
        exact absurd (failed.symm.trans noError) (by decide)
      · rw [if_neg reset] at noError ⊢
        exact inductionHypothesis noError

section Thread

variable {s : UMPSocket Lists} {q : PacketQueues}

theorem fetched_after : (handleCtrlPackets (sockStep
    ([SockEvent.handleCtrl, .handleSend, .handleReceive].foldl sockStep s)
    (.bufferLoad (umpSockFetchReceivedPackets q).recDataPackets.length))
    (umpSockFetchReceivedPackets q).localCtrlPackets).1 =
      (sockMachine Lists).after s (fetchedEvents (umpSockFetchReceivedPackets q)) := by
  rw [handleCtrlPackets_after]
  unfold fetchedEvents
  rw [after_append]
  rfl

/-- The sleep behind an iteration that runs all handlers. -/
theorem umpSockThreadSleep_all (all : RunsAllHandlers s q) :
    umpSockThreadSleep s q = (sockMachine Lists).noted handlerSleep
      ((sockMachine Lists).after s (packetEvents (umpSockFetchReceivedPackets q))) timedEvents
      ((sockMachine Lists).noted handlerSleep
        ((sockMachine Lists).after s (fetchedEvents (umpSockFetchReceivedPackets q)))
        ((umpSockFetchReceivedPackets q).localDataPackets.map .dataPacket)
        (fetchSleep q UMP_MAX_SLEEP_MS)) := by
  have called : ([SockEvent.handleCtrl, .handleSend, .handleReceive].foldl sockStep
      s).core.ctrl.errorOccured = false := all.called
  unfold umpSockThreadSleep packetEvents
  dsimp only
  rw [fetched_after, called, all.fetched, Machine.noted_append, after_append]
  rfl

/-- The queues behind it. -/
theorem umpSockThreadFunc_queues (all : RunsAllHandlers s q) : (umpSockThreadFunc s q).2 =
    { umpSockFetchReceivedPackets q with localCtrlPackets := [], localDataPackets := [] } := by
  have called : ([SockEvent.handleCtrl, .handleSend, .handleReceive].foldl sockStep
      s).core.ctrl.errorOccured = false := all.called
  have fetched := all.fetched
  rw [← fetched_after] at fetched
  have handled := handleCtrlPackets_all fetched
  unfold umpSockThreadFunc
  dsimp only
  rw [called, fetched, handled]
  rfl

theorem umpSockThreadFunc_timed (all : RunsAllHandlers s q) : (umpSockThreadFunc s q).1 =
    (sockMachine Lists).after
      ((sockMachine Lists).after s (packetEvents (umpSockFetchReceivedPackets q))) timedEvents := by
  rw [umpSockThreadFunc_after, iterationEvents_all all, after_append]

theorem umpSockThreadSleep_le (s : UMPSocket Lists) (q : PacketQueues) :
    umpSockThreadSleep s q ≤ 200 := by
  have fetched : fetchSleep q UMP_MAX_SLEEP_MS ≤ 200 := by
    unfold fetchSleep
    split <;> decide
  unfold umpSockThreadSleep
  dsimp only
  split
  · decide
  · split
    · exact fetched
    · exact handlersSleep_le _ _ (by decide) fetched

/-- An iteration that leads to a sleep found the queues empty and handled all it had. -/
theorem umpSockThreadFunc_rests (all : RunsAllHandlers s q) (sleeps : 0 < umpSockThreadSleep s q) :
    LeavesNothing (umpSockThreadFunc s q).1 (umpSockThreadFunc s q).2 := by
  rw [umpSockThreadSleep_all all] at sleeps
  have empty : q.recControlPackets = [] ∧ q.recDataPackets = [] := by
    by_contra some
    have awake := (handlersSleep_pos _ (handlersSleep_pos _ sleeps).1).1
    unfold fetchSleep at awake
    rw [if_pos (not_and_or.mp some)] at awake
    exact absurd awake (lt_irrefl 0)
  have fetched : umpSockFetchReceivedPackets q = { q with
      localCtrlPackets := (umpSockFetchReceivedPackets q).localCtrlPackets
      localDataPackets := (umpSockFetchReceivedPackets q).localDataPackets } := by
    unfold umpSockFetchReceivedPackets
    rw [empty.1]
    cases q.localCtrlPackets <;> simp [empty.1, empty.2]
  refine ⟨?_, ?_⟩
  · rw [umpSockThreadFunc_queues all, fetched, empty.1, empty.2]
  · rw [umpSockThreadFunc_timed all]
    exact (timedEvents_settled sleeps).1.atRest

/-- No handlers take the clock back. -/
theorem after_onward {clock : Clock} (lawful : clock.Lawful) {u : UMPSocket Lists}
    (same : u.core.clock.readings = clock.readings) (events : List SockEvent) :
    ((sockMachine Lists).after u events).core.clock.readings = clock.readings ∧
      u.core.now.micros ≤ ((sockMachine Lists).after u events).core.now.micros := by
  induction events generalizing u with
  | nil => exact ⟨same, Int.le_refl _⟩
  | cons event rest inductionHypothesis =>
      obtain ⟨kept, onward⟩ := sockStep_onward lawful same event
      obtain ⟨still, further⟩ := inductionHypothesis kept
      exact ⟨still, onward.trans further⟩

/-- The delay of a scheduled ack is over when the sleep and the time since the iteration began
are. -/
theorem umpSockThreadSleep_ack (lawful : s.core.clock.Lawful) (all : RunsAllHandlers s q)
    (sleeps : 0 < umpSockThreadSleep s q)
    (scheduled : (umpSockThreadFunc s q).1.core.ackInfo.scheduleAck = true)
    (near : Near s.core.now (umpSockThreadFunc s q).1.core.ackInfo.lastAckT)
    (near' : Near (umpSockThreadFunc s q).1.core.now
      (umpSockThreadFunc s q).1.core.ackInfo.lastAckT) :
    s.core.now.micros + 1000 * umpSockThreadSleep s q <
      (umpSockThreadFunc s q).1.core.ackInfo.lastAckT.micros + 101000 := by
  rw [umpSockThreadFunc_timed all] at scheduled near near' ⊢
  rw [umpSockThreadSleep_all all] at sleeps ⊢
  have before := after_onward lawful rfl (packetEvents (umpSockFetchReceivedPackets q))
  generalize (sockMachine Lists).after s (packetEvents (umpSockFetchReceivedPackets q)) = u
    at scheduled near near' sleeps before ⊢
  have reading := after_onward lawful before.1 [.dataTimeout, .refreshRwnd]
  have behind := after_onward lawful reading.1 [.refreshAck, .actReqWnd, .ctrlTimeout,
    .sendCtrlPacket, .heartbeat, .sendData, .sendReset]
  have delay := timedEvents_ack sleeps scheduled
  have unix (v : UMPSocket Lists) (same : v.core.clock.readings = s.core.clock.readings) :
      v.core.now.Unix := by
    rw [now_eq same]
    exact lawful.unix _
  generalize ackTime : ((sockMachine Lists).after u timedEvents).core.ackInfo.lastAckT = lastAckT
    at delay near near' ⊢
  -- the delay is taken from a reading between the first and the last of the iteration
  have order := before.2.trans reading.2
  have low := near.low
  have high := near'.high
  have last : elapsedMs _ lastAckT ≤ elapsedMs _ lastAckT :=
    elapsedMs_mono (unix _ reading.1) near'.unix1 behind.2
  generalize (sockMachine Lists).after u [.dataTimeout, .refreshRwnd] = v
    at delay reading last order
  have first : elapsedMs s.core.now lastAckT ≤ elapsedMs v.core.now lastAckT :=
    elapsedMs_mono near.unix1 (unix v reading.1) order
  have elapsed : umpTimeSub v.core.now lastAckT = elapsedMs v.core.now lastAckT :=
    umpTimeSub_exact (unix v reading.1) near.unix2 (low.trans first) (last.trans_lt high)
  have rounding := (elapsedMs_bounds v.core.now lastAckT).2
  have wrapped : glong (ACK_DELAY - elapsedMs v.core.now lastAckT) ≤
      ACK_DELAY - elapsedMs v.core.now lastAckT := glong_le_self (by unfold ACK_DELAY; omega)
  rw [elapsed] at delay
  unfold ACK_DELAY at delay wrapped
  omega

end Thread

/-- In every iteration from any state, with any packets in the queues, the wait at the end
has a limit, ends before the next retransmission timer and the scheduled ack, and starts only
when nothing is left to be sent. -/
theorem threadSleep_safe {s : UMPSocket Lists} {q : PacketQueues} {tStart tNext tEnd : GTimeVal}
    (lawful : s.core.clock.Lawful) (begins : tStart.micros ≤ s.core.now.micros)
    (next : tStart.micros ≤ tNext.micros) (ends : tStart.micros ≤ tEnd.micros)
    (near : Near tEnd tStart) :
    SleepsSafely s q tNext tEnd (threadSleep s q tStart tNext tEnd) := by
  have nonneg : 0 ≤ umpTimeSub tEnd tStart := by
    rw [near.sub]
    exact elapsedMs_nonneg near.unix1 near.unix2 ends
  have spent : tEnd.micros - tStart.micros < 1000 * umpTimeSub tEnd tStart + 1000 := by
    rw [near.sub]
    exact (elapsedMs_bounds tEnd tStart).2
  have top := umpSockThreadSleep_le s q
  have sleep : threadSleep s q tStart tNext tEnd = max 0 (min (umpSockThreadSleep s q)
      (tmGetNextEvent (umpSockThreadFunc s q).1.core.snd.tmList tNext) -
        umpTimeSub tEnd tStart) := by
    unfold threadSleep
    dsimp only
    split
    · omega
    · rw [glong_eq (by omega) (by omega)]
      omega
  generalize threadSleep s q tStart tNext tEnd = sleepMs at sleep ⊢
  refine ⟨⟨by omega, by omega⟩, ?_, ?_, ?_⟩
  · intro sleeps all
    exact umpSockThreadFunc_rests all (by omega)
  · intro sleeps first member fire
    have head : tmGetNextEvent (umpSockThreadFunc s q).1.core.snd.tmList tNext =
        max (umpTimeSub first.fireTime tNext) 0 := by
      obtain ⟨rest, list⟩ := List.head?_eq_some_iff.mp member
      rw [list]
      rfl
    have rounding := (elapsedMs_bounds first.fireTime tNext).1
    rw [fire.sub] at head
    omega
  · intro sleeps all scheduled last last'
    have acked := umpSockThreadSleep_ack lawful all (by omega) scheduled last last'
    omega

end Handlers

/-! ### A thread that waits for two timers -/

/-- A data packet without data. -/
def numberedPacket (seq : UInt16) : UMPPacket :=
  receivedForm { uPacketSetFlag (uPacketNew .data .outgoing) UP_DATA_SEQ with seqNum := seq }

/-- A packet is on its way, one was acknowledged, and the ack of another is scheduled. -/
def drowsyEvents : List SockEvent :=
  passiveOpen 7 100 ++ [.userSend [1], .handleSend, .sendData, .dataPacket (numberedPacket 7)] ++
    timedEvents ++ [.dataPacket (numberedPacket 8)]

def drowsySocket : UMPSocket PlainLists :=
  (sockMachine PlainLists).after (umpSockNew PlainLists 100 (.stopped ⟨1, 0⟩)) drowsyEvents

/-- It sleeps until the ack is due. -/
theorem threadSleep_safe_drowsySocket :
    threadSleep drowsySocket ⟨[], [], [], []⟩ ⟨1, 0⟩ ⟨1, 0⟩ ⟨1, 7000⟩ = 93 ∧
      RunsAllHandlers drowsySocket ⟨[], [], [], []⟩ ∧
        SleepsSafely drowsySocket ⟨[], [], [], []⟩ ⟨1, 0⟩ ⟨1, 7000⟩
          (threadSleep drowsySocket ⟨[], [], [], []⟩ ⟨1, 0⟩ ⟨1, 0⟩ ⟨1, 7000⟩) := by
  have stopped : (Clock.stopped ⟨1, 0⟩).Lawful := Clock.stopped_lawful (by decide)
  have same : drowsySocket.core.clock.readings = (Clock.stopped ⟨1, 0⟩).readings :=
    (after_onward stopped rfl drowsyEvents).1
  have lawful : drowsySocket.core.clock.Lawful := by
    refine ⟨?_, ?_⟩
    · rw [same]
      exact stopped.unix
    · rw [same]
      exact stopped.forward
  have begins : (⟨1, 0⟩ : GTimeVal).micros ≤ drowsySocket.core.now.micros := by
    rw [now_eq same]
    exact Int.le_refl _
  exact ⟨by decide +kernel, by decide +kernel, threadSleep_safe lawful begins (by decide)
    (by decide) ⟨by decide, by decide, by decide, by decide⟩⟩

end UserMessageProtocol
