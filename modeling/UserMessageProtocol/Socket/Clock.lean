import UserMessageProtocol.Foundation.Rounding

/-!
Contract: the clock, `timer_list.c`, `rtocomputer.c` and the time arithmetic of
`ump_misc.c`.

Owns: `GTimeVal` with the 32-bit `glong` arithmetic of the required platform,
the sequence of clock readings a socket thread makes, the list of retransmission
timers and the RTO computer.

Does not own: when timers are set or acknowledged (`Socket.Sender`), or the rounding of a
`double` (`Foundation.Rounding`).
-/

set_option autoImplicit false

namespace UserMessageProtocol

/-! ### Time values -/

/-- A `glong` of 32 bits. -/
def glong (value : Int) : Int := value.bmod 4294967296

structure GTimeVal where
  tvSec : Int
  tvUsec : Int
deriving DecidableEq, Repr

def G_USEC_PER_SEC : Int := 1000000

/-- `ump_time_sub`, in milliseconds. -/
def umpTimeSub (t1 t2 : GTimeVal) : Int :=
  let ms := glong (glong (t1.tvSec - t2.tvSec) * 1000)
  glong (ms + (glong (t1.tvUsec - t2.tvUsec)).tdiv 1000)

/-- `g_time_val_add`. -/
def gTimeValAdd (time : GTimeVal) (microseconds : Int) : GTimeVal :=
  if 0 ≤ microseconds then
    let usec := time.tvUsec + microseconds % G_USEC_PER_SEC
    let sec := time.tvSec + microseconds / G_USEC_PER_SEC
    if usec ≥ G_USEC_PER_SEC then ⟨glong (sec + 1), usec - G_USEC_PER_SEC⟩
    else ⟨glong sec, usec⟩
  else
    let usec := time.tvUsec - -microseconds % G_USEC_PER_SEC
    let sec := time.tvSec - -microseconds / G_USEC_PER_SEC
    if usec < 0 then ⟨glong (sec - 1), usec + G_USEC_PER_SEC⟩
    else ⟨glong sec, usec⟩

/-- What `g_get_current_time` returns, reading after reading, and how many
readings were made. -/
structure Clock where
  readings : Nat → GTimeVal
  ticks : Nat

/-- The value of the next reading. -/
def Clock.now (clock : Clock) : GTimeVal := clock.readings clock.ticks

/-- The clock behind that reading. -/
def Clock.tick (clock : Clock) : Clock := { clock with ticks := clock.ticks + 1 }

/-! ### Retransmission timers -/

structure TmEntry where
  seq : UInt16
  regTime : GTimeVal
  fireTime : GTimeVal
deriving DecidableEq, Repr

/-- `tm_register_packet`; `now` is its clock reading. -/
def tmRegisterPacket (tl : List TmEntry) (seq : UInt16) (rto : Int) (now : GTimeVal) :
    List TmEntry :=
  tl ++ [⟨seq, now, gTimeValAdd now (glong (1000 * rto))⟩]

/-- The range test of `tm_ack_packet` on a list whose first entry is `first`. -/
def tmAckInRange (first seq upperBoundSeq : UInt16) : Bool :=
  let seq1 := first + 1
  let seq2 := upperBoundSeq + 1
  if seq1 > seq2 then !(seq < seq1 && seq > seq2) else !(seq < seq1 || seq > seq2)

/-- The loop of `tm_ack_packet`: entries are dropped from the front up to the one
the ack is for. -/
def tmAckLoop (seq : UInt16) : List TmEntry → Option TmEntry × List TmEntry
  | [] => (none, [])
  | entry :: rest => if seq = entry.seq + 1 then (some entry, rest) else tmAckLoop seq rest

/-- `tm_ack_packet`: the entry acknowledged, from which the round trip time is
taken, and the remaining list. -/
def tmAckPacket (tl : List TmEntry) (seq upperBoundSeq : UInt16) :
    Option TmEntry × List TmEntry :=
  match tl with
  | [] => (none, [])
  | first :: _ =>
      if tmAckInRange first.seq seq upperBoundSeq then tmAckLoop seq tl else (none, tl)

/-- `get_next_timeout`: whether the first entry fired, in which case the list is
emptied. A reading is only made for a list that is not empty. -/
def getNextTimeout (tl : List TmEntry) (now : GTimeVal) : Bool :=
  match tl with
  | [] => false
  | first :: _ => !(umpTimeSub first.fireTime now > 0)

def UMP_MAX_SLEEP_MS : Int := 200

/-- `tm_get_next_event`: the milliseconds until the first entry fires. -/
def tmGetNextEvent (tl : List TmEntry) (now : GTimeVal) : Int :=
  match tl with
  | [] => UMP_MAX_SLEEP_MS
  | first :: _ => max (umpTimeSub first.fireTime now) 0

/-! ### RTO computer -/

/-- A `double`: each result of its arithmetic is rounded. -/
abbrev Double : Type := FloatFormat.binary64.Number

structure RTOComputer where
  g : Double
  h : Double
  a : Double
  d : Double
  rto : Double
deriving DecidableEq, Repr

/-- `rto_computer_new`. -/
def rtoComputerNew : RTOComputer where
  g := ⟨1 / 8, 1, -3, by decide, by decide, by norm_num⟩
  h := ⟨1 / 4, 1, -2, by decide, by decide, by norm_num⟩
  a := ⟨0, 0, 0, by decide, by decide, by norm_num⟩
  d := ⟨3000, 3000, 0, by decide, by decide, by norm_num⟩
  rto := ⟨6000, 6000, 0, by decide, by decide, by norm_num⟩

/-- `rto_refresh_rtt`. -/
def rtoRefreshRtt (cpt : RTOComputer) (rtt : Int) : RTOComputer :=
  let m : Double := rtt
  let err := m - cpt.a
  let a := cpt.a + cpt.g * err
  let d := cpt.d + cpt.h * ((if err < 0 then -err else err) - cpt.d)
  { cpt with a := a, d := d, rto := if a + 4 * d > 16 then a + 4 * d else 16 }

/-- `rto_timeout_occur`. -/
def rtoTimeoutOccur (cpt : RTOComputer) : RTOComputer :=
  { cpt with rto := if cpt.rto * 2 < 90000 then cpt.rto * 2 else 90000 }

/-- The conversion `(glong)` of a `double` drops the fraction. -/
def truncate (x : Double) : Int := glong (x.value.num.tdiv x.value.den)

/-- `rto_get_rto`. -/
def rtoGetRto (cpt : RTOComputer) : Int := truncate cpt.rto

/-- `rto_get_estimated_rtt`. -/
def rtoGetEstimatedRtt (cpt : RTOComputer) : Int := truncate cpt.a

end UserMessageProtocol
