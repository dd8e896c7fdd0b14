import Mathlib.Data.List.Basic

/-!
Contract: the packet structure of `upacket_private.h` and the flag accessors
of `upacket.c`.

Owns: the flag masks, `UMPPacket`, `u_packet_new`, and the get, set and clear
operations on flags and user data, with the laws that relate them.

Does not own: the byte format (`Packet.Codec`).
-/

set_option autoImplicit false

namespace UserMessageProtocol

/-- `UMPPacketType`. -/
inductive UMPPacketType where
  | control
  | data
deriving DecidableEq, Repr

/-- `UMPPacketDirection`. -/
inductive UMPPacketDirection where
  | incomming
  | outgoing
deriving DecidableEq, Repr

/-! ### Flag masks of `upacket_public.h` -/

def UMP_VER : UInt8 := 64
def UP_VER : UInt8 := 192
def UP_TYPE : UInt8 := 32
def UP_CTRL_SYN : UInt8 := 8
def UP_CTRL_FIN : UInt8 := 4
def UP_CTRL_RST : UInt8 := 2
def UP_CTRL_SEQ : UInt8 := 128
def UP_CTRL_ACK : UInt8 := 64
def UP_CTRL_MSS : UInt8 := 32
def UP_CTRL_WND : UInt8 := 16
def UP_CTRL_EXT : UInt8 := 7
def UP_DATA_REQWND : UInt8 := 16
def UP_DATA_BDR : UInt8 := 8
def UP_DATA_SEQ : UInt8 := 4
def UP_DATA_ACK : UInt8 := 2
def UP_DATA_WND : UInt8 := 1

/-- `struct _ump_packet`. `userData` stands for `user_data` with its length
(`NULL` and length zero are the empty list); `rawData` for `raw_data`, `none`
being `NULL`. -/
structure UMPPacket where
  changed : Bool
  pType : UMPPacketType
  direction : UMPPacketDirection
  ctrlFlags1 : UInt8
  ctrlFlags2 : UInt8
  dataFlags : UInt8
  checkSum : UInt16
  seqNum : UInt16
  ackNum : UInt16
  mssNum : UInt16
  wndNum : UInt16
  userData : List UInt8
  rawData : Option (List UInt8)
deriving DecidableEq, Repr

/-- `u_packet_new`: a zeroed structure with the version and type bits set. -/
def uPacketNew (pType : UMPPacketType) (direction : UMPPacketDirection) : UMPPacket where
  changed := false
  pType := pType
  direction := direction
  ctrlFlags1 := match pType with
    | .control => UMP_VER
    | .data => 0
  ctrlFlags2 := 0
  dataFlags := match pType with
    | .control => 0
    | .data => UMP_VER ||| UP_TYPE
  checkSum := 0
  seqNum := 0
  ackNum := 0
  mssNum := 0
  wndNum := 0
  userData := []
  rawData := none

/-- The test by which the accessors choose between the two control flag bytes. -/
def inFirstByte (mask : UInt8) : Bool := mask ≤ UP_CTRL_SYN && mask != UP_CTRL_EXT

@[simp] theorem inFirstByte_syn : inFirstByte UP_CTRL_SYN = true := rfl
@[simp] theorem inFirstByte_fin : inFirstByte UP_CTRL_FIN = true := rfl
@[simp] theorem inFirstByte_rst : inFirstByte UP_CTRL_RST = true := rfl
@[simp] theorem inFirstByte_seq : inFirstByte UP_CTRL_SEQ = false := rfl
@[simp] theorem inFirstByte_ack : inFirstByte UP_CTRL_ACK = false := rfl
@[simp] theorem inFirstByte_mss : inFirstByte UP_CTRL_MSS = false := rfl
@[simp] theorem inFirstByte_wnd : inFirstByte UP_CTRL_WND = false := rfl

/-- `u_packet_get_flag`. -/
def uPacketGetFlag (p : UMPPacket) (mask : UInt8) : Bool :=
  match p.pType with
  | .data => p.dataFlags &&& mask > 0
  | .control =>
      if inFirstByte mask then p.ctrlFlags1 &&& mask > 0 else p.ctrlFlags2 &&& mask > 0

/-- `u_packet_set_flag`. -/
def uPacketSetFlag (p : UMPPacket) (mask : UInt8) : UMPPacket :=
  match p.pType with
  | .data => { p with dataFlags := p.dataFlags ||| mask, changed := true }
  | .control =>
      if inFirstByte mask then { p with ctrlFlags1 := p.ctrlFlags1 ||| mask, changed := true }
      else { p with ctrlFlags2 := p.ctrlFlags2 ||| mask, changed := true }

/-- `u_packet_clear_flag`. -/
def uPacketClearFlag (p : UMPPacket) (mask : UInt8) : UMPPacket :=
  match p.pType with
  | .data => { p with dataFlags := p.dataFlags &&& (mask ^^^ 255), changed := true }
  | .control =>
      if inFirstByte mask then
        { p with ctrlFlags1 := p.ctrlFlags1 &&& (mask ^^^ 255), changed := true }
      else { p with ctrlFlags2 := p.ctrlFlags2 &&& (mask ^^^ 255), changed := true }

/-- `u_packet_set_data`: only an outgoing packet takes user data. -/
def uPacketSetData (p : UMPPacket) (userData : List UInt8) : UMPPacket :=
  match p.direction with
  | .outgoing => { p with userData := userData, changed := true }
  | .incomming => p

end UserMessageProtocol
