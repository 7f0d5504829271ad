import Mathlib.Data.List.Basic

/-!
# The NABU wire protocol: constants, CRC and byte helpers

`adaptor.c` and `conn.c` include `libnabud/nabu_proto.h` and `libnabud/crc16_genibus.h`, and
neither header is among the sources.  Everything the two C files take from them is collected
here, with the values the spec gives:

* the opcodes of the six classic messages, `NABU_MSG_IS_CLASSIC` and `HANDLER_INDEX`'s base;
* the handshake bytes and sequences (`NABU_MSGSEQ_ACK`, `NABU_MSGSEQ_FINISHED`, the state,
  service and signal bytes) and the escape sentinel, which is the first byte of both sequences;
* the packet sizes, and the number of the synthetic time image;
* CRC-16/GENIBUS and `nabu_set_crc`, which writes it big-endian;
* `nabu_get_uint24` and `nabu_get_uint16`, little-endian as the spec's byte scenarios have them;
* the layout of `struct nabu_time`.

`nabu_init_pkthdr` is the one helper whose bytes the spec does not pin down (its field list adds
up to fourteen bytes of a sixteen-byte header), so it is not defined here: a `PktHdr` is sixteen
bytes, and the function that builds one is a parameter of the model (`Env.initPkthdr`).
-/

set_option autoImplicit false

namespace Nabud

/-! ## Constants -/

/-- Modelled from the spec: `NABU_MSG_ESCAPE`, the first byte of `ACK` and `FINISHED`. -/
def nabuMsgEscape : UInt8 := 0x10

/-- Modelled from the spec: `NABU_MSGSEQ_ACK`, the array `nabu_msg_ack` of `adaptor.c`. -/
def nabuMsgAck : List UInt8 := [0x10, 0x06]

/-- Modelled from the spec: `NABU_MSGSEQ_FINISHED`, the array `nabu_msg_finished`. -/
def nabuMsgFinished : List UInt8 := [nabuMsgEscape, 0xE1]

/-- Modelled from the spec: `NABU_STATE_CONFIRMED`. -/
def nabuStateConfirmed : UInt8 := 0xE4

/-- Modelled from the spec: `NABU_SERVICE_AUTHORIZED`. -/
def nabuServiceAuthorized : UInt8 := 0x1F

/-- Modelled from the spec: `NABU_SERVICE_UNAUTHORIZED`. -/
def nabuServiceUnauthorized : UInt8 := 0x10

/-- Modelled from the spec: `NABU_SIGNAL_STATUS_YES`. -/
def nabuSignalStatusYes : UInt8 := 0x1F

/-- Modelled from the spec: `NABU_SIGNAL_STATUS_NO`. -/
def nabuSignalStatusNo : UInt8 := 0x10

/-- Modelled from the spec: `NABU_STATUS_SIGNAL`. -/
def nabuStatusSignal : UInt8 := 0x01

/-- Modelled from the spec: `NABU_STATUS_TRANSMIT`. -/
def nabuStatusTransmit : UInt8 := 0x1E

/-- Modelled from the spec: `NABU_MAXPAYLOADSIZE`. -/
def nabuMaxPayloadSize : Nat := 991

/-- Modelled from the spec: `NABU_HEADERSIZE`. -/
def nabuHeaderSize : Nat := 16

/-- Modelled from the spec: `NABU_FOOTERSIZE`. -/
def nabuFooterSize : Nat := 2

/-- Modelled from the spec: `NABU_TOTALPAYLOADSIZE`, a payload with its header and footer. -/
def nabuTotalPayloadSize : Nat := nabuHeaderSize + nabuMaxPayloadSize + nabuFooterSize

/-- Modelled from the spec: `NABU_MAXPACKETSIZE`. -/
def nabuMaxPacketSize : Nat := nabuTotalPayloadSize

/-- Modelled from the spec: `NABU_IMAGE_TIME`, the image number of the time packet. -/
def nabuImageTime : UInt32 := 0x7FFFFF

/-! ## Classic messages

The spec's scenarios fix `RESET = 0x80`, `GET_STATUS = 0x83`, `PACKET_REQUEST = 0x84` and
`CHANGE_CHANNEL = 0x85`; the two left, `MYSTERY` and `START_UP`, take `0x81` and `0x82` in the
order of the handler table.  `NABU_MSG_IS_CLASSIC` is the spec's range `[0x80, 0xEF]`. -/

/-- The six classic messages, one per entry of `adaptor_msg_types`. -/
inductive ClassicMsg where
  | reset
  | mystery
  | getStatus
  | startUp
  | packetRequest
  | changeChannel
  deriving DecidableEq, Repr

/-- Modelled from the spec: the opcodes `NABU_MSG_RESET` … `NABU_MSG_CHANGE_CHANNEL`. -/
def ClassicMsg.code : ClassicMsg → UInt8
  | .reset => 0x80
  | .mystery => 0x81
  | .startUp => 0x82
  | .getStatus => 0x83
  | .packetRequest => 0x84
  | .changeChannel => 0x85

/-- Modelled from the spec: `NABU_MSG_CLASSIC_FIRST`. -/
def nabuMsgClassicFirst : UInt8 := 0x80

/-- Modelled from the spec: `NABU_MSG_IS_CLASSIC`. -/
def nabuMsgIsClassic (v : UInt8) : Bool := 0x80 ≤ v && v ≤ 0xEF

/-- `HANDLER_INDEX(v)`, stored in a `uint8_t` by `adaptor_msg_classic`. -/
def handlerIndex (v : UInt8) : UInt8 := v - nabuMsgClassicFirst

theorem ClassicMsg.code_injective {a b : ClassicMsg} (h : a.code = b.code) : a = b := by
  cases a <;> cases b <;> first | rfl | exact absurd h (by decide)

theorem ClassicMsg.isClassic_code (m : ClassicMsg) : nabuMsgIsClassic m.code = true := by
  cases m <;> decide

/-! ## CRC-16/GENIBUS

Modelled from the spec: polynomial `0x1021`, initial value `0xFFFF`, no reflection, final
`xor` with `0xFFFF`, computed a bit at a time. -/

/-- One shift of the CRC register. -/
def crcShift (crc : UInt16) : UInt16 :=
  if crc &&& 0x8000 = 0 then crc <<< 1 else (crc <<< 1) ^^^ 0x1021

/-- One byte into the CRC register, most significant bit first. -/
def crcByte (crc : UInt16) (b : UInt8) : UInt16 :=
  (crcShift ∘ crcShift ∘ crcShift ∘ crcShift ∘ crcShift ∘ crcShift ∘ crcShift ∘ crcShift)
    (crc ^^^ (b.toUInt16 <<< 8))

/-- `crc16_genibus_init`. -/
def crc16GenibusInit : UInt16 := 0xFFFF

/-- `crc16_genibus_update`: the bytes of `buf` into the register `crc`. -/
def crc16GenibusUpdate (buf : List UInt8) (crc : UInt16) : UInt16 := buf.foldl crcByte crc

/-- `crc16_genibus_fini`. -/
def crc16GenibusFini (crc : UInt16) : UInt16 := crc ^^^ 0xFFFF

/-- The CRC a packet's trailer carries, over the bytes `buf`. -/
def crc16Genibus (buf : List UInt8) : UInt16 :=
  crc16GenibusFini (crc16GenibusUpdate buf crc16GenibusInit)

/-- The spec's check values: the CRC of nothing is `0x0000`, of `"123456789"` it is `0xD64E`. -/
example : crc16Genibus [] = 0x0000 := by decide

set_option maxRecDepth 20000 in
example : crc16Genibus [0x31, 0x32, 0x33, 0x34, 0x35, 0x36, 0x37, 0x38, 0x39] = 0xD64E := by
  decide

/-- Modelled from the spec: the two bytes `nabu_set_crc` writes, most significant first.  It
returns their number, `NABU_FOOTERSIZE`. -/
def nabuSetCrc (crc : UInt16) : List UInt8 := [(crc >>> 8).toUInt8, crc.toUInt8]

@[simp] theorem nabuSetCrc_length (crc : UInt16) : (nabuSetCrc crc).length = nabuFooterSize :=
  rfl

/-! ## Multi-byte fields -/

/-- Modelled from the spec: `nabu_get_uint24`, least significant byte first. -/
def nabuGetUint24 (b0 b1 b2 : UInt8) : UInt32 :=
  b0.toUInt32 ||| (b1.toUInt32 <<< 8) ||| (b2.toUInt32 <<< 16)

/-- Modelled from the spec: `nabu_get_uint16`, least significant byte first. -/
def nabuGetUint16 (b0 b1 : UInt8) : UInt16 := b0.toUInt16 ||| (b1.toUInt16 <<< 8)

/-- The `(int16_t)` cast, two's complement. -/
def toInt16 (v : UInt16) : Int := if v.toNat < 0x8000 then v.toNat else (v.toNat : Int) - 0x10000

/-! ## Packet header and time record -/

/-- What `nabu_init_pkthdr` writes: a `struct nabu_pkthdr`, `NABU_HEADERSIZE` bytes long. -/
structure PktHdr where
  /-- The header's bytes. -/
  bytes : List UInt8
  /-- `sizeof(struct nabu_pkthdr)`, the value `nabu_init_pkthdr` returns. -/
  length_eq : bytes.length = nabuHeaderSize

/-- The fields of `struct tm` that `adaptor_send_time` reads. -/
structure Tm where
  wday : Nat
  mon : Nat
  mday : Nat
  hour : Nat
  min : Nat
  sec : Nat
  deriving DecidableEq, Repr

/-- The `memset` to zero `adaptor_send_time` falls back on when `time()` fails. -/
def Tm.zero : Tm := ⟨0, 0, 0, 0, 0, 0⟩

/-- Modelled from the spec: the nine bytes of `struct nabu_time` as `adaptor_send_time` fills
it, each field a `uint8_t`. -/
def nabuTime (tm : Tm) : List UInt8 :=
  [0x02, 0x02, (tm.wday + 1).toUInt8, 84, (tm.mon + 1).toUInt8, tm.mday.toUInt8,
    tm.hour.toUInt8, tm.min.toUInt8, tm.sec.toUInt8]

@[simp] theorem nabuTime_length (tm : Tm) : (nabuTime tm).length = 9 := rfl

end Nabud
