import Nabud.Adaptor.Send

/-!
# The classic messages and the event loop

The six handlers of `adaptor.c`, the table `adaptor_msg_types` they are reached through, and
`adaptor_event_loop`.

What the handlers call and the sources do not contain is collected in `Env`: the packet header,
the image store, the channel table, the clock, and the two sub-protocols, which are arbitrary
programs over the connection.  `image_unload` and `image_channel_select` are modelled from the
spec.

The table is built the way C builds an array from designated initializers: one slot for every
index up to the largest one named, each slot the handler named for it or `NULL`.  Its reads are
`adaptorMsgTypes[idx]?`, and a read past the last slot is the fault `tableOverrun`.

`adaptor_event_loop` never returns on its own; `adaptorEventLoop env fuel` runs at most `fuel`
turns of it and says whether the loop returned.
-/

set_option autoImplicit false

namespace Nabud

/-- What the adaptor calls out to: the parts of the program that are not among the sources. -/
structure Env where
  /-- `nabu_init_pkthdr`. -/
  initPkthdr : PktHdrInit
  /-- Modelled from the spec: `image_load`, the image store as seen through the connection's
  selected channel; `none` when the image cannot be loaded. -/
  imageLoad : Option Channel → UInt32 → Option Image
  /-- Modelled from the spec: the lookup `image_channel_select` makes in the channel table. -/
  channelLookup : Int → Option Channel
  /-- What `localtime_r` gives `adaptor_send_time`; `none` when `time()` fails. -/
  localtime : Option Tm
  /-- `retronet_request`: whether RetroNet took the message. -/
  retronetRequest : UInt8 → AdaptorM Bool
  /-- `nhacp_request`: whether NHACP took the message. -/
  nhacpRequest : UInt8 → AdaptorM Bool

/-- Modelled from the spec: `image_unload`.  The caller's reference goes; an image whose last
segment has not been sent yet is kept as `l_last_image`, and sending the last segment drops the
cached reference. -/
def imageUnload (img : Image) (last : Bool) : AdaptorM Unit := do
  let _ ← connSetLastImage (if last then none else some img)

/-- Modelled from the spec: `image_channel_select`, which installs the channel with that code,
clearing the selected file. -/
def imageChannelSelect (env : Env) (code : Int) : AdaptorM Unit :=
  match env.channelLookup code with
  | some chan => connSetChannel chan
  | none => pure ()

/-! ## Handlers -/

/-- `adaptor_msg_reset`. -/
def adaptorMsgReset : AdaptorM Unit := do
  connReboot
  adaptorSendAck
  adaptorSendConfirmed

/-- `adaptor_msg_mystery`: the two bytes are only logged, and `CONFIRMED` goes out either way. -/
def adaptorMsgMystery : AdaptorM Unit := do
  adaptorSendAck
  let _ ← connRecv 2
  adaptorSendConfirmed

/-- `adaptor_msg_channel_status`. -/
def adaptorMsgChannelStatus : AdaptorM Unit := do
  match ← connGetChannel with
  | some _ =>
    connSendByte nabuSignalStatusYes
    connSend nabuMsgFinished
  | none =>
    connSendByte nabuSignalStatusNo
    connSend nabuMsgFinished

/-- `adaptor_msg_transmit_status`. -/
def adaptorMsgTransmitStatus : AdaptorM Unit := do
  connSendByte nabuSignalStatusYes
  connSend nabuMsgFinished

/-- `adaptor_msg_get_status`: an unknown status type is only logged. -/
def adaptorMsgGetStatus : AdaptorM Unit := do
  adaptorSendAck
  match ← connRecvByte with
  | none => pure ()
  | some msg =>
    if msg = nabuStatusSignal then adaptorMsgChannelStatus
    else if msg = nabuStatusTransmit then adaptorMsgTransmitStatus
    else pure ()

/-- `adaptor_msg_start_up`. -/
def adaptorMsgStartUp : AdaptorM Unit := do
  adaptorSendAck
  adaptorSendConfirmed

/-- `adaptor_msg_packet_request`. -/
def adaptorMsgPacketRequest (env : Env) : AdaptorM Unit := do
  adaptorSendAck
  match ← connRecv 4 with
  | none => connSetAborted
  | some msg =>
    let segment : UInt16 := (msg.getD 0 0).toUInt16
    let image := nabuGetUint24 (msg.getD 1 0) (msg.getD 2 0) (msg.getD 3 0)
    adaptorSendConfirmed
    if image = nabuImageTime then
      if segment = 0 then adaptorSendTime env.initPkthdr env.localtime
      else adaptorSendUnauthorized
    else
      match env.imageLoad (← connGetChannel) image with
      | none => adaptorSendUnauthorized
      | some img => imageUnload img (← adaptorSendImage env.initPkthdr image segment img)

/-- `adaptor_msg_change_channel`. -/
def adaptorMsgChangeChannel (env : Env) : AdaptorM Unit := do
  adaptorSendAck
  match ← connRecv 2 with
  | none => connSetAborted
  | some msg =>
    imageChannelSelect env (toInt16 (nabuGetUint16 (msg.getD 0 0) (msg.getD 1 0)))
    adaptorSendConfirmed

/-! ## Dispatch -/

/-- `.handler` of each `HANDLER_ENTRY`. -/
def adaptorMsgHandler (env : Env) : ClassicMsg → AdaptorM Unit
  | .reset => adaptorMsgReset
  | .mystery => adaptorMsgMystery
  | .getStatus => adaptorMsgGetStatus
  | .startUp => adaptorMsgStartUp
  | .packetRequest => adaptorMsgPacketRequest env
  | .changeChannel => adaptorMsgChangeChannel env

/-- The `HANDLER_ENTRY`s of `adaptor_msg_types`, in the order of the source. -/
def handlerEntries : List ClassicMsg :=
  [.reset, .mystery, .getStatus, .startUp, .packetRequest, .changeChannel]

/-- `adaptor_msg_types`: a slot for every index up to the largest `HANDLER_INDEX` named, holding
the message named for it, or `NULL`. -/
def adaptorMsgTypes : List (Option ClassicMsg) :=
  (List.range ((handlerEntries.map fun m ↦ (handlerIndex m.code).toNat).foldr max 0 + 1)).map
    fun i ↦ handlerEntries.find? fun m ↦ (handlerIndex m.code).toNat = i

/-- `adaptor_msg_type_count`. -/
def adaptorMsgTypeCount : Nat := adaptorMsgTypes.length

/-- `adaptor_msg_classic`: whether `msg` was a classic message with a handler, which then ran.
The bounds test is `idx > adaptor_msg_type_count`, and the slot is read whenever it fails. -/
def adaptorMsgClassic (env : Env) (msg : UInt8) : AdaptorM Bool := do
  if !nabuMsgIsClassic msg then return false
  let idx := handlerIndex msg
  if idx.toNat > adaptorMsgTypeCount then return false
  match adaptorMsgTypes[idx.toNat]? with
  | none => throw (.tableOverrun idx.toNat)
  | some none => return false
  | some (some m) =>
    modify fun s ↦ { s with dispatched := s.dispatched ++ [m] }
    adaptorMsgHandler env m
    return true

/-- One turn of `adaptor_event_loop`'s `for (;;)`: `false` where it breaks out. -/
def adaptorEventLoopBody (env : Env) : AdaptorM Bool := do
  connStopWatchdog
  match ← connRecvByte with
  | none => connCheckState
  | some msg =>
    connStartWatchdog 10
    if ← adaptorMsgClassic env msg then return true
    if ← env.retronetRequest msg then return true
    if ← env.nhacpRequest msg then return true
    return true

/-- `adaptor_event_loop`, for at most `fuel` turns: `true` when the loop returned. -/
def adaptorEventLoop (env : Env) : Nat → AdaptorM Bool
  | 0 => pure false
  | fuel + 1 => do
    if ← adaptorEventLoopBody env then adaptorEventLoop env fuel else pure true

theorem adaptorMsgTypes_eq :
    adaptorMsgTypes = [some .reset, some .mystery, some .startUp, some .getStatus,
      some .packetRequest, some .changeChannel] := by
  decide

theorem adaptorMsgTypeCount_eq : adaptorMsgTypeCount = 6 := by
  rw [adaptorMsgTypeCount, adaptorMsgTypes_eq]; rfl

end Nabud

namespace Nabud

/-! ## Spec lemmas

Each handler, run on the bytes its message carries. -/

variable {env : Env} {s : Conn} {rest : List UInt8}

/-- The state `adaptor_msg_packet_request` has reached once it has confirmed the request. -/
def Conn.requestRead (s : Conn) (rest : List UInt8) : Conn :=
  { s with rx := rest, tx := s.tx ++ nabuMsgAck ++ [nabuStateConfirmed] }

theorem adaptorMsgPacketRequest_time {seg i₀ i₁ i₂ : UInt8}
    (h : s.rx = [seg, i₀, i₁, i₂] ++ rest) (himg : nabuGetUint24 i₀ i₁ i₂ = nabuImageTime) :
    adaptorMsgPacketRequest env s =
      if seg.toUInt16 = 0 then adaptorSendTime env.initPkthdr env.localtime (s.requestRead rest)
      else adaptorSendUnauthorized (s.requestRead rest) := by
  simp [adaptorMsgPacketRequest, adaptorSendAck, adaptorSendConfirmed, himg, Conn.requestRead,
    connRecv, h]

theorem adaptorMsgPacketRequest_load {seg i₀ i₁ i₂ : UInt8}
    (h : s.rx = [seg, i₀, i₁, i₂] ++ rest) (himg : nabuGetUint24 i₀ i₁ i₂ ≠ nabuImageTime) :
    adaptorMsgPacketRequest env s =
      match env.imageLoad s.channel (nabuGetUint24 i₀ i₁ i₂) with
      | none => adaptorSendUnauthorized (s.requestRead rest)
      | some img =>
        (adaptorSendImage env.initPkthdr (nabuGetUint24 i₀ i₁ i₂) seg.toUInt16 img >>=
          imageUnload img) (s.requestRead rest) := by
  rcases hl : env.imageLoad s.channel (nabuGetUint24 i₀ i₁ i₂) with _ | img <;>
    simp [adaptorMsgPacketRequest, adaptorSendAck, adaptorSendConfirmed, connRecv, h, himg,
      Conn.requestRead, connGetChannel, hl]

/-- A reply to a segment request: `UNAUTHORIZED`, or `AUTHORIZED` and a packet, escaped and
followed by `FINISHED`. -/
def SegmentReply (reply : List UInt8) : Prop :=
  reply = [nabuServiceUnauthorized] ∨
    ∃ P, reply = nabuServiceAuthorized :: (adaptorEscapePacket P ++ nabuMsgFinished)

theorem unauthorized_pure_ack (b : Bool) (h : s.rx = nabuMsgAck ++ rest) :
    (do adaptorSendUnauthorized; pure b) s =
      .ok (b, { s with rx := rest, tx := s.tx ++ [nabuServiceUnauthorized] }) := by
  simp [adaptorSendUnauthorized_ack h]

theorem packet_pure_ack {buf : List UInt8} (hlen : buf.length ≤ nabuMaxPacketSize) (b : Bool)
    (h : s.rx = nabuMsgAck ++ rest) :
    (do adaptorSendPacket buf; pure b) s =
      .ok (b, { s.packetSent buf with
        rx := rest
        tx := s.tx ++ nabuServiceAuthorized :: (adaptorEscapePacket buf ++ nabuMsgFinished) }) := by
  simp [adaptorSendPacket_ack hlen h]

theorem adaptorSendImage_ack (initPkthdr : PktHdrInit) (image : UInt32) (segment : UInt16)
    (img : Image) (h : s.rx = nabuMsgAck ++ rest) :
    ∃ b s', adaptorSendImage initPkthdr image segment img s = .ok (b, s') ∧ s'.rx = rest ∧
      (∃ reply, s'.tx = s.tx ++ reply ∧ SegmentReply reply) ∧ s'.dispatched = s.dispatched := by
  obtain ⟨t, b, ht, hrun | ⟨-, hoff, hrun⟩ | ⟨-, hoff, hlen, hrun⟩⟩ :=
    @adaptorSendImage_cases initPkthdr image segment img s <;> rcases ht with rfl | rfl
  iterate 2 exact ⟨b, _, hrun.trans (unauthorized_pure_ack b h), rfl, ⟨_, rfl, .inl rfl⟩, rfl⟩
  iterate 2 exact ⟨b, _, hrun.trans (packet_pure_ack (length_rawPacket_le hoff) b h), rfl,
    ⟨_, rfl, .inr ⟨_, rfl⟩⟩, rfl⟩
  iterate 2 exact ⟨b, _, hrun.trans (packet_pure_ack (length_pakPacket_le hoff hlen) b h), rfl,
    ⟨_, rfl, .inr ⟨_, rfl⟩⟩, rfl⟩

theorem adaptorSendTime_ack (initPkthdr : PktHdrInit) (localtime : Option Tm)
    (h : s.rx = nabuMsgAck ++ rest) :
    ∃ s', adaptorSendTime initPkthdr localtime s = .ok ((), s') ∧ s'.rx = rest ∧
      (∃ reply, s'.tx = s.tx ++ reply ∧ SegmentReply reply) ∧ s'.dispatched = s.dispatched := by
  obtain ⟨b, s', hrun, hrx, hreply, hd⟩ :=
    adaptorSendImage_ack initPkthdr nabuImageTime 0 (timeImage (localtime.getD Tm.zero)) h
  exact ⟨s', by simp [adaptorSendTime, hrun], hrx, hreply, hd⟩

theorem imageUnload_run (img : Image) (last : Bool) (s : Conn) :
    imageUnload img last s = .ok ((), { s with lastImage := if last then none else some img }) := by
  simp [imageUnload, connSetLastImage]

/-- A request for a stored image: the segment goes out, and the image stays cached unless the
segment was its last. -/
theorem adaptorMsgPacketRequest_image {seg i₀ i₁ i₂ : UInt8} {img : Image} {b : Bool} {s' : Conn}
    (h : s.rx = [seg, i₀, i₁, i₂] ++ rest) (himg : nabuGetUint24 i₀ i₁ i₂ ≠ nabuImageTime)
    (hload : env.imageLoad s.channel (nabuGetUint24 i₀ i₁ i₂) = some img)
    (hsend : adaptorSendImage env.initPkthdr (nabuGetUint24 i₀ i₁ i₂) seg.toUInt16 img
      (s.requestRead rest) = .ok (b, s')) :
    adaptorMsgPacketRequest env s =
      .ok ((), { s' with lastImage := if b then none else some img }) := by
  simp [adaptorMsgPacketRequest_load h himg, hload, hsend, imageUnload_run]

/-- **`PACKET_REQUEST`.**  Whatever the request asks for and whatever becomes of it — the time
packet, a segment of a raw image or of a PAK, a missing image, a segment past the end, a slice
too short, a failed allocation — the handler reads the four bytes and the NABU's `ACK`, and
answers `ACK`, `CONFIRMED` and one `SegmentReply`. -/
theorem adaptorMsgPacketRequest_ack (env : Env) {seg i₀ i₁ i₂ : UInt8}
    (h : s.rx = [seg, i₀, i₁, i₂] ++ nabuMsgAck ++ rest) :
    ∃ s', adaptorMsgPacketRequest env s = .ok ((), s') ∧ s'.rx = rest ∧
      (∃ reply, s'.tx = s.tx ++ nabuMsgAck ++ [nabuStateConfirmed] ++ reply ∧
        SegmentReply reply) ∧ s'.dispatched = s.dispatched := by
  rw [List.append_assoc] at h
  have hr : (s.requestRead (nabuMsgAck ++ rest)).rx = nabuMsgAck ++ rest := rfl
  by_cases himg : nabuGetUint24 i₀ i₁ i₂ = nabuImageTime
  · rw [adaptorMsgPacketRequest_time h himg]
    split
    · obtain ⟨s', hrun, hrx, ⟨reply, htx, hreply⟩, hd⟩ :=
        adaptorSendTime_ack env.initPkthdr env.localtime hr
      exact ⟨s', hrun, hrx, ⟨reply, by simp [htx, Conn.requestRead], hreply⟩, hd⟩
    · exact ⟨_, adaptorSendUnauthorized_ack hr, rfl, ⟨_, by simp [Conn.requestRead], .inl rfl⟩, rfl⟩
  · rcases hload : env.imageLoad s.channel (nabuGetUint24 i₀ i₁ i₂) with _ | img
    · rw [adaptorMsgPacketRequest_load h himg, hload]
      exact ⟨_, adaptorSendUnauthorized_ack hr, rfl, ⟨_, by simp [Conn.requestRead], .inl rfl⟩, rfl⟩
    · obtain ⟨b, s', hrun, hrx, ⟨reply, htx, hreply⟩, hd⟩ :=
        adaptorSendImage_ack env.initPkthdr (nabuGetUint24 i₀ i₁ i₂) seg.toUInt16 img hr
      exact ⟨_, adaptorMsgPacketRequest_image h himg hload hrun, hrx,
        ⟨reply, by simp [htx, Conn.requestRead], hreply⟩, hd⟩

end Nabud
