import Nabud.Adaptor.Escape
import Nabud.Conn.Object

/-!
# Sending segments

The half of `adaptor.c` that turns an image segment into bytes on the wire:
`adaptor_send_packet`, `adaptor_send_unauthorized`, `adaptor_send_pak`, `adaptor_send_image`
and `adaptor_send_time`, with the ACK handshake they wait on.
-/

set_option autoImplicit false

namespace Nabud

/-- `nabu_init_pkthdr(buf, image, segment, offset, last)`, a parameter of the model. -/
abbrev PktHdrInit := UInt32 → UInt16 → Nat → Bool → PktHdr

/-! ## Handshakes -/

/-- `adaptor_expect_byte`. -/
def adaptorExpectByte (val : UInt8) : AdaptorM Bool := do
  match ← connRecvByte with
  | none => pure false
  | some c => pure (val == c)

/-- `adaptor_expect_sequence`: stops at the first byte that does not match. -/
def adaptorExpectSequence : List UInt8 → AdaptorM Bool
  | [] => pure true
  | v :: rest => do
    if ← adaptorExpectByte v then adaptorExpectSequence rest else pure false

/-- `adaptor_expect_ack`. -/
def adaptorExpectAck : AdaptorM Bool := adaptorExpectSequence nabuMsgAck

/-- `adaptor_send_ack`. -/
def adaptorSendAck : AdaptorM Unit := connSend nabuMsgAck

/-- `adaptor_send_confirmed`. -/
def adaptorSendConfirmed : AdaptorM Unit := connSendByte nabuStateConfirmed

/-- `adaptor_send_unauthorized`: the NABU's ACK is waited for and only logged. -/
def adaptorSendUnauthorized : AdaptorM Unit := do
  connSendByte nabuServiceUnauthorized
  let _ ← adaptorExpectAck

/-- `adaptor_send_packet`: escape the buffer into `pktbuf`, offer it with `AUTHORIZED`, and send
it followed by `FINISHED` once the NABU has acknowledged.  The buffer is freed either way. -/
def adaptorSendPacket (buf : List UInt8) : AdaptorM Unit := do
  if ¬ buf.length ≤ nabuMaxPacketSize then throw (.assertFailed "len <= NABU_MAXPACKETSIZE")
  modify fun s => { s with pktbuf := adaptorEscapePacket buf, packets := s.packets ++ [buf] }
  connSendByte nabuServiceAuthorized
  if ← adaptorExpectAck then
    connSend (← get).pktbuf
    connSend nabuMsgFinished

/-! ## Segments -/

/-- `segment * NABU_MAXPAYLOADSIZE`, the offset of a raw image's segment. -/
def rawOffset (segment : UInt16) : Nat := segment.toNat * nabuMaxPayloadSize

/-- `(segment * len) + ((2 * segment) + 2)` with `len = NABU_TOTALPAYLOADSIZE`, the offset of a
PAK's segment: each stored segment is preceded by a two-byte tag. -/
def pakOffset (segment : UInt16) : Nat :=
  segment.toNat * nabuTotalPayloadSize + (2 * segment.toNat + 2)

/-- The truncation both paths make once `off` is inside the image: a whole `len` bytes, or what
is left of the image, which is then the last segment. -/
def truncate (length off len : Nat) : Nat × Bool :=
  if off + len ≥ length then (length - off, true) else (len, false)

/-- `memcpy(dst, img->data + off, len)`: the bytes read, or the overrun. -/
def imageRead (img : Image) (off len : Nat) : AdaptorM (List UInt8) := fun s =>
  if off + len ≤ img.length then .ok ((img.data.drop off).take len, s)
  else .error (.dataOverrun off len)

/-- `adaptor_send_pak`: the segment is cut out of the PAK as it is stored, and only its CRC,
the last two bytes, is recomputed.  `image` appears only in the log. -/
def adaptorSendPak (_image : UInt32) (segment : UInt16) (img : Image) : AdaptorM Bool := do
  let off := pakOffset segment
  if off ≥ img.length then
    adaptorSendUnauthorized
    return false
  let (len, last) := truncate img.length off nabuTotalPayloadSize
  if len < nabuHeaderSize + nabuFooterSize then
    adaptorSendUnauthorized
    return last
  if !(← malloc len) then
    adaptorSendUnauthorized
    return last
  let pktbuf ← imageRead img off len
  let crc := crc16Genibus (pktbuf.take (len - 2))
  -- `nabu_set_crc(&pktbuf[len - 2], crc)`
  adaptorSendPacket (pktbuf.take (len - 2) ++ nabuSetCrc crc)
  return last

/-- `adaptor_send_image`: a PAK goes to `adaptor_send_pak`; anything else — the time image
included, which has no channel — is wrapped here in a header and a CRC. -/
def adaptorSendImage (initPkthdr : PktHdrInit) (image : UInt32) (segment : UInt16)
    (img : Image) : AdaptorM Bool := do
  if img.isPak then
    return ← adaptorSendPak image segment img
  let off := rawOffset segment
  if off ≥ img.length then
    adaptorSendUnauthorized
    return false
  let (len, last) := truncate img.length off nabuMaxPayloadSize
  let pktlen := len + nabuHeaderSize + nabuFooterSize
  if !(← malloc pktlen) then
    adaptorSendUnauthorized
    return last
  let hdr := initPkthdr image segment off last
  let payload ← imageRead img off len
  let i := hdr.bytes.length + len
  let crc := crc16Genibus (hdr.bytes ++ payload)
  let i := i + (nabuSetCrc crc).length
  if i ≠ pktlen then throw (.fatal "internal packet length error")
  adaptorSendPacket (hdr.bytes ++ payload ++ nabuSetCrc crc)
  return last

/-- The synthetic image `adaptor_send_time` builds around the time record. -/
def timeImage (tm : Tm) : Image :=
  { name := "TimeImage", data := nabuTime tm, number := nabuImageTime, channel := none }

/-- `adaptor_send_time`: `localtime` is `none` when `time()` fails, and the record is then
zeroed. -/
def adaptorSendTime (initPkthdr : PktHdrInit) (localtime : Option Tm) : AdaptorM Unit := do
  let _ ← adaptorSendImage initPkthdr nabuImageTime 0 (timeImage (localtime.getD Tm.zero))

variable {s : Conn} {rest : List UInt8}

/-! ## Spec lemmas

The handshakes only move `rx`, `tx` and the endpoint state; `adaptor_send_packet` also fills
`pktbuf` and the history of packets.  With the NABU's `ACK` waiting in `rx`, each does exactly
what its comment says. -/

theorem adaptorExpectByte_frame (v : UInt8) (s : Conn) :
    ∃ b rx ab, adaptorExpectByte v s = .ok (b, { s with rx := rx, aborted := ab }) := by
  cases h : s.rx <;> simp [adaptorExpectByte, connRecvByte, h]

theorem adaptorExpectSequence_frame (seq : List UInt8) (s : Conn) :
    ∃ b rx ab, adaptorExpectSequence seq s = .ok (b, { s with rx := rx, aborted := ab }) := by
  induction seq generalizing s with
  | nil => exact ⟨true, s.rx, s.aborted, rfl⟩
  | cons v seq ih =>
    obtain ⟨b, rx, ab, h⟩ := adaptorExpectByte_frame v s
    obtain ⟨b', rx', ab', h'⟩ := ih { s with rx := rx, aborted := ab }
    cases b
    · exact ⟨false, rx, ab, by simp [adaptorExpectSequence, h]⟩
    · exact ⟨b', rx', ab', by simp [adaptorExpectSequence, h, h']⟩

theorem adaptorExpectAck_ack (h : s.rx = nabuMsgAck ++ rest) :
    adaptorExpectAck s = .ok (true, { s with rx := rest }) := by
  simp [adaptorExpectAck, adaptorExpectSequence, adaptorExpectByte, connRecvByte, h, nabuMsgAck]

theorem adaptorSendUnauthorized_frame (s : Conn) :
    ∃ rx ab, adaptorSendUnauthorized s =
      .ok ((), { s with rx := rx, tx := s.tx ++ [nabuServiceUnauthorized], aborted := ab }) := by
  obtain ⟨b, rx, ab, h⟩ :=
    adaptorExpectSequence_frame nabuMsgAck { s with tx := s.tx ++ [nabuServiceUnauthorized] }
  exact ⟨rx, ab, by simp [adaptorSendUnauthorized, adaptorExpectAck, h]⟩

theorem adaptorSendUnauthorized_ack (h : s.rx = nabuMsgAck ++ rest) :
    adaptorSendUnauthorized s =
      .ok ((), { s with rx := rest, tx := s.tx ++ [nabuServiceUnauthorized] }) := by
  have := adaptorExpectAck_ack (s := { s with tx := s.tx ++ [nabuServiceUnauthorized] }) h
  simp [adaptorSendUnauthorized, this]

/-- What `adaptor_send_packet` leaves behind apart from the wire: the escaped buffer in `pktbuf`,
and the buffer in the history. -/
def Conn.packetSent (s : Conn) (buf : List UInt8) : Conn :=
  { s with pktbuf := adaptorEscapePacket buf, packets := s.packets ++ [buf] }

theorem adaptorSendPacket_frame {buf : List UInt8} (hlen : buf.length ≤ nabuMaxPacketSize)
    (s : Conn) : ∃ rx tx ab, adaptorSendPacket buf s =
      .ok ((), { s.packetSent buf with rx := rx, tx := s.tx ++ nabuServiceAuthorized :: tx,
                                       aborted := ab }) := by
  obtain ⟨b, rx, ab, h⟩ := adaptorExpectSequence_frame nabuMsgAck
    { s.packetSent buf with tx := s.tx ++ [nabuServiceAuthorized] }
  cases b
  · exact ⟨rx, [], ab, by simp_all [adaptorSendPacket, adaptorExpectAck, Conn.packetSent]⟩
  · exact ⟨rx, adaptorEscapePacket buf ++ nabuMsgFinished, ab,
      by simp_all [adaptorSendPacket, adaptorExpectAck, Conn.packetSent]⟩

theorem adaptorSendPacket_ack {buf : List UInt8} (hlen : buf.length ≤ nabuMaxPacketSize)
    (h : s.rx = nabuMsgAck ++ rest) : adaptorSendPacket buf s =
      .ok ((), { s.packetSent buf with
        rx := rest,
        tx := s.tx ++ nabuServiceAuthorized :: (adaptorEscapePacket buf ++ nabuMsgFinished) }) := by
  have := adaptorExpectAck_ack
    (s := { s.packetSent buf with tx := s.tx ++ [nabuServiceAuthorized] }) h
  simp_all [adaptorSendPacket, Conn.packetSent]

/-! ### Raw images -/

variable {initPkthdr : PktHdrInit} {image : UInt32} {segment : UInt16} {img : Image}

theorem truncate_read_le {length off : Nat} (len : Nat) (h : off < length) :
    off + (truncate length off len).1 ≤ length := by
  unfold truncate; split <;> simp only <;> omega

theorem truncate_fst_le (length off len : Nat) : (truncate length off len).1 ≤ len := by
  unfold truncate; split <;> simp only <;> omega

/-- The packet `adaptor_send_image` builds around a raw segment: header, payload, CRC. -/
def rawPacket (initPkthdr : PktHdrInit) (image : UInt32) (segment : UInt16) (img : Image) :
    List UInt8 :=
  let off := rawOffset segment
  let t := truncate img.length off nabuMaxPayloadSize
  let hdr := (initPkthdr image segment off t.2).bytes
  let payload := (img.data.drop off).take t.1
  hdr ++ payload ++ nabuSetCrc (crc16Genibus (hdr ++ payload))

theorem adaptorSendImage_raw_unauthorized (hp : img.isPak = false)
    (hoff : img.length ≤ rawOffset segment) :
    adaptorSendImage initPkthdr image segment img s = (do adaptorSendUnauthorized; pure false) s := by
  simp [adaptorSendImage, hp, hoff]

theorem adaptorSendImage_raw_nomem (hp : img.isPak = false)
    (hoff : rawOffset segment < img.length) (ha : s.allocs.headD true = false) :
    adaptorSendImage initPkthdr image segment img s =
      (do adaptorSendUnauthorized
          pure (truncate img.length (rawOffset segment) nabuMaxPayloadSize).2) s.popAlloc := by
  simp only [adaptorSendImage, hp, Nat.not_le.2 hoff, AdaptorM.run_bind, AdaptorM.run_pure, AdaptorM.run_ite,
    malloc_run, ha, if_false, Bool.false_eq_true, ite_false, Bool.not_false, if_true]

theorem adaptorSendImage_raw_packet (hp : img.isPak = false)
    (hoff : rawOffset segment < img.length) (ha : s.allocs.headD true = true) :
    adaptorSendImage initPkthdr image segment img s =
      (do adaptorSendPacket (rawPacket initPkthdr image segment img)
          pure (truncate img.length (rawOffset segment) nabuMaxPayloadSize).2) s.popAlloc := by
  have hread := truncate_read_le nabuMaxPayloadSize hoff
  have hi (len : Nat) : nabuHeaderSize + len + nabuFooterSize = len + nabuHeaderSize + nabuFooterSize := by
    omega
  simp only [adaptorSendImage, hp, Nat.not_le.2 hoff, AdaptorM.run_bind, AdaptorM.run_pure, AdaptorM.run_ite,
    malloc_run, ha, if_false, Bool.false_eq_true, ite_false, Bool.not_true, imageRead, hread, if_true,
    PktHdr.length_eq, nabuSetCrc_length, rawPacket, hi, ne_eq, not_true_eq_false, List.append_assoc]

/-! ### PAK images -/

/-- The packet `adaptor_send_pak` cuts out of a PAK: the stored segment with its last two bytes
replaced by the CRC of the others. -/
def pakPacket (segment : UInt16) (img : Image) : List UInt8 :=
  let off := pakOffset segment
  let len := (truncate img.length off nabuTotalPayloadSize).1
  let pkt := (img.data.drop off).take len
  pkt.take (len - 2) ++ nabuSetCrc (crc16Genibus (pkt.take (len - 2)))

theorem adaptorSendImage_pak (hp : img.isPak = true) :
    adaptorSendImage initPkthdr image segment img = adaptorSendPak image segment img := by
  simp [adaptorSendImage, hp]

theorem adaptorSendPak_unauthorized (hoff : img.length ≤ pakOffset segment) :
    adaptorSendPak image segment img s = (do adaptorSendUnauthorized; pure false) s := by
  simp [adaptorSendPak, hoff]

theorem adaptorSendPak_short (hoff : pakOffset segment < img.length)
    (hlen : (truncate img.length (pakOffset segment) nabuTotalPayloadSize).1 <
      nabuHeaderSize + nabuFooterSize) :
    adaptorSendPak image segment img s =
      (do adaptorSendUnauthorized
          pure (truncate img.length (pakOffset segment) nabuTotalPayloadSize).2) s := by
  simp only [adaptorSendPak, Nat.not_le.2 hoff, hlen, AdaptorM.run_bind, AdaptorM.run_pure,
    AdaptorM.run_ite, if_false, if_true]

theorem adaptorSendPak_nomem (hoff : pakOffset segment < img.length)
    (hlen : nabuHeaderSize + nabuFooterSize ≤
      (truncate img.length (pakOffset segment) nabuTotalPayloadSize).1)
    (ha : s.allocs.headD true = false) :
    adaptorSendPak image segment img s =
      (do adaptorSendUnauthorized
          pure (truncate img.length (pakOffset segment) nabuTotalPayloadSize).2) s.popAlloc := by
  simp only [adaptorSendPak, Nat.not_le.2 hoff, Nat.not_lt.2 hlen, AdaptorM.run_bind,
    AdaptorM.run_pure, AdaptorM.run_ite, malloc_run, ha, if_false, if_true,
    Bool.not_false]

theorem adaptorSendPak_packet (hoff : pakOffset segment < img.length)
    (hlen : nabuHeaderSize + nabuFooterSize ≤
      (truncate img.length (pakOffset segment) nabuTotalPayloadSize).1)
    (ha : s.allocs.headD true = true) :
    adaptorSendPak image segment img s =
      (do adaptorSendPacket (pakPacket segment img)
          pure (truncate img.length (pakOffset segment) nabuTotalPayloadSize).2) s.popAlloc := by
  have hread := truncate_read_le nabuTotalPayloadSize hoff
  simp only [adaptorSendPak, Nat.not_le.2 hoff, Nat.not_lt.2 hlen, AdaptorM.run_bind,
    AdaptorM.run_pure, AdaptorM.run_ite, malloc_run, ha, if_false, if_true,
    Bool.not_true, Bool.false_eq_true, imageRead, hread, pakPacket]

/-! ### What a segment request can do

Everything `adaptor_send_pak` and `adaptor_send_image` do, in one statement each: take at most
one allocation outcome, then refuse with `UNAUTHORIZED`, or hand `adaptor_send_packet` one of
the two packets — and return.  Every later fact about them is read off these two lemmas. -/

/-- A segment read from inside the image is as long as the truncation says. -/
theorem length_segment {off : Nat} (len : Nat) (h : off < img.length) :
    ((img.data.drop off).take (truncate img.length off len).1).length =
      (truncate img.length off len).1 := by
  have := truncate_read_le len h
  simp only [List.length_take, List.length_drop, Image.length] at this ⊢
  omega

theorem length_rawPacket (hoff : rawOffset segment < img.length) :
    (rawPacket initPkthdr image segment img).length =
      nabuHeaderSize + (truncate img.length (rawOffset segment) nabuMaxPayloadSize).1 +
        nabuFooterSize := by
  simp only [rawPacket, List.length_append, PktHdr.length_eq, nabuSetCrc_length,
    length_segment _ hoff]

theorem length_pakPacket (hoff : pakOffset segment < img.length)
    (hlen : nabuHeaderSize + nabuFooterSize ≤
      (truncate img.length (pakOffset segment) nabuTotalPayloadSize).1) :
    (pakPacket segment img).length =
      (truncate img.length (pakOffset segment) nabuTotalPayloadSize).1 := by
  simp only [pakPacket, List.length_append, List.length_take, length_segment _ hoff,
    nabuSetCrc_length]
  simp only [nabuHeaderSize, nabuFooterSize] at hlen ⊢
  omega

theorem length_rawPacket_le (hoff : rawOffset segment < img.length) :
    (rawPacket initPkthdr image segment img).length ≤ nabuMaxPacketSize := by
  have := truncate_fst_le img.length (rawOffset segment) nabuMaxPayloadSize
  rw [length_rawPacket hoff]
  simp only [nabuMaxPacketSize, nabuTotalPayloadSize]
  omega

theorem length_pakPacket_le (hoff : pakOffset segment < img.length)
    (hlen : nabuHeaderSize + nabuFooterSize ≤
      (truncate img.length (pakOffset segment) nabuTotalPayloadSize).1) :
    (pakPacket segment img).length ≤ nabuMaxPacketSize := by
  rw [length_pakPacket hoff hlen]
  exact truncate_fst_le _ _ _

theorem adaptorSendPak_cases (s : Conn) :
    ∃ t b, (t = s ∨ t = s.popAlloc) ∧
      (adaptorSendPak image segment img s = (do adaptorSendUnauthorized; pure b) t ∨
        pakOffset segment < img.length ∧ nabuHeaderSize + nabuFooterSize ≤
          (truncate img.length (pakOffset segment) nabuTotalPayloadSize).1 ∧
        adaptorSendPak image segment img s =
          (do adaptorSendPacket (pakPacket segment img); pure b) t) := by
  rcases Nat.lt_or_ge (pakOffset segment) img.length with hoff | hoff
  · rcases Nat.lt_or_ge (truncate img.length (pakOffset segment) nabuTotalPayloadSize).1
      (nabuHeaderSize + nabuFooterSize) with hlen | hlen
    · exact ⟨s, _, .inl rfl, .inl (adaptorSendPak_short hoff hlen)⟩
    · cases ha : s.allocs.headD true
      · exact ⟨s.popAlloc, _, .inr rfl, .inl (adaptorSendPak_nomem hoff hlen ha)⟩
      · exact ⟨s.popAlloc, _, .inr rfl, .inr ⟨hoff, hlen, adaptorSendPak_packet hoff hlen ha⟩⟩
  · exact ⟨s, _, .inl rfl, .inl (adaptorSendPak_unauthorized hoff)⟩

theorem adaptorSendImage_cases (s : Conn) :
    ∃ t b, (t = s ∨ t = s.popAlloc) ∧
      (adaptorSendImage initPkthdr image segment img s = (do adaptorSendUnauthorized; pure b) t ∨
        img.isPak = false ∧ rawOffset segment < img.length ∧
        adaptorSendImage initPkthdr image segment img s =
          (do adaptorSendPacket (rawPacket initPkthdr image segment img); pure b) t ∨
        img.isPak = true ∧ pakOffset segment < img.length ∧ nabuHeaderSize + nabuFooterSize ≤
          (truncate img.length (pakOffset segment) nabuTotalPayloadSize).1 ∧
        adaptorSendImage initPkthdr image segment img s =
          (do adaptorSendPacket (pakPacket segment img); pure b) t) := by
  cases hp : img.isPak
  · rcases Nat.lt_or_ge (rawOffset segment) img.length with hoff | hoff
    · cases ha : s.allocs.headD true
      · exact ⟨s.popAlloc, _, .inr rfl, .inl (adaptorSendImage_raw_nomem hp hoff ha)⟩
      · exact ⟨s.popAlloc, _, .inr rfl,
          .inr (.inl ⟨rfl, hoff, adaptorSendImage_raw_packet hp hoff ha⟩)⟩
    · exact ⟨s, _, .inl rfl, .inl (adaptorSendImage_raw_unauthorized hp hoff)⟩
  · obtain ⟨t, b, ht, h | ⟨hoff, hlen, h⟩⟩ := @adaptorSendPak_cases image segment img s <;>
      rw [← @adaptorSendImage_pak initPkthdr image segment img hp] at h
    · exact ⟨t, b, ht, .inl h⟩
    · exact ⟨t, b, ht, .inr (.inr ⟨rfl, hoff, hlen, h⟩)⟩

end Nabud
