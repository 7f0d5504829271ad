import Nabud.Adaptor.Send

/-!
# What reaches `adaptor_send_packet`

`adaptor_send_image` has two ways of building a packet — a header, the payload and a CRC for a
raw image, a slice of the file with its last two bytes rewritten for a PAK — and several ways of
refusing.  This file proves that every way is safe and that the two packet builders agree on the
packet's shape:

* `SendsOnly p m`: `m` completes from every state (no failed `assert`, no `log_fatal`, no read
  past `img->length`) and every buffer it hands to `adaptor_send_packet` satisfies `p`.  It is
  closed under `bind`, and `sendsOnly_adaptorSendImage` reduces it, for `adaptor_send_image`, to
  `p` of the two packets `rawPacket` and `pakPacket` where they are sent.
* `adaptorSendImage_bounded`: the offsets fit an `int`, and every packet fits `pktbuf`'s bound
  `NABU_MAXPACKETSIZE`, its escaped form at most twice that.
* `adaptorSendImage_crc`: every packet is at least a header and a footer long and ends in the
  CRC of the rest, on both paths.
* `adaptorSendPacket_unescape`: what `adaptor_send_packet` writes after the NABU's `ACK` decodes
  to the packet, and leaves whatever follows untouched.
-/

set_option autoImplicit false

namespace Nabud

/-! ## Completing, and what is sent -/

/-- `m` completes from every state and hands `adaptor_send_packet` only buffers satisfying `p`. -/
def SendsOnly (p : List UInt8 → Prop) {α : Type} (m : AdaptorM α) : Prop :=
  ∀ s, ∃ a s' new, m s = .ok (a, s') ∧ s'.packets = s.packets ++ new ∧ ∀ P ∈ new, p P

section SendsOnly

variable {p : List UInt8 → Prop} {α β : Type}

theorem SendsOnly.pure (a : α) : SendsOnly p (pure a : AdaptorM α) :=
  fun s => ⟨a, s, [], rfl, by simp, by simp⟩

theorem SendsOnly.bind {m : AdaptorM α} {f : α → AdaptorM β} (hm : SendsOnly p m)
    (hf : ∀ a, SendsOnly p (f a)) : SendsOnly p (m >>= f) := by
  intro s
  obtain ⟨a, s₁, new₁, h₁, hp₁, hn₁⟩ := hm s
  obtain ⟨b, s₂, new₂, h₂, hp₂, hn₂⟩ := hf a s₁
  refine ⟨b, s₂, new₁ ++ new₂, by simp [h₁, h₂], by simp [hp₂, hp₁], ?_⟩
  simp only [List.mem_append]
  rintro P (hP | hP)
  exacts [hn₁ P hP, hn₂ P hP]

theorem sendsOnly_adaptorSendUnauthorized : SendsOnly p adaptorSendUnauthorized := by
  intro s
  obtain ⟨rx, ab, h⟩ := adaptorSendUnauthorized_frame s
  exact ⟨(), _, [], h, by simp, by simp⟩

theorem sendsOnly_adaptorSendPacket {buf : List UInt8} (hlen : buf.length ≤ nabuMaxPacketSize)
    (hp : p buf) : SendsOnly p (adaptorSendPacket buf) := by
  intro s
  obtain ⟨rx, tx, ab, h⟩ := adaptorSendPacket_frame hlen s
  exact ⟨(), _, [buf], h, rfl, by simpa using hp⟩

end SendsOnly

/-! ## The two packets -/

/-- The trailer both paths write: `nabu_set_crc` of the CRC-16/GENIBUS of everything before
it. -/
def CrcTrailer (P : List UInt8) : Prop :=
  nabuHeaderSize + nabuFooterSize ≤ P.length ∧
    P.drop (P.length - nabuFooterSize) = nabuSetCrc
      (crc16GenibusFini (crc16GenibusUpdate (P.take (P.length - nabuFooterSize)) crc16GenibusInit))

theorem crcTrailer_append {X : List UInt8} (h : nabuHeaderSize ≤ X.length) :
    CrcTrailer (X ++ nabuSetCrc (crc16Genibus X)) := by
  have hl : (X ++ nabuSetCrc (crc16Genibus X)).length - nabuFooterSize = X.length := by simp
  refine ⟨by simp [h], ?_⟩
  rw [hl, List.drop_left, List.take_left]
  rfl

variable (initPkthdr : PktHdrInit) (image : UInt32) {segment : UInt16} {img : Image}

theorem crcTrailer_rawPacket : CrcTrailer (rawPacket initPkthdr image segment img) :=
  crcTrailer_append (by simp [PktHdr.length_eq])

theorem crcTrailer_pakPacket (hoff : pakOffset segment < img.length)
    (hlen : nabuHeaderSize + nabuFooterSize ≤
      (truncate img.length (pakOffset segment) nabuTotalPayloadSize).1) :
    CrcTrailer (pakPacket segment img) := by
  refine crcTrailer_append ?_
  simp only [List.length_take, length_segment _ hoff]
  simp only [nabuHeaderSize, nabuFooterSize] at hlen ⊢
  omega

/-! ## `adaptor_send_pak` and `adaptor_send_image` -/

section Sends

variable {p : List UInt8 → Prop}

theorem sendsOnly_unauthorized_pure (b : Bool) :
    SendsOnly p (do adaptorSendUnauthorized; pure b) :=
  sendsOnly_adaptorSendUnauthorized.bind fun _ ↦ .pure b

theorem sendsOnly_packet_pure {buf : List UInt8} (hlen : buf.length ≤ nabuMaxPacketSize)
    (hp : p buf) (b : Bool) : SendsOnly p (do adaptorSendPacket buf; pure b) :=
  (sendsOnly_adaptorSendPacket hlen hp).bind fun _ ↦ .pure b

/-- `adaptor_send_pak` completes, and hands on only buffers with `p`, as soon as `p` holds of the
packet wherever it is sent. -/
theorem sendsOnly_adaptorSendPak
    (hpak : pakOffset segment < img.length → nabuHeaderSize + nabuFooterSize ≤
      (truncate img.length (pakOffset segment) nabuTotalPayloadSize).1 →
      p (pakPacket segment img)) :
    SendsOnly p (adaptorSendPak image segment img) := by
  intro s
  obtain ⟨t, b, ht, h | ⟨hoff, hlen, h⟩⟩ := @adaptorSendPak_cases image segment img s <;>
    rw [h] <;> rcases ht with rfl | rfl
  iterate 2 exact sendsOnly_unauthorized_pure b _
  iterate 2 exact sendsOnly_packet_pure (length_pakPacket_le hoff hlen) (hpak hoff hlen) b _

/-- `adaptor_send_image` completes, and hands on only buffers with `p`, as soon as `p` holds of
the two packets wherever they are sent. -/
theorem sendsOnly_adaptorSendImage
    (hraw : img.isPak = false → rawOffset segment < img.length →
      p (rawPacket initPkthdr image segment img))
    (hpak : img.isPak = true → pakOffset segment < img.length →
      nabuHeaderSize + nabuFooterSize ≤
        (truncate img.length (pakOffset segment) nabuTotalPayloadSize).1 →
      p (pakPacket segment img)) :
    SendsOnly p (adaptorSendImage initPkthdr image segment img) := by
  intro s
  obtain ⟨t, b, ht, h | ⟨hp, hoff, h⟩ | ⟨hp, hoff, hlen, h⟩⟩ :=
    @adaptorSendImage_cases initPkthdr image segment img s <;> rw [h] <;> rcases ht with rfl | rfl
  iterate 2 exact sendsOnly_unauthorized_pure b _
  iterate 2 exact sendsOnly_packet_pure (length_rawPacket_le hoff) (hraw hp hoff) b _
  iterate 2 exact sendsOnly_packet_pure (length_pakPacket_le hoff hlen) (hpak hp hoff hlen) b _

end Sends

/-! ## Bounds -/

/-- A buffer `adaptor_send_packet` can take: at most `NABU_MAXPACKETSIZE` bytes, escaped into
one more byte per `ESCAPE`, so into at most twice that. -/
def FitsPktbuf (P : List UInt8) : Prop :=
  P.length ≤ nabuMaxPacketSize ∧
    (adaptorEscapePacket P).length = P.length + P.count nabuMsgEscape ∧
    (adaptorEscapePacket P).length ≤ 2 * nabuMaxPacketSize

theorem fitsPktbuf_of_length_le {P : List UInt8} (h : P.length ≤ nabuMaxPacketSize) :
    FitsPktbuf P :=
  ⟨h, length_adaptorEscapePacket P, (length_adaptorEscapePacket_le P).trans (by omega)⟩

/-- **`adaptor_send_image` is safe.**  For every image and segment: the offsets are computed
without overflow, `img->data` is never read outside `[0, length)`, the `assert` of
`adaptor_send_packet` and the `log_fatal` of `adaptor_send_image` are never reached, and every
packet — and its escaped form in `pktbuf` — is within bounds. -/
theorem adaptorSendImage_bounded (segment : UInt16) (img : Image) :
    rawOffset segment < 0x80000000 ∧ pakOffset segment + nabuTotalPayloadSize < 0x80000000 ∧
      SendsOnly FitsPktbuf (adaptorSendImage initPkthdr image segment img) := by
  have := UInt16.toNat_lt_size segment
  refine ⟨?_, ?_, sendsOnly_adaptorSendImage initPkthdr image
    (fun _ hoff ↦ fitsPktbuf_of_length_le (length_rawPacket_le hoff))
    (fun _ hoff hlen ↦ fitsPktbuf_of_length_le (length_pakPacket_le hoff hlen))⟩ <;>
  simp only [rawOffset, pakOffset, nabuTotalPayloadSize, nabuMaxPayloadSize, nabuHeaderSize,
    nabuFooterSize, UInt16.size] at this ⊢ <;> omega

/-- **Both paths write the same trailer.**  Every packet `adaptor_send_image` or
`adaptor_send_pak` sends is at least a header and a footer long and ends in the big-endian
CRC-16/GENIBUS of everything before it. -/
theorem adaptorSendImage_crc (segment : UInt16) (img : Image) :
    SendsOnly CrcTrailer (adaptorSendImage initPkthdr image segment img) ∧
      SendsOnly CrcTrailer (adaptorSendPak image segment img) :=
  ⟨sendsOnly_adaptorSendImage initPkthdr image (fun _ _ ↦ crcTrailer_rawPacket _ _)
      (fun _ hoff hlen ↦ crcTrailer_pakPacket hoff hlen),
    sendsOnly_adaptorSendPak image (fun hoff hlen ↦ crcTrailer_pakPacket hoff hlen)⟩

/-! ## The packet on the wire -/

/-- **What the NABU decodes.**  After its `ACK`, `adaptor_send_packet` writes `pktbuf` — the
escaped packet — and `FINISHED`; decoding that and any continuation gives back the packet and
exactly the continuation. -/
theorem adaptorSendPacket_unescape {buf rx : List UInt8} {s : Conn}
    (hlen : buf.length ≤ nabuMaxPacketSize) (h : s.rx = nabuMsgAck ++ rx) :
    ∃ s', adaptorSendPacket buf s = .ok ((), s') ∧
      s'.tx = s.tx ++ nabuServiceAuthorized :: (s'.pktbuf ++ nabuMsgFinished) ∧
      ∀ rest, nabuUnescape (s'.pktbuf ++ nabuMsgFinished ++ rest) = some (buf, rest) :=
  ⟨_, adaptorSendPacket_ack hlen h, rfl, nabuUnescape_escape_finished buf⟩

theorem adaptorSendPacket_unescape_escape :
    ([nabuMsgEscape].length ≤ nabuMaxPacketSize ∧
      (Conn.calloc nabuMsgAck).rx = nabuMsgAck ++ []) ∧
    ∃ s', adaptorSendPacket [nabuMsgEscape] (Conn.calloc nabuMsgAck) = .ok ((), s') ∧
      s'.tx = (Conn.calloc nabuMsgAck).tx ++ nabuServiceAuthorized :: (s'.pktbuf ++ nabuMsgFinished) ∧
      ∀ rest, nabuUnescape (s'.pktbuf ++ nabuMsgFinished ++ rest) = some ([nabuMsgEscape], rest) :=
  ⟨⟨by decide, rfl⟩, adaptorSendPacket_unescape (by decide) rfl⟩

end Nabud
