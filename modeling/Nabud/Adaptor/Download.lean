import Nabud.Adaptor.Requests

/-!
# Serving an image, segment after segment

A NABU loads a program by asking for its segments one after another: a `PACKET_REQUEST` for
segment 0, 1, … of the image, each answered by `ACK`, `CONFIRMED` and a packet offered with
`AUTHORIZED`, which the NABU acknowledges before the escaped bytes come.  This file follows such
sessions through `adaptor_event_loop` and reads what goes out the way the NABU does.

## What is here

* `nabuReadSegment` is the NABU's side of one answer: `ACK` and `CONFIRMED`, then
  `UNAUTHORIZED`, or `AUTHORIZED` and the packet de-escaped up to `FINISHED`.
  `nabuReadSegments` reads the answers to `k` requests.
* `segmentOutcome` says what `adaptor_send_image` does with a segment once `malloc` succeeds —
  which packet it sends, if any, and which `last` it returns — for both kinds of image.
  `adaptorSendImage_outcome` and `adaptorEventLoopBody_segment` are the step lemmas, for the
  sender and for one turn of the loop.
* `adaptorEventLoop_segments`: on any sequence of segment requests for one image — in any
  order, repeated, past the end — the NABU reads back, answer by answer, exactly the packet of
  each requested segment or `UNAUTHORIZED`, and `l_last_image` follows the last request.
* `adaptorEventLoop_download`: a NABU that asks for segments `0 … ⌈L/991⌉-1` of a raw image gets
  packets whose CRCs check, whose headers carry the segment, its offset and the last-segment
  flag on the final one only, and whose payloads put the image back together; the cached image
  is released at the end.
* `adaptorEventLoop_pakDownload`: a NABU that asks for segments `0 … k` of a well-framed PAK gets
  the stored segments back, each with its CRC rewritten — byte for byte where the stored CRC was
  right — and the cached image is released at the end.
-/

set_option autoImplicit false

namespace Nabud

/-! ## The NABU's side -/

/-- What follows `CONFIRMED` in an answer to a segment request: the packet offered with
`AUTHORIZED`, escaped and closed by `FINISHED`, or `UNAUTHORIZED`. -/
def serviceAnswer : Option (List UInt8) → List UInt8
  | some P => nabuServiceAuthorized :: (adaptorEscapePacket P ++ nabuMsgFinished)
  | none => [nabuServiceUnauthorized]

/-- The whole answer to a segment request. -/
def segmentAnswer (o : Option (List UInt8)) : List UInt8 :=
  nabuMsgAck ++ [nabuStateConfirmed] ++ serviceAnswer o

/-- The NABU reading the answer to one `PACKET_REQUEST`: `ACK` and `CONFIRMED`, then
`UNAUTHORIZED` (`none`), or `AUTHORIZED` and the packet up to `FINISHED`; with the rest of the
stream.  `none` when the stream has another shape. -/
def nabuReadSegment (wire : List UInt8) : Option (Option (List UInt8) × List UInt8) :=
  match wire with
  | a₀ :: a₁ :: c :: svc :: rest =>
    if [a₀, a₁] = nabuMsgAck ∧ c = nabuStateConfirmed then
      if svc = nabuServiceUnauthorized then some (none, rest)
      else if svc = nabuServiceAuthorized then (nabuUnescape rest).map fun r ↦ (some r.1, r.2)
      else none
    else none
  | _ => none

/-- The NABU reading the answers to `k` requests. -/
def nabuReadSegments : Nat → List UInt8 → Option (List (Option (List UInt8)) × List UInt8)
  | 0, wire => some ([], wire)
  | k + 1, wire => do
    let (o, wire) ← nabuReadSegment wire
    let (os, wire) ← nabuReadSegments k wire
    pure (o :: os, wire)

/-- The payload the NABU takes out of a packet: what lies between the 16-byte header and the
2-byte CRC. -/
def nabuPayload (P : List UInt8) : List UInt8 :=
  (P.drop nabuHeaderSize).take (P.length - nabuHeaderSize - nabuFooterSize)

theorem nabuReadSegment_answer (o : Option (List UInt8)) (rest : List UInt8) :
    nabuReadSegment (segmentAnswer o ++ rest) = some (o, rest) := by
  cases o with
  | none => simp [segmentAnswer, serviceAnswer, nabuReadSegment, nabuMsgAck]
  | some P =>
    have hne : nabuServiceAuthorized ≠ nabuServiceUnauthorized := by decide
    simp [segmentAnswer, serviceAnswer, nabuReadSegment, nabuMsgAck, hne,
      ← List.append_assoc, nabuUnescape_escape_finished]

theorem nabuReadSegments_answers (os : List (Option (List UInt8))) (rest : List UInt8) :
    nabuReadSegments os.length (os.flatMap segmentAnswer ++ rest) = some (os, rest) := by
  induction os with
  | nil => rfl
  | cons o os ih =>
    simp [nabuReadSegments, List.append_assoc, nabuReadSegment_answer, ih]

/-! ## One segment request -/

/-- What `adaptor_send_image` does with a segment once `malloc` succeeds: the packet it hands
`adaptor_send_packet`, if it sends one, and the `last` it returns. -/
def segmentOutcome (initPkthdr : PktHdrInit) (image : UInt32) (segment : UInt16) (img : Image) :
    Option (List UInt8) × Bool :=
  if img.isPak then
    if img.length ≤ pakOffset segment then (none, false)
    else
      let t := truncate img.length (pakOffset segment) nabuTotalPayloadSize
      (if t.1 < nabuHeaderSize + nabuFooterSize then none else some (pakPacket segment img), t.2)
  else if img.length ≤ rawOffset segment then (none, false)
  else (some (rawPacket initPkthdr image segment img),
    (truncate img.length (rawOffset segment) nabuMaxPayloadSize).2)

/-- Every `malloc` the connection will make succeeds. -/
def Conn.AllocOk (s : Conn) : Prop := ∀ a ∈ s.allocs, a = true

theorem Conn.AllocOk.headD {s : Conn} (h : s.AllocOk) : s.allocs.headD true = true := by
  cases hs : s.allocs with
  | nil => rfl
  | cons a as => exact h a (by simp [hs])

theorem Conn.AllocOk.popAlloc {s : Conn} (h : s.AllocOk) : s.popAlloc.AllocOk :=
  fun a ha ↦ h a (List.mem_of_mem_tail ha)

section Sender

variable {initPkthdr : PktHdrInit} {image : UInt32} {segment : UInt16} {img : Image}
  {s : Conn} {rest : List UInt8}

/-- What a segment leaves in the connection: `s'` is `s` but for the wire, the packet buffer
and its history, and the allocations made; and allocations still succeed. -/
def Conn.SameBut (s' s : Conn) : Prop :=
  s' = { s with
    rx := s'.rx, tx := s'.tx, pktbuf := s'.pktbuf, allocs := s'.allocs, packets := s'.packets } ∧
    s'.AllocOk

theorem unauthorized_outcome (h : s.rx = nabuMsgAck ++ rest) (ha : s.AllocOk) (b : Bool) :
    ∃ s', (do adaptorSendUnauthorized; pure b) s = .ok (b, s') ∧ s'.rx = rest ∧
      s'.tx = s.tx ++ serviceAnswer none ∧ s'.SameBut s :=
  ⟨_, unauthorized_pure_ack b h, rfl, rfl, rfl, ha⟩

theorem packet_outcome {P : List UInt8} (hlen : P.length ≤ nabuMaxPacketSize)
    (h : s.rx = nabuMsgAck ++ rest) (ha : s.AllocOk) (b : Bool) :
    ∃ s', (do adaptorSendPacket P; pure b) s.popAlloc = .ok (b, s') ∧ s'.rx = rest ∧
      s'.tx = s.tx ++ serviceAnswer (some P) ∧ s'.SameBut s :=
  ⟨_, packet_pure_ack hlen b h, rfl, rfl, rfl, ha.popAlloc⟩

/-- One segment through `adaptor_send_image`, with the NABU's `ACK` waiting: it answers with its
`segmentOutcome`. -/
theorem adaptorSendImage_outcome (h : s.rx = nabuMsgAck ++ rest) (ha : s.AllocOk) :
    ∃ s', adaptorSendImage initPkthdr image segment img s =
        .ok ((segmentOutcome initPkthdr image segment img).2, s') ∧ s'.rx = rest ∧
      s'.tx = s.tx ++ serviceAnswer (segmentOutcome initPkthdr image segment img).1 ∧
      s'.SameBut s := by
  cases hp : img.isPak
  · rcases Nat.lt_or_ge (rawOffset segment) img.length with hoff | hoff
    · rw [adaptorSendImage_raw_packet hp hoff ha.headD]
      simpa [segmentOutcome, hp, Nat.not_le.2 hoff] using
        packet_outcome (length_rawPacket_le hoff) h ha _
    · rw [adaptorSendImage_raw_unauthorized hp hoff]
      simpa [segmentOutcome, hp, hoff] using unauthorized_outcome h ha false
  · rw [adaptorSendImage_pak hp]
    rcases Nat.lt_or_ge (pakOffset segment) img.length with hoff | hoff
    · by_cases hlen : (truncate img.length (pakOffset segment) nabuTotalPayloadSize).1 <
          nabuHeaderSize + nabuFooterSize
      · rw [adaptorSendPak_short hoff hlen]
        simpa [segmentOutcome, hp, Nat.not_le.2 hoff, hlen] using unauthorized_outcome h ha _
      · rw [adaptorSendPak_packet hoff (Nat.not_lt.1 hlen) ha.headD]
        simpa [segmentOutcome, hp, Nat.not_le.2 hoff, hlen] using
          packet_outcome (length_pakPacket_le hoff (Nat.not_lt.1 hlen)) h ha _
    · rw [adaptorSendPak_unauthorized hoff]
      simpa [segmentOutcome, hp, hoff] using unauthorized_outcome h ha false

end Sender

/-- The requests for segments `segs` of the image numbered `i₀ i₁ i₂`. -/
def segmentRequests (segs : List UInt8) (i₀ i₁ i₂ : UInt8) : List UInt8 :=
  segs.flatMap fun seg ↦ (Request.packetRequest seg i₀ i₁ i₂).encode

/-- `l_last_image` once `image_unload` has seen a segment's `last`. -/
def cacheAfter (img : Image) (last : Bool) : Option Image := if last then none else some img

section Loop

variable {env : Env} {i₀ i₁ i₂ : UInt8} {img : Image} {s : Conn} {rest : List UInt8}

/-- **One segment request through the loop.**  A `PACKET_REQUEST` for a segment of a stored
image is answered with the segment's outcome, and the image is cached unless the segment was the
last. -/
theorem adaptorEventLoopBody_segment (env : Env) {seg : UInt8}
    (hn : nabuGetUint24 i₀ i₁ i₂ ≠ nabuImageTime)
    (hload : env.imageLoad s.channel (nabuGetUint24 i₀ i₁ i₂) = some img) (ha : s.AllocOk)
    (h : s.rx = (Request.packetRequest seg i₀ i₁ i₂).encode ++ rest) :
    ∃ s', adaptorEventLoopBody env s = .ok (true, s') ∧ s'.rx = rest ∧
      s'.tx = s.tx ++ segmentAnswer
        (segmentOutcome env.initPkthdr (nabuGetUint24 i₀ i₁ i₂) seg.toUInt16 img).1 ∧
      s'.channel = s.channel ∧ s'.AllocOk ∧
      s'.lastImage = cacheAfter img
        (segmentOutcome env.initPkthdr (nabuGetUint24 i₀ i₁ i₂) seg.toUInt16 img).2 := by
  let s₁ : Conn := { s with
    rx := [seg, i₀, i₁, i₂] ++ (nabuMsgAck ++ rest)
    dispatched := s.dispatched ++ [.packetRequest] }
  obtain ⟨s₂, hsend, hrx, htx, hf, ha₂⟩ :=
    @adaptorSendImage_outcome env.initPkthdr (nabuGetUint24 i₀ i₁ i₂) seg.toUInt16 img
      (s₁.requestRead (nabuMsgAck ++ rest)) rest rfl ha
  have hpr := adaptorMsgPacketRequest_image (s := s₁) rfl hn hload hsend
  refine ⟨_, adaptorEventLoopBody_classic env .packetRequest (by simpa [Request.encode] using h) hpr,
    hrx, ?_, (congrArg Conn.channel hf).trans rfl, ha₂, rfl⟩
  simp [htx, s₁, Conn.requestRead, segmentAnswer]

/-- The adaptor's side of a session: the loop answers each request in turn. -/
theorem adaptorEventLoop_segments_wire (env : Env) (segs : List UInt8)
    (hn : nabuGetUint24 i₀ i₁ i₂ ≠ nabuImageTime)
    (hload : env.imageLoad s.channel (nabuGetUint24 i₀ i₁ i₂) = some img) (ha : s.AllocOk)
    (h : s.rx = segmentRequests segs i₀ i₁ i₂ ++ rest) :
    ∃ s', adaptorEventLoop env segs.length s = .ok (false, s') ∧ s'.rx = rest ∧
      s'.tx = s.tx ++ segs.flatMap (fun seg ↦ segmentAnswer
        (segmentOutcome env.initPkthdr (nabuGetUint24 i₀ i₁ i₂) seg.toUInt16 img).1) ∧
      s'.lastImage = segs.foldl (fun _ seg ↦ cacheAfter img
        (segmentOutcome env.initPkthdr (nabuGetUint24 i₀ i₁ i₂) seg.toUInt16 img).2) s.lastImage := by
  induction segs generalizing s with
  | nil => exact ⟨s, rfl, by simpa [segmentRequests] using h, by simp, rfl⟩
  | cons seg segs ih =>
    obtain ⟨s₁, hbody, hrx, htx, hch, ha₁, hli⟩ := adaptorEventLoopBody_segment env hn hload ha
      (by simpa [segmentRequests, List.append_assoc] using h)
    obtain ⟨s', hrun, hrx', htx', hli'⟩ :=
      ih (hch ▸ hload) ha₁ (by simpa [segmentRequests] using hrx)
    exact ⟨s', (adaptorEventLoop_succ _ hbody).trans hrun, hrx', by simp [htx', htx],
      by simpa [hli] using hli'⟩

/-- **Any session of segment requests.**  On any sequence of `PACKET_REQUEST`s for segments of a
stored image — in any order, repeated, past the end — with every allocation succeeding, the loop
takes exactly the requests, and the NABU reads back, answer by answer, the packet
`adaptor_send_image` builds for each requested segment, or `UNAUTHORIZED` where there is none.
`l_last_image` is then set by the last request alone: the image stays cached unless that request
was for its last segment, also when it asked for a segment past the end. -/
theorem adaptorEventLoop_segments (env : Env) (segs : List UInt8)
    (hn : nabuGetUint24 i₀ i₁ i₂ ≠ nabuImageTime)
    (hload : env.imageLoad s.channel (nabuGetUint24 i₀ i₁ i₂) = some img) (ha : s.AllocOk)
    (h : s.rx = segmentRequests segs i₀ i₁ i₂ ++ rest) :
    ∃ s' wire, adaptorEventLoop env segs.length s = .ok (false, s') ∧ s'.rx = rest ∧
      s'.tx = s.tx ++ wire ∧
      nabuReadSegments segs.length wire = some (segs.map fun seg ↦
        (segmentOutcome env.initPkthdr (nabuGetUint24 i₀ i₁ i₂) seg.toUInt16 img).1, []) ∧
      s'.lastImage = segs.foldl (fun _ seg ↦ cacheAfter img
        (segmentOutcome env.initPkthdr (nabuGetUint24 i₀ i₁ i₂) seg.toUInt16 img).2)
        s.lastImage := by
  obtain ⟨s', hrun, hrx, htx, hli⟩ := adaptorEventLoop_segments_wire env segs hn hload ha h
  refine ⟨s', _, hrun, hrx, htx, ?_, hli⟩
  simpa [List.flatMap_map] using nabuReadSegments_answers (segs.map fun seg ↦
    (segmentOutcome env.initPkthdr (nabuGetUint24 i₀ i₁ i₂) seg.toUInt16 img).1) []

/-- The NABU asking for the second segment of `twoSegmentImage`, one past its end, then the
first. -/
def outOfOrderConn : Conn := Conn.calloc (segmentRequests [1, 5, 0] 1 0 0)

theorem adaptorEventLoop_segments_outOfOrder :
    nabuGetUint24 1 0 0 ≠ nabuImageTime ∧
    twoSegmentEnv.imageLoad outOfOrderConn.channel (nabuGetUint24 1 0 0) = some twoSegmentImage ∧
    outOfOrderConn.AllocOk ∧ outOfOrderConn.rx = segmentRequests [1, 5, 0] 1 0 0 ++ [] ∧
    ∃ s' wire, adaptorEventLoop twoSegmentEnv [1, 5, 0].length outOfOrderConn = .ok (false, s') ∧
      s'.rx = [] ∧ s'.tx = outOfOrderConn.tx ++ wire ∧
      nabuReadSegments [1, 5, 0].length wire = some ([1, 5, 0].map fun (seg : UInt8) ↦
        (segmentOutcome twoSegmentEnv.initPkthdr (nabuGetUint24 1 0 0) seg.toUInt16
          twoSegmentImage).1, []) ∧
      s'.lastImage = [1, 5, 0].foldl (fun _ (seg : UInt8) ↦ cacheAfter twoSegmentImage
        (segmentOutcome twoSegmentEnv.initPkthdr (nabuGetUint24 1 0 0) seg.toUInt16
          twoSegmentImage).2) outOfOrderConn.lastImage :=
  have hn : nabuGetUint24 1 0 0 ≠ nabuImageTime := by decide
  have hload : twoSegmentEnv.imageLoad outOfOrderConn.channel (nabuGetUint24 1 0 0) =
      some twoSegmentImage := by
    simp [twoSegmentEnv, show nabuGetUint24 1 0 0 = 1 by decide]
  have ha : outOfOrderConn.AllocOk := fun _ h ↦ by simp [outOfOrderConn, Conn.calloc] at h
  ⟨hn, hload, ha, (List.append_nil _).symm,
    adaptorEventLoop_segments twoSegmentEnv [1, 5, 0] hn hload ha (List.append_nil _).symm⟩

end Loop

/-! ## A whole download -/

/-- The number of segments of a raw image of length `L ≥ 1`: `⌈L/991⌉`. -/
def rawSegmentCount (img : Image) : Nat := (img.length - 1) / nabuMaxPayloadSize + 1

/-- The segment numbers a NABU asks for to load `k` segments: `0, 1, …, k-1`. -/
def downloadSegments (k : Nat) : List UInt8 := (List.range k).map Nat.toUInt8

theorem toUInt16_toUInt8 {i : Nat} (hi : i < 256) : i.toUInt8.toUInt16 = UInt16.ofNat i := by
  apply UInt16.toNat.inj
  rw [UInt16.toNat_ofNat_of_lt (show i < 65536 by omega)]
  exact UInt8.toNat_ofNat_of_lt hi

section Raw

variable {initPkthdr : PktHdrInit} {image : UInt32} {img : Image} {i : Nat}

theorem rawOffset_ofNat (hi : i < 65536) : rawOffset (UInt16.ofNat i) = i * nabuMaxPayloadSize := by
  rw [rawOffset, UInt16.toNat_ofNat_of_lt hi]

theorem rawOffset_download (hL : 1 ≤ img.length) (hi : i < rawSegmentCount img) (h16 : i < 65536) :
    rawOffset (UInt16.ofNat i) < img.length := by
  rw [rawOffset_ofNat h16]
  simp only [rawSegmentCount, nabuMaxPayloadSize] at hi ⊢
  omega

theorem truncate_download (hL : 1 ≤ img.length) (hi : i < rawSegmentCount img)
    (h16 : i < 65536) :
    (truncate img.length (rawOffset (UInt16.ofNat i)) nabuMaxPayloadSize).2 =
      decide (i + 1 = rawSegmentCount img) := by
  rw [congrArg Prod.snd (truncate_raw (rawOffset_download hL hi h16)), UInt16.toNat_ofNat_of_lt h16]
  simp only [rawSegmentCount, nabuMaxPayloadSize, decide_eq_decide] at hi ⊢
  omega

/-- Segment `i < ⌈L/991⌉` of a raw image: its packet, and `last` exactly for the final one. -/
theorem segmentOutcome_download (hp : img.isPak = false) (hL : 1 ≤ img.length)
    (hi : i < rawSegmentCount img) (h16 : i < 65536) :
    segmentOutcome initPkthdr image (UInt16.ofNat i) img =
      (some (rawPacket initPkthdr image (UInt16.ofNat i) img),
        decide (i + 1 = rawSegmentCount img)) := by
  simp only [segmentOutcome, hp, Nat.not_le.2 (rawOffset_download hL hi h16), if_false,
    Bool.false_eq_true, truncate_download hL hi h16]

theorem nabuPayload_rawPacket {segment : UInt16} (hoff : rawOffset segment < img.length) :
    nabuPayload (rawPacket initPkthdr image segment img) =
      slice img.data (rawOffset segment)
        ((segment.toNat + 1) * nabuMaxPayloadSize ⊓ img.length) := by
  rw [rawPacket_eq hoff]
  simp [nabuPayload, PktHdr.length_eq, nabuHeaderSize]

theorem rawPacket_header {segment : UInt16} :
    (rawPacket initPkthdr image segment img).take nabuHeaderSize =
      (initPkthdr image segment (rawOffset segment)
        (truncate img.length (rawOffset segment) nabuMaxPayloadSize).2).bytes := by
  simp only [rawPacket, List.append_assoc]
  exact List.take_left' (PktHdr.length_eq _)

/-- The header of segment `i`'s packet: its offset `991·i`, and `last` on the final one only. -/
theorem rawPacket_header_download (hL : 1 ≤ img.length) (hi : i < rawSegmentCount img)
    (h16 : i < 65536) :
    (rawPacket initPkthdr image (UInt16.ofNat i) img).take nabuHeaderSize =
      (initPkthdr image (UInt16.ofNat i) (i * nabuMaxPayloadSize)
        (decide (i + 1 = rawSegmentCount img))).bytes := by
  rw [rawPacket_header, truncate_download hL hi h16, rawOffset_ofNat h16]

/-- The payloads of the packets of segments `0 … ⌈L/991⌉-1`, laid end to end, are the image. -/
theorem flatten_payload_download (hL : 1 ≤ img.length) (hk : rawSegmentCount img ≤ 256) :
    (((List.range (rawSegmentCount img)).map fun i ↦
      rawPacket initPkthdr image (UInt16.ofNat i) img).map nabuPayload).flatten = img.data := by
  have hslices : (((List.range (rawSegmentCount img)).map fun i ↦
      rawPacket initPkthdr image (UInt16.ofNat i) img).map nabuPayload).flatten =
      (List.range (rawSegmentCount img)).flatMap fun i ↦
        slice img.data (i * nabuMaxPayloadSize) ((i + 1) * nabuMaxPayloadSize ⊓ img.length) := by
    simp only [List.map_map, ← List.flatMap_def]
    refine List.flatMap_congr fun i hi ↦ ?_
    have hik := List.mem_range.1 hi
    rw [Function.comp_apply, nabuPayload_rawPacket (rawOffset_download hL hik (by omega)),
      rawOffset_ofNat (by omega), UInt16.toNat_ofNat_of_lt (show i < 65536 by omega)]
  refine hslices.trans ((flatMap_range_slice img.data _ _).trans (List.take_of_length_le ?_))
  simp only [rawSegmentCount, Image.length, nabuMaxPayloadSize] at hL ⊢
  omega

end Raw

/-- The last of `k ≥ 1` answers decides what is cached. -/
theorem foldl_download {α : Type} (f : UInt8 → α) (c : α) {k : Nat} (hk : 1 ≤ k) :
    (downloadSegments k).foldl (fun _ seg ↦ f seg) c = f (k - 1).toUInt8 := by
  obtain ⟨k, rfl⟩ : ∃ j, k = j + 1 := ⟨k - 1, by omega⟩
  simp [downloadSegments, List.range_succ]

/-- **A whole download.**  A NABU that asks, one request after another, for segments
`0 … ⌈L/991⌉-1` of a stored raw image of length `L ≥ 1` — which its one-byte segment number can
address only when `⌈L/991⌉ ≤ 256` — with every allocation succeeding, reads back `⌈L/991⌉`
packets.  Each has a CRC that checks and the header `nabu_init_pkthdr(image, i, 991·i, last)`,
`last` set on the final one only; their payloads, laid end to end, are the image; and the
cached image is released once the last segment has gone. -/
theorem adaptorEventLoop_download (env : Env) {i₀ i₁ i₂ : UInt8} {img : Image} {s : Conn}
    {rest : List UInt8} (hn : nabuGetUint24 i₀ i₁ i₂ ≠ nabuImageTime)
    (hload : env.imageLoad s.channel (nabuGetUint24 i₀ i₁ i₂) = some img)
    (hp : img.isPak = false) (hL : 1 ≤ img.length) (hk : rawSegmentCount img ≤ 256)
    (ha : s.AllocOk)
    (h : s.rx = segmentRequests (downloadSegments (rawSegmentCount img)) i₀ i₁ i₂ ++ rest) :
    ∃ (s' : Conn) (wire : List UInt8) (Ps : List (List UInt8)),
      adaptorEventLoop env (rawSegmentCount img) s =
      .ok (false, s') ∧
      s'.rx = rest ∧ s'.tx = s.tx ++ wire ∧
      nabuReadSegments (rawSegmentCount img) wire = some (Ps.map some, []) ∧
      Ps.length = rawSegmentCount img ∧
      (∀ i P, Ps[i]? = some P → CrcTrailer P ∧
        P.take nabuHeaderSize = (env.initPkthdr (nabuGetUint24 i₀ i₁ i₂) (UInt16.ofNat i)
          (i * nabuMaxPayloadSize) (decide (i + 1 = rawSegmentCount img))).bytes) ∧
      (Ps.map nabuPayload).flatten = img.data ∧ s'.lastImage = none := by
  set k := rawSegmentCount img with hkdef
  set n := nabuGetUint24 i₀ i₁ i₂
  let Ps := (List.range k).map fun i ↦ rawPacket env.initPkthdr n (UInt16.ofNat i) img
  have hout : ∀ i < k, segmentOutcome env.initPkthdr n i.toUInt8.toUInt16 img =
      (some (rawPacket env.initPkthdr n (UInt16.ofNat i) img), decide (i + 1 = k)) := fun i hi ↦ by
    rw [toUInt16_toUInt8 (by omega)]
    exact segmentOutcome_download hp hL hi (by omega)
  obtain ⟨s', hrun, hrx, htx, hli⟩ :=
    adaptorEventLoop_segments_wire env (downloadSegments k) hn hload ha h
  have hlen : (downloadSegments k).length = k := by simp [downloadSegments]
  have hwire : (downloadSegments k).flatMap (fun seg ↦ segmentAnswer
      (segmentOutcome env.initPkthdr n seg.toUInt16 img).1) = (Ps.map some).flatMap segmentAnswer := by
    simp only [downloadSegments, List.flatMap_map, Ps, List.map_map]
    exact List.flatMap_congr fun i hi ↦ by simp [hout i (List.mem_range.1 hi)]
  refine ⟨s', _, Ps, hlen ▸ hrun, hrx, htx, ?_, by simp [Ps], fun i P hP ↦ ?_,
    flatten_payload_download hL hk, ?_⟩
  · simpa [hwire, Ps] using nabuReadSegments_answers (Ps.map some) []
  · obtain ⟨hi, rfl⟩ := List.getElem?_eq_some_iff.1 hP
    have hik : i < k := by simpa [Ps] using hi
    simp only [Ps, List.getElem_map, List.getElem_range]
    exact ⟨crcTrailer_rawPacket _ _, rawPacket_header_download hL hik (by omega)⟩
  · have hk1 : 1 ≤ k := by simp [hkdef, rawSegmentCount]
    rw [hli, foldl_download _ _ hk1, hout _ (by omega)]
    simp [cacheAfter, Nat.sub_add_cancel hk1]

/-- The NABU downloading the whole of `twoSegmentImage`, stored as image 1. -/
def downloadConn : Conn :=
  Conn.calloc (segmentRequests (downloadSegments (rawSegmentCount twoSegmentImage)) 1 0 0)

theorem adaptorEventLoop_download_twoSegments :
    nabuGetUint24 1 0 0 ≠ nabuImageTime ∧
    twoSegmentEnv.imageLoad downloadConn.channel (nabuGetUint24 1 0 0) = some twoSegmentImage ∧
    twoSegmentImage.isPak = false ∧ 1 ≤ twoSegmentImage.length ∧
    rawSegmentCount twoSegmentImage ≤ 256 ∧ downloadConn.AllocOk ∧
    downloadConn.rx =
      segmentRequests (downloadSegments (rawSegmentCount twoSegmentImage)) 1 0 0 ++ [] ∧
    ∃ (s' : Conn) (wire : List UInt8) (Ps : List (List UInt8)),
      adaptorEventLoop twoSegmentEnv (rawSegmentCount twoSegmentImage) downloadConn =
        .ok (false, s') ∧
      s'.rx = [] ∧ s'.tx = downloadConn.tx ++ wire ∧
      nabuReadSegments (rawSegmentCount twoSegmentImage) wire = some (Ps.map some, []) ∧
      Ps.length = rawSegmentCount twoSegmentImage ∧
      (∀ i P, Ps[i]? = some P → CrcTrailer P ∧
        P.take nabuHeaderSize = (twoSegmentEnv.initPkthdr (nabuGetUint24 1 0 0) (UInt16.ofNat i)
          (i * nabuMaxPayloadSize) (decide (i + 1 = rawSegmentCount twoSegmentImage))).bytes) ∧
      (Ps.map nabuPayload).flatten = twoSegmentImage.data ∧ s'.lastImage = none :=
  have hn : nabuGetUint24 1 0 0 ≠ nabuImageTime := by decide
  have hload : twoSegmentEnv.imageLoad downloadConn.channel (nabuGetUint24 1 0 0) =
      some twoSegmentImage := by
    simp [twoSegmentEnv, show nabuGetUint24 1 0 0 = 1 by decide]
  have hL : 1 ≤ twoSegmentImage.length := by rw [twoSegmentImage_length]; decide
  have hk : rawSegmentCount twoSegmentImage ≤ 256 := by
    rw [rawSegmentCount, twoSegmentImage_length]; decide
  have ha : downloadConn.AllocOk := fun _ h ↦ by simp [downloadConn, Conn.calloc] at h
  have h : downloadConn.rx =
      segmentRequests (downloadSegments (rawSegmentCount twoSegmentImage)) 1 0 0 ++ [] := by
    simp only [downloadConn, Conn.calloc, List.append_nil]
  ⟨hn, hload, rfl, hL, hk, ha, h, adaptorEventLoop_download twoSegmentEnv hn hload rfl hL hk ha h⟩

/-! ## A whole PAK -/

/-- A stored PAK segment as `adaptor_send_pak` sends it: its last two bytes replaced by the CRC
of the others. -/
def withCrc (seg : List UInt8) : List UInt8 :=
  seg.take (seg.length - 2) ++ nabuSetCrc (crc16Genibus (seg.take (seg.length - 2)))

theorem withCrc_crcTrailer {seg : List UInt8} (h : nabuHeaderSize + nabuFooterSize ≤ seg.length) :
    CrcTrailer (withCrc seg) :=
  crcTrailer_append (by simp only [List.length_take, nabuHeaderSize, nabuFooterSize] at h ⊢; omega)

/-- A segment whose stored CRC is right goes out as it is stored. -/
theorem withCrc_of_crcTrailer {seg : List UInt8} (h : CrcTrailer seg) : withCrc seg = seg := by
  conv_rhs => rw [← List.take_append_drop (seg.length - nabuFooterSize) seg, h.2]
  rfl

theorem Pak.length_le_of_mem (pak : Pak) {seg : List UInt8} (h : seg ∈ pak.segs) :
    nabuHeaderSize + nabuFooterSize ≤ seg.length := by
  rcases List.mem_append.1 h with h | h
  · obtain ⟨p, hp, rfl⟩ := List.mem_map.1 h
    rw [pak.body_seg p hp]
    decide
  · rw [List.mem_singleton.1 h]
    exact pak.lastSeg_ge

section Pak

variable {initPkthdr : PktHdrInit} {image : UInt32} {img : Image} (pak : Pak)

/-- Segment `i ≤ k` of a well-framed PAK: its stored segment with the CRC rewritten, and `last`
exactly for segment `k`. -/
theorem segmentOutcome_pak (hp : img.isPak = true) (hd : img.data = pak.bytes) {i : Nat}
    {seg : List UInt8} (hseg : pak.segs[i]? = some seg) (h16 : i < 65536) :
    segmentOutcome initPkthdr image (UInt16.ofNat i) img =
      (some (withCrc seg), decide (i = pak.body.length)) := by
  have hL : img.length = pak.bytes.length := by rw [Image.length, hd]
  have hoff : pakOffset (UInt16.ofNat i) = storedOffset i := by
    rw [pakOffset_eq, UInt16.toNat_ofNat_of_lt h16]
  have hi : i ≤ pak.body.length := by
    have := (List.getElem?_eq_some_iff.1 hseg).1
    rw [pak.length_segs] at this
    omega
  rcases Nat.lt_or_eq_of_le hi with hi | rfl
  · obtain ⟨hlt, htr, hcut⟩ := pak.cut_body hi
    rw [pak.segs_body hi, Option.some.injEq] at hseg
    subst hseg
    have hlen := pak.body_seg _ (List.getElem_mem hi)
    have hfit : ¬ nabuTotalPayloadSize < nabuHeaderSize + nabuFooterSize := by decide
    simp [segmentOutcome, hp, hoff, hL, htr, Nat.not_le.2 hlt, hfit, pakPacket, hd, hcut, withCrc,
      hlen, Nat.ne_of_lt hi]
  · obtain ⟨hlt, htr, hcut⟩ := pak.cut_last
    rw [pak.segs_last, Option.some.injEq] at hseg
    subst hseg
    simp [segmentOutcome, hp, hoff, hL, htr, Nat.not_le.2 hlt, Nat.not_lt.2 pak.lastSeg_ge,
      pakPacket, hd, hcut, withCrc]

/-- **A whole PAK download.**  A NABU that asks, one request after another, for segments
`0 … k` of a stored, well-framed PAK — which its one-byte segment number can address only when
`k < 256` — with every allocation succeeding, reads back exactly the PAK's stored segments, in
order, each with its CRC rewritten, so that every CRC checks and a segment whose stored CRC was
right goes out byte for byte as stored; and the cached image is released once the last segment
has gone. -/
theorem adaptorEventLoop_pakDownload (env : Env) {i₀ i₁ i₂ : UInt8} {s : Conn}
    {rest : List UInt8} (hn : nabuGetUint24 i₀ i₁ i₂ ≠ nabuImageTime)
    (hload : env.imageLoad s.channel (nabuGetUint24 i₀ i₁ i₂) = some img)
    (hp : img.isPak = true) (hd : img.data = pak.bytes) (hk : pak.segs.length ≤ 256)
    (ha : s.AllocOk)
    (h : s.rx = segmentRequests (downloadSegments pak.segs.length) i₀ i₁ i₂ ++ rest) :
    ∃ (s' : Conn) (wire : List UInt8),
      adaptorEventLoop env pak.segs.length s = .ok (false, s') ∧
      s'.rx = rest ∧ s'.tx = s.tx ++ wire ∧
      nabuReadSegments pak.segs.length wire = some (pak.segs.map (some ∘ withCrc), []) ∧
      (∀ seg ∈ pak.segs, CrcTrailer (withCrc seg) ∧ (CrcTrailer seg → withCrc seg = seg)) ∧
      s'.lastImage = none := by
  set k := pak.segs.length with hkdef
  set n := nabuGetUint24 i₀ i₁ i₂
  have hout : (List.range k).map (fun i ↦ (segmentOutcome env.initPkthdr n i.toUInt8.toUInt16
      img).1) = pak.segs.map (some ∘ withCrc) := by
    refine List.ext_getElem? fun i ↦ ?_
    rcases hseg : pak.segs[i]? with _ | seg
    · simp [List.getElem?_map, hseg, List.getElem?_range, List.getElem?_eq_none_iff.1 hseg]
    · obtain ⟨hi, hget⟩ := List.getElem?_eq_some_iff.1 hseg
      simp [List.getElem?_map, hseg, hi, hget, toUInt16_toUInt8 (show i < 256 by omega),
        segmentOutcome_pak pak hp hd hseg (show i < 65536 by omega)]
  obtain ⟨s', hrun, hrx, htx, hli⟩ :=
    adaptorEventLoop_segments_wire env (downloadSegments k) hn hload ha h
  have hlen : (downloadSegments k).length = k := by simp [downloadSegments]
  have hwire : (downloadSegments k).flatMap (fun seg ↦ segmentAnswer
      (segmentOutcome env.initPkthdr n seg.toUInt16 img).1) =
      (pak.segs.map (some ∘ withCrc)).flatMap segmentAnswer := by
    rw [← hout, List.flatMap_map, downloadSegments, List.flatMap_map]
  refine ⟨s', _, hlen ▸ hrun, hrx, htx, ?_, fun seg hseg ↦
    ⟨withCrc_crcTrailer (pak.length_le_of_mem hseg), withCrc_of_crcTrailer⟩, ?_⟩
  · simpa [hwire] using nabuReadSegments_answers (pak.segs.map (some ∘ withCrc)) []
  · have hk1 : k = pak.body.length + 1 := pak.length_segs
    obtain ⟨seg, hseg⟩ : ∃ seg, pak.segs[pak.body.length]? = some seg := ⟨_, pak.segs_last⟩
    rw [hli, foldl_download _ _ (by omega), hk1, Nat.add_sub_cancel,
      toUInt16_toUInt8 (by omega), segmentOutcome_pak pak hp hd hseg (by omega)]
    simp [cacheAfter]

end Pak

/-- Collaborators that serve `Pak.double.image` as image 1. -/
def pakEnv : Env := { Env.bare with imageLoad := fun _ n ↦ if n = 1 then some Pak.double.image else none }

/-- The NABU downloading the whole of `Pak.double`, stored as image 1. -/
def pakDownloadConn : Conn :=
  Conn.calloc (segmentRequests (downloadSegments Pak.double.segs.length) 1 0 0)

theorem adaptorEventLoop_pakDownload_double :
    nabuGetUint24 1 0 0 ≠ nabuImageTime ∧
    pakEnv.imageLoad pakDownloadConn.channel (nabuGetUint24 1 0 0) = some Pak.double.image ∧
    Pak.double.image.isPak = true ∧ Pak.double.image.data = Pak.double.bytes ∧
    Pak.double.segs.length ≤ 256 ∧ pakDownloadConn.AllocOk ∧
    pakDownloadConn.rx = segmentRequests (downloadSegments Pak.double.segs.length) 1 0 0 ++ [] ∧
    ∃ (s' : Conn) (wire : List UInt8),
      adaptorEventLoop pakEnv Pak.double.segs.length pakDownloadConn = .ok (false, s') ∧
      s'.rx = [] ∧ s'.tx = pakDownloadConn.tx ++ wire ∧
      nabuReadSegments Pak.double.segs.length wire =
        some (Pak.double.segs.map (some ∘ withCrc), []) ∧
      (∀ seg ∈ Pak.double.segs, CrcTrailer (withCrc seg) ∧ (CrcTrailer seg → withCrc seg = seg)) ∧
      s'.lastImage = none :=
  have hn : nabuGetUint24 1 0 0 ≠ nabuImageTime := by decide
  have hload : pakEnv.imageLoad pakDownloadConn.channel (nabuGetUint24 1 0 0) =
      some Pak.double.image := by
    simp [pakEnv, show nabuGetUint24 1 0 0 = 1 by decide]
  have hk : Pak.double.segs.length ≤ 256 := by decide
  have ha : pakDownloadConn.AllocOk := fun _ h ↦ by simp [pakDownloadConn, Conn.calloc] at h
  have h : pakDownloadConn.rx =
      segmentRequests (downloadSegments Pak.double.segs.length) 1 0 0 ++ [] := by
    simp only [pakDownloadConn, Conn.calloc, List.append_nil]
  ⟨hn, hload, rfl, rfl, hk, ha, h,
    adaptorEventLoop_pakDownload Pak.double pakEnv hn hload rfl rfl hk ha h⟩

end Nabud
