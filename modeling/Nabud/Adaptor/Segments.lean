import Nabud.Adaptor.Packets

/-!
# Segmenting an image

What a segment request returns, for the two kinds of image.

* A raw image — any image not loaded from a PAK channel, the synthetic time image included — is
  cut into `NABU_MAXPAYLOADSIZE`-byte payloads, each wrapped by `adaptor_send_image` in a header
  and a CRC.  `adaptorSendImage_raw_segments`: segment `s` carries `data[s·991, (s+1)·991)`
  (cut at the end of the image), is the last one exactly when `(s+1)·991 ≥ L`, and is refused
  past the end; so exactly one segment number reports the end, and the payloads of the segments
  up to it put the image back together.
* A PAK stores its segments already framed, each behind a two-byte tag, and `adaptor_send_pak`
  finds segment `s` at `s·1009 + 2s + 2`.  `adaptorSendImage_pak_segments`: on a well-framed
  file that offset lands exactly on each stored segment, the last one is reported last (also
  when it is a full 1009 bytes), and every segment number past it is refused.
-/

set_option autoImplicit false

namespace Nabud

/-- `data[a, b)`. -/
def slice (data : List UInt8) (a b : Nat) : List UInt8 := (data.take b).drop a

/-! ## Raw images -/

section Raw

variable {initPkthdr : PktHdrInit} {image : UInt32} {segment : UInt16} {img : Image}

theorem truncate_raw (hoff : rawOffset segment < img.length) :
    truncate img.length (rawOffset segment) nabuMaxPayloadSize =
      ((segment.toNat + 1) * nabuMaxPayloadSize ⊓ img.length - rawOffset segment,
        decide (img.length ≤ (segment.toNat + 1) * nabuMaxPayloadSize)) := by
  simp only [rawOffset, nabuMaxPayloadSize] at hoff ⊢
  by_cases h : img.length ≤ (segment.toNat + 1) * 991
  · rw [truncate, if_pos (by omega), decide_eq_true h]
    congr 1
    omega
  · rw [truncate, if_neg (by omega), decide_eq_false h]
    congr 1
    omega

/-- The payload `adaptor_send_image` reads is the slice of the image the segment covers. -/
theorem rawPacket_eq (hoff : rawOffset segment < img.length) :
    rawPacket initPkthdr image segment img =
      let last := decide (img.length ≤ (segment.toNat + 1) * nabuMaxPayloadSize)
      let hdr := (initPkthdr image segment (rawOffset segment) last).bytes
      let payload := slice img.data (rawOffset segment)
        ((segment.toNat + 1) * nabuMaxPayloadSize ⊓ img.length)
      hdr ++ payload ++ nabuSetCrc (crc16Genibus (hdr ++ payload)) := by
  simp only [rawPacket, truncate_raw hoff, slice, List.drop_take]

/-- The value `adaptor_send_image` returns for a raw image: whether the segment is the last. -/
theorem adaptorSendImage_raw_value (hp : img.isPak = false) (s : Conn) :
    ∃ s', adaptorSendImage initPkthdr image segment img s =
      .ok (decide (rawOffset segment < img.length ∧
        img.length ≤ (segment.toNat + 1) * nabuMaxPayloadSize), s') := by
  rcases Nat.lt_or_ge (rawOffset segment) img.length with hoff | hoff
  · have hlast := congrArg Prod.snd (truncate_raw hoff)
    simp only at hlast
    cases ha : s.allocs.headD true
    · obtain ⟨rx, ab, h⟩ := adaptorSendUnauthorized_frame s.popAlloc
      simp [adaptorSendImage_raw_nomem hp hoff ha, h, hlast, hoff]
    · obtain ⟨rx, tx, ab, h⟩ :=
        adaptorSendPacket_frame (@length_rawPacket_le initPkthdr image segment img hoff)
        s.popAlloc
      simp [adaptorSendImage_raw_packet hp hoff ha, h, hlast, hoff]
  · obtain ⟨rx, ab, h⟩ := adaptorSendUnauthorized_frame s
    simp [adaptorSendImage_raw_unauthorized hp hoff, h, Nat.not_lt.2 hoff]

/-- Consecutive slices of `n` bytes put a list back together. -/
theorem flatMap_range_slice (l : List UInt8) (n m : Nat) :
    ((List.range m).flatMap fun i ↦ slice l (i * n) ((i + 1) * n ⊓ l.length)) = l.take (m * n) := by
  induction m with
  | zero => simp
  | succ m ih =>
    have hs : slice l (m * n) ((m + 1) * n ⊓ l.length) = (l.take ((m + 1) * n)).drop (m * n) := by
      have ht : l.take ((m + 1) * n ⊓ l.length) = l.take ((m + 1) * n) :=
        List.take_eq_take.2 (by omega)
      rw [slice, ht]
    have hp : (l.take ((m + 1) * n)).take (m * n) = l.take (m * n) := by
      rw [List.take_take, Nat.min_eq_left (Nat.mul_le_mul_right n (Nat.le_succ m))]
    rw [List.range_succ, List.flatMap_append, ih, List.flatMap_singleton, hs, ← hp,
      List.take_append_drop]

/-- **Raw segments.**  Segment `s` of a raw image of length `L ≥ 1`, with the allocation
succeeding: past the end it is refused and reported not last; otherwise one packet goes out, the
header `nabu_init_pkthdr(image, s, s·991, last)`, the payload `data[s·991, min((s+1)·991, L))`
and their CRC, and `last` — the value returned — is `(s+1)·991 ≥ L`.  So for `L ≤ 65536·991`
exactly the segment number `⌈L/991⌉ - 1` returns true, and the payloads of the segments up to
it are the whole image. -/
theorem adaptorSendImage_raw_segments (initPkthdr : PktHdrInit) (image : UInt32) {img : Image}
    (hp : img.isPak = false) (hL : 1 ≤ img.length) :
    (∀ (segment : UInt16) (s : Conn), s.allocs.headD true = true →
      if img.length ≤ rawOffset segment then
        adaptorSendImage initPkthdr image segment img s = (do adaptorSendUnauthorized; pure false) s
      else
        let last := decide (img.length ≤ (segment.toNat + 1) * nabuMaxPayloadSize)
        let hdr := (initPkthdr image segment (rawOffset segment) last).bytes
        let payload := slice img.data (rawOffset segment)
          ((segment.toNat + 1) * nabuMaxPayloadSize ⊓ img.length)
        adaptorSendImage initPkthdr image segment img s =
          (do adaptorSendPacket (hdr ++ payload ++ nabuSetCrc (crc16Genibus (hdr ++ payload)))
              pure last) s.popAlloc) ∧
    (img.length ≤ 65536 * nabuMaxPayloadSize →
      (img.length - 1) / nabuMaxPayloadSize < 65536 ∧
      ∀ (segment : UInt16) (s : Conn), ∃ s', adaptorSendImage initPkthdr image segment img s =
        .ok (decide (segment.toNat = (img.length - 1) / nabuMaxPayloadSize), s')) ∧
    ((List.range ((img.length - 1) / nabuMaxPayloadSize + 1)).flatMap fun i ↦
      slice img.data (i * nabuMaxPayloadSize) ((i + 1) * nabuMaxPayloadSize ⊓ img.length)) =
      img.data := by
  refine ⟨fun segment s ha ↦ ?_, fun hmax ↦ ⟨?_, fun segment s ↦ ?_⟩, ?_⟩
  · split
    · exact adaptorSendImage_raw_unauthorized hp ‹_›
    · rename_i hoff
      rw [adaptorSendImage_raw_packet hp (Nat.not_le.1 hoff) ha,
        rawPacket_eq (Nat.not_le.1 hoff), truncate_raw (Nat.not_le.1 hoff)]
  · simp only [nabuMaxPayloadSize] at hmax ⊢; omega
  · obtain ⟨s', h⟩ := @adaptorSendImage_raw_value initPkthdr image segment img hp s
    refine ⟨s', h.trans ?_⟩
    congr 3
    simp only [rawOffset, nabuMaxPayloadSize, eq_iff_iff]
    omega
  · refine (flatMap_range_slice img.data _ _).trans (List.take_of_length_le ?_)
    simp only [Image.length, nabuMaxPayloadSize] at hL ⊢
    omega

theorem adaptorSendImage_raw_segments_time :
    (timeImage Tm.zero).isPak = false ∧ 1 ≤ (timeImage Tm.zero).length ∧
    ((∀ (segment : UInt16) (s : Conn), s.allocs.headD true = true →
      if (timeImage Tm.zero).length ≤ rawOffset segment then
        adaptorSendImage (fun _ _ _ _ ↦ ⟨List.replicate 16 0, rfl⟩) nabuImageTime segment
          (timeImage Tm.zero) s = (do adaptorSendUnauthorized; pure false) s
      else
        let last := decide ((timeImage Tm.zero).length ≤ (segment.toNat + 1) * nabuMaxPayloadSize)
        let hdr := List.replicate 16 0
        let payload := slice (timeImage Tm.zero).data (rawOffset segment)
          ((segment.toNat + 1) * nabuMaxPayloadSize ⊓ (timeImage Tm.zero).length)
        adaptorSendImage (fun _ _ _ _ ↦ ⟨List.replicate 16 0, rfl⟩) nabuImageTime segment
            (timeImage Tm.zero) s =
          (do adaptorSendPacket (hdr ++ payload ++ nabuSetCrc (crc16Genibus (hdr ++ payload)))
              pure last) s.popAlloc) ∧
    ((timeImage Tm.zero).length ≤ 65536 * nabuMaxPayloadSize →
      ((timeImage Tm.zero).length - 1) / nabuMaxPayloadSize < 65536 ∧
      ∀ (segment : UInt16) (s : Conn), ∃ s', adaptorSendImage (fun _ _ _ _ ↦ ⟨List.replicate 16 0, rfl⟩)
          nabuImageTime segment (timeImage Tm.zero) s =
        .ok (decide (segment.toNat = ((timeImage Tm.zero).length - 1) / nabuMaxPayloadSize), s')) ∧
    ((List.range (((timeImage Tm.zero).length - 1) / nabuMaxPayloadSize + 1)).flatMap fun i ↦
      slice (timeImage Tm.zero).data (i * nabuMaxPayloadSize)
        ((i + 1) * nabuMaxPayloadSize ⊓ (timeImage Tm.zero).length)) = (timeImage Tm.zero).data) :=
  ⟨rfl, by decide, adaptorSendImage_raw_segments _ _ rfl (by decide)⟩

end Raw

/-! ## PAK images -/

/-- A well-framed PAK file, `t_0 ++ seg_0 ++ … ++ t_k ++ seg_k`: every tag two bytes, every
segment but the last a whole `NABU_TOTALPAYLOADSIZE` bytes, and the last one at least a header
and a footer and at most a whole segment. -/
structure Pak where
  /-- The tagged segments `(t_i, seg_i)` before the last, `i < k`. -/
  body : List (List UInt8 × List UInt8)
  /-- `t_k`. -/
  lastTag : List UInt8
  /-- `seg_k`. -/
  lastSeg : List UInt8
  body_tag : ∀ p ∈ body, p.1.length = 2
  body_seg : ∀ p ∈ body, p.2.length = nabuTotalPayloadSize
  lastTag_length : lastTag.length = 2
  lastSeg_ge : nabuHeaderSize + nabuFooterSize ≤ lastSeg.length
  lastSeg_le : lastSeg.length ≤ nabuTotalPayloadSize

/-- Where segment `i` of a well-framed PAK starts: after `i` tagged segments and its own tag. -/
def storedOffset (i : Nat) : Nat := (nabuTotalPayloadSize + 2) * i + 2

theorem pakOffset_eq (segment : UInt16) : pakOffset segment = storedOffset segment.toNat := by
  simp only [pakOffset, storedOffset, nabuTotalPayloadSize, nabuHeaderSize, nabuMaxPayloadSize,
    nabuFooterSize]
  omega

namespace Pak

variable (pak : Pak)

/-- The file's bytes. -/
def bytes : List UInt8 := pak.body.flatMap (fun p ↦ p.1 ++ p.2) ++ (pak.lastTag ++ pak.lastSeg)

/-- The stored segments, `seg_0 … seg_k`. -/
def segs : List (List UInt8) := pak.body.map Prod.snd ++ [pak.lastSeg]

/-- A tag and its segment take `NABU_TOTALPAYLOADSIZE + 2` bytes. -/
theorem length_part {p : List UInt8 × List UInt8} (hp : p ∈ pak.body) :
    (p.1 ++ p.2).length = nabuTotalPayloadSize + 2 := by
  rw [List.length_append, pak.body_tag p hp, pak.body_seg p hp, Nat.add_comm]

theorem length_flatMap_parts (l : List (List UInt8 × List UInt8))
    (h : ∀ p ∈ l, (p.1 ++ p.2).length = nabuTotalPayloadSize + 2) :
    (l.flatMap fun p ↦ p.1 ++ p.2).length = (nabuTotalPayloadSize + 2) * l.length := by
  induction l with
  | nil => rfl
  | cons p l ih =>
    rw [List.flatMap_cons, List.length_append, h p (List.mem_cons_self p l),
      ih fun q hq ↦ h q (List.mem_cons_of_mem p hq), List.length_cons, Nat.mul_succ, Nat.add_comm]

theorem drop_flatMap_parts (l : List (List UInt8 × List UInt8)) (rest : List UInt8)
    (h : ∀ p ∈ l, (p.1 ++ p.2).length = nabuTotalPayloadSize + 2) {i : Nat} (hi : i ≤ l.length) :
    ((l.flatMap fun p ↦ p.1 ++ p.2) ++ rest).drop ((nabuTotalPayloadSize + 2) * i) =
      ((l.drop i).flatMap fun p ↦ p.1 ++ p.2) ++ rest := by
  induction l generalizing i with
  | nil => simp_all
  | cons p l ih =>
    cases i with
    | zero => simp
    | succ i =>
      rw [List.flatMap_cons, List.append_assoc, Nat.mul_succ, Nat.add_comm, ← List.drop_drop,
        List.drop_left' (h p (List.mem_cons_self p l)), List.drop_succ_cons]
      exact ih (fun q hq ↦ h q (List.mem_cons_of_mem p hq)) (by simpa using hi)

theorem drop_bytes {i : Nat} (hi : i ≤ pak.body.length) :
    pak.bytes.drop ((nabuTotalPayloadSize + 2) * i) =
      ((pak.body.drop i).flatMap fun p ↦ p.1 ++ p.2) ++ (pak.lastTag ++ pak.lastSeg) :=
  drop_flatMap_parts _ _ (fun _ hp ↦ pak.length_part hp) hi

theorem length_bytes :
    pak.bytes.length = (nabuTotalPayloadSize + 2) * pak.body.length + 2 + pak.lastSeg.length := by
  rw [bytes, List.length_append, length_flatMap_parts _ (fun _ hp ↦ pak.length_part hp),
    List.length_append, pak.lastTag_length, Nat.add_assoc]

theorem length_segs : pak.segs.length = pak.body.length + 1 := by simp [segs]

theorem segs_body {i : Nat} (hi : i < pak.body.length) :
    pak.segs[i]? = some (pak.body[i]).2 := by
  rw [segs, List.getElem?_append_left (by simpa using hi), List.getElem?_map,
    List.getElem?_eq_getElem hi]
  rfl

theorem segs_last : pak.segs[pak.body.length]? = some pak.lastSeg := by
  simp [segs, List.getElem?_append_right]

/-- Segment `i < k`: a whole segment is cut out at its offset, and it is not the last. -/
theorem cut_body {i : Nat} (hi : i < pak.body.length) :
    storedOffset i < pak.bytes.length ∧
      truncate pak.bytes.length (storedOffset i) nabuTotalPayloadSize = (nabuTotalPayloadSize, false) ∧
      (pak.bytes.drop (storedOffset i)).take nabuTotalPayloadSize = (pak.body[i]).2 := by
  have hmem := List.getElem_mem hi
  have hlen := pak.length_bytes
  have hge := pak.lastSeg_ge
  refine ⟨?_, ?_, ?_⟩
  · simp only [storedOffset, nabuTotalPayloadSize, nabuHeaderSize, nabuMaxPayloadSize,
      nabuFooterSize] at hlen hge ⊢
    omega
  · rw [truncate, if_neg]
    simp only [storedOffset, nabuTotalPayloadSize, nabuHeaderSize, nabuMaxPayloadSize, nabuFooterSize]
      at hlen hge ⊢
    omega
  · rw [storedOffset, ← List.drop_drop, pak.drop_bytes hi.le, List.drop_eq_getElem_cons hi,
      List.flatMap_cons, List.append_assoc, List.append_assoc, List.drop_left' (pak.body_tag _ hmem),
      List.take_left' (pak.body_seg _ hmem)]

/-- Segment `k`: what is left of the file is the last segment, and it is the last. -/
theorem cut_last :
    storedOffset pak.body.length < pak.bytes.length ∧
      truncate pak.bytes.length (storedOffset pak.body.length) nabuTotalPayloadSize =
        (pak.lastSeg.length, true) ∧
      (pak.bytes.drop (storedOffset pak.body.length)).take pak.lastSeg.length = pak.lastSeg := by
  have hlen := pak.length_bytes
  have hge := pak.lastSeg_ge
  have hle := pak.lastSeg_le
  refine ⟨?_, ?_, ?_⟩
  · simp only [storedOffset, nabuHeaderSize, nabuFooterSize] at hlen hge ⊢
    omega
  · rw [truncate, if_pos]
    · congr 1; simp only [storedOffset] at hlen ⊢; omega
    · simp only [storedOffset] at hlen ⊢; omega
  · rw [storedOffset, ← List.drop_drop, pak.drop_bytes le_rfl, List.drop_length, List.flatMap_nil,
      List.nil_append, List.drop_left' pak.lastTag_length, List.take_length]

/-- Past segment `k` the offset is past the end of the file. -/
theorem cut_past {i : Nat} (hi : pak.body.length < i) : pak.bytes.length ≤ storedOffset i := by
  have hlen := pak.length_bytes
  have hle := pak.lastSeg_le
  simp only [storedOffset, nabuTotalPayloadSize, nabuHeaderSize, nabuMaxPayloadSize, nabuFooterSize]
    at hlen hle ⊢
  omega

end Pak

/-- **PAK segments.**  On a well-framed PAK, with the allocation succeeding, segment `s ≤ k` is
sent as the stored `seg_s` with its last two bytes replaced by the CRC of the others, and
reported last exactly when `s = k`; every `s > k` is refused and reported not last. -/
theorem adaptorSendImage_pak_segments (initPkthdr : PktHdrInit) (image : UInt32) (pak : Pak)
    {img : Image} (hp : img.isPak = true) (hd : img.data = pak.bytes) (segment : UInt16)
    (s : Conn) (ha : s.allocs.headD true = true) :
    match pak.segs[segment.toNat]? with
    | some seg =>
      adaptorSendImage initPkthdr image segment img s =
        (do adaptorSendPacket (seg.take (seg.length - 2) ++
              nabuSetCrc (crc16Genibus (seg.take (seg.length - 2))))
            pure (decide (segment.toNat = pak.body.length))) s.popAlloc
    | none =>
      adaptorSendImage initPkthdr image segment img s = (do adaptorSendUnauthorized; pure false) s := by
  have hL : img.length = pak.bytes.length := by rw [Image.length, hd]
  rw [adaptorSendImage_pak hp]
  rcases lt_trichotomy segment.toNat pak.body.length with hi | hi | hi
  · obtain ⟨hoff, htr, hcut⟩ := pak.cut_body hi
    have hseg := pak.body_seg _ (List.getElem_mem hi)
    rw [pak.segs_body hi, adaptorSendPak_packet (by rwa [pakOffset_eq, hL])
      (by rw [pakOffset_eq, hL, htr]; decide) ha]
    simp only [pakPacket, pakOffset_eq, hL, htr, hd, hcut, hseg, Nat.ne_of_lt hi, decide_False]
  · obtain ⟨hoff, htr, hcut⟩ := pak.cut_last
    rw [hi, pak.segs_last, adaptorSendPak_packet (by rwa [pakOffset_eq, hL, hi])
      (by rw [pakOffset_eq, hL, hi, htr]; exact pak.lastSeg_ge) ha]
    simp only [pakPacket, pakOffset_eq, hL, htr, hd, hcut, hi, decide_True]
  · rw [List.getElem?_eq_none (by rw [pak.length_segs]; omega)]
    exact adaptorSendPak_unauthorized (by rw [pakOffset_eq, hL]; exact pak.cut_past hi)

/-- A well-framed PAK of two segments: a whole `NABU_TOTALPAYLOADSIZE`-byte one, then a last one
of a header and a footer. -/
def Pak.double : Pak where
  body := [([0, 0], List.replicate nabuTotalPayloadSize 0)]
  lastTag := [0, 1]
  lastSeg := List.replicate 18 0
  body_tag := by simp
  body_seg := by simp
  lastTag_length := rfl
  lastSeg_ge := by decide
  lastSeg_le := by decide

/-- The image a PAK channel serves for `Pak.double`. -/
def Pak.double.image : Image :=
  { name := "double", data := Pak.double.bytes, number := 1,
    channel := some { number := 1, type := .pak, defaultFile := none, retronetEnabled := false } }

theorem adaptorSendImage_pak_segments_double :
    (Pak.double.image.isPak = true ∧ Pak.double.image.data = Pak.double.bytes ∧
      (Conn.calloc []).allocs.headD true = true) ∧
    Pak.double.segs[(0 : UInt16).toNat]? = some (List.replicate nabuTotalPayloadSize 0) ∧
    match Pak.double.segs[(0 : UInt16).toNat]? with
    | some seg =>
      adaptorSendImage (fun _ _ _ _ ↦ ⟨List.replicate 16 0, rfl⟩) 1 0 Pak.double.image
          (Conn.calloc []) =
        (do adaptorSendPacket (seg.take (seg.length - 2) ++
              nabuSetCrc (crc16Genibus (seg.take (seg.length - 2))))
            pure (decide ((0 : UInt16).toNat = Pak.double.body.length))) (Conn.calloc []).popAlloc
    | none =>
      adaptorSendImage (fun _ _ _ _ ↦ ⟨List.replicate 16 0, rfl⟩) 1 0 Pak.double.image
          (Conn.calloc []) = (do adaptorSendUnauthorized; pure false) (Conn.calloc []) :=
  ⟨⟨rfl, rfl, rfl⟩, rfl, adaptorSendImage_pak_segments _ _ Pak.double
    (rfl : Pak.double.image.isPak = true) rfl 0 (Conn.calloc []) rfl⟩

end Nabud
