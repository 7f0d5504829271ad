import Nabud.Proto

/-!
# Escape encoding

`adaptor_escape_packet` copies a packet into the connection's `pktbuf`, doubling every
`NABU_MSG_ESCAPE`, and `adaptor_send_packet` follows it on the wire with `FINISHED`, which is
`ESCAPE 0xE1`.  The NABU undoes this with one rule: `ESCAPE ESCAPE` is one `ESCAPE` byte of the
packet, and `ESCAPE` followed by anything else ends it.  `nabuUnescape` is that receiver; it is
not code of the repository but the other end of the wire, written from the rule, and the results
below say that the two ends agree.

* `escapeLoop` is the C loop, with `pktbuf` as an accumulator, and `escapeLoop_eq` its
  invariant: after any prefix of the buffer, `pktbuf` holds the escaped prefix.
* `length_adaptorEscapePacket`: the escaped length is the packet's length plus its number of
  `ESCAPE` bytes, so at most twice the packet's length.
* `nabuUnescape_escape_finished`: the receiver, run on the escaped packet, `FINISHED` and any
  continuation, gives back the packet and exactly the continuation.  Runs of `ESCAPE`, an
  `ESCAPE` right before `FINISHED`, and a payload that contains `ESCAPE 0xE1` itself are all
  covered, since every payload `ESCAPE` reaches the receiver doubled.
-/

set_option autoImplicit false

namespace Nabud

/-- What one byte of the packet becomes in `pktbuf`. -/
def escapeByte (b : UInt8) : List UInt8 :=
  if b = nabuMsgEscape then [nabuMsgEscape, nabuMsgEscape] else [b]

/-- The loop of `adaptor_escape_packet`: `pktbuf` holds the bytes written so far, and `pktlen`
is its length. -/
def escapeLoop : List UInt8 → List UInt8 → List UInt8
  | pktbuf, [] => pktbuf
  | pktbuf, b :: rest =>
    escapeLoop
      (if b = nabuMsgEscape then pktbuf ++ [nabuMsgEscape, nabuMsgEscape] else pktbuf ++ [b]) rest

/-- `adaptor_escape_packet`: `pktbuf[0, pktlen)` once the loop is done. -/
def adaptorEscapePacket (buf : List UInt8) : List UInt8 := escapeLoop [] buf

theorem escapeLoop_eq (pktbuf buf : List UInt8) :
    escapeLoop pktbuf buf = pktbuf ++ buf.flatMap escapeByte := by
  induction buf generalizing pktbuf with
  | nil => simp [escapeLoop]
  | cons b rest ih =>
    rw [escapeLoop, ih, List.flatMap_cons, escapeByte]
    split <;> simp

theorem adaptorEscapePacket_eq (buf : List UInt8) :
    adaptorEscapePacket buf = buf.flatMap escapeByte := by
  rw [adaptorEscapePacket, escapeLoop_eq, List.nil_append]

theorem length_escapeByte (b : UInt8) :
    (escapeByte b).length = 1 + if b = nabuMsgEscape then 1 else 0 := by
  unfold escapeByte; split <;> rfl

/-- The escaped packet is the packet's length plus one byte per `ESCAPE` in it. -/
theorem length_adaptorEscapePacket (buf : List UInt8) :
    (adaptorEscapePacket buf).length = buf.length + buf.count nabuMsgEscape := by
  rw [adaptorEscapePacket_eq]
  induction buf with
  | nil => rfl
  | cons b rest ih =>
    rw [List.flatMap_cons, List.length_append, ih, length_escapeByte, List.count_cons,
      List.length_cons]
    simp only [beq_iff_eq]
    omega

theorem length_adaptorEscapePacket_le (buf : List UInt8) :
    (adaptorEscapePacket buf).length ≤ 2 * buf.length := by
  have := List.count_le_length nabuMsgEscape buf
  rw [length_adaptorEscapePacket]
  omega

/-! ## The receiving end -/

/-- Prepend a byte to a decoded packet. -/
def consDecoded (b : UInt8) : Option (List UInt8 × List UInt8) → Option (List UInt8 × List UInt8)
  | some (p, rest) => some (b :: p, rest)
  | none => none

/-- The NABU's de-escaping: the packet up to its terminator, and the stream after it.  `none`
when the stream ends before a terminator. -/
def nabuUnescape : List UInt8 → Option (List UInt8 × List UInt8)
  | [] => none
  | b :: rest =>
    if b = nabuMsgEscape then
      match rest with
      | [] => none
      | c :: rest' => if c = nabuMsgEscape then consDecoded b (nabuUnescape rest') else some ([], rest')
    else consDecoded b (nabuUnescape rest)

theorem nabuUnescape_finished (rest : List UInt8) :
    nabuUnescape (nabuMsgFinished ++ rest) = some ([], rest) := by
  simp [nabuMsgFinished, nabuUnescape, nabuMsgEscape]

theorem nabuUnescape_escapeByte (b : UInt8) (l : List UInt8) :
    nabuUnescape (escapeByte b ++ l) = consDecoded b (nabuUnescape l) := by
  unfold escapeByte
  split
  · rename_i h; subst h; simp [nabuUnescape]
  · rename_i h; rw [List.singleton_append, nabuUnescape.eq_def]; simp only [if_neg h]

/-- **Round trip.**  Decoding the escaped packet, `FINISHED` and any continuation gives the
packet back and leaves exactly the continuation. -/
theorem nabuUnescape_escape_finished (buf rest : List UInt8) :
    nabuUnescape (adaptorEscapePacket buf ++ nabuMsgFinished ++ rest) = some (buf, rest) := by
  rw [adaptorEscapePacket_eq, List.append_assoc]
  induction buf with
  | nil => exact nabuUnescape_finished rest
  | cons b bs ih => rw [List.flatMap_cons, List.append_assoc, nabuUnescape_escapeByte, ih]; rfl

end Nabud
