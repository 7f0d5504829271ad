import Nabud.Adaptor.Session

/-!
# Streams of requests

What `adaptor_event_loop` makes of a whole stream of well-formed requests.

* `Request` is one request as the NABU sends it: one of the six classic messages with the bytes
  that follow it (for `PACKET_REQUEST`, also the NABU's `ACK` of the packet), or a single byte
  that is none of the six opcodes, for RetroNet and NHACP to decline.
* `Request.Reply` is what the adaptor answers to it, and `adaptorEventLoopBody_request` is the
  step lemma: one turn of the loop consumes exactly one request's bytes, dispatches its handler
  through `adaptor_msg_classic` (or, for a declined byte, none), and sends one reply.
* `adaptorEventLoop_requests` is the run: on the concatenated encoding of any list of requests,
  with the connection reporting `aborted` once its input is exhausted, the loop handles each
  request in order and returns.  The one byte it cannot take is `0x86`
  (`adaptorEventLoop_tableOverrun`).
-/

set_option autoImplicit false

namespace Nabud

variable {env : Env} {s : Conn} {rest : List UInt8}

/-! ## Each handler on the bytes of its request -/

theorem adaptorMsgMystery_run {b₀ b₁ : UInt8} (h : s.rx = [b₀, b₁] ++ rest) :
    adaptorMsgMystery s = .ok ((), { s with
      rx := rest
      tx := s.tx ++ nabuMsgAck ++ [nabuStateConfirmed] }) := by
  simp [adaptorMsgMystery, adaptorSendAck, adaptorSendConfirmed, connRecv, h]

/-- What `adaptor_msg_get_status` sends after its `ACK`, on a connection whose channel is
`chan`. -/
def statusReply (chan : Option Channel) (kind : UInt8) : List UInt8 :=
  if kind = nabuStatusSignal then
    (if chan.isSome then nabuSignalStatusYes else nabuSignalStatusNo) :: nabuMsgFinished
  else if kind = nabuStatusTransmit then nabuSignalStatusYes :: nabuMsgFinished
  else []

theorem adaptorMsgGetStatus_run {kind : UInt8} (h : s.rx = kind :: rest) :
    adaptorMsgGetStatus s = .ok ((), { s with
      rx := rest
      tx := s.tx ++ nabuMsgAck ++ statusReply s.channel kind }) := by
  have hst : nabuStatusTransmit ≠ nabuStatusSignal := by decide
  by_cases h₁ : kind = nabuStatusSignal
  · subst h₁
    cases hc : s.channel <;>
      simp [adaptorMsgGetStatus, adaptorSendAck, connRecvByte, h, adaptorMsgChannelStatus,
        connGetChannel, statusReply, hc]
  · by_cases h₂ : kind = nabuStatusTransmit
    · subst h₂
      simp [adaptorMsgGetStatus, adaptorSendAck, connRecvByte, h, adaptorMsgTransmitStatus,
        statusReply, hst]
    · simp [adaptorMsgGetStatus, adaptorSendAck, connRecvByte, h, statusReply, h₁, h₂]

theorem adaptorMsgStartUp_run (s : Conn) :
    adaptorMsgStartUp s = .ok ((), { s with
      tx := s.tx ++ nabuMsgAck ++ [nabuStateConfirmed] }) := by
  simp [adaptorMsgStartUp, adaptorSendAck, adaptorSendConfirmed]

theorem adaptorMsgChangeChannel_run (env : Env) {b₀ b₁ : UInt8} (h : s.rx = [b₀, b₁] ++ rest) :
    ∃ s', adaptorMsgChangeChannel env s = .ok ((), s') ∧ s'.rx = rest ∧
      s'.tx = s.tx ++ nabuMsgAck ++ [nabuStateConfirmed] ∧ s'.dispatched = s.dispatched := by
  rcases hl : env.channelLookup (toInt16 (nabuGetUint16 b₀ b₁)) with _ | chan <;>
    simp [adaptorMsgChangeChannel, adaptorSendAck, adaptorSendConfirmed, connRecv, h,
      imageChannelSelect, hl, connSetChannel]

/-- A byte that is none of the six opcodes and not `0x86` leaves `adaptor_msg_classic` without
a table read. -/
theorem adaptorMsgClassic_other {b : UInt8} (hb : ∀ m : ClassicMsg, m.code ≠ b)
    (h86 : b ≠ 0x86) : adaptorMsgClassic env b s = .ok (false, s) := by
  unfold adaptorMsgClassic
  by_cases hc : nabuMsgIsClassic b = true
  · simp only [nabuMsgIsClassic, Bool.and_eq_true, decide_eq_true_eq] at hc
    have hne : ∀ n : UInt8, n ≠ b → b.toNat ≠ n.toNat := fun n h h' ↦ h (UInt8.toNat.inj h').symm
    have h₀ : b.toNat ≠ 0x80 := hne _ (hb .reset)
    have h₁ : b.toNat ≠ 0x81 := hne _ (hb .mystery)
    have h₂ : b.toNat ≠ 0x82 := hne _ (hb .startUp)
    have h₃ : b.toNat ≠ 0x83 := hne _ (hb .getStatus)
    have h₄ : b.toNat ≠ 0x84 := hne _ (hb .packetRequest)
    have h₅ : b.toNat ≠ 0x85 := hne _ (hb .changeChannel)
    have h₆ : b.toNat ≠ 0x86 := hne _ (Ne.symm h86)
    have hlo : 0x80 ≤ b.toNat := hc.1
    have hidx : adaptorMsgTypeCount < (handlerIndex b).toNat := by
      rw [adaptorMsgTypeCount_eq, handlerIndex, nabuMsgClassicFirst, UInt8.toNat_sub_of_le _ _ hc.1]
      show 6 < b.toNat - 0x80
      omega
    simp [nabuMsgIsClassic, hc, hidx]
  · simp [hc]

/-! ## Requests -/

/-- A request as the NABU sends it. -/
inductive Request
  | reset
  | mystery (b₀ b₁ : UInt8)
  | getStatus (kind : UInt8)
  | startUp
  /-- The segment, the three bytes of the image number, and the NABU's `ACK` of the packet. -/
  | packetRequest (segment i₀ i₁ i₂ : UInt8)
  | changeChannel (b₀ b₁ : UInt8)
  /-- A byte that is none of the six opcodes. -/
  | other (b : UInt8)
  deriving DecidableEq, Repr

/-- The bytes of a request. -/
def Request.encode : Request → List UInt8
  | .reset => [ClassicMsg.reset.code]
  | .mystery b₀ b₁ => [ClassicMsg.mystery.code, b₀, b₁]
  | .getStatus kind => [ClassicMsg.getStatus.code, kind]
  | .startUp => [ClassicMsg.startUp.code]
  | .packetRequest segment i₀ i₁ i₂ =>
    [ClassicMsg.packetRequest.code, segment, i₀, i₁, i₂] ++ nabuMsgAck
  | .changeChannel b₀ b₁ => [ClassicMsg.changeChannel.code, b₀, b₁]
  | .other b => [b]

/-- The classic message of a request, if it is one. -/
def Request.classic : Request → Option ClassicMsg
  | .reset => some .reset
  | .mystery .. => some .mystery
  | .getStatus _ => some .getStatus
  | .startUp => some .startUp
  | .packetRequest .. => some .packetRequest
  | .changeChannel .. => some .changeChannel
  | .other _ => none

/-- A single byte is none of the six opcodes, and RetroNet and NHACP decline it without
touching the connection. -/
def Request.Declined (env : Env) : Request → Prop
  | .other b => (∀ m : ClassicMsg, m.code ≠ b) ∧
      ∀ s, env.retronetRequest b s = .ok (false, s) ∧ env.nhacpRequest b s = .ok (false, s)
  | _ => True

/-- What the adaptor answers to a request. -/
def Request.Reply : Request → List UInt8 → Prop
  | .getStatus kind, reply => ∃ chan, reply = nabuMsgAck ++ statusReply chan kind
  | .packetRequest .., reply =>
    ∃ seg, reply = nabuMsgAck ++ [nabuStateConfirmed] ++ seg ∧ SegmentReply seg
  | .other _, reply => reply = []
  | _, reply => reply = nabuMsgAck ++ [nabuStateConfirmed]

/-- **One turn of the loop handles one request.**  It consumes exactly the request's bytes,
records its classic message (if it has one) as dispatched through `adaptor_msg_classic`, and
sends one reply. -/
theorem adaptorEventLoopBody_request (env : Env) {r : Request} (hr : r.Declined env)
    (h86 : r ≠ .other 0x86) (h : s.rx = r.encode ++ rest) :
    ∃ s' reply, adaptorEventLoopBody env s = .ok (true, s') ∧ s'.rx = rest ∧
      s'.dispatched = s.dispatched ++ r.classic.toList ∧ s'.tx = s.tx ++ reply ∧
      r.Reply reply := by
  cases r with
  | reset =>
    exact ⟨_, _, adaptorEventLoopBody_reset_eq env h, rfl, rfl, by simp, rfl⟩
  | mystery b₀ b₁ =>
    exact ⟨_, _, adaptorEventLoopBody_classic env .mystery h (adaptorMsgMystery_run rfl), rfl,
      rfl, by simp, rfl⟩
  | getStatus kind =>
    exact ⟨_, nabuMsgAck ++ statusReply s.channel kind,
      adaptorEventLoopBody_classic env .getStatus h (adaptorMsgGetStatus_run rfl), rfl, rfl,
      by simp, _, rfl⟩
  | startUp =>
    exact ⟨_, _, adaptorEventLoopBody_classic env .startUp h (adaptorMsgStartUp_run _), rfl,
      rfl, by simp, rfl⟩
  | packetRequest segment i₀ i₁ i₂ =>
    obtain ⟨s', hrun, hrx, ⟨seg, htx, hseg⟩, hd⟩ := adaptorMsgPacketRequest_ack env
      (s := { s with
        rx := [segment, i₀, i₁, i₂] ++ nabuMsgAck ++ rest
        dispatched := s.dispatched ++ [.packetRequest] }) rfl
    exact ⟨s', _, adaptorEventLoopBody_classic env .packetRequest h hrun, hrx, hd,
      by simp [htx], seg, rfl, hseg⟩
  | changeChannel b₀ b₁ =>
    obtain ⟨s', hrun, hrx, htx, hd⟩ := adaptorMsgChangeChannel_run env
      (s := { s with
        rx := [b₀, b₁] ++ rest
        dispatched := s.dispatched ++ [.changeChannel] }) rfl
    exact ⟨s', _, adaptorEventLoopBody_classic env .changeChannel h hrun, hrx, hd,
      by simp [htx], rfl⟩
  | other b =>
    obtain ⟨hb, hdecl⟩ := hr
    have hb86 : b ≠ 0x86 := fun hb' ↦ h86 (hb' ▸ rfl)
    refine ⟨{ s with rx := rest }, [], ?_, rfl, by simp [Request.classic], by simp, rfl⟩
    simp [adaptorEventLoopBody, connRecvByte_cons h, adaptorMsgClassic_other hb hb86,
      (hdecl _).1, (hdecl _).2]

/-! ## Whole streams -/

theorem adaptorEventLoopBody_end (env : Env) (h : s.rx = []) :
    adaptorEventLoopBody env s = .ok (false, { s with aborted := true }) := by
  simp [adaptorEventLoopBody, connRecvByte_nil h, connCheckState]

/-- **The event loop on a stream of requests.**  For any list of requests other than the byte
`0x86`, on a connection whose input is their concatenated encoding, the loop handles them in
order, one turn each, consuming exactly their bytes; it dispatches exactly the classic ones, in
order, through `adaptor_msg_classic` and never faults; it sends one reply to each request — for
every `PACKET_REQUEST` one `UNAUTHORIZED`, or one `AUTHORIZED` and a packet; and when the input
runs out the connection is aborted and the loop returns. -/
theorem adaptorEventLoop_requests (env : Env) (reqs : List Request)
    (hreqs : ∀ r ∈ reqs, r.Declined env ∧ r ≠ .other 0x86) (s : Conn)
    (h : s.rx = reqs.flatMap Request.encode) (fuel : Nat) (hfuel : reqs.length < fuel) :
    ∃ s' replies, adaptorEventLoop env fuel s = .ok (true, s') ∧ s'.rx = [] ∧
      s'.aborted = true ∧ s'.dispatched = s.dispatched ++ reqs.filterMap Request.classic ∧
      s'.tx = s.tx ++ replies.flatten ∧ List.Forall₂ Request.Reply reqs replies := by
  obtain ⟨fuel, rfl⟩ : ∃ f, fuel = f + 1 := ⟨fuel - 1, by omega⟩
  induction reqs generalizing s fuel with
  | nil =>
    exact ⟨{ s with aborted := true }, [], by simp [adaptorEventLoop, adaptorEventLoopBody_end env h],
      h, rfl, by simp, by simp, .nil⟩
  | cons r reqs ih =>
    obtain ⟨hr, h86⟩ := hreqs r (List.mem_cons_self _ _)
    obtain ⟨s₁, reply, hbody, hrx, hd, htx, hrep⟩ :=
      adaptorEventLoopBody_request env hr h86 (h.trans (List.flatMap_cons _ _ _))
    obtain ⟨fuel, rfl⟩ : ∃ f, fuel = f + 1 := ⟨fuel - 1, by simp at hfuel; omega⟩
    obtain ⟨s', replies, hrun, hrx', hab, hd', htx', hrep'⟩ :=
      ih (fun r hr ↦ hreqs r (List.mem_cons_of_mem _ hr)) s₁ hrx fuel
        (by simp at hfuel; omega)
    refine ⟨s', reply :: replies, (adaptorEventLoop_succ _ hbody).trans hrun, hrx', hab, ?_,
      by simp [htx', htx], .cons hrep hrep'⟩
    rcases hc : r.classic with _ | m <;> simp [hd', hd, hc]

/-- Collaborators that have no image, no clock and take no RetroNet or NHACP message. -/
def Env.bare : Env :=
  { initPkthdr := fun _ _ _ _ ↦ ⟨List.replicate 16 0, rfl⟩, imageLoad := fun _ _ ↦ none,
    channelLookup := fun _ ↦ none, localtime := none,
    retronetRequest := fun _ ↦ pure false, nhacpRequest := fun _ ↦ pure false }

/-- `START_UP`, a byte for the sub-protocols, and a request for a missing image. -/
def sampleRequests : List Request := [.startUp, .other 0x42, .packetRequest 0 1 0 0]

theorem adaptorEventLoop_requests_sample :
    (∀ r ∈ sampleRequests, r.Declined Env.bare ∧ r ≠ .other 0x86) ∧
    (Conn.calloc (sampleRequests.flatMap Request.encode)).rx =
      sampleRequests.flatMap Request.encode ∧ sampleRequests.length < 4 ∧
    ∃ s' replies, adaptorEventLoop Env.bare 4
        (Conn.calloc (sampleRequests.flatMap Request.encode)) = .ok (true, s') ∧
      s'.rx = [] ∧ s'.aborted = true ∧
      s'.dispatched = (Conn.calloc (sampleRequests.flatMap Request.encode)).dispatched ++
        sampleRequests.filterMap Request.classic ∧
      s'.tx = (Conn.calloc (sampleRequests.flatMap Request.encode)).tx ++ replies.flatten ∧
      List.Forall₂ Request.Reply sampleRequests replies :=
  have hreqs : ∀ r ∈ sampleRequests, r.Declined Env.bare ∧ r ≠ .other 0x86 := by
    simp only [sampleRequests, List.mem_cons, List.mem_singleton, List.not_mem_nil, or_false]
    rintro r (rfl | rfl | rfl)
    · exact ⟨trivial, by decide⟩
    · exact ⟨⟨fun m ↦ by cases m <;> decide, fun _ ↦ ⟨rfl, rfl⟩⟩, by decide⟩
    · exact ⟨trivial, by decide⟩
  ⟨hreqs, rfl, by decide,
    adaptorEventLoop_requests Env.bare sampleRequests hreqs _ rfl 4 (by decide)⟩

end Nabud
