import Nabud.Adaptor.Download

/-!
# The adaptor as a machine

What a NABU can observe of the classic protocol is a small machine.  Between two requests a
connection keeps a few fields: the channel and the file selected on it, whether RetroNet is
enabled, the cached image, and the NHACP and RetroNet state.  Each request moves them, and draws
an answer that depends on the channel alone.  `Session.next` and `Session.answer` state that
machine; nothing in them is about the monad, the endpoint, the packet buffer or the order in
which `adaptor.c` does things.

* `adaptorMsgPacketRequest_next` and `adaptorMsgChangeChannel_next` are the step lemmas of the two
  handlers that do more than answer; `adaptorEventLoopBody_next` is one turn of the loop on any
  request: one step of the machine from the connection's `session`.
* `adaptorEventLoop_machine`: over any session of requests, with every allocation succeeding,
  the loop sends exactly the machine's answers and leaves the connection in the machine's state.
-/

set_option autoImplicit false

namespace Nabud

/-! ## The machine -/

/-- What a connection keeps from one request to the next. -/
structure Session where
  /-- `l_channel`. -/
  channel : Option Channel
  /-- `l_selected_file`. -/
  selectedFile : Option String
  /-- `retronet_enabled`. -/
  retronetEnabled : Bool
  /-- `l_last_image`. -/
  lastImage : Option Image
  /-- `nhacp_sessions`. -/
  nhacpSessions : List UInt8
  /-- `retronet`. -/
  retronet : Option (List RnBlob)
  deriving DecidableEq, Repr

/-- The `Session` a connection is in. -/
def Conn.session (s : Conn) : Session :=
  ⟨s.channel, s.selectedFile, s.retronetEnabled, s.lastImage, s.nhacpSessions, s.retronet⟩

/-- What the NABU is offered for segment `seg` of the image numbered `i₀ i₁ i₂` on channel
`chan`, once every allocation succeeds: the time packet for segment 0 of the time image, else
the segment's packet of the image the channel's store has, if there is one. -/
def packetOffer (env : Env) (chan : Option Channel) (seg i₀ i₁ i₂ : UInt8) :
    Option (List UInt8) :=
  if nabuGetUint24 i₀ i₁ i₂ = nabuImageTime then
    if seg.toUInt16 = 0 then
      (segmentOutcome env.initPkthdr nabuImageTime 0 (timeImage (env.localtime.getD Tm.zero))).1
    else none
  else (env.imageLoad chan (nabuGetUint24 i₀ i₁ i₂)).bind fun img ↦
    (segmentOutcome env.initPkthdr (nabuGetUint24 i₀ i₁ i₂) seg.toUInt16 img).1

namespace Session

variable (env : Env)

/-- The session after a request: `RESET` drops the NHACP and RetroNet state, a request for a
stored image caches it unless its last segment went out, and `CHANGE_CHANNEL` to a channel of
the table selects it, with no file. -/
def next (σ : Session) : Request → Session
  | .reset => { σ with nhacpSessions := [], retronet := none }
  | .packetRequest seg i₀ i₁ i₂ =>
    if nabuGetUint24 i₀ i₁ i₂ = nabuImageTime then σ
    else
      match env.imageLoad σ.channel (nabuGetUint24 i₀ i₁ i₂) with
      | some img => { σ with
          lastImage := cacheAfter img
            (segmentOutcome env.initPkthdr (nabuGetUint24 i₀ i₁ i₂) seg.toUInt16 img).2 }
      | none => σ
  | .changeChannel b₀ b₁ =>
    match env.channelLookup (toInt16 (nabuGetUint16 b₀ b₁)) with
    | some chan =>
      { σ with channel := some chan, selectedFile := none, retronetEnabled := chan.retronetEnabled }
    | none => σ
  | _ => σ

/-- The answer to a request. -/
def answer (σ : Session) : Request → List UInt8
  | .getStatus kind => nabuMsgAck ++ statusReply σ.channel kind
  | .packetRequest seg i₀ i₁ i₂ => segmentAnswer (packetOffer env σ.channel seg i₀ i₁ i₂)
  | .other _ => []
  | _ => nabuMsgAck ++ [nabuStateConfirmed]

/-- The session after a sequence of requests. -/
def after (σ : Session) (reqs : List Request) : Session := reqs.foldl (next env) σ

/-- Everything the machine sends over a sequence of requests. -/
def answers : Session → List Request → List UInt8
  | _, [] => []
  | σ, r :: rs => σ.answer env r ++ answers (σ.next env r) rs

end Session

/-! ## One request -/

variable {env : Env} {s : Conn} {rest : List UInt8}

@[simp] theorem Conn.session_channel : s.session.channel = s.channel := rfl

@[simp] theorem Conn.session_lastImage (img : Option Image) :
    { s with lastImage := img }.session = { s.session with lastImage := img } := rfl

@[simp] theorem Conn.requestRead_session : (s.requestRead rest).session = s.session := rfl

theorem Conn.SameBut.session {s' : Conn} (h : s'.SameBut s) : s'.session = s.session :=
  (congrArg Conn.session h.1).trans rfl

/-- **`PACKET_REQUEST`, with every allocation succeeding.**  Whatever the request names — the
time image, a stored image, a missing one — the handler sends the machine's answer and moves the
session as the machine does. -/
theorem adaptorMsgPacketRequest_next {seg i₀ i₁ i₂ : UInt8}
    (h : s.rx = [seg, i₀, i₁, i₂] ++ nabuMsgAck ++ rest) (ha : s.AllocOk) :
    ∃ s', adaptorMsgPacketRequest env s = .ok ((), s') ∧ s'.rx = rest ∧
      s'.tx = s.tx ++ s.session.answer env (.packetRequest seg i₀ i₁ i₂) ∧
      s'.session = s.session.next env (.packetRequest seg i₀ i₁ i₂) ∧ s'.AllocOk := by
  rw [List.append_assoc] at h
  have hr : (s.requestRead (nabuMsgAck ++ rest)).rx = nabuMsgAck ++ rest := rfl
  have hunauth := adaptorSendUnauthorized_ack hr
  by_cases himg : nabuGetUint24 i₀ i₁ i₂ = nabuImageTime
  · rw [adaptorMsgPacketRequest_time h himg]
    split
    next h0 =>
      obtain ⟨s', hrun, hrx, htx, hf⟩ := @adaptorSendImage_outcome env.initPkthdr
        nabuImageTime 0 (timeImage (env.localtime.getD Tm.zero)) _ _ hr ha
      refine ⟨s', by simp [adaptorSendTime, hrun], hrx, ?_, ?_, hf.2⟩
      · simp [htx, Session.answer, packetOffer, himg, h0, Conn.requestRead, segmentAnswer]
      · simp [hf.session, Session.next, himg]
    next h0 =>
      exact ⟨_, hunauth, rfl, by simp [Session.answer, packetOffer, himg, h0, Conn.requestRead,
        segmentAnswer, serviceAnswer], by simp [Session.next, himg]; rfl, ha⟩
  · rcases hload : env.imageLoad s.channel (nabuGetUint24 i₀ i₁ i₂) with _ | img
    · rw [adaptorMsgPacketRequest_load h himg, hload]
      exact ⟨_, hunauth, rfl, by simp [Session.answer, packetOffer, himg, hload, Conn.requestRead,
        segmentAnswer, serviceAnswer], by simp [Session.next, himg, hload]; rfl, ha⟩
    · obtain ⟨s', hrun, hrx, htx, hf⟩ := @adaptorSendImage_outcome env.initPkthdr
        (nabuGetUint24 i₀ i₁ i₂) seg.toUInt16 img _ _ hr ha
      refine ⟨_, adaptorMsgPacketRequest_image h himg hload hrun, hrx, ?_, ?_, hf.2⟩
      · simp [htx, Session.answer, packetOffer, himg, hload, Conn.requestRead, segmentAnswer]
      · simp [Session.next, himg, hload, cacheAfter, hf.session]

/-- **`CHANGE_CHANNEL`.**  The handler confirms, and selects the channel the table has for the
code, if any, as the machine does. -/
theorem adaptorMsgChangeChannel_next {b₀ b₁ : UInt8} (h : s.rx = [b₀, b₁] ++ rest)
    (ha : s.AllocOk) :
    ∃ s', adaptorMsgChangeChannel env s = .ok ((), s') ∧ s'.rx = rest ∧
      s'.tx = s.tx ++ s.session.answer env (.changeChannel b₀ b₁) ∧
      s'.session = s.session.next env (.changeChannel b₀ b₁) ∧ s'.AllocOk := by
  rcases hl : env.channelLookup (toInt16 (nabuGetUint16 b₀ b₁)) with _ | chan <;>
    simpa [adaptorMsgChangeChannel, adaptorSendAck, adaptorSendConfirmed, connRecv, h,
      imageChannelSelect, hl, connSetChannel, Session.next, Session.answer, Conn.session]

/-- A byte that is none of the six opcodes and not `0x86`, declined by RetroNet and NHACP: the
turn only reads it. -/
theorem adaptorEventLoopBody_declined {b : UInt8} (hr : (Request.other b).Declined env)
    (h86 : b ≠ 0x86) (h : s.rx = b :: rest) :
    adaptorEventLoopBody env s = .ok (true, { s with rx := rest }) := by
  simp [adaptorEventLoopBody, connRecvByte_cons h, adaptorMsgClassic_other hr.1 h86,
    (hr.2 _).1, (hr.2 _).2]

/-- **One turn of the loop is one step of the machine.**  On the bytes of any request, with every
allocation succeeding, the turn consumes exactly the request, sends the machine's answer and
leaves the connection in the machine's next session. -/
theorem adaptorEventLoopBody_next {r : Request} (hr : r.Declined env) (h86 : r ≠ .other 0x86)
    (ha : s.AllocOk) (h : s.rx = r.encode ++ rest) :
    ∃ s', adaptorEventLoopBody env s = .ok (true, s') ∧ s'.rx = rest ∧
      s'.tx = s.tx ++ s.session.answer env r ∧ s'.session = s.session.next env r ∧
      s'.AllocOk := by
  cases r with
  | reset =>
    exact ⟨_, adaptorEventLoopBody_reset_eq env h, rfl, by simp [Session.answer], rfl, ha⟩
  | mystery b₀ b₁ =>
    exact ⟨_, adaptorEventLoopBody_classic env .mystery h (adaptorMsgMystery_run rfl), rfl,
      by simp [Session.answer], rfl, ha⟩
  | getStatus kind =>
    exact ⟨_, adaptorEventLoopBody_classic env .getStatus h (adaptorMsgGetStatus_run rfl), rfl,
      by simp [Session.answer], rfl, ha⟩
  | startUp =>
    exact ⟨_, adaptorEventLoopBody_classic env .startUp h (adaptorMsgStartUp_run _), rfl,
      by simp [Session.answer], rfl, ha⟩
  | packetRequest seg i₀ i₁ i₂ =>
    obtain ⟨s', hrun, hs'⟩ := @adaptorMsgPacketRequest_next env { s with
      rx := [seg, i₀, i₁, i₂] ++ nabuMsgAck ++ rest
      dispatched := s.dispatched ++ [.packetRequest] } rest seg i₀ i₁ i₂ rfl ha
    exact ⟨s', adaptorEventLoopBody_classic env .packetRequest
      (by simpa [Request.encode] using h) hrun, hs'⟩
  | changeChannel b₀ b₁ =>
    obtain ⟨s', hrun, hs'⟩ := @adaptorMsgChangeChannel_next env { s with
      rx := [b₀, b₁] ++ rest
      dispatched := s.dispatched ++ [.changeChannel] } rest b₀ b₁ rfl ha
    exact ⟨s', adaptorEventLoopBody_classic env .changeChannel h hrun, hs'⟩
  | other b =>
    exact ⟨_, adaptorEventLoopBody_declined hr (fun hb ↦ h86 (hb ▸ rfl)) h, rfl,
      by simp [Session.answer], rfl, ha⟩

/-! ## Whole sessions -/

/-- **The event loop refines the machine.**  For any session of requests other than the byte
`0x86`, with the bytes no handler takes declined by RetroNet and NHACP, on a connection whose
every allocation succeeds, the loop takes exactly the requests' bytes, one turn each; it sends,
request after request, exactly what the machine answers from the session the connection is in
at that point; and it leaves the connection in the session the machine reaches. -/
theorem adaptorEventLoop_machine (env : Env) (reqs : List Request)
    (hreqs : ∀ r ∈ reqs, r.Declined env ∧ r ≠ .other 0x86) (ha : s.AllocOk)
    (h : s.rx = reqs.flatMap Request.encode ++ rest) :
    ∃ s', adaptorEventLoop env reqs.length s = .ok (false, s') ∧ s'.rx = rest ∧
      s'.tx = s.tx ++ s.session.answers env reqs ∧ s'.session = s.session.after env reqs := by
  induction reqs generalizing s with
  | nil => exact ⟨s, rfl, by simpa using h, by simp [Session.answers], rfl⟩
  | cons r reqs ih =>
    obtain ⟨hr, h86⟩ := hreqs r (List.mem_cons_self _ _)
    obtain ⟨s₁, hbody, hrx, htx, hσ, ha₁⟩ :=
      adaptorEventLoopBody_next hr h86 ha (by simpa [List.append_assoc] using h)
    obtain ⟨s', hrun, hrx', htx', hσ'⟩ :=
      ih (fun r hr ↦ hreqs r (List.mem_cons_of_mem _ hr)) ha₁ hrx
    exact ⟨s', (adaptorEventLoop_succ _ hbody).trans hrun, hrx',
      by simp [htx', htx, hσ, Session.answers], by simp [hσ', hσ, Session.after]⟩

/-- Channel 1 of a one-channel table. -/
def tunedChannel : Channel :=
  { number := 1, type := .raw, defaultFile := none, retronetEnabled := false }

/-- Collaborators whose table has `tunedChannel` under code 1, whose store serves
`twoSegmentImage` as image 1 on that channel only, and that take no RetroNet or NHACP message. -/
def tunedEnv : Env :=
  { twoSegmentEnv with
    imageLoad := fun chan n ↦ if chan = some tunedChannel ∧ n = 1 then some twoSegmentImage else none
    channelLookup := fun code ↦ if code = 1 then some tunedChannel else none }

/-- A status query and a request for image 1, before and after tuning to channel 1. -/
def tuningRequests : List Request :=
  [.getStatus nabuStatusSignal, .packetRequest 0 1 0 0, .changeChannel 1 0,
    .getStatus nabuStatusSignal, .packetRequest 0 1 0 0]

/-- A fresh connection with `tuningRequests` on its input. -/
def tuningConn : Conn := Conn.calloc (tuningRequests.flatMap Request.encode)

theorem adaptorEventLoop_machine_tuning :
    (∀ r ∈ tuningRequests, r.Declined tunedEnv ∧ r ≠ .other 0x86) ∧ tuningConn.AllocOk ∧
    tuningConn.rx = tuningRequests.flatMap Request.encode ++ [] ∧
    ∃ s', adaptorEventLoop tunedEnv tuningRequests.length tuningConn = .ok (false, s') ∧
      s'.rx = [] ∧ s'.tx = tuningConn.tx ++ tuningConn.session.answers tunedEnv tuningRequests ∧
      s'.session = tuningConn.session.after tunedEnv tuningRequests :=
  have hreqs : ∀ r ∈ tuningRequests, r.Declined tunedEnv ∧ r ≠ .other 0x86 := by
    simp only [tuningRequests, List.mem_cons, List.mem_singleton, List.not_mem_nil, or_false]
    rintro r (rfl | rfl | rfl | rfl | rfl) <;> exact ⟨trivial, by decide⟩
  have ha : tuningConn.AllocOk := fun _ h ↦ absurd h (List.not_mem_nil _)
  have h : tuningConn.rx = tuningRequests.flatMap Request.encode ++ [] :=
    (List.append_nil _).symm
  ⟨hreqs, ha, h, adaptorEventLoop_machine tunedEnv tuningRequests hreqs ha h⟩

end Nabud
