import Nabud.Adaptor.Requests

/-!
# No input stops the adaptor but `0x86`

Every fault of the model stops the process: a failed `assert`, `log_fatal`, a read past an
image, a read past `adaptor_msg_types`.  Whatever bytes the NABU sends, cut off anywhere, and
whichever allocations fail, the only one `adaptor_event_loop` can reach is the read past the
table for the byte `0x86` — provided RetroNet and NHACP, which are not among the sources, do not
fault themselves.

* `Returns`: a computation that returns from every state.  Each handler returns
  (`returns_adaptorMsgHandler`); `adaptor_send_image`'s `assert` and its length check never fail,
  since the segment is cut to fit the packet.
* `adaptorEventLoopBody_faults_iff`: a turn faults exactly when the byte it reads is `0x86`.
* `adaptorEventLoop_faults`: over any number of turns, the loop's only fault is that read.

Input the adaptor does not expect is not always harmless, though.  Each ACK it waits for is read
by `adaptor_expect_sequence`, which stops at the first byte that does not match and has consumed
it by then.  A NABU that answers an offer with anything but `ACK` loses the byte it sent, and
the next one too if the first was `ESCAPE`.

* `adaptorEventLoopBody_unacked`: a `PACKET_REQUEST`, whatever its answer, goes on to read
  exactly what `ackRest` says of the bytes that follow it; a request the NABU sends in place of
  the `ACK` loses its first byte, which no handler ever sees.
-/

set_option autoImplicit false

namespace Nabud

/-- `m` returns, whatever state it starts in. -/
def Returns {α : Type} (m : AdaptorM α) : Prop := ∀ s, ∃ a s', m s = .ok (a, s')

section Returns

variable {α β : Type}

theorem Returns.pure (a : α) : Returns (pure a : AdaptorM α) := fun s ↦ ⟨a, s, rfl⟩

theorem Returns.bind {m : AdaptorM α} {f : α → AdaptorM β} (hm : Returns m)
    (hf : ∀ a, Returns (f a)) : Returns (m >>= f) := fun s ↦ by
  obtain ⟨a, s₁, h₁⟩ := hm s
  obtain ⟨b, s₂, h₂⟩ := hf a s₁
  exact ⟨b, s₂, by simp [h₁, h₂]⟩

theorem returns_of_run {m : AdaptorM α} (f : Conn → α × Conn) (h : ∀ s, m s = .ok (f s)) :
    Returns m :=
  fun s ↦ ⟨_, _, h s⟩

end Returns

/-! ## What returns -/

section Primitives

theorem returns_connSend (bytes : List UInt8) : Returns (connSend bytes) :=
  returns_of_run _ fun _ ↦ rfl

theorem returns_connSendByte (b : UInt8) : Returns (connSendByte b) :=
  returns_of_run _ fun _ ↦ rfl

theorem returns_connRecv (n : Nat) : Returns (connRecv n) := fun s ↦ by
  unfold connRecv
  split <;> exact ⟨_, _, rfl⟩

theorem returns_connRecvByte : Returns connRecvByte := fun s ↦ by
  unfold connRecvByte
  split <;> exact ⟨_, _, rfl⟩

theorem returns_connGetChannel : Returns connGetChannel := returns_of_run _ fun _ ↦ rfl

theorem returns_adaptorSendUnauthorized : Returns adaptorSendUnauthorized := fun s ↦
  let ⟨_, _, h⟩ := adaptorSendUnauthorized_frame s
  ⟨(), _, h⟩

/-- `adaptor_send_image` returns: its `assert` on the packet's length and its check of the
length it built never fail, and it never reads past the image. -/
theorem returns_adaptorSendImage (initPkthdr : PktHdrInit) (image : UInt32) (segment : UInt16)
    (img : Image) : Returns (adaptorSendImage initPkthdr image segment img) := fun s ↦ by
  obtain ⟨t, b, -, h | ⟨-, hoff, h⟩ | ⟨-, hoff, hlen, h⟩⟩ :=
    @adaptorSendImage_cases initPkthdr image segment img s <;> rw [h]
  · obtain ⟨_, _, hu⟩ := adaptorSendUnauthorized_frame t
    exact ⟨b, _, by rw [AdaptorM.run_bind, hu]; rfl⟩
  · obtain ⟨_, _, _, hp⟩ := adaptorSendPacket_frame (length_rawPacket_le hoff) t
    exact ⟨b, _, by rw [AdaptorM.run_bind, hp]; rfl⟩
  · obtain ⟨_, _, _, hp⟩ := adaptorSendPacket_frame (length_pakPacket_le hoff hlen) t
    exact ⟨b, _, by rw [AdaptorM.run_bind, hp]; rfl⟩

/-! ### The handlers -/

variable (env : Env)

theorem returns_adaptorMsgHandler (m : ClassicMsg) : Returns (adaptorMsgHandler env m) := by
  cases m
  · exact returns_of_run _ adaptorMsgReset_run
  · exact .bind (returns_connSend _) fun _ ↦ .bind (returns_connRecv 2) fun _ ↦
      returns_connSendByte _
  · -- `GET_STATUS`
    refine .bind (returns_connSend _) fun _ ↦ .bind returns_connRecvByte fun o ↦ ?_
    rcases o with _ | kind
    · exact .pure ()
    · have hsend : ∀ b, Returns (do connSendByte b; connSend nabuMsgFinished) := fun b ↦
        .bind (returns_connSendByte b) fun _ ↦ returns_connSend _
      dsimp only
      split
      · exact .bind returns_connGetChannel fun c ↦ by cases c <;> exact hsend _
      split
      · exact hsend _
      · exact .pure ()
  · exact returns_of_run _ adaptorMsgStartUp_run
  · -- `PACKET_REQUEST`
    refine .bind (returns_connSend _) fun _ ↦ .bind (returns_connRecv 4) fun o ↦ ?_
    rcases o with _ | msg
    · exact returns_of_run _ fun _ ↦ rfl
    refine .bind (returns_connSendByte _) fun _ ↦ ?_
    dsimp only
    split
    · split
      · exact .bind (returns_adaptorSendImage _ _ _ _) fun _ ↦ .pure ()
      · exact returns_adaptorSendUnauthorized
    refine .bind returns_connGetChannel fun chan ↦ ?_
    split
    · exact returns_adaptorSendUnauthorized
    · exact .bind (returns_adaptorSendImage _ _ _ _) fun _ ↦
        .bind (returns_of_run _ fun _ ↦ rfl) fun _ ↦ .pure ()
  · -- `CHANGE_CHANNEL`
    refine .bind (returns_connSend _) fun _ ↦ .bind (returns_connRecv 2) fun o ↦ ?_
    rcases o with _ | msg
    · exact returns_of_run _ fun _ ↦ rfl
    refine .bind ?_ fun _ ↦ returns_connSendByte _
    unfold imageChannelSelect
    split
    · exact returns_of_run _ fun _ ↦ rfl
    · exact .pure ()

end Primitives

/-! ## Which turn faults -/

section Loop

variable (env : Env) {s : Conn}

/-- `adaptor_msg_classic` returns on every byte but `0x86`: an opcode goes to its handler, and
any other byte is turned away before the table is read. -/
theorem adaptorMsgClassic_returns {b : UInt8} (hb : b ≠ 0x86) :
    ∃ c s', adaptorMsgClassic env b s = .ok (c, s') := by
  by_cases hm : ∃ m : ClassicMsg, m.code = b
  · obtain ⟨m, rfl⟩ := hm
    obtain ⟨_, s', h⟩ := returns_adaptorMsgHandler env m
      { s with dispatched := s.dispatched ++ [m] }
    exact ⟨true, s', by simp [adaptorMsgClassic_code, h]⟩
  · exact ⟨false, s, adaptorMsgClassic_other (fun m h ↦ hm ⟨m, h⟩) hb⟩

/-- A turn that does not read `0x86` returns, when RetroNet and NHACP do. -/
theorem adaptorEventLoopBody_returns
    (hsub : ∀ b, Returns (env.retronetRequest b) ∧ Returns (env.nhacpRequest b))
    (h86 : s.rx.head? ≠ some 0x86) : ∃ c s', adaptorEventLoopBody env s = .ok (c, s') := by
  rcases hrx : s.rx with _ | ⟨b, rest⟩
  · exact ⟨_, _, adaptorEventLoopBody_end env hrx⟩
  · obtain ⟨c, s₁, hc⟩ := adaptorMsgClassic_returns env (s := { s with rx := rest })
      (by simpa [hrx] using h86)
    obtain ⟨r, s₂, hr⟩ := (hsub b).1 s₁
    obtain ⟨n, s₃, hn⟩ := (hsub b).2 s₂
    cases c <;> cases r <;> cases n <;>
      simp [adaptorEventLoopBody, connRecvByte_cons hrx, hc, hr, hn]

/-- A turn that reads `0x86` faults, reading past `adaptor_msg_types`. -/
theorem adaptorEventLoopBody_overrun {rest : List UInt8} (h : s.rx = 0x86 :: rest) :
    adaptorEventLoopBody env s = .error (.tableOverrun adaptorMsgTypeCount) := by
  simp [adaptorEventLoopBody, connRecvByte_cons h, adaptorMsgClassic_overrun]

/-- A turn faults exactly when the byte it reads is `0x86`, when RetroNet and NHACP return. -/
theorem adaptorEventLoopBody_faults_iff
    (hsub : ∀ b, Returns (env.retronetRequest b) ∧ Returns (env.nhacpRequest b)) (t : Conn) :
    (∃ e, adaptorEventLoopBody env t = .error e) ↔ t.rx.head? = some 0x86 := by
  constructor
  · rintro ⟨e, he⟩
    by_contra h86
    obtain ⟨c, t', h⟩ := adaptorEventLoopBody_returns env (s := t) hsub h86
    rw [h] at he
    cases he
  · intro h86
    obtain ⟨rest, hrx⟩ := List.head?_eq_some_iff.1 h86
    exact ⟨_, adaptorEventLoopBody_overrun env hrx⟩

/-- **The only fault is the table read for `0x86`.**  Whatever bytes the NABU sends, cut off
anywhere, and whichever allocations fail, `adaptor_event_loop` never fails an `assert`, never
calls `log_fatal` and never reads past an image: if it faults, over any number of turns, it is
by reading past `adaptor_msg_types`, and a turn faults exactly when the byte it reads is `0x86`
— provided RetroNet and NHACP return. -/
theorem adaptorEventLoop_faults
    (hsub : ∀ b, Returns (env.retronetRequest b) ∧ Returns (env.nhacpRequest b)) (fuel : Nat)
    (s : Conn) {e : Fault} (h : adaptorEventLoop env fuel s = .error e) :
    e = .tableOverrun adaptorMsgTypeCount ∧
      ∀ t : Conn, (∃ e', adaptorEventLoopBody env t = .error e') ↔ t.rx.head? = some 0x86 := by
  refine ⟨?_, adaptorEventLoopBody_faults_iff env hsub⟩
  induction fuel generalizing s with
  | zero => simp [adaptorEventLoop] at h
  | succ n ih =>
    rcases hrx : s.rx with _ | ⟨b, rest⟩
    · simp [adaptorEventLoop, adaptorEventLoopBody_end env hrx] at h
    · by_cases hb : b = 0x86
      · subst hb
        simpa [adaptorEventLoop, adaptorEventLoopBody_overrun env hrx, eq_comm] using h
      · obtain ⟨c, s', hbody⟩ :=
          adaptorEventLoopBody_returns env (s := s) hsub (by simpa [hrx] using hb)
        cases c
        · simp [adaptorEventLoop, hbody] at h
        · exact ih s' (by rwa [adaptorEventLoop_succ n hbody] at h)

theorem adaptorEventLoop_faults_bare :
    (∀ b, Returns (Env.bare.retronetRequest b) ∧ Returns (Env.bare.nhacpRequest b)) ∧
    adaptorEventLoop Env.bare 2 (Conn.calloc [ClassicMsg.startUp.code, 0x86]) =
      .error (.tableOverrun adaptorMsgTypeCount) ∧
    Fault.tableOverrun adaptorMsgTypeCount = .tableOverrun adaptorMsgTypeCount ∧
      ∀ t : Conn, (∃ e', adaptorEventLoopBody Env.bare t = .error e') ↔ t.rx.head? = some 0x86 :=
  have hsub : ∀ b, Returns (Env.bare.retronetRequest b) ∧ Returns (Env.bare.nhacpRequest b) :=
    fun _ ↦ ⟨.pure false, .pure false⟩
  have h : adaptorEventLoop Env.bare 2 (Conn.calloc [ClassicMsg.startUp.code, 0x86]) =
      .error (.tableOverrun adaptorMsgTypeCount) := rfl
  ⟨hsub, h, adaptorEventLoop_faults Env.bare hsub 2 _ h⟩

end Loop

/-! ## What a missed ACK costs -/

section Unacked

variable {s : Conn}

/-- What an ACK check leaves of the stream: `adaptor_expect_sequence` reads up to the first byte
that does not match, that byte included, so the first byte goes, and the second with it when
the first is `ESCAPE`. -/
def ackRest : List UInt8 → List UInt8
  | [] => []
  | b :: rest => if b = nabuMsgEscape then rest.drop 1 else rest

@[simp] theorem ackRest_ack (rest : List UInt8) : ackRest (nabuMsgAck ++ rest) = rest := rfl

@[simp] theorem ackRest_cons {b : UInt8} (hb : b ≠ nabuMsgEscape) (rest : List UInt8) :
    ackRest (b :: rest) = rest := if_neg hb

theorem adaptorExpectAck_rx (s : Conn) :
    ∃ ok ab, adaptorExpectAck s = .ok (ok, { s with rx := ackRest s.rx, aborted := ab }) := by
  have hack : nabuMsgAck = [nabuMsgEscape, 0x06] := rfl
  rcases h : s.rx with _ | ⟨b, rest⟩
  · exact ⟨false, true, by simp [adaptorExpectAck, adaptorExpectSequence, adaptorExpectByte,
      connRecvByte, h, ackRest, hack]⟩
  by_cases hb : b = nabuMsgEscape
  · subst hb
    rcases rest with _ | ⟨c, rest⟩
    · exact ⟨false, true, by simp [adaptorExpectAck, adaptorExpectSequence, adaptorExpectByte,
        connRecvByte, h, ackRest, hack, nabuMsgEscape]⟩
    · refine ⟨0x06 == c, s.aborted, ?_⟩
      by_cases hc : (0x06 : UInt8) = c <;> simp [adaptorExpectAck, adaptorExpectSequence,
        adaptorExpectByte, connRecvByte, h, ackRest, hack, hc, nabuMsgEscape]
  · have hb' : b ≠ 0x10 := hb
    exact ⟨false, s.aborted, by simp [adaptorExpectAck, adaptorExpectSequence, adaptorExpectByte,
      connRecvByte, h, ackRest, hack, hb, Ne.symm hb']⟩

theorem adaptorSendUnauthorized_rx (s : Conn) :
    ∃ s', adaptorSendUnauthorized s = .ok ((), s') ∧ s'.rx = ackRest s.rx ∧
      s'.dispatched = s.dispatched := by
  obtain ⟨_, ab, h⟩ := adaptorExpectAck_rx { s with tx := s.tx ++ [nabuServiceUnauthorized] }
  exact ⟨{ s with rx := ackRest s.rx, tx := s.tx ++ [nabuServiceUnauthorized], aborted := ab },
    by simp [adaptorSendUnauthorized, h], rfl, rfl⟩

theorem adaptorSendPacket_rx {buf : List UInt8} (hlen : buf.length ≤ nabuMaxPacketSize)
    (s : Conn) : ∃ s', adaptorSendPacket buf s = .ok ((), s') ∧ s'.rx = ackRest s.rx ∧
      s'.dispatched = s.dispatched := by
  obtain ⟨ok, ab, h⟩ :=
    adaptorExpectAck_rx { s.packetSent buf with tx := s.tx ++ [nabuServiceAuthorized] }
  let sent := if ok then adaptorEscapePacket buf ++ nabuMsgFinished else []
  refine ⟨{ s.packetSent buf with
      rx := ackRest s.rx, tx := s.tx ++ nabuServiceAuthorized :: sent, aborted := ab }, ?_, rfl, rfl⟩
  cases ok <;> simp_all [sent, adaptorSendPacket, Conn.packetSent]

theorem adaptorSendImage_rx (initPkthdr : PktHdrInit) (image : UInt32) (segment : UInt16)
    (img : Image) (s : Conn) :
    ∃ b s', adaptorSendImage initPkthdr image segment img s = .ok (b, s') ∧
      s'.rx = ackRest s.rx ∧ s'.dispatched = s.dispatched := by
  obtain ⟨t, b, ht, h | ⟨-, hoff, h⟩ | ⟨-, hoff, hlen, h⟩⟩ :=
    @adaptorSendImage_cases initPkthdr image segment img s <;> rw [h] <;>
    obtain ⟨hrx, hd⟩ : t.rx = s.rx ∧ t.dispatched = s.dispatched := by
      rcases ht with rfl | rfl <;> exact ⟨rfl, rfl⟩
  · obtain ⟨s', hu, hrx', hd'⟩ := adaptorSendUnauthorized_rx t
    exact ⟨b, s', by rw [AdaptorM.run_bind, hu]; rfl, hrx'.trans (by rw [hrx]), hd'.trans hd⟩
  · obtain ⟨s', hp, hrx', hd'⟩ := adaptorSendPacket_rx (length_rawPacket_le hoff) t
    exact ⟨b, s', by rw [AdaptorM.run_bind, hp]; rfl, hrx'.trans (by rw [hrx]), hd'.trans hd⟩
  · obtain ⟨s', hp, hrx', hd'⟩ := adaptorSendPacket_rx (length_pakPacket_le hoff hlen) t
    exact ⟨b, s', by rw [AdaptorM.run_bind, hp]; rfl, hrx'.trans (by rw [hrx]), hd'.trans hd⟩

/-- `PACKET_REQUEST`, whatever becomes of it, reads its four bytes and then makes one ACK check. -/
theorem adaptorMsgPacketRequest_rx (env : Env) {seg i₀ i₁ i₂ : UInt8} {rest : List UInt8}
    (h : s.rx = [seg, i₀, i₁, i₂] ++ rest) :
    ∃ s', adaptorMsgPacketRequest env s = .ok ((), s') ∧ s'.rx = ackRest rest ∧
      s'.dispatched = s.dispatched := by
  by_cases himg : nabuGetUint24 i₀ i₁ i₂ = nabuImageTime
  · rw [adaptorMsgPacketRequest_time h himg]
    split
    · obtain ⟨_, s', hrun, hrx, hd⟩ := adaptorSendImage_rx env.initPkthdr nabuImageTime 0
        (timeImage (env.localtime.getD Tm.zero)) (s.requestRead rest)
      exact ⟨s', by simp [adaptorSendTime, hrun], hrx, hd⟩
    · exact adaptorSendUnauthorized_rx _
  · rcases hload : env.imageLoad s.channel (nabuGetUint24 i₀ i₁ i₂) with _ | img
    · rw [adaptorMsgPacketRequest_load h himg, hload]
      exact adaptorSendUnauthorized_rx _
    · obtain ⟨b, s', hrun, hrx, hd⟩ := adaptorSendImage_rx env.initPkthdr
        (nabuGetUint24 i₀ i₁ i₂) seg.toUInt16 img (s.requestRead rest)
      exact ⟨_, adaptorMsgPacketRequest_image h himg hload hrun, hrx, hd⟩

/-- **A byte sent in place of the ACK is lost.**  Whatever the NABU sends after a
`PACKET_REQUEST` — the `ACK`, nothing, or its next request — the turn that handles the request
reads on into it as far as `ackRest` says, and dispatches nothing but the request.  So a NABU
that answers an offer with, say, `RESET` has its `RESET` read as a failed `ACK`: no handler,
RetroNet or NHACP ever sees it. -/
theorem adaptorEventLoopBody_unacked (env : Env) {seg i₀ i₁ i₂ : UInt8} {reply : List UInt8}
    (h : s.rx = ClassicMsg.packetRequest.code :: [seg, i₀, i₁, i₂] ++ reply) :
    ∃ s', adaptorEventLoopBody env s = .ok (true, s') ∧ s'.rx = ackRest reply ∧
      s'.dispatched = s.dispatched ++ [.packetRequest] := by
  obtain ⟨s', hrun, hrx, hd⟩ := adaptorMsgPacketRequest_rx env
    (s := { s with rx := [seg, i₀, i₁, i₂] ++ reply, dispatched := s.dispatched ++ [.packetRequest] })
    rfl
  exact ⟨s', adaptorEventLoopBody_classic env .packetRequest h hrun, hrx, hd⟩

/-- A request for image 1, answered by a `RESET`. -/
def resetForAck : Conn :=
  Conn.calloc (ClassicMsg.packetRequest.code :: [0, 1, 0, 0] ++ [ClassicMsg.reset.code])

theorem adaptorEventLoopBody_unacked_reset :
    resetForAck.rx = ClassicMsg.packetRequest.code :: [0, 1, 0, 0] ++ [ClassicMsg.reset.code] ∧
    ∃ s', adaptorEventLoopBody Env.bare resetForAck = .ok (true, s') ∧
      s'.rx = ackRest [ClassicMsg.reset.code] ∧
      s'.dispatched = resetForAck.dispatched ++ [.packetRequest] :=
  ⟨rfl, adaptorEventLoopBody_unacked Env.bare rfl⟩

end Unacked

end Nabud
