import Nabud.Image

/-!
# The connection object and its I/O

`struct nabu_connection` as the adaptor sees it, and the monad the adaptor's code runs in.

The endpoint (`conn_io.c`, not among the sources) is a byte stream in each direction: `rx`
holds what the NABU has sent and the adaptor has not read, `tx` what the adaptor has sent.
Receiving from an exhausted `rx` fails and leaves the endpoint aborted, which is the spec's
"peer closed"; sending always succeeds.  Watchdogs arm and disarm a deadline, and real time is
not modelled, so they change nothing.

`malloc` can fail.  Its outcomes are an oracle, `allocs`: each call takes the next one, and once
the list is used up every allocation succeeds.  A statement over every initial state is then a
statement over every pattern of allocation failures.

Three things the C code does are not returns: a failed `assert`, `log_fatal`, and a read past
the end of an array.  They are the `Fault`s, and the adaptor's monad is a state monad over
`Except Fault`.

Two fields are history variables, kept for the statements and never read by the code:
`dispatched`, the classic messages `adaptor_msg_classic` handed to a handler (its `Got %s.` debug
line), and `packets`, every buffer handed to `adaptor_send_packet`.
-/

set_option autoImplicit false

namespace Nabud

/-- `struct rn_blob` of `retronet.h`. -/
structure RnBlob where
  url : String
  data : List UInt8
  slot : UInt8
  deriving DecidableEq, Repr

/-- The fields of `struct nabu_connection` that the adaptor and `conn.c`'s accessors use. -/
structure Conn where
  /-- What the NABU has sent and the adaptor has not read yet. -/
  rx : List UInt8
  /-- What the adaptor has sent to the NABU, oldest first. -/
  tx : List UInt8
  /-- `CONN_STATE_ABORTED`: `conn_check_state` fails. -/
  aborted : Bool
  /-- `l_channel`. -/
  channel : Option Channel
  /-- `l_selected_file`. -/
  selectedFile : Option String
  /-- `retronet_enabled`. -/
  retronetEnabled : Bool
  /-- `l_last_image`. -/
  lastImage : Option Image
  /-- `nhacp_sessions`: the ids of the connection's NHACP sessions. -/
  nhacpSessions : List UInt8
  /-- `retronet`: the RetroNet context, with its blobs, if one was set up. -/
  retronet : Option (List RnBlob)
  /-- `pktbuf[0, pktlen)`. -/
  pktbuf : List UInt8
  /-- The outcomes of the coming calls to `malloc`. -/
  allocs : List Bool
  /-- History: the classic messages dispatched to a handler, in order. -/
  dispatched : List ClassicMsg
  /-- History: the buffers handed to `adaptor_send_packet`, in order. -/
  packets : List (List UInt8)
  deriving DecidableEq, Repr

/-- The connection `conn_create_common` builds (`calloc`, so every field zero), with the bytes
the NABU will send in `rx`. -/
def Conn.calloc (rx : List UInt8) : Conn :=
  { rx, tx := [], aborted := false, channel := none, selectedFile := none,
    retronetEnabled := false, lastImage := none, nhacpSessions := [], retronet := none,
    pktbuf := [], allocs := [], dispatched := [], packets := [] }

/-- What stops the process, or leaves its behaviour undefined. -/
inductive Fault where
  /-- An `assert` whose condition was false. -/
  | assertFailed (cond : String)
  /-- `log_fatal`, which terminates the process. -/
  | fatal (msg : String)
  /-- A `memcpy` from `img->data` past `img->length`. -/
  | dataOverrun (off len : Nat)
  /-- A read of `adaptor_msg_types[idx]` past the table's last entry. -/
  | tableOverrun (idx : Nat)
  deriving DecidableEq, Repr

/-- The monad of the adaptor's code. -/
abbrev AdaptorM := StateT Conn (Except Fault)

/-! ## The endpoint

Modelled from the spec (`conn_io.c` is not among the sources): `recv_byte` and `recv` of
exactly `n` bytes, best-effort `send`, `check_state`, and the watchdog. -/

/-- `conn_recv_byte`. -/
def connRecvByte : AdaptorM (Option UInt8) := fun s =>
  match s.rx with
  | b :: rest => .ok (some b, { s with rx := rest })
  | [] => .ok (none, { s with aborted := true })

/-- `conn_recv`: exactly `n` bytes, or a failure that leaves the stream at its end. -/
def connRecv (n : Nat) : AdaptorM (Option (List UInt8)) := fun s =>
  if n ≤ s.rx.length then .ok (some (s.rx.take n), { s with rx := s.rx.drop n })
  else .ok (none, { s with rx := [], aborted := true })

/-- `conn_send`. -/
def connSend (bytes : List UInt8) : AdaptorM Unit := fun s =>
  .ok ((), { s with tx := s.tx ++ bytes })

/-- `conn_send_byte`. -/
def connSendByte (b : UInt8) : AdaptorM Unit := connSend [b]

/-- `conn_check_state`: true while the endpoint is healthy. -/
def connCheckState : AdaptorM Bool := fun s => .ok (!s.aborted, s)

/-- `conn_set_state(conn, CONN_STATE_ABORTED)`. -/
def connSetAborted : AdaptorM Unit := fun s => .ok ((), { s with aborted := true })

/-- `conn_start_watchdog`. -/
def connStartWatchdog (_sec : Nat) : AdaptorM Unit := pure ()

/-- `conn_stop_watchdog`. -/
def connStopWatchdog : AdaptorM Unit := pure ()

/-- The state once `malloc` has taken its outcome from the oracle. -/
def Conn.popAlloc (s : Conn) : Conn := { s with allocs := s.allocs.tail }

/-- `malloc`: whether the allocation succeeded. -/
def malloc (_size : Nat) : AdaptorM Bool := fun s => .ok (s.allocs.headD true, s.popAlloc)

/-! ## Sub-protocol state

Modelled from the spec: `nhacp.c` and `retronet.c` are not among the sources, and §6 says
their `fini` releases the connection's sub-session state. -/

/-- `nhacp_conn_fini`. -/
def nhacpConnFini : AdaptorM Unit := fun s => .ok ((), { s with nhacpSessions := [] })

/-- `retronet_conn_fini`. -/
def retronetConnFini : AdaptorM Unit := fun s => .ok ((), { s with retronet := none })

/-! ## `conn.c`'s accessors

Each runs under `conn->mutex`; the adaptor's thread sees the region as one step. -/

/-- `conn_reboot`: clear the NHACP and RetroNet state. -/
def connReboot : AdaptorM Unit := do
  let s ← get
  if !s.nhacpSessions.isEmpty then nhacpConnFini
  if s.retronet.isSome then retronetConnFini

/-- `conn_get_channel`. -/
def connGetChannel : AdaptorM (Option Channel) := fun s => .ok (s.channel, s)

/-- `conn_set_channel`: changing the channel clears the selected file. -/
def connSetChannel (chan : Channel) : AdaptorM Unit := fun s =>
  .ok ((), { s with channel := some chan, retronetEnabled := chan.retronetEnabled,
                    selectedFile := none })

/-- `conn_get_selected_file_logic`, with `conn->mutex` held: the selected file, else the
channel's default file. -/
def connGetSelectedFileLogic (s : Conn) : Option String :=
  match s.selectedFile with
  | some f => some f
  | none =>
    match s.channel with
    | some chan => chan.defaultFile
    | none => none

/-- `conn_set_selected_file`: install `name`.  The old name is freed once the mutex is dropped,
when the connection no longer points to it. -/
def connSetSelectedFile (name : Option String) : AdaptorM Unit := fun s =>
  .ok ((), { s with selectedFile := name })

/-- `conn_set_last_image`: install `img`, return the old value. -/
def connSetLastImage (img : Option Image) : AdaptorM (Option Image) := fun s =>
  .ok (s.lastImage, { s with lastImage := img })

/-! ## Running the monad

A computation applied to a state is an `Except` of a value and a state; these unfold `bind`,
`pure`, `throw` and `if` there, so that every later proof can run a program by `simp`. -/

section Run

variable {α β : Type} (s : Conn)

@[simp] theorem AdaptorM.run_bind (m : AdaptorM α) (f : α → AdaptorM β) :
    (m >>= f) s = match m s with
      | .ok (a, s') => f a s'
      | .error e => .error e := by
  show StateT.bind m f s = _
  simp only [StateT.bind]
  rcases m s with e | ⟨a, s'⟩ <;> rfl

@[simp] theorem AdaptorM.run_map (f : α → β) (m : AdaptorM α) :
    (f <$> m) s = match m s with
      | .ok (a, s') => .ok (f a, s')
      | .error e => .error e := by
  show StateT.map f m s = _
  simp only [StateT.map]
  rcases m s with e | ⟨a, s'⟩ <;> rfl

@[simp] theorem AdaptorM.run_pure (a : α) : (pure a : AdaptorM α) s = .ok (a, s) := rfl

@[simp] theorem AdaptorM.run_throw (e : Fault) : (throw e : AdaptorM α) s = .error e := rfl

@[simp] theorem AdaptorM.run_ite (c : Prop) [Decidable c] (m m' : AdaptorM α) :
    (if c then m else m') s = if c then m s else m' s := by
  split <;> rfl

@[simp] theorem AdaptorM.run_get : (get : AdaptorM Conn) s = .ok (s, s) := rfl

@[simp] theorem AdaptorM.run_modify (f : Conn → Conn) :
    (modify f : AdaptorM Unit) s = .ok ((), f s) := rfl

end Run

/-! ## Spec lemmas -/

variable {s : Conn}

@[simp] theorem connSend_run (bytes : List UInt8) :
    connSend bytes s = .ok ((), { s with tx := s.tx ++ bytes }) := rfl

@[simp] theorem connSendByte_run (b : UInt8) :
    connSendByte b s = .ok ((), { s with tx := s.tx ++ [b] }) := rfl

@[simp] theorem malloc_run (size : Nat) : malloc size s = .ok (s.allocs.headD true, s.popAlloc) :=
  rfl

@[simp] theorem connStartWatchdog_run (sec : Nat) : connStartWatchdog sec s = .ok ((), s) := rfl

@[simp] theorem connStopWatchdog_run : connStopWatchdog s = .ok ((), s) := rfl

theorem connRecvByte_cons {b : UInt8} {rest : List UInt8} (h : s.rx = b :: rest) :
    connRecvByte s = .ok (some b, { s with rx := rest }) := by
  simp [connRecvByte, h]

theorem connRecvByte_nil (h : s.rx = []) :
    connRecvByte s = .ok (none, { s with aborted := true }) := by
  simp [connRecvByte, h]

theorem connRecv_append {bytes rest : List UInt8} (h : s.rx = bytes ++ rest) :
    connRecv bytes.length s = .ok (some bytes, { s with rx := rest }) := by
  simp [connRecv, h]

theorem connReboot_eq (s : Conn) :
    connReboot s = .ok ((), { s with nhacpSessions := [], retronet := none }) := by
  obtain ⟨rx, tx, ab, ch, sf, re, li, ns, rn, pb, al, di, pk⟩ := s
  cases ns <;> cases rn <;> rfl

end Nabud
