import Mathlib.Data.Nat.Digits
import Nabud.Conn.Object

/-!
# Bringing up connections

Two functions put a connection on `conn_list` from the configuration: `conn_add_serial` for a
serial port and `conn_add_tcp` for a TCP listener.  Neither has much control flow, but each has
one thing worth knowing that its comments do not say.

**Serial ports.**  `conn_add_serial` opens the port and configures it with
`conn_serial_setparam`: 8 data bits, no parity, raw, one or two stop bits, RTS/CTS if asked for,
and a baud rate.  Stop bits default to 2.  A configured baud rate is tried alone; otherwise the
NABU's native rate is tried first and 115200 after it.  The port is handed to
`conn_create_common` with the arguments of the first setting it accepts, and closed if it
accepts none.  What the comments leave out is the `assert` in `conn_serial_setparam`: a
configured stop-bit count other than 0, 1 or 2 stops the server.

**TCP listeners.**  `conn_add_tcp` makes one listener for each address `getaddrinfo` offers that
it can `bind` and `listen` on, and names it `"IPv4-<port>"` or `"IPv6-<port>"` in a buffer sized
by `sizeof("IPv4-65536")`.  The socket of a listener belongs to that connection from then on;
the loop sets `sock` to -1 so that its own `close` passes the socket by.

Whether the port accepts a setting — `tcgetattr`, `cfsetspeed` and `tcsetattr` all succeeding —
and whether `open`, `socket`, `bind` and `listen` succeed are oracles, as are the values `strtol`
and `getaddrinfo` return.

* `connAddSerial_eq`: `conn_add_serial` hands on the first of its candidate settings that the
  port accepts, and fails its `assert` exactly when the configured stop bits are neither 0, 1
  nor 2.
* `connAddTcp_sockets`: for a valid port, the listeners are exactly the addresses that bind and
  listen, each named in full, and every socket opened is owned by one listener or closed, never
  both.
-/

set_option autoImplicit false

namespace Nabud

/-! ## Serial ports -/

/-- The fields of `struct conn_add_args` that `conn_add_serial` reads and fills in. -/
structure SerialArgs where
  baud : UInt32
  stopBits : UInt32
  flowControl : Bool
  deriving DecidableEq, Repr

/-- What `conn_serial_setparam` puts on the port beyond the fixed 8N, raw and `CLOCAL`: the
speed, `CSTOPB` and `CRTSCTS`. -/
structure SerialSetting where
  baud : UInt32
  twoStopBits : Bool
  rtsCts : Bool
  deriving DecidableEq, Repr

/-- The setting `conn_serial_setparam` makes of the arguments. -/
def SerialArgs.setting (args : SerialArgs) : SerialSetting :=
  ⟨args.baud, args.stopBits = 2, args.flowControl⟩

/-- `NABU_NATIVE_BPS`: the NTSC colour burst, halved on the board and divided by 16 in the
TR1863. -/
def nabuNativeBps : UInt32 := (3579540 / 2) / 16

/-- `NABU_FALLBACK_BPS`. -/
def nabuFallbackBps : UInt32 := 115200

/-- `conn_serial_setparam`; `accepts` is whether the port takes a setting. -/
def connSerialSetparam (accepts : SerialSetting → Bool) (args : SerialArgs) : Except Fault Bool :=
  if args.stopBits = 1 ∨ args.stopBits = 2 then .ok (accepts args.setting)
  else .error (.assertFailed "args->stop_bits == 1 || args->stop_bits == 2")

/-- `conn_add_serial`: the arguments it hands `conn_create_common`, or `none` where it logs an
error and returns.  `opened` is whether `open` succeeded. -/
def connAddSerial (opened : Bool) (accepts : SerialSetting → Bool) (args : SerialArgs) :
    Except Fault (Option SerialArgs) := do
  if !opened then return none
  let args := if args.stopBits = 0 then { args with stopBits := 2 } else args
  if args.baud ≠ 0 then
    if ← connSerialSetparam accepts args then return some args
    return none
  let args := { args with baud := nabuNativeBps }
  if ← connSerialSetparam accepts args then return some args
  let args := { args with baud := nabuFallbackBps }
  if ← connSerialSetparam accepts args then return some args
  return none

/-! ### The settings tried -/

/-- The arguments `conn_add_serial` tries, in order: stop bits 2 unless configured, and the
configured baud rate, else the native rate and then the fallback. -/
def serialCandidates (args : SerialArgs) : List SerialArgs :=
  let args := if args.stopBits = 0 then { args with stopBits := 2 } else args
  if args.baud ≠ 0 then [args]
  else [{ args with baud := nabuNativeBps }, { args with baud := nabuFallbackBps }]

theorem UInt32.eq_iff_toBitVec {a b : UInt32} : a = b ↔ a.toBitVec = b.toBitVec :=
  ⟨UInt32.toBitVec_eq_of_eq, UInt32.eq_of_toBitVec_eq⟩

/-- Once 0 is read as 2, the stop bits pass `conn_serial_setparam`'s `assert` exactly when the
configured ones are at most 2. -/
theorem stopBits_default_valid (b : UInt32) :
    ((if b = 0 then 2 else b) = 1 ∨ (if b = 0 then 2 else b) = 2) ↔ b ≤ 2 := by
  simp only [UInt32.le_def, UInt32.eq_iff_toBitVec]
  split_ifs <;> simp at * <;> bv_omega

/-- **Serial bring-up.**  Once the port is open, `conn_add_serial` fails its `assert` exactly
when the configured stop bits are neither 0, 1 nor 2; otherwise it hands `conn_create_common` the
first of its candidates that the port accepts — the configured baud rate alone, else the native
111860 baud before 115200, with 2 stop bits unless 1 was configured — and closes the port when
the port accepts none. -/
theorem connAddSerial_eq (accepts : SerialSetting → Bool) (args : SerialArgs) :
    connAddSerial true accepts args =
      if args.stopBits ≤ 2 then .ok ((serialCandidates args).find? fun a ↦ accepts a.setting)
      else .error (.assertFailed "args->stop_bits == 1 || args->stop_bits == 2") := by
  simp only [connAddSerial, serialCandidates]
  generalize hn : (if args.stopBits = 0 then { args with stopBits := 2 } else args) = a
  have hs : a.stopBits = if args.stopBits = 0 then 2 else args.stopBits := by
    subst hn; split_ifs <;> rfl
  have hb : a.baud = args.baud := by subst hn; split_ifs <;> rfl
  have hv := stopBits_default_valid args.stopBits
  rw [← hs] at hv
  by_cases h : args.stopBits ≤ 2
  · simp only [connSerialSetparam, hv.2 h, h, hb, Bool.not_true, Bool.false_eq_true, if_true,
      if_false]
    split_ifs
    · -- a configured baud rate, tried alone
      cases hacc : accepts a.setting <;> simp only [List.find?, hacc] <;> rfl
    · -- the native rate, then the fallback
      cases h₁ : accepts { a with baud := nabuNativeBps }.setting <;>
        cases h₂ : accepts { a with baud := nabuFallbackBps }.setting <;>
        simp only [List.find?, h₁, h₂] <;> rfl
  · simp only [connSerialSetparam, mt hv.1 h, h, Bool.not_true, Bool.false_eq_true, if_false]
    split_ifs <;> rfl

/-- A port that will not run at the native rate is brought up at 115200, 8N2. -/
example : connAddSerial true (fun t ↦ t.baud ≠ nabuNativeBps) ⟨0, 0, false⟩ =
    .ok (some ⟨nabuFallbackBps, 2, false⟩) := rfl

/-! ## TCP listeners -/

/-- `ai_family`, as far as `conn_add_tcp` tells families apart. -/
inductive AddrFamily where
  | inet
  | inet6
  | other
  deriving DecidableEq, Repr

/-- One entry of the list `getaddrinfo` returns, with what the system makes of it: the descriptor
`socket` returns (`none` for -1), and whether `bind` and `listen` succeed. -/
structure AddrInfo where
  family : AddrFamily
  sock : Option Nat
  bindOk : Bool
  listenOk : Bool
  deriving DecidableEq, Repr

/-- `sizeof("IPv4-65536")`, the size of `conn_add_tcp`'s `name`. -/
def listenerNameSize : Nat := "IPv4-65536".length + 1

/-- The text `"IPv%s-%ld"` makes of a family and a port. -/
def listenerNameText (family : AddrFamily) (port : Int) : String :=
  "IPv" ++ (match family with | .inet => "4" | .inet6 => "6" | .other => "?") ++ "-" ++
    toString port

/-- What `snprintf(name, sizeof(name), "IPv%s-%ld", ...)` leaves in `name`: the text, cut to
leave room for the NUL. -/
def listenerName (family : AddrFamily) (port : Int) : String :=
  ⟨(listenerNameText family port).data.take (listenerNameSize - 1)⟩

/-- What `conn_add_tcp` has done so far: the listeners it has handed to `conn_create_common`,
each a name and a socket, and the sockets it has closed. -/
structure TcpListeners where
  listeners : List (String × Nat)
  closed : List Nat
  deriving DecidableEq, Repr

/-- One turn of `conn_add_tcp`'s loop over the addresses.  `sock` is left at -1 once a listener
owns it, so that the `close` at the bottom of the loop passes it by. -/
def connAddTcpAddr (port : Int) (st : TcpListeners) (ai : AddrInfo) : TcpListeners :=
  let name := listenerName ai.family port
  let (st, sock) : TcpListeners × Option Nat :=
    match ai.sock with
    | some sock =>
      if ai.bindOk then
        if ai.listenOk then ({ st with listeners := st.listeners ++ [(name, sock)] }, none)
        else (st, some sock)
      else (st, some sock)
    | none => (st, none)
  match sock with
  | some sock => { st with closed := st.closed ++ [sock] }
  | none => st

/-- `conn_add_tcp`, with `port` what `strtol` read and `gai` what `getaddrinfo` returned (`none`
when it failed); `none` where it logs an error and returns before the loop. -/
def connAddTcp (port : Int) (gai : Option (List AddrInfo)) : Option TcpListeners :=
  if port < 1 ∨ port > 65535 then none
  else gai.map fun ais ↦ ais.foldl (connAddTcpAddr port) ⟨[], []⟩

/-- Whether an address becomes a listener, once it has a socket. -/
def AddrInfo.listens (ai : AddrInfo) : Bool := ai.bindOk && ai.listenOk

/-! ### One address, then the whole list -/

theorem connAddTcpAddr_eq (port : Int) (st : TcpListeners) (ai : AddrInfo) :
    connAddTcpAddr port st ai =
      ⟨st.listeners ++
          (if ai.listens then ai.sock.map (listenerName ai.family port, ·) else none).toList,
        st.closed ++ (if ai.listens then none else ai.sock).toList⟩ := by
  rcases ai with ⟨f, _ | sock, _ | _, _ | _⟩ <;> simp [connAddTcpAddr, AddrInfo.listens]

theorem foldl_connAddTcpAddr (port : Int) (ais : List AddrInfo) (st : TcpListeners) :
    ais.foldl (connAddTcpAddr port) st =
      ⟨st.listeners ++ ais.filterMap fun ai ↦
          if ai.listens then ai.sock.map (listenerName ai.family port, ·) else none,
        st.closed ++ ais.filterMap fun ai ↦ if ai.listens then none else ai.sock⟩ := by
  induction ais generalizing st with
  | nil => simp
  | cons ai ais ih =>
    rw [List.foldl_cons, ih, connAddTcpAddr_eq]
    cases h : ai.listens <;> cases hs : ai.sock <;> simp [List.filterMap_cons, h, hs]

/-- A valid port's name fits: `"IPv6-65535"` is ten characters, as `"IPv4-65536"` is. -/
theorem listenerName_eq (family : AddrFamily) {port : Int} (hp : 1 ≤ port ∧ port ≤ 65535) :
    listenerName family port = listenerNameText family port := by
  obtain ⟨n, rfl⟩ := Int.eq_ofNat_of_zero_le (by omega : (0 : Int) ≤ port)
  have hn : (Nat.repr n).length ≤ 5 := Nat.repr_length n 5 (by norm_num) (by omega)
  have hs : toString (n : Int) = Nat.repr n := rfl
  have hlen : (listenerNameText family n).length ≤ listenerNameSize - 1 := by
    cases family <;> simp only [listenerNameText, String.length_append, hs] <;>
      exact (show 3 + 1 + 1 + _ ≤ 10 by omega)
  exact congrArg String.mk (List.take_of_length_le hlen)

/-- Each socket goes one way, to a listener or to `close`. -/
theorem sockets_perm (name : AddrInfo → String) (ais : List AddrInfo) :
    ((ais.filterMap fun ai ↦ if ai.listens then ai.sock.map (name ai, ·) else none).map Prod.snd ++
      ais.filterMap fun ai ↦ if ai.listens then none else ai.sock).Perm
      (ais.filterMap AddrInfo.sock) := by
  induction ais with
  | nil => simp
  | cons ai ais ih =>
    cases h : ai.listens <;> cases hs : ai.sock <;> simp [List.filterMap_cons, h, hs, ih]
    exact List.perm_middle.trans (.cons _ ih)

/-- **Every socket has one owner.**  For a port `strtol` read as 1 to 65535, `conn_add_tcp` hands
`conn_create_common` a listener for exactly the addresses that bind and listen, each named in
full — no name is cut short by `snprintf` — and closes every other socket it opened: each
descriptor `socket` returned is owned by one listener or closed, once, and never both. -/
theorem connAddTcp_sockets (port : Int) (hp : 1 ≤ port ∧ port ≤ 65535) (ais : List AddrInfo) :
    ∃ st, connAddTcp port (some ais) = some st ∧
      st.listeners = ais.filterMap (fun ai ↦
        if ai.listens then ai.sock.map (listenerNameText ai.family port, ·) else none) ∧
      (st.listeners.map Prod.snd ++ st.closed).Perm (ais.filterMap AddrInfo.sock) := by
  have hrun : connAddTcp port (some ais) = some (ais.foldl (connAddTcpAddr port) ⟨[], []⟩) := by
    simp [connAddTcp, show ¬(port < 1 ∨ port > 65535) by omega]
  refine ⟨_, hrun, ?_, ?_⟩ <;>
    simp only [foldl_connAddTcpAddr, List.nil_append, listenerName_eq _ hp]
  exact sockets_perm (fun ai ↦ listenerNameText ai.family port) ais

/-- A dual-stack host whose IPv6 address will not bind. -/
def dualStack : List AddrInfo := [⟨.inet, some 3, true, true⟩, ⟨.inet6, some 4, false, true⟩]

theorem connAddTcp_sockets_dualStack :
    (1 ≤ (8080 : Int) ∧ (8080 : Int) ≤ 65535) ∧
    ∃ st, connAddTcp 8080 (some dualStack) = some st ∧
      st.listeners = dualStack.filterMap (fun ai ↦
        if ai.listens then ai.sock.map (listenerNameText ai.family 8080, ·) else none) ∧
      (st.listeners.map Prod.snd ++ st.closed).Perm (dualStack.filterMap AddrInfo.sock) :=
  ⟨by decide, connAddTcp_sockets 8080 (by decide) dualStack⟩

end Nabud
