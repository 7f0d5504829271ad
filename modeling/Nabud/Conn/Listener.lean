import Nabud.Adaptor.Requests
import Nabud.Conn.Selection

/-!
# What a TCP connection inherits from its listener

For each peer it accepts, `conn_tcp_thread` builds the new connection's arguments from the
listener.  It reads `l_channel` under the listener's mutex and drops the mutex, then copies the
selection with `conn_get_selected_file`, whose regions take the mutex again
(`Nabud.Conn.Selection`).  `conn_create_common` then selects, in the new connection, the channel
with that number unless the number is 0, and installs the copy as its selected file.

Other threads may call `conn_set_channel` and `conn_set_selected_file` on the listener at any
time, as in `Nabud.Conn.Selection`; each region of the worker is one step.

* `ListenState.args_of_copy`: whatever other threads do, the arguments are the channel the worker
  read in its first region and what its last region, the copy that returned, read.
* `connTcpThread_torn`: so, for every interleaving, the new connection starts on the channel the
  worker read, with the listener's effective selection at the copy.  A `conn_set_channel` in
  between starts it on the channel the listener has left, with a file of the new channel.
* `connTcpThread_inherits`: when the listener is, at the copy, on the channel the worker read,
  the new connection starts on that channel and resolves the same file as the listener.
-/

set_option autoImplicit false

namespace Nabud

/-! ## The new connection -/

/-- The fields of `struct conn_add_args` that `conn_create_common` sets the selection from. -/
structure ConnAddArgs where
  /-- `channel`: the number of the channel to select, 0 for none. -/
  channel : UInt16
  /-- `selected_file`. -/
  selectedFile : Option String
  deriving DecidableEq, Repr

/-- What `conn_create_common` does to the new connection's selection before it starts the
worker: `image_channel_select` of the channel `args->channel` names, unless it is 0, then
`conn->l_selected_file = args->selected_file`. -/
def connCreateCommon (env : Env) (args : ConnAddArgs) : AdaptorM Unit := do
  if args.channel ≠ 0 then imageChannelSelect env (toInt16 args.channel)
  modify fun s ↦ { s with selectedFile := args.selectedFile }

/-- Installing a connection's effective selection as another's selected file, on the same
channel, gives that one the same effective selection. -/
theorem connGetSelectedFileLogic_inherit {s s' : Conn} (hc : s'.channel = s.channel)
    (hf : s'.selectedFile = connGetSelectedFileLogic s) :
    connGetSelectedFileLogic s' = connGetSelectedFileLogic s := by
  unfold connGetSelectedFileLogic at hf ⊢
  rw [hf, hc]
  rcases s.selectedFile with _ | f <;> rcases s.channel with _ | c <;> simp
  cases c.defaultFile <;> rfl

/-- The new connection of a listener on `chan`: the channel is selected again through the
table, and the selection is the one given. -/
theorem connCreateCommon_calloc (env : Env) {chan : Option Channel} (rx : List UInt8)
    (f : Option String)
    (hchan : ∀ c, chan = some c → c.number ≠ 0 ∧ env.channelLookup (toInt16 c.number) = some c) :
    ∃ child, connCreateCommon env ⟨(chan.map Channel.number).getD 0, f⟩ (Conn.calloc rx) =
      .ok ((), child) ∧ child.channel = chan ∧ child.selectedFile = f := by
  rcases chan with _ | c
  · simp [connCreateCommon, Conn.calloc]
  · obtain ⟨hn, hl⟩ := hchan c rfl
    simp [connCreateCommon, hn, imageChannelSelect, hl, connSetChannel]

/-! ## The listener's snapshot -/

/-- The listener's worker taking the snapshot for one accepted peer, on the listener's shared
record, among the threads that set its selection. -/
structure ListenState where
  /-- `chan`, once the worker has read `l_channel`. -/
  chan : Option (Option Channel)
  /-- The listener's record, and the worker's call of `conn_get_selected_file`. -/
  sel : SelectState

/-- The worker once `conn_io_accept` has returned a peer. -/
def ListenState.start (conn : Conn) : ListenState := ⟨none, .start conn⟩

/-- An atomic step of the worker or of another thread. -/
inductive ListenAction where
  /-- `chan = conn->l_channel`, under the listener's mutex. -/
  | readChannel
  /-- A region of the worker's `conn_get_selected_file`, or another thread's setter. -/
  | select (a : SelectAction)

/-- The step, if the thread that takes it is there: the worker calls `conn_get_selected_file`
once it has read the channel. -/
def ListenState.step (st : ListenState) : ListenAction → Option ListenState
  | .readChannel =>
    if st.chan = none then some { st with chan := some st.sel.conn.channel } else none
  | .select a =>
    if a.isSetter || st.chan.isSome then (st.sel.step a).map fun sel ↦ { st with sel } else none

/-- The state a schedule of steps leads to, if every thread can take its step. -/
def ListenState.run (st : ListenState) : List ListenAction → Option ListenState
  | [] => some st
  | a :: as => (st.step a).bind (·.run as)

/-- The arguments the worker hands `conn_create_common` once `conn_get_selected_file` has
returned: `chan->number`, or 0 for no channel, and the string returned. -/
def ListenState.args (st : ListenState) : Option ConnAddArgs :=
  match st.chan, st.sel.call.pc with
  | some chan, .returned cp => some ⟨(chan.map Channel.number).getD 0, cp.bind Block.str⟩
  | _, _ => none

theorem ListenState.run_append (st : ListenState) (as bs : List ListenAction) :
    st.run (as ++ bs) = (st.run as).bind (·.run bs) := by
  induction as generalizing st with
  | nil => rfl
  | cons a as ih =>
    simp only [List.cons_append, ListenState.run]
    cases st.step a <;> simp [ih]

/-! ## The snapshot, among any setters -/

/-- **The arguments are two reads.**  For every schedule that ends in the worker's copy region
returning, the arguments hold the channel the worker read in its first region and the listener's
effective selection as the copy region found it, whatever ran in between. -/
theorem ListenState.args_of_copy {conn : Conn} {as : List ListenAction} {st' : ListenState}
    {b : Block} (hrun : (ListenState.start conn).run (as ++ [.select .copy]) = some st')
    (hret : st'.sel.call.pc = .returned (some b)) :
    ∃ chan, st'.chan = some chan ∧
      st'.args = some ⟨(chan.map Channel.number).getD 0, connGetSelectedFileLogic st'.sel.conn⟩ := by
  rw [ListenState.run_append] at hrun
  obtain ⟨st, -, hst⟩ := Option.bind_eq_some.1 hrun
  rcases hchan : st.chan with _ | chan
  · simp [ListenState.run, ListenState.step, SelectAction.isSetter, hchan] at hst
  by_cases hpc : st.sel.call.pc = .copy
  · simp only [ListenState.run, ListenState.step, SelectAction.isSetter, hchan, Option.isSome_some,
      Bool.or_true, if_true, SelectState.step, hpc, Option.map_some', Option.some_bind,
      Option.some.injEq] at hst
    subst hst
    have hret' : (st.sel.call.copy (connGetSelectedFileLogic st.sel.conn)).pc =
        .returned (some b) := hret
    refine ⟨chan, rfl, ?_⟩
    simp only [ListenState.args, hret', Option.some_bind, GetCall.copy_returned hret']
  · simp [ListenState.run, ListenState.step, SelectAction.isSetter, hchan, SelectState.step, hpc]
      at hst

/-- **The snapshot is two reads.**  For every interleaving of other threads' setters with the
listener's worker that ends in its copy region returning, the new connection starts on the
channel the worker read in its first region, and its selected file is the listener's effective
selection when the copy region ran — provided the table gives that channel back for its number,
and the number is not 0.  A `conn_set_channel` between the two reads so starts the new
connection on the channel the listener has left, with a file of the listener's new channel. -/
theorem connTcpThread_torn (env : Env) (conn : Conn) (rx : List UInt8) {as : List ListenAction}
    {st' : ListenState} {b : Block}
    (hrun : (ListenState.start conn).run (as ++ [.select .copy]) = some st')
    (hret : st'.sel.call.pc = .returned (some b))
    (hchan : ∀ c, st'.chan = some (some c) →
      c.number ≠ 0 ∧ env.channelLookup (toInt16 c.number) = some c) :
    ∃ args child, st'.args = some args ∧
      connCreateCommon env args (Conn.calloc rx) = .ok ((), child) ∧
      st'.chan = some child.channel ∧
      child.selectedFile = connGetSelectedFileLogic st'.sel.conn := by
  obtain ⟨chan, hc, hargs⟩ := ListenState.args_of_copy hrun hret
  obtain ⟨child, hcreate, hch, hf⟩ :=
    connCreateCommon_calloc env rx (connGetSelectedFileLogic st'.sel.conn)
      fun c h ↦ hchan c (h ▸ hc)
  exact ⟨_, child, hargs, hcreate, hc.trans (congrArg some hch.symm), hf⟩

/-- **A TCP connection inherits its listener's channel and selection.**  For every interleaving
of other threads' setters with the listener's worker that ends in its copy region returning,
with the listener, at that moment, on the channel the worker read: the new connection starts on
that channel, and resolves the same file as the listener — provided the table gives the channel
back for its number, and the number is not 0. -/
theorem connTcpThread_inherits (env : Env) (conn : Conn) (rx : List UInt8)
    {as : List ListenAction} {st' : ListenState} {b : Block}
    (hrun : (ListenState.start conn).run (as ++ [.select .copy]) = some st')
    (hret : st'.sel.call.pc = .returned (some b))
    (hsame : st'.chan = some st'.sel.conn.channel)
    (hchan : ∀ c, st'.sel.conn.channel = some c →
      c.number ≠ 0 ∧ env.channelLookup (toInt16 c.number) = some c) :
    ∃ args child, st'.args = some args ∧
      connCreateCommon env args (Conn.calloc rx) = .ok ((), child) ∧
      child.channel = st'.sel.conn.channel ∧
      connGetSelectedFileLogic child = connGetSelectedFileLogic st'.sel.conn := by
  obtain ⟨chan, hc, hargs⟩ := ListenState.args_of_copy hrun hret
  obtain rfl : chan = st'.sel.conn.channel := Option.some.inj (hc.symm.trans hsame)
  obtain ⟨child, hcreate, hch, hf⟩ :=
    connCreateCommon_calloc env rx (connGetSelectedFileLogic st'.sel.conn) hchan
  exact ⟨_, child, hargs, hcreate, hch, connGetSelectedFileLogic_inherit hch hf⟩

/-- Channel 1 of the table, with a default file. -/
def channelOne : Channel :=
  { number := 1, type := .raw, defaultFile := some "one.nabu", retronetEnabled := false }

/-- Channel 2 of the table, with another default file. -/
def channelTwo : Channel :=
  { number := 2, type := .pak, defaultFile := some "two.nabu", retronetEnabled := true }

/-- Collaborators whose table has `channelOne` and `channelTwo` under their numbers. -/
def twoChannelEnv : Env :=
  { Env.bare with
    channelLookup := fun code ↦
      if code = 1 then some channelOne else if code = 2 then some channelTwo else none }

/-- A listener on `channelOne`, with no file selected. -/
def listenerOnOne : Conn := { Conn.calloc [] with channel := some channelOne }

/-- A snapshot among setters: a file is selected before the worker starts, and another of the
same length while it waits for `malloc`. -/
def busySchedule : List ListenAction :=
  [.select (.setSelectedFile (some "x.nabu")), .readChannel, .select .measure,
    .select (.setSelectedFile (some "y.nabu")), .select (.allocate true)]

/-- Where `busySchedule` and the copy region lead from `listenerOnOne`. -/
def busyListener : ListenState :=
  ((ListenState.start listenerOnOne).run (busySchedule ++ [.select .copy])).getD
    (.start listenerOnOne)

theorem connTcpThread_inherits_busy :
    (ListenState.start listenerOnOne).run (busySchedule ++ [.select .copy]) = some busyListener ∧
    busyListener.sel.call.pc = .returned (some ⟨7, some "y.nabu"⟩) ∧
    busyListener.chan = some busyListener.sel.conn.channel ∧
    (∀ c, busyListener.sel.conn.channel = some c →
      c.number ≠ 0 ∧ twoChannelEnv.channelLookup (toInt16 c.number) = some c) ∧
    ∃ args child, busyListener.args = some args ∧
      connCreateCommon twoChannelEnv args (Conn.calloc []) = .ok ((), child) ∧
      child.channel = busyListener.sel.conn.channel ∧
      connGetSelectedFileLogic child = connGetSelectedFileLogic busyListener.sel.conn :=
  have hrun : (ListenState.start listenerOnOne).run (busySchedule ++ [.select .copy]) =
      some busyListener := rfl
  have hret : busyListener.sel.call.pc = .returned (some ⟨7, some "y.nabu"⟩) := rfl
  have hsame : busyListener.chan = some busyListener.sel.conn.channel := rfl
  have hchan : ∀ c, busyListener.sel.conn.channel = some c →
      c.number ≠ 0 ∧ twoChannelEnv.channelLookup (toInt16 c.number) = some c := by
    intro c hc
    obtain rfl : c = channelOne := (Option.some.inj hc).symm
    exact ⟨by decide, rfl⟩
  ⟨hrun, hret, hsame, hchan,
    connTcpThread_inherits twoChannelEnv listenerOnOne [] hrun hret hsame hchan⟩

/-- Another thread moves the listener to `channelTwo` between the worker's two reads. -/
def tornSchedule : List ListenAction :=
  [.readChannel, .select (.setChannel channelTwo), .select .measure, .select (.allocate true)]

/-- Where `tornSchedule` and the copy region lead from `listenerOnOne`. -/
def tornListener : ListenState :=
  ((ListenState.start listenerOnOne).run (tornSchedule ++ [.select .copy])).getD
    (.start listenerOnOne)

theorem connTcpThread_torn_channelTwo :
    (ListenState.start listenerOnOne).run (tornSchedule ++ [.select .copy]) = some tornListener ∧
    tornListener.sel.call.pc = .returned (some ⟨9, some "two.nabu"⟩) ∧
    (∀ c, tornListener.chan = some (some c) →
      c.number ≠ 0 ∧ twoChannelEnv.channelLookup (toInt16 c.number) = some c) ∧
    tornListener.chan = some (some channelOne) ∧ tornListener.sel.conn.channel = some channelTwo ∧
    connGetSelectedFileLogic tornListener.sel.conn = some "two.nabu" ∧
    ∃ args child, tornListener.args = some args ∧
      connCreateCommon twoChannelEnv args (Conn.calloc []) = .ok ((), child) ∧
      tornListener.chan = some child.channel ∧
      child.selectedFile = connGetSelectedFileLogic tornListener.sel.conn :=
  have hrun : (ListenState.start listenerOnOne).run (tornSchedule ++ [.select .copy]) =
      some tornListener := rfl
  have hret : tornListener.sel.call.pc = .returned (some ⟨9, some "two.nabu"⟩) := rfl
  have hread : tornListener.chan = some (some channelOne) := rfl
  have hchan : ∀ c, tornListener.chan = some (some c) →
      c.number ≠ 0 ∧ twoChannelEnv.channelLookup (toInt16 c.number) = some c := by
    intro c hc
    obtain rfl : c = channelOne := Option.some.inj (Option.some.inj (hc.symm.trans hread))
    exact ⟨by decide, rfl⟩
  ⟨hrun, hret, hchan, hread, rfl, rfl,
    connTcpThread_torn twoChannelEnv listenerOnOne [] hrun hret hchan⟩

end Nabud
