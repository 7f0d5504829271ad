import Nabud.Conn.Safety

/-!
# A connection's life: created, served, destroyed

`conn_create_common` allocates a connection, starts its worker with `conn_io_start`, and only
afterwards calls `conn_insert`.  The worker, `conn_thread` (or `conn_tcp_thread` for a
listener), runs its loop until it ends and then calls `conn_destroy`: `conn_remove`, which
unlinks the connection only if `on_list` is already set, then `image_release`, `conn_reboot`
and `free`.  If setting up or starting the worker fails, `conn_create_common` calls
`conn_destroy` itself.

The two threads share the registry of `Nabud.Conn.Registry`; each step here that touches it is
one of that module's steps.

* `connCreateCommon_insert_after_destroy`: the worker can finish and destroy its connection
  before the creating thread reaches `conn_insert` — a TCP peer that connects and leaves at
  once, a serial port whose first read fails.  `conn_remove` then finds `on_list` clear and
  unlinks nothing, the connection is freed, and `conn_insert` puts the freed connection on
  `conn_list`.
* `freed_mem_skipped`: that is the only way a freed connection is ever listed.
-/

set_option autoImplicit false

namespace Nabud

/-- Where `conn_create_common` is, for one connection. -/
inductive CreatePc
  /-- Not allocated yet. -/
  | unborn
  /-- Allocated and set up; about to call `conn_io_start`. -/
  | starting
  /-- `conn_io_start` started the worker; about to call `conn_insert`. -/
  | inserting
  /-- Setting up or starting failed; in `conn_destroy`. -/
  | destroying
  /-- Returned. -/
  | returned
  deriving DecidableEq, Repr

/-- Where a connection's worker is. -/
inductive WorkerPc
  /-- Not started. -/
  | none
  /-- In `adaptor_event_loop`, or in the listener's accept loop. -/
  | running
  /-- The loop ended; in `conn_destroy`. -/
  | destroying
  /-- Returned. -/
  | exited
  deriving DecidableEq, Repr

/-- The registry, and the creating thread and the worker of every connection. -/
structure Lifecycle where
  reg : Registry
  create : ConnId → CreatePc
  worker : ConnId → WorkerPc
  /-- `conn_destroy` has freed the connection. -/
  freed : ConnId → Bool

def Lifecycle.init : Lifecycle :=
  { reg := Registry.init, create := fun _ ↦ .unborn, worker := fun _ ↦ .none,
    freed := fun _ ↦ false }

/-- Some thread is in `conn_destroy` for `c`. -/
def Lifecycle.destroying (w : Lifecycle) (c : ConnId) : Bool :=
  w.create c = .destroying || w.worker c = .destroying

/-- One atomic step of a creating thread or a worker. -/
inductive LifeAction
  /-- `calloc` and the set-up before `conn_io_start`. -/
  | create (c : ConnId)
  /-- `conn_io_init` and `conn_io_start`, succeeding or not. -/
  | ioStart (c : ConnId) (ok : Bool)
  /-- `conn_insert(conn)` in `conn_create_common`. -/
  | insert (c : ConnId)
  /-- The worker's loop returns; it calls `conn_destroy`. -/
  | workerExit (c : ConnId)
  /-- `conn_destroy`'s `conn_remove`: its test of `on_list`. -/
  | removeTest (c : ConnId)
  /-- `conn_destroy`'s `conn_remove`: the unlink. -/
  | removeUnlink (c : ConnId)
  /-- The rest of `conn_destroy`, down to `free(conn)`. -/
  | free (c : ConnId)
  deriving DecidableEq, Repr

/-- `conn_destroy` for `c` has returned, in whichever thread ran it. -/
def Lifecycle.destroyed (w : Lifecycle) (c : ConnId) : Lifecycle :=
  { w with
    create := if w.create c = .destroying then Function.update w.create c .returned else w.create
    worker := if w.worker c = .destroying then Function.update w.worker c .exited else w.worker
    freed := Function.update w.freed c true }

def Lifecycle.step (w : Lifecycle) : LifeAction → Option Lifecycle
  | .create c =>
    if w.create c = .unborn then some { w with create := Function.update w.create c .starting }
    else none
  | .ioStart c ok =>
    if w.create c = .starting then
      if ok then
        some { w with
          create := Function.update w.create c .inserting
          worker := Function.update w.worker c .running }
      else some { w with create := Function.update w.create c .destroying }
    else none
  | .insert c =>
    if w.create c = .inserting then
      (connInsert w.reg c).map fun r ↦
        { w with reg := r, create := Function.update w.create c .returned }
    else none
  | .workerExit c =>
    if w.worker c = .running then some { w with worker := Function.update w.worker c .destroying }
    else none
  | .removeTest c =>
    if w.destroying c then (connRemoveTest w.reg c).map fun r ↦ { w with reg := r } else none
  | .removeUnlink c =>
    if w.destroying c then (connRemoveUnlink w.reg c).map fun r ↦ { w with reg := r } else none
  | .free c =>
    if w.destroying c && (w.reg.removePc c = .unlinked || w.reg.removePc c = .skipped) then
      some (w.destroyed c)
    else none

/-- The state a schedule leads to, if every thread can take its step. -/
def Lifecycle.run (w : Lifecycle) : List LifeAction → Option Lifecycle
  | [] => some w
  | a :: as => (w.step a).bind (·.run as)

/-- **The worker can destroy its connection before it is inserted.**  The creating thread
starts the worker; the worker's loop ends at once and it runs `conn_destroy`, whose
`conn_remove` sees `on_list` clear and skips the unlink, and frees the connection; the creating
thread then applies `conn_insert` to the freed connection, which stays on `conn_list`. -/
theorem connCreateCommon_insert_after_destroy :
    ∃ w₀ w, Lifecycle.init.run [.create 0, .ioStart 0 true, .workerExit 0, .removeTest 0,
        .free 0] = some w₀ ∧
      w₀.freed 0 = true ∧ w₀.step (.insert 0) = some w ∧
      w.freed 0 = true ∧ 0 ∈ w.reg.connList :=
  ⟨_, _, rfl, rfl, rfl, rfl, List.mem_singleton_self 0⟩

/-! ## Which freed connections can be listed -/

/-- The states some interleaving of the creating threads and the workers reaches. -/
inductive Lifecycle.Reachable : Lifecycle → Prop
  | init : Lifecycle.Reachable Lifecycle.init
  | step {w w' : Lifecycle} (a : LifeAction) :
      Lifecycle.Reachable w → w.step a = some w' → Lifecycle.Reachable w'

/-- Once `conn_destroy` has freed a connection, its `conn_remove` has returned. -/
def Lifecycle.FreedRemoved (w : Lifecycle) : Prop :=
  ∀ c, w.freed c = true → w.reg.removePc c = .unlinked ∨ w.reg.removePc c = .skipped

section Steps

variable {w w' : Lifecycle}

theorem reg_of_map {o : Option Registry} {f : Registry → Lifecycle} (hf : ∀ r, (f r).reg = r)
    (h : o.map f = some w') : o = some w'.reg := by
  obtain ⟨r, hr, rfl⟩ := Option.map_eq_some'.1 h
  rw [hf, hr]

/-- Every step of the two threads is a step of the registry, or leaves it alone. -/
theorem Lifecycle.step_reg {a : LifeAction} (h : w.step a = some w') :
    w'.reg = w.reg ∨ ∃ b, w.reg.step b = some w'.reg := by
  cases a with
  | insert c =>
    simp only [Lifecycle.step] at h
    split_ifs at h
    exact .inr ⟨.insert c, reg_of_map (fun _ ↦ rfl) h⟩
  | removeTest c =>
    simp only [Lifecycle.step] at h
    split_ifs at h
    exact .inr ⟨.removeTest c, reg_of_map (fun _ ↦ rfl) h⟩
  | removeUnlink c =>
    simp only [Lifecycle.step] at h
    split_ifs at h
    exact .inr ⟨.removeUnlink c, reg_of_map (fun _ ↦ rfl) h⟩
  | create c | ioStart c _ | workerExit c | free c =>
    simp only [Lifecycle.step] at h
    split_ifs at h <;> cases h <;> exact .inl rfl

theorem Lifecycle.Reachable.reg (h : w.Reachable) : w.reg.Reachable := by
  induction h with
  | init => exact .init
  | step a _ hs ih =>
    rcases Lifecycle.step_reg hs with he | ⟨b, hb⟩
    · exact he ▸ ih
    · exact ih.step b hb

theorem Lifecycle.FreedRemoved.step (hf : w.FreedRemoved) {a : LifeAction}
    (h : w.step a = some w') : w'.FreedRemoved := by
  intro x hx
  cases a with
  | removeTest c =>
    simp only [Lifecycle.step] at h
    split_ifs at h
    obtain ⟨r, hr, rfl⟩ := Option.map_eq_some'.1 h
    obtain ⟨hidle, rfl⟩ := connRemoveTest_some hr
    have hxc : x ≠ c := fun hxc ↦ by rcases hf x hx with h' | h' <;> simp_all
    simpa [Function.update_noteq hxc] using hf x hx
  | removeUnlink c =>
    simp only [Lifecycle.step] at h
    split_ifs at h
    obtain ⟨r, hr, rfl⟩ := Option.map_eq_some'.1 h
    obtain ⟨hwait, -, rfl⟩ := connRemoveUnlink_some hr
    by_cases hxc : x = c
    · subst hxc; simp
    · simpa [Function.update_noteq hxc] using hf x hx
  | free c =>
    simp only [Lifecycle.step] at h
    split_ifs at h with hg
    cases h
    by_cases hxc : x = c
    · subst hxc
      exact (by simpa using hg : w.destroying x = true ∧ _).2
    · exact hf x (by simpa [Lifecycle.destroyed, Function.update_noteq hxc] using hx)
  | insert c =>
    simp only [Lifecycle.step] at h
    split_ifs at h
    obtain ⟨r, hr, rfl⟩ := Option.map_eq_some'.1 h
    obtain ⟨-, -, rfl⟩ := connInsert_some hr
    exact hf x hx
  | create c | ioStart c ok | workerExit c =>
    simp only [Lifecycle.step] at h
    split_ifs at h <;> cases h <;> exact hf x hx

end Steps

theorem Lifecycle.Reachable.run {w w' : Lifecycle} {as : List LifeAction} (h : w.Reachable)
    (hr : w.run as = some w') : w'.Reachable := by
  induction as generalizing w with
  | nil => exact Option.some.inj hr ▸ h
  | cons a as ih =>
    obtain ⟨t, ht, hr⟩ := Option.bind_eq_some.1 hr
    exact ih (h.step a ht) hr

theorem Lifecycle.Reachable.freedRemoved {w : Lifecycle} (h : w.Reachable) : w.FreedRemoved := by
  induction h with
  | init => intro c hc; simp [Lifecycle.init] at hc
  | step _ _ hs ih => exact ih.step hs

/-- **A freed connection is listed only when `conn_remove` skipped it.**  In every state the
creating threads and the workers reach, a connection on `conn_list` that `conn_destroy` has
freed is one whose `conn_remove` found `on_list` clear: it was inserted after its worker had
destroyed it. -/
theorem freed_mem_skipped {w : Lifecycle} (h : w.Reachable) {c : ConnId}
    (hfreed : w.freed c = true) (hmem : c ∈ w.reg.connList) :
    w.reg.removePc c = .skipped := by
  rcases h.freedRemoved c hfreed with hu | hs
  · exact absurd hmem (h.reg.inv.unlinked c hu).2
  · exact hs

/-- The schedule of `connCreateCommon_insert_after_destroy`, to its end. -/
def insertAfterFreeSchedule : List LifeAction :=
  [.create 0, .ioStart 0 true, .workerExit 0, .removeTest 0, .free 0, .insert 0]

theorem freed_mem_skipped_insertAfterFree :
    ((Lifecycle.init.run insertAfterFreeSchedule).getD Lifecycle.init).Reachable ∧
    ((Lifecycle.init.run insertAfterFreeSchedule).getD Lifecycle.init).freed 0 = true ∧
    0 ∈ ((Lifecycle.init.run insertAfterFreeSchedule).getD Lifecycle.init).reg.connList ∧
    ((Lifecycle.init.run insertAfterFreeSchedule).getD Lifecycle.init).reg.removePc 0 = .skipped :=
  have hr : ((Lifecycle.init.run insertAfterFreeSchedule).getD Lifecycle.init).Reachable :=
    @Lifecycle.Reachable.run _ _ insertAfterFreeSchedule .init rfl
  ⟨hr, rfl, List.mem_singleton_self 0, freed_mem_skipped hr rfl (List.mem_singleton_self 0)⟩

/-! ## Nothing is done to a freed connection but the late insert -/

/-- The connection a step is on. -/
def LifeAction.conn : LifeAction → ConnId
  | .create c | .ioStart c _ | .insert c | .workerExit c | .removeTest c | .removeUnlink c
  | .free c => c

/-- Where the two threads of connection `c` can be together: the worker runs only once
`conn_io_start` has succeeded, and once the connection is freed neither thread is before or in
`conn_destroy`, and the worker has stopped. -/
def Lifecycle.Threads (w : Lifecycle) (c : ConnId) : Prop :=
  (w.worker c = .none ∨ w.create c = .inserting ∨ w.create c = .returned) ∧
  (w.freed c = true → (w.create c = .inserting ∨ w.create c = .returned) ∧
    (w.worker c = .none ∨ w.worker c = .exited))

section Threads

variable {w w' : Lifecycle} {c : ConnId}

theorem Lifecycle.threads_init : Lifecycle.init.Threads c :=
  ⟨.inl rfl, fun h ↦ by simp [Lifecycle.init] at h⟩

/-- A step on another connection leaves `c`'s threads where they were. -/
theorem Lifecycle.step_other {a : LifeAction} (hs : w.step a = some w') (hc : a.conn ≠ c) :
    w'.create c = w.create c ∧ w'.worker c = w.worker c ∧ w'.freed c = w.freed c := by
  cases a <;> simp only [LifeAction.conn] at hc <;> simp only [Lifecycle.step] at hs <;>
    split_ifs at hs <;> first
    | cases hs
    | (obtain ⟨r, -, rfl⟩ := Option.map_eq_some'.1 hs)
  all_goals simp [Function.update_noteq (Ne.symm hc), Lifecycle.destroyed]
  all_goals split_ifs <;> simp [Function.update_noteq (Ne.symm hc)]

theorem Lifecycle.Threads.step (hi : w.Threads c) {a : LifeAction} (hs : w.step a = some w') :
    w'.Threads c := by
  by_cases hc : a.conn = c
  · obtain ⟨h₁, h₂⟩ := hi
    cases a <;> simp only [LifeAction.conn] at hc <;> subst hc <;>
      simp only [Lifecycle.step] at hs <;> split_ifs at hs with hg
    all_goals first
      | cases hs
      | (obtain ⟨r, -, rfl⟩ := Option.map_eq_some'.1 hs)
    all_goals simp_all [Lifecycle.Threads, Lifecycle.destroyed, Lifecycle.destroying]
    split_ifs <;> simp_all
  · obtain ⟨hcr, hwk, hfr⟩ := Lifecycle.step_other hs hc
    simpa [Lifecycle.Threads, hcr, hwk, hfr] using hi

end Threads

theorem Lifecycle.Reachable.threads {w : Lifecycle} (h : w.Reachable) (c : ConnId) :
    w.Threads c := by
  induction h with
  | init => exact Lifecycle.threads_init
  | step _ _ hs ih => exact ih.step hs

/-- **A freed connection is never destroyed again.**  In every state the creating threads and
the workers reach, once `conn_destroy` has freed a connection, the only step any thread still
takes on it is the creating thread's `conn_insert` of `connCreateCommon_insert_after_destroy`:
no worker runs on it, `conn_destroy` does not run on it again, and it is not freed twice. -/
theorem freed_only_insert {w w' : Lifecycle} (h : w.Reachable) {c : ConnId}
    (hf : w.freed c = true) {a : LifeAction} (hc : a.conn = c) (hs : w.step a = some w') :
    a = .insert c := by
  obtain ⟨hcr, hwk⟩ := (h.threads c).2 hf
  cases a <;> simp only [LifeAction.conn] at hc <;> subst hc
  case insert => rfl
  all_goals
    rcases hcr with h₁ | h₁ <;> rcases hwk with h₂ | h₂ <;>
      simp [Lifecycle.step, Lifecycle.destroying, h₁, h₂] at hs

/-- The state of `connCreateCommon_insert_after_destroy` once the worker has freed the
connection. -/
def freedBeforeInsert : Lifecycle :=
  (Lifecycle.init.run (insertAfterFreeSchedule.take 5)).getD Lifecycle.init

theorem freed_only_insert_freedBeforeInsert :
    freedBeforeInsert.Reachable ∧ freedBeforeInsert.freed 0 = true ∧
    (LifeAction.insert 0).conn = 0 ∧
    freedBeforeInsert.step (.insert 0) =
      some ((freedBeforeInsert.step (.insert 0)).getD freedBeforeInsert) ∧
    LifeAction.insert 0 = .insert 0 :=
  have hr : freedBeforeInsert.Reachable :=
    @Lifecycle.Reachable.run _ _ (insertAfterFreeSchedule.take 5) .init rfl
  have hs : freedBeforeInsert.step (.insert 0) =
      some ((freedBeforeInsert.step (.insert 0)).getD freedBeforeInsert) := rfl
  ⟨hr, rfl, rfl, hs, @freed_only_insert _ _ hr 0 rfl _ rfl hs⟩

end Nabud
