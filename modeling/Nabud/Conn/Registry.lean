import Mathlib.Logic.Function.Basic
import Mathlib.Data.List.Nodup

/-!
# The connection registry

`conn_list`, `conn_count`, and the two fields of each connection that go with them, `on_list`
and `enum_count`, together with the three functions of `conn.c` that use them:
`conn_insert`, `conn_remove` and `conn_enumerate`.

* Each region of code that holds `conn_list_mutex` is one atomic step, and so is each access
  made without it: `conn_remove`'s test of `on_list`, and the return of an enumeration callback.
  A thread in `pthread_cond_wait` takes no step until it can go on, so `conn_remove`'s wait
  becomes the guard `enum_count = 0` of its locked step, and `pthread_cond_broadcast` has
  nothing left to do.
* A connection is named by a `ConnId`.  `calloc` hands each connection a new one, so
  `conn_insert` is called once per connection (by `conn_create_common`, on the connection it has
  just allocated) and `conn_remove` once (by `conn_destroy`, which then frees it); `inserted` and
  `removePc` record where each connection is in those two calls.
* Each `conn_enumerate` call keeps its locals `conn` and `rv`, and, as ghost state, `conn_list`
  when the call began, the connections `func` was called on and what each call returned.
-/

set_option autoImplicit false

namespace Nabud

/-- A connection, by identity. -/
abbrev ConnId := Nat

/-- Where a connection's `conn_remove` call is. -/
inductive RemovePc
  /-- Not called yet. -/
  | idle
  /-- Saw `on_list` set; waits for the mutex with `enum_count` zero. -/
  | waiting
  /-- Unlinked the connection and returned. -/
  | unlinked
  /-- Saw `on_list` clear and returned. -/
  | skipped
  deriving DecidableEq, Repr

/-- Where a `conn_enumerate` call is. -/
inductive EnumPc
  /-- Called; about to take `conn_list_mutex`. -/
  | lock
  /-- `conn->enum_count` raised and the mutex dropped: `(*func)(conn, ctx)` is running. -/
  | func (conn : ConnId)
  /-- `func` returned; about to take the mutex again. -/
  | relock (conn : ConnId)
  /-- Returned `rv`. -/
  | done
  deriving DecidableEq, Repr

/-- The connection on which an enumerator holds an `enum_count` reference. -/
def EnumPc.pinned : EnumPc → Option ConnId
  | .func c | .relock c => some c
  | .lock | .done => none

/-- A `conn_enumerate` call. -/
structure Enumerator where
  pc : EnumPc
  rv : Bool
  /-- Ghost: `conn_list` when the call began. -/
  initial : List ConnId
  /-- Ghost: the connections `func` was called on, in order. -/
  visited : List ConnId
  /-- Ghost: what each call of `func` returned. -/
  results : List Bool
  deriving DecidableEq, Repr

/-- The registry, and the threads that use it. -/
structure Registry where
  connList : List ConnId
  onList : ConnId → Bool
  enumCount : ConnId → Nat
  connCount : Nat
  inserted : ConnId → Bool
  removePc : ConnId → RemovePc
  enums : List Enumerator

/-- `TAILQ_HEAD_INITIALIZER`, `conn_count` zero, and `calloc`'s zeroed fields. -/
def Registry.init : Registry :=
  { connList := [], onList := fun _ ↦ false, enumCount := fun _ ↦ 0, connCount := 0,
    inserted := fun _ ↦ false, removePc := fun _ ↦ .idle, enums := [] }

/-! ## The three functions -/

/-- `conn_insert` on a connection not inserted before: `assert(! conn->on_list)`, then under the
mutex `TAILQ_INSERT_TAIL`, `on_list = true` and `conn_count++`. -/
def connInsert (s : Registry) (c : ConnId) : Option Registry :=
  if s.inserted c || s.onList c then none
  else some { s with
    connList := s.connList ++ [c]
    onList := Function.update s.onList c true
    connCount := s.connCount + 1
    inserted := Function.update s.inserted c true }

/-- `conn_remove`'s test of `conn->on_list`, made without the mutex. -/
def connRemoveTest (s : Registry) (c : ConnId) : Option Registry :=
  if s.removePc c = .idle then
    some { s with
      removePc := Function.update s.removePc c (if s.onList c then .waiting else .skipped) }
  else none

/-- The region of `conn_remove` under the mutex, once `conn->enum_count` is zero:
`TAILQ_REMOVE`, `on_list = false` and `conn_count--`. -/
def connRemoveUnlink (s : Registry) (c : ConnId) : Option Registry :=
  if s.removePc c = .waiting ∧ s.enumCount c = 0 then
    some { s with
      connList := s.connList.erase c
      onList := Function.update s.onList c false
      connCount := s.connCount - 1
      removePc := Function.update s.removePc c .unlinked }
  else none

/-- `TAILQ_NEXT(conn, link)`: the connection after `c` on the list. -/
def tailqNext : List ConnId → ConnId → Option ConnId
  | [], _ => none
  | a :: l, c => if a = c then l.head? else tailqNext l c

/-- A thread calls `conn_enumerate`, with `rv = true`. -/
def connEnumerate (s : Registry) : Registry :=
  { s with enums := s.enums ++ [⟨.lock, true, s.connList, [], []⟩] }

/-- Enumerator `i`, whose locals are `e`, takes a reference on `c` (`conn->enum_count++`) and
drops the mutex to call `func` on it. -/
def Registry.pin (s : Registry) (i : Nat) (e : Enumerator) (c : ConnId) : Registry :=
  { s with
    enumCount := Function.update s.enumCount c (s.enumCount c + 1)
    enums := s.enums.set i { e with pc := .func c, visited := e.visited ++ [c] } }

/-- Enumerator `i` drops the mutex and returns `rv`. -/
def Registry.finish (s : Registry) (i : Nat) (e : Enumerator) : Registry :=
  { s with enums := s.enums.set i { e with pc := .done } }

/-- The first region of `conn_enumerate` under the mutex: `TAILQ_FIRST`. -/
def connEnumerateFirst (s : Registry) (i : Nat) : Option Registry :=
  match s.enums[i]? with
  | some e =>
    if e.pc = .lock then
      match s.connList.head? with
      | none => some (s.finish i e)
      | some c => some (s.pin i e c)
    else none
  | none => none

/-- `(*func)(conn, ctx)` returns `ok`: `if (! ok) rv = false`. -/
def connEnumerateFunc (s : Registry) (i : Nat) (ok : Bool) : Option Registry :=
  match s.enums[i]? with
  | some e =>
    match e.pc with
    | .func c =>
      some { s with
        enums := s.enums.set i
          { e with pc := .relock c, rv := e.rv && ok, results := e.results ++ [ok] } }
    | _ => none
  | none => none

/-- The region under the mutex after `func` returns: `conn->enum_count--`, the broadcast, then
`break` if `rv` is false, else on to `TAILQ_NEXT`. -/
def connEnumerateNext (s : Registry) (i : Nat) : Option Registry :=
  match s.enums[i]? with
  | some e =>
    match e.pc with
    | .relock c =>
      let s₁ := { s with enumCount := Function.update s.enumCount c (s.enumCount c - 1) }
      if e.rv then
        match tailqNext s.connList c with
        | none => some (s₁.finish i e)
        | some n => some (s₁.pin i e n)
      else some (s₁.finish i e)
    | _ => none
  | none => none

/-! ## Runs -/

/-- One atomic step of some thread. -/
inductive Action
  | insert (c : ConnId)
  | removeTest (c : ConnId)
  | removeUnlink (c : ConnId)
  | enumerate
  | enumFirst (i : Nat)
  | enumFunc (i : Nat) (ok : Bool)
  | enumNext (i : Nat)
  deriving DecidableEq, Repr

/-- The step an action takes, if the thread can take it. -/
def Registry.step (s : Registry) : Action → Option Registry
  | .insert c => connInsert s c
  | .removeTest c => connRemoveTest s c
  | .removeUnlink c => connRemoveUnlink s c
  | .enumerate => some (connEnumerate s)
  | .enumFirst i => connEnumerateFirst s i
  | .enumFunc i ok => connEnumerateFunc s i ok
  | .enumNext i => connEnumerateNext s i

/-- The states some interleaving reaches from the start. -/
inductive Registry.Reachable : Registry → Prop
  | init : Registry.Reachable Registry.init
  | step {s s' : Registry} (a : Action) :
      Registry.Reachable s → s.step a = some s' → Registry.Reachable s'

/-- The state a schedule of actions leads to, if every thread can take its step. -/
def Registry.run (s : Registry) : List Action → Option Registry
  | [] => some s
  | a :: as => (s.step a).bind (·.run as)

theorem Registry.Reachable.run {s s' : Registry} {as : List Action} (h : s.Reachable)
    (hr : s.run as = some s') : s'.Reachable := by
  induction as generalizing s with
  | nil => exact Option.some.inj hr ▸ h
  | cons a as ih =>
    obtain ⟨t, ht, hr⟩ := Option.bind_eq_some.1 hr
    exact ih (h.step a ht) hr

/-- The number of enumerators holding a reference on `c`. -/
def Registry.pins (s : Registry) (c : ConnId) : Nat :=
  s.enums.countP fun e ↦ e.pc.pinned = some c

/-! ## What each step does

One lemma per function, with its guard, so that the invariant's proofs never unfold a
function. -/

section Steps

variable {s s' : Registry}

theorem connInsert_some {c : ConnId} (h : connInsert s c = some s') :
    s.inserted c = false ∧ s.onList c = false ∧ s' = { s with
      connList := s.connList ++ [c]
      onList := Function.update s.onList c true
      connCount := s.connCount + 1
      inserted := Function.update s.inserted c true } := by
  unfold connInsert at h
  split at h
  · cases h
  · simp_all

theorem connRemoveTest_some {c : ConnId} (h : connRemoveTest s c = some s') :
    s.removePc c = .idle ∧ s' = { s with
      removePc := Function.update s.removePc c (if s.onList c then .waiting else .skipped) } := by
  unfold connRemoveTest at h
  split at h
  · exact ⟨‹_›, (Option.some.inj h).symm⟩
  · cases h

theorem connRemoveUnlink_some {c : ConnId} (h : connRemoveUnlink s c = some s') :
    s.removePc c = .waiting ∧ s.enumCount c = 0 ∧ s' = { s with
      connList := s.connList.erase c
      onList := Function.update s.onList c false
      connCount := s.connCount - 1
      removePc := Function.update s.removePc c .unlinked } := by
  unfold connRemoveUnlink at h
  split at h
  · exact ⟨‹_ ∧ _›.1, ‹_ ∧ _›.2, (Option.some.inj h).symm⟩
  · cases h

theorem connEnumerateFirst_some {i : Nat} (h : connEnumerateFirst s i = some s') :
    ∃ e, s.enums[i]? = some e ∧ e.pc = .lock ∧
      (s.connList = [] ∧ s' = s.finish i e ∨
        ∃ c post, s.connList = c :: post ∧ s' = s.pin i e c) := by
  unfold connEnumerateFirst at h
  split at h
  · rename_i e he
    split at h
    · refine ⟨e, he, ‹_›, ?_⟩
      split at h
      · exact .inl ⟨List.head?_eq_none_iff.1 ‹_›, (Option.some.inj h).symm⟩
      · obtain ⟨post, hl⟩ := List.head?_eq_some_iff.1 ‹_›
        exact .inr ⟨_, post, hl, (Option.some.inj h).symm⟩
    · cases h
  · cases h

theorem connEnumerateFunc_some {i : Nat} {ok : Bool} (h : connEnumerateFunc s i ok = some s') :
    ∃ e c, s.enums[i]? = some e ∧ e.pc = .func c ∧ s' = { s with
      enums := s.enums.set i
        { e with pc := .relock c, rv := e.rv && ok, results := e.results ++ [ok] } } := by
  unfold connEnumerateFunc at h
  split at h
  · split at h
    · exact ⟨_, _, ‹_›, ‹_›, (Option.some.inj h).symm⟩
    · cases h
  · cases h

theorem connEnumerateNext_some {i : Nat} (h : connEnumerateNext s i = some s') :
    ∃ e c, s.enums[i]? = some e ∧ e.pc = .relock c ∧
      let s₁ := { s with enumCount := Function.update s.enumCount c (s.enumCount c - 1) }
      (e.rv = false ∧ s' = s₁.finish i e ∨
        e.rv = true ∧ tailqNext s.connList c = none ∧ s' = s₁.finish i e ∨
        e.rv = true ∧ ∃ n, tailqNext s.connList c = some n ∧ s' = s₁.pin i e n) := by
  unfold connEnumerateNext at h
  split at h
  · split at h
    · refine ⟨_, _, ‹_›, ‹_›, ?_⟩
      split at h
      · split at h
        · exact .inr (.inl ⟨‹_›, ‹_›, (Option.some.inj h).symm⟩)
        · exact .inr (.inr ⟨‹_›, _, ‹_›, (Option.some.inj h).symm⟩)
      · exact .inl ⟨Bool.eq_false_iff.2 ‹_›, (Option.some.inj h).symm⟩
    · cases h
  · cases h

end Steps

/-! ## `TAILQ_NEXT` on a list without repeats -/

theorem tailqNext_split {pre post : List ConnId} {c : ConnId} (h : c ∉ pre) :
    tailqNext (pre ++ c :: post) c = post.head? := by
  induction pre with
  | nil => simp [tailqNext]
  | cons a pre ih =>
    rw [List.mem_cons, not_or] at h
    simp [tailqNext, Ne.symm h.1, ih h.2]

end Nabud
