import Nabud.Conn.Registry

/-!
# What every interleaving keeps

The invariant of the registry, `Registry.Inv`, holds in every state an interleaving of
`conn_insert`, `conn_remove` and any number of `conn_enumerate` calls reaches.

* The list part: `conn_list` has no repeats, a connection is on it exactly when its `on_list`
  is set, `conn_count` is its length, and a connection that `conn_remove` is waiting to unlink is
  still on it.
* The counting part: `enum_count` of each connection is the number of enumerators holding a
  reference on it, so `conn_remove`'s guard `enum_count = 0` means that no callback is running
  on the connection it unlinks.
* The enumerator part, `EnumAt`: an enumerator holding `c` stands on the list at `c` (`Cursor`):
  what it has visited lies before `c` or is gone, and what was listed when it began and is
  still listed has been visited or lies after `c`.  This is what makes `TAILQ_NEXT` reach every
  connection that stays on the list, and none twice.
-/

set_option autoImplicit false

namespace Nabud

/-! ## Where an enumerator stands -/

/-- Enumerator `e`, holding a reference on `c`, stands on `l` at `c`: no connection it has
visited lies after `c`, and each connection of `e.initial` still on `l` has been visited or lies
after `c`. -/
def Cursor (l : List ConnId) (e : Enumerator) (c : ConnId) : Prop :=
  ∃ pre post, l = pre ++ c :: post ∧ (∀ x ∈ e.visited, x ∉ post) ∧
    ∀ x ∈ e.initial, x ∈ l → x ∈ e.visited ∨ x ∈ post

/-- What holds of an enumerator at each point of `conn_enumerate`. -/
def EnumAt (l : List ConnId) (e : Enumerator) : Prop :=
  match e.pc with
  | .lock => e.rv = true ∧ e.visited = [] ∧ e.results = []
  | .func c => Cursor l e c ∧ e.rv = true ∧ e.visited.length = e.results.length + 1 ∧
      ∀ r ∈ e.results, r = true
  | .relock c => Cursor l e c ∧ e.visited.length = e.results.length ∧
      ∃ rs, e.results = rs ++ [e.rv] ∧ ∀ r ∈ rs, r = true
  | .done => e.visited.length = e.results.length ∧
      ((e.rv = true ∧ (∀ r ∈ e.results, r = true) ∧ ∀ x ∈ e.initial, x ∈ l → x ∈ e.visited) ∨
        (e.rv = false ∧ ∃ rs, e.results = rs ++ [false] ∧ ∀ r ∈ rs, r = true))

/-- What holds of each enumerator, given the list and which connections were inserted. -/
structure EnumInv (l : List ConnId) (inserted : ConnId → Bool) (e : Enumerator) : Prop where
  visited_nodup : e.visited.Nodup
  visited_inserted : ∀ c ∈ e.visited, inserted c = true
  initial_inserted : ∀ c ∈ e.initial, inserted c = true
  at_pc : EnumAt l e

/-- The invariant of the registry. -/
structure Registry.Inv (s : Registry) : Prop where
  nodup : s.connList.Nodup
  mem_iff : ∀ c, c ∈ s.connList ↔ s.onList c = true
  count_eq : s.connCount = s.connList.length
  inserted_of_mem : ∀ c ∈ s.connList, s.inserted c = true
  waiting_mem : ∀ c, s.removePc c = .waiting → c ∈ s.connList
  unlinked : ∀ c, s.removePc c = .unlinked → s.inserted c = true ∧ c ∉ s.connList
  enumCount_eq : ∀ c, s.enumCount c = s.pins c
  enums : ∀ e ∈ s.enums, EnumInv s.connList s.inserted e

/-! ## The list changes under an enumerator -/

theorem nodup_split {pre post : List ConnId} {c : ConnId} (h : (pre ++ c :: post).Nodup) :
    c ∉ pre ∧ c ∉ post ∧ post.Nodup := by
  obtain ⟨-, hcp, hd⟩ := List.nodup_append.1 h
  exact ⟨fun hc ↦ hd hc (List.mem_cons_self _ _), (List.nodup_cons.1 hcp).1,
    (List.nodup_cons.1 hcp).2⟩

section Cursor

variable {l : List ConnId} {e : Enumerator} {c d : ConnId}

theorem Cursor.mem (h : Cursor l e c) : c ∈ l := by
  obtain ⟨pre, post, rfl, -⟩ := h
  simp

/-- Appending a connection the enumerator has never seen keeps its place. -/
theorem Cursor.append (h : Cursor l e c) (hv : d ∉ e.visited) (hi : d ∉ e.initial) :
    Cursor (l ++ [d]) e c := by
  obtain ⟨pre, post, rfl, hvis, hcov⟩ := h
  refine ⟨pre, post ++ [d], by simp, fun x hx ↦ ?_, fun x hx hm ↦ ?_⟩
  · simpa [hvis x hx] using ne_of_mem_of_not_mem hx hv
  · have hxd : x ≠ d := ne_of_mem_of_not_mem hx hi
    rcases hcov x hx (by simpa [hxd] using hm) with h | h
    · exact .inl h
    · exact .inr (List.mem_append_left _ h)

/-- Unlinking a connection other than the one held keeps the enumerator's place. -/
theorem Cursor.erase (h : Cursor l e c) (hl : l.Nodup) (hd : d ≠ c) :
    Cursor (l.erase d) e c := by
  obtain ⟨pre, post, rfl, hvis, hcov⟩ := h
  by_cases hp : d ∈ pre
  · exact ⟨pre.erase d, post, by rw [List.erase_append_left _ hp], hvis,
      fun x hx hm ↦ hcov x hx (List.mem_of_mem_erase hm)⟩
  · refine ⟨pre, post.erase d, ?_, fun x hx hp' ↦ hvis x hx (List.mem_of_mem_erase hp'),
      fun x hx hm ↦ ?_⟩
    · rw [List.erase_append_right _ hp, List.erase_cons_tail (by simpa using Ne.symm hd)]
    · rcases hcov x hx (List.mem_of_mem_erase hm) with h | h
      · exact .inl h
      · exact .inr ((List.mem_erase_of_ne (hl.mem_erase_iff.1 hm).1).2 h)

/-- `TAILQ_FIRST`: an enumerator that has visited only the head stands there. -/
theorem Cursor.first {post : List ConnId} (hl : (c :: post).Nodup) (hv : e.visited = [c]) :
    Cursor (c :: post) e c := by
  refine ⟨[], post, rfl, fun x hx ↦ ?_, fun x _ hm ↦ (List.mem_cons.1 hm).imp (by simp [hv]) id⟩
  rw [hv, List.mem_singleton] at hx
  exact hx ▸ (List.nodup_cons.1 hl).1

/-- `TAILQ_NEXT` of the held connection is a connection not yet visited, and the enumerator,
having visited it, stands there. -/
theorem Cursor.next (h : Cursor l e c) (hl : l.Nodup) {n : ConnId}
    (hn : tailqNext l c = some n) :
    n ∉ e.visited ∧ n ∈ l ∧ Cursor l { e with visited := e.visited ++ [n] } n := by
  obtain ⟨pre, post, rfl, hvis, hcov⟩ := h
  obtain ⟨hcpre, -, hpost⟩ := nodup_split hl
  rw [tailqNext_split hcpre] at hn
  obtain ⟨post', rfl⟩ := List.head?_eq_some_iff.1 hn
  refine ⟨fun hv ↦ hvis n hv (List.mem_cons_self _ _), by simp, pre ++ [c], post', by simp,
    fun x hx ↦ ?_, fun x hx hm ↦ ?_⟩
  · rcases List.mem_append.1 hx with hx | hx
    · exact fun hp ↦ hvis x hx (List.mem_cons_of_mem _ hp)
    · exact List.mem_singleton.1 hx ▸ (List.nodup_cons.1 hpost).1
  · rcases hcov x hx hm with hv | hp
    · exact .inl (List.mem_append_left _ hv)
    · exact (List.mem_cons.1 hp).imp (fun hx ↦ by simp [hx]) id

/-- Past the last connection, every connection of `e.initial` still listed has been visited. -/
theorem Cursor.last (h : Cursor l e c) (hl : l.Nodup) (hn : tailqNext l c = none) :
    ∀ x ∈ e.initial, x ∈ l → x ∈ e.visited := by
  obtain ⟨pre, post, rfl, -, hcov⟩ := h
  rw [tailqNext_split (nodup_split hl).1, List.head?_eq_none_iff] at hn
  subst hn
  exact fun x hx hm ↦ (hcov x hx hm).resolve_right (List.not_mem_nil x)

end Cursor

section EnumAt

variable {l : List ConnId} {e : Enumerator} {d : ConnId}

theorem EnumAt.mem {c : ConnId} (h : EnumAt l e) (hc : e.pc.pinned = some c) : c ∈ l := by
  rcases e with ⟨_ | c' | c' | _, rv, initial, visited, results⟩ <;>
    simp only [EnumPc.pinned, reduceCtorEq, Option.some.injEq] at hc
  all_goals subst hc; exact h.1.mem

theorem EnumAt.append (h : EnumAt l e) (hv : d ∉ e.visited) (hi : d ∉ e.initial) :
    EnumAt (l ++ [d]) e := by
  rcases e with ⟨_ | c | c | _, rv, initial, visited, results⟩
  · exact h
  · exact ⟨h.1.append hv hi, h.2⟩
  · exact ⟨h.1.append hv hi, h.2⟩
  · refine ⟨h.1, h.2.imp (fun h' ↦ ⟨h'.1, h'.2.1, fun x hx hm ↦ h'.2.2 x hx ?_⟩) id⟩
    simpa [ne_of_mem_of_not_mem hx hi] using hm

theorem EnumAt.erase (h : EnumAt l e) (hl : l.Nodup) (hd : e.pc.pinned ≠ some d) :
    EnumAt (l.erase d) e := by
  rcases e with ⟨_ | c | c | _, rv, initial, visited, results⟩
  · exact h
  · exact ⟨h.1.erase hl fun h' ↦ hd (by simp [EnumPc.pinned, h']), h.2⟩
  · exact ⟨h.1.erase hl fun h' ↦ hd (by simp [EnumPc.pinned, h']), h.2⟩
  · exact ⟨h.1, h.2.imp (fun h' ↦ ⟨h'.1, h'.2.1,
      fun x hx hm ↦ h'.2.2 x hx (List.mem_of_mem_erase hm)⟩) id⟩

end EnumAt

/-! ## Counting references -/

theorem pins_set {s : Registry} {i : Nat} {e : Enumerator} (he : s.enums[i]? = some e)
    (e' : Enumerator) (c : ConnId) :
    (s.enums.set i e').countP (fun e ↦ e.pc.pinned = some c) =
      s.pins c - (if e.pc.pinned = some c then 1 else 0) +
        (if e'.pc.pinned = some c then 1 else 0) := by
  obtain ⟨hi, rfl⟩ := List.getElem?_eq_some_iff.1 he
  simpa [Registry.pins] using
    List.countP_set (fun e : Enumerator ↦ decide (e.pc.pinned = some c)) s.enums i e' hi

theorem update_succ_apply (f : ConnId → Nat) (c x : ConnId) :
    Function.update f c (f c + 1) x = f x + if c = x then 1 else 0 := by
  by_cases h : c = x
  · subst h; simp
  · simp [Function.update_noteq (Ne.symm h), h]

theorem update_pred_apply (f : ConnId → Nat) (c x : ConnId) :
    Function.update f c (f c - 1) x = f x - if c = x then 1 else 0 := by
  by_cases h : c = x
  · subst h; simp
  · simp [Function.update_noteq (Ne.symm h), h]

theorem Registry.Inv.enumCount_pos {s : Registry} (h : s.Inv) {e : Enumerator} {c : ConnId}
    (he : e ∈ s.enums) (hc : e.pc.pinned = some c) : 1 ≤ s.enumCount c := by
  rw [h.enumCount_eq]
  exact List.countP_pos_iff.2 ⟨e, he, by simpa using hc⟩

/-! ## Each step keeps the invariant -/

section Steps

variable {s s' : Registry}

/-- An enumerator's step moves its reference, and `enum_count` follows it. -/
theorem Registry.Inv.setEnum (h : s.Inv) {i : Nat} {e e' : Enumerator}
    (he : s.enums[i]? = some e) {f : ConnId → Nat}
    (hf : ∀ x, f x = s.enumCount x - (if e.pc.pinned = some x then 1 else 0) +
      (if e'.pc.pinned = some x then 1 else 0))
    (he' : EnumInv s.connList s.inserted e') :
    ({ s with enumCount := f, enums := s.enums.set i e' } : Registry).Inv :=
  { h with
    enumCount_eq := fun x ↦ by
      show f x = _
      rw [hf, h.enumCount_eq]
      exact (pins_set he e' x).symm
    enums := fun e'' hm ↦ (List.mem_or_eq_of_mem_set hm).elim (h.enums e'') (· ▸ he') }

theorem Registry.Inv.enumerate (h : s.Inv) : (connEnumerate s).Inv :=
  { h with
    enumCount_eq := fun x ↦ by
      simp [connEnumerate, Registry.pins, h.enumCount_eq x, EnumPc.pinned]
    enums := fun e he ↦ by
      rcases List.mem_append.1 he with he | he
      · exact h.enums e he
      · rw [List.mem_singleton.1 he]
        exact ⟨List.nodup_nil, by simp, h.inserted_of_mem, ⟨rfl, rfl, rfl⟩⟩ }

theorem Registry.Inv.enumFirst (h : s.Inv) {i : Nat} (hs : connEnumerateFirst s i = some s') :
    s'.Inv := by
  obtain ⟨⟨pc, rv, initial, visited, results⟩, he, hpc, ⟨hl, rfl⟩ | ⟨c, post, hl, rfl⟩⟩ :=
    connEnumerateFirst_some hs <;> simp only at hpc <;> subst hpc <;>
    obtain ⟨-, -, hini, ⟨rfl, rfl, rfl⟩⟩ := h.enums _ (List.getElem?_mem he)
  · -- an empty list: return `true`
    exact h.setEnum he (fun x ↦ by simp [EnumPc.pinned])
      ⟨List.nodup_nil, by simp, hini, rfl, .inl ⟨rfl, by simp, fun x _ hm ↦ by simp [hl] at hm⟩⟩
  · -- hold the head
    refine h.setEnum he (fun x ↦ by simp [update_succ_apply, EnumPc.pinned])
      ⟨List.nodup_singleton c, by simpa using h.inserted_of_mem c (by simp [hl]), hini, ?_, rfl,
        rfl, by simp⟩
    rw [hl]
    exact Cursor.first (hl ▸ h.nodup) rfl

theorem Registry.Inv.enumFunc (h : s.Inv) {i : Nat} {ok : Bool}
    (hs : connEnumerateFunc s i ok = some s') : s'.Inv := by
  obtain ⟨e, c, he, hpc, rfl⟩ := connEnumerateFunc_some hs
  have hmem := List.getElem?_mem he
  obtain ⟨hnd, hvi, hini, hat⟩ := h.enums e hmem
  have hpos := h.enumCount_pos hmem (show e.pc.pinned = some c by simp [hpc, EnumPc.pinned])
  rw [EnumAt, hpc] at hat
  obtain ⟨hcur, hrv, hlen, hall⟩ := hat
  refine h.setEnum he (fun x ↦ ?_) ⟨hnd, hvi, hini, hcur, by simp [hlen], e.results, by simp [hrv],
    hall⟩
  rcases eq_or_ne c x with rfl | hx
  · simp [hpc, EnumPc.pinned]; omega
  · simp [hpc, EnumPc.pinned, hx]

theorem Registry.Inv.enumNext (h : s.Inv) {i : Nat} (hs : connEnumerateNext s i = some s') :
    s'.Inv := by
  obtain ⟨e, c, he, hpc, hcase⟩ := connEnumerateNext_some hs
  obtain ⟨hnd, hvi, hini, hat⟩ := h.enums e (List.getElem?_mem he)
  rw [EnumAt, hpc] at hat
  obtain ⟨hcur, hlen, rs, hres, hall⟩ := hat
  have hdone : ∀ x, Function.update s.enumCount c (s.enumCount c - 1) x =
      s.enumCount x - (if e.pc.pinned = some x then 1 else 0) +
        (if EnumPc.done.pinned = some x then 1 else 0) := fun x ↦ by
    simp [update_pred_apply, hpc, EnumPc.pinned]
  rcases hcase with ⟨hrv, rfl⟩ | ⟨hrv, hn, rfl⟩ | ⟨hrv, n, hn, rfl⟩
  · -- `rv == false`: break
    exact h.setEnum he hdone ⟨hnd, hvi, hini, hlen, .inr ⟨hrv, rs, hrv ▸ hres, hall⟩⟩
  · -- the end of the list
    exact h.setEnum he hdone
      ⟨hnd, hvi, hini, hlen, .inl ⟨hrv, by simpa [hres, hrv] using hall, hcur.last h.nodup hn⟩⟩
  · -- on to `TAILQ_NEXT`
    obtain ⟨hnv, hnl, hcur'⟩ := hcur.next h.nodup hn
    refine h.setEnum he (fun x ↦ ?_) ⟨by rw [← List.concat_eq_append]; exact hnd.concat hnv,
      fun x hx ↦ (List.mem_append.1 hx).elim (hvi x)
        (fun hx ↦ h.inserted_of_mem x (List.mem_singleton.1 hx ▸ hnl)),
      hini, hcur', hrv, by simp [hlen], by simpa [hres, hrv] using hall⟩
    dsimp only
    rw [update_succ_apply, update_pred_apply]
    simp [hpc, EnumPc.pinned]

theorem Registry.Inv.insert (h : s.Inv) {c : ConnId} (hs : connInsert s c = some s') :
    s'.Inv := by
  obtain ⟨hins, hon, rfl⟩ := connInsert_some hs
  have hc : c ∉ s.connList := fun hm ↦ by simp [(h.mem_iff c).1 hm] at hon
  have hne : ∀ x, s.inserted x = true → x ≠ c := fun x hx hxc ↦ by simp [hxc ▸ hx] at hins
  have hup : ∀ x, s.inserted x = true → Function.update s.inserted c true x = true :=
    fun x hx ↦ by rw [Function.update_noteq (hne x hx), hx]
  exact
    { nodup := h.nodup.append (List.nodup_singleton c)
        fun x hx hx' ↦ hc (List.mem_singleton.1 hx' ▸ hx)
      mem_iff := fun x ↦ by
        by_cases hx : x = c
        · subst hx; simp
        · simp [Function.update_noteq hx, hx, h.mem_iff x]
      count_eq := by simp [h.count_eq]
      inserted_of_mem := fun x hx ↦ by
        rcases List.mem_append.1 hx with hx | hx
        · exact hup x (h.inserted_of_mem x hx)
        · obtain rfl := List.mem_singleton.1 hx
          simp
      waiting_mem := fun x hx ↦ List.mem_append_left _ (h.waiting_mem x hx)
      unlinked := fun x hx ↦ by
        obtain ⟨hi, hm⟩ := h.unlinked x hx
        exact ⟨hup x hi, by simp [hm, hne x hi]⟩
      enumCount_eq := h.enumCount_eq
      enums := fun e he ↦
        let ⟨hnd, hvi, hini, hat⟩ := h.enums e he
        ⟨hnd, fun x hx ↦ hup x (hvi x hx), fun x hx ↦ hup x (hini x hx),
          hat.append (fun hv ↦ hne c (hvi c hv) rfl) (fun hv ↦ hne c (hini c hv) rfl)⟩ }

theorem Registry.Inv.removeTest (h : s.Inv) {c : ConnId} (hs : connRemoveTest s c = some s') :
    s'.Inv := by
  obtain ⟨-, rfl⟩ := connRemoveTest_some hs
  refine { h with waiting_mem := fun x hx ↦ ?_, unlinked := fun x hx ↦ ?_ } <;> dsimp only at hx ⊢
  · by_cases hxc : x = c
    · subst hxc
      rw [Function.update_same] at hx
      split at hx
      · exact (h.mem_iff x).2 ‹_›
      · cases hx
    · exact h.waiting_mem x (by rwa [Function.update_noteq hxc] at hx)
  · by_cases hxc : x = c
    · subst hxc
      rw [Function.update_same] at hx
      split at hx <;> cases hx
    · exact h.unlinked x (by rwa [Function.update_noteq hxc] at hx)

theorem Registry.Inv.removeUnlink (h : s.Inv) {c : ConnId}
    (hs : connRemoveUnlink s c = some s') : s'.Inv := by
  obtain ⟨hw, hz, rfl⟩ := connRemoveUnlink_some hs
  have hc := h.waiting_mem c hw
  have hfree : ∀ e ∈ s.enums, e.pc.pinned ≠ some c := fun e he hp ↦ by
    have := h.enumCount_pos he hp
    omega
  exact
    { nodup := h.nodup.erase c
      mem_iff := fun x ↦ by
        rw [h.nodup.mem_erase_iff]
        by_cases hx : x = c
        · subst hx; simp
        · simp [Function.update_noteq hx, hx, h.mem_iff x]
      count_eq := by simp [h.count_eq, List.length_erase_of_mem hc]
      inserted_of_mem := fun x hx ↦ h.inserted_of_mem x (List.mem_of_mem_erase hx)
      waiting_mem := fun x hx ↦ by
        dsimp only at hx ⊢
        by_cases hxc : x = c
        · subst hxc; simp at hx
        · rw [Function.update_noteq hxc] at hx
          exact h.nodup.mem_erase_iff.2 ⟨hxc, h.waiting_mem x hx⟩
      unlinked := fun x hx ↦ by
        dsimp only at hx ⊢
        rw [h.nodup.mem_erase_iff]
        by_cases hxc : x = c
        · subst hxc; exact ⟨h.inserted_of_mem x hc, fun h' ↦ h'.1 rfl⟩
        · rw [Function.update_noteq hxc] at hx
          exact ⟨(h.unlinked x hx).1, fun h' ↦ (h.unlinked x hx).2 h'.2⟩
      enumCount_eq := h.enumCount_eq
      enums := fun e he ↦
        let ⟨hnd, hvi, hini, hat⟩ := h.enums e he
        ⟨hnd, hvi, hini, hat.erase h.nodup (hfree e he)⟩ }

theorem Registry.Inv.step (h : s.Inv) {a : Action} (hs : s.step a = some s') : s'.Inv := by
  cases a with
  | insert c => exact h.insert hs
  | removeTest c => exact h.removeTest hs
  | removeUnlink c => exact h.removeUnlink hs
  | enumerate => exact Option.some.inj hs ▸ h.enumerate
  | enumFirst i => exact h.enumFirst hs
  | enumFunc i ok => exact h.enumFunc hs
  | enumNext i => exact h.enumNext hs

end Steps

theorem Registry.inv_init : Registry.init.Inv where
  nodup := List.nodup_nil
  mem_iff := by simp [Registry.init]
  count_eq := rfl
  inserted_of_mem := by simp [Registry.init]
  waiting_mem := by simp [Registry.init]
  unlinked := by simp [Registry.init]
  enumCount_eq := by simp [Registry.init, Registry.pins]
  enums := by simp [Registry.init]

theorem Registry.Reachable.inv {s : Registry} (h : s.Reachable) : s.Inv := by
  induction h with
  | init => exact Registry.inv_init
  | step _ _ hs ih => exact ih.step hs

/-! ## The registry, over every interleaving -/

/-- Two connections inserted, then one `conn_enumerate` call run to its end, both callbacks
returning true. -/
def enumerateTwoSchedule : List Action :=
  [.insert 0, .insert 1, .enumerate, .enumFirst 0, .enumFunc 0 true, .enumNext 0,
    .enumFunc 0 true, .enumNext 0]

/-- Where `enumerateTwoSchedule` leads. -/
def enumeratedTwice : Registry :=
  (Registry.init.run enumerateTwoSchedule).getD Registry.init

theorem enumeratedTwice_reachable : enumeratedTwice.Reachable :=
  @Registry.Reachable.run _ _ enumerateTwoSchedule .init rfl

/-- **The registry stays consistent.**  In every state an interleaving of `conn_insert`,
`conn_remove` and `conn_enumerate` calls reaches, `conn_list` has no repeats, holds exactly the
connections whose `on_list` is set and has `conn_count` entries; each `enum_count` is the number
of enumerators between their increment and decrement of it; `conn_remove` can unlink a
connection only when its `enum_count` is zero, that is when no enumerator holds it; and every
connection a callback is running on is listed and not unlinked. -/
theorem registry_consistent {s : Registry} (h : s.Reachable) :
    s.connList.Nodup ∧ (∀ c, c ∈ s.connList ↔ s.onList c = true) ∧
      s.connCount = s.connList.length ∧
      (∀ c, s.enumCount c = s.enums.countP fun e ↦ e.pc.pinned = some c) ∧
      (∀ c s', s.step (.removeUnlink c) = some s' →
        s.enumCount c = 0 ∧ ∀ e ∈ s.enums, e.pc.pinned ≠ some c) ∧
      (∀ e ∈ s.enums, ∀ c, e.pc.pinned = some c → c ∈ s.connList ∧ s.removePc c ≠ .unlinked) := by
  have hi := h.inv
  refine ⟨hi.nodup, hi.mem_iff, hi.count_eq, hi.enumCount_eq, fun c s' hs ↦ ?_, fun e he c hc ↦ ?_⟩
  · have hz := (connRemoveUnlink_some hs).2.1
    exact ⟨hz, fun e he hp ↦ by have := hi.enumCount_pos he hp; omega⟩
  · have hm := (hi.enums e he).at_pc.mem hc
    exact ⟨hm, fun hu ↦ (hi.unlinked c hu).2 hm⟩

theorem registry_consistent_enumeratedTwice :
    enumeratedTwice.Reachable ∧
    (enumeratedTwice.connList.Nodup ∧
      (∀ c, c ∈ enumeratedTwice.connList ↔ enumeratedTwice.onList c = true) ∧
      enumeratedTwice.connCount = enumeratedTwice.connList.length ∧
      (∀ c, enumeratedTwice.enumCount c = enumeratedTwice.enums.countP fun e ↦ e.pc.pinned = some c) ∧
      (∀ c s', enumeratedTwice.step (.removeUnlink c) = some s' →
        enumeratedTwice.enumCount c = 0 ∧ ∀ e ∈ enumeratedTwice.enums, e.pc.pinned ≠ some c) ∧
      (∀ e ∈ enumeratedTwice.enums, ∀ c, e.pc.pinned = some c →
        c ∈ enumeratedTwice.connList ∧ enumeratedTwice.removePc c ≠ .unlinked)) :=
  ⟨enumeratedTwice_reachable, registry_consistent enumeratedTwice_reachable⟩

/-- **What one `conn_enumerate` call does, among any other calls.**  It never calls `func` twice
on a connection; while `func` runs on a connection, that connection is listed and not unlinked;
and once the call has returned, every call of `func` has returned, none but the last returned
false, the call returns false exactly when one did, and if it returns true it has called `func`
on every connection that was listed when it began and still is. -/
theorem connEnumerate_visits {s : Registry} (h : s.Reachable) {e : Enumerator}
    (he : e ∈ s.enums) :
    e.visited.Nodup ∧
      (∀ c, e.pc.pinned = some c → c ∈ s.connList ∧ s.removePc c ≠ .unlinked) ∧
      (e.pc = .done →
        e.visited.length = e.results.length ∧ (∀ r ∈ e.results.dropLast, r = true) ∧
        (e.rv = false ↔ false ∈ e.results) ∧
        (e.rv = true → ∀ c ∈ e.initial, c ∈ s.connList → c ∈ e.visited)) := by
  have hi := h.inv
  obtain ⟨hnd, -, -, hat⟩ := hi.enums e he
  refine ⟨hnd, fun c hc ↦ ?_, fun hpc ↦ ?_⟩
  · have hm := hat.mem hc
    exact ⟨hm, fun hu ↦ (hi.unlinked c hu).2 hm⟩
  · rw [EnumAt, hpc] at hat
    obtain ⟨hlen, ⟨hrv, hall, hcov⟩ | ⟨hrv, rs, hres, hall⟩⟩ := hat
    · refine ⟨hlen, fun r hr ↦ hall r (List.dropLast_subset _ hr), ?_, fun _ ↦ hcov⟩
      simpa [hrv] using fun hf ↦ hall false hf
    · exact ⟨hlen, by simpa [hres] using hall, by simp [hrv, hres], by simp [hrv]⟩

theorem connEnumerate_visits_enumeratedTwice :
    enumeratedTwice.Reachable ∧ ⟨.done, true, [0, 1], [0, 1], [true, true]⟩ ∈ enumeratedTwice.enums ∧
    (([0, 1] : List ConnId).Nodup ∧
      (∀ c, EnumPc.done.pinned = some c →
        c ∈ enumeratedTwice.connList ∧ enumeratedTwice.removePc c ≠ .unlinked) ∧
      (EnumPc.done = .done →
        [0, 1].length = [true, true].length ∧ (∀ r ∈ [true, true].dropLast, r = true) ∧
        (true = false ↔ false ∈ [true, true]) ∧
        (true = true → ∀ c ∈ [0, 1], c ∈ enumeratedTwice.connList → c ∈ [0, 1]))) :=
  have he : ⟨.done, true, [0, 1], [0, 1], [true, true]⟩ ∈ enumeratedTwice.enums := by decide
  ⟨enumeratedTwice_reachable, he, connEnumerate_visits enumeratedTwice_reachable he⟩

end Nabud
