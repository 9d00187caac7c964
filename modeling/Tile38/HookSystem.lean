import Tile38.HookManager

/-!
# Hooks sharing one queue

Every hook of the server runs its manager over the same buntdb store `c.qdb`, and `proc` takes
every entry from its own name on, whichever hook the entry is for
(`proc_sends_other_hooks_entries`). So a hook's `proc` takes, sends, and puts back the entries
of the hooks named after it, while their own managers run too.

A `HookSystem` is every hook opened so far, with its goroutines (`HookProc`), over the one
queue, the next index and the entries sent. A move opens a hook, or is made on the state one
hook sees, its own goroutines over the shared queue (`HookSystem.view`), by the one-hook
moves of `Tile38.HookManager`: a step of its manager or of a caller of its `Signal` or
`Close`, a queue write, an expiry.

`HookSystem.Safe` holds in every reachable state. Every hook keeps its locking discipline, and
every entry is in the queue, held by one hook's `proc`, or sent, under an index of its own.
`HookSystem.Routed` says where entries can go. From the two:
- at most once across hooks: no entry is sent twice, though any hook named at most the
  entry's own hook may take it, fail to send it and put it back (`sent_at_most_once_shared`);
- every entry sent went to an endpoint of a hook whose name is at most the name of the
  entry's hook (`sent_to_hooks_before`).
-/

namespace Tile38

/-- Every hook opened so far, with its goroutines, over the queue they share, the next queue
index and the entries sent with their endpoint. -/
structure HookSystem where
  hooks : List HookProc
  queue : List QueueEntry
  qidx : Nat
  sent : List (QueueEntry × String)
  deriving DecidableEq, Repr

/-- A move of the system: `Hook.Open` of a new hook, which starts its manager, or a move made
on the state hook `i` sees (its manager's, a caller's, a queue write, an expiry). -/
inductive SystemEvent
  | open (name : String) (endpoints : List String)
  | hook (i : Nat) (e : HookEvent)

/-! ### Sums over the hooks -/

lemma sum_map_set {α M : Type} [AddCommMonoid M] (t : α → M) (x : α) :
    ∀ (l : List α) (i : Nat) {y : α}, l[i]? = some y →
      ((l.set i x).map t).sum + t y = (l.map t).sum + t x
  | [], _, _, h => nomatch h
  | a :: l, 0, _, h => by
    rw [List.getElem?_cons_zero, Option.some.injEq] at h
    subst h; simp only [List.set_cons_zero, List.map_cons, List.sum_cons]; abel
  | a :: l, i + 1, _, h => by
    rw [List.getElem?_cons_succ] at h
    simp only [List.set_cons_succ, List.map_cons, List.sum_cons, add_assoc]
    rw [sum_map_set t x l i h]

/-- The indices a move spends, read on the whole system: what one hook's view gains or loses,
the system gains or loses. -/
lemma Grows.exchange {a a' b b' x T : Multiset Nat} {q q' : Nat} (h : Grows a q a' q')
    (e : b + x = a + T) (e' : b' + x = a' + T) : Grows b q b' q' := by
  rcases h with ⟨rfl, hle⟩ | ⟨rfl, rfl⟩
  · exact .inl ⟨rfl, le_of_add_le_add_right (e' ▸ e ▸ add_le_add_right hle T)⟩
  · refine .inr ⟨rfl, (add_left_inj x).1 ?_⟩
    rw [e', Multiset.cons_add, ← e, Multiset.cons_add]

namespace HookSystem

/-- No hook yet, and the queue as the controller opened it. -/
def start (log : QueueLog) : HookSystem := ⟨[], log.entries, log.qidx, []⟩

/-- What hook `p` sees: its goroutines over the shared queue. -/
def view (sys : HookSystem) (p : HookProc) : HookRun := ⟨p, sys.queue, sys.qidx, sys.sent⟩

/-- Hook `i` after its move, and the queue as the move left it. -/
def update (sys : HookSystem) (i : Nat) (s : HookRun) : HookSystem :=
  ⟨sys.hooks.set i s.toHookProc, s.queue, s.qidx, s.sent⟩

/-- One move; `none` when hook `i` does not exist or cannot make the move. -/
def step (sys : HookSystem) : SystemEvent → Option HookSystem
  | .open name endpoints => some { sys with hooks := sys.hooks ++ [.opened name endpoints] }
  | .hook i e => sys.hooks[i]?.bind fun p => ((sys.view p).step e).map (sys.update i)

/-- A run of moves, interleaved in the order given. -/
def run (sys : HookSystem) : List SystemEvent → Option HookSystem
  | [] => some sys
  | e :: es => (sys.step e).bind (·.run es)

/-- The indices of the entries in the queue, held by the hooks' `proc`, and sent. -/
def heldIdx (sys : HookSystem) : Multiset Nat :=
  (sys.queue.map (·.idx) : Multiset Nat) +
    (sys.hooks.map fun p => (p.manager.taken.map (·.idx) : Multiset Nat)).sum +
    (sys.sent.map (·.1.idx) : List Nat)

/-- What holds in every reachable state: each hook keeps its locking discipline, and every
entry is in one place only, under an index below `qidx`. -/
structure Safe (sys : HookSystem) : Prop where
  locked : ∀ p ∈ sys.hooks, p.Locked
  fresh : Fresh sys.heldIdx sys.qidx

/-- Where entries go: `proc` holds only entries from its hook's name on, and every entry sent
went to an endpoint of a hook whose name is at most the entry's hook name. -/
structure Routed (sys : HookSystem) : Prop where
  taken : ∀ p ∈ sys.hooks, ∀ e ∈ p.manager.taken, p.name.toList ≤ e.hook.toList
  sent : ∀ x ∈ sys.sent, ∃ p ∈ sys.hooks, x.2 ∈ p.endpoints ∧ p.name.toList ≤ x.1.hook.toList

/-! ### The indices across the hooks -/

variable {sys sys' : HookSystem} {i : Nat} {p : HookProc}

/-- The taken entries of one hook's `proc`. -/
def takenIdx (p : HookProc) : Multiset Nat := (p.manager.taken.map (·.idx) : List Nat)

lemma heldIdx_view (sys : HookSystem) (p : HookProc) :
    sys.heldIdx + takenIdx p = (sys.view p).heldIdx +
      (sys.hooks.map fun p => (p.manager.taken.map (·.idx) : Multiset Nat)).sum := by
  rw [heldIdx, HookRun.heldIdx_eq, takenIdx]
  simp only [view]
  abel

lemma heldIdx_update (hp : sys.hooks[i]? = some p) (s : HookRun) :
    (sys.update i s).heldIdx + takenIdx p =
      s.heldIdx + (sys.hooks.map fun p => (p.manager.taken.map (·.idx) : Multiset Nat)).sum := by
  have hx := sum_map_set (fun p : HookProc => (p.manager.taken.map (·.idx) : Multiset Nat))
    s.toHookProc sys.hooks i hp
  rw [heldIdx, HookRun.heldIdx_eq, takenIdx]
  simp only [update] at hx ⊢
  rw [add_right_comm _ _ (↑(s.sent.map (·.1.idx)) : Multiset Nat),
    add_assoc _ _ (↑(p.manager.taken.map (·.idx)) : Multiset Nat), hx]
  abel

lemma view_heldIdx_le (hp : sys.hooks[i]? = some p) : (sys.view p).heldIdx ≤ sys.heldIdx := by
  rw [HookRun.heldIdx_eq, heldIdx]
  refine add_le_add_right (add_le_add_left ?_ _) _
  exact List.le_sum_of_mem (List.mem_map_of_mem _ (List.mem_iff_getElem?.2 ⟨i, hp⟩))

/-! ### The invariant holds at the start and after every move -/

theorem Safe.start (log : QueueLog) : (start log).Safe :=
  ⟨nofun, by simpa [HookSystem.start, heldIdx] using log.nodup,
    fun n hn => by
      simp only [HookSystem.start, heldIdx, List.map_nil, List.sum_nil, add_zero,
        Multiset.coe_nil, Multiset.mem_coe, List.mem_map] at hn
      obtain ⟨e, he, rfl⟩ := hn
      exact log.lt e he⟩

/-- Every move keeps the invariant: a move of one hook keeps that hook's discipline by the
one-hook invariant, and changes the system's entries as it changes that hook's view. -/
theorem Safe.step (hs : sys.Safe) {e : SystemEvent} (h : sys.step e = some sys') : sys'.Safe := by
  cases e with
  | «open» name endpoints =>
    cases h
    refine ⟨fun p hp => ?_, ?_⟩
    · rcases List.mem_append.1 hp with hp | hp
      · exact hs.locked p hp
      · rw [List.mem_singleton.1 hp]; exact .opened name endpoints
    · simpa [heldIdx, HookProc.opened, ManagerPc.taken] using hs.fresh
  | hook i e =>
    obtain ⟨p, hp, h⟩ := Option.bind_eq_some.1 h
    obtain ⟨s', hv, rfl⟩ := Option.map_eq_some'.1 h
    have hview : (sys.view p).Safe :=
      ⟨hs.locked p (List.mem_iff_getElem?.2 ⟨i, hp⟩), hs.fresh.grows (.inl ⟨rfl, view_heldIdx_le hp⟩)⟩
    obtain ⟨hl, hg⟩ := HookRun.step_safe hview hv
    refine ⟨fun q hq => ?_, hs.fresh.grows (hg.exchange (heldIdx_view sys p) (heldIdx_update hp s'))⟩
    rcases List.mem_or_eq_of_mem_set hq with hq | rfl
    · exact hs.locked q hq
    · exact hl

theorem Safe.run (hs : sys.Safe) {es : List SystemEvent} (h : sys.run es = some sys') :
    sys'.Safe := by
  induction es generalizing sys with
  | nil => cases h; exact hs
  | cons e es ih =>
    obtain ⟨s1, h1, h2⟩ := Option.bind_eq_some.1 h
    exact ih (hs.step h1) h2

/-! ### Where entries go -/

lemma exists_mem_set {l : List HookProc} {p' q : HookProc} (hp : l[i]? = some p)
    (hn : p'.name = p.name) (he : p'.endpoints = p.endpoints) (hq : q ∈ l) :
    ∃ q' ∈ l.set i p', q'.name = q.name ∧ q'.endpoints = q.endpoints := by
  obtain ⟨j, hj⟩ := List.mem_iff_getElem?.1 hq
  by_cases hij : i = j
  · subst hij
    rw [hp, Option.some.injEq] at hj
    subst hj
    exact ⟨p', List.mem_iff_getElem?.2 ⟨i, List.getElem?_set_self
      (List.getElem?_eq_some_iff.1 hp).1⟩, hn, he⟩
  · exact ⟨q, List.mem_iff_getElem?.2 ⟨j, by rw [List.getElem?_set_ne hij, hj]⟩, rfl, rfl⟩

theorem Routed.start (log : QueueLog) : (start log).Routed := ⟨nofun, nofun⟩

theorem Routed.step (hr : sys.Routed) {e : SystemEvent} (h : sys.step e = some sys') :
    sys'.Routed := by
  cases e with
  | «open» name endpoints =>
    cases h
    refine ⟨fun q hq => ?_, fun x hx => ?_⟩
    · rcases List.mem_append.1 hq with hq | hq
      · exact hr.taken q hq
      · rw [List.mem_singleton.1 hq]; exact nofun
    · obtain ⟨q, hq, h⟩ := hr.sent x hx
      exact ⟨q, List.mem_append_left _ hq, h⟩
  | hook i e =>
    obtain ⟨p, hp, h⟩ := Option.bind_eq_some.1 h
    obtain ⟨s', hv, rfl⟩ := Option.map_eq_some'.1 h
    have hpm : p ∈ sys.hooks := List.mem_iff_getElem?.2 ⟨i, hp⟩
    obtain ⟨hn, he, -, -⟩ := HookRun.step_frame hv
    obtain ⟨htaken, new, hsent, hnew⟩ := HookRun.step_routes hv
    refine ⟨fun q hq => ?_, fun x hx => ?_⟩
    · rcases List.mem_or_eq_of_mem_set hq with hq | rfl
      · exact hr.taken q hq
      · intro x hx
        rcases htaken x hx with hx | hx
        · rw [hn]; exact hr.taken p hpm x hx
        · rw [hn]; exact hx
    · simp only [update] at hx ⊢
      rw [hsent, List.mem_append] at hx
      rcases hx with hx | hx
      · obtain ⟨q, hq, hx2, hle⟩ := hr.sent x hx
        obtain ⟨q', hq', hqn, hqe⟩ := exists_mem_set hp hn he hq
        exact ⟨q', hq', hqe ▸ hx2, hqn ▸ hle⟩
      · obtain ⟨hx2, hx1⟩ := hnew x hx
        obtain ⟨q', hq', hqn, hqe⟩ := exists_mem_set hp hn he hpm
        exact ⟨q', hq', hqe ▸ hx2, hqn ▸ hr.taken p hpm _ hx1⟩

theorem Routed.run (hr : sys.Routed) {es : List SystemEvent} (h : sys.run es = some sys') :
    sys'.Routed := by
  induction es generalizing sys with
  | nil => cases h; exact hr
  | cons e es ih =>
    obtain ⟨s1, h1, h2⟩ := Option.bind_eq_some.1 h
    exact ih (hr.step h1) h2

end HookSystem

/-! ### Every interleaving -/

open HookSystem

section Runs

variable {log : QueueLog} {es : List SystemEvent} {sys : HookSystem}

/-- At most once across hooks: in every interleaving of any number of hooks over the shared
queue, no entry is sent twice, though the `proc` of a hook named before the entry's own may
take it, fail to send it and put it back. -/
theorem sent_at_most_once_shared (h : (HookSystem.start log).run es = some sys) :
    (sys.sent.map (·.1.idx)).Nodup := by
  have h0 := ((Safe.start log).run h).fresh.nodup
  rw [heldIdx] at h0
  exact Multiset.coe_nodup.1 (Multiset.nodup_of_le (le_add_left le_rfl) h0)

/-- Hooks `a` and `b` and an entry for `b`: `a`'s `proc` takes it, `a`'s endpoint refuses it,
and it goes back to the queue; then `b`'s `proc` takes it and sends it. -/
def takenBack : List SystemEvent :=
  [.open "a" ["http://a.example/hook"], .open "b" ["http://b.example/hook"],
    .hook 1 (.write "b" "v" 30)] ++
  List.replicate 4 (.hook 0 (.manager (fun _ _ => false) (fun _ => 0))) ++
  List.replicate 4 (.hook 1 (.manager (fun _ _ => true) (fun _ => 0)))

/-- The end of `takenBack`: `a` sleeps, `b` waits, the entry sent once, to `b`. -/
def sentOnce : HookSystem :=
  ⟨[⟨"a", ["http://a.example/hook"], false, none, .sleep, []⟩,
    ⟨"b", ["http://b.example/hook"], false, some .manager, .wait, []⟩], [], 1,
    [(⟨0, "b", "v", 30⟩, "http://b.example/hook")]⟩

theorem taken_back_sent_once : (sentOnce.sent.map (·.1.idx)).Nodup :=
  @sent_at_most_once_shared .empty takenBack sentOnce (by decide)

/-- In every interleaving, every entry sent went to an endpoint of an opened hook whose name is
at most the name of the entry's own hook: the entries of a hook never reach the endpoints of a
hook named after it. -/
theorem sent_to_hooks_before (h : (HookSystem.start log).run es = some sys) :
    ∀ x ∈ sys.sent, ∃ p ∈ sys.hooks, x.2 ∈ p.endpoints ∧ p.name.toList ≤ x.1.hook.toList :=
  ((Routed.start log).run h).sent

theorem taken_back_sent_to_b :
    ∃ p ∈ sentOnce.hooks, "http://b.example/hook" ∈ p.endpoints ∧ p.name.toList ≤ "b".toList :=
  @sent_to_hooks_before .empty takenBack sentOnce (by decide) _ (.head _)

end Runs

end Tile38
