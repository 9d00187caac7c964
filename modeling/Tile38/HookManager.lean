import Tile38.HookQueue

/-!
# The hook manager

An open hook has a manager goroutine, `Hook.manager`, that runs `proc` over the hook queue
each time it is woken, under the hook's mutex `h.mu` and its condition `h.cond`:

    for {
      h.mu.Lock()
      for {
        if h.closed { h.mu.Unlock(); return }
        if h.proc() { break }
        h.mu.Unlock(); time.Sleep(time.Second / 4); h.mu.Lock()
      }
      h.cond.Wait()
      h.mu.Unlock()
    }

`Signal` takes the mutex, broadcasts and lets it go; `Close` takes the mutex and, the first
time, sets `closed` and broadcasts. Any number of goroutines call them, at any time. The
queue is written meanwhile by other goroutines, each entry under a fresh index (`c.qidx`),
and buntdb drops entries whose time to live runs out. `proc` runs two transactions with the
mutex held: the first takes its entries out of the queue, the second puts back the ones it
could not send.

This module models one hook with these goroutines, interleaved in any order: the program
point of the manager and of every caller of `Signal` and `Close`, the owner of the mutex, the
queue and the entries sent. `HookRun.Safe` is the invariant of every reachable state: the
locking discipline of the hook (`HookProc.Locked`) and the accounting of the queue's indices
(`Fresh`). From it:
- once `Close` has run, nothing more is sent, and the manager never again runs `proc` or
  waits on the condition (`close_stops_manager`);
- at most once: no entry is sent twice, failed sends and reinsertion included
  (`sent_at_most_once`).
The hooks of a server share one queue; `Tile38.HookSystem` runs several of these hooks over it.
-/

namespace Tile38

/-! ### Goroutines and their program points -/

/-- What a caller goroutine calls. -/
inductive Call
  | signal
  | close
  deriving DecidableEq, Repr

/-- Where a caller of `Signal` or `Close` is: at `h.mu.Lock()`, holding the mutex, returned. -/
inductive CallerPc
  | lock (c : Call)
  | locked (c : Call)
  | done
  deriving DecidableEq, Repr

/-- The goroutine that holds `h.mu`. -/
inductive Owner
  | manager
  | caller (i : Nat)
  deriving DecidableEq, Repr

/-- Where the manager is in `Hook.manager`: at the outer `h.mu.Lock()`; testing `h.closed`;
in `proc` before its first transaction, or holding the entries that transaction took;
sleeping after a failed `proc`; at `h.cond.Wait()`; suspended in `Wait`; woken, with `Wait`
taking the mutex back; at the last `h.mu.Unlock()`; returned. -/
inductive ManagerPc
  | lock
  | check
  | take
  | send (taken : List QueueEntry)
  | sleep
  | wait
  | waiting
  | woken
  | unlock
  | exited
  deriving DecidableEq, Repr

namespace ManagerPc

/-- The program points where the manager holds `h.mu`. -/
def holds : ManagerPc → Bool
  | check | take | send _ | wait | unlock => true
  | _ => false

/-- The program points inside `proc`. -/
def inProc : ManagerPc → Bool
  | take | send _ => true
  | _ => false

/-- The program points after `proc` took every entry it could, up to the wakeup. -/
def drained : ManagerPc → Bool
  | send _ | wait | waiting => true
  | _ => false

/-- The entries `proc` holds between its two transactions. -/
def taken : ManagerPc → List QueueEntry
  | send taken => taken
  | _ => []

/-- `h.cond.Broadcast()`: the manager, if suspended in `Wait`, is woken. -/
def wake : ManagerPc → ManagerPc
  | waiting => woken
  | pc => pc

@[simp] lemma holds_wake (pc : ManagerPc) : pc.wake.holds = pc.holds := by cases pc <;> rfl
@[simp] lemma inProc_wake (pc : ManagerPc) : pc.wake.inProc = pc.inProc := by cases pc <;> rfl
@[simp] lemma taken_wake (pc : ManagerPc) : pc.wake.taken = pc.taken := by cases pc <;> rfl

lemma inProc_of_not_holds {pc : ManagerPc} (h : pc.holds = false) : pc.inProc = false := by
  cases pc <;> simp_all [inProc, holds]

lemma drained_wake {pc : ManagerPc} (h : pc.holds = false) : pc.wake.drained = false := by
  cases pc <;> simp_all [wake, drained, holds]

end ManagerPc

/-! ### The hook and its goroutines -/

/-- The hook queue as the controller opens it: entries under distinct indices, all below the
next index `qidx`. -/
structure QueueLog where
  entries : List QueueEntry
  qidx : Nat
  nodup : (entries.map (·.idx)).Nodup
  lt : ∀ e ∈ entries, e.idx < qidx

/-- A queue with no entry yet. -/
def QueueLog.empty : QueueLog := ⟨[], 0, List.nodup_nil, fun _ h => nomatch h⟩

/-- The goroutines of one open hook: its name and endpoints, `closed`, the goroutine that
holds `h.mu`, the manager's program point and the callers of `Signal` and `Close`. -/
structure HookProc where
  name : String
  endpoints : List String
  closed : Bool
  owner : Option Owner
  manager : ManagerPc
  callers : List CallerPc
  deriving DecidableEq, Repr

/-- One hook with its goroutines, the queue, the next queue index, and the entries sent with
their endpoint. -/
structure HookRun extends HookProc where
  queue : List QueueEntry
  qidx : Nat
  sent : List (QueueEntry × String)
  deriving DecidableEq, Repr

/-- A move of one goroutine: the manager's next step (with the outcome of each `Send` and the
time since `proc` started, should the step be `proc`'s sending), a new call of `Signal` or
`Close`, the next step of caller `i`, a queue write, or the expiry of an entry. -/
inductive HookEvent
  | manager (send : String → QueueEntry → Bool) (elapsed : QueueEntry → Int)
  | call (c : Call)
  | caller (i : Nat)
  | write (hook val : String) (ttl : Int)
  | expire (idx : Nat)

/-- `Hook.Open`: the goroutines of a hook whose manager has just started. -/
def HookProc.opened (name : String) (endpoints : List String) : HookProc :=
  ⟨name, endpoints, false, none, .lock, []⟩

namespace HookRun

/-- `Hook.Open` has started the manager. -/
def start (name : String) (endpoints : List String) (log : QueueLog) : HookRun :=
  ⟨.opened name endpoints, log.entries, log.qidx, []⟩

/-- The manager's next step. Each of `proc`'s transactions is one step: the first is
`ascendGreaterOrEqual` and the deletes; the second sends and puts back the entries from the
first that no endpoint accepted. -/
def managerStep (s : HookRun) (send : String → QueueEntry → Bool)
    (elapsed : QueueEntry → Int) : Option HookRun :=
  match s.manager with
  | .lock | .sleep =>
    if s.owner = none then some { s with owner := some .manager, manager := .check } else none
  | .check =>
    if s.closed then some { s with owner := none, manager := .exited }
    else some { s with manager := .take }
  | .take =>
    let taken := ascendGreaterOrEqual s.queue s.name
    some { s with queue := s.queue.filter (fun e => e.idx ∉ taken.map (·.idx)),
                  manager := .send taken }
  | .send taken =>
    let r := deliver s.endpoints send taken
    match r.2 with
    | [] => some { s with sent := s.sent ++ r.1, manager := .wait }
    | _ :: _ => some { s with sent := s.sent ++ r.1, queue := s.queue ++ reinsert elapsed r.2,
                              owner := none, manager := .sleep }
  | .wait => some { s with owner := none, manager := .waiting }
  | .woken =>
    if s.owner = none then some { s with owner := some .manager, manager := .unlock } else none
  | .unlock => some { s with owner := none, manager := .lock }
  | .waiting | .exited => none

/-- The next step of caller `i`: take the mutex; then, holding it, `Signal` broadcasts and
`Close` sets `closed` and broadcasts unless it was set, and both let the mutex go. -/
def callerStep (s : HookRun) (i : Nat) : Option HookRun :=
  match s.callers[i]? with
  | some (.lock c) =>
    if s.owner = none then some { s with owner := some (.caller i),
                                         callers := s.callers.set i (.locked c) }
    else none
  | some (.locked .signal) =>
    some { s with manager := s.manager.wake, owner := none, callers := s.callers.set i .done }
  | some (.locked .close) =>
    if s.closed then some { s with owner := none, callers := s.callers.set i .done }
    else some { s with closed := true, manager := s.manager.wake, owner := none,
                       callers := s.callers.set i .done }
  | _ => none

/-- One move; `none` when the goroutine cannot move. -/
def step (s : HookRun) : HookEvent → Option HookRun
  | .manager send elapsed => s.managerStep send elapsed
  | .call c => some { s with callers := s.callers ++ [.lock c] }
  | .caller i => s.callerStep i
  | .write hook val ttl =>
    some { s with queue := s.queue ++ [⟨s.qidx, hook, val, ttl⟩], qidx := s.qidx + 1 }
  | .expire idx => some { s with queue := s.queue.filter (·.idx ≠ idx) }

/-- A run of moves, interleaved in the order given. -/
def run (s : HookRun) : List HookEvent → Option HookRun
  | [] => some s
  | e :: es => (s.step e).bind (·.run es)

/-- Every entry the hook accounts for: in the queue, held by `proc`, or sent. -/
def held (s : HookRun) : List QueueEntry :=
  s.queue ++ s.manager.taken ++ s.sent.map Prod.fst

/-- The indices of the entries the hook accounts for. -/
def heldIdx (s : HookRun) : Multiset Nat := (s.held.map (·.idx) : List Nat)

end HookRun

/-! ### The invariant -/

/-- The locking discipline of one hook: the goroutine that holds `h.mu` is the one in its
critical section; `proc` runs only while the hook is open; and once the hook is closed, the
manager is never between `proc`'s first transaction and its wakeup. -/
structure HookProc.Locked (p : HookProc) : Prop where
  manager_owns : p.owner = some .manager ↔ p.manager.holds = true
  caller_owns : ∀ i, p.owner = some (.caller i) ↔ ∃ c, p.callers[i]? = some (.locked c)
  open_in_proc : p.manager.inProc = true → p.closed = false
  closed_settled : p.closed = true → p.manager.drained = false

/-- Indices that are distinct and below the next index `qidx`. -/
structure Fresh (ids : Multiset Nat) (qidx : Nat) : Prop where
  nodup : ids.Nodup
  lt : ∀ n ∈ ids, n < qidx

/-- What a move may do to the indices accounted for: keep the next index and add none, or
spend the next index on one new entry. -/
def Grows (ids : Multiset Nat) (qidx : Nat) (ids' : Multiset Nat) (qidx' : Nat) : Prop :=
  (qidx' = qidx ∧ ids' ≤ ids) ∨ (qidx' = qidx + 1 ∧ ids' = qidx ::ₘ ids)

lemma Fresh.grows {ids ids' : Multiset Nat} {q q' : Nat} (hf : Fresh ids q)
    (h : Grows ids q ids' q') : Fresh ids' q' := by
  rcases h with ⟨rfl, hle⟩ | ⟨rfl, rfl⟩
  · exact ⟨Multiset.nodup_of_le hle hf.nodup, fun n hn => hf.lt n (Multiset.mem_of_le hle hn)⟩
  · refine ⟨Multiset.nodup_cons.2 ⟨fun h => lt_irrefl _ (hf.lt _ h), hf.nodup⟩, fun n hn => ?_⟩
    rcases Multiset.mem_cons.1 hn with rfl | hn
    · exact Nat.lt_succ_self _
    · exact Nat.lt_succ_of_lt (hf.lt n hn)

/-- What holds in every reachable state: the locking discipline, and every entry accounted
for in one place only, under an index below `qidx`. -/
structure HookRun.Safe (s : HookRun) : Prop where
  locked : s.Locked
  fresh : Fresh s.heldIdx s.qidx

/-! ### Accounting for the entries -/

lemma take_perm {q : List QueueEntry} (name : String) (hq : (q.map (·.idx)).Nodup) :
    List.Perm (q.filter (fun e => e.idx ∉ (ascendGreaterOrEqual q name).map (·.idx)) ++
      ascendGreaterOrEqual q name) q := by
  rw [filter_not_taken name hq]
  refine ((List.perm_insertionSort _ _).append_left _).trans ?_
  refine List.perm_append_comm.trans ?_
  simpa only [decide_not] using
    List.filter_append_perm (fun e => decide (name.toList ≤ e.hook.toList)) q

lemma reinsert_idx_sublist (elapsed : QueueEntry → Int) (es : List QueueEntry) :
    List.Sublist ((reinsert elapsed es).map (·.idx)) (es.map (·.idx)) := by
  induction es with
  | nil => exact List.Sublist.slnil
  | cons e es ih =>
    simp only [reinsert, List.filterMap_cons] at ih ⊢
    split_ifs
    · simpa using ih
    · exact ih.cons _

/-! ### The locking discipline -/

namespace HookProc.Locked

variable {p : HookProc}

lemma no_caller (hl : p.Locked) (ho : p.owner = none ∨ p.owner = some .manager) (j : Nat) :
    ¬ ∃ c, p.callers[j]? = some (.locked c) := by
  rw [← hl.caller_owns j]
  rcases ho with h | h <;> rw [h] <;> nofun

lemma move (hl : p.Locked) {o : Option Owner} {pc : ManagerPc}
    (ho : o = some .manager ↔ pc.holds = true)
    (hc : ∀ i, o = some (.caller i) ↔ p.owner = some (.caller i))
    (hp : pc.inProc = true → p.closed = false) (hd : pc.drained = true → p.closed = false) :
    { p with owner := o, manager := pc }.Locked where
  manager_owns := ho
  caller_owns i := (hc i).trans (hl.caller_owns i)
  open_in_proc := hp
  closed_settled h := Bool.eq_false_iff.2 fun hpc => by simp [hd hpc] at h

lemma move_release (hl : p.Locked) (hm : p.manager.holds = true) {pc : ManagerPc}
    (hpc : pc.holds = false) (hd : pc.drained = true → p.closed = false) :
    { p with owner := none, manager := pc }.Locked :=
  hl.move (by simp [hpc]) (fun i => by simp [hl.manager_owns.2 hm]) (fun h => by
    simp [ManagerPc.inProc_of_not_holds hpc] at h) hd

lemma move_held (hl : p.Locked) (hm : p.manager.holds = true) {pc : ManagerPc}
    (hpc : pc.holds = true) (hp : pc.inProc = true → p.closed = false)
    (hd : pc.drained = true → p.closed = false) : { p with manager := pc }.Locked :=
  hl.move (by simp [hl.manager_owns.2 hm, hpc]) (fun _ => Iff.rfl) hp hd

lemma move_acquire (hl : p.Locked) (ho : p.owner = none) {pc : ManagerPc}
    (hpc : pc.holds = true) (hp : pc.inProc = false) (hd : pc.drained = false) :
    { p with owner := some .manager, manager := pc }.Locked :=
  hl.move (by simp [hpc]) (fun i => by simp [ho]) (by simp [hp]) (by simp [hd])

lemma acquire (hl : p.Locked) (ho : p.owner = none) {i : Nat} {c : Call}
    (hi : p.callers[i]? = some (.lock c)) :
    { p with owner := some (.caller i), callers := p.callers.set i (.locked c) }.Locked where
  manager_owns := by simp [← hl.manager_owns, ho]
  caller_owns j := by
    by_cases hj : i = j
    · subst hj
      simp [List.getElem?_set, (List.getElem?_eq_some_iff.1 hi).1]
    · simpa [List.getElem?_set_ne hj, hj] using hl.no_caller (.inl ho) j
  open_in_proc := hl.open_in_proc
  closed_settled := hl.closed_settled

lemma release (hl : p.Locked) {i : Nat} (ho : p.owner = some (.caller i)) {closed' : Bool}
    {m : ManagerPc} (hm : m.holds = p.manager.holds) (hd : closed' = true → m.drained = false) :
    { p with closed := closed', manager := m, owner := none,
             callers := p.callers.set i .done }.Locked := by
  have hnh : p.manager.holds = false :=
    Bool.eq_false_iff.2 fun h => by rw [hl.manager_owns.2 h] at ho; cases ho
  refine ⟨by simp [hm, hnh], fun j => ⟨nofun, fun ⟨c, hc⟩ => absurd hc ?_⟩,
    fun h => by simp [ManagerPc.inProc_of_not_holds (hm.trans hnh)] at h, hd⟩
  by_cases hj : i = j
  · subst hj; simp [List.getElem?_set]
  · intro hc
    rw [List.getElem?_set_ne hj] at hc
    have h := (hl.caller_owns j).2 ⟨c, hc⟩
    rw [ho] at h; cases h; exact hj rfl

lemma call (hl : p.Locked) (c : Call) : { p with callers := p.callers ++ [CallerPc.lock c] }.Locked := by
  refine ⟨hl.manager_owns, fun j => ?_, hl.open_in_proc, hl.closed_settled⟩
  rw [hl.caller_owns j]
  by_cases hj : j < p.callers.length
  · rw [List.getElem?_append_left hj]
  · rw [List.getElem?_append_right (by omega), List.getElem?_eq_none (by omega)]
    cases h : j - p.callers.length <;> simp

lemma opened (name : String) (endpoints : List String) : (HookProc.opened name endpoints).Locked :=
  ⟨by simp [HookProc.opened, ManagerPc.holds], by simp [HookProc.opened], nofun, nofun⟩

end HookProc.Locked

/-! ### Every move keeps the invariant -/

namespace HookRun

variable {s s' : HookRun}

lemma heldIdx_eq (s : HookRun) :
    s.heldIdx = (s.queue.map (·.idx) : Multiset Nat) + (s.manager.taken.map (·.idx) : List Nat) +
      (s.sent.map (·.1.idx) : List Nat) := by
  simp [heldIdx, held, List.map_append, ← Multiset.coe_add, Function.comp_def, add_assoc]

lemma heldIdx_congr (hq : s'.queue = s.queue) (ht : s'.manager.taken = s.manager.taken)
    (hs : s'.sent = s.sent) : s'.heldIdx = s.heldIdx := by
  rw [heldIdx_eq, heldIdx_eq, hq, ht, hs]

lemma queue_nodup (hf : Fresh s.heldIdx s.qidx) : (s.queue.map (·.idx)).Nodup := by
  have h := hf.nodup
  rw [heldIdx_eq] at h
  exact Multiset.coe_nodup.1 (Multiset.nodup_of_le (le_add_right (le_add_right le_rfl)) h)

lemma heldIdx_take (hq : (s.queue.map (·.idx)).Nodup) (hm : s.manager = .take) :
    ({ s with queue := s.queue.filter fun e => e.idx ∉ (ascendGreaterOrEqual s.queue s.name).map (·.idx),
              manager := .send (ascendGreaterOrEqual s.queue s.name) } : HookRun).heldIdx =
      s.heldIdx := by
  refine Multiset.coe_eq_coe.2 (List.Perm.map _ ?_)
  simp only [held, hm, ManagerPc.taken, List.append_nil]
  exact (take_perm s.name hq).append_right _

lemma heldIdx_send (r : List (QueueEntry × String) × List QueueEntry)
    (hm : s.manager = .send (r.1.map Prod.fst ++ r.2)) (elapsed : QueueEntry → Int)
    (pc : ManagerPc) (hpc : pc.taken = []) :
    ({ s with sent := s.sent ++ r.1, queue := s.queue ++ reinsert elapsed r.2,
              manager := pc } : HookRun).heldIdx ≤ s.heldIdx := by
  have hR := Multiset.coe_le.2 (reinsert_idx_sublist elapsed r.2).subperm
  have ht : (ManagerPc.send (r.1.map Prod.fst ++ r.2)).taken = r.1.map Prod.fst ++ r.2 := rfl
  rw [heldIdx_eq, heldIdx_eq, hm]
  simp only [hpc, ht, List.map_append, List.map_nil, ← Multiset.coe_add,
    Multiset.coe_nil, add_zero, List.map_map]
  refine Multiset.le_iff_count.2 fun n => ?_
  have := Multiset.le_iff_count.1 hR n
  simp only [Multiset.count_add, Function.comp_def] at this ⊢
  omega

/-- Every step of the manager keeps the locking discipline, spends no index and adds no
entry. -/
theorem managerStep_safe (hs : s.Safe) {send : String → QueueEntry → Bool}
    {elapsed : QueueEntry → Int} (h : s.managerStep send elapsed = some s') :
    s'.Locked ∧ s'.qidx = s.qidx ∧ s'.heldIdx ≤ s.heldIdx := by
  have hl := hs.locked
  unfold managerStep at h
  split at h <;> rename_i hm
  case h_1 | h_2 | h_7 =>
    split at h <;> rename_i ho <;> cases h
    exact ⟨hl.move_acquire ho rfl rfl rfl, rfl, le_of_eq (heldIdx_congr rfl (by rw [hm]; rfl) rfl)⟩
  case h_3 =>
    have hown := hl.manager_owns.2 (by rw [hm]; rfl)
    split at h <;> rename_i hc <;> cases h
    · exact ⟨hl.move_release (by rw [hm]; rfl) rfl nofun, rfl,
        le_of_eq (heldIdx_congr rfl (by rw [hm]; rfl) rfl)⟩
    · exact ⟨hl.move_held (by rw [hm]; rfl) rfl (fun _ => by simpa using hc) nofun, rfl,
        le_of_eq (heldIdx_congr rfl (by rw [hm]; rfl) rfl)⟩
  case h_4 =>
    cases h
    have hopen := hl.open_in_proc (by rw [hm]; rfl)
    exact ⟨hl.move_held (by rw [hm]; rfl) rfl (fun _ => hopen) (fun _ => hopen), rfl,
      (heldIdx_take (queue_nodup hs.fresh) hm).le⟩
  case h_5 taken =>
    have hopen := hl.open_in_proc (by rw [hm]; rfl)
    have hsplit := deliver_split s.endpoints send taken
    generalize deliver s.endpoints send taken = r at h hsplit
    dsimp only at h
    split at h <;> rename_i hr <;> cases h
    · rw [hr, List.append_nil] at hsplit
      exact ⟨hl.move_held (by rw [hm]; rfl) rfl nofun (fun _ => hopen), rfl, by
          simpa [hr] using heldIdx_send r (by rw [hm, hr, List.append_nil, hsplit])
            elapsed .wait rfl⟩
    · exact ⟨hl.move_release (by rw [hm]; rfl) rfl nofun, rfl,
        heldIdx_send r (by rw [hm, hsplit]) elapsed .sleep rfl⟩
  case h_6 =>
    cases h
    exact ⟨hl.move_release (by rw [hm]; rfl) rfl (fun _ => Bool.eq_false_iff.2 fun hc => by
      have := hl.closed_settled hc; rw [hm] at this; cases this), rfl,
      le_of_eq (heldIdx_congr rfl (by rw [hm]; rfl) rfl)⟩
  case h_8 =>
    cases h
    exact ⟨hl.move_release (by rw [hm]; rfl) rfl nofun, rfl,
      le_of_eq (heldIdx_congr rfl (by rw [hm]; rfl) rfl)⟩
  all_goals cases h

/-- Every step of a caller of `Signal` or `Close` keeps the locking discipline and leaves the
entries alone. -/
theorem callerStep_safe (hs : s.Safe) {i : Nat} (h : s.callerStep i = some s') :
    s'.Locked ∧ s'.qidx = s.qidx ∧ s'.heldIdx = s.heldIdx := by
  have hl := hs.locked
  have held : ∀ {c}, s.callers[i]? = some (.locked c) →
      s.owner = some (.caller i) ∧ s.manager.holds = false := fun hi => by
    have ho := (hl.caller_owns i).2 ⟨_, hi⟩
    exact ⟨ho, Bool.eq_false_iff.2 fun h => by rw [hl.manager_owns.2 h] at ho; cases ho⟩
  unfold callerStep at h
  split at h <;> rename_i hi
  · split at h <;> rename_i ho <;> cases h
    exact ⟨hl.acquire ho hi, rfl, rfl⟩
  · cases h
    obtain ⟨ho, hnh⟩ := held hi
    exact ⟨hl.release ho (ManagerPc.holds_wake _) fun _ => ManagerPc.drained_wake hnh, rfl,
      heldIdx_congr rfl (ManagerPc.taken_wake _) rfl⟩
  · obtain ⟨ho, hnh⟩ := held hi
    split at h <;> rename_i hc <;> cases h
    · exact ⟨hl.release ho rfl fun _ => hl.closed_settled hc, rfl, rfl⟩
    · exact ⟨hl.release ho (ManagerPc.holds_wake _) fun _ => ManagerPc.drained_wake hnh, rfl,
        heldIdx_congr rfl (ManagerPc.taken_wake _) rfl⟩
  · cases h

/-- Every move keeps the locking discipline, and spends the next index only on the entry a
write adds. -/
theorem step_safe (hs : s.Safe) {e : HookEvent} (h : s.step e = some s') :
    s'.Locked ∧ Grows s.heldIdx s.qidx s'.heldIdx s'.qidx := by
  cases e with
  | manager send elapsed =>
    obtain ⟨hl, hq, hle⟩ := managerStep_safe hs h
    exact ⟨hl, .inl ⟨hq, hle⟩⟩
  | call c => cases h; exact ⟨hs.locked.call c, .inl ⟨rfl, le_rfl⟩⟩
  | caller i =>
    obtain ⟨hl, hq, he⟩ := callerStep_safe hs h
    exact ⟨hl, .inl ⟨hq, he.le⟩⟩
  | write hook val ttl =>
    cases h
    refine ⟨hs.locked, .inr ⟨rfl, ?_⟩⟩
    rw [heldIdx_eq, heldIdx_eq]
    simp only [List.map_append, List.map_cons, List.map_nil, ← Multiset.coe_add,
      ← Multiset.cons_coe, Multiset.coe_nil]
    rw [Multiset.add_cons, Multiset.cons_add, Multiset.cons_add, add_zero]
  | expire idx =>
    cases h
    refine ⟨hs.locked, .inl ⟨rfl, ?_⟩⟩
    rw [heldIdx_eq, heldIdx_eq]
    exact add_le_add_right (add_le_add_right
      (Multiset.coe_le.2 ((List.filter_sublist _).map _).subperm) _) _

theorem Safe.start (name : String) (endpoints : List String) (log : QueueLog) :
    (start name endpoints log).Safe := by
  have h : (HookRun.start name endpoints log).heldIdx = (log.entries.map (·.idx) : List Nat) := by
    simp [heldIdx, held, HookRun.start, HookProc.opened, ManagerPc.taken]
  refine ⟨.opened name endpoints, ⟨by simpa [h] using log.nodup, fun n hn => ?_⟩⟩
  rw [h, Multiset.mem_coe, List.mem_map] at hn
  obtain ⟨e, he, rfl⟩ := hn
  exact log.lt e he

theorem Safe.step (hs : s.Safe) {e : HookEvent} (h : s.step e = some s') : s'.Safe :=
  ⟨(step_safe hs h).1, hs.fresh.grows (step_safe hs h).2⟩

/-- Every run keeps the invariant. -/
theorem Safe.run (hs : s.Safe) {es : List HookEvent} (h : s.run es = some s') : s'.Safe := by
  induction es generalizing s with
  | nil => cases h; exact hs
  | cons e es ih =>
    obtain ⟨s1, h1, h2⟩ := Option.bind_eq_some.1 h
    exact ih (hs.step h1) h2

/-! ### What a move leaves alone -/

/-- No move renames the hook or changes its endpoints; none reopens it; only `proc` sends. -/
lemma step_frame {e : HookEvent} (h : s.step e = some s') :
    s'.name = s.name ∧ s'.endpoints = s.endpoints ∧ (s.closed = true → s'.closed = true) ∧
      (s.manager.inProc = false → s'.sent = s.sent) := by
  cases e <;> simp only [step, managerStep, callerStep] at h
  all_goals
    repeat' split at h
    all_goals cases h
  all_goals simp_all [ManagerPc.inProc]

lemma managerStep_routes {send : String → QueueEntry → Bool} {elapsed : QueueEntry → Int}
    (h : s.managerStep send elapsed = some s') :
    (∀ x ∈ s'.manager.taken, s.name.toList ≤ x.hook.toList) ∧
      ∃ new, s'.sent = s.sent ++ new ∧ ∀ x ∈ new, x.2 ∈ s.endpoints ∧ x.1 ∈ s.manager.taken := by
  unfold managerStep at h
  split at h <;> rename_i hm
  case h_4 => cases h; exact ⟨fun x hx => (mem_ascendGreaterOrEqual.1 hx).2, [], by simp, nofun⟩
  case h_5 taken =>
    have hsplit := deliver_split s.endpoints send taken
    have hsent := deliver_sent s.endpoints send taken
    generalize deliver s.endpoints send taken = r at h hsplit hsent
    have hnew : ∀ x ∈ r.1, x.2 ∈ s.endpoints ∧ x.1 ∈ s.manager.taken := fun x hx =>
      ⟨(hsent x hx).1, by rw [hm, ← hsplit]; exact List.mem_append_left _ (List.mem_map_of_mem _ hx)⟩
    dsimp only at h
    split at h <;> cases h <;> exact ⟨nofun, r.1, rfl, hnew⟩
  all_goals
    repeat' split at h
    all_goals (cases h <;> exact ⟨nofun, [], by simp, nofun⟩)

/-- Where a move puts entries: only `proc` takes entries, those from the hook's name on, and
only `proc` sends, to the hook's endpoints, entries it held. -/
lemma step_routes {e : HookEvent} (h : s.step e = some s') :
    (∀ x ∈ s'.manager.taken, x ∈ s.manager.taken ∨ s.name.toList ≤ x.hook.toList) ∧
      ∃ new, s'.sent = s.sent ++ new ∧ ∀ x ∈ new, x.2 ∈ s.endpoints ∧ x.1 ∈ s.manager.taken := by
  cases e with
  | manager send elapsed =>
    obtain ⟨h1, h2⟩ := managerStep_routes h
    exact ⟨fun x hx => .inr (h1 x hx), h2⟩
  | caller i =>
    simp only [step, callerStep] at h
    repeat' split at h
    all_goals (cases h <;> exact ⟨fun x hx => .inl (by simpa using hx), [], by simp, nofun⟩)
  | call | write | expire => cases h; exact ⟨fun x hx => .inl hx, [], by simp, nofun⟩

lemma run_rel (R : HookRun → HookRun → Prop) (hrefl : ∀ s, R s s)
    (htrans : ∀ {a b c}, R a b → R b c → R a c)
    (hstep : ∀ {s s' : HookRun} {e : HookEvent}, s.Safe → s.step e = some s' → R s s') :
    ∀ {es : List HookEvent} {s s' : HookRun}, s.Safe → s.run es = some s' → R s s'
  | [], s, _, _, h => by cases h; exact hrefl s
  | _ :: _, _, _, hs, h => by
    obtain ⟨s1, h1, h2⟩ := Option.bind_eq_some.1 h
    exact htrans (hstep hs h1) (run_rel R hrefl htrans hstep (hs.step h1) h2)

/-- With no other goroutine moving in between, the manager's two steps in `proc` are one call
of `proc`: the entries sent, the queue after, and the result, which decides between waiting
and sleeping. -/
theorem managerStep_proc (s : HookRun) (hm : s.manager = .take)
    (send : String → QueueEntry → Bool) (elapsed : QueueEntry → Int) :
    ∃ s2, (s.managerStep send elapsed).bind (·.managerStep send elapsed) = some s2 ∧
      s2.sent = s.sent ++ (proc s.name s.endpoints send elapsed s.queue).2.1 ∧
      s2.queue = (proc s.name s.endpoints send elapsed s.queue).2.2 ∧
      s2.manager = if (proc s.name s.endpoints send elapsed s.queue).1 then .wait else .sleep := by
  cases hr : (deliver s.endpoints send (ascendGreaterOrEqual s.queue s.name)).2 <;>
    simp [managerStep, hm, proc, hr]

end HookRun

/-! ### Every interleaving -/

open HookRun

section Runs

variable {name : String} {endpoints : List String} {log : QueueLog} {es es' : List HookEvent}
  {s s' : HookRun}

/-- Once `Close` has run, nothing more is sent, and the manager never again enters `proc` or
waits on the condition, whatever the goroutines do next. -/
theorem close_stops_manager (h : (start name endpoints log).run es = some s)
    (hc : s.closed = true) (h' : s.run es' = some s') :
    s'.closed = true ∧ s'.sent = s.sent ∧ s'.manager.inProc = false ∧
      s'.manager.drained = false := by
  have hs := (Safe.start name endpoints log).run h
  have hs' := hs.run h'
  obtain ⟨hc', hsent⟩ := run_rel
    (fun a b => a.closed = true → b.closed = true ∧ b.sent = a.sent)
    (fun _ hc => ⟨hc, rfl⟩)
    (fun hab hbc hc => ⟨(hbc (hab hc).1).1, (hbc (hab hc).1).2.trans (hab hc).2⟩)
    (fun ha hst hc => ⟨(step_frame hst).2.2.1 hc, (step_frame hst).2.2.2
      (Bool.eq_false_iff.2 fun hp => by simp [ha.locked.open_in_proc hp] at hc)⟩) hs h' hc
  exact ⟨hc', hsent, Bool.eq_false_iff.2 fun hp => by simp [hs'.locked.open_in_proc hp] at hc',
    hs'.locked.closed_settled hc'⟩

/-- Hook `a` with one endpoint: an entry is written, and a caller of `Signal` takes the
mutex. -/
def signalCall : List HookEvent := [.write "a" "v" 30, .call .signal, .caller 0]

/-- The manager, every `Send` accepted: it takes the mutex, tests `closed`, takes the entry,
sends it, and waits. -/
def managerSends : List HookEvent := List.replicate 5 (.manager (fun _ _ => true) (fun _ => 0))

/-- The entry written. -/
def entryA : QueueEntry := ⟨0, "a", "v", 30⟩

/-- The manager waits, the entry sent. -/
def managerWaits : HookRun :=
  ⟨⟨"a", ["http://a.example/hook"], false, none, .waiting, [.done]⟩, [], 1,
    [(entryA, "http://a.example/hook")]⟩

/-- At most once: in every interleaving, no entry is sent twice, failed sends and the
reinsertion of what was not sent included. -/
theorem sent_at_most_once (h : (start name endpoints log).run es = some s) :
    (s.sent.map (·.1.idx)).Nodup := by
  have h0 := ((Safe.start name endpoints log).run h).fresh.nodup
  rw [heldIdx_eq] at h0
  exact Multiset.coe_nodup.1 (Multiset.nodup_of_le (le_add_left le_rfl) h0)

theorem signal_then_wait_once : (managerWaits.sent.map (·.1.idx)).Nodup :=
  @sent_at_most_once "a" ["http://a.example/hook"] .empty (signalCall ++ .caller 0 :: managerSends)
    managerWaits (by decide)

/-- `Close` reaches the manager waiting on the condition; woken, it returns. -/
def closeWaiting : List HookEvent := [.call .close, .caller 1, .caller 1]

/-- `Close` has run while the manager waited. -/
def closedWoken : HookRun :=
  ⟨⟨"a", ["http://a.example/hook"], true, none, .woken, [.done, .done]⟩, [], 1,
    [(entryA, "http://a.example/hook")]⟩

/-- The manager has returned. -/
def managerExited : HookRun := { closedWoken with manager := .exited }

theorem close_wakes_waiting_manager :
    managerExited.closed = true ∧ managerExited.sent = closedWoken.sent ∧
      managerExited.manager.inProc = false ∧ managerExited.manager.drained = false :=
  @close_stops_manager "a" ["http://a.example/hook"] .empty
    (signalCall ++ .caller 0 :: managerSends ++ closeWaiting) (managerSends.take 4) closedWoken
    managerExited (by decide) rfl (by decide)

end Runs

end Tile38
