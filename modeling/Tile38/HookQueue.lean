import Mathlib
import Tile38.Hooks

/-!
# Hook queue delivery

`Hook.proc` over the hook queue: the entries `hook:log:<idx>` of the buntdb store, indexed by
the JSON field `hook` of their value (`CreateIndex("hooks", "hook:log:*", ...)`). The index
orders entries by that field and then by key; keys carry the index zero-padded, so key order
is index order. `proc` takes every entry from the pivot `{"hook":name}` on, deletes them, and
sends them in order; at the first entry no endpoint accepts, it puts that entry and the later
ones back with what remains of their time to live.
-/

namespace Tile38

/-- An entry of the hook queue: the index in its key, the hook name its JSON value carries,
the value, and its remaining time to live. -/
structure QueueEntry where
  idx : Nat
  hook : String
  val : String
  ttl : Int
  deriving DecidableEq, Repr

/-- The order of the `hooks` index: by the hook name, byte by byte, then by key. -/
def QueueEntry.indexLE (a b : QueueEntry) : Prop :=
  a.hook.toList < b.hook.toList ∨ (a.hook = b.hook ∧ a.idx ≤ b.idx)

instance : DecidableRel QueueEntry.indexLE := fun a b => by
  unfold QueueEntry.indexLE; infer_instance

/-- `AscendGreaterOrEqual("hooks", {"hook":name}, ...)` with a callback that always goes on:
every entry whose hook name is at least `name`, in index order. -/
def ascendGreaterOrEqual (q : List QueueEntry) (name : String) : List QueueEntry :=
  (q.filter fun e => name.toList ≤ e.hook.toList).insertionSort QueueEntry.indexLE

/-- The sending loop of `proc`: each entry goes to the first endpoint whose `Send` succeeds;
the entries sent with their endpoint, and from the first entry that no endpoint accepts, that
entry and the later ones. -/
def deliver (endpoints : List String) (send : String → QueueEntry → Bool) :
    List QueueEntry → List (QueueEntry × String) × List QueueEntry
  | [] => ([], [])
  | e :: es =>
    match endpoints.find? (fun ep => send ep e) with
    | some ep =>
      let r := deliver endpoints send es
      ((e, ep) :: r.1, r.2)
    | none => ([], e :: es)

/-- The reinsertion of `proc`: each entry with its time to live less the time since `proc`
started, dropped when none is left. -/
def reinsert (elapsed : QueueEntry → Int) (es : List QueueEntry) : List QueueEntry :=
  es.filterMap fun e => if e.ttl - elapsed e > 0 then some { e with ttl := e.ttl - elapsed e } else none

/-- `Hook.proc` of the hook named `name` with its endpoints: whether every taken entry was
sent, the entries sent with their endpoint, and the queue afterwards. `send` is the outcome of
each endpoint's `Send` and `elapsed` the time since `start` at each reinsertion. -/
def proc (name : String) (endpoints : List String) (send : String → QueueEntry → Bool)
    (elapsed : QueueEntry → Int) (q : List QueueEntry) :
    Bool × List (QueueEntry × String) × List QueueEntry :=
  let taken := ascendGreaterOrEqual q name
  let q := q.filter fun e => e.idx ∉ taken.map (·.idx)
  let r := deliver endpoints send taken
  match r.2 with
  | [] => (true, r.1, q)
  | _ :: _ => (false, r.1, q ++ reinsert elapsed r.2)

/-! ### The index order -/

instance : IsTotal QueueEntry QueueEntry.indexLE := ⟨fun a b => by
  unfold QueueEntry.indexLE
  rcases lt_trichotomy a.hook.toList b.hook.toList with h | h | h
  · exact .inl (.inl h)
  · have he : a.hook = b.hook := String.ext h
    rcases le_total a.idx b.idx with h' | h'
    · exact .inl (.inr ⟨he, h'⟩)
    · exact .inr (.inr ⟨he.symm, h'⟩)
  · exact .inr (.inl h)⟩

instance : IsTrans QueueEntry QueueEntry.indexLE := ⟨fun a b c hab hbc => by
  unfold QueueEntry.indexLE at *
  rcases hab with h1 | ⟨e1, i1⟩ <;> rcases hbc with h2 | ⟨e2, i2⟩
  · exact .inl (lt_trans h1 h2)
  · exact .inl (e2 ▸ h1)
  · exact .inl (e1 ▸ h2)
  · exact .inr ⟨e1.trans e2, i1.trans i2⟩⟩

lemma mem_ascendGreaterOrEqual {q : List QueueEntry} {name : String} {e : QueueEntry} :
    e ∈ ascendGreaterOrEqual q name ↔ e ∈ q ∧ name.toList ≤ e.hook.toList := by
  simp [ascendGreaterOrEqual, (List.perm_insertionSort _ _).mem_iff]

lemma ascendGreaterOrEqual_sorted (q : List QueueEntry) (name : String) :
    (ascendGreaterOrEqual q name).Sorted QueueEntry.indexLE :=
  List.sorted_insertionSort _ _

/-! ### Sending -/

section Deliver

variable (endpoints : List String) (send : String → QueueEntry → Bool)

/-- The sent entries followed by the returned ones are the taken entries, in order. -/
theorem deliver_split : ∀ es : List QueueEntry,
    (deliver endpoints send es).1.map Prod.fst ++ (deliver endpoints send es).2 = es := by
  intro es
  induction es with
  | nil => rfl
  | cons e es ih =>
    unfold deliver
    split
    · simpa using ih
    · rfl

/-- Every entry sent went to one of the hook's endpoints, which accepted it. -/
theorem deliver_sent : ∀ es : List QueueEntry, ∀ x ∈ (deliver endpoints send es).1,
    x.2 ∈ endpoints ∧ send x.2 x.1 = true := by
  intro es
  induction es with
  | nil => intro x hx; cases hx
  | cons e es ih =>
    intro x hx
    unfold deliver at hx
    split at hx
    · rename_i ep hep
      rcases List.mem_cons.1 hx with rfl | hx
      · have hs := List.find?_some hep
        exact ⟨List.mem_of_find?_eq_some hep, by simpa using hs⟩
      · exact ih x hx
    · cases hx

/-- The first returned entry was refused by every endpoint. -/
theorem deliver_refused : ∀ (es : List QueueEntry) (e : QueueEntry) (rest : List QueueEntry),
    (deliver endpoints send es).2 = e :: rest → ∀ ep ∈ endpoints, send ep e = false := by
  intro es
  induction es with
  | nil => intro e rest h; cases h
  | cons e' es ih =>
    intro e rest h ep hep
    unfold deliver at h
    split at h
    · exact ih e rest h ep hep
    · rename_i hnone
      cases h
      simpa using List.find?_eq_none.1 hnone ep hep

end Deliver

/-! ### One call of `proc` -/

@[simp] lemma reinsert_nil (elapsed : QueueEntry → Int) : reinsert elapsed [] = [] := rfl

/-- With distinct indices, the deletes of `proc`'s first transaction leave exactly the
entries below `name`. -/
lemma filter_not_taken {q : List QueueEntry} (name : String) (hq : (q.map (·.idx)).Nodup) :
    q.filter (fun e => e.idx ∉ (ascendGreaterOrEqual q name).map (·.idx)) =
      q.filter (fun e => ¬ name.toList ≤ e.hook.toList) := by
  refine List.filter_congr fun e he => ?_
  simp only [List.mem_map, mem_ascendGreaterOrEqual, decide_eq_decide]
  constructor
  · exact fun h hle => h ⟨e, ⟨he, hle⟩, rfl⟩
  · rintro h ⟨e', ⟨he', hle⟩, hid⟩
    exact h (List.inj_on_of_nodup_map hq he' he hid ▸ hle)

/-- One call of `proc` in closed form: it takes every entry whose hook name is at least
`name`, sends them in index order until one is refused by every endpoint, and leaves the
entries below `name` with the refused ones put back. -/
theorem proc_eq (name : String) (endpoints : List String) (send : String → QueueEntry → Bool)
    (elapsed : QueueEntry → Int) (q : List QueueEntry) (hq : (q.map (·.idx)).Nodup) :
    proc name endpoints send elapsed q =
      ((deliver endpoints send (ascendGreaterOrEqual q name)).2.isEmpty,
        (deliver endpoints send (ascendGreaterOrEqual q name)).1,
        q.filter (fun e => ¬ name.toList ≤ e.hook.toList) ++
          reinsert elapsed (deliver endpoints send (ascendGreaterOrEqual q name)).2) := by
  unfold proc
  dsimp only
  rw [filter_not_taken name hq]
  split <;> rename_i h <;> rw [h]
  · rw [reinsert_nil, List.append_nil]; rfl
  · rfl

/-- When no entry in the queue names a hook after `name`, `proc` takes only the entries of its
own hook. -/
theorem ascendGreaterOrEqual_own {q : List QueueEntry} {name : String}
    (h : ∀ e ∈ q, e.hook.toList ≤ name.toList) :
    ∀ e ∈ ascendGreaterOrEqual q name, e.hook = name := fun e he => by
  obtain ⟨hq, hle⟩ := mem_ascendGreaterOrEqual.1 he
  exact String.ext (le_antisymm (h e hq) hle)

/-- Entry 1 of hook `a` and entry 2 of hook `b`, each with 30 seconds to live. -/
def twoHookQueue : List QueueEntry :=
  [⟨1, "a", "payload-a", 30000000000⟩, ⟨2, "b", "payload-b", 30000000000⟩]

/-- `proc` of hook `a`, whose endpoint accepts everything, sends hook `b`'s entry to `a`'s
endpoint and leaves the queue empty. -/
theorem proc_sends_other_hooks_entries :
    proc "a" ["http://a.example/hook"] (fun _ _ => true) (fun _ => 0) twoHookQueue =
      (true, [(⟨1, "a", "payload-a", 30000000000⟩, "http://a.example/hook"),
        (⟨2, "b", "payload-b", 30000000000⟩, "http://a.example/hook")], []) := by
  decide

end Tile38
