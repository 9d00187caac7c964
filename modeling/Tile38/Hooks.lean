import Mathlib
import Tile38.Router
import Tile38.Search

/-!
# Hook registry

`cmdSetHook`, `cmdDelHook` and `cmdPDelHook` over the controller's hook registry: `hooks`
maps a name to a hook object and `hookcols` maps a key to the hooks of that collection. Hook
objects are addressed like the pointers of the source, each with the `opened` and `closed`
flags of `Open` and `Close` and the number of manager tasks `Open` started. The endpoint
check, the parser of the fence command (`cmdSearchArgs`, whose token parser is not under src)
and the field layout of the key's collection are the environment of a command.
-/

namespace Tile38

/-- `strings.Split(s, ",")`. -/
def splitComma (s : String) : List String := (s.toList.splitOn ',').map String.mk

/-- `nearbyTypes` and `withinOrIntersectsTypes`. -/
def nearbyTypes : List String := ["point"]

def withinOrIntersectsTypes : List String :=
  ["geo", "bounds", "hash", "tile", "quadkey", "get", "object", "circle"]

/-- `server.OutputType`. -/
inductive OutputType
  | json | resp
  deriving DecidableEq, Repr

/-- The replies of the hook commands: `OKMessage`, or an integer. -/
inductive HookReply
  | ok
  | integer (n : Nat)
  deriving DecidableEq, Repr

/-- The reply to an output type: `OKMessage` to JSON, the integer to RESP. -/
def HookReply.of (out : OutputType) (n : Nat) : HookReply :=
  match out with
  | .json => .ok
  | .resp => .integer n

/-- `FenceMeta`. -/
structure FenceMeta where
  name : String
  value : String
  deriving DecidableEq, Repr

variable {F Obj : Type} [Zero F]

/-- `Hook`: its key and name, its endpoints, the tokens of its frozen command
(`Message.Values`), its metas sorted by name, its fence and its scan writer. -/
structure Hook (F Obj : Type) where
  key : String
  name : String
  endpoints : List String
  message : List String
  metas : List FenceMeta
  fence : LiveFenceSwitches F
  scanWriter : ScanWriter F Obj

/-- `Hook.Equals`: key, name, endpoints, metas and command tokens. -/
def Hook.equals (h hook : Hook F Obj) : Bool :=
  h.key == hook.key && h.name == hook.name && h.endpoints == hook.endpoints &&
    h.metas == hook.metas && h.message == hook.message

/-- A hook object in memory, with the flags `Open` and `Close` set and the number of manager
tasks started. -/
structure HookCell (F Obj : Type) where
  hook : Hook F Obj
  opened : Bool
  closed : Bool
  managers : Nat

/-- `Hook.Open`: the first call marks the hook opened and starts its manager. -/
def HookCell.open (c : HookCell F Obj) : HookCell F Obj :=
  if c.opened then c else { c with opened := true, managers := c.managers + 1 }

/-- `Hook.Close`. -/
def HookCell.close (c : HookCell F Obj) : HookCell F Obj :=
  if c.closed then c else { c with closed := true }

/-- The controller's hook state: hook objects by address (`next` is the first free one),
`hooks`, `hookcols`, and the scripting states returned to the pool, in order. -/
structure HookState (F Obj : Type) where
  heap : Nat → Option (HookCell F Obj)
  next : Nat
  hooks : AList (fun _ : String => Nat)
  hookcols : AList (fun _ : String => AList (fun _ : String => Nat))
  released : List Nat

/-- A controller without hooks. -/
def HookState.empty : HookState F Obj := ⟨fun _ => none, 0, ∅, ∅, []⟩

/-- The removal of the hook at `p` that `cmdSetHook`, `cmdDelHook` and `cmdPDelHook` share:
close it, drop its name from its key's map and from `hooks`. -/
def HookState.remove (st : HookState F Obj) (p : Nat) : HookState F Obj :=
  match st.heap p with
  | none => st
  | some c =>
    { st with
      heap := Function.update st.heap p (some c.close)
      hookcols := match st.hookcols.lookup c.hook.key with
        | some hm => st.hookcols.insert c.hook.key (hm.erase c.hook.name)
        | none => st.hookcols
      hooks := st.hooks.erase c.hook.name }

/-- The tail of `cmdSetHook` that stores a new hook: under its name in `hooks` and in its key's
map, created if missing, then `Open`. -/
def HookState.register (st : HookState F Obj) (hook : Hook F Obj) : HookState F Obj :=
  { st with
    heap := Function.update st.heap st.next (some (HookCell.mk hook false false 0).open)
    next := st.next + 1
    hooks := st.hooks.insert hook.name st.next
    hookcols := st.hookcols.insert hook.key
      (((st.hookcols.lookup hook.key).getD ∅).insert hook.name st.next) }

/-- The registry step of `cmdSetHook` for a parsed hook: an equal hook of the same name is
kept and only signalled, another one is replaced. The flag is `d.updated`. -/
def HookState.setHook (st : HookState F Obj) (hook : Hook F Obj) : Bool × HookState F Obj :=
  match st.hooks.lookup hook.name with
  | some p =>
    match st.heap p with
    | some c => if c.hook.equals hook then (false, st) else (true, (st.remove p).register hook)
    | none => (true, (st.remove p).register hook)
  | none => (true, st.register hook)

/-- The registry step of `cmdDelHook`. -/
def HookState.delHook (st : HookState F Obj) (name : String) : Bool × HookState F Obj :=
  match st.hooks.lookup name with
  | some p => (true, st.remove p)
  | none => (false, st)

/-- The order in which a Go range loop visits a map's keys: some permutation of them, which
may differ from one loop to the next. -/
structure RangeOrder where
  visit : List String → List String
  perm : ∀ l, (visit l).Perm l

/-- The range order that visits the keys as they are listed. -/
def RangeOrder.listed : RangeOrder := ⟨id, List.Perm.refl⟩

/-- One name of the loop of `cmdPDelHook`: the count of removed hooks and the state. -/
def pdelHookStep (isMatch : String → Bool) (acc : Nat × HookState F Obj) (name : String) :
    Nat × HookState F Obj :=
  if isMatch name then
    match acc.2.hooks.lookup name with
    | some p => (acc.1 + 1, acc.2.remove p)
    | none => acc
  else acc

/-- The registry step of `cmdPDelHook`: the loop over the names of `hooks`, in the order the
range visits them. -/
def HookState.pdelHook (st : HookState F Obj) (isMatch : String → Bool) (order : RangeOrder) :
    Nat × HookState F Obj :=
  (order.visit st.hooks.keys).foldl (pdelHookStep isMatch) (0, st)

/-! ### Commands -/

/-- What a hook command reads besides its tokens: the endpoint manager's check, `cmdSearchArgs`
(the switches it parsed and its error), the glob package, the field map and field array
of a key's collection, and the order of the range loop over `c.hooks`. -/
structure HookEnv (F : Type) where
  validate : String → Bool
  searchArgs : String → List String → List String → LiveFenceSwitches F × Option String
  glob : Glob
  colFields : String → Option ((String → Option Nat) × List String)
  range : RangeOrder

/-- The loop of `cmdSetHook` over `META key value` groups up to the fence command: the
command's tokens (`commandvs`), its lower-cased verb, its search types, the tokens after the
verb, and the META map. -/
def parseHookCommand : List String → AList (fun _ : String => String) →
    Except String (List String × String × List String × List String ×
      AList (fun _ : String => String))
  | [], _ => .error errInvalidNumberOfArguments
  | cmd :: vs, metaMap =>
    if cmd = "" then .error errInvalidNumberOfArguments
    else
      match toLower cmd with
      | "meta" =>
        match vs with
        | key :: val :: vs =>
          if key = "" ∨ val = "" then .error errInvalidNumberOfArguments
          else parseHookCommand vs (metaMap.insert key val)
        | _ => .error errInvalidNumberOfArguments
      | "nearby" => .ok (cmd :: vs, "nearby", nearbyTypes, vs, metaMap)
      | "within" => .ok (cmd :: vs, "within", withinOrIntersectsTypes, vs, metaMap)
      | "intersects" => .ok (cmd :: vs, "intersects", withinOrIntersectsTypes, vs, metaMap)
      | _ => .error (errInvalidArgument cmd)

lemma parseHookCommand_cons (cmd : String) (vs : List String) (m : AList (fun _ : String => String)) :
    parseHookCommand (cmd :: vs) m =
      if cmd = "" then .error errInvalidNumberOfArguments
      else
        match toLower cmd with
        | "meta" =>
          match vs with
          | key :: val :: vs =>
            if key = "" ∨ val = "" then .error errInvalidNumberOfArguments
            else parseHookCommand vs (m.insert key val)
          | _ => .error errInvalidNumberOfArguments
        | "nearby" => .ok (cmd :: vs, "nearby", nearbyTypes, vs, m)
        | "within" => .ok (cmd :: vs, "within", withinOrIntersectsTypes, vs, m)
        | "intersects" => .ok (cmd :: vs, "intersects", withinOrIntersectsTypes, vs, m)
        | _ => .error (errInvalidArgument cmd) := by
  match vs with
  | key :: val :: vs => exact parseHookCommand.eq_2 m cmd key val vs
  | [] => exact parseHookCommand.eq_3 m cmd [] (fun _ _ _ h => nomatch h)
  | [a] => exact parseHookCommand.eq_3 m cmd [a] (fun _ _ _ h => nomatch h)

/-- The metas of `cmdSetHook`: the pairs of the META map sorted by name. Names are unique, so
every sort gives this order. Go compares strings byte by byte, which on UTF-8 is the order of
their characters. -/
def sortedMetas (metaMap : AList (fun _ : String => String)) : List FenceMeta :=
  (metaMap.entries.map fun e => (⟨e.1, e.2⟩ : FenceMeta)).insertionSort
    fun a b => a.name.toList ≤ b.name.toList

/-- `cmdSetHook` on the tokens of the message: the reply or the error, and the state. The
deferred `s.Close()` returns the fence's scripting states to the pool on every path after
`cmdSearchArgs`, the successful one included. -/
def cmdSetHook (env : HookEnv F) (st : HookState F Obj) (values : List String)
    (out : OutputType) : Except String HookReply × HookState F Obj :=
  match values.drop 1 with
  | name :: urls :: vs =>
    if name = "" ∨ urls = "" then (.error errInvalidNumberOfArguments, st)
    else
      let endpoints := (splitComma urls).map trimSpace
      match endpoints.find? (fun url => !env.validate url) with
      | some url => (.error (errInvalidArgument url), st)
      | none =>
        match parseHookCommand vs ∅ with
        | .error e => (.error e, st)
        | .ok (commandvs, cmdlc, types, rest, metaMap) =>
          let (s, err) := env.searchArgs cmdlc rest types
          let st := { st with released := st.released ++ s.whereevals.map (·.state) }
          match err with
          | some e => (.error e, st)
          | none =>
            if !s.fence then (.error "missing FENCE argument", st)
            else
              match newScanWriter env.glob (env.colFields s.key) s.output s.precision s.glob
                  false s.cursor s.limit s.wheres s.whereins s.whereevals s.nofields with
              | .error e => (.error e, st)
              | .ok sw =>
                let r := st.setHook ⟨s.key, name, endpoints, commandvs, sortedMetas metaMap, s, sw⟩
                (.ok (.of out (if r.1 then 1 else 0)), r.2)
  | _ => (.error errInvalidNumberOfArguments, st)

/-- `cmdDelHook`. -/
def cmdDelHook (st : HookState F Obj) (values : List String) (out : OutputType) :
    Except String HookReply × HookState F Obj :=
  match values.drop 1 with
  | [name] =>
    if name = "" then (.error errInvalidNumberOfArguments, st)
    else
      let r := st.delHook name
      (.ok (.of out (if r.1 then 1 else 0)), r.2)
  | _ => (.error errInvalidNumberOfArguments, st)

/-- `cmdPDelHook`. -/
def cmdPDelHook (glob : Glob) (order : RangeOrder) (st : HookState F Obj) (values : List String)
    (out : OutputType) : Except String HookReply × HookState F Obj :=
  match values.drop 1 with
  | [pattern] =>
    if pattern = "" then (.error errInvalidNumberOfArguments, st)
    else
      let r := st.pdelHook (glob.isMatch pattern) order
      (.ok (.of out r.1), r.2)
  | _ => (.error errInvalidNumberOfArguments, st)

/-- A hook command with what it reads: its environment, its tokens and its output type. -/
structure HookInput (F : Type) where
  env : HookEnv F
  values : List String
  out : OutputType

/-- One command: the verb picks the handler; other verbs leave the registry alone. -/
def HookState.step (st : HookState F Obj) (i : HookInput F) : HookState F Obj :=
  match toLower (i.values.headD "") with
  | "sethook" => (cmdSetHook i.env st i.values i.out).2
  | "delhook" => (cmdDelHook st i.values i.out).2
  | "pdelhook" => (cmdPDelHook i.env.glob i.env.range st i.values i.out).2
  | _ => st

/-- A run of commands. -/
def HookState.run (st : HookState F Obj) : List (HookInput F) → HookState F Obj
  | [] => st
  | i :: is => (st.step i).run is

/-- The handlers `Controller.command` runs for the three hook verbs. -/
def hookHandler (env : HookEnv F) (st : HookState F Obj) (values : List String)
    (out : OutputType) : Handler → Option (Except String HookReply × HookState F Obj)
  | .cmdSetHook => some (cmdSetHook env st values out)
  | .cmdDelHook => some (cmdDelHook st values out)
  | .cmdPDelHook => some (cmdPDelHook env.glob env.range st values out)
  | _ => none

/-! ### The registry invariant -/

omit [Zero F] in
@[simp] lemma HookCell.close_hook (c : HookCell F Obj) : c.close.hook = c.hook := by
  unfold HookCell.close; split_ifs <;> rfl

omit [Zero F] in
@[simp] lemma HookCell.close_closed (c : HookCell F Obj) : c.close.closed = true := by
  unfold HookCell.close; split_ifs with h <;> simp [h]

/-- The representation invariant of the registry: a name maps to a hook of that name, filed
under that name in its key's map of `hookcols`, opened once and not closed; `hookcols` files
nothing else; a hook object that no name maps to is closed; addresses from `next` on are
free. -/
structure HookState.WF (st : HookState F Obj) : Prop where
  registered : ∀ n p, st.hooks.lookup n = some p → ∃ c, st.heap p = some c ∧ c.hook.name = n ∧
    (st.hookcols.lookup c.hook.key).bind (AList.lookup n) = some p ∧
    c.opened = true ∧ c.closed = false ∧ c.managers = 1
  filed : ∀ k hm n p, st.hookcols.lookup k = some hm → hm.lookup n = some p →
    st.hooks.lookup n = some p ∧ ∃ c, st.heap p = some c ∧ c.hook.key = k
  unregistered : ∀ p c, st.heap p = some c → (∀ n, st.hooks.lookup n ≠ some p) → c.closed = true
  free : ∀ p, st.next ≤ p → st.heap p = none

namespace HookState.WF

variable {st : HookState F Obj}

omit [Zero F] in
theorem empty : (HookState.empty : HookState F Obj).WF :=
  ⟨fun _ _ h => (nomatch h), fun _ _ _ _ h => (nomatch h), fun _ _ h => (nomatch h),
    fun _ _ => rfl⟩

omit [Zero F] in
/-- The pool of scripting states is not part of the registry. -/
theorem released (hw : st.WF) (r : List Nat) : ({ st with released := r } : HookState F Obj).WF :=
  ⟨hw.1, hw.2, hw.3, hw.4⟩

omit [Zero F] in
lemma lt_next (hw : st.WF) {p : Nat} {c : HookCell F Obj} (hc : st.heap p = some c) :
    p < st.next :=
  Nat.lt_of_not_le fun h => by rw [hw.free p h] at hc; cases hc

omit [Zero F] in
lemma name_eq (hw : st.WF) {n n' : String} {p : Nat} (h : st.hooks.lookup n = some p)
    (h' : st.hooks.lookup n' = some p) : n' = n := by
  obtain ⟨c, hc, hname, -⟩ := hw.registered n p h
  obtain ⟨c', hc', hname', -⟩ := hw.registered n' p h'
  rw [hc] at hc'; cases hc'
  exact hname'.symm.trans hname

end HookState.WF

section Remove

variable {st : HookState F Obj} {p : Nat} {c : HookCell F Obj} (hc : st.heap p = some c)
include hc

omit [Zero F] in
lemma HookState.remove_heap :
    (st.remove p).heap = Function.update st.heap p (some c.close) := by
  simp [HookState.remove, hc]

omit [Zero F] in
lemma HookState.remove_hooks : (st.remove p).hooks = st.hooks.erase c.hook.name := by
  simp [HookState.remove, hc]

omit [Zero F] in
lemma HookState.remove_next : (st.remove p).next = st.next := by
  simp [HookState.remove, hc]

omit [Zero F] in
lemma HookState.remove_hookcols {hm : AList (fun _ : String => Nat)}
    (hhm : st.hookcols.lookup c.hook.key = some hm) :
    (st.remove p).hookcols = st.hookcols.insert c.hook.key (hm.erase c.hook.name) := by
  simp [HookState.remove, hc, hhm]

end Remove

omit [Zero F] in
/-- Removing a registered hook drops exactly its name and keeps the invariant. -/
theorem HookState.WF.remove {st : HookState F Obj} (hw : st.WF) {n : String} {p : Nat}
    (hn : st.hooks.lookup n = some p) :
    (st.remove p).WF ∧ (st.remove p).hooks = st.hooks.erase n := by
  obtain ⟨c, hc, hname, hcol, -⟩ := hw.registered n p hn
  obtain ⟨hm, hhm, hmn⟩ := Option.bind_eq_some.1 hcol
  have hheap := HookState.remove_heap hc
  have hhooks : (st.remove p).hooks = st.hooks.erase n := hname ▸ HookState.remove_hooks hc
  have hcols : (st.remove p).hookcols = st.hookcols.insert c.hook.key (hm.erase n) :=
    hname ▸ HookState.remove_hookcols hc hhm
  have hne : ∀ n' p', st.hooks.lookup n' = some p' → n' ≠ n → p' ≠ p := fun n' p' h' hn' e =>
    hn' (hw.name_eq hn (e ▸ h'))
  refine ⟨⟨fun n' p' h' => ?_, fun k hm' n' p' hk hn' => ?_, fun q c' hq hnone => ?_,
    fun q hq => ?_⟩, hhooks⟩ <;>
    simp only [hheap, hhooks, hcols, HookState.remove_next hc] at *
  · have hn' : n' ≠ n := by rintro rfl; simp at h'
    rw [AList.lookup_erase_ne hn'] at h'
    obtain ⟨c', hc', hname', hcol', rest⟩ := hw.registered n' p' h'
    refine ⟨c', by rw [Function.update_noteq (hne n' p' h' hn')]; exact hc', hname', ?_, rest⟩
    by_cases hk : c'.hook.key = c.hook.key
    · rw [hk, hhm, Option.some_bind] at hcol'
      rw [hk, AList.lookup_insert, Option.some_bind, AList.lookup_erase_ne hn']
      exact hcol'
    · rwa [AList.lookup_insert_ne hk]
  · by_cases hkc : k = c.hook.key
    · subst hkc
      rw [AList.lookup_insert, Option.some.injEq] at hk
      subst hk
      have hn'n : n' ≠ n := by rintro rfl; simp at hn'
      rw [AList.lookup_erase_ne hn'n] at hn'
      obtain ⟨h1, c', h2, h3⟩ := hw.filed _ hm n' p' hhm hn'
      exact ⟨by rwa [AList.lookup_erase_ne hn'n], c',
        by rw [Function.update_noteq (hne n' p' h1 hn'n)]; exact h2, h3⟩
    · rw [AList.lookup_insert_ne hkc] at hk
      obtain ⟨h1, c', h2, h3⟩ := hw.filed k hm' n' p' hk hn'
      have hn'n : n' ≠ n := by
        rintro rfl
        rw [hn, Option.some.injEq] at h1
        subst h1
        rw [hc, Option.some.injEq] at h2
        exact hkc (h2 ▸ h3).symm
      exact ⟨by rwa [AList.lookup_erase_ne hn'n], c',
        by rw [Function.update_noteq (hne n' p' h1 hn'n)]; exact h2, h3⟩
  · by_cases hqp : q = p
    · subst hqp
      rw [Function.update_same, Option.some.injEq] at hq
      exact hq ▸ c.close_closed
    · rw [Function.update_noteq hqp] at hq
      refine hw.unregistered q c' hq fun n' hn' => ?_
      have hn'n : n' ≠ n := by rintro rfl; rw [hn] at hn'; exact hqp (Option.some.inj hn').symm
      exact hnone n' (by rwa [AList.lookup_erase_ne hn'n])
  · have hqp : q ≠ p := by rintro rfl; rw [hw.free q hq] at hc; cases hc
    rw [Function.update_noteq hqp]
    exact hw.free q hq

omit [Zero F] in
@[simp] lemma HookCell.open_hook (c : HookCell F Obj) : c.open.hook = c.hook := by
  unfold HookCell.open; split_ifs <;> rfl

omit [Zero F] in
/-- Storing a hook under a free name keeps the invariant. -/
theorem HookState.WF.register {st : HookState F Obj} (hw : st.WF) (hook : Hook F Obj)
    (hn : st.hooks.lookup hook.name = none) : (st.register hook).WF := by
  have hheap : (st.register hook).heap =
      Function.update st.heap st.next (some (HookCell.mk hook false false 0).open) := rfl
  have hhooks : (st.register hook).hooks = st.hooks.insert hook.name st.next := rfl
  have hcols : (st.register hook).hookcols = st.hookcols.insert hook.key
      (((st.hookcols.lookup hook.key).getD ∅).insert hook.name st.next) := rfl
  have hnext : (st.register hook).next = st.next + 1 := rfl
  have hnn : ∀ n' p', st.hooks.lookup n' = some p' → n' ≠ hook.name := fun n' p' h e => by
    rw [e, hn] at h; cases h
  refine ⟨fun n' p' h' => ?_, fun k hm' n' p' hk hn' => ?_, fun q c' hq hnone => ?_,
    fun q hq => ?_⟩ <;> simp only [hheap, hhooks, hcols, hnext] at *
  · by_cases he : n' = hook.name
    · subst he
      rw [AList.lookup_insert, Option.some.injEq] at h'
      subst h'
      refine ⟨_, Function.update_same _ _ _, rfl, ?_, by simp [HookCell.open]⟩
      rw [HookCell.open_hook]
      simp
    · rw [AList.lookup_insert_ne he] at h'
      obtain ⟨c', hc', hname', hcol', rest⟩ := hw.registered n' p' h'
      refine ⟨c', by rw [Function.update_noteq (hw.lt_next hc').ne]; exact hc', hname', ?_, rest⟩
      by_cases hk : c'.hook.key = hook.key
      · obtain ⟨hm, hhm, hmn⟩ := Option.bind_eq_some.1 hcol'
        rw [hk] at hhm
        rw [hk, AList.lookup_insert, Option.some_bind, AList.lookup_insert_ne he, hhm]
        exact hmn
      · rwa [AList.lookup_insert_ne hk]
  · by_cases hkk : k = hook.key
    · subst hkk
      rw [AList.lookup_insert, Option.some.injEq] at hk
      subst hk
      by_cases he : n' = hook.name
      · subst he
        rw [AList.lookup_insert, Option.some.injEq] at hn'
        subst hn'
        exact ⟨AList.lookup_insert _, _, Function.update_same _ _ _, rfl⟩
      · rw [AList.lookup_insert_ne he] at hn'
        cases hl : st.hookcols.lookup hook.key with
        | none => rw [hl] at hn'; cases hn'
        | some hm =>
          rw [hl, Option.getD_some] at hn'
          obtain ⟨h1, c', h2, h3⟩ := hw.filed _ hm n' p' hl hn'
          exact ⟨by rwa [AList.lookup_insert_ne he], c',
            by rw [Function.update_noteq (hw.lt_next h2).ne]; exact h2, h3⟩
    · rw [AList.lookup_insert_ne hkk] at hk
      obtain ⟨h1, c', h2, h3⟩ := hw.filed k hm' n' p' hk hn'
      exact ⟨by rwa [AList.lookup_insert_ne (hnn n' p' h1)], c',
        by rw [Function.update_noteq (hw.lt_next h2).ne]; exact h2, h3⟩
  · have hq' : q ≠ st.next := by
      rintro rfl
      exact hnone hook.name (AList.lookup_insert _)
    rw [Function.update_noteq hq'] at hq
    refine hw.unregistered q c' hq fun n' hn' => hnone n' ?_
    rwa [AList.lookup_insert_ne (hnn n' q hn')]
  · rw [Function.update_noteq (by omega)]
    exact hw.free q (by omega)

/-! ### Commands keep the invariant -/

namespace HookState.WF

variable {st : HookState F Obj}

omit [Zero F] in
theorem setHook (hw : st.WF) (hook : Hook F Obj) : (st.setHook hook).2.WF := by
  unfold HookState.setHook
  cases hl : st.hooks.lookup hook.name with
  | none => exact hw.register hook hl
  | some p =>
    obtain ⟨c, hc, -⟩ := hw.registered _ p hl
    obtain ⟨hwr, hrh⟩ := hw.remove hl
    have hfree : (st.remove p).hooks.lookup hook.name = none := by
      rw [hrh]; exact AList.lookup_erase _ _
    simp only [hc]
    split_ifs
    · exact hw
    · exact hwr.register hook hfree

omit [Zero F] in
theorem delHook (hw : st.WF) (name : String) : (st.delHook name).2.WF := by
  unfold HookState.delHook
  cases hl : st.hooks.lookup name with
  | none => exact hw
  | some p => exact (hw.remove hl).1

omit [Zero F] in
lemma pdelHookStep_spec (isMatch : String → Bool) {acc : Nat × HookState F Obj}
    (hw : acc.2.WF) (a : String) :
    (pdelHookStep isMatch acc a).2.WF ∧
      (pdelHookStep isMatch acc a).1 =
        acc.1 + (if isMatch a && (acc.2.hooks.lookup a).isSome then 1 else 0) ∧
      ∀ n, (pdelHookStep isMatch acc a).2.hooks.lookup n =
        if n = a ∧ isMatch a = true then none else acc.2.hooks.lookup n := by
  unfold pdelHookStep
  cases hm : isMatch a
  · simpa using hw
  · cases hl : acc.2.hooks.lookup a with
    | none =>
      refine ⟨hw, by simp, fun n => ?_⟩
      by_cases hn : n = a
      · subst hn; simp [hl]
      · simp [hn]
    | some p =>
      obtain ⟨hwr, hrh⟩ := hw.remove hl
      refine ⟨hwr, by simp, fun n => ?_⟩
      by_cases hn : n = a
      · subst hn; simp [hrh]
      · simp [hn, hrh, AList.lookup_erase_ne hn]

omit [Zero F] in
lemma pdelHook_foldl (isMatch : String → Bool) : ∀ (l : List String) (acc : Nat × HookState F Obj),
    acc.2.WF → l.Nodup →
      (l.foldl (pdelHookStep isMatch) acc).2.WF ∧
      (l.foldl (pdelHookStep isMatch) acc).1 =
        acc.1 + (l.filter fun n => isMatch n && (acc.2.hooks.lookup n).isSome).length ∧
      ∀ n, (l.foldl (pdelHookStep isMatch) acc).2.hooks.lookup n =
        if n ∈ l ∧ isMatch n = true then none else acc.2.hooks.lookup n := by
  intro l
  induction l with
  | nil => intro acc hw _; exact ⟨hw, by simp, by simp⟩
  | cons a l ih =>
    intro acc hw hnd
    obtain ⟨ha, hl⟩ := List.nodup_cons.1 hnd
    obtain ⟨w1, c1, k1⟩ := pdelHookStep_spec isMatch hw a
    obtain ⟨w2, c2, k2⟩ := ih _ w1 hl
    have hsame : ∀ n ∈ l, (pdelHookStep isMatch acc a).2.hooks.lookup n = acc.2.hooks.lookup n :=
      fun n hn => by rw [k1, if_neg fun h : n = a ∧ isMatch a = true => ha (h.1 ▸ hn)]
    refine ⟨w2, ?_, fun n => ?_⟩
    · rw [List.foldl_cons, c2, c1, List.filter_congr fun n hn => by rw [hsame n hn],
        List.filter_cons]
      split_ifs
      · rw [List.length_cons]; omega
      · rw [Nat.add_zero]
    · rw [List.foldl_cons, k2, k1]
      by_cases hn : n = a
      · subst hn; simp [ha]
      · simp [hn]

omit [Zero F] in
/-- PDELHOOK removes exactly the hooks whose names match, and counts them, in whatever order
the range visits the names. -/
theorem pdelHook (hw : st.WF) (isMatch : String → Bool) (order : RangeOrder) :
    (st.pdelHook isMatch order).2.WF ∧
      (st.pdelHook isMatch order).1 = (st.hooks.keys.filter isMatch).length ∧
      ∀ n, (st.pdelHook isMatch order).2.hooks.lookup n =
        if isMatch n then none else st.hooks.lookup n := by
  have hp := order.perm st.hooks.keys
  obtain ⟨w, c, k⟩ := pdelHook_foldl isMatch _ (0, st) hw (hp.nodup_iff.2 st.hooks.keys_nodup)
  refine ⟨w, ?_, fun n => ?_⟩
  · rw [HookState.pdelHook, c, Nat.zero_add, (hp.filter _).length_eq]
    congr 1
    refine List.filter_congr fun n hn => ?_
    simp [AList.lookup_isSome.2 (AList.mem_keys.2 hn)]
  · rw [HookState.pdelHook, k]
    simp only [hp.mem_iff]
    by_cases hk : n ∈ st.hooks.keys
    · simp [hk]
    · have : st.hooks.lookup n = none := AList.lookup_eq_none.2 fun h => hk (AList.mem_keys.1 h)
      simp [hk, this]

theorem cmdSetHook (env : HookEnv F) (hw : st.WF) (values : List String) (out : OutputType) :
    (Tile38.cmdSetHook env st values out).2.WF := by
  unfold Tile38.cmdSetHook
  dsimp only
  repeat' split
  all_goals first | exact hw | exact hw.released _ | exact (hw.released _).setHook _

omit [Zero F] in
theorem cmdDelHook (hw : st.WF) (values : List String) (out : OutputType) :
    (Tile38.cmdDelHook st values out).2.WF := by
  unfold Tile38.cmdDelHook
  repeat' split
  all_goals first | exact hw | exact hw.delHook _

omit [Zero F] in
/-- PDELHOOK answers the number of hooks whose names match and removes exactly those. -/
theorem cmdPDelHook (hw : st.WF) (glob : Glob) (order : RangeOrder) (pattern : String)
    (out : OutputType) :
    (Tile38.cmdPDelHook glob order st ["PDELHOOK", pattern] out).2.WF ∧
      (Tile38.cmdPDelHook glob order st ["PDELHOOK", pattern] out).1 =
        (if pattern = "" then .error errInvalidNumberOfArguments
          else .ok (.of out (st.hooks.keys.filter (glob.isMatch pattern)).length)) ∧
      ∀ n, (Tile38.cmdPDelHook glob order st ["PDELHOOK", pattern] out).2.hooks.lookup n =
        if pattern ≠ "" ∧ glob.isMatch pattern n then none else st.hooks.lookup n := by
  obtain ⟨w, c, k⟩ := hw.pdelHook (glob.isMatch pattern) order
  by_cases hp : pattern = ""
  · simp [Tile38.cmdPDelHook, hp, hw]
  · simp only [Tile38.cmdPDelHook, List.drop_one, List.tail_cons, hp, if_false, ne_eq,
      not_false_eq_true, true_and]
    exact ⟨w, by rw [c], k⟩

theorem step (hw : st.WF) (i : HookInput F) : (st.step i).WF := by
  unfold HookState.step
  split
  · exact hw.cmdSetHook _ _ _
  · exact hw.cmdDelHook _ _
  · unfold Tile38.cmdPDelHook
    repeat' split
    all_goals first | exact hw | exact (hw.pdelHook _ _).1
  · exact hw

theorem run (hw : st.WF) : ∀ is : List (HookInput F), (st.run is).WF := by
  intro is
  induction is generalizing st with
  | nil => exact hw
  | cons i is ih => exact ih (hw.step i)

end HookState.WF

/-- From an empty registry, every run of SETHOOK, DELHOOK and PDELHOOK commands reaches a
state where a name maps to a hook of that name filed under its key, `hookcols` files nothing
else, every registered hook has been opened once and is not closed, and every hook that has
been replaced or removed is closed; a PDELHOOK from that state, whatever order its range loop
visits the names in, removes exactly the matching names and its reply counts them. -/
theorem hook_registry_invariant (inputs : List (HookInput F)) (glob : Glob) (order : RangeOrder)
    (pattern : String) (out : OutputType) :
    ((HookState.empty : HookState F Obj).run inputs).WF ∧
      (cmdPDelHook glob order ((HookState.empty : HookState F Obj).run inputs)
          ["PDELHOOK", pattern] out).1 =
        (if pattern = "" then .error errInvalidNumberOfArguments
          else .ok (.of out ((((HookState.empty : HookState F Obj).run inputs).hooks.keys.filter
            (glob.isMatch pattern)).length))) ∧
      ∀ n, (cmdPDelHook glob order ((HookState.empty : HookState F Obj).run inputs)
          ["PDELHOOK", pattern] out).2.hooks.lookup n =
        if pattern ≠ "" ∧ glob.isMatch pattern n then none
        else ((HookState.empty : HookState F Obj).run inputs).hooks.lookup n := by
  have hw : ((HookState.empty : HookState F Obj).run inputs).WF := HookState.WF.empty.run inputs
  exact ⟨hw, (hw.cmdPDelHook glob order pattern out).2⟩

/-! ### Fence evaluators -/

omit [Zero F] in
lemma HookState.remove_released (st : HookState F Obj) (p : Nat) :
    (st.remove p).released = st.released := by
  unfold HookState.remove; split <;> rfl

omit [Zero F] in
lemma HookState.setHook_stores {st : HookState F Obj} {hook : Hook F Obj}
    (h : (st.setHook hook).1 = true) :
    ∃ p c, (st.setHook hook).2.hooks.lookup hook.name = some p ∧
      (st.setHook hook).2.heap p = some c ∧ c.hook = hook ∧
      (st.setHook hook).2.released = st.released := by
  have hreg : ∀ st' : HookState F Obj, ∃ p c, (st'.register hook).hooks.lookup hook.name = some p ∧
      (st'.register hook).heap p = some c ∧ c.hook = hook ∧
      (st'.register hook).released = st'.released :=
    fun st' => ⟨st'.next, _, AList.lookup_insert _, Function.update_same _ _ _, by simp, rfl⟩
  unfold HookState.setHook at h ⊢
  cases hl : st.hooks.lookup hook.name with
  | none => exact hreg st
  | some p =>
    obtain ⟨q, c', h1, h2, h3, h4⟩ := hreg (st.remove p)
    have hrem : ∃ q c, ((st.remove p).register hook).hooks.lookup hook.name = some q ∧
        ((st.remove p).register hook).heap q = some c ∧ c.hook = hook ∧
        ((st.remove p).register hook).released = st.released :=
      ⟨q, c', h1, h2, h3, h4.trans (HookState.remove_released _ _)⟩
    rw [hl] at h
    dsimp only at h ⊢
    cases hc : st.heap p with
    | none => simpa only [hc] using hrem
    | some c =>
      simp only [hc] at h ⊢
      split_ifs at h ⊢
      exact hrem

/-- When SETHOOK stores a hook, the scripting states of its fence's `WHEREEVAL` clauses are
already back in the pool: the deferred `s.Close()` runs on the successful path too. -/
theorem cmdSetHook_releases_fence (env : HookEnv F) (st : HookState F Obj) (values : List String)
    (h : (cmdSetHook env st values .resp).1 = .ok (.integer 1)) :
    ∃ name p c, (cmdSetHook env st values .resp).2.hooks.lookup name = some p ∧
      (cmdSetHook env st values .resp).2.heap p = some c ∧
      ∀ e ∈ c.hook.fence.whereevals, e.state ∈ (cmdSetHook env st values .resp).2.released := by
  generalize hR : cmdSetHook env st values .resp = R at h ⊢
  unfold cmdSetHook at hR
  dsimp only at hR
  repeat' split at hR
  all_goals subst hR
  all_goals cases h
  obtain ⟨p, c, h1, h2, h3, h4⟩ := HookState.setHook_stores (by assumption)
  refine ⟨_, p, c, h1, h2, fun e he => ?_⟩
  rw [h3] at he
  rw [h4]
  exact List.mem_append_right _ (List.mem_map_of_mem _ he)

/-- The fence the parser returns for `NEARBY fleet WHEREEVAL "return true" 0 FENCE POINT 33
-115 5000`: one `WHEREEVAL` clause, held by scripting state 7. -/
def evalFence : LiveFenceSwitches Int :=
  ⟨⟨"fleet", 0, 0, .ids, 0, "*", [], [], [⟨7, fun _ => true, fun _ => none⟩], false, false, true, false⟩, false⟩

/-- Every endpoint is valid and the parser returns `evalFence`. -/
def evalHookEnv : HookEnv Int := ⟨fun _ => true, fun _ _ _ => (evalFence, none), anyGlob, fun _ => none,
  .listed⟩

def sethookWithEval : List String :=
  ["SETHOOK", "warehouse", "http://10.0.0.1/hook", "NEARBY", "fleet", "WHEREEVAL", "return true",
    "0", "FENCE", "POINT", "33", "-115", "5000"]

/-- SETHOOK stores the hook `warehouse` at address 0, whose fence holds scripting state 7, and
state 7 is already back in the pool. -/
theorem sethook_fence_evaluator_released :
    (cmdSetHook evalHookEnv (HookState.empty : HookState Int Unit) sethookWithEval .resp).1 =
        .ok (.integer 1) ∧
      (cmdSetHook evalHookEnv (HookState.empty : HookState Int Unit) sethookWithEval
        .resp).2.hooks.lookup "warehouse" = some 0 ∧
      ((cmdSetHook evalHookEnv (HookState.empty : HookState Int Unit) sethookWithEval .resp).2.heap
        0).map (fun c => c.hook.fence.whereevals.map (·.state)) = some [7] ∧
      (cmdSetHook evalHookEnv (HookState.empty : HookState Int Unit) sethookWithEval
        .resp).2.released = [7] :=
  ⟨rfl, rfl, rfl, rfl⟩

/-! ### Shrink records of hooks -/

/-- The SETHOOK records `aofshrink` writes after the collections: for each hook name in
order, `sethook`, the name, the endpoints joined by commas, and the hook's command tokens. -/
def shrinkHookRecords (st : HookState F Obj) : List (List String) :=
  (st.hooks.keys.insertionSort fun a b => a.toList ≤ b.toList).filterMap fun name =>
    ((st.hooks.lookup name).bind st.heap).map fun c =>
      ["sethook", name, String.intercalate "," c.hook.endpoints] ++ c.hook.message

/-- Replaying records through `cmdSetHook`. -/
def replayHooks (env : HookEnv F) (st : HookState F Obj) (records : List (List String)) :
    HookState F Obj :=
  records.foldl (fun st vs => (cmdSetHook env st vs .resp).2) st

lemma parseHookCommand_reparse :
    ∀ (vs : List String) (m : AList (fun _ : String => String)) (cvs : List String)
      (lc : String) (ty rest : List String) (m0 m' : AList (fun _ : String => String)),
      parseHookCommand vs m = .ok (cvs, lc, ty, rest, m0) →
        parseHookCommand cvs m' = .ok (cvs, lc, ty, rest, m') := by
  intro vs m
  induction vs, m using parseHookCommand.induct with
  | case1 => intro _ _ _ _ _ _ h; rw [parseHookCommand.eq_1] at h; cases h
  | case2 => intro _ _ _ _ _ _ h; rw [parseHookCommand_cons, if_pos rfl] at h; cases h
  | case3 cmd m hc hl key val vs hkv =>
    intro _ _ _ _ _ _ h
    rw [parseHookCommand_cons, if_neg hc, hl] at h
    have h' : (if key = "" ∨ val = "" then .error errInvalidNumberOfArguments
        else parseHookCommand vs (m.insert key val)) = _ := h
    rw [if_pos hkv] at h'
    cases h'
  | case4 cmd m hc hl key val vs hkv ih =>
    intro cvs lc ty rest m0 m' h
    rw [parseHookCommand_cons, if_neg hc, hl] at h
    have h' : (if key = "" ∨ val = "" then .error errInvalidNumberOfArguments
        else parseHookCommand vs (m.insert key val)) = _ := h
    rw [if_neg hkv] at h'
    exact ih cvs lc ty rest m0 m' h'
  | case5 cmd vs m hc hl hvs =>
    intro _ _ _ _ _ _ h
    rw [parseHookCommand_cons, if_neg hc, hl] at h
    rcases vs with _ | ⟨a, _ | ⟨b, t⟩⟩
    · cases h
    · cases h
    · exact (hvs a b t rfl).elim
  | case6 cmd vs m hc hl | case7 cmd vs m hc hl | case8 cmd vs m hc hl =>
    intro cvs lc ty rest m0 m' h
    rw [parseHookCommand_cons, if_neg hc, hl] at h
    cases h
    rw [parseHookCommand_cons, if_neg hc, hl]
    rfl
  | case9 cmd vs m hc h1 h2 h3 h4 =>
    intro _ _ _ _ _ _ h
    rw [parseHookCommand_cons, if_neg hc] at h
    split at h
    · exact (h1 ‹_›).elim
    · exact (h2 ‹_›).elim
    · exact (h3 ‹_›).elim
    · exact (h4 ‹_›).elim
    · cases h

/-- SETHOOK on tokens that parse: the hook it builds goes through `setHook`, after the
fence's scripting states are back in the pool. -/
lemma cmdSetHook_of_parsed (env : HookEnv F) (st : HookState F Obj) (values : List String)
    (out : OutputType) {name urls : String} {vs commandvs : List String} {cmdlc : String}
    {types rest : List String} {metaMap : AList (fun _ : String => String)}
    {s : LiveFenceSwitches F} {sw : ScanWriter F Obj}
    (hv : values.drop 1 = name :: urls :: vs) (hn : ¬(name = "" ∨ urls = ""))
    (he : ((splitComma urls).map trimSpace).find? (fun url => !env.validate url) = none)
    (hp : parseHookCommand vs ∅ = .ok (commandvs, cmdlc, types, rest, metaMap))
    (hs : env.searchArgs cmdlc rest types = (s, none)) (hf : s.fence = true)
    (hw : newScanWriter env.glob (env.colFields s.key) s.output s.precision s.glob false
      s.cursor s.limit s.wheres s.whereins s.whereevals s.nofields = .ok sw) :
    cmdSetHook env st values out =
      (.ok (.of out (if ({ st with released := st.released ++ s.whereevals.map WhereEval.state }.setHook
          ⟨s.key, name, (splitComma urls).map trimSpace, commandvs, sortedMetas metaMap, s,
            sw⟩).1 then 1 else 0)),
        ({ st with released := st.released ++ s.whereevals.map WhereEval.state }.setHook
          ⟨s.key, name, (splitComma urls).map trimSpace, commandvs, sortedMetas metaMap, s,
            sw⟩).2) := by
  unfold cmdSetHook
  rw [hv]
  simp only [hn, if_false, he, hp, hs, hf, hw, Bool.not_true, Bool.false_eq_true]

lemma cmdSetHook_ok_inv {env : HookEnv F} {st : HookState F Obj} {values : List String}
    {out : OutputType} {r : HookReply} (h : (cmdSetHook env st values out).1 = .ok r) :
    ∃ name urls vs commandvs cmdlc types rest metaMap s sw,
      values.drop 1 = name :: urls :: vs ∧ ¬(name = "" ∨ urls = "") ∧
      ((splitComma urls).map trimSpace).find? (fun url => !env.validate url) = none ∧
      parseHookCommand vs ∅ = .ok (commandvs, cmdlc, types, rest, metaMap) ∧
      env.searchArgs cmdlc rest types = (s, none) ∧ s.fence = true ∧
      newScanWriter env.glob (env.colFields s.key) s.output s.precision s.glob false
        s.cursor s.limit s.wheres s.whereins s.whereevals s.nofields = .ok (sw : ScanWriter F Obj) := by
  generalize hR : cmdSetHook env st values out = R at h
  unfold cmdSetHook at hR
  dsimp only at hR
  split at hR
  · rename_i name urls vs hv
    split_ifs at hR with hn
    · subst hR; cases h
    split at hR
    · subst hR; cases h
    rename_i he
    split at hR
    · subst hR; cases h
    rename_i commandvs cmdlc types rest metaMap hp
    split at hR
    · subst hR; cases h
    rename_i hs
    split_ifs at hR with hf
    · subst hR; cases h
    split at hR
    · subst hR; cases h
    rename_i sw hw
    exact ⟨name, urls, vs, commandvs, cmdlc, types, rest, metaMap, _, sw, hv, hn, he, hp,
      Prod.ext rfl hs, by simpa using hf, hw⟩
  · subst hR; cases h

/-- The fence the parser returns for `NEARBY fleet FENCE POINT 33 -115 5000`. -/
def plainFence : LiveFenceSwitches Int :=
  ⟨⟨"fleet", 0, 0, .ids, 0, "*", [], [], [], false, false, true, false⟩, false⟩

def plainHookEnv : HookEnv Int :=
  ⟨fun _ => true, fun _ _ _ => (plainFence, none), anyGlob, fun _ => none, .listed⟩

/-- The registry after `SETHOOK warehouse http://10.0.0.1/hook META region west NEARBY fleet
FENCE POINT 33 -115 5000`. -/
def metaHookState : HookState Int Unit :=
  (cmdSetHook plainHookEnv HookState.empty
    ["SETHOOK", "warehouse", "http://10.0.0.1/hook", "META", "region", "west", "NEARBY", "fleet",
      "FENCE", "POINT", "33", "-115", "5000"] .resp).2

/-- The live hook carries the META pair, the shrink record of it does not, and the hook
replayed from the record has no metas. -/
theorem shrink_drops_hook_metas :
    (metaHookState.heap 0).map (·.hook.metas) = some [⟨"region", "west"⟩] ∧
      shrinkHookRecords metaHookState =
        [["sethook", "warehouse", "http://10.0.0.1/hook", "NEARBY", "fleet", "FENCE", "POINT", "33",
          "-115", "5000"]] ∧
      ((replayHooks plainHookEnv (HookState.empty : HookState Int Unit)
        (shrinkHookRecords metaHookState)).heap 0).map
        (·.hook.metas) = some [] :=
  ⟨rfl, rfl, rfl⟩

/-! ### Failed commands -/

lemma errInvalidArgument_ne_goingLive (x : String) : errInvalidArgument x ≠ "going live" := by
  intro h
  have := congrArg (fun s => s.toList.head?) h
  simp [errInvalidArgument] at this

lemma parseHookCommand_error :
    ∀ (vs : List String) (m : AList (fun _ : String => String)) (e : String),
      parseHookCommand vs m = .error e →
        e = errInvalidNumberOfArguments ∨ ∃ a, e = errInvalidArgument a := by
  intro vs m
  induction vs, m using parseHookCommand.induct with
  | case1 => intro e h; rw [parseHookCommand.eq_1] at h; cases h; exact .inl rfl
  | case2 => intro e h; rw [parseHookCommand_cons, if_pos rfl] at h; cases h; exact .inl rfl
  | case3 cmd m hc hl key val vs hkv =>
    intro e h
    rw [parseHookCommand_cons, if_neg hc, hl] at h
    have h' : (if key = "" ∨ val = "" then .error errInvalidNumberOfArguments
        else parseHookCommand vs (m.insert key val)) = _ := h
    rw [if_pos hkv] at h'
    cases h'
    exact .inl rfl
  | case4 cmd m hc hl key val vs hkv ih =>
    intro e h
    rw [parseHookCommand_cons, if_neg hc, hl] at h
    have h' : (if key = "" ∨ val = "" then .error errInvalidNumberOfArguments
        else parseHookCommand vs (m.insert key val)) = _ := h
    rw [if_neg hkv] at h'
    exact ih e h'
  | case5 cmd vs m hc hl hvs =>
    intro e h
    rw [parseHookCommand_cons, if_neg hc, hl] at h
    rcases vs with _ | ⟨a, _ | ⟨b, t⟩⟩
    · cases h; exact .inl rfl
    · cases h; exact .inl rfl
    · exact (hvs a b t rfl).elim
  | case6 cmd vs m hc hl | case7 cmd vs m hc hl | case8 cmd vs m hc hl =>
    intro e h
    rw [parseHookCommand_cons, if_neg hc, hl] at h
    cases h
  | case9 cmd vs m hc h1 h2 h3 h4 =>
    intro e h
    rw [parseHookCommand_cons, if_neg hc] at h
    split at h
    · exact (h1 ‹_›).elim
    · exact (h2 ‹_›).elim
    · exact (h3 ‹_›).elim
    · exact (h4 ‹_›).elim
    · cases h
      exact .inr ⟨cmd, rfl⟩

/-- A failed SETHOOK leaves the registry as it was: only the scripting states of a parsed
fence go back to the pool. Its error is never `going live` when the fence parser's never is. -/
lemma cmdSetHook_error {env : HookEnv F}
    (hlive : ∀ c vs ts, (env.searchArgs c vs ts).2 ≠ some "going live")
    {st : HookState F Obj} {values : List String} {out : OutputType} {e : String}
    (h : (cmdSetHook env st values out).1 = .error e) :
    (∃ rel, (cmdSetHook env st values out).2 = { st with released := st.released ++ rel }) ∧
      e ≠ "going live" := by
  have hst : st = { st with released := st.released ++ [] } := by rw [List.append_nil]
  generalize hR : cmdSetHook env st values out = R at h ⊢
  unfold cmdSetHook at hR
  dsimp only at hR
  split at hR
  · split_ifs at hR
    · subst hR; cases h; exact ⟨⟨[], hst⟩, by decide⟩
    split at hR
    · subst hR; cases h; exact ⟨⟨[], hst⟩, errInvalidArgument_ne_goingLive _⟩
    split at hR
    · rename_i e' hp
      subst hR; cases h
      refine ⟨⟨[], hst⟩, ?_⟩
      rcases parseHookCommand_error _ _ _ hp with rfl | ⟨a, rfl⟩
      · decide
      · exact errInvalidArgument_ne_goingLive a
    split at hR
    · rename_i e' he
      subst hR; cases h
      exact ⟨⟨_, rfl⟩, fun hg => hlive _ _ _ (hg ▸ he)⟩
    split_ifs at hR
    · subst hR; cases h; exact ⟨⟨_, rfl⟩, by decide⟩
    split at hR
    · rename_i e' hw
      subst hR; cases h
      exact ⟨⟨_, rfl⟩, by rw [newScanWriter_error hw]; decide⟩
    · subst hR; cases h
  · subst hR; cases h; exact ⟨⟨[], hst⟩, by decide⟩

omit [Zero F] in
lemma cmdDelHook_error {st : HookState F Obj} {values : List String} {out : OutputType}
    {e : String} (h : (cmdDelHook st values out).1 = .error e) :
    (cmdDelHook st values out).2 = st ∧ e = errInvalidNumberOfArguments := by
  generalize hR : cmdDelHook st values out = R at h ⊢
  unfold cmdDelHook at hR
  split at hR
  · split_ifs at hR
    · subst hR; cases h; exact ⟨rfl, rfl⟩
    · subst hR; cases h
  · subst hR; cases h; exact ⟨rfl, rfl⟩

omit [Zero F] in
lemma cmdPDelHook_error {glob : Glob} {order : RangeOrder} {st : HookState F Obj} {values : List String}
    {out : OutputType} {e : String} (h : (cmdPDelHook glob order st values out).1 = .error e) :
    (cmdPDelHook glob order st values out).2 = st ∧ e = errInvalidNumberOfArguments := by
  generalize hR : cmdPDelHook glob order st values out = R at h ⊢
  unfold cmdPDelHook at hR
  split at hR
  · split_ifs at hR
    · subst hR; cases h; exact ⟨rfl, rfl⟩
    · subst hR; cases h
  · subst hR; cases h; exact ⟨rfl, rfl⟩

/-- A failed hook command leaves the state as it was. When the handler of SETHOOK, DELHOOK
or PDELHOOK returns an error, `hooks`, `hookcols`, every hook object with its flags and
manager count, and the next address are unchanged; only the scripting states of a parsed fence
go back to the pool. The router writes the error back to the client, and nothing reaches
`writeAOF`. -/
theorem hook_error_leaves_state (env : HookEnv F)
    (hlive : ∀ c vs ts, (env.searchArgs c vs ts).2 ≠ some "going live")
    (st : HookState F Obj) (r : Router) (a : Bool) (msg : Message) (out : OutputType)
    (e : String) (st' : HookState F Obj)
    (h : hookHandler env st msg.values out (command (Verb.ofString msg.command)) =
      some (.error e, st')) :
    (∃ rel, st' = { st with released := st.released ++ rel }) ∧
      (handleInputCommand r a msg (.error e)).router = r ∧
      ((handleInputCommand r a msg (.error e)).invoked = true →
        (handleInputCommand r a msg (.error e)).reply = some (.error e)) := by
  have key : (∃ rel, st' = { st with released := st.released ++ rel }) ∧ e ≠ "going live" := by
    generalize command (Verb.ofString msg.command) = hd at h
    cases hd <;> simp only [hookHandler, Option.some.injEq, reduceCtorEq] at h
    · obtain ⟨h1, h2⟩ := cmdSetHook_error hlive (by rw [h])
      rw [h] at h1
      exact ⟨h1, h2⟩
    · obtain ⟨h1, rfl⟩ := cmdDelHook_error (by rw [h])
      rw [h] at h1
      exact ⟨⟨[], by rw [← h1, List.append_nil]⟩, by decide⟩
    · obtain ⟨h1, rfl⟩ := cmdPDelHook_error (by rw [h])
      rw [h] at h1
      exact ⟨⟨[], by rw [← h1, List.append_nil]⟩, by decide⟩
  exact ⟨key.1, handle_error r a msg key.2⟩

/-- SETHOOK of a hook `depot` whose command is a SCAN, which a hook cannot run, on a leader with
no password. -/
def sethookScan : Message :=
  ⟨"sethook", ["SETHOOK", "depot", "http://10.0.0.2/hook", "SCAN", "fleet"], "", .resp⟩

def plainRouter : Router := ⟨⟨"", "", false⟩, false, false, [], []⟩

theorem sethook_scan_leaves_state :
    (∀ c vs ts, (plainHookEnv.searchArgs c vs ts).2 ≠ some "going live") ∧
      hookHandler plainHookEnv metaHookState sethookScan.values .resp
          (command (Verb.ofString sethookScan.command)) =
        some (.error (errInvalidArgument "SCAN"), metaHookState) ∧
      (∃ rel, metaHookState = { metaHookState with released := metaHookState.released ++ rel }) ∧
      (handleInputCommand plainRouter true sethookScan (.error (errInvalidArgument "SCAN"))).router =
        plainRouter ∧
      ((handleInputCommand plainRouter true sethookScan
          (.error (errInvalidArgument "SCAN"))).invoked = true →
        (handleInputCommand plainRouter true sethookScan
          (.error (errInvalidArgument "SCAN"))).reply = some (.error (errInvalidArgument "SCAN"))) := by
  have hl : ∀ c vs ts, (plainHookEnv.searchArgs c vs ts).2 ≠ some "going live" :=
    fun _ _ _ h => by cases h
  have hh : hookHandler plainHookEnv metaHookState sethookScan.values .resp
      (command (Verb.ofString sethookScan.command)) =
      some (.error (errInvalidArgument "SCAN"), metaHookState) := rfl
  exact ⟨hl, hh, hook_error_leaves_state plainHookEnv hl metaHookState plainRouter true
    sethookScan .resp _ _ hh⟩

/-! ### Repeating a SETHOOK -/

/-- The tokens of `META key value` groups, each with its own spelling of `META`. -/
def metaTokens (groups : List (String × String × String)) : List String :=
  groups.flatMap fun g => [g.1, g.2.1, g.2.2]

/-- The META map the loop of `cmdSetHook` builds from groups, inserted in order. -/
def insertMetas (groups : List (String × String × String)) (m : AList (fun _ : String => String)) :
    AList (fun _ : String => String) :=
  groups.foldl (fun m g => m.insert g.2.1 g.2.2) m

lemma parseHookCommand_metaTokens (tail : List String) :
    ∀ (groups : List (String × String × String)) (m : AList (fun _ : String => String)),
      (∀ g ∈ groups, toLower g.1 = "meta") →
      parseHookCommand (metaTokens groups ++ tail) m =
        if ∀ g ∈ groups, g.2.1 ≠ "" ∧ g.2.2 ≠ "" then parseHookCommand tail (insertMetas groups m)
        else .error errInvalidNumberOfArguments
  | [], m, _ => by simp [metaTokens, insertMetas]
  | ⟨c, k, v⟩ :: gs, m, hm => by
    have hc : toLower c = "meta" := hm _ (.head _)
    have hc0 : c ≠ "" := by rintro rfl; exact absurd hc (by decide)
    have ih := parseHookCommand_metaTokens tail gs (m.insert k v) fun g hg => hm g (.tail _ hg)
    have hstep : parseHookCommand (metaTokens (⟨c, k, v⟩ :: gs) ++ tail) m =
        if k = "" ∨ v = "" then .error errInvalidNumberOfArguments
        else parseHookCommand (metaTokens gs ++ tail) (m.insert k v) := by
      rw [show metaTokens (⟨c, k, v⟩ :: gs) ++ tail = c :: k :: v :: (metaTokens gs ++ tail) from
        by simp [metaTokens], parseHookCommand_cons, if_neg hc0, hc]
      rfl
    rw [hstep, ih]
    simp only [List.forall_mem_cons, insertMetas, List.foldl_cons, ne_eq, ← not_or]
    by_cases hkv : k = "" ∨ v = "" <;> simp only [hkv, if_true, if_false, not_true,
      not_false_eq_true, false_and, true_and]

lemma parseHookCommand_of_not_meta {tail : List String} (htail : toLower (tail.headD "") ≠ "meta")
    {m m0 : AList (fun _ : String => String)} {cvs : List String} {lc : String}
    {ty rest : List String} (h : parseHookCommand tail m = .ok (cvs, lc, ty, rest, m0)) :
    cvs = tail ∧ m0 = m := by
  match tail, htail, h with
  | [], _, h => rw [parseHookCommand.eq_1] at h; cases h
  | cmd :: vs, htail, h =>
    rw [parseHookCommand_cons] at h
    split_ifs at h
    split at h
    · exact absurd ‹_› htail
    all_goals first | (cases h; exact ⟨rfl, rfl⟩) | cases h

lemma insertMetas_entries :
    ∀ (groups : List (String × String × String)) (m : AList (fun _ : String => String)),
      (groups.map fun g => g.2.1).Nodup → (∀ g ∈ groups, g.2.1 ∉ m) →
      (insertMetas groups m).entries =
        (groups.map fun g => (⟨g.2.1, g.2.2⟩ : Sigma fun _ : String => String)).reverse ++
          m.entries
  | [], _, _, _ => rfl
  | ⟨c, k, v⟩ :: gs, m, hn, hm => by
    rw [List.map_cons, List.nodup_cons] at hn
    have hk : k ∉ m := hm _ (.head _)
    have h := insertMetas_entries gs (m.insert k v) hn.2 fun g hg => by
      rw [AList.mem_insert]
      rintro (he | he)
      · exact hn.1 (List.mem_map.2 ⟨g, hg, he⟩)
      · exact hm g (.tail _ hg) he
    simp only [insertMetas, List.foldl_cons] at h ⊢
    rw [h, AList.insert_entries_of_neg hk]
    simp

lemma sortedMetas_perm {M M' : AList (fun _ : String => String)} (h : M.entries.Perm M'.entries) :
    sortedMetas M = sortedMetas M' := by
  let r : FenceMeta → FenceMeta → Prop := fun a b => a.name.toList ≤ b.name.toList
  haveI : IsTotal FenceMeta r := ⟨fun a b => le_total _ _⟩
  haveI : IsTrans FenceMeta r := ⟨fun a b c => le_trans⟩
  haveI : IsAntisymm FenceMeta (fun a b => a.name.toList < b.name.toList) :=
    ⟨fun a b h1 h2 => absurd (h1.trans h2) (lt_irrefl _)⟩
  have hsorted : ∀ N : AList (fun _ : String => String),
      (sortedMetas N).Sorted fun a b => a.name.toList < b.name.toList := fun N => by
    have hn : ((sortedMetas N).map (·.name)).Nodup := by
      refine (((List.perm_insertionSort _ _).map _).nodup_iff).2 ?_
      simpa [List.map_map, Function.comp_def] using N.nodupKeys
    exact ((List.sorted_insertionSort r _).and (List.pairwise_map.1 hn)).imp
      fun hab => lt_of_le_of_ne hab.1 fun he => hab.2 (String.ext he)
  exact List.eq_of_perm_of_sorted (((List.perm_insertionSort _ _).trans (h.map _)).trans
    (List.perm_insertionSort _ _).symm) (hsorted M) (hsorted M')

lemma sortedMetas_insertMetas_perm {groups groups' : List (String × String × String)}
    (hkeys : (groups.map fun g => g.2.1).Nodup) (hperm : groups'.Perm groups) :
    sortedMetas (insertMetas groups' ∅) = sortedMetas (insertMetas groups ∅) := by
  refine sortedMetas_perm ?_
  have hnone : ∀ (gs : List (String × String × String)), ∀ g ∈ gs, g.2.1 ∉
      (∅ : AList (fun _ : String => String)) := fun _ _ _ h => (AList.not_mem_empty _) h
  rw [insertMetas_entries groups' ∅ (hperm.map _ |>.nodup_iff.2 hkeys) (hnone _),
    insertMetas_entries groups ∅ hkeys (hnone _)]
  exact ((List.reverse_perm _).trans (hperm.map _)).trans (List.reverse_perm _).symm |>.append_right _

/-- A SETHOOK command line whose META groups parse, parses the same with the groups in another
order: the fence command is the tail, and the map holds the groups as inserted. -/
lemma parseHookCommand_metaTokens_perm {groups groups' : List (String × String × String)}
    {tail commandvs types rest : List String} {cmdlc : String}
    {metaMap : AList (fun _ : String => String)}
    (hmeta : ∀ g ∈ groups, toLower g.1 = "meta") (htail : toLower (tail.headD "") ≠ "meta")
    (hperm : groups'.Perm groups)
    (hp : parseHookCommand (metaTokens groups ++ tail) ∅ =
      .ok (commandvs, cmdlc, types, rest, metaMap)) :
    commandvs = tail ∧ metaMap = insertMetas groups ∅ ∧
      parseHookCommand (metaTokens groups' ++ tail) ∅ =
        .ok (tail, cmdlc, types, rest, insertMetas groups' ∅) := by
  rw [parseHookCommand_metaTokens tail groups ∅ hmeta] at hp
  split_ifs at hp with hvalid
  obtain ⟨h1, h2⟩ := parseHookCommand_of_not_meta htail hp
  subst commandvs metaMap
  refine ⟨rfl, rfl, ?_⟩
  rw [parseHookCommand_metaTokens tail groups' ∅ fun g hg => hmeta g (hperm.subset hg),
    if_pos fun g hg => hvalid g (hperm.subset hg)]
  exact parseHookCommand_reparse _ _ _ _ _ _ _ _ hp

omit [Zero F] in
lemma endpoints_ok_of_trimmed {env : HookEnv F} (hval : env.validate "" = false)
    {name urls urls' : String} (hn : ¬(name = "" ∨ urls = ""))
    (he : ((splitComma urls).map trimSpace).find? (fun url => !env.validate url) = none)
    (hurls : (splitComma urls').map trimSpace = (splitComma urls).map trimSpace) :
    ¬(name = "" ∨ urls' = "") ∧
      ((splitComma urls').map trimSpace).find? (fun url => !env.validate url) = none := by
  refine ⟨?_, hurls ▸ he⟩
  rintro (h0 | h0)
  · exact hn (.inl h0)
  · rw [h0, show (splitComma "").map trimSpace = [""] from rfl] at hurls
    rw [← hurls] at he
    simp [hval] at he

omit [Zero F] in
@[simp] lemma Hook.equals_self (h : Hook F Obj) : h.equals h = true := by
  simp [Hook.equals]

omit [Zero F] in
lemma HookState.setHook_equal (st : HookState F Obj) (hook : Hook F Obj) :
    ∃ p c, (st.setHook hook).2.hooks.lookup hook.name = some p ∧
      (st.setHook hook).2.heap p = some c ∧ c.hook.equals hook = true := by
  have hreg : ∀ st' : HookState F Obj, ∃ p c, (st'.register hook).hooks.lookup hook.name = some p ∧
      (st'.register hook).heap p = some c ∧ c.hook.equals hook = true :=
    fun st' => ⟨st'.next, _, AList.lookup_insert _, Function.update_same _ _ _, by simp⟩
  unfold HookState.setHook
  cases hl : st.hooks.lookup hook.name with
  | none => exact hreg st
  | some p =>
    dsimp only
    cases hc : st.heap p with
    | none => exact hreg _
    | some c =>
      dsimp only
      split_ifs with he
      · exact ⟨p, c, hl, hc, he⟩
      · exact hreg _

omit [Zero F] in
/-- `setHook` of a hook equal to the one its name holds changes nothing and reports no
update. -/
lemma HookState.setHook_of_equal {st : HookState F Obj} {hook : Hook F Obj} {p : Nat}
    {c : HookCell F Obj} (hl : st.hooks.lookup hook.name = some p) (hc : st.heap p = some c)
    (he : c.hook.equals hook = true) : st.setHook hook = (false, st) := by
  unfold HookState.setHook
  rw [hl]
  dsimp only
  rw [hc]
  dsimp only
  rw [if_pos he]

/-- SETHOOK repeated is idempotent and insensitive to the order of META pairs. Take a SETHOOK
that succeeds, and a second one that differs from it only in the order of its META groups,
whose keys are distinct, and in the endpoints text, as long as the trimmed endpoints are the
same. Run right after the first, the second reports no update and leaves the registry as it
is: `hooks`, `hookcols` and every hook object with its flags. Only the scripting states of its
own fence go back to the pool. The endpoint check must reject the empty endpoint, as the
endpoint manager does. -/
theorem sethook_repeat_unchanged (env : HookEnv F) (hval : env.validate "" = false)
    (st : HookState F Obj) (values values' : List String) (out out' : OutputType)
    (r : HookReply) (hok : (cmdSetHook env st values out).1 = .ok r)
    (name urls urls' : String) (groups groups' : List (String × String × String))
    (tail : List String)
    (hv : values.drop 1 = name :: urls :: (metaTokens groups ++ tail))
    (hv' : values'.drop 1 = name :: urls' :: (metaTokens groups' ++ tail))
    (hmeta : ∀ g ∈ groups, toLower g.1 = "meta") (htail : toLower (tail.headD "") ≠ "meta")
    (hkeys : (groups.map fun g => g.2.1).Nodup) (hperm : groups'.Perm groups)
    (hurls : (splitComma urls').map trimSpace = (splitComma urls).map trimSpace) :
    (cmdSetHook env (cmdSetHook env st values out).2 values' out').1 = .ok (.of out' 0) ∧
      ∃ rel, (cmdSetHook env (cmdSetHook env st values out).2 values' out').2 =
        { (cmdSetHook env st values out).2 with
          released := (cmdSetHook env st values out).2.released ++ rel } := by
  obtain ⟨name0, urls0, vs0, commandvs, cmdlc, types, rest, metaMap, s, sw, hv0, hn, he, hp, hs,
    hf, hw⟩ := cmdSetHook_ok_inv hok
  rw [hv, List.cons.injEq, List.cons.injEq] at hv0
  obtain ⟨h1, h2, h3⟩ := hv0
  subst name0 urls0 vs0
  -- the second SETHOOK parses to the same hook
  obtain ⟨h4, h5, hp'⟩ := parseHookCommand_metaTokens_perm hmeta htail hperm hp
  subst commandvs metaMap
  obtain ⟨hne, he'⟩ := endpoints_ok_of_trimmed hval hn he hurls
  rw [cmdSetHook_of_parsed env st values out hv hn he hp hs hf hw]
  dsimp only
  obtain ⟨p, c, hl, hc, heq⟩ := HookState.setHook_equal
    { st with released := st.released ++ s.whereevals.map WhereEval.state }
    ⟨s.key, name, (splitComma urls).map trimSpace, tail, sortedMetas (insertMetas groups ∅), s, sw⟩
  generalize (HookState.setHook _ _).2 = st1 at hl hc ⊢
  rw [cmdSetHook_of_parsed env st1 values' out' hv' hne he' hp' hs hf hw, hurls,
    sortedMetas_insertMetas_perm hkeys hperm,
    @HookState.setHook_of_equal F Obj
      { st1 with released := st1.released ++ s.whereevals.map WhereEval.state } _ p c hl hc heq]
  exact ⟨rfl, _, rfl⟩

/-- A hook environment whose endpoint check rejects the empty endpoint, as the endpoint
manager does. -/
def urlHookEnv : HookEnv Int :=
  ⟨fun u => u != "", fun _ _ _ => (plainFence, none), anyGlob, fun _ => none, .listed⟩

/-- `SETHOOK warehouse http://10.0.0.1/hook META region west meta zone 9 NEARBY fleet FENCE
POINT 33 -115 5000`, then the same with the META groups swapped and a blank before the
endpoint. -/
theorem sethook_swapped_metas_unchanged :
    urlHookEnv.validate "" = false ∧
      (cmdSetHook urlHookEnv (cmdSetHook urlHookEnv (HookState.empty : HookState Int Unit)
          ["SETHOOK", "warehouse", "http://10.0.0.1/hook", "META", "region", "west", "meta",
            "zone", "9", "NEARBY", "fleet", "FENCE", "POINT", "33", "-115", "5000"] .resp).2
          ["SETHOOK", "warehouse", " http://10.0.0.1/hook", "meta", "zone", "9", "META",
            "region", "west", "NEARBY", "fleet", "FENCE", "POINT", "33", "-115", "5000"]
          .resp).1 = .ok (.of .resp 0) :=
  ⟨rfl, (sethook_repeat_unchanged urlHookEnv rfl HookState.empty
    ["SETHOOK", "warehouse", "http://10.0.0.1/hook", "META", "region", "west", "meta",
      "zone", "9", "NEARBY", "fleet", "FENCE", "POINT", "33", "-115", "5000"]
    ["SETHOOK", "warehouse", " http://10.0.0.1/hook", "meta", "zone", "9", "META",
      "region", "west", "NEARBY", "fleet", "FENCE", "POINT", "33", "-115", "5000"]
    .resp .resp (.of .resp 1) rfl "warehouse" "http://10.0.0.1/hook" " http://10.0.0.1/hook"
    [("META", "region", "west"), ("meta", "zone", "9")]
    [("meta", "zone", "9"), ("META", "region", "west")]
    ["NEARBY", "fleet", "FENCE", "POINT", "33", "-115", "5000"] rfl rfl (by decide) (by decide)
    (by decide) (.swap _ _ _) (by decide)).1⟩

end Tile38
