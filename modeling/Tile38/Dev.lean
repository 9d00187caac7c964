import Mathlib
import Tile38.SearchArgs
import Tile38.Resp
/-!
# MASSINSERT

`cmdMassInsert`, a developer command, reads a number of keys, a number of objects per key and
an optional box, then runs one SET per object through `Controller.command` and hands the
SET's tokens to `writeAOF`, key `mi:0` first, ids in increasing order. The router takes the
write lock for MASSINSERT but makes none of the checks it makes for SET, so the follower and
read-only gates do not apply to these SETs (`massinsert_journal`). A SET that fails ends the
process with `log.Fatal`; the AOF then holds the SETs before it. The counts are parsed as
`uint64` and converted to Go's `int`, so a count of `2^63` or more runs no SET at all.

The handlers of `Router` return an outcome and leave the AOF to the router; MASSINSERT's
handler writes the AOF itself. `handleInputCommandWith` is the router with such a handler,
and `handleInputCommand` is its case of a handler without writes of its own
(`handleInputCommandWith_pure`).
-/

namespace Tile38

/-! ### The router with a handler that writes the AOF -/

/-- `handleInputCommand` with the handler run on the router between the gate and `finish`: it
returns its outcome and the router after its own `writeAOF` calls, or the message of a
`log.Fatal`, which ends the process with the router (and so the AOF) it had then. -/
def handleInputCommandWith (r : Router) (authenticated : Bool) (msg : Message)
    (handler : Router → Except (String × Router) (Outcome × Router)) :
    Except (String × Router) Handled :=
  if msg.command = "ping" ∨ msg.command = "echo" then
    .ok ⟨some (.pong (msg.values.get? 1)), authenticated, r, .none, false, false⟩
  else
    match authenticate r.config authenticated msg with
    | (auth, some reply) => .ok ⟨some reply, auth, r, .none, false, false⟩
    | (auth, none) =>
      let s := lockingStrategy (Verb.ofString msg.command)
      match s.gate.check r with
      | some text => .ok ⟨some (.error text), auth, r, s.lock, false, false⟩
      | none => (handler r).map fun (o, r') => finish r' auth msg s o

/-- A handler that only returns an outcome is the handler of `handleInputCommand`. -/
theorem handleInputCommandWith_pure (r : Router) (a : Bool) (msg : Message) (o : Outcome) :
    handleInputCommandWith r a msg (fun r => .ok (o, r)) = .ok (handleInputCommand r a msg o) := by
  unfold handleInputCommandWith handleInputCommand
  split_ifs
  · rfl
  · rcases authenticate r.config a msg with ⟨auth, _ | reply⟩
    · dsimp only
      cases Gate.check r (lockingStrategy (Verb.ofString msg.command)).gate <;> rfl
    · rfl

lemma handleInputCommandWith_free {r : Router} {a : Bool} {msg : Message}
    {handler : Router → Except (String × Router) (Outcome × Router)}
    (hp : ¬ (msg.command = "ping" ∨ msg.command = "echo"))
    (hauth : (authenticate r.config a msg).2 = none)
    (hfree : lockingStrategy (Verb.ofString msg.command) = ⟨.exclusive, false, .free⟩) :
    handleInputCommandWith r a msg handler =
      (handler r).map fun (o, r') =>
        finish r' (authenticate r.config a msg).1 msg ⟨.exclusive, false, .free⟩ o := by
  unfold handleInputCommandWith
  rw [if_neg hp]
  rcases hA : authenticate r.config a msg with ⟨auth, _ | reply⟩
  · simp only [hfree, Gate.check]
  · rw [hA] at hauth; cases hauth

/-! ### MASSINSERT -/

/-- `strconv.ParseUint(s, 10, 64)`: a non-empty string of decimal digits whose value fits in
64 bits. -/
def parseUint (s : String) : Option Nat :=
  if s.toList ≠ [] ∧ s.toList.all Char.isDigit = true then
    let n := s.toList.foldl (fun n c => 10 * n + (c.toNat - 48)) 0
    if n < 2 ^ 64 then some n else none
  else none

/-- Go's `int(n)` of a `uint64` on a 64-bit platform: two's complement. -/
def goInt (n : Nat) : Int := if n < 2 ^ 63 then n else (n : Int) - 2 ^ 64

/-- The box the positions are drawn in. -/
structure MassInsertBox where
  minLat : Float
  minLon : Float
  maxLat : Float
  maxLon : Float

/-- What MASSINSERT reads besides its tokens: `strconv.ParseFloat` with its error, the text
of `resp.FloatValue` in the AOF, the values `rand.Float64()` returns, in order, and the error
of `cmdSet` (not under src) on the tokens of a SET, if it fails. -/
structure MassInsertEnv where
  parseFloat : String → Except String Float
  formatFloat : Float → String
  draw : Nat → Float
  set : List String → Option String

/-- The optional box after the two counts: the whole earth, or four numbers and nothing
after them. -/
def massInsertBox (parseFloat : String → Except String Float) (vs : List String) :
    Except String MassInsertBox :=
  if vs.isEmpty then .ok ⟨-90, -180, 90, 180⟩
  else do
    let (vs, sminLat) ← requireToken errInvalidNumberOfArguments vs
    let (vs, sminLon) ← requireToken errInvalidNumberOfArguments vs
    let (vs, smaxLat) ← requireToken errInvalidNumberOfArguments vs
    let (vs, smaxLon) ← requireToken errInvalidNumberOfArguments vs
    let minLat ← parseFloat sminLat
    let minLon ← parseFloat sminLon
    let maxLat ← parseFloat smaxLat
    let maxLon ← parseFloat smaxLon
    if !vs.isEmpty then .error "invalid number of arguments"
    else .ok ⟨minLat, minLon, maxLat, maxLon⟩

/-- The arguments of MASSINSERT: the number of keys, the number of objects per key, and the
box. -/
def massInsertArgs (parseFloat : String → Except String Float) (vs : List String) :
    Except String (Nat × Nat × MassInsertBox) := do
  let (vs, snumCols) ← requireToken errInvalidNumberOfArguments vs
  let (vs, snumPoints) ← requireToken errInvalidNumberOfArguments vs
  let box ← massInsertBox parseFloat vs
  match parseUint snumCols, parseUint snumPoints with
  | none, _ => .error (errInvalidArgument snumCols)
  | some _, none => .error (errInvalidArgument snumPoints)
  | some cols, some objs => .ok (cols, objs, box)

/-- The tokens of the SET for object `j` of `key`, reading the draws from `k` on, and the
index of the next draw: every eighth object is a string, the others a point in the box with
the field `fname` (`useRandField` is true). Latitude, longitude and field value are drawn in
that order. -/
def massInsertObject (env : MassInsertEnv) (box : MassInsertBox) (key : String) (j k : Nat) :
    List String × Nat :=
  if j % 8 = 0 then (["set", key, toString j, "STRING", "str" ++ toString j], k)
  else
    let lat := env.draw k * (box.maxLat - box.minLat) + box.minLat
    let lon := env.draw (k + 1) * (box.maxLon - box.minLon) + box.minLon
    (["set", key, toString j, "FIELD", "fname", env.formatFloat (env.draw (k + 2) * 10), "POINT",
      env.formatFloat lat, env.formatFloat lon], k + 3)

/-- `docmd`: run the SET, then hand its tokens to `writeAOF`. -/
def docmd (env : MassInsertEnv) (r : Router) (values : List String) :
    Except (String × Router) Router :=
  match env.set values with
  | some e => .error (e, r)
  | none => .ok (r.writeAOF values)

/-- The inner loop: the objects `js` of `key`, with the next draw index and the router. A
failed SET is fatal. -/
def massInsertObjects (env : MassInsertEnv) (box : MassInsertBox) (key : String) :
    List Nat → Nat × Router → Except (String × Router) (Nat × Router)
  | [], acc => .ok acc
  | j :: js, (k, r) =>
    match docmd env r (massInsertObject env box key j k).1 with
    | .error e => .error e
    | .ok r => massInsertObjects env box key js ((massInsertObject env box key j k).2, r)

/-- `cmdMassInsert` as the handler `Controller.command` runs for MASSINSERT; it answers that
the command is unknown outside dev mode. -/
def cmdMassInsert (dev : Bool) (env : MassInsertEnv) (values : List String) (r : Router) :
    Except (String × Router) (Outcome × Router) :=
  if !dev then .ok (.error ("unknown command \x27" ++ values.headD "" ++ "\x27"), r)
  else
    match massInsertArgs env.parseFloat (values.drop 1) with
    | .error e => .ok (.error e, r)
    | .ok (cols, objs, box) =>
      ((List.range (goInt cols).toNat).foldlM (fun acc i =>
          massInsertObjects env box ("mi:" ++ toString i) (List.range (goInt objs).toNat) acc)
          (0, r)).map fun (_, r) => (.reply "OK", r)

/-! ### What the loops journal -/

/-- The key and id of a SET record. -/
def keyId (v : List String) : String × String := (v.getD 1 "", v.getD 2 "")

/-- The keys and ids MASSINSERT writes, in order: ids `0` to `objs - 1` of `mi:0`, then of
`mi:1`, and so on. -/
def massInsertPairs (cols objs : Nat) : List (String × String) :=
  (List.range cols).flatMap fun i => (List.range objs).map fun j => ("mi:" ++ toString i, toString j)

/-- A run of SETs that journals its successful SETs `recs`, in order, with the (key, id) pairs
`expected`: it ends with all of them, or with a fatal SET `v` after a prefix of them. -/
inductive Ran (env : MassInsertEnv) (expected : List (String × String)) (r : Router) :
    Except (String × Router) (Nat × Router) → Prop
  | done (recs : List (List String)) (k : Nat)
      (hok : ∀ v ∈ recs, v.head? = some "set" ∧ env.set v = none)
      (hpairs : recs.map keyId = expected) :
      Ran env expected r (.ok (k, recs.foldl Router.writeAOF r))
  | failed (recs : List (List String)) (v : List String) (e : String)
      (hok : ∀ v ∈ recs, v.head? = some "set" ∧ env.set v = none)
      (hset : env.set v = some e) (hv : v.head? = some "set")
      (hpairs : (recs ++ [v]).map keyId <+: expected) :
      Ran env expected r (.error (e, recs.foldl Router.writeAOF r))

variable {env : MassInsertEnv} {box : MassInsertBox}

@[simp] lemma massInsertObject_keyId (key : String) (j k : Nat) :
    keyId (massInsertObject env box key j k).1 = (key, toString j) := by
  unfold massInsertObject; split_ifs <;> rfl

@[simp] lemma massInsertObject_head (key : String) (j k : Nat) :
    (massInsertObject env box key j k).1.head? = some "set" := by
  unfold massInsertObject; split_ifs <;> rfl

lemma Ran.nil (r : Router) (k : Nat) : Ran env [] r (.ok (k, r)) :=
  .done [] k (fun _ h => nomatch h) rfl

lemma Ran.cons {v : List String} {p : String × String} {expected : List (String × String)}
    {r : Router} {x : Except (String × Router) (Nat × Router)} (hv : v.head? = some "set")
    (hset : env.set v = none) (hp : keyId v = p) (h : Ran env expected (r.writeAOF v) x) :
    Ran env (p :: expected) r x := by
  cases h with
  | done recs k hok hpairs =>
    exact .done (v :: recs) k (by simpa [hv, hset] using hok) (by simp [hp, hpairs])
  | failed recs w e hok hw hwv hpairs =>
    refine .failed (v :: recs) w e (by simpa [hv, hset] using hok) hw hwv ?_
    simpa [hp] using hpairs

lemma massInsertObjects_ran (key : String) :
    ∀ (js : List Nat) (k : Nat) (r : Router),
      Ran env (js.map fun j => (key, toString j)) r (massInsertObjects env box key js (k, r))
  | [], k, r => Ran.nil r k
  | j :: js, k, r => by
    simp only [massInsertObjects, docmd, List.map_cons]
    cases hs : env.set (massInsertObject env box key j k).1 with
    | some e =>
      exact .failed [] _ e (fun _ h => nomatch h) hs (massInsertObject_head _ _ _)
        (by simp)
    | none =>
      exact .cons (massInsertObject_head _ _ _) hs (massInsertObject_keyId _ _ _)
        (massInsertObjects_ran key js _ _)

lemma Ran.bind {e1 e2 : List (String × String)} {r : Router}
    {x : Except (String × Router) (Nat × Router)}
    {f : Nat × Router → Except (String × Router) (Nat × Router)} (h1 : Ran env e1 r x)
    (h2 : ∀ k r', Ran env e2 r' (f (k, r'))) : Ran env (e1 ++ e2) r (x >>= f) := by
  cases h1 with
  | done recs k hok hpairs =>
    show Ran env (e1 ++ e2) r (f (k, recs.foldl Router.writeAOF r))
    subst hpairs
    induction recs generalizing r with
    | nil => exact h2 k r
    | cons v recs ih =>
      have hv := hok v (.head _)
      exact .cons hv.1 hv.2 rfl (ih fun w hw => hok w (.tail _ hw))
  | failed recs v e hok hset hv hpairs =>
    exact .failed recs v e hok hset hv (hpairs.trans (List.prefix_append _ _))

/-- The outer loop journals every object of every key, key by key. -/
lemma massInsertKeys_ran (objs : Nat) :
    ∀ (is : List Nat) (k : Nat) (r : Router),
      Ran env (is.flatMap fun i => (List.range objs).map fun j => ("mi:" ++ toString i, toString j))
        r (is.foldlM (fun acc i =>
          massInsertObjects env box ("mi:" ++ toString i) (List.range objs) acc) (k, r))
  | [], k, r => Ran.nil r k
  | i :: is, k, r => by
    rw [List.foldlM_cons, List.flatMap_cons]
    exact (massInsertObjects_ran _ _ k r).bind fun k r => massInsertKeys_ran objs is k r

/-! ### Distinct keys and ids -/

lemma toString_injective : Function.Injective (toString : Nat → String) := fun m n h => by
  have hf : formatInt m = formatInt n := by
    simp only [formatInt]
    exact congrArg (List.map _) (congrArg String.toList h)
  rw [← (formatInt_spec m).2.2, ← (formatInt_spec n).2.2, hf]

/-- No key and id repeat: the SETs of MASSINSERT create `cols * objs` distinct objects. -/
lemma massInsertPairs_nodup (cols objs : Nat) : (massInsertPairs cols objs).Nodup := by
  refine List.nodup_flatMap.2 ⟨fun i _ => ?_, ?_⟩
  · exact (List.nodup_range objs).map fun j j' h => toString_injective (Prod.mk.inj h).2
  · refine (List.nodup_range cols).imp fun hne => List.disjoint_left.2 fun _ hp hp' => ?_
    obtain ⟨j, -, rfl⟩ := List.mem_map.1 hp
    obtain ⟨j', -, hj⟩ := List.mem_map.1 hp'
    exact hne (toString_injective (String.ext (List.append_cancel_left
      (congrArg String.toList (Prod.mk.inj hj).1.symm))))

/-! ### The AOF after MASSINSERT -/

section Message

variable {r : Router} {a : Bool} {msg : Message} {cols objs : Nat}

lemma handle_massinsert (hcmd : msg.command = "massinsert")
    (hauth : (authenticate r.config a msg).2 = none) :
    handleInputCommandWith r a msg (cmdMassInsert true env msg.values) =
      (cmdMassInsert true env msg.values r).map fun (o, r') =>
        finish r' (authenticate r.config a msg).1 msg ⟨.exclusive, false, .free⟩ o :=
  handleInputCommandWith_free (by rw [hcmd]; decide) hauth (by rw [hcmd]; rfl)

lemma cmdMassInsert_ran (hargs : massInsertArgs env.parseFloat (msg.values.drop 1) = .ok (cols, objs, box)) :
    ∃ x, Ran env (massInsertPairs (goInt cols).toNat (goInt objs).toNat) r x ∧
      cmdMassInsert true env msg.values r = x.map fun (_, r) => (.reply "OK", r) :=
  ⟨_, massInsertKeys_ran _ _ 0 r, by simp only [cmdMassInsert, Bool.not_true, hargs]; rfl⟩

/-- MASSINSERT in dev mode, on every router, a follower or a read-only one included, from a
connection that passes authentication: the SETs it journals are, in order, one for each id
below the second count of each key `mi:i` below the first, with no key and id twice, and the
router replies OK and journals nothing else; or a SET fails, and `log.Fatal` ends the process
with the SETs before it journaled. -/
theorem massinsert_journal (hcmd : msg.command = "massinsert")
    (hauth : (authenticate r.config a msg).2 = none)
    (hargs : massInsertArgs env.parseFloat (msg.values.drop 1) = .ok (cols, objs, box)) :
    (massInsertPairs (goInt cols).toNat (goInt objs).toNat).Nodup ∧
      ∃ recs : List (List String), (∀ v ∈ recs, v.head? = some "set" ∧ env.set v = none) ∧
        ((recs.map keyId = massInsertPairs (goInt cols).toNat (goInt objs).toNat ∧
            handleInputCommandWith r a msg (cmdMassInsert true env msg.values) =
              .ok ⟨some (.value "OK"), (authenticate r.config a msg).1,
                recs.foldl Router.writeAOF r, .exclusive, true, false⟩) ∨
          ∃ v e, env.set v = some e ∧ v.head? = some "set" ∧
            (recs ++ [v]).map keyId <+: massInsertPairs (goInt cols).toNat (goInt objs).toNat ∧
            handleInputCommandWith r a msg (cmdMassInsert true env msg.values) =
              .error (e, recs.foldl Router.writeAOF r)) := by
  refine ⟨massInsertPairs_nodup _ _, ?_⟩
  obtain ⟨x, hx, hrun⟩ := cmdMassInsert_ran hargs
  rw [handle_massinsert hcmd hauth, hrun]
  cases hx with
  | done recs k hok hpairs => exact ⟨recs, hok, .inl ⟨hpairs, rfl⟩⟩
  | failed recs v e hok hset hv hpairs => exact ⟨recs, hok, .inr ⟨v, e, hset, hv, hpairs, rfl⟩⟩

/-- A router that follows another and is read-only. -/
def readOnlyFollower : Router := ⟨⟨"", "10.0.0.1", true⟩, false, false, [], []⟩

/-- Every SET succeeds; every draw is `0.5`. -/
def devEnv : MassInsertEnv := ⟨fun _ => .error "invalid syntax", toString, fun _ => 0.5, fun _ => none⟩

def massInsertTwoThree : Message := ⟨"massinsert", ["MASSINSERT", "2", "3"], "", .resp⟩

/-- MASSINSERT 2 3 on a read-only follower journals six SETs. -/
theorem massinsert_on_read_only_follower :
    ∃ recs : List (List String),
      recs.map keyId = [("mi:0", "0"), ("mi:0", "1"), ("mi:0", "2"), ("mi:1", "0"),
        ("mi:1", "1"), ("mi:1", "2")] ∧
      handleInputCommandWith readOnlyFollower true massInsertTwoThree
          (cmdMassInsert true devEnv massInsertTwoThree.values) =
        .ok ⟨some (.value "OK"), true, recs.foldl Router.writeAOF readOnlyFollower, .exclusive,
          true, false⟩ := by
  obtain ⟨-, recs, -, ⟨hp, h⟩ | ⟨v, e, he, -⟩⟩ := massinsert_journal
    (show massInsertTwoThree.command = "massinsert" from rfl)
    (show (authenticate readOnlyFollower.config true massInsertTwoThree).2 = none from rfl)
    (show massInsertArgs devEnv.parseFloat (massInsertTwoThree.values.drop 1) =
      .ok (2, 3, ⟨-90, -180, 90, 180⟩) from rfl)
  · exact ⟨recs, hp, h⟩
  · cases he

end Message

end Tile38
