import Mathlib

/-!
# Scan writer

`scanWriter` receives the candidates of a scan, a search or a fence one at a time. It keeps
those that pass its glob and its field clauses, skips the first `cursor` of them, stops
after `limit` written items, and `writeFoot` reports the cursor of the next page. What is
written for an item (its JSON or RESP text) belongs to the codec and is kept abstract: the
writer records the candidate and the field values it read for it. The counters are
`uint64` in the source; a collection holds fewer than `2^64` items, so they never wrap and
are modelled as `Nat`.
-/

namespace Tile38

/-- `limitItems`, the default page size. -/
def limitItems : Nat := 100

/-- `math.MaxUint64`, the page size of a COUNT query without a limit. -/
def maxUint64 : Nat := 18446744073709551615

/-- `outputT`. -/
inductive Output
  | unknown | ids | objects | count | points | hashes | bounds
  deriving DecidableEq, Repr

/-- The glob package (not under src): `glob.Match`, `glob.IsGlob`, and the id range
`glob.Parse(pattern, desc).Limits` that bounds the ids a pattern can match. -/
structure Glob where
  isMatch : String → String → Bool
  isGlob : String → Bool
  limits : String → Bool → String × String

/-- What the scan writer reads of an object (the geojson package): the `Z` of
`CalculatedPoint()` and the text of `String()`. -/
structure ObjectView (F Obj : Type) where
  pointZ : Obj → F
  text : Obj → String

/-- A `WHERE` or `WHEREIN` clause (`whereT`, `whereinT`, not under src): the field it reads
and its `match` on the value. -/
structure FieldTest (F : Type) where
  field : String
  test : F → Bool

/-- A `WHEREEVAL` clause (`whereevalT`, not under src): the scripting state it holds and its
`match` on the item's field values by name, which answers `test` unless the script fails, and
then panics with the text `raise` gives. -/
structure WhereEval (F : Type) where
  state : Nat
  test : (String → Option F) → Bool
  raise : (String → Option F) → Option String

/-- `ScanWriterParams`: one candidate. -/
structure ScanWriterParams (F Obj : Type) where
  id : String
  o : Obj
  fields : List F
  distance : F
  ignoreGlobMatch : Bool

/-- The fields of a `scanWriter` that are set before the scan starts and that the scan never
changes. -/
structure ScanConfig (F : Type) where
  fmap : String → Option Nat
  farr : List String
  output : Output
  wheres : List (FieldTest F)
  whereins : List (FieldTest F)
  whereevals : List (WhereEval F)
  nofields : Bool
  cursor : Nat
  limit : Nat
  precision : Nat
  globPattern : String
  globEverything : Bool
  globSingle : Bool
  fullFields : Bool
  matchValues : Bool

/-- `scanWriter`: its configuration and the fields a scan updates. `written` stands for the
output buffer: each written candidate with the field values written beside it. -/
structure ScanWriter (F Obj : Type) where
  cfg : ScanConfig F
  fvals : List F
  numberItems : Nat
  hitLimit : Bool
  count : Nat
  written : List (ScanWriterParams F Obj × List F)

variable {F Obj : Type} [Zero F]

/-- A writer as `newScanWriter` returns it, before any candidate. -/
def ScanWriter.fresh (cfg : ScanConfig F) : ScanWriter F Obj :=
  ⟨cfg, List.replicate cfg.farr.length 0, 0, false, 0, []⟩

@[simp] lemma ScanWriter.fresh_cfg (cfg : ScanConfig F) :
    (ScanWriter.fresh cfg : ScanWriter F Obj).cfg = cfg := rfl

@[simp] lemma ScanWriter.fresh_count (cfg : ScanConfig F) :
    (ScanWriter.fresh cfg : ScanWriter F Obj).count = 0 := rfl

@[simp] lemma ScanWriter.fresh_numberItems (cfg : ScanConfig F) :
    (ScanWriter.fresh cfg : ScanWriter F Obj).numberItems = 0 := rfl

@[simp] lemma ScanWriter.fresh_written (cfg : ScanConfig F) :
    (ScanWriter.fresh cfg : ScanWriter F Obj).written = [] := rfl

/-- `newScanWriter`, given the field map and field array of the key's collection (`none`
when the key has no collection). -/
def newScanWriter (glob : Glob) (colFields : Option ((String → Option Nat) × List String))
    (output : Output) (precision : Nat) (globPattern : String) (matchValues : Bool)
    (cursor limit : Nat) (wheres whereins : List (FieldTest F))
    (whereevals : List (WhereEval F)) (nofields : Bool) : Except String (ScanWriter F Obj) :=
  if output = .unknown then .error "invalid output type"
  else
    let limit := if limit = 0 then (if output = .count then maxUint64 else limitItems) else limit
    let globEverything := globPattern == "*" || globPattern == ""
    let fields := colFields.getD (fun _ => none, [])
    .ok (.fresh ⟨fields.1, fields.2, output, wheres, whereins, whereevals, nofields, cursor,
      limit, precision, globPattern, globEverything,
      !globEverything && !glob.isGlob globPattern, false, matchValues⟩)

/-- `hasFieldsOutput`. -/
def ScanConfig.hasFieldsOutput (cfg : ScanConfig F) : Bool :=
  match cfg.output with
  | .objects | .points | .hashes | .bounds => !cfg.nofields
  | _ => false

/-! ### Field clauses -/

/-- The value a clause reads from the item's `fields`: a field missing from the map or
past the end of the array reads 0. -/
def fieldValue (fmap : String → Option Nat) (fields : List F) (field : String) : F :=
  match fmap field with
  | some idx => fields.getD idx 0
  | none => 0

/-- `fieldsWithNames`, the map a `WHEREEVAL` clause reads. -/
def fieldsWithNames (fmap : String → Option Nat) (fields : List F) : String → Option F :=
  fun field => (fmap field).map fun idx => fields.getD idx 0

/-- The value a clause reads from `fvals` in the branch with fields output; `none` is the
index-out-of-range panic of `sw.fvals[idx]`. -/
def fvalsValue (fmap : String → Option Nat) (fvals : List F) (field : String) : Option F :=
  match fmap field with
  | some idx => fvals.get? idx
  | none => some 0

/-- The reserved field `z` reads the object's `Z` in a `WHERE` clause. -/
def withZ (z : F) (read : String → Option F) (field : String) : Option F :=
  if field = "z" then some z else read field

/-- A list of `WHERE` or `WHEREIN` clauses checked in order: the first one that fails
answers `false`, and a read that panics stops the check. -/
def checkClauses (read : String → Option F) : List (FieldTest F) → Option Bool
  | [] => some true
  | w :: ws => do
    let value ← read w.field
    if w.test value then checkClauses read ws else some false

/-- The `WHERE`, `WHEREIN` and `WHEREEVAL` clauses in this order, each value read by
`read`. -/
def ScanConfig.clausesWith (cfg : ScanConfig F) (read : String → Option F) (z : F)
    (fields : List F) : Option Bool := do
  if !(← checkClauses (withZ z read) cfg.wheres) then return false
  if !(← checkClauses read cfg.whereins) then return false
  return cfg.whereevals.all fun we => we.test (fieldsWithNames cfg.fmap fields)

/-- `fvals` as the branch with fields output fills it. -/
def ScanConfig.fieldVals (cfg : ScanConfig F) (fields : List F) : List F :=
  (List.range cfg.farr.length).map fun idx => fields.getD idx 0

/-- Whether the branch with fields output of `fieldMatch` is taken. -/
def ScanConfig.fillsFvals (cfg : ScanConfig F) : Bool :=
  cfg.hasFieldsOutput && !cfg.fullFields

/-- The decision of `fieldMatch`: in the branch without fields output the clauses read
`fields`, in the other one the freshly filled `fvals`. -/
def ScanConfig.clauseMatch (view : ObjectView F Obj) (cfg : ScanConfig F) (fields : List F)
    (o : Obj) : Option Bool :=
  if cfg.fillsFvals then
    cfg.clausesWith (fvalsValue cfg.fmap (cfg.fieldVals fields)) (view.pointZ o) fields
  else cfg.clausesWith (fun f => some (fieldValue cfg.fmap fields f)) (view.pointZ o) fields

/-- `fieldMatch`: the writer with its `fvals`, the field values returned, and the
decision. -/
def ScanWriter.fieldMatch (view : ObjectView F Obj) (sw : ScanWriter F Obj)
    (fields : List F) (o : Obj) : Option (ScanWriter F Obj × List F × Bool) :=
  let fvals := if sw.cfg.fillsFvals then sw.cfg.fieldVals fields else sw.fvals
  (sw.cfg.clauseMatch view fields o).map fun ok => ({ sw with fvals }, fvals, ok)

/-! ### Writing one candidate -/

/-- `globMatch`: whether the candidate passes the glob, and whether the scan goes on. -/
def ScanConfig.globMatch (glob : Glob) (view : ObjectView F Obj) (cfg : ScanConfig F)
    (id : String) (o : Obj) : Bool × Bool :=
  if !cfg.globEverything then
    if cfg.globSingle then
      if cfg.globPattern ≠ id then (false, true) else (true, false)
    else if glob.isMatch cfg.globPattern (if cfg.matchValues then view.text o else id) then
      (true, true)
    else (false, true)
  else (true, true)

/-- The part of `writeObject` after the candidate passed the glob and the field clauses:
count it, skip it up to the cursor, else write it, and stop at the limit. -/
def ScanWriter.accept (sw : ScanWriter F Obj) (opts : ScanWriterParams F Obj)
    (nfields : List F) (keepGoing : Bool) : ScanWriter F Obj × Bool :=
  let sw := { sw with count := sw.count + 1 }
  if sw.count ≤ sw.cfg.cursor then (sw, true)
  else if sw.cfg.output = .count then (sw, decide (sw.count < sw.cfg.limit))
  else
    let sw := { sw with written := sw.written ++ [(opts, nfields)],
                        numberItems := sw.numberItems + 1 }
    if sw.numberItems = sw.cfg.limit then ({ sw with hitLimit := true }, false)
    else (sw, keepGoing)

/-- `writeObject`: the writer after the candidate, and whether the scan goes on; `none` is
a panic. -/
def ScanWriter.writeObject (glob : Glob) (view : ObjectView F Obj) (sw : ScanWriter F Obj)
    (opts : ScanWriterParams F Obj) : Option (ScanWriter F Obj × Bool) := do
  let (ok, keepGoing) :=
    if opts.ignoreGlobMatch then (true, true) else sw.cfg.globMatch glob view opts.id opts.o
  if !ok then return (sw, true)
  let (sw, nfields, ok) ← sw.fieldMatch view opts.fields opts.o
  if !ok then return (sw, true)
  return sw.accept opts nfields keepGoing

/-- The iteration of a collection: `writeObject` on each candidate in order, until it answers
`false`. -/
def ScanWriter.scan (glob : Glob) (view : ObjectView F Obj) (sw : ScanWriter F Obj) :
    List (ScanWriterParams F Obj) → Option (ScanWriter F Obj)
  | [] => some sw
  | p :: ps => do
    let (sw, go) ← sw.writeObject glob view p
    if go then sw.scan glob view ps else some sw

lemma ScanWriter.scan_cons_go {glob : Glob} {view : ObjectView F Obj} {sw sw1 : ScanWriter F Obj}
    {p : ScanWriterParams F Obj} (ps : List (ScanWriterParams F Obj))
    (h : sw.writeObject glob view p = some (sw1, true)) :
    sw.scan glob view (p :: ps) = sw1.scan glob view ps := by
  simp [ScanWriter.scan, h]

lemma ScanWriter.scan_cons_stop {glob : Glob} {view : ObjectView F Obj} {sw sw1 : ScanWriter F Obj}
    {p : ScanWriterParams F Obj} (ps : List (ScanWriterParams F Obj))
    (h : sw.writeObject glob view p = some (sw1, false)) :
    sw.scan glob view (p :: ps) = some sw1 := by
  simp [ScanWriter.scan, h]

/-- The cursor `writeFoot` reports: the next page's cursor after a full page, else 0. -/
def ScanWriter.footCursor (sw : ScanWriter F Obj) : Nat :=
  if sw.hitLimit then sw.cfg.cursor + sw.numberItems else 0

/-! ### One candidate -/

section Candidate

variable (glob : Glob) (view : ObjectView F Obj)

/-- Whether a candidate passes the glob and the field clauses of `cfg`; `none` is a
panic. -/
def ScanConfig.admits (cfg : ScanConfig F) (p : ScanWriterParams F Obj) : Option Bool :=
  if p.ignoreGlobMatch || (cfg.globMatch glob view p.id p.o).1 then
    cfg.clauseMatch view p.fields p.o
  else some false

/-- The decision `admits`, a panic read as a rejection. -/
def ScanConfig.passes (cfg : ScanConfig F) (p : ScanWriterParams F Obj) : Bool :=
  (cfg.admits glob view p).getD false

omit [Zero F] in
lemma checkClauses_isSome {read : String → Option F} (h : ∀ f, (read f).isSome)
    (ws : List (FieldTest F)) : (checkClauses read ws).isSome := by
  induction ws with
  | nil => rfl
  | cons w ws ih =>
    obtain ⟨v, hv⟩ := Option.isSome_iff_exists.1 (h w.field)
    cases hw : w.test v <;> simp [checkClauses, hv, hw, ih]

lemma clausesWith_isSome (cfg : ScanConfig F) {read : String → Option F}
    (h : ∀ f, (read f).isSome) (z : F) (fields : List F) :
    (cfg.clausesWith read z fields).isSome := by
  have hz : ∀ f, (withZ z read f).isSome := fun f => by
    unfold withZ; split_ifs <;> simp [h]
  obtain ⟨a, ha⟩ := Option.isSome_iff_exists.1 (checkClauses_isSome hz cfg.wheres)
  obtain ⟨b, hb⟩ := Option.isSome_iff_exists.1 (checkClauses_isSome h cfg.whereins)
  simp only [ScanConfig.clausesWith, ha, hb, Option.some_bind]
  cases a <;> cases b <;> rfl

/-- With a field map whose indices lie in the field array, as a collection keeps them,
`fieldMatch` never panics. -/
theorem clauseMatch_isSome (cfg : ScanConfig F)
    (hf : ∀ f i, cfg.fmap f = some i → i < cfg.farr.length) (fields : List F) (o : Obj) :
    (cfg.clauseMatch view fields o).isSome := by
  unfold ScanConfig.clauseMatch
  split_ifs
  · refine clausesWith_isSome cfg (fun f => ?_) _ _
    unfold fvalsValue
    cases hfm : cfg.fmap f with
    | none => rfl
    | some i =>
      have := hf f i hfm
      simp [ScanConfig.fieldVals, List.get?_eq_getElem?, this]
  · exact clausesWith_isSome cfg (fun _ => by simp) _ _

theorem admits_eq_passes (cfg : ScanConfig F)
    (hf : ∀ f i, cfg.fmap f = some i → i < cfg.farr.length) (p : ScanWriterParams F Obj) :
    cfg.admits glob view p = some (cfg.passes glob view p) := by
  unfold ScanConfig.passes ScanConfig.admits
  split_ifs
  · obtain ⟨b, hb⟩ := Option.isSome_iff_exists.1 (clauseMatch_isSome view cfg hf p.fields p.o)
    simp [hb]
  · rfl

/-- The branch with fields output fills `fvals` with `fields` cut or padded with zeros to the
length of the field array. -/
lemma ScanConfig.fieldVals_eq (cfg : ScanConfig F) (fields : List F) :
    cfg.fieldVals fields =
      fields.take cfg.farr.length ++ List.replicate (cfg.farr.length - fields.length) 0 := by
  refine List.ext_getElem (by simp [ScanConfig.fieldVals]; omega) fun i h1 h2 => ?_
  simp only [ScanConfig.fieldVals, List.getElem_map, List.getElem_range, List.getElem_append,
    List.length_take, List.getElem_take, List.getElem_replicate]
  split_ifs with h
  · simp [List.getD_eq_getElem?_getD, (lt_min_iff.1 h).2]
  · have hl : (cfg.fieldVals fields).length = cfg.farr.length := by simp [ScanConfig.fieldVals]
    rw [hl] at h1
    rw [lt_min_iff] at h
    simp [List.getD_eq_getElem?_getD, List.getElem?_eq_none (show fields.length ≤ i by omega)]

lemma fvalsValue_fieldVals (cfg : ScanConfig F)
    (hf : ∀ f i, cfg.fmap f = some i → i < cfg.farr.length) (fields : List F) :
    fvalsValue cfg.fmap (cfg.fieldVals fields) = fun f => some (fieldValue cfg.fmap fields f) := by
  funext f
  unfold fvalsValue fieldValue
  cases h : cfg.fmap f with
  | none => rfl
  | some i => simp [ScanConfig.fieldVals, List.get?_eq_getElem?, hf f i h]

/-- The two branches of `fieldMatch` agree. With a field map whose indices lie in the field
array, the decision is the one read straight from `fields` whichever branch is taken, it never
panics, and the branch with fields output returns `fields` cut or padded with zeros to the
length of the field array. -/
theorem fieldMatch_branches_agree (sw : ScanWriter F Obj)
    (hf : ∀ f i, sw.cfg.fmap f = some i → i < sw.cfg.farr.length) (fields : List F) (o : Obj) :
    sw.cfg.clauseMatch view fields o =
        sw.cfg.clausesWith (fun f => some (fieldValue sw.cfg.fmap fields f)) (view.pointZ o)
          fields ∧
      ∃ ok, sw.cfg.clauseMatch view fields o = some ok ∧
        (sw.cfg.fillsFvals = true →
          sw.fieldMatch view fields o =
            some ({ sw with fvals := fields.take sw.cfg.farr.length ++
                List.replicate (sw.cfg.farr.length - fields.length) 0 },
              fields.take sw.cfg.farr.length ++
                List.replicate (sw.cfg.farr.length - fields.length) 0, ok)) := by
  have hdec : sw.cfg.clauseMatch view fields o =
      sw.cfg.clausesWith (fun f => some (fieldValue sw.cfg.fmap fields f)) (view.pointZ o)
        fields := by
    unfold ScanConfig.clauseMatch
    rw [fvalsValue_fieldVals sw.cfg hf, ite_self]
  obtain ⟨ok, hok⟩ := Option.isSome_iff_exists.1 (clauseMatch_isSome view sw.cfg hf fields o)
  refine ⟨hdec, ok, hok, fun hfill => ?_⟩
  simp only [ScanWriter.fieldMatch, hfill, if_true, hok, Option.map_some',
    ScanConfig.fieldVals_eq]

/-- A writer of objects with their fields over the one field `speed`, keeping speeds above
50. -/
def speedWriter : ScanWriter Int Unit :=
  .fresh ⟨fun f => if f = "speed" then some 0 else none, ["speed"], .objects,
    [⟨"speed", fun v => decide (50 < v)⟩], [], [], false, 0, 100, 0, "*", true, false, false,
    false⟩

theorem speedWriter_branches_agree :
    (∀ f i, speedWriter.cfg.fmap f = some i → i < speedWriter.cfg.farr.length) ∧
      (speedWriter.cfg.clauseMatch ⟨fun _ => 0, fun _ => ""⟩ [70, 3] () =
          speedWriter.cfg.clausesWith (fun f => some (fieldValue speedWriter.cfg.fmap [70, 3] f))
            0 [70, 3] ∧
        ∃ ok, speedWriter.cfg.clauseMatch ⟨fun _ => 0, fun _ => ""⟩ [70, 3] () = some ok ∧
          (speedWriter.cfg.fillsFvals = true →
            speedWriter.fieldMatch ⟨fun _ => 0, fun _ => ""⟩ [70, 3] () =
              some ({ speedWriter with fvals := [70, 3].take 1 ++ List.replicate (1 - 2) 0 },
                [70, 3].take 1 ++ List.replicate (1 - 2) 0, ok))) := by
  have hf : ∀ f i, speedWriter.cfg.fmap f = some i → i < speedWriter.cfg.farr.length := by
    intro f i h
    simp only [speedWriter, ScanWriter.fresh] at h
    split_ifs at h
    cases h
    exact Nat.one_pos
  exact ⟨hf, fieldMatch_branches_agree ⟨fun _ => 0, fun _ => ""⟩ speedWriter hf [70, 3] ()⟩

omit [Zero F] in
lemma accept_write (sw : ScanWriter F Obj) (p : ScanWriterParams F Obj) (nf : List F)
    (k : Bool) (h : sw.cfg.cursor < sw.count + 1) (hout : sw.cfg.output ≠ .count) :
    sw.accept p nf k =
      if sw.numberItems + 1 = sw.cfg.limit then
        ({ sw with count := sw.count + 1, written := sw.written ++ [(p, nf)],
                   numberItems := sw.numberItems + 1, hitLimit := true }, false)
      else ({ sw with count := sw.count + 1, written := sw.written ++ [(p, nf)],
                      numberItems := sw.numberItems + 1 }, k) := by
  simp [ScanWriter.accept, Nat.not_le.2 h, hout]

lemma writeObject_eq_glob (sw : ScanWriter F Obj) (p : ScanWriterParams F Obj) :
    sw.writeObject glob view p =
      if p.ignoreGlobMatch || (sw.cfg.globMatch glob view p.id p.o).1 then
        (sw.fieldMatch view p.fields p.o).bind fun r =>
          if !r.2.2 then some (r.1, true)
          else some (r.1.accept p r.2.1
            (p.ignoreGlobMatch || (sw.cfg.globMatch glob view p.id p.o).2))
      else some (sw, true) := by
  unfold ScanWriter.writeObject
  rcases sw.cfg.globMatch glob view p.id p.o with ⟨_ | _, k⟩ <;> cases p.ignoreGlobMatch <;> rfl

lemma writeObject_reject_eq (sw : ScanWriter F Obj) (p : ScanWriterParams F Obj)
    (h : sw.cfg.admits glob view p = some false) :
    ∃ fvals, sw.writeObject glob view p = some ({ sw with fvals }, true) := by
  unfold ScanConfig.admits at h
  rw [writeObject_eq_glob]
  split_ifs at h ⊢ with hg
  · refine ⟨if sw.cfg.fillsFvals then sw.cfg.fieldVals p.fields else sw.fvals, ?_⟩
    simp only [ScanWriter.fieldMatch, h, Option.map_some', Option.some_bind, Bool.not_false,
      if_true]
  · exact ⟨sw.fvals, rfl⟩

lemma writeObject_admit_eq (sw : ScanWriter F Obj) (p : ScanWriterParams F Obj)
    (h : sw.cfg.admits glob view p = some true) :
    ∃ fvals nfields, sw.writeObject glob view p = some ({ sw with fvals }.accept p nfields
      (p.ignoreGlobMatch || (sw.cfg.globMatch glob view p.id p.o).2)) := by
  unfold ScanConfig.admits at h
  rw [writeObject_eq_glob]
  split_ifs at h ⊢ with hg
  · refine ⟨if sw.cfg.fillsFvals then sw.cfg.fieldVals p.fields else sw.fvals,
      if sw.cfg.fillsFvals then sw.cfg.fieldVals p.fields else sw.fvals, ?_⟩
    simp only [ScanWriter.fieldMatch, h, Option.map_some', Option.some_bind, Bool.not_true,
      Bool.false_eq_true, if_false]
  · cases h

/-- A candidate the filters reject leaves the counters and the output alone, and the scan
goes on. -/
theorem writeObject_reject (sw : ScanWriter F Obj) (p : ScanWriterParams F Obj)
    (h : sw.cfg.admits glob view p = some false) :
    ∃ sw', sw.writeObject glob view p = some (sw', true) ∧ sw'.cfg = sw.cfg ∧
      sw'.count = sw.count ∧ sw'.numberItems = sw.numberItems ∧ sw'.hitLimit = sw.hitLimit ∧
      sw'.written = sw.written := by
  obtain ⟨fv, hw⟩ := writeObject_reject_eq glob view sw p h
  exact ⟨_, hw, rfl, rfl, rfl, rfl, rfl⟩

/-- An admitted candidate up to the cursor is only counted. -/
theorem writeObject_skip (sw : ScanWriter F Obj) (p : ScanWriterParams F Obj)
    (h : sw.cfg.admits glob view p = some true) (hs : sw.count + 1 ≤ sw.cfg.cursor) :
    ∃ sw', sw.writeObject glob view p = some (sw', true) ∧ sw'.cfg = sw.cfg ∧
      sw'.count = sw.count + 1 ∧ sw'.numberItems = sw.numberItems ∧
      sw'.hitLimit = sw.hitLimit ∧ sw'.written = sw.written := by
  obtain ⟨fv, nf, hw⟩ := writeObject_admit_eq glob view sw p h
  simp only [ScanWriter.accept, hs, if_true] at hw
  exact ⟨_, hw, rfl, rfl, rfl, rfl, rfl⟩

/-- An admitted candidate past the cursor is written; the scan stops at the limit, or when
the glob names a single id. -/
theorem writeObject_write (sw : ScanWriter F Obj) (p : ScanWriterParams F Obj)
    (h : sw.cfg.admits glob view p = some true) (hs : sw.cfg.cursor < sw.count + 1)
    (hout : sw.cfg.output ≠ .count) :
    ∃ sw' nf, sw.writeObject glob view p = some (sw',
        !decide (sw.numberItems + 1 = sw.cfg.limit) &&
          (p.ignoreGlobMatch || (sw.cfg.globMatch glob view p.id p.o).2)) ∧
      sw'.cfg = sw.cfg ∧ sw'.count = sw.count + 1 ∧ sw'.numberItems = sw.numberItems + 1 ∧
      sw'.hitLimit = (sw.hitLimit || decide (sw.numberItems + 1 = sw.cfg.limit)) ∧
      sw'.written = sw.written ++ [(p, nf)] := by
  obtain ⟨fv, nf, hw⟩ := writeObject_admit_eq glob view sw p h
  refine ⟨_, nf, hw.trans (congrArg some (Prod.ext rfl ?_)), ?_⟩ <;>
    rw [accept_write ({ sw with fvals := fv } : ScanWriter F Obj) p nf _ hs hout] <;>
    split_ifs with hl <;> simp [hl]

lemma writeObject_none (sw : ScanWriter F Obj) (p : ScanWriterParams F Obj)
    (h : sw.cfg.admits glob view p = none) : sw.writeObject glob view p = none := by
  unfold ScanConfig.admits at h
  split_ifs at h with hg
  rw [writeObject_eq_glob, if_pos hg, ScanWriter.fieldMatch]
  simp only [h, Option.map_none', Option.none_bind]

/-- A candidate writes at most one item, and the scan goes on only below the limit. -/
theorem writeObject_below_limit {sw sw1 : ScanWriter F Obj} {p : ScanWriterParams F Obj}
    (hout : sw.cfg.output ≠ .count) (h : sw.writeObject glob view p = some (sw1, true))
    (hl : sw.numberItems < sw.cfg.limit) :
    sw1.cfg = sw.cfg ∧ sw1.numberItems < sw1.cfg.limit := by
  rcases ha : sw.cfg.admits glob view p with _ | _ | _
  · simp [writeObject_none glob view sw p ha] at h
  · obtain ⟨sw2, hw, c2, -, n2, -⟩ := writeObject_reject glob view sw p ha
    rw [hw] at h; cases h
    exact ⟨c2, by rw [c2]; omega⟩
  · by_cases hs : sw.count + 1 ≤ sw.cfg.cursor
    · obtain ⟨sw2, hw, c2, -, n2, -⟩ := writeObject_skip glob view sw p ha hs
      rw [hw] at h; cases h
      exact ⟨c2, by rw [c2]; omega⟩
    · obtain ⟨sw2, nf, hw, c2, -, n2, -⟩ :=
        writeObject_write glob view sw p ha (by omega) hout
      rw [hw] at h
      simp only [Option.some.injEq, Prod.mk.injEq, Bool.and_eq_true, Bool.not_eq_eq_eq_not,
        Bool.not_true, decide_eq_false_iff_not] at h
      obtain ⟨rfl, hne, -⟩ := h
      exact ⟨c2, by rw [c2]; omega⟩

omit [Zero F] in
/-- The glob stops a scan only on the single id it names. -/
theorem globMatch_stop {cfg : ScanConfig F} {id : String} {o : Obj}
    (h : (cfg.globMatch glob view id o).2 = false) :
    cfg.globEverything = false ∧ cfg.globSingle = true ∧ cfg.globPattern = id := by
  unfold ScanConfig.globMatch at h
  cases he : cfg.globEverything <;> cases hs : cfg.globSingle <;> simp [he, hs] at h ⊢
  · split_ifs at h
  · by_contra hp
    rw [if_neg hp] at h
    cases h

omit [Zero F] in
/-- Once the glob has stopped a scan at the single id it names, no other id passes it. -/
theorem globMatch_other {cfg : ScanConfig F} {id id' : String} {o o' : Obj}
    (h : (cfg.globMatch glob view id o).2 = false) (hne : id' ≠ id) :
    (cfg.globMatch glob view id' o').1 = false := by
  obtain ⟨he, hs, hp⟩ := globMatch_stop glob view h
  unfold ScanConfig.globMatch
  simp only [he, hs, hp, Bool.not_false, if_true, if_pos (Ne.symm hne)]

/-- Once the glob has stopped a scan at the single id it names, a candidate with another id
and with glob matching on does not pass. -/
theorem passes_of_globStop {cfg : ScanConfig F} {id : String} {o : Obj}
    {q : ScanWriterParams F Obj} (hg : (cfg.globMatch glob view id o).2 = false)
    (hne : q.id ≠ id) (hq : q.ignoreGlobMatch = false) : cfg.passes glob view q = false := by
  unfold ScanConfig.passes ScanConfig.admits
  rw [hq, globMatch_other glob view hg hne]
  rfl

end Candidate

/-! ### A whole scan -/

section Scan

variable (glob : Glob) (view : ObjectView F Obj)

/-- The scan invariant: from a writer whose written count is its count past the cursor, and
that has not reached its limit, a scan writes the next admitted candidates past the cursor,
up to the limit, and reports the limit reached exactly when it wrote that many. -/
theorem scan_window (cfg : ScanConfig F)
    (hf : ∀ f i, cfg.fmap f = some i → i < cfg.farr.length) (hout : cfg.output ≠ .count)
    (ig : Bool) : ∀ (ps : List (ScanWriterParams F Obj)) (sw : ScanWriter F Obj),
      sw.cfg = cfg → (∀ p ∈ ps, p.ignoreGlobMatch = ig) → (ps.map (·.id)).Nodup →
      sw.numberItems = sw.count - cfg.cursor → sw.numberItems < cfg.limit →
      sw.hitLimit = false →
      ∃ sw', sw.scan glob view ps = some sw' ∧ sw'.cfg = cfg ∧
        sw'.written.map Prod.fst = sw.written.map Prod.fst ++
          ((ps.filter (cfg.passes glob view)).drop (cfg.cursor - sw.count)).take
            (cfg.limit - sw.numberItems) ∧
        sw'.numberItems = sw.numberItems +
          (((ps.filter (cfg.passes glob view)).drop (cfg.cursor - sw.count)).take
            (cfg.limit - sw.numberItems)).length ∧
        sw'.hitLimit = decide (sw'.numberItems = cfg.limit) := by
  intro ps
  induction ps with
  | nil =>
    intro sw hc _ _ _ hl hh
    exact ⟨sw, rfl, hc, by simp, by simp, by simp [hh]; omega⟩
  | cons p ps ih =>
    intro sw hc hig hid hn hl hh
    have hig' : ∀ q ∈ ps, q.ignoreGlobMatch = ig := fun q hq => hig q (.tail _ hq)
    have hid' : (ps.map (·.id)).Nodup := (List.nodup_cons.1 hid).2
    have hadm : sw.cfg.admits glob view p = some (cfg.passes glob view p) := by
      rw [hc]; exact admits_eq_passes glob view cfg hf p
    cases hb : cfg.passes glob view p with
    | false =>
      obtain ⟨sw1, hw, c1, k1, n1, h1, w1⟩ := writeObject_reject glob view sw p (hb ▸ hadm)
      obtain ⟨sw', h1', h2, h3, h4, h5⟩ :=
        ih sw1 (c1.trans hc) hig' hid' (by omega) (by omega) (h1.trans hh)
      refine ⟨sw', (ScanWriter.scan_cons_go ps hw).trans h1', h2, ?_, ?_, h5⟩ <;>
        rw [List.filter_cons_of_neg (by simp [hb]), ← k1, ← n1]
      · rwa [← w1]
      · exact h4
    | true =>
      simp only [List.filter_cons, hb, if_true]
      by_cases hskip : sw.count + 1 ≤ cfg.cursor
      · obtain ⟨sw1, hw, c1, k1, n1, h1, w1⟩ :=
          writeObject_skip glob view sw p (hb ▸ hadm) (hc ▸ hskip)
        obtain ⟨sw', h1', h2, h3, h4, h5⟩ :=
          ih sw1 (c1.trans hc) hig' hid' (by omega) (by omega) (h1.trans hh)
        have hd : cfg.cursor - sw.count = cfg.cursor - sw1.count + 1 := by omega
        refine ⟨sw', (ScanWriter.scan_cons_go ps hw).trans h1', h2, ?_, ?_, h5⟩
        · rwa [hd, List.drop_succ_cons, ← n1, ← w1]
        · rwa [hd, List.drop_succ_cons, ← n1]
      · obtain ⟨sw1, nf, hw, c1, k1, n1, h1, w1⟩ :=
          writeObject_write glob view sw p (hb ▸ hadm) (by rw [hc]; omega) (hc ▸ hout)
        have hd : cfg.cursor - sw.count = 0 := by omega
        have ht : cfg.limit - sw.numberItems = cfg.limit - sw1.numberItems + 1 := by omega
        simp only [hd, List.drop_zero, ht, List.take_succ_cons]
        rw [hc] at hw h1
        by_cases hlim : sw.numberItems + 1 = cfg.limit
        · simp only [hlim, decide_True, Bool.not_true, Bool.false_and] at hw
          have h0 : cfg.limit - (sw.numberItems + 1) = 0 := by omega
          refine ⟨sw1, ScanWriter.scan_cons_stop ps hw, c1.trans hc, by simp [w1, n1, h0], ?_, ?_⟩
          · simp [n1, h0]
          · simp [h1, n1, hlim]
        · simp only [hlim, decide_False, Bool.not_false, Bool.true_and] at hw
          cases hk : (p.ignoreGlobMatch || (cfg.globMatch glob view p.id p.o).2)
          · obtain ⟨hi, hg⟩ := Bool.or_eq_false_iff.1 hk
            have hnil : ps.filter (cfg.passes glob view) = [] :=
              List.filter_eq_nil_iff.2 fun q hq => by
                have hne : q.id ≠ p.id := fun he =>
                  (List.nodup_cons.1 hid).1 (List.mem_map.2 ⟨q, hq, he⟩)
                rw [passes_of_globStop glob view hg hne (by rw [hig' q hq, ← hig p (.head _), hi])]
                exact Bool.false_ne_true
            rw [hk] at hw
            refine ⟨sw1, ScanWriter.scan_cons_stop ps hw, c1.trans hc, by simp [w1, hnil], ?_, ?_⟩
            · simp [n1, hnil]
            · simp [h1, hh, n1, hlim]
          · rw [hk] at hw
            obtain ⟨sw', h1', h2, h3, h4, h5⟩ :=
              ih sw1 (c1.trans hc) hig' hid' (by omega) (by omega) (by simp [h1, hh, hlim])
            have hd' : cfg.cursor - sw1.count = 0 := by omega
            refine ⟨sw', (ScanWriter.scan_cons_go ps hw).trans h1', h2, ?_, ?_, h5⟩
            · simpa [w1, hd'] using h3
            · simp only [hd', List.drop_zero] at h4; simp only [h4, List.length_cons, n1]; omega

/-- Once a scan has written `limit` items it reads no further candidate. -/
theorem scan_append_of_limit (ys : List (ScanWriterParams F Obj)) :
    ∀ (xs : List (ScanWriterParams F Obj)) (sw sw' : ScanWriter F Obj),
      sw.cfg.output ≠ .count → sw.numberItems < sw.cfg.limit →
      sw.scan glob view xs = some sw' → sw'.numberItems = sw.cfg.limit →
      sw.scan glob view (xs ++ ys) = some sw' := by
  intro xs
  induction xs with
  | nil =>
    intro sw sw' _ hl h hn
    cases h; omega
  | cons x xs ih =>
    intro sw sw' hout hl h hn
    simp only [ScanWriter.scan] at h ⊢
    rcases hw : sw.writeObject glob view x with _ | ⟨sw1, _ | _⟩
    · simp [hw] at h
    · simpa [hw] using h
    · simp only [hw, Option.some_bind, if_true] at h ⊢
      obtain ⟨c1, hl1⟩ := writeObject_below_limit glob view hout hw hl
      exact ih sw1 sw' (c1 ▸ hout) hl1 h (c1 ▸ hn)

omit [Zero F] in
lemma accept_written (sw : ScanWriter F Obj) (p : ScanWriterParams F Obj) (nf : List F)
    (k : Bool) : (sw.accept p nf k).1.written = sw.written ∨
      (sw.accept p nf k).1.written = sw.written ++ [(p, nf)] := by
  dsimp only [ScanWriter.accept]
  split_ifs <;> simp

lemma writeObject_written {sw sw1 : ScanWriter F Obj} {p : ScanWriterParams F Obj} {go : Bool}
    (h : sw.writeObject glob view p = some (sw1, go)) :
    sw1.written = sw.written ∨ ∃ nf, sw1.written = sw.written ++ [(p, nf)] := by
  rcases ha : sw.cfg.admits glob view p with _ | _ | _
  · simp [writeObject_none glob view sw p ha] at h
  · obtain ⟨sw2, hw, -, -, -, -, w2⟩ := writeObject_reject glob view sw p ha
    rw [hw] at h; cases h
    exact .inl w2
  · obtain ⟨fv, nf, hw⟩ := writeObject_admit_eq glob view sw p ha
    rw [hw, Option.some.injEq] at h
    have key := accept_written { sw with fvals := fv } p nf
      (p.ignoreGlobMatch || (sw.cfg.globMatch glob view p.id p.o).2)
    rw [h] at key
    exact key.imp id fun h => ⟨nf, h⟩

omit [Zero F] in
lemma accept_cfg (sw : ScanWriter F Obj) (p : ScanWriterParams F Obj) (nf : List F) (k : Bool) :
    (sw.accept p nf k).1.cfg = sw.cfg := by
  dsimp only [ScanWriter.accept]
  split_ifs <;> rfl

lemma writeObject_cfg {sw sw1 : ScanWriter F Obj} {p : ScanWriterParams F Obj} {go : Bool}
    (h : sw.writeObject glob view p = some (sw1, go)) : sw1.cfg = sw.cfg := by
  rcases ha : sw.cfg.admits glob view p with _ | _ | _
  · simp [writeObject_none glob view sw p ha] at h
  · obtain ⟨sw2, hw, c2, -⟩ := writeObject_reject glob view sw p ha
    rw [hw] at h; cases h
    exact c2
  · obtain ⟨fv, nf, hw⟩ := writeObject_admit_eq glob view sw p ha
    rw [hw, Option.some.injEq] at h
    rw [← congrArg (·.1.cfg) h, accept_cfg]

/-- With a field map whose indices lie in the field array, a scan never panics. -/
theorem scan_isSome (cfg : ScanConfig F) (hf : ∀ f i, cfg.fmap f = some i → i < cfg.farr.length) :
    ∀ (ps : List (ScanWriterParams F Obj)) (sw : ScanWriter F Obj), sw.cfg = cfg →
      (sw.scan glob view ps).isSome
  | [], _, _ => rfl
  | p :: ps, sw, hc => by
    have ha := admits_eq_passes glob view sw.cfg (hc ▸ hf) p
    obtain ⟨⟨sw1, go⟩, hw⟩ : ∃ r, sw.writeObject glob view p = some r := by
      cases hp : sw.cfg.passes glob view p
      · exact (writeObject_reject_eq glob view sw p (hp ▸ ha)).elim fun _ h => ⟨_, h⟩
      · exact (writeObject_admit_eq glob view sw p (hp ▸ ha)).elim fun _ ⟨_, h⟩ => ⟨_, h⟩
    simp only [ScanWriter.scan, hw, Option.bind_eq_bind, Option.some_bind]
    cases go
    · rfl
    · exact scan_isSome cfg hf ps sw1 ((writeObject_cfg glob view hw).trans hc)

/-- A scan writes only candidates of its stream. -/
theorem scan_written_mem : ∀ (ps : List (ScanWriterParams F Obj)) (sw sw' : ScanWriter F Obj),
    sw.scan glob view ps = some sw' → ∀ x ∈ sw'.written, x ∈ sw.written ∨ x.1 ∈ ps := by
  intro ps
  induction ps with
  | nil => intro sw sw' h x hx; cases h; exact .inl hx
  | cons p ps ih =>
    intro sw sw' h x hx
    simp only [ScanWriter.scan] at h
    rcases hw : sw.writeObject glob view p with _ | ⟨sw1, go⟩
    · simp [hw] at h
    · have step : x ∈ sw1.written → x ∈ sw.written ∨ x.1 ∈ p :: ps := fun hx1 => by
        rcases writeObject_written glob view hw with h1 | ⟨nf, h1⟩
        · exact .inl (h1 ▸ hx1)
        · rw [h1, List.mem_append, List.mem_singleton] at hx1
          exact hx1.imp id fun e => by rw [e]; exact .head _
      cases go
      · simp only [hw, Option.some_bind] at h; cases h
        exact step hx
      · simp only [hw, Option.some_bind, if_true] at h
        exact (ih sw1 sw' h x hx).elim step fun hm => .inr (.tail _ hm)

/-- The candidates read by following the cursors a scan reports: a page from cursor `c`
and, while the reported cursor is not 0, the pages from that cursor, at most `fuel`
pages. -/
def pages (cfg : ScanConfig F) (ps : List (ScanWriterParams F Obj)) :
    Nat → Nat → Option (List (ScanWriterParams F Obj))
  | 0, _ => some []
  | fuel + 1, c =>
    ((ScanWriter.fresh { cfg with cursor := c } : ScanWriter F Obj).scan glob view ps).bind
      fun sw => if sw.footCursor = 0 then some (sw.written.map Prod.fst)
        else (pages cfg ps fuel sw.footCursor).map (sw.written.map Prod.fst ++ ·)

lemma passes_cursor (cfg : ScanConfig F) (c : Nat) :
    ({ cfg with cursor := c } : ScanConfig F).passes glob view = cfg.passes glob view := rfl

section Pages

variable (cfg : ScanConfig F) (hf : ∀ f i, cfg.fmap f = some i → i < cfg.farr.length)
  (hout : cfg.output ≠ .count) (ig : Bool) (ps : List (ScanWriterParams F Obj))
  (hig : ∀ p ∈ ps, p.ignoreGlobMatch = ig) (hid : (ps.map (·.id)).Nodup)
include hf hout hig hid

/-- One page from a fresh writer: the admitted candidates past the cursor, up to the
limit, and the reported cursor. -/
theorem scan_page (hl : 1 ≤ cfg.limit) :
    ∃ sw, (ScanWriter.fresh cfg : ScanWriter F Obj).scan glob view ps = some sw ∧
      sw.written.map Prod.fst = ((ps.filter (cfg.passes glob view)).drop cfg.cursor).take cfg.limit ∧
      sw.numberItems = (((ps.filter (cfg.passes glob view)).drop cfg.cursor).take cfg.limit).length ∧
      sw.footCursor = if sw.numberItems = cfg.limit then cfg.cursor + cfg.limit else 0 := by
  obtain ⟨sw, h1, h2, h3, h4, h5⟩ :=
    scan_window glob view cfg hf hout ig ps (.fresh cfg) rfl hig hid
      (by simp [ScanWriter.fresh]) (by simp [ScanWriter.fresh]; omega) rfl
  simp only [ScanWriter.fresh_count, ScanWriter.fresh_numberItems, ScanWriter.fresh_written,
    List.map_nil, List.nil_append, Nat.sub_zero, Nat.zero_add] at h3 h4
  refine ⟨sw, h1, h3, h4, ?_⟩
  unfold ScanWriter.footCursor
  rw [h5, h2]
  by_cases h : sw.numberItems = cfg.limit <;> simp [h]

/-- Following the reported cursors from `c` reads every admitted candidate past `c` once,
in order, given enough pages. -/
theorem pages_from (hl : 1 ≤ cfg.limit) : ∀ fuel c,
    ((ps.filter (cfg.passes glob view)).length - c) / cfg.limit < fuel →
      pages glob view cfg ps fuel c = some ((ps.filter (cfg.passes glob view)).drop c) := by
  intro fuel
  induction fuel with
  | zero => intro c h; exact absurd h (Nat.not_lt_zero _)
  | succ fuel ih =>
    intro c hfuel
    obtain ⟨sw, h1, h2, h3, h4⟩ := scan_page glob view { cfg with cursor := c } hf hout ig ps hig hid hl
    rw [passes_cursor] at h2 h3
    dsimp only at h2 h3 h4
    simp only [pages, h1, Option.some_bind]
    set L := ps.filter (cfg.passes glob view)
    rw [List.length_take, List.length_drop] at h3
    by_cases hfull : sw.numberItems = cfg.limit
    · have hne : sw.footCursor ≠ 0 := by rw [h4, if_pos hfull]; omega
      have hlen : cfg.limit ≤ L.length - c := by omega
      have hdiv : (L.length - c - cfg.limit + cfg.limit) / cfg.limit =
          (L.length - c - cfg.limit) / cfg.limit + 1 := Nat.add_div_right _ (by omega)
      rw [Nat.sub_add_cancel hlen] at hdiv
      rw [if_neg hne, h4, if_pos hfull, ih (c + cfg.limit) (by rw [Nat.sub_add_eq]; omega)]
      simp [h2, List.drop_drop, List.take_append_drop]
    · have h0 : sw.footCursor = 0 := by rw [h4, if_neg hfull]
      rw [if_pos h0, h2, List.take_of_length_le (by rw [List.length_drop]; omega)]

/-- Cursor pagination over any candidate stream with distinct ids: a page holds exactly the
admitted candidates whose rank among the admitted ones lies in `(cursor, cursor + limit]`,
in stream order; the scan reads nothing past the candidate that fills the page; the reported
cursor is `cursor + limit` after a full page and 0 otherwise; and following the reported
cursors from 0 until 0 reads every admitted candidate exactly once, in order. -/
theorem cursor_pagination (hl : 1 ≤ cfg.limit) :
    ∃ sw, (ScanWriter.fresh cfg : ScanWriter F Obj).scan glob view ps = some sw ∧
      sw.written.map Prod.fst =
        ((ps.filter (cfg.passes glob view)).drop cfg.cursor).take cfg.limit ∧
      (∀ pre p post, ps = pre ++ p :: post →
        ((ScanWriter.fresh cfg : ScanWriter F Obj).scan glob view (pre ++ [p])).map
          (·.numberItems) = some cfg.limit →
        (ScanWriter.fresh cfg : ScanWriter F Obj).scan glob view ps =
          (ScanWriter.fresh cfg : ScanWriter F Obj).scan glob view (pre ++ [p])) ∧
      sw.footCursor = (if sw.numberItems = cfg.limit then cfg.cursor + cfg.limit else 0) ∧
      ∀ fuel, (ps.filter (cfg.passes glob view)).length / cfg.limit < fuel →
        pages glob view cfg ps fuel 0 = some (ps.filter (cfg.passes glob view)) := by
  obtain ⟨sw, h1, h2, -, h4⟩ := scan_page glob view cfg hf hout ig ps hig hid hl
  refine ⟨sw, h1, h2, fun pre p post hps hfill => ?_, h4, fun fuel hfuel => ?_⟩
  · obtain ⟨sw', hs, hn⟩ := Option.map_eq_some'.1 hfill
    rw [hps, ← List.singleton_append, ← List.append_assoc]
    exact (scan_append_of_limit glob view post _ _ sw' hout (by simp [ScanWriter.fresh]; omega)
      hs hn).trans hs.symm
  · simpa using pages_from glob view cfg hf hout ig ps hig hid hl fuel 0 (by simpa using hfuel)

end Pages

/-- A writer with every candidate admitted, from cursor 1, one item a page. -/
def pageOfOne : ScanConfig Int :=
  ⟨fun _ => none, [], .ids, [], [], [], false, 1, 1, 0, "*", true, false, false, false⟩

/-- The glob and the object view of `pageOfOne`'s example: every pattern matches. -/
def anyGlob : Glob := ⟨fun _ _ => true, fun _ => true, fun _ _ => ("", "")⟩

def unitView : ObjectView Int Unit := ⟨fun _ => 0, fun _ => ""⟩

def twoIds : List (ScanWriterParams Int Unit) :=
  [⟨"a", (), [], 0, false⟩, ⟨"b", (), [], 0, false⟩]

/-- From cursor 1 with one item a page, the page over `a, b` holds `b`, and following the
cursors from 0 reads `a` then `b`. -/
theorem cursor_pagination_two_ids :
    ∃ sw, (ScanWriter.fresh pageOfOne : ScanWriter Int Unit).scan anyGlob unitView twoIds =
        some sw ∧ sw.written.map (·.1.id) = ["b"] ∧
      (pages anyGlob unitView pageOfOne twoIds 3 0).map (·.map (·.id)) = some ["a", "b"] := by
  obtain ⟨sw, h1, h2, -, -, h5⟩ := cursor_pagination anyGlob unitView pageOfOne
    (fun _ _ h => by cases h) (by decide) false twoIds (by simp [twoIds]) (by decide) (by decide)
  refine ⟨sw, h1, ?_, by rw [h5 3 (by decide)]; rfl⟩
  have hm : sw.written.map (·.1.id) = (sw.written.map Prod.fst).map (·.id) := by simp
  rw [hm, h2]
  rfl

end Scan

end Tile38
