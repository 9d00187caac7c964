import Mathlib
import Tile38.Scripts

/-!
# Search commands

`cmdScan`, `cmdSearch`, `cmdNearby` and `cmdWithinOrIntersects` after their arguments are
parsed. The collection is the black box of the collection package: its items in id order
and in value order, and its spatial iterators, which present some candidates to a
callback until the callback answers `false`. Expiration is read through `hasExpired`
(not under src), a predicate on a key and an id for the current time. Each command runs its
iteration with the panics of failing `WHEREEVAL` scripts, and recovers such a panic as its
error when the search has a `WHEREEVAL` clause; the iterations that take the scripts' answers
are the abstract side, related to these by `Panic.Refines`.
-/

namespace Tile38

variable {F Obj : Type} [Zero F]

/-- A collection: its items in id order and in value order, each an id, an object and field
values, and its field map and field array, whose indices lie in the array. -/
structure Collection (F Obj : Type) where
  items : List (String × Obj × List F)
  byValue : List (String × Obj × List F)
  fieldMap : String → Option Nat
  fieldArr : List String
  fieldMap_lt : ∀ f i, fieldMap f = some i → i < fieldArr.length

/-- The parsed arguments of a search (`searchScanBaseTokens`, whose parser is not under
src), as far as the modelled commands read them. -/
structure SearchScanBaseTokens (F : Type) where
  key : String
  cursor : Nat
  limit : Nat
  output : Output
  precision : Nat
  glob : String
  wheres : List (FieldTest F)
  whereins : List (FieldTest F)
  whereevals : List (WhereEval F)
  nofields : Bool
  desc : Bool
  fence : Bool
  distance : Bool

/-- `liveFenceSwitches`, as far as the modelled commands read them: the base tokens and
whether a NEARBY is a nearest-neighbour query. -/
structure LiveFenceSwitches (F : Type) extends SearchScanBaseTokens F where
  knn : Bool

/-- `Count()`. -/
def Collection.count (c : Collection F Obj) : Nat := c.items.length

/-- The candidate `writeObject` receives for an item. -/
def candidate (distance : F) (ignoreGlobMatch : Bool) : String × Obj × List F →
    ScanWriterParams F Obj
  | (id, o, fields) => ⟨id, o, fields, distance, ignoreGlobMatch⟩

/-- `Scan(desc, ...)` and `ScanRange(start, end, desc, ...)`: the items in id order, or in
reverse, and among them the ids in `[start, end)`. -/
def Collection.scanItems (c : Collection F Obj) (desc : Bool) : List (String × Obj × List F) :=
  if desc then c.items.reverse else c.items

def Collection.scanRange (c : Collection F Obj) (start stop : String) (desc : Bool) :
    List (String × Obj × List F) :=
  (c.scanItems desc).filter fun item => decide (start ≤ item.1) && decide (item.1 < stop)

/-- `SearchValues(desc, ...)` and `SearchValuesRange(start, end, desc, ...)`, in value
order. -/
def Collection.searchValues (c : Collection F Obj) (desc : Bool) :
    List (String × Obj × List F) :=
  if desc then c.byValue.reverse else c.byValue

/-- `int(x)` of a `uint64` value. -/
def toInt64 (x : Nat) : Int := if x < 2 ^ 63 then x else (x : Int) - 2 ^ 64

/-- Go's `int` arithmetic, which wraps around at 64 bits. -/
def wrapInt64 (x : Int) : Int := (x + 2 ^ 63) % 2 ^ 64 - 2 ^ 63

/-- The count of the COUNT shortcut: `col.Count() - int(cursor)`, and 0 when negative. -/
def shortcutCount (n cursor : Nat) : Nat := (wrapInt64 (n - toInt64 cursor)).toNat

section Commands

variable (glob : Glob) (view : ObjectView F Obj)

/-- A panic that no `recover` catches. -/
def panicked : String := "runtime error: index out of range"

/-- `usingLua`: the search has a `WHEREEVAL` clause. -/
def SearchScanBaseTokens.usingLua (s : SearchScanBaseTokens F) : Bool :=
  decide (s.whereevals.length > 0)

/-- The deferred function the search commands set when `usingLua()` holds: it recovers a
panic and answers its text as the error. A runtime error is not a text, so `r.(string)` panics
again; that panic, like any panic when no deferred function is set, nothing under src
recovers. -/
def recoverLua {α : Type} (usingLua : Bool) : Except Panic α → Except String α
  | .ok a => .ok a
  | .error (.script msg) => if usingLua then .error msg else .error panicked
  | .error .runtime => .error panicked

/-- The general path of `cmdScan`: every item of the collection, or the ids the glob can
match, through `writeObject`. -/
def scanCollection (sw : ScanWriter F Obj) (c : Collection F Obj) (desc : Bool) :
    Except Panic (ScanWriter F Obj) :=
  let g := glob.limits sw.cfg.globPattern desc
  if g.1 = "" ∧ g.2 = "" then sw.scanLua glob view ((c.scanItems desc).map (candidate 0 false))
  else sw.scanLua glob view ((c.scanRange g.1 g.2 desc).map (candidate 0 false))

/-- `cmdScan`, from the parsed arguments, for the key's collection. -/
def cmdScan (col : Option (Collection F Obj)) (s : SearchScanBaseTokens F) :
    Except String (ScanWriter F Obj) := do
  let sw ← newScanWriter glob (col.map fun c => (c.fieldMap, c.fieldArr)) s.output
    s.precision s.glob false s.cursor s.limit s.wheres s.whereins s.whereevals s.nofields
  match col with
  | none => return sw
  | some c =>
    if sw.cfg.output = .count ∧ sw.cfg.wheres.isEmpty ∧ sw.cfg.whereins.isEmpty ∧
        sw.cfg.globEverything then
      return { sw with count := shortcutCount c.count s.cursor }
    else recoverLua s.usingLua (scanCollection glob view sw c s.desc)

/-- The general path of `cmdSearch`: every item in value order, or the values the glob can
match, with the single-id shortcut of the glob turned off. -/
def searchCollection (sw : ScanWriter F Obj) (c : Collection F Obj) (desc : Bool) :
    Except Panic (ScanWriter F Obj) :=
  let g := glob.limits sw.cfg.globPattern desc
  if g.1 = "" ∧ g.2 = "" then
    sw.scanLua glob view ((c.searchValues desc).map (candidate 0 false))
  else
    let sw := { sw with cfg := { sw.cfg with globSingle := false } }
    sw.scanLua glob view (((c.searchValues desc).filter fun item =>
      decide (g.1 ≤ (view.text item.2.1)) && decide (view.text item.2.1 < g.2)).map
        (candidate 0 false))

/-- `cmdSearch`, from the parsed arguments, for the key's collection. -/
def cmdSearch (col : Option (Collection F Obj)) (s : SearchScanBaseTokens F) :
    Except String (ScanWriter F Obj) := do
  let sw ← newScanWriter glob (col.map fun c => (c.fieldMap, c.fieldArr)) s.output
    s.precision s.glob true s.cursor s.limit s.wheres s.whereins s.whereevals s.nofields
  match col with
  | none => return sw
  | some c =>
    if sw.cfg.output = .count ∧ sw.cfg.wheres.isEmpty ∧ sw.cfg.globEverything then
      return { sw with count := shortcutCount c.count s.cursor }
    else recoverLua s.usingLua (searchCollection glob view sw c s.desc)

/-- The iteration of a spatial search: `hasExpired` is asked first, and an expired id is
passed over without reaching the writer. The writer takes the scripts' answers. -/
def ScanWriter.scanSkipping (sw : ScanWriter F Obj) (expired : String → Bool) :
    List (ScanWriterParams F Obj) → Option (ScanWriter F Obj)
  | [] => some sw
  | p :: ps =>
    if expired p.id then sw.scanSkipping expired ps
    else do
      let (sw, go) ← sw.writeObject glob view p
      if go then sw.scanSkipping expired ps else some sw

/-- `scanSkipping`, with the scripts' panics. -/
def ScanWriter.scanSkippingLua (sw : ScanWriter F Obj) (expired : String → Bool) :
    List (ScanWriterParams F Obj) → Except Panic (ScanWriter F Obj)
  | [] => .ok sw
  | p :: ps =>
    if expired p.id then sw.scanSkippingLua expired ps
    else do
      let (sw, go) ← sw.writeObjectLua glob view p
      if go then sw.scanSkippingLua expired ps else .ok sw

/-- `cmdWithinOrIntersects`, from the parsed arguments; `stream` is what the collection's
`Within` or `Intersects` presents for the area. -/
def cmdWithinOrIntersects (hasExpired : String → String → Bool)
    (col : Option (Collection F Obj)) (stream : List (String × Obj × List F))
    (s : LiveFenceSwitches F) : Except String (ScanWriter F Obj) := do
  if s.fence then throw "going live"
  let sw ← newScanWriter glob (col.map fun c => (c.fieldMap, c.fieldArr)) s.output
    s.precision s.glob false s.cursor s.limit s.wheres s.whereins s.whereevals s.nofields
  match col with
  | none => return sw
  | some _ =>
    recoverLua s.usingLua
      (sw.scanSkippingLua glob view (hasExpired s.key) (stream.map (candidate 0 false)))

/-- `iterItem`: a candidate `nearestNeighbors` keeps, with its distance. -/
structure IterItem (F Obj : Type) where
  id : String
  o : Obj
  fields : List F
  dist : F

/-- The collecting loop of `nearestNeighbors`: keep the candidates that pass the field
clauses and the glob, with their distance, until `budget` are kept or the glob names a
single id. -/
def ScanWriter.collectNearest (distanceTo : Obj → F) (budget : Int) :
    ScanWriter F Obj → List (IterItem F Obj) → List (String × Obj × List F) →
      Option (ScanWriter F Obj × List (IterItem F Obj))
  | sw, items, [] => some (sw, items)
  | sw, items, (id, o, fields) :: rest => do
    let (sw, _, ok) ← sw.fieldMatch view fields o
    if !ok then sw.collectNearest distanceTo budget items rest
    else
      let (m, keepGoing) := sw.cfg.globMatch glob view id o
      if !m then sw.collectNearest distanceTo budget items rest
      else
        let items := items ++ [⟨id, o, fields, distanceTo o⟩]
        if !keepGoing then some (sw, items)
        else if (items.length : Int) < budget then sw.collectNearest distanceTo budget items rest
        else some (sw, items)

/-- `collectNearest`, with the scripts' panics. -/
def ScanWriter.collectNearestLua (distanceTo : Obj → F) (budget : Int) :
    ScanWriter F Obj → List (IterItem F Obj) → List (String × Obj × List F) →
      Except Panic (ScanWriter F Obj × List (IterItem F Obj))
  | sw, items, [] => .ok (sw, items)
  | sw, items, (id, o, fields) :: rest => do
    let (sw, _, ok) ← sw.fieldMatchLua view fields o
    if !ok then sw.collectNearestLua distanceTo budget items rest
    else
      let (m, keepGoing) := sw.cfg.globMatch glob view id o
      if !m then sw.collectNearestLua distanceTo budget items rest
      else
        let items := items ++ [⟨id, o, fields, distanceTo o⟩]
        if !keepGoing then .ok (sw, items)
        else if (items.length : Int) < budget then
          sw.collectNearestLua distanceTo budget items rest
        else .ok (sw, items)

/-- The `iterItem` the collecting loop of `nearestNeighbors` makes of an item: the item with
its distance. -/
def knnItem (distanceTo : Obj → F) : String × Obj × List F → IterItem F Obj
  | (id, o, fields) => ⟨id, o, fields, distanceTo o⟩

/-- `int(sw.cursor + sw.limit)`, the number of candidates `nearestNeighbors` collects: a
`uint64` sum converted to `int`. -/
def knnBudget (cfg : ScanConfig F) : Int := toInt64 ((cfg.cursor + cfg.limit) % 2 ^ 64)

/-- `nearestNeighbors` with the iterator of `cmdNearby`: collect, sort by distance (`sort`,
an unstable sort of the Go runtime), then hand each kept candidate, with glob matching
off, to the writer unless it has expired. -/
def nearestNeighbors (distanceTo : Obj → F) (sort : List (IterItem F Obj) → List (IterItem F Obj))
    (expired : String → Bool) (withDistance : Bool) (sw : ScanWriter F Obj)
    (stream : List (String × Obj × List F)) : Option (ScanWriter F Obj) := do
  let (sw, items) ← sw.collectNearest glob view distanceTo (knnBudget sw.cfg) [] stream
  sw.scanSkipping glob view expired ((sort items).map fun item =>
    ⟨item.id, item.o, item.fields, if withDistance then item.dist else 0, true⟩)

/-- `nearestNeighbors`, with the scripts' panics. -/
def nearestNeighborsLua (distanceTo : Obj → F)
    (sort : List (IterItem F Obj) → List (IterItem F Obj)) (expired : String → Bool)
    (withDistance : Bool) (sw : ScanWriter F Obj) (stream : List (String × Obj × List F)) :
    Except Panic (ScanWriter F Obj) := do
  let (sw, items) ← sw.collectNearestLua glob view distanceTo (knnBudget sw.cfg) [] stream
  sw.scanSkippingLua glob view expired ((sort items).map fun item =>
    ⟨item.id, item.o, item.fields, if withDistance then item.dist else 0, true⟩)

/-- `cmdNearby`, from the parsed arguments; `stream` is what the collection's `Nearby`
presents for the circle, or what `NearestNeighbors` presents in KNN mode. -/
def cmdNearby (hasExpired : String → String → Bool) (distanceTo : Obj → F)
    (sort : List (IterItem F Obj) → List (IterItem F Obj)) (col : Option (Collection F Obj))
    (stream : List (String × Obj × List F)) (s : LiveFenceSwitches F) :
    Except String (ScanWriter F Obj) := do
  if s.fence then throw "going live"
  let sw ← newScanWriter glob (col.map fun c => (c.fieldMap, c.fieldArr)) s.output
    s.precision s.glob false s.cursor s.limit s.wheres s.whereins s.whereevals s.nofields
  match col with
  | none => return sw
  | some _ =>
    recoverLua s.usingLua (if s.knn then
        nearestNeighborsLua glob view distanceTo sort (hasExpired s.key) s.distance sw stream
      else sw.scanSkippingLua glob view (hasExpired s.key) (stream.map fun (id, o, fields) =>
        ⟨id, o, fields, if s.distance then distanceTo o else 0, false⟩))

end Commands

/-! ### The iterations with the scripts' panics -/

section Scripts

variable (glob : Glob) (view : ObjectView F Obj)

omit [Zero F] in
@[simp] lemma candidate_id (d : F) (ig : Bool) (item : String × Obj × List F) :
    (candidate d ig item).id = item.1 := rfl

/-- Passing over the expired ids is scanning the stream without them. -/
theorem scanSkipping_eq_scan (expired : String → Bool) :
    ∀ (ps : List (ScanWriterParams F Obj)) (sw : ScanWriter F Obj),
      sw.scanSkipping glob view expired ps =
        sw.scan glob view (ps.filter fun p => !expired p.id) := by
  intro ps
  induction ps with
  | nil => intro sw; rfl
  | cons p ps ih =>
    intro sw
    cases he : expired p.id <;>
      simp [ScanWriter.scanSkipping, ScanWriter.scan, List.filter_cons, he, ih]

lemma scanSkippingLua_eq_scanLua (expired : String → Bool) :
    ∀ (ps : List (ScanWriterParams F Obj)) (sw : ScanWriter F Obj),
      sw.scanSkippingLua glob view expired ps =
        sw.scanLua glob view (ps.filter fun p => !expired p.id) := by
  intro ps
  induction ps with
  | nil => intro sw; rfl
  | cons p ps ih =>
    intro sw
    cases he : expired p.id <;>
      simp [ScanWriter.scanSkippingLua, ScanWriter.scanLua, List.filter_cons, he, ih]

lemma scanSkippingLua_refines (expired : String → Bool) (ps : List (ScanWriterParams F Obj))
    (sw : ScanWriter F Obj) :
    Panic.Refines (fun msg => ∃ p ∈ ps, sw.cfg.scriptFails p.fields msg)
      (sw.scanSkippingLua glob view expired ps) (sw.scanSkipping glob view expired ps) := by
  rw [scanSkippingLua_eq_scanLua, scanSkipping_eq_scan]
  exact (ScanWriter.scanLua_refines glob view _ sw).mono fun msg ⟨p, hp, h⟩ =>
    ⟨p, List.mem_of_mem_filter hp, h⟩

lemma fieldMatch_writer {sw : ScanWriter F Obj} {fields : List F} {o : Obj}
    {r : ScanWriter F Obj × List F × Bool} (h : sw.fieldMatch view fields o = some r) :
    r.1 = { sw with fvals := r.2.1 } := by
  unfold ScanWriter.fieldMatch at h
  obtain ⟨ok, -, rfl⟩ := Option.map_eq_some'.1 h
  rfl

lemma fieldMatch_clause {sw : ScanWriter F Obj} {fields : List F} {o : Obj}
    {r : ScanWriter F Obj × List F × Bool} (h : sw.fieldMatch view fields o = some r) :
    sw.cfg.clauseMatch view fields o = some r.2.2 := by
  unfold ScanWriter.fieldMatch at h
  obtain ⟨ok, hok, rfl⟩ := Option.map_eq_some'.1 h
  exact hok

lemma collectNearest_writer (distanceTo : Obj → F) (budget : Int) :
    ∀ (stream : List (String × Obj × List F)) (sw sw1 : ScanWriter F Obj)
      (items items1 : List (IterItem F Obj)),
      sw.collectNearest glob view distanceTo budget items stream = some (sw1, items1) →
      ∃ fv, sw1 = { sw with fvals := fv } := by
  intro stream
  induction stream with
  | nil => intro sw sw1 items items1 h; cases h; exact ⟨sw.fvals, rfl⟩
  | cons item rest ih =>
    intro sw sw1 items items1 h
    obtain ⟨id, o, fields⟩ := item
    simp only [ScanWriter.collectNearest] at h
    rcases hm : sw.fieldMatch view fields o with _ | ⟨sw2, nf, ok⟩
    · simp [hm] at h
    · have e2 : sw2 = { sw with fvals := nf } := fieldMatch_writer view hm
      have step : ∀ items', sw2.collectNearest glob view distanceTo budget items' rest =
          some (sw1, items1) → ∃ fv, sw1 = { sw with fvals := fv } := fun items' h' => by
        obtain ⟨fv, rfl⟩ := ih sw2 sw1 items' items1 h'
        exact ⟨fv, by rw [e2]⟩
      simp only [hm, Option.bind_eq_bind, Option.some_bind] at h
      repeat' split at h
      all_goals first | exact step _ h | (cases h; exact ⟨nf, e2⟩)

lemma collectNearest_sublist (distanceTo : Obj → F) (budget : Int) :
    ∀ (stream : List (String × Obj × List F)) (sw sw1 : ScanWriter F Obj)
      (items items1 : List (IterItem F Obj)),
      sw.collectNearest glob view distanceTo budget items stream = some (sw1, items1) →
      ∃ sub, List.Sublist sub stream ∧ items1 = items ++ sub.map (knnItem distanceTo)
  | [], _, _, _, _, h => by cases h; exact ⟨[], .slnil, (List.append_nil _).symm⟩
  | (id, o, fields) :: rest, sw, sw1, items, items1, h => by
    simp only [ScanWriter.collectNearest] at h
    rcases hm : sw.fieldMatch view fields o with _ | ⟨sw2, nf, ok⟩
    · simp [hm] at h
    simp only [hm, Option.bind_eq_bind, Option.some_bind] at h
    repeat' split at h
    all_goals first
      | (obtain ⟨sub, hs, rfl⟩ := collectNearest_sublist distanceTo budget rest _ _ _ _ h
         first
          | exact ⟨sub, hs.cons _, rfl⟩
          | exact ⟨(id, o, fields) :: sub, hs.cons₂ _, by simp [knnItem]⟩)
      | (cases h; exact ⟨[(id, o, fields)], (List.nil_sublist _).cons₂ _, rfl⟩)

lemma collectNearestLua_refines (distanceTo : Obj → F) (budget : Int) :
    ∀ (stream : List (String × Obj × List F)) (sw : ScanWriter F Obj)
      (items : List (IterItem F Obj)),
      Panic.Refines (fun msg => ∃ x ∈ stream, sw.cfg.scriptFails x.2.2 msg)
        (sw.collectNearestLua glob view distanceTo budget items stream)
        (sw.collectNearest glob view distanceTo budget items stream)
  | [], _, _ => .pure _
  | (id, o, fields) :: rest, sw, items => by
    refine ((sw.fieldMatchLua_refines view fields o).mono fun msg h => ⟨_, .head _, h⟩).bind
      fun ⟨sw1, nf, ok⟩ h1 => ?_
    have c1 : sw1.cfg = sw.cfg := by
      have e := fieldMatch_writer view h1
      dsimp only at e
      rw [e]
    have ih : ∀ items', Panic.Refines
        (fun msg => ∃ x ∈ (id, o, fields) :: rest, sw.cfg.scriptFails x.2.2 msg)
        (sw1.collectNearestLua glob view distanceTo budget items' rest)
        (sw1.collectNearest glob view distanceTo budget items' rest) := fun items' =>
      (collectNearestLua_refines distanceTo budget rest sw1 items').mono
        fun msg ⟨x, hx, hf⟩ => ⟨x, .tail _ hx, c1 ▸ hf⟩
    cases ok
    · exact ih items
    dsimp only
    rcases sw1.cfg.globMatch glob view id o with ⟨_ | _, _ | _⟩
    · exact ih items
    · exact ih items
    · exact .pure _
    by_cases hb : ((items ++ [IterItem.mk id o fields (distanceTo o)]).length : Int) < budget
    · rw [if_pos hb, if_pos hb]
      exact ih _
    · rw [if_neg hb, if_neg hb]
      exact .pure _

/-- NEARBY's nearest-neighbour search with the scripts' panics refines the search with
their answers; a failure is one of a script on a candidate of the stream. -/
theorem nearestNeighborsLua_refines (distanceTo : Obj → F)
    (sort : List (IterItem F Obj) → List (IterItem F Obj)) (hsort : ∀ items, (sort items).Perm items)
    (expired : String → Bool) (wd : Bool) (sw : ScanWriter F Obj)
    (stream : List (String × Obj × List F)) :
    Panic.Refines (fun msg => ∃ x ∈ stream, sw.cfg.scriptFails x.2.2 msg)
      (nearestNeighborsLua glob view distanceTo sort expired wd sw stream)
      (nearestNeighbors glob view distanceTo sort expired wd sw stream) := by
  refine (collectNearestLua_refines glob view distanceTo _ stream sw []).bind
    fun ⟨sw1, items⟩ h1 => ?_
  obtain ⟨fv, rfl⟩ := collectNearest_writer glob view distanceTo _ stream sw sw1 [] items h1
  obtain ⟨sub, hsub, rfl⟩ := collectNearest_sublist glob view distanceTo _ stream sw _ [] items h1
  refine (scanSkippingLua_refines glob view expired _ _).mono fun msg ⟨p, hp, hf⟩ => ?_
  obtain ⟨item, hi, rfl⟩ := List.mem_map.1 hp
  obtain ⟨x, hx, rfl⟩ := List.mem_map.1 ((hsort _).mem_iff.1 hi)
  exact ⟨x, hsub.subset hx, hf⟩

lemma nearestNeighborsLua_ok (distanceTo : Obj → F)
    (sort : List (IterItem F Obj) → List (IterItem F Obj)) (expired : String → Bool) (wd : Bool)
    {sw sw' : ScanWriter F Obj} {stream : List (String × Obj × List F)}
    (h : nearestNeighborsLua glob view distanceTo sort expired wd sw stream = .ok sw') :
    nearestNeighbors glob view distanceTo sort expired wd sw stream = some sw' := by
  have hr : Panic.Refines (fun _ => True)
      (nearestNeighborsLua glob view distanceTo sort expired wd sw stream)
      (nearestNeighbors glob view distanceTo sort expired wd sw stream) :=
    ((collectNearestLua_refines glob view distanceTo _ stream sw []).mono fun _ _ => trivial).bind
      fun ⟨sw1, _⟩ _ => (scanSkippingLua_refines glob view expired _ sw1).mono fun _ _ => trivial
  exact hr.eq_some h

omit [Zero F] in
lemma recoverLua_ok {α : Type} {u : Bool} {r : Except Panic α} {a : α}
    (h : recoverLua u r = .ok a) : r = .ok a := by
  rcases r with (_ | msg) | a'
  · cases h
  · cases u <;> cases h
  · simp only [recoverLua, Except.ok.injEq] at h
    rw [h]

lemma usingLua_of_scriptFails {s : SearchScanBaseTokens F} {cfg : ScanConfig F} {fields : List F}
    {msg : String} (hwe : cfg.whereevals = s.whereevals) (h : cfg.scriptFails fields msg) :
    s.usingLua = true := by
  obtain ⟨we, hw, -⟩ := h
  exact decide_eq_true (List.length_pos_of_mem (hwe ▸ hw))

omit [Zero F] in
/-- When the run with the scripts' answers does not panic, the recovered run fails only with
the text of a failed script. -/
lemma recoverLua_error {α : Type} {fails : String → Prop} {u : Bool} {r : Except Panic α}
    {a : α} {e : String} (hr : Panic.Refines fails r (some a))
    (hu : ∀ msg, fails msg → u = true) (h : recoverLua u r = .error e) : fails e := by
  rcases r with p | a'
  · obtain ⟨msg, hm, rfl⟩ := hr.script_of_error rfl
    simp only [recoverLua, hu msg hm, if_true, Except.error.injEq] at h
    exact h ▸ hm
  · cases h

lemma written_eq_nil_of_newScanWriter {glob : Glob} {colFields : Option ((String → Option Nat) × List String)}
    {output : Output} {precision : Nat} {globPattern : String} {matchValues : Bool}
    {cursor limit : Nat} {wheres whereins : List (FieldTest F)} {whereevals : List (WhereEval F)}
    {nofields : Bool} {sw : ScanWriter F Obj}
    (h : newScanWriter glob colFields output precision globPattern matchValues cursor limit wheres
      whereins whereevals nofields = .ok sw) : sw.written = [] := by
  unfold newScanWriter at h
  split_ifs at h <;> cases h <;> rfl

lemma newScanWriter_error {glob : Glob} {colFields : Option ((String → Option Nat) × List String)}
    {output : Output} {precision : Nat} {globPattern : String} {matchValues : Bool}
    {cursor limit : Nat} {wheres whereins : List (FieldTest F)} {whereevals : List (WhereEval F)}
    {nofields : Bool} {e : String}
    (h : (newScanWriter glob colFields output precision globPattern matchValues cursor limit wheres
      whereins whereevals nofields : Except String (ScanWriter F Obj)) = .error e) :
    e = "invalid output type" := by
  unfold newScanWriter at h
  split_ifs at h
  cases h
  rfl

lemma newScanWriter_cfg {glob : Glob} {fm : String → Option Nat} {fa : List String}
    {output : Output} {precision : Nat} {globPattern : String} {matchValues : Bool}
    {cursor limit : Nat} {wheres whereins : List (FieldTest F)} {whereevals : List (WhereEval F)}
    {nofields : Bool} {sw : ScanWriter F Obj}
    (h : newScanWriter glob (some (fm, fa)) output precision globPattern matchValues cursor limit
      wheres whereins whereevals nofields = .ok sw) :
    sw = .fresh sw.cfg ∧ sw.cfg.fmap = fm ∧ sw.cfg.farr = fa ∧ sw.cfg.output = output ∧
      sw.cfg.cursor = cursor ∧ 1 ≤ sw.cfg.limit ∧ sw.cfg.whereevals = whereevals := by
  unfold newScanWriter at h
  split_ifs at h <;> cases h <;> refine ⟨rfl, rfl, rfl, rfl, rfl, ?_, rfl⟩ <;>
    simp only [ScanWriter.fresh_cfg, maxUint64, limitItems] <;> omega

end Scripts

/-! ### COUNT queries -/

section Count

variable (glob : Glob) (view : ObjectView F Obj)

/-- The general path of a COUNT query on SEARCH. -/
def cmdSearchGeneral (c : Collection F Obj) (s : SearchScanBaseTokens F) :
    Except String (ScanWriter F Obj) := do
  let sw ← newScanWriter glob (some (c.fieldMap, c.fieldArr)) s.output s.precision s.glob true
    s.cursor s.limit s.wheres s.whereins s.whereevals s.nofields
  recoverLua s.usingLua (searchCollection glob view sw c s.desc)

/-- Two items with no `age` field. -/
def people : Collection Int Unit :=
  ⟨[("a", (), []), ("b", (), [])], [("a", (), []), ("b", (), [])], fun _ => none, [],
    fun _ _ h => nomatch h⟩

/-- `SEARCH people WHEREIN age 1 30 COUNT`. -/
def countAgeIn30 : SearchScanBaseTokens Int :=
  ⟨"people", 0, 0, .count, 0, "*", [], [⟨"age", fun v => v == 30⟩], [], false, false, false,
    false⟩

/-- SEARCH answers this COUNT from the shortcut, which reads neither item, while the general
path admits neither of them. -/
theorem search_count_shortcut_ignores_wherein :
    (cmdSearch anyGlob unitView (some people) countAgeIn30).map (·.count) = .ok 2 ∧
      (cmdSearchGeneral anyGlob unitView people countAgeIn30).map (·.count) = .ok 0 :=
  ⟨rfl, rfl⟩

end Count

/-! ### Expired items -/

section Expiration

variable (glob : Glob) (view : ObjectView F Obj)

/-- WITHIN and INTERSECTS answer as if the expired items were not in the collection. -/
theorem cmdWithinOrIntersects_hides_expired (hasExpired : String → String → Bool)
    (col : Option (Collection F Obj)) (stream : List (String × Obj × List F))
    (s : LiveFenceSwitches F) :
    cmdWithinOrIntersects glob view hasExpired col stream s =
      cmdWithinOrIntersects glob view (fun _ _ => false) col
        (stream.filter fun item => !hasExpired s.key item.1) s := by
  simp [cmdWithinOrIntersects, scanSkippingLua_eq_scanLua, List.filter_map, Function.comp_def]

/-- NEARBY in radius mode answers as if the expired items were not in the collection. -/
theorem cmdNearby_radius_hides_expired (hasExpired : String → String → Bool)
    (distanceTo : Obj → F) (sort : List (IterItem F Obj) → List (IterItem F Obj))
    (col : Option (Collection F Obj)) (stream : List (String × Obj × List F))
    (s : LiveFenceSwitches F) (hk : s.knn = false) :
    cmdNearby glob view hasExpired distanceTo sort col stream s =
      cmdNearby glob view (fun _ _ => false) distanceTo sort col
        (stream.filter fun item => !hasExpired s.key item.1) s := by
  simp [cmdNearby, hk, scanSkippingLua_eq_scanLua, List.filter_map, Function.comp_def]

lemma scanSkipping_unexpired {expired : String → Bool} {ps : List (ScanWriterParams F Obj)}
    {sw sw' : ScanWriter F Obj} (h : sw.scanSkipping glob view expired ps = some sw') :
    ∀ x ∈ sw'.written, x ∈ sw.written ∨ expired x.1.id = false := by
  rw [scanSkipping_eq_scan] at h
  intro x hx
  refine (scan_written_mem glob view _ sw sw' h x hx).imp id fun hm => ?_
  simpa using (List.mem_filter.1 hm).2

/-- KNN NEARBY writes no expired item: `nearestNeighbors` asks `hasExpired` before the
writer sees a kept candidate. -/
theorem nearestNeighbors_unexpired (distanceTo : Obj → F)
    (sort : List (IterItem F Obj) → List (IterItem F Obj)) (expired : String → Bool)
    (wd : Bool) {sw sw' : ScanWriter F Obj} {stream : List (String × Obj × List F)}
    (h : nearestNeighbors glob view distanceTo sort expired wd sw stream = some sw') :
    ∀ x ∈ sw'.written, x ∈ sw.written ∨ expired x.1.id = false := by
  unfold nearestNeighbors at h
  obtain ⟨⟨sw1, items⟩, hc, hs⟩ := Option.bind_eq_some.1 h
  obtain ⟨fv, rfl⟩ := collectNearest_writer glob view distanceTo _ stream sw sw1 [] items hc
  have hw := scanSkipping_unexpired glob view
    (show ScanWriter.scanSkipping glob view { sw with fvals := fv } expired _ = some sw' from hs)
  exact hw

/-- NEARBY, in radius and in KNN mode, writes no item whose id has expired. -/
theorem cmdNearby_unexpired (hasExpired : String → String → Bool) (distanceTo : Obj → F)
    (sort : List (IterItem F Obj) → List (IterItem F Obj)) (col : Option (Collection F Obj))
    (stream : List (String × Obj × List F)) (s : LiveFenceSwitches F) {sw : ScanWriter F Obj}
    (h : cmdNearby glob view hasExpired distanceTo sort col stream s = .ok sw) :
    ∀ x ∈ sw.written, hasExpired s.key x.1.id = false := by
  unfold cmdNearby at h
  simp only [bind, Except.bind, pure, Except.pure] at h
  split at h
  · cases h
  · split at h
    · cases h
    · rename_i sw0 hn
      have h0 : ∀ x ∈ sw0.written, hasExpired s.key x.1.id = false := by
        simp [written_eq_nil_of_newScanWriter hn]
      split at h
      · cases h; exact h0
      · have hr := recoverLua_ok h
        intro x hx
        split at hr
        · exact (nearestNeighbors_unexpired glob view _ _ _ _
            (nearestNeighborsLua_ok glob view _ _ _ _ hr) x hx).elim (h0 x) id
        · exact (scanSkipping_unexpired glob view
            ((scanSkippingLua_refines glob view _ _ _).eq_some hr) x hx).elim (h0 x) id

/-- A collection holding one item, `truck1`, with no fields. -/
def fleet : Collection Int Unit := ⟨[("truck1", (), [])], [], fun _ => none, [], fun _ _ h => nomatch h⟩

/-- `SCAN fleet`, or a WITHIN over `fleet`, writing ids. -/
def idsOfFleet : LiveFenceSwitches Int :=
  ⟨⟨"fleet", 0, 0, .ids, 0, "*", [], [], [], false, false, false, false⟩, false⟩

/-- `hasExpired` once `truck1` of `fleet` is past its deadline and not purged yet. -/
def truck1Expired (key id : String) : Bool := key == "fleet" && id == "truck1"

/-- `truck1` has expired and the expirer has not purged it yet: SCAN writes it, while WITHIN
over the same item writes nothing. -/
theorem scan_writes_expired_item :
    truck1Expired "fleet" "truck1" = true ∧
      (cmdScan anyGlob unitView (some fleet) idsOfFleet.toSearchScanBaseTokens).map
        (fun sw => sw.written.map (·.1.id)) = .ok ["truck1"] ∧
      (cmdWithinOrIntersects anyGlob unitView truck1Expired (some fleet) fleet.items idsOfFleet).map
        (fun sw => sw.written.map (·.1.id)) = .ok [] :=
  ⟨rfl, rfl, rfl⟩

/-- NEARBY over `fleet` in radius mode, with `truck1` expired. -/
theorem nearby_fleet_hides_truck1 :
    cmdNearby anyGlob unitView truck1Expired (fun _ => 0) id (some fleet) fleet.items idsOfFleet =
      cmdNearby anyGlob unitView (fun _ _ => false) (fun _ => 0) id (some fleet)
        (fleet.items.filter fun item => !truck1Expired idsOfFleet.key item.1) idsOfFleet :=
  cmdNearby_radius_hides_expired anyGlob unitView truck1Expired (fun _ => 0) id (some fleet)
    fleet.items idsOfFleet rfl

end Expiration

/-! ### The window of a nearest-neighbour query -/

section Window

variable (glob : Glob) (view : ObjectView F Obj) (distanceTo : Obj → F)

/-- The collecting loop keeps the first `b` candidates that pass the field clauses and the
glob, in stream order. -/
theorem collectNearest_take (cfg : ScanConfig F)
    (hf : ∀ f i, cfg.fmap f = some i → i < cfg.farr.length) (b : Nat) :
    ∀ (stream : List (String × Obj × List F)) (sw : ScanWriter F Obj)
      (items : List (IterItem F Obj)),
      sw.cfg = cfg → (stream.map (·.1)).Nodup → items.length < b →
      ∃ sw1, sw.collectNearest glob view distanceTo b items stream = some (sw1, items ++
        ((stream.filter fun x => cfg.passes glob view (candidate 0 false x)).take
          (b - items.length)).map (knnItem distanceTo)) := by
  intro stream
  induction stream with
  | nil => intro sw items _ _ _; exact ⟨sw, by simp [ScanWriter.collectNearest]⟩
  | cons x rest ih =>
    intro sw items hc hid hlt
    obtain ⟨id, o, fields⟩ := x
    have hid' : (rest.map (·.1)).Nodup := (List.nodup_cons.1 hid).2
    rcases hm : sw.fieldMatch view fields o with _ | ⟨sw2, nf, ok⟩
    · have := clauseMatch_isSome view cfg hf fields o
      simp [ScanWriter.fieldMatch, hc] at hm
      simp [hm] at this
    · have c2 : sw2.cfg = cfg := by
        have e := fieldMatch_writer view hm
        dsimp only at e
        rw [e]; exact hc
      have hcl : cfg.clauseMatch view fields o = some ok := hc ▸ fieldMatch_clause view hm
      have hpass : cfg.passes glob view (candidate 0 false (id, o, fields)) =
          ((cfg.globMatch glob view id o).1 && ok) := by
        unfold ScanConfig.passes ScanConfig.admits
        simp only [candidate, Bool.false_or, hcl]
        cases (cfg.globMatch glob view id o).1 <;> rfl
      simp only [ScanWriter.collectNearest, hm, Option.bind_eq_bind, Option.some_bind, c2]
      rw [List.filter_cons, hpass]
      obtain ⟨k, hk⟩ : ∃ k, b - items.length = k + 1 := ⟨b - items.length - 1, by omega⟩
      rcases hg : cfg.globMatch glob view id o with ⟨m, keep⟩
      cases ok
      · simp only [Bool.not_false, if_true, Bool.and_false, Bool.false_eq_true, if_false]
        exact ih sw2 items c2 hid' hlt
      cases m
      · simp only [Bool.not_false, Bool.not_true, if_true, Bool.false_and, Bool.false_eq_true,
          if_false]
        exact ih sw2 items c2 hid' hlt
      simp only [Bool.not_true, Bool.false_eq_true, if_false, Bool.and_self, if_true, hk,
        List.take_succ_cons, List.map_cons]
      cases keep
      · have hnil : rest.filter (fun x => cfg.passes glob view (candidate 0 false x)) = [] :=
          List.filter_eq_nil_iff.2 fun ⟨qid, qo, qf⟩ hq => by
            have hne : qid ≠ id := fun he =>
              (List.nodup_cons.1 hid).1 (List.mem_map.2 ⟨_, hq, he⟩)
            have hp : cfg.passes glob view (candidate 0 false (qid, qo, qf)) = false :=
              passes_of_globStop glob view (by rw [hg]) hne rfl
            rw [hp]
            exact Bool.false_ne_true
        refine ⟨sw2, ?_⟩
        simp only [Bool.not_false, if_true, hnil, List.take_nil, List.map_nil]
        rfl
      · simp only [Bool.not_true, Bool.false_eq_true, if_false, List.length_append,
          List.length_singleton]
        by_cases hb : items.length + 1 < b
        · obtain ⟨sw1, h1⟩ := ih sw2 (items ++ [knnItem distanceTo (id, o, fields)]) c2 hid'
            (by rw [List.length_append, List.length_singleton]; exact hb)
          rw [if_pos (by exact_mod_cast hb)]
          refine ⟨sw1, h1.trans ?_⟩
          have hk' : b - (items ++ [knnItem distanceTo (id, o, fields)]).length = k := by
            rw [List.length_append, List.length_singleton]; omega
          rw [hk', List.append_assoc]
          rfl
        · rw [if_neg (by exact_mod_cast hb)]
          have hk0 : k = 0 := by omega
          refine ⟨sw2, ?_⟩
          rw [hk0, List.take_zero, List.map_nil]
          rfl

omit [Zero F] in
lemma knnBudget_eq {cfg : ScanConfig F} (hb : cfg.cursor + cfg.limit < 2 ^ 63) :
    knnBudget cfg = ((cfg.cursor + cfg.limit : Nat) : Int) := by
  unfold knnBudget toInt64
  rw [Nat.mod_eq_of_lt (by omega), if_pos hb]

lemma passes_ignoreGlobMatch (cfg : ScanConfig F) (id : String) (o : Obj) (fields : List F)
    (d : F) : cfg.passes glob view ⟨id, o, fields, d, true⟩ =
      (cfg.clauseMatch view fields o).getD false := rfl

lemma clauseMatch_of_passes {cfg : ScanConfig F} {id : String} {o : Obj} {fields : List F}
    {d : F} (h : cfg.passes glob view (candidate d false (id, o, fields)) = true) :
    (cfg.clauseMatch view fields o).getD false = true := by
  unfold ScanConfig.passes ScanConfig.admits at h
  split_ifs at h
  · exact h
  · cases h

/-- The window of a KNN query: when the budget `cursor + limit` fits in an `int` and none of
the candidates it collects has expired, `nearestNeighbors` writes the candidates of ranks
`cursor + 1` to `cursor + limit` of the sorted collection. -/
theorem nearestNeighbors_window (cfg : ScanConfig F)
    (hf : ∀ f i, cfg.fmap f = some i → i < cfg.farr.length) (hout : cfg.output ≠ .count)
    (hl : 1 ≤ cfg.limit) (hb : cfg.cursor + cfg.limit < 2 ^ 63)
    (sort : List (IterItem F Obj) → List (IterItem F Obj)) (hsort : ∀ items, (sort items).Perm items)
    (expired : String → Bool) (wd : Bool) (stream : List (String × Obj × List F))
    (hid : (stream.map (·.1)).Nodup)
    (hexp : ∀ x ∈ (stream.filter fun x => cfg.passes glob view (candidate 0 false x)).take
      (cfg.cursor + cfg.limit), expired x.1 = false) :
    ∃ sw, nearestNeighbors glob view distanceTo sort expired wd (.fresh cfg) stream = some sw ∧
      sw.written.map Prod.fst =
        (((sort (((stream.filter fun x => cfg.passes glob view (candidate 0 false x)).take
          (cfg.cursor + cfg.limit)).map (knnItem distanceTo))).drop cfg.cursor).take
            cfg.limit).map fun item =>
          ⟨item.id, item.o, item.fields, if wd then item.dist else 0, true⟩ := by
  set A := stream.filter fun x => cfg.passes glob view (candidate 0 false x)
  set items := (A.take (cfg.cursor + cfg.limit)).map (knnItem distanceTo)
  set feed : List (ScanWriterParams F Obj) := (sort items).map fun item =>
    ⟨item.id, item.o, item.fields, if wd then item.dist else 0, true⟩
  obtain ⟨sw1, h1⟩ := collectNearest_take glob view distanceTo cfg hf (cfg.cursor + cfg.limit)
    stream (.fresh cfg) [] rfl hid (by simp only [List.length_nil]; omega)
  rw [List.nil_append, List.length_nil, Nat.sub_zero] at h1
  obtain ⟨fv, rfl⟩ := collectNearest_writer glob view distanceTo _ stream _ _ [] items h1
  have hmem : ∀ p ∈ feed, ∃ x ∈ A.take (cfg.cursor + cfg.limit), p.id = x.1 ∧
      cfg.passes glob view p = true := by
    intro p hp
    obtain ⟨item, hi, rfl⟩ := List.mem_map.1 hp
    obtain ⟨x, hx, rfl⟩ := List.mem_map.1 ((hsort items).mem_iff.1 hi)
    obtain ⟨id, o, fields⟩ := x
    exact ⟨_, hx, rfl, by
      rw [passes_ignoreGlobMatch]
      exact clauseMatch_of_passes glob view (List.mem_filter.1 (List.mem_of_mem_take hx)).2⟩
  have hfeed : feed.filter (cfg.passes glob view) = feed :=
    List.filter_eq_self.2 fun p hp => by obtain ⟨x, -, -, h⟩ := hmem p hp; exact h
  have hskip : feed.filter (fun p => !expired p.id) = feed :=
    List.filter_eq_self.2 fun p hp => by
      obtain ⟨x, hx, he, -⟩ := hmem p hp
      simp [he, hexp x hx]
  have hnd : (feed.map (·.id)).Nodup := by
    have e : feed.map (·.id) = (sort items).map (·.id) := by simp [feed, Function.comp_def]
    rw [e]
    refine ((hsort items).map _).nodup_iff.2 ?_
    have e2 : items.map (·.id) = (A.take (cfg.cursor + cfg.limit)).map (·.1) := by
      simp only [items, List.map_map]
      rfl
    rw [e2]
    exact (hid.sublist ((List.filter_sublist _).map _)).sublist ((List.take_sublist _ _).map _)
  obtain ⟨sw', h2, -, h3, -, -⟩ := scan_window glob view cfg hf hout true feed
    ({ (ScanWriter.fresh cfg : ScanWriter F Obj) with fvals := fv }) rfl
    (fun p hp => by obtain ⟨item, -, rfl⟩ := List.mem_map.1 hp; rfl) hnd (Nat.zero_sub _).symm
    (by show 0 < cfg.limit; omega) rfl
  refine ⟨sw', ?_, ?_⟩
  · unfold nearestNeighbors
    simp only [ScanWriter.fresh_cfg, knnBudget_eq hb, h1, Option.bind_eq_bind, Option.some_bind]
    rw [scanSkipping_eq_scan, hskip]
    exact h2
  · rw [h3, hfeed]
    simp only [ScanWriter.fresh_written, ScanWriter.fresh_count, ScanWriter.fresh_numberItems,
      List.map_nil, List.nil_append, Nat.sub_zero, feed, List.map_drop, List.map_take]

/-- The distances a KNN query writes: when the iterator presents the items by nondecreasing
distance and `sort` orders by distance, they are the `cursor + 1`-th to `cursor + limit`-th
smallest distances of the candidates that pass the filters, in ascending order. -/
theorem nearestNeighbors_window_distances [LinearOrder F] (cfg : ScanConfig F)
    (hf : ∀ f i, cfg.fmap f = some i → i < cfg.farr.length) (hout : cfg.output ≠ .count)
    (hl : 1 ≤ cfg.limit) (hb : cfg.cursor + cfg.limit < 2 ^ 63)
    (sort : List (IterItem F Obj) → List (IterItem F Obj)) (hsort : ∀ items, (sort items).Perm items)
    (hsorted : ∀ items, ((sort items).map (·.dist)).Sorted (· ≤ ·))
    (expired : String → Bool) (stream : List (String × Obj × List F))
    (hid : (stream.map (·.1)).Nodup) (hnear : (stream.map fun x => distanceTo x.2.1).Sorted (· ≤ ·))
    (hexp : ∀ x ∈ (stream.filter fun x => cfg.passes glob view (candidate 0 false x)).take
      (cfg.cursor + cfg.limit), expired x.1 = false) :
    ∃ sw, nearestNeighbors glob view distanceTo sort expired true (.fresh cfg) stream = some sw ∧
      sw.written.map (·.1.distance) =
        (((stream.filter fun x => cfg.passes glob view (candidate 0 false x)).map
          fun x => distanceTo x.2.1).drop cfg.cursor).take cfg.limit := by
  obtain ⟨sw, h1, h2⟩ := nearestNeighbors_window glob view distanceTo cfg hf hout hl hb sort hsort
    expired true stream hid hexp
  refine ⟨sw, h1, ?_⟩
  set A := stream.filter fun x => cfg.passes glob view (candidate 0 false x)
  set items := (A.take (cfg.cursor + cfg.limit)).map (knnItem distanceTo)
  have hitems : items.map (·.dist) =
      (A.map fun x => distanceTo x.2.1).take (cfg.cursor + cfg.limit) := by
    simp only [items, List.map_map, ← List.map_take]
    rfl
  have hdist : (sort items).map (·.dist) = items.map (·.dist) := by
    refine List.eq_of_perm_of_sorted ((hsort items).map _) (hsorted items) ?_
    rw [hitems]
    exact hnear.sublist ((List.take_sublist _ _).trans ((List.filter_sublist _).map _))
  have := congrArg (List.map (·.distance)) h2
  simp only [List.map_map, Function.comp_def, if_true] at this
  rw [this, List.map_take, List.map_drop, hdist, hitems, List.drop_take, List.take_take,
    Nat.add_sub_cancel_left, min_self]

lemma cmdNearby_knn (hasExpired : String → String → Bool)
    (sort : List (IterItem F Obj) → List (IterItem F Obj)) (c : Collection F Obj)
    (stream : List (String × Obj × List F)) (s : LiveFenceSwitches F) (hfence : s.fence = false)
    (hknn : s.knn = true) {sw0 : ScanWriter F Obj}
    (hsw : newScanWriter glob (some (c.fieldMap, c.fieldArr)) s.output s.precision s.glob false
      s.cursor s.limit s.wheres s.whereins s.whereevals s.nofields = .ok sw0) :
    cmdNearby glob view hasExpired distanceTo sort (some c) stream s =
      recoverLua s.usingLua
        (nearestNeighborsLua glob view distanceTo sort (hasExpired s.key) s.distance sw0 stream) := by
  simp only [cmdNearby, hfence, hknn, Option.map_some', hsw, if_true, Bool.false_eq_true, if_false]
  rfl

/-- The window of KNN NEARBY: with a budget that fits in an `int` and no expired item among
the candidates collected, the items written are those of ranks `cursor + 1` to
`cursor + limit` of the sorted collection. -/
theorem cmdNearby_knn_window (hasExpired : String → String → Bool)
    (sort : List (IterItem F Obj) → List (IterItem F Obj)) (hsort : ∀ items, (sort items).Perm items)
    (c : Collection F Obj) (stream : List (String × Obj × List F)) (s : LiveFenceSwitches F)
    (hfence : s.fence = false) (hknn : s.knn = true) (hout : s.output ≠ .count)
    {sw0 : ScanWriter F Obj}
    (hsw : newScanWriter glob (some (c.fieldMap, c.fieldArr)) s.output s.precision s.glob false
      s.cursor s.limit s.wheres s.whereins s.whereevals s.nofields = .ok sw0)
    (hb : sw0.cfg.cursor + sw0.cfg.limit < 2 ^ 63) (hid : (stream.map (·.1)).Nodup)
    (hexp : ∀ x ∈ (stream.filter fun x => sw0.cfg.passes glob view (candidate 0 false x)).take
      (sw0.cfg.cursor + sw0.cfg.limit), hasExpired s.key x.1 = false)
    (hlua : ∀ x ∈ stream, ∀ we ∈ s.whereevals, we.raise (fieldsWithNames c.fieldMap x.2.2) = none) :
    ∃ sw, cmdNearby glob view hasExpired distanceTo sort (some c) stream s = .ok sw ∧
      sw.written.map Prod.fst =
        (((sort (((stream.filter fun x => sw0.cfg.passes glob view (candidate 0 false x)).take
          (sw0.cfg.cursor + sw0.cfg.limit)).map (knnItem distanceTo))).drop sw0.cfg.cursor).take
            sw0.cfg.limit).map fun item =>
          ⟨item.id, item.o, item.fields, if s.distance then item.dist else 0, true⟩ := by
  obtain ⟨hfr, hfm, hfa, ho, -, hl, hwe⟩ := newScanWriter_cfg hsw
  obtain ⟨sw, h1, h2⟩ := nearestNeighbors_window glob view distanceTo sw0.cfg
    (fun f i h => hfa ▸ c.fieldMap_lt f i (hfm ▸ h)) (ho ▸ hout) hl hb sort hsort
    (hasExpired s.key) s.distance stream hid hexp
  rw [← hfr] at h1
  have hr := (nearestNeighborsLua_refines glob view distanceTo sort hsort (hasExpired s.key)
    s.distance sw0 stream).eq_lift fun msg ⟨x, hx, we, hw, hm⟩ => by
      rw [hfm, hlua x hx we (hwe ▸ hw)] at hm
      cases hm
  refine ⟨sw, ?_, h2⟩
  rw [cmdNearby_knn glob view distanceTo hasExpired sort c stream s hfence hknn hsw, hr, h1]
  rfl

end Window

/-! ### Nearest neighbours -/

/-- Two points, `a` at distance 1 and `b` at distance 2 from the query point. -/
def twoPoints : Collection Int Int :=
  ⟨[("a", 1, []), ("b", 2, [])], [], fun _ => none, [], fun _ _ h => nomatch h⟩

def pointView : ObjectView Int Int := ⟨fun _ => 0, fun _ => ""⟩

/-- `NEARBY points LIMIT l POINT lat lon`: a KNN query writing ids. -/
def knnQuery (l : Nat) : LiveFenceSwitches Int :=
  ⟨⟨"points", 0, l, .ids, 0, "*", [], [], [], false, false, false, false⟩, true⟩

/-- A sort by distance; on these items every sort by distance agrees with it. -/
def byDistance (items : List (IterItem Int Int)) : List (IterItem Int Int) :=
  items.insertionSort fun x y => x.dist ≤ y.dist

/-- `hasExpired` once `a` is past its deadline and not purged yet. -/
def onlyAExpired (_ id : String) : Bool := id == "a"

/-- `a` has expired and `b` has not. With LIMIT 1 the nearest-neighbour loop collects `a`
alone, which is then dropped as expired, and nothing is written; with LIMIT 2 `b` is
written. -/
theorem knn_expired_item_uses_up_budget :
    (cmdNearby anyGlob pointView onlyAExpired id byDistance (some twoPoints) twoPoints.items
        (knnQuery 1)).map (fun sw => sw.written.map (·.1.id)) = .ok [] ∧
      (cmdNearby anyGlob pointView onlyAExpired id byDistance (some twoPoints) twoPoints.items
        (knnQuery 2)).map (fun sw => sw.written.map (·.1.id)) = .ok ["b"] :=
  ⟨rfl, rfl⟩

/-- With none expired, KNN NEARBY with LIMIT 2 writes `a`, then `b`. -/
theorem knn_nearest_two_points :
    ∃ sw, cmdNearby anyGlob pointView (fun _ _ => false) id byDistance (some twoPoints)
        twoPoints.items (knnQuery 2) = .ok sw ∧
      sw.written.map (·.1.id) = ["a", "b"] := by
  obtain ⟨sw, h, hw⟩ := cmdNearby_knn_window anyGlob pointView id (fun _ _ => false) byDistance
    (fun _ => List.perm_insertionSort _ _) twoPoints twoPoints.items (knnQuery 2) rfl rfl
    (by decide) rfl (by decide) (by decide) (fun _ _ => rfl) (fun _ _ _ h => by cases h)
  refine ⟨sw, h, ?_⟩
  have hid := congrArg (List.map ScanWriterParams.id) hw
  rw [List.map_map] at hid
  exact hid.trans rfl

/-! ### Recovered script failures -/

section Recover

variable (glob : Glob) (view : ObjectView F Obj)

lemma scanSkipping_isSome (cfg : ScanConfig F)
    (hf : ∀ f i, cfg.fmap f = some i → i < cfg.farr.length) (expired : String → Bool)
    (ps : List (ScanWriterParams F Obj)) (sw : ScanWriter F Obj) (hc : sw.cfg = cfg) :
    (sw.scanSkipping glob view expired ps).isSome := by
  rw [scanSkipping_eq_scan]
  exact scan_isSome glob view cfg hf _ sw hc

lemma collectNearest_isSome (distanceTo : Obj → F) (budget : Int) (cfg : ScanConfig F)
    (hf : ∀ f i, cfg.fmap f = some i → i < cfg.farr.length) :
    ∀ (stream : List (String × Obj × List F)) (sw : ScanWriter F Obj)
      (items : List (IterItem F Obj)), sw.cfg = cfg →
      (sw.collectNearest glob view distanceTo budget items stream).isSome
  | [], _, _, _ => rfl
  | (id, o, fields) :: rest, sw, items, hc => by
    obtain ⟨ok, hok⟩ := Option.isSome_iff_exists.1 (clauseMatch_isSome view cfg hf fields o)
    simp only [ScanWriter.collectNearest, ScanWriter.fieldMatch, hc, hok, Option.map_some',
      Option.bind_eq_bind, Option.some_bind]
    repeat' split
    all_goals first | rfl | exact collectNearest_isSome distanceTo budget cfg hf rest _ _ rfl

lemma nearestNeighbors_isSome (distanceTo : Obj → F)
    (sort : List (IterItem F Obj) → List (IterItem F Obj)) (expired : String → Bool) (wd : Bool)
    (cfg : ScanConfig F) (hf : ∀ f i, cfg.fmap f = some i → i < cfg.farr.length)
    (sw : ScanWriter F Obj) (stream : List (String × Obj × List F)) (hc : sw.cfg = cfg) :
    (nearestNeighbors glob view distanceTo sort expired wd sw stream).isSome := by
  obtain ⟨⟨sw1, items⟩, h1⟩ := Option.isSome_iff_exists.1
    (collectNearest_isSome glob view distanceTo (knnBudget sw.cfg) cfg hf stream sw [] hc)
  obtain ⟨fv, rfl⟩ := collectNearest_writer glob view distanceTo _ stream sw sw1 [] items h1
  simp only [nearestNeighbors, h1, Option.bind_eq_bind, Option.some_bind]
  exact scanSkipping_isSome glob view cfg hf expired _ _ hc

lemma scanSkippingLua_recovered {expired : String → Bool} {ps : List (ScanWriterParams F Obj)}
    {sw : ScanWriter F Obj} {s : SearchScanBaseTokens F} {e : String}
    (hf : ∀ f i, sw.cfg.fmap f = some i → i < sw.cfg.farr.length)
    (hwe : sw.cfg.whereevals = s.whereevals)
    (h : recoverLua s.usingLua (sw.scanSkippingLua glob view expired ps) = .error e) :
    ∃ p ∈ ps, sw.cfg.scriptFails p.fields e := by
  obtain ⟨sw1, h1⟩ := Option.isSome_iff_exists.1
    (scanSkipping_isSome glob view sw.cfg hf expired ps sw rfl)
  have hr := scanSkippingLua_refines glob view expired ps sw
  rw [h1] at hr
  exact recoverLua_error hr (fun _ ⟨_, _, hf⟩ => usingLua_of_scriptFails hwe hf) h

lemma spatialSearch_error {s : LiveFenceSwitches F} {fm : String → Option Nat} {fa : List String}
    (run : ScanWriter F Obj → Except String (ScanWriter F Obj)) {e : String}
    (h : (do
        if s.fence then throw "going live"
        let sw ← newScanWriter glob (some (fm, fa)) s.output s.precision s.glob false s.cursor
          s.limit s.wheres s.whereins s.whereevals s.nofields
        run sw : Except String (ScanWriter F Obj)) = .error e) :
    e = "going live" ∨ e = "invalid output type" ∨
      ∃ sw0, newScanWriter glob (some (fm, fa)) s.output s.precision s.glob false s.cursor s.limit
        s.wheres s.whereins s.whereevals s.nofields = .ok sw0 ∧ run sw0 = .error e := by
  cases hfe : s.fence
  · rcases hn : (newScanWriter glob (some (fm, fa)) s.output s.precision s.glob false s.cursor
        s.limit s.wheres s.whereins s.whereevals s.nofields :
        Except String (ScanWriter F Obj)) with e' | sw0
    · simp only [hfe, hn, Bool.false_eq_true, if_false, bind, Except.bind, pure, Except.pure,
        Except.error.injEq] at h
      exact .inr (.inl (h ▸ newScanWriter_error hn))
    · simp only [hfe, hn, Bool.false_eq_true, if_false, bind, Except.bind, pure,
        Except.pure] at h
      exact .inr (.inr ⟨sw0, rfl, h⟩)
  · simp only [hfe, if_true, throw, throwThe, MonadExceptOf.throw, bind, Except.bind,
      Except.error.injEq] at h
    exact .inl h.symm

/-- Every error WITHIN or INTERSECTS answers over a collection is `going live`, the writer's
`invalid output type`, or the text of a `WHEREEVAL` script that failed on a candidate: the
deferred function recovers each failed script, and nothing else panics. -/
theorem cmdWithinOrIntersects_errors (hasExpired : String → String → Bool)
    (c : Collection F Obj) (stream : List (String × Obj × List F)) (s : LiveFenceSwitches F)
    {e : String} (h : cmdWithinOrIntersects glob view hasExpired (some c) stream s = .error e) :
    e = "going live" ∨ e = "invalid output type" ∨
      ∃ x ∈ stream, ∃ we ∈ s.whereevals, we.raise (fieldsWithNames c.fieldMap x.2.2) = some e := by
  rcases spatialSearch_error glob _ h with h | h | ⟨sw0, hn, h⟩
  · exact .inl h
  · exact .inr (.inl h)
  obtain ⟨-, hfm, hfa, -, -, -, hwe⟩ := newScanWriter_cfg hn
  obtain ⟨p, hp, we, hw, hm⟩ := scanSkippingLua_recovered glob view
    (fun f i h => hfa ▸ c.fieldMap_lt f i (hfm ▸ h)) hwe h
  obtain ⟨x, hx, rfl⟩ := List.mem_map.1 hp
  exact .inr (.inr ⟨x, hx, we, hwe ▸ hw, hfm ▸ hm⟩)

/-- Every error NEARBY answers over a collection, in radius or in KNN mode, is `going live`,
the writer's `invalid output type`, or the text of a `WHEREEVAL` script that failed on a
candidate: the deferred function recovers each failed script, and nothing else panics. -/
theorem cmdNearby_errors (hasExpired : String → String → Bool) (distanceTo : Obj → F)
    (sort : List (IterItem F Obj) → List (IterItem F Obj)) (hsort : ∀ items, (sort items).Perm items)
    (c : Collection F Obj) (stream : List (String × Obj × List F)) (s : LiveFenceSwitches F)
    {e : String} (h : cmdNearby glob view hasExpired distanceTo sort (some c) stream s = .error e) :
    e = "going live" ∨ e = "invalid output type" ∨
      ∃ x ∈ stream, ∃ we ∈ s.whereevals, we.raise (fieldsWithNames c.fieldMap x.2.2) = some e := by
  rcases spatialSearch_error glob _ h with h | h | ⟨sw0, hn, h⟩
  · exact .inl h
  · exact .inr (.inl h)
  obtain ⟨-, hfm, hfa, -, -, -, hwe⟩ := newScanWriter_cfg hn
  have hf : ∀ f i, sw0.cfg.fmap f = some i → i < sw0.cfg.farr.length :=
    fun f i h => hfa ▸ c.fieldMap_lt f i (hfm ▸ h)
  refine .inr (.inr ?_)
  cases hk : s.knn
  · simp only [hk, Bool.false_eq_true, if_false] at h
    obtain ⟨p, hp, we, hw, hm⟩ := scanSkippingLua_recovered glob view hf hwe h
    obtain ⟨x, hx, rfl⟩ := List.mem_map.1 hp
    exact ⟨x, hx, we, hwe ▸ hw, hfm ▸ hm⟩
  · simp only [hk, if_true] at h
    obtain ⟨sw1, h1⟩ := Option.isSome_iff_exists.1 (nearestNeighbors_isSome glob view distanceTo
      sort (hasExpired s.key) s.distance sw0.cfg hf sw0 stream rfl)
    have hr := nearestNeighborsLua_refines glob view distanceTo sort hsort (hasExpired s.key)
      s.distance sw0 stream
    rw [h1] at hr
    obtain ⟨x, hx, we, hw, hm⟩ :=
      recoverLua_error hr (fun _ ⟨_, _, hf⟩ => usingLua_of_scriptFails hwe hf) h
    exact ⟨x, hx, we, hwe ▸ hw, hfm ▸ hm⟩

end Recover

/-- A search over `fleet` with a `WHEREEVAL` script that fails on every item. -/
def failingScriptQuery : LiveFenceSwitches Int :=
  ⟨⟨"fleet", 0, 0, .ids, 0, "*", [], [], [⟨0, fun _ => true, fun _ => some "boom"⟩], false,
    false, false, false⟩, false⟩

/-- WITHIN answers the script's text. -/
theorem within_failing_script :
    cmdWithinOrIntersects anyGlob unitView (fun _ _ => false) (some fleet) fleet.items
        failingScriptQuery = .error "boom" ∧
      ("boom" = "going live" ∨ "boom" = "invalid output type" ∨
        ∃ x ∈ fleet.items, ∃ we ∈ failingScriptQuery.whereevals,
          we.raise (fieldsWithNames fleet.fieldMap x.2.2) = some "boom") :=
  ⟨rfl, cmdWithinOrIntersects_errors anyGlob unitView (fun _ _ => false) fleet fleet.items
    failingScriptQuery rfl⟩

/-- NEARBY in radius mode answers the script's text. -/
theorem nearby_failing_script :
    cmdNearby anyGlob unitView (fun _ _ => false) (fun _ => 0) id (some fleet) fleet.items
        failingScriptQuery = .error "boom" ∧
      ("boom" = "going live" ∨ "boom" = "invalid output type" ∨
        ∃ x ∈ fleet.items, ∃ we ∈ failingScriptQuery.whereevals,
          we.raise (fieldsWithNames fleet.fieldMap x.2.2) = some "boom") :=
  ⟨rfl, cmdNearby_errors anyGlob unitView (fun _ _ => false) (fun _ => 0) id
    (fun _ => List.Perm.refl _) fleet fleet.items failingScriptQuery rfl⟩

end Tile38
