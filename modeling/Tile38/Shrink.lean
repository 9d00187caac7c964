import Mathlib
import Tile38.Hooks
import Tile38.Resp

/-!
# AOF shrink

The copy phase of `aofshrink`: key batches of `maxkeys` keys from `nextkey` on, and for each
key, id batches of `maxids` items from `nextid` on, each batch read under the lock at its own
time, with foreground writes in between appended to `shrinklog`. Every item becomes a `set`
record: its non-zero fields, `ex` with the time it has left when that is positive, and the
tokens of its object. The shrunk file is the records, the hook records, then the
`shrinklog`, each record appended to `aofbuf` as a multi-bulk array, and `aofbuf` written to the
file after each id batch that leaves it over `maxchunk`, after the hook records, and at the end.

The collection package is a black box: a collection is its field names and its items in id
order. Replaying a record uses SET, whose handler is not under src. Without concurrent writes
the copy writes the record of every item, key by key, and replaying them restores every object
and every deadline that has not passed.
-/

namespace Tile38

/-- `maxkeys` and `maxids`. -/
def maxkeys : Nat := 8

def maxids : Nat := 32

/-- The batch sizes of the copy: keys per key batch and ids per id batch, both positive. -/
structure BatchSizes where
  keys : Nat
  ids : Nat
  keys_pos : 0 < keys
  ids_pos : 0 < ids

/-- `maxkeys` and `maxids`, the sizes `aofshrink` uses. -/
def BatchSizes.source : BatchSizes := ⟨maxkeys, maxids, by decide, by decide⟩

/-- An item as `aofshrink` reads it: its id, the tokens its object is written as (`point lat
lon`, `object json` or `string text`, by the object's type), and its field values. -/
structure ShrinkItem (F : Type) where
  id : String
  obj : List String
  fields : List F
  deriving DecidableEq, Repr

/-- A collection: its field names (`FieldArr()`) and its items in id order. -/
structure ShrinkCol (F : Type) where
  fieldArr : List String
  items : List (ShrinkItem F)
  deriving DecidableEq, Repr

/-- The collection store in key order, and the expiration deadlines in nanoseconds. -/
structure Store (F : Type) where
  cols : List (String × ShrinkCol F)
  expires : String → String → Option Int

variable {F : Type} [Zero F] [DecidableEq F]

/-- `getCol`. -/
def Store.getCol (st : Store F) (key : String) : Option (ShrinkCol F) :=
  (st.cols.find? fun c => c.1 = key).map (·.2)

/-- The `field name value` tokens of the non-zero fields; `fmt` is
`strconv.FormatFloat(v, 'f', -1, 64)`. -/
def fieldTokens (fmt : F → String) (fnames : List String) (fields : List F) : List String :=
  ((fnames.zip fields).filter fun nv => nv.2 ≠ 0).flatMap fun nv => ["field", nv.1, fmt nv.2]

/-- `strconv.FormatFloat(t / 10, 'f', -1, 64)` for a whole number `t` of tenths. -/
def formatTenths (t : Int) : String :=
  toString (t / 10) ++ if t % 10 = 0 then "" else "." ++ toString (t % 10)

/-- The `ex` tokens: the time left, floored to tenths of a second, when it is positive. -/
def exTokens (deadline : Option Int) (now : Int) : List String :=
  match deadline with
  | some due => if due - now > 0 then ["ex", formatTenths ((due - now) / 100000000)] else []
  | none => []

/-- The `set` record of an item. -/
def setRecord (fmt : F → String) (key : String) (fnames : List String)
    (exm : String → Option Int) (now : Int) (item : ShrinkItem F) : List String :=
  ["set", key, item.id] ++ fieldTokens fmt fnames item.fields ++ exTokens (exm item.id) now ++
    item.obj

@[simp] lemma setRecord_take (fmt : F → String) (key : String) (fnames : List String)
    (exm : String → Option Int) (now : Int) (x : ShrinkItem F) :
    (setRecord fmt key fnames exm now x).take 3 = ["set", key, x.id] := by
  simp [setRecord]

lemma setRecord_key (fmt : F → String) (key : String) (fnames : List String)
    (exm : String → Option Int) (now : Int) (x : ShrinkItem F) :
    (setRecord fmt key fnames exm now x).getD 1 "" = key := rfl

lemma setRecord_id (fmt : F → String) (key : String) (fnames : List String)
    (exm : String → Option Int) (now : Int) (x : ShrinkItem F) :
    (setRecord fmt key fnames exm now x).getD 2 "" = x.id := rfl

/-- One key batch: `scanGreaterOrEqual(nextkey, ...)` keeps up to `maxkeys` keys and notes the
next one. -/
def keyBatch (bs : BatchSizes) (st : Store F) (nextkey : String) : List String × Option String :=
  let ks := (st.cols.map (·.1)).filter fun k => nextkey.toList ≤ k.toList
  (ks.take bs.keys, ks.get? bs.keys)

/-- One id batch of a key at time `now`: up to `maxids` records from `nextid` on, and the next
id. A key whose collection is gone gives nothing. -/
def idBatch (bs : BatchSizes) (fmt : F → String) (st : Store F) (key nextid : String) (now : Int) :
    List (List String) × Option String :=
  match st.getCol key with
  | none => ([], none)
  | some col =>
    let items := col.items.filter fun it => nextid.toList ≤ it.id.toList
    ((items.take bs.ids).map (setRecord fmt key col.fieldArr (st.expires key) now),
      (items.get? bs.ids).map (·.id))

/-- Where the copy loop is: loading keys, in the id batches of the first key of the batch
from `nextid`, or done. -/
inductive Phase
  | loadKeys
  | ids (nextid : String)
  | finished
  deriving DecidableEq, Repr

/-- The state of the copy loop and what it has written. -/
structure Shrink where
  phase : Phase
  keys : List String
  nextkey : String
  keysdone : Bool
  records : List (List String)
  deriving DecidableEq, Repr

/-- The copy loop when `aofshrink` starts. -/
def Shrink.start : Shrink := ⟨.loadKeys, [], "", false, []⟩

/-- One batch of the copy loop, under the lock, at time `now`. -/
def Shrink.step (bs : BatchSizes) (fmt : F → String) (st : Store F) (now : Int) (s : Shrink) :
    Shrink :=
  match s.phase, s.keys with
  | .loadKeys, _ =>
    if s.keysdone then { s with phase := .finished }
    else
      let (keys, next) := keyBatch bs st s.nextkey
      { s with keys, keysdone := next.isNone, nextkey := next.getD s.nextkey,
               phase := if keys = [] then .loadKeys else .ids "" }
  | .ids nextid, key :: rest =>
    let (records, next) := idBatch bs fmt st key nextid now
    let s := { s with records := s.records ++ records }
    match next with
    | some id => { s with phase := .ids id }
    | none => { s with keys := rest, phase := if rest = [] then .loadKeys else .ids "" }
  | .ids _, [] => { s with phase := .loadKeys }
  | .finished, _ => s

/-- The copy loop after one batch at each of the times, on a store that no write changes. -/
def Shrink.run (bs : BatchSizes) (fmt : F → String) (st : Store F) (times : List Int)
    (s : Shrink) : Shrink :=
  times.foldl (fun s now => s.step bs fmt st now) s

/-- What happens while the copy runs: a batch of the copy at a time, or a foreground write,
its tokens and its effect on the store. -/
inductive ShrinkEvent (F : Type)
  | batch (now : Int)
  | write (tokens : List String) (apply : Store F → Store F)

/-- The copy interleaved with foreground writes: the store, the copy loop, and the
`shrinklog`. -/
structure ShrinkRun (F : Type) where
  store : Store F
  copy : Shrink
  shrinklog : List (List String)

def ShrinkRun.step (fmt : F → String) (r : ShrinkRun F) : ShrinkEvent F → ShrinkRun F
  | .batch now => { r with copy := r.copy.step .source fmt r.store now }
  | .write tokens apply => { r with store := apply r.store, shrinklog := r.shrinklog ++ [tokens] }

def ShrinkRun.run (fmt : F → String) (r : ShrinkRun F) : List (ShrinkEvent F) → ShrinkRun F
  | [] => r
  | e :: es => (r.step fmt e).run fmt es

/-- The collection part of the shrunk file: the copy's records, then the `shrinklog`. -/
def ShrinkRun.file (r : ShrinkRun F) : List (List String) := r.copy.records ++ r.shrinklog

/-! ### Replaying a record -/

/-- The options of a `set` record before its object: the `field name value` triples, the `ex`
value, and the object's tokens. -/
def parseSetArgs : List String → List (String × String) × Option String × List String
  | "field" :: name :: value :: rest =>
    let r := parseSetArgs rest
    ((name, value) :: r.1, r.2.1, r.2.2)
  | "ex" :: secs :: rest =>
    let r := parseSetArgs rest
    (r.1, some secs, r.2.2)
  | rest => ([], none, rest)

/-- The value of a field of an item, by name; 0 when the item has none. -/
def ShrinkCol.fieldValue (col : ShrinkCol F) (item : ShrinkItem F) (name : String) : F :=
  match col.fieldArr.findIdx? (· = name) with
  | some i => item.fields.getD i 0
  | none => 0

/-- Replaying `set key id [field name value]* [ex secs] object…`. Modelled from the spec
(§4.3, SET): the key's collection, created if missing, receives the object and the given
fields, the item's other fields keep their values, and the expiration table holds a deadline
for the id exactly when `ex` is given. `parseF` reads a field value and `deadlineOf` turns the
`ex` value into a deadline at replay time. -/
def replaySet (parseF : String → F) (deadlineOf : String → Int) (st : Store F) :
    List String → Store F
  | "set" :: key :: id :: args =>
    let (fields, ex, obj) := parseSetArgs args
    let col := (st.getCol key).getD ⟨[], []⟩
    let old := col.items.find? (·.id = id)
    let fieldArr := col.fieldArr ++
      ((fields.map (·.1)).filter (· ∉ col.fieldArr)).dedup
    let value := fun name => match fields.find? (·.1 = name) with
      | some nv => parseF nv.2
      | none => match old with
        | some it => col.fieldValue it name
        | none => 0
    let item : ShrinkItem F := ⟨id, obj, fieldArr.map value⟩
    let col : ShrinkCol F :=
      ⟨fieldArr, (col.items.map fun it => ⟨it.id, it.obj, fieldArr.map (col.fieldValue it)⟩).filter
        (·.id ≠ id) ++ [item]⟩
    { cols := (st.cols.filter (·.1 ≠ key)) ++ [(key, col)]
      expires := fun k i => if k = key ∧ i = id then ex.map deadlineOf else st.expires k i }
  | _ => st

/-- What the store holds for an id: its object, its field values by name, and whether it
carries a deadline. -/
def Store.view (st : Store F) (key id : String) :
    Option (List String × (String → F) × Bool) :=
  (st.getCol key).bind fun col => (col.items.find? (·.id = id)).map fun it =>
    (it.obj, col.fieldValue it, (st.expires key id).isSome)

/-- A store without collections. -/
def Store.empty : Store F := ⟨[], fun _ _ => none⟩

/-- An object's tokens start with its type, `point`, `object` or `string`, never with an option
of SET. -/
def ObjectTokens (obj : List String) : Prop := ∀ t rest, obj = t :: rest → t ≠ "field" ∧ t ≠ "ex"

omit [Zero F] [DecidableEq F] in
lemma parseSetArgs_obj {obj : List String} (h : ObjectTokens obj) : parseSetArgs obj = ([], none, obj) := by
  cases obj with
  | nil => rfl
  | cons t rest =>
    obtain ⟨h1, h2⟩ := h t rest rfl
    unfold parseSetArgs
    split <;> simp_all

omit [Zero F] [DecidableEq F] in
lemma parseSetArgs_ex (deadline : Option Int) (now : Int) {obj : List String}
    (h : ObjectTokens obj) :
    parseSetArgs (exTokens deadline now ++ obj) =
      ([], (exTokens deadline now).get? 1, obj) := by
  unfold exTokens
  split
  · split_ifs
    · simp [parseSetArgs, parseSetArgs_obj h]
    · exact parseSetArgs_obj h
  · exact parseSetArgs_obj h

/-- The options of a record read back: its non-zero fields with their text, and its `ex`. -/
theorem parseSetArgs_record (fmt : F → String) (fnames : List String) (fields : List F)
    (deadline : Option Int) (now : Int) {obj : List String} (h : ObjectTokens obj) :
    parseSetArgs (fieldTokens fmt fnames fields ++ exTokens deadline now ++ obj) =
      (((fnames.zip fields).filter fun nv => nv.2 ≠ 0).map fun nv => (nv.1, fmt nv.2),
        (exTokens deadline now).get? 1, obj) := by
  unfold fieldTokens
  induction (fnames.zip fields).filter (fun nv => nv.2 ≠ 0) with
  | nil => simpa using parseSetArgs_ex deadline now h
  | cons nv nvs ih =>
    simp only [List.flatMap_cons, List.map_cons, List.append_assoc] at ih ⊢
    simp only [List.cons_append, parseSetArgs, List.append_eq, List.nil_append, ih]

omit [Zero F] [DecidableEq F] in
lemma exTokens_get_isSome (deadline : Option Int) (now : Int) :
    ((exTokens deadline now).get? 1).isSome =
      decide (∃ due, deadline = some due ∧ due - now > 0) := by
  unfold exTokens
  split
  · split_ifs with h <;> simp [h] <;> omega
  · simp

omit [DecidableEq F] in
lemma find?_filter_append {α : Type} (l : List α) (q p : α → Bool) (a : α)
    (hq : ∀ x, q x = true → p x = false) (ha : p a = true) :
    (l.filter q ++ [a]).find? p = some a := by
  rw [List.find?_append, List.find?_eq_none.2 fun x hx => by
    simp [hq x (List.mem_filter.1 hx).2]]
  simp [ha]

omit [DecidableEq F] in
lemma replaySet_view (parseF : String → F) (deadlineOf : String → Int) (st : Store F)
    (key id : String) (args : List String) :
    ((replaySet parseF deadlineOf st ("set" :: key :: id :: args)).view key id).map
        (fun v => (v.1, v.2.2)) =
      some ((parseSetArgs args).2.2, (parseSetArgs args).2.1.isSome) := by
  simp only [replaySet, Store.view, Store.getCol]
  rw [find?_filter_append _ _ _ _ (fun c hc => by simpa using hc) (by simp)]
  simp only [Option.map_some', Option.some_bind]
  rw [find?_filter_append _ _ _ _ (fun c hc => by simpa using hc) (by simp)]
  simp

/-- Replaying the record of an item gives the id its object, and a deadline exactly when the
item had time left when its batch was read. -/
theorem replaySet_record (parseF : String → F) (deadlineOf : String → Int) (st : Store F)
    (fmt : F → String) (key : String) (fnames : List String) (exm : String → Option Int)
    (now : Int) (x : ShrinkItem F) (h : ObjectTokens x.obj) :
    ((replaySet parseF deadlineOf st (setRecord fmt key fnames exm now x)).view key x.id).map
        (fun v => (v.1, v.2.2)) =
      some (x.obj, decide (∃ due, exm x.id = some due ∧ due - now > 0)) := by
  have hrec : setRecord fmt key fnames exm now x = "set" :: key :: x.id ::
      (fieldTokens fmt fnames x.fields ++ exTokens (exm x.id) now ++ x.obj) := by
    simp [setRecord]
  rw [hrec, replaySet_view, parseSetArgs_record fmt fnames x.fields (exm x.id) now h,
    exTokens_get_isSome]

/-! ### The copy without concurrent writes -/

section Copy

variable (bs : BatchSizes)

omit [Zero F] [DecidableEq F] in
lemma filter_ge_get {α : Type} (f : α → List Char) :
    ∀ (l : List α) (n : Nat) (x : α), (l.map f).Sorted (· < ·) → l.get? n = some x →
      l.filter (fun y => decide (f x ≤ f y)) = l.drop n := by
  intro l
  induction l with
  | nil => intro n x _ h; cases h
  | cons a l ih =>
    intro n x hs hx
    rw [List.map_cons, List.sorted_cons] at hs
    have hlt : ∀ b ∈ l, f a < f b := fun b hb => hs.1 _ (List.mem_map_of_mem f hb)
    cases n with
    | zero =>
      cases hx
      exact List.filter_eq_self.2 fun b hb => by
        rcases List.mem_cons.1 hb with rfl | hb
        · simp
        · simpa using (hlt b hb).le
    | succ n =>
      have hxl : x ∈ l := List.get?_mem hx
      rw [List.filter_cons_of_neg (by simpa using hlt x hxl), ih n x hs.2 hx, List.drop_succ_cons]

/-- The records the copy writes for a key at time `now`: one `set` record per item, in id
order; nothing when the key has no collection. -/
def Store.keyRecords (fmt : F → String) (st : Store F) (now : Int) (key : String) :
    List (List String) :=
  match st.getCol key with
  | none => []
  | some col => col.items.map (setRecord fmt key col.fieldArr (st.expires key) now)

lemma step_ids (fmt : F → String) (st : Store F) (now : Int) {key : String}
    {col : ShrinkCol F} (hcol : st.getCol key = some col)
    (hs : (col.items.map (·.id.toList)).Sorted (· < ·)) (rest : List String) :
    ∀ (m : Nat) (s : Shrink) (nextid : String), s.phase = .ids nextid → s.keys = key :: rest →
      col.items.filter (fun it => nextid.toList ≤ it.id.toList) = col.items.drop m →
      ∃ n, (Shrink.step bs fmt st now)^[n] s =
        { s with keys := rest, phase := if rest = [] then .loadKeys else .ids "",
                 records := s.records ++
                   (col.items.drop m).map (setRecord fmt key col.fieldArr (st.expires key) now) } := by
  intro m
  induction' hd : col.items.length - m using Nat.strong_induction_on with d ih generalizing m
  rintro ⟨phase, keys, nextkey, keysdone, records⟩ nextid hp hk hf
  dsimp only at hp hk
  subst hp hk
  have hb : idBatch bs fmt st key nextid now =
      (((col.items.drop m).take bs.ids).map (setRecord fmt key col.fieldArr (st.expires key) now),
        ((col.items.drop m).get? bs.ids).map (·.id)) := by
    simp only [idBatch, hcol, hf]
  cases hx : (col.items.drop m).get? bs.ids with
  | none =>
    refine ⟨1, ?_⟩
    rw [List.take_of_length_le (List.get?_eq_none.1 hx)] at hb
    simp only [Function.iterate_one, Shrink.step, hb, hx, Option.map_none']
  | some x =>
    have hf' : col.items.filter (fun it => x.id.toList ≤ it.id.toList) =
        col.items.drop (m + bs.ids) :=
      filter_ge_get (·.id.toList) col.items _ x hs (by simpa using hx)
    have hlen : m + bs.ids < col.items.length := by
      have := (List.get?_eq_some.1 hx).1
      rw [List.length_drop] at this
      omega
    have h32 := bs.ids_pos
    obtain ⟨n, hn⟩ := ih (col.items.length - (m + bs.ids)) (by omega) (m + bs.ids) rfl
      ⟨.ids x.id, key :: rest, nextkey, keysdone, records ++
        ((col.items.drop m).take bs.ids).map (setRecord fmt key col.fieldArr (st.expires key) now)⟩
      x.id rfl rfl hf'
    refine ⟨n + 1, ?_⟩
    rw [Function.iterate_succ_apply]
    simp only [Shrink.step, hb, hx, Option.map_some']
    rw [hn]
    simp only [List.append_assoc, ← List.map_append, ← List.drop_drop, List.take_append_drop]

lemma step_key (fmt : F → String) (st : Store F) (now : Int)
    (hids : ∀ key col, st.getCol key = some col → (col.items.map (·.id.toList)).Sorted (· < ·))
    (key : String) (rest : List String) (s : Shrink) (hp : s.phase = .ids "")
    (hk : s.keys = key :: rest) :
    ∃ n, (Shrink.step bs fmt st now)^[n] s =
      { s with keys := rest, phase := if rest = [] then .loadKeys else .ids "",
               records := s.records ++ st.keyRecords fmt now key } := by
  cases hcol : st.getCol key with
  | none =>
    refine ⟨1, ?_⟩
    obtain ⟨phase, keys, nextkey, keysdone, records⟩ := s
    dsimp only at hp hk
    subst hp hk
    simp [Shrink.step, idBatch, hcol, Store.keyRecords]
  | some col =>
    obtain ⟨n, hn⟩ := step_ids bs fmt st now hcol (hids key col hcol) rest 0 s "" hp hk
      (by rw [List.drop_zero]; exact List.filter_eq_self.2 fun _ _ => by simp)
    refine ⟨n, hn.trans ?_⟩
    simp only [List.drop_zero, Store.keyRecords, hcol]

lemma step_keys (fmt : F → String) (st : Store F) (now : Int)
    (hids : ∀ key col, st.getCol key = some col → (col.items.map (·.id.toList)).Sorted (· < ·)) :
    ∀ (B : List String) (s : Shrink), B ≠ [] → s.phase = .ids "" → s.keys = B →
      ∃ n, (Shrink.step bs fmt st now)^[n] s =
        { s with keys := [], phase := .loadKeys,
                 records := s.records ++ B.flatMap (st.keyRecords fmt now) } := by
  intro B
  induction B with
  | nil => intro s h; exact absurd rfl h
  | cons key rest ih =>
    intro s _ hp hk
    obtain ⟨n1, h1⟩ := step_key bs fmt st now hids key rest s hp hk
    by_cases hr : rest = []
    · subst hr
      refine ⟨n1, h1.trans ?_⟩
      simp
    · rw [if_neg hr] at h1
      obtain ⟨n2, h2⟩ := ih ⟨.ids "", rest, s.nextkey, s.keysdone,
        s.records ++ st.keyRecords fmt now key⟩ hr rfl rfl
      refine ⟨n2 + n1, ?_⟩
      rw [Function.iterate_add_apply, h1, h2]
      simp [List.append_assoc]

lemma step_loadKeys (fmt : F → String) (st : Store F) (now : Int)
    (hkeys : ((st.cols.map (·.1)).map String.toList).Sorted (· < ·))
    (hids : ∀ key col, st.getCol key = some col → (col.items.map (·.id.toList)).Sorted (· < ·)) :
    ∀ (m : Nat) (s : Shrink), s.phase = .loadKeys → s.keysdone = false →
      (st.cols.map (·.1)).filter (fun k => s.nextkey.toList ≤ k.toList) =
        (st.cols.map (·.1)).drop m →
      ∃ n, ((Shrink.step bs fmt st now)^[n] s).phase = .finished ∧
        ((Shrink.step bs fmt st now)^[n] s).records =
          s.records ++ ((st.cols.map (·.1)).drop m).flatMap (st.keyRecords fmt now) := by
  intro m
  induction' hd : (st.cols.map (·.1)).length - m using Nat.strong_induction_on with d ih
    generalizing m
  rintro ⟨phase, keys, nextkey, keysdone, records⟩ hp hd' hf
  dsimp only at hp hd' hf
  subst hp hd'
  set K := st.cols.map (·.1)
  have hb : keyBatch bs st nextkey = ((K.drop m).take bs.keys, (K.drop m).get? bs.keys) := by
    simp only [keyBatch, hf, K]
  have h8 := bs.keys_pos
  by_cases hB : (K.drop m).take bs.keys = []
  · have hK : K.drop m = [] := (List.take_eq_nil_iff.1 hB).resolve_left (by omega)
    refine ⟨2, ?_⟩
    simp [Shrink.step, hb, hK]
  · set B := (K.drop m).take bs.keys
    have h1 : Shrink.step bs fmt st now ⟨.loadKeys, keys, nextkey, false, records⟩ =
        ⟨.ids "", B, ((K.drop m).get? bs.keys).getD nextkey, ((K.drop m).get? bs.keys).isNone,
          records⟩ := by
      simp only [Shrink.step, hb, hB, if_false, Bool.false_eq_true]
    obtain ⟨n2, h2⟩ := step_keys bs fmt st now hids B
      ⟨.ids "", B, ((K.drop m).get? bs.keys).getD nextkey, ((K.drop m).get? bs.keys).isNone,
        records⟩ hB rfl rfl
    cases hx : (K.drop m).get? bs.keys with
    | none =>
      have hBK : B = K.drop m := List.take_of_length_le (List.get?_eq_none.1 hx)
      refine ⟨1 + n2 + 1, ?_⟩
      rw [Function.iterate_add_apply, Function.iterate_add_apply, Function.iterate_one, h1, h2]
      simp only [hx, Option.isNone_none, Option.getD_none]
      simp [Shrink.step, hBK]
    | some k' =>
      have hf' : K.filter (fun k => k'.toList ≤ k.toList) = K.drop (m + bs.keys) :=
        filter_ge_get String.toList K _ k' hkeys (by simpa using hx)
      have hlen : m + bs.keys < K.length := by
        have := (List.get?_eq_some.1 hx).1
        rw [List.length_drop] at this
        omega
      obtain ⟨n3, h3, h4⟩ := ih (K.length - (m + bs.keys)) (by omega) (m + bs.keys) rfl
        ⟨.loadKeys, [], k', false, records ++ B.flatMap (st.keyRecords fmt now)⟩ rfl rfl hf'
      refine ⟨n3 + n2 + 1, ?_⟩
      rw [Function.iterate_add_apply, Function.iterate_add_apply, Function.iterate_one, h1, h2]
      simp only [hx, Option.getD_some, Option.isNone_some] at h3 h4 ⊢
      refine ⟨h3, h4.trans ?_⟩
      rw [List.append_assoc, ← List.flatMap_append, ← List.drop_drop, List.take_append_drop]

lemma step_finished (fmt : F → String) (st : Store F) (now : Int) (s : Shrink)
    (h : s.phase = .finished) : Shrink.step bs fmt st now s = s := by
  obtain ⟨phase, keys, nextkey, keysdone, records⟩ := s
  dsimp only at h
  subst h
  rfl

lemma run_batches (fmt : F → String) (now : Int) :
    ∀ (n : Nat) (r : ShrinkRun F), r.run fmt (List.replicate n (.batch now)) =
      { r with copy := (Shrink.step .source fmt r.store now)^[n] r.copy } := by
  intro n
  induction n with
  | zero => intro r; rfl
  | succ n ih =>
    intro r
    rw [List.replicate_succ, ShrinkRun.run, ih, Function.iterate_succ_apply]
    rfl

/-- The copy without concurrent writes: once enough batches have run, the shrunk file holds,
key by key in key order, the `set` record of every item in id order. -/
theorem shrink_copy_complete (fmt : F → String) (st : Store F) (now : Int)
    (hkeys : ((st.cols.map (·.1)).map String.toList).Sorted (· < ·))
    (hids : ∀ key col, st.getCol key = some col → (col.items.map (·.id.toList)).Sorted (· < ·)) :
    ∃ N, ∀ n, N ≤ n →
      ((ShrinkRun.mk st .start []).run fmt (List.replicate n (.batch now))).copy.phase =
          .finished ∧
        ((ShrinkRun.mk st .start []).run fmt (List.replicate n (.batch now))).file =
          (st.cols.map (·.1)).flatMap (st.keyRecords fmt now) := by
  obtain ⟨N, h1, h2⟩ := step_loadKeys .source fmt st now hkeys hids 0 .start rfl rfl
    (by rw [List.drop_zero]; exact List.filter_eq_self.2 fun _ _ => by simp [Shrink.start])
  refine ⟨N, fun n hn => ?_⟩
  have hfix : (Shrink.step .source fmt st now)^[n] .start =
      (Shrink.step .source fmt st now)^[N] .start := by
    rw [← Nat.sub_add_cancel hn, Function.iterate_add_apply]
    exact Function.iterate_fixed (step_finished .source fmt st now _ h1) _
  simp only [run_batches, ShrinkRun.file, hfix, h1, h2, true_and]
  simp [Shrink.start]

end Copy

/-! ### Any batch sizes, any batch times -/

/-- The copy loop with each record cut to its tag `set key id`. -/
def Shrink.tags (s : Shrink) : Shrink := { s with records := s.records.map (·.take 3) }

/-- The tag of every item of the store, key by key and id by id. -/
def Store.setTags (st : Store F) : List (List String) :=
  st.cols.flatMap fun kc => kc.2.items.map fun x => ["set", kc.1, x.id]

/-- `a` comes before `b` in key order, then id order. -/
def tagLt (a b : List String) : Prop :=
  (a.getD 1 "").toList < (b.getD 1 "").toList ∨
    a.getD 1 "" = b.getD 1 "" ∧ (a.getD 2 "").toList < (b.getD 2 "").toList

/-- Where the copy resumes is past what it has read: `nextkey` past every key loaded and every
record written, while keys remain; `nextid` past every id written for the key in hand. The
loaded keys are in order, and the records are before the keys still to come. -/
structure Shrink.Resumes (s : Shrink) : Prop where
  keys_sorted : s.keys.Pairwise fun a b => a.toList < b.toList
  nextkey : s.keysdone = false →
    (∀ r ∈ s.records, (r.getD 1 "").toList < s.nextkey.toList) ∧
      ∀ k ∈ s.keys, k.toList < s.nextkey.toList
  pending : ∀ r ∈ s.records, ∀ k ∈ s.keys.drop 1, (r.getD 1 "").toList < k.toList
  nextid : ∀ nextid key rest, s.phase = .ids nextid → s.keys = key :: rest →
    ∀ r ∈ s.records, r.getD 1 "" = key → (r.getD 2 "").toList < nextid.toList

lemma Shrink.start_resumes : Shrink.start.Resumes :=
  ⟨.nil, fun _ => ⟨fun _ h => (List.not_mem_nil _ h).elim, fun _ h => (List.not_mem_nil _ h).elim⟩,
    fun _ h => (List.not_mem_nil _ h).elim, fun _ _ _ _ _ _ h => (List.not_mem_nil _ h).elim⟩

omit [Zero F] [DecidableEq F] in
lemma Pairwise.take_get {α : Type} {R : α → α → Prop} {l : List α} (hs : l.Pairwise R) {n : Nat}
    {b : α} (hb : l.get? n = some b) : ∀ a ∈ l.take n, R a b := by
  have hb' : b ∈ l.drop n := List.mem_of_mem_head? (by rw [List.head?_drop]; simpa using hb)
  rw [← List.take_append_drop n l, List.pairwise_append] at hs
  exact fun a ha => hs.2.2 a ha b hb'

section Batches

variable (bs : BatchSizes) (fmt : F → String) (st : Store F)

lemma idBatch_next (key nextid : String) (now now' : Int) :
    (idBatch bs fmt st key nextid now).2 = (idBatch bs fmt st key nextid now').2 := by
  unfold idBatch; split <;> rfl

lemma idBatch_tags (key nextid : String) (now now' : Int) :
    (idBatch bs fmt st key nextid now).1.map (·.take 3) =
      (idBatch bs fmt st key nextid now').1.map (·.take 3) := by
  unfold idBatch; split <;> simp [Function.comp_def]

lemma Shrink.tags_step {s s' : Shrink} (h : s.tags = s'.tags) (now now' : Int) :
    (s.step bs fmt st now).tags = (s'.step bs fmt st now').tags := by
  obtain ⟨phase, keys, nextkey, keysdone, records⟩ := s
  obtain ⟨phase', keys', nextkey', keysdone', records'⟩ := s'
  simp only [Shrink.tags, Shrink.mk.injEq] at h
  obtain ⟨rfl, rfl, rfl, rfl, hr⟩ := h
  cases phase with
  | loadKeys => cases keysdone <;> simp [Shrink.step, Shrink.tags, hr]
  | finished => simp [Shrink.step, Shrink.tags, hr]
  | ids nextid =>
    cases keys with
    | nil => simp [Shrink.step, Shrink.tags, hr]
    | cons key rest =>
      have hn := idBatch_next bs fmt st key nextid now now'
      have ht := idBatch_tags bs fmt st key nextid now now'
      rcases hb : idBatch bs fmt st key nextid now with ⟨recs, next⟩
      rcases hb' : idBatch bs fmt st key nextid now' with ⟨recs', next'⟩
      rw [hb, hb'] at hn ht
      dsimp only at hn ht
      subst hn
      cases next <;> simp [Shrink.step, Shrink.tags, hb, hb', hr, ht]

lemma Shrink.tags_run : ∀ {s s' : Shrink} (times times' : List Int), s.tags = s'.tags →
    times.length = times'.length →
      (Shrink.run bs fmt st times s).tags = (Shrink.run bs fmt st times' s').tags
  | _, _, [], [], h, _ => h
  | _, _, t :: ts, t' :: ts', h, hl =>
    Shrink.tags_run ts ts' (Shrink.tags_step bs fmt st h t t') (by simpa using hl)
  | _, _, [], _ :: _, _, hl => absurd hl (by simp)
  | _, _, _ :: _, [], _, hl => absurd hl (by simp)

lemma Shrink.run_replicate (now : Int) (n : Nat) (s : Shrink) :
    Shrink.run bs fmt st (List.replicate n now) s = (Shrink.step bs fmt st now)^[n] s := by
  induction n generalizing s with
  | zero => rfl
  | succ n ih =>
    rw [List.replicate_succ, Shrink.run, List.foldl_cons, ← Shrink.run, ih,
      Function.iterate_succ_apply]

omit [Zero F] [DecidableEq F] in
lemma getCol_of_mem (hn : (st.cols.map (·.1)).Nodup) {kc : String × ShrinkCol F}
    (h : kc ∈ st.cols) : st.getCol kc.1 = some kc.2 := by
  unfold Store.getCol
  obtain ⟨c, hc⟩ : ∃ c, st.cols.find? (fun c => c.1 = kc.1) = some c :=
    Option.isSome_iff_exists.1 (List.find?_isSome.2 ⟨kc, h, by simp⟩)
  have hc1 : c.1 = kc.1 := by simpa using List.find?_some hc
  rw [hc, List.inj_on_of_nodup_map hn (List.mem_of_find?_eq_some hc) h hc1]
  rfl

omit [Zero F] [DecidableEq F] in
lemma mem_of_getCol {key : String} {col : ShrinkCol F} (h : st.getCol key = some col) :
    (key, col) ∈ st.cols := by
  unfold Store.getCol at h
  obtain ⟨kc, hkc, rfl⟩ := Option.map_eq_some'.1 h
  have hk : kc.1 = key := by simpa using List.find?_some hkc
  rw [← hk]
  exact List.mem_of_find?_eq_some hkc

lemma copyRecords_tags (now : Int) (hn : (st.cols.map (·.1)).Nodup) :
    ((st.cols.map (·.1)).flatMap (st.keyRecords fmt now)).map (·.take 3) = st.setTags := by
  rw [List.map_flatMap, List.flatMap_map, Store.setTags]
  refine List.flatMap_congr fun kc hkc => ?_
  simp [Store.keyRecords, getCol_of_mem st hn hkc, Function.comp_def]

omit [Zero F] [DecidableEq F] in
lemma keyBatch_ge (nextkey : String) :
    ∀ k ∈ (keyBatch bs st nextkey).1, nextkey.toList ≤ k.toList := fun _ h => by
  simpa using (List.mem_filter.1 (List.mem_of_mem_take h)).2

omit [Zero F] [DecidableEq F] in
lemma keyBatch_sorted (hkeys : ((st.cols.map (·.1)).map String.toList).Sorted (· < ·))
    (nextkey : String) :
    (keyBatch bs st nextkey).1.Pairwise fun a b => a.toList < b.toList :=
  ((List.pairwise_map.1 hkeys).filter _).sublist (List.take_sublist _ _)

omit [Zero F] [DecidableEq F] in
lemma keyBatch_next (hkeys : ((st.cols.map (·.1)).map String.toList).Sorted (· < ·))
    (nextkey : String) : ∀ k', (keyBatch bs st nextkey).2 = some k' →
      nextkey.toList ≤ k'.toList ∧ ∀ k ∈ (keyBatch bs st nextkey).1, k.toList < k'.toList :=
  fun _ h => ⟨by simpa using (List.mem_filter.1 (List.get?_mem h)).2,
    Pairwise.take_get ((List.pairwise_map.1 hkeys).filter _) h⟩

lemma idBatch_records (key nextid : String) (now : Int) :
    ∀ r ∈ (idBatch bs fmt st key nextid now).1,
      r.getD 1 "" = key ∧ nextid.toList ≤ (r.getD 2 "").toList := by
  intro r h
  unfold idBatch at h
  split at h
  · cases h
  · obtain ⟨x, hx, rfl⟩ := List.mem_map.1 h
    rw [setRecord_key, setRecord_id]
    simpa using (List.mem_filter.1 (List.mem_of_mem_take hx)).2

lemma idBatch_next_gt
    (hids : ∀ key col, st.getCol key = some col → (col.items.map (·.id.toList)).Sorted (· < ·))
    (key nextid : String) (now : Int) : ∀ id, (idBatch bs fmt st key nextid now).2 = some id →
      nextid.toList ≤ id.toList ∧
        ∀ r ∈ (idBatch bs fmt st key nextid now).1, (r.getD 2 "").toList < id.toList := by
  intro id h
  unfold idBatch at h ⊢
  split at h
  · cases h
  · rename_i col hcol
    obtain ⟨x, hx, rfl⟩ := Option.map_eq_some'.1 h
    have hs := (List.pairwise_map.1 (hids key col hcol)).filter
      (fun it => decide (nextid.toList ≤ it.id.toList))
    refine ⟨by simpa using (List.mem_filter.1 (List.get?_mem hx)).2, fun r hr => ?_⟩
    obtain ⟨y, hy, rfl⟩ := List.mem_map.1 hr
    rw [setRecord_id]
    simpa using Pairwise.take_get hs hx y hy

lemma Shrink.Resumes.step_load
    (hkeys : ((st.cols.map (·.1)).map String.toList).Sorted (· < ·))
    {keys : List String} {nextkey : String} {records : List (List String)}
    (h : (⟨.loadKeys, keys, nextkey, false, records⟩ : Shrink).Resumes) (now : Int) :
    (Shrink.step bs fmt st now ⟨.loadKeys, keys, nextkey, false, records⟩).Resumes := by
  have hrec := (h.nextkey rfl).1
  have hge := keyBatch_ge bs st nextkey
  have hnext := keyBatch_next bs st hkeys nextkey
  have hsorted := keyBatch_sorted bs st hkeys nextkey
  rcases hb : keyBatch bs st nextkey with ⟨B, next⟩
  rw [hb] at hge hnext hsorted
  have hstep : Shrink.step bs fmt st now ⟨.loadKeys, keys, nextkey, false, records⟩ =
      ⟨if B = [] then .loadKeys else .ids "", B, next.getD nextkey, next.isNone, records⟩ := by
    simp [Shrink.step, hb]
  rw [hstep]
  refine ⟨hsorted, fun hd => ?_,
    fun r hr k hk => (hrec r hr).trans_le (hge k (List.mem_of_mem_drop hk)),
    fun _ key _ _ hB r hr hrk => ?_⟩
  · cases next with
    | none => cases hd
    | some k' =>
      obtain ⟨hk', hlt⟩ := hnext k' rfl
      exact ⟨fun r hr => (hrec r hr).trans_le hk', hlt⟩
  · have hkey : key ∈ B := (congrArg (key ∈ ·) hB).mpr (List.mem_cons_self _ _)
    exact absurd (hrk ▸ (hrec r hr).trans_le (hge key hkey)) (lt_irrefl _)

lemma Shrink.Resumes.step_batch
    (hids : ∀ key col, st.getCol key = some col → (col.items.map (·.id.toList)).Sorted (· < ·))
    {nextid key nextkey : String} {rest : List String} {keysdone : Bool}
    {records : List (List String)}
    (h : (⟨.ids nextid, key :: rest, nextkey, keysdone, records⟩ : Shrink).Resumes) (now : Int) :
    (Shrink.step bs fmt st now ⟨.ids nextid, key :: rest, nextkey, keysdone, records⟩).Resumes := by
  obtain ⟨hks, hnk, hpend, hnid⟩ := h
  have hkr : ∀ k ∈ rest, key.toList < k.toList := (List.pairwise_cons.1 hks).1
  have hold := hnid nextid key rest rfl rfl
  have hrecs := idBatch_records bs fmt st key nextid now
  have hnext := idBatch_next_gt bs fmt st hids key nextid now
  rcases hb : idBatch bs fmt st key nextid now with ⟨recs, next⟩
  rw [hb] at hrecs hnext
  have hall : ∀ hd : keysdone = false, ∀ r ∈ records ++ recs,
      (r.getD 1 "").toList < nextkey.toList := fun hd r hr =>
    (List.mem_append.1 hr).elim ((hnk hd).1 r) fun hr =>
      (hrecs r hr).1 ▸ (hnk hd).2 key (List.mem_cons_self _ _)
  have hbefore : ∀ r ∈ records ++ recs, ∀ k ∈ rest, (r.getD 1 "").toList < k.toList :=
    fun r hr k hk => (List.mem_append.1 hr).elim (fun hr => hpend r hr k hk) fun hr =>
      (hrecs r hr).1 ▸ hkr k hk
  cases next with
  | some id =>
    obtain ⟨hid, hlt⟩ := hnext id rfl
    have hstep : Shrink.step bs fmt st now ⟨.ids nextid, key :: rest, nextkey, keysdone, records⟩ =
        ⟨.ids id, key :: rest, nextkey, keysdone, records ++ recs⟩ := by
      simp [Shrink.step, hb]
    rw [hstep]
    refine ⟨hks, fun hd => ⟨hall hd, (hnk hd).2⟩, hbefore, fun _ _ _ hp hk r hr hrk => ?_⟩
    cases hp
    cases hk
    exact (List.mem_append.1 hr).elim (fun hr => (hold r hr hrk).trans_le hid) (hlt r)
  | none =>
    have hstep : Shrink.step bs fmt st now ⟨.ids nextid, key :: rest, nextkey, keysdone, records⟩ =
        ⟨if rest = [] then .loadKeys else .ids "", rest, nextkey, keysdone, records ++ recs⟩ := by
      simp [Shrink.step, hb]
    rw [hstep]
    refine ⟨(List.pairwise_cons.1 hks).2, fun hd => ⟨hall hd, fun k hk => (hnk hd).2 k
      (List.mem_cons_of_mem _ hk)⟩, fun r hr k hk => hbefore r hr k (List.mem_of_mem_drop hk),
      fun _ k2 _ _ hk r hr hrk => ?_⟩
    have hk2 : k2 ∈ rest := (congrArg (k2 ∈ ·) hk).mpr (List.mem_cons_self _ _)
    exact absurd (hrk ▸ hbefore r hr k2 hk2) (lt_irrefl _)

lemma Shrink.Resumes.step
    (hkeys : ((st.cols.map (·.1)).map String.toList).Sorted (· < ·))
    (hids : ∀ key col, st.getCol key = some col → (col.items.map (·.id.toList)).Sorted (· < ·))
    {s : Shrink} (h : s.Resumes) (now : Int) : (s.step bs fmt st now).Resumes := by
  obtain ⟨phase, keys, nextkey, keysdone, records⟩ := s
  cases phase with
  | finished => exact h
  | loadKeys =>
    cases keysdone with
    | true => exact ⟨h.1, h.2, h.3, fun _ _ _ hp => by cases hp⟩
    | false => exact h.step_load bs fmt st hkeys now
  | ids nextid =>
    cases keys with
    | nil => exact ⟨h.1, h.2, h.3, fun _ _ _ _ hk => by cases hk⟩
    | cons key rest => exact h.step_batch bs fmt st hids now

/-- Any run of batches keeps the resume points past what has been read. -/
lemma Shrink.Resumes.run
    (hkeys : ((st.cols.map (·.1)).map String.toList).Sorted (· < ·))
    (hids : ∀ key col, st.getCol key = some col → (col.items.map (·.id.toList)).Sorted (· < ·)) :
    ∀ (times : List Int) {s : Shrink}, s.Resumes → (Shrink.run bs fmt st times s).Resumes
  | [], _, h => h
  | t :: ts, _, h => Shrink.Resumes.run hkeys hids ts (h.step bs fmt st hkeys hids t)

omit [Zero F] [DecidableEq F] in
lemma setTags_sorted (hkeys : ((st.cols.map (·.1)).map String.toList).Sorted (· < ·))
    (hids : ∀ kc ∈ st.cols, (kc.2.items.map (·.id.toList)).Sorted (· < ·)) :
    st.setTags.Pairwise tagLt := by
  rw [Store.setTags, List.pairwise_flatMap]
  refine ⟨fun kc hkc => List.pairwise_map.2 ((List.pairwise_map.1 (hids kc hkc)).imp
    fun h => .inr ⟨rfl, h⟩), ((List.pairwise_map.1 (List.pairwise_map.1 hkeys)).imp ?_)⟩
  intro a b hab x hx y hy
  obtain ⟨_, -, rfl⟩ := List.mem_map.1 hx
  obtain ⟨_, -, rfl⟩ := List.mem_map.1 hy
  exact .inl hab

/-- The copy terminates: after enough batches, at any times, it has finished, and its records
are one `set` record for each item, in the store's order. -/
lemma copy_finishes (hkeys : ((st.cols.map (·.1)).map String.toList).Sorted (· < ·))
    (hids : ∀ key col, st.getCol key = some col → (col.items.map (·.id.toList)).Sorted (· < ·)) :
    ∃ N, ∀ times : List Int, N ≤ times.length →
      (Shrink.run bs fmt st times .start).phase = .finished ∧
        (Shrink.run bs fmt st times .start).records.map (·.take 3) = st.setTags := by
  obtain ⟨N, h1, h2⟩ := step_loadKeys bs fmt st 0 hkeys hids 0 .start rfl rfl
    (by rw [List.drop_zero]; exact List.filter_eq_self.2 fun _ _ => by simp [Shrink.start])
  refine ⟨N, fun times hn => ?_⟩
  have hfix : (Shrink.step bs fmt st 0)^[times.length] .start =
      (Shrink.step bs fmt st 0)^[N] .start := by
    rw [← Nat.sub_add_cancel hn, Function.iterate_add_apply]
    exact Function.iterate_fixed (step_finished bs fmt st 0 _ h1) _
  have ht := Shrink.tags_run bs fmt st times (List.replicate times.length 0)
    (rfl : Shrink.start.tags = Shrink.start.tags) (List.length_replicate _ _).symm
  rw [Shrink.run_replicate, hfix] at ht
  refine ⟨by simpa [Shrink.tags, h1] using congrArg Shrink.phase ht, ?_⟩
  have hrec := congrArg Shrink.records ht
  simp only [Shrink.tags, h2] at hrec
  rw [hrec, show Shrink.start.records = [] from rfl, List.nil_append, List.drop_zero,
    copyRecords_tags fmt st 0 (List.Nodup.of_map String.toList hkeys.nodup)]

end Batches

/-- The copy loop at any batch sizes, run on a store that no write changes, with each batch at
its own time. It terminates: after enough batches it has finished, and it has written one `set`
record for each (key, id) of the store, in key order and then id order. At every point of
every run, `nextkey` is past each key loaded and each record written while keys remain, and
`nextid` past each id written for the key in hand. -/
theorem copy_visits_each_item_once (bs : BatchSizes) (fmt : F → String) (st : Store F)
    (hkeys : ((st.cols.map (·.1)).map String.toList).Sorted (· < ·))
    (hids : ∀ kc ∈ st.cols, (kc.2.items.map (·.id.toList)).Sorted (· < ·)) :
    (∃ N, ∀ times : List Int, N ≤ times.length →
      (Shrink.run bs fmt st times .start).phase = .finished ∧
        (Shrink.run bs fmt st times .start).records.map (·.take 3) = st.setTags) ∧
      st.setTags.Pairwise tagLt ∧
      ∀ times : List Int, (Shrink.run bs fmt st times .start).Resumes := by
  have hids' : ∀ key col, st.getCol key = some col → (col.items.map (·.id.toList)).Sorted (· < ·) :=
    fun _ _ h => hids _ (mem_of_getCol st h)
  exact ⟨copy_finishes bs fmt st hkeys hids', setTags_sorted st hkeys hids,
    fun times => Shrink.Resumes.run bs fmt st hkeys hids' times Shrink.start_resumes⟩

/-- Eight ids of `fleet` and one of `zones`: with batches of two keys and four ids, both counts
are exact multiples of the batch sizes. -/
def copyStore : Store Int :=
  ⟨[("fleet", ⟨[], ["t1", "t2", "t3", "t4", "t5", "t6", "t7", "t8"].map fun i =>
      ⟨i, ["point", "33", "-115"], []⟩⟩),
    ("zones", ⟨[], [⟨"z1", ["string", "north"], []⟩]⟩)], fun _ _ => none⟩

theorem copy_visits_each_item_once_small :
    ((copyStore.cols.map (·.1)).map String.toList).Sorted (· < ·) ∧
      (∀ kc ∈ copyStore.cols, (kc.2.items.map (·.id.toList)).Sorted (· < ·)) ∧
      ∃ N, ∀ times : List Int, N ≤ times.length →
        (Shrink.run ⟨2, 4, by decide, by decide⟩ toString copyStore times .start).phase = .finished :=
  have hk : ((copyStore.cols.map (·.1)).map String.toList).Sorted (· < ·) := by decide
  have hi : ∀ kc ∈ copyStore.cols, (kc.2.items.map (·.id.toList)).Sorted (· < ·) := by decide
  ⟨hk, hi, (copy_visits_each_item_once ⟨2, 4, by decide, by decide⟩ toString copyStore hk hi).1.imp
    fun _ h times hn => (h times hn).1⟩

/-! ### Replaying the copy -/

section Replay

omit [Zero F] [DecidableEq F] in
lemma find?_filter_of_imp {α : Type} (p q : α → Bool) (h : ∀ x, q x = true → p x = true) :
    ∀ l : List α, (l.filter p).find? q = l.find? q := by
  intro l
  induction l with
  | nil => rfl
  | cons a l ih =>
    by_cases ha : q a = true
    · simp [List.filter_cons, h a ha, ha]
    · by_cases hp : p a = true <;> simp [List.filter_cons, hp, ha, ih]

omit [Zero F] [DecidableEq F] in
lemma find?_filter_key_append (cols : List (String × ShrinkCol F)) (k' key : String)
    (c : ShrinkCol F) :
    (((cols.filter (·.1 ≠ k')) ++ [(k', c)]).find? (·.1 = key)).map (·.2) =
      if k' = key then some c else (cols.find? (·.1 = key)).map (·.2) := by
  split_ifs with hk
  · subst hk
    rw [find?_filter_append cols (fun x => decide (x.1 ≠ k')) (fun x => decide (x.1 = k')) (k', c)
      (fun x hx => by simpa using hx) (by simp)]
    rfl
  · rw [List.find?_append, find?_filter_of_imp _ _ (fun x hx => by
      simp only [decide_eq_true_eq] at hx ⊢; rw [hx]; exact Ne.symm hk)]
    cases cols.find? (·.1 = key) <;> simp [hk]

omit [Zero F] [DecidableEq F] in
lemma getCol_filter_append (cols : List (String × ShrinkCol F)) (k' key : String)
    (c : ShrinkCol F) (e : String → String → Option Int) :
    ({ cols := cols.filter (·.1 ≠ k') ++ [(k', c)], expires := e } : Store F).getCol key =
      if k' = key then some c else (⟨cols, e⟩ : Store F).getCol key :=
  find?_filter_key_append cols k' key c

omit [DecidableEq F] in
lemma replaySet_frame (parseF : String → F) (deadlineOf : String → Int) (st : Store F)
    (r : List String) {key id : String} (h : r.take 3 ≠ ["set", key, id]) :
    ((replaySet parseF deadlineOf st r).view key id).map (fun v => (v.1, v.2.2)) =
      (st.view key id).map (fun v => (v.1, v.2.2)) := by
  unfold replaySet
  split
  · rename_i k' i' args
    have hne : ¬ (k' = key ∧ i' = id) := fun ⟨h1, h2⟩ => h (by subst h1 h2; rfl)
    simp only [Store.view, getCol_filter_append]
    by_cases hk : k' = key
    · subst hk
      have hi : ¬ id = i' := fun h2 => hne ⟨rfl, h2.symm⟩
      have hi2 : ¬ i' = id := fun h2 => hi h2.symm
      have hp : (fun x : ShrinkItem F => !decide (x.id = i') && decide (x.id = id)) =
          fun x => decide (x.id = id) := by
        funext x
        by_cases hx : x.id = id <;> simp [hx, hi]
      rw [if_pos rfl, Option.some_bind]
      cases hc : st.getCol k' with
      | none => simp [hi2]
      | some col => simp [hi, hi2, hp, Option.map_map, Function.comp_def, List.find?_map]
    · have hk' : ¬ (key = k' ∧ id = i') := fun h => hk h.1.symm
      rw [if_neg hk]
      simp only [hk', if_false]
      rfl
  · rfl

omit [DecidableEq F] in
lemma foldl_replaySet_frame (parseF : String → F) (deadlineOf : String → Int) {key id : String} :
    ∀ (R : List (List String)) (st : Store F), (∀ r ∈ R, r.take 3 ≠ ["set", key, id]) →
      ((R.foldl (replaySet parseF deadlineOf) st).view key id).map (fun v => (v.1, v.2.2)) =
        (st.view key id).map (fun v => (v.1, v.2.2)) := by
  intro R
  induction R with
  | nil => intro st _; rfl
  | cons r R ih =>
    intro st h
    rw [List.foldl_cons, ih _ fun r' hr' => h r' (.tail _ hr'),
      replaySet_frame parseF deadlineOf st r (h r (.head _))]

omit [Zero F] [DecidableEq F] in
lemma getCol_mem {st : Store F} {key : String} {col : ShrinkCol F}
    (h : st.getCol key = some col) : key ∈ st.cols.map (·.1) := by
  unfold Store.getCol at h
  obtain ⟨kc, hkc, rfl⟩ := Option.map_eq_some'.1 h
  have := List.find?_some hkc
  simp only [decide_eq_true_eq] at this
  exact List.mem_map.2 ⟨kc, List.mem_of_find?_eq_some hkc, this⟩

lemma mem_copyRecords {fmt : F → String} {st : Store F} {now : Int} {r : List String}
    (h : r ∈ (st.cols.map (·.1)).flatMap (st.keyRecords fmt now)) :
    ∃ key col x, st.getCol key = some col ∧ x ∈ col.items ∧
      r = setRecord fmt key col.fieldArr (st.expires key) now x := by
  obtain ⟨key, -, hr⟩ := List.mem_flatMap.1 h
  unfold Store.keyRecords at hr
  split at hr
  · cases hr
  · rename_i col hcol
    obtain ⟨x, hx, rfl⟩ := List.mem_map.1 hr
    exact ⟨key, col, x, hcol, hx, rfl⟩

lemma keyRecords_tag {fmt : F → String} {st : Store F} {now : Int} {key : String}
    {t : List String} (h : t ∈ (st.keyRecords fmt now key).map (·.take 3)) :
    t.get? 1 = some key := by
  unfold Store.keyRecords at h
  split at h
  · cases h
  · obtain ⟨r, hr, rfl⟩ := List.mem_map.1 h
    obtain ⟨x, -, rfl⟩ := List.mem_map.1 hr
    simp

lemma copyRecords_tags_nodup (fmt : F → String) (st : Store F) (now : Int)
    (hkeys : ((st.cols.map (·.1)).map String.toList).Sorted (· < ·))
    (hids : ∀ key col, st.getCol key = some col → (col.items.map (·.id.toList)).Sorted (· < ·)) :
    (((st.cols.map (·.1)).flatMap (st.keyRecords fmt now)).map (·.take 3)).Nodup := by
  rw [List.map_flatMap]
  refine List.nodup_flatMap.2 ⟨fun key _ => ?_, ?_⟩
  · unfold Store.keyRecords
    split
    · exact List.nodup_nil
    · rename_i col hcol
      refine List.Nodup.of_map (fun t : List String => ((t.get? 2).getD "").toList) ?_
      simpa [List.map_map, Function.comp_def] using (hids key col hcol).nodup
  · refine (List.pairwise_map.1 hkeys).imp fun {a b} hab t ha hb => ?_
    have := (keyRecords_tag ha).symm.trans (keyRecords_tag hb)
    cases this
    exact lt_irrefl _ hab

/-- Replaying the copy restores the store: when no deadline has passed at the time of the copy,
every id has, after the replay from an empty store, the object it has in memory, and carries a
deadline exactly when it does in memory. -/
theorem copyRecords_replay (parseF : String → F) (deadlineOf : String → Int) (fmt : F → String)
    (st : Store F) (now : Int)
    (hkeys : ((st.cols.map (·.1)).map String.toList).Sorted (· < ·))
    (hids : ∀ key col, st.getCol key = some col → (col.items.map (·.id.toList)).Sorted (· < ·))
    (hobj : ∀ key col, st.getCol key = some col → ∀ x ∈ col.items, ObjectTokens x.obj)
    (hlive : ∀ key id due, st.expires key id = some due → now < due) (key id : String) :
    ((((st.cols.map (·.1)).flatMap (st.keyRecords fmt now)).foldl (replaySet parseF deadlineOf)
        Store.empty).view key id).map (fun v => (v.1, v.2.2)) =
      (st.view key id).map (fun v => (v.1, v.2.2)) := by
  by_cases hr : ∃ r ∈ (st.cols.map (·.1)).flatMap (st.keyRecords fmt now),
      r.take 3 = ["set", key, id]
  · obtain ⟨r, hrR, htag⟩ := hr
    obtain ⟨k, col, x, hcol, hx, rfl⟩ := mem_copyRecords hrR
    obtain ⟨rfl, rfl⟩ : k = key ∧ x.id = id := by simpa using htag
    obtain ⟨A, B, hAB⟩ := List.append_of_mem hrR
    have hB : ∀ r' ∈ B, r'.take 3 ≠ ["set", k, x.id] := by
      have hnd := copyRecords_tags_nodup fmt st now hkeys hids
      rw [hAB, List.map_append, List.map_cons, setRecord_take] at hnd
      intro r' hr' he
      exact (List.nodup_cons.1 (List.nodup_append.1 hnd).2.1).1 (List.mem_map.2 ⟨r', hr', he⟩)
    have hfind : col.items.find? (·.id = x.id) = some x := by
      cases hy : col.items.find? (·.id = x.id) with
      | none => exact absurd hx (by simpa using List.find?_eq_none.1 hy x)
      | some y =>
        have hyx : y.id = x.id := by simpa using List.find?_some hy
        rw [List.inj_on_of_nodup_map (hids k col hcol).nodup (List.mem_of_find?_eq_some hy) hx
          (congrArg String.toList hyx)]
    rw [hAB, List.foldl_append, List.foldl_cons, foldl_replaySet_frame parseF deadlineOf B _ hB,
      replaySet_record parseF deadlineOf _ fmt k col.fieldArr (st.expires k) now x
        (hobj k col hcol x hx)]
    simp only [Store.view, hcol, hfind, Option.some_bind, Option.map_some']
    cases he : st.expires k x.id with
    | none => simp
    | some due => simp [hlive k x.id due he]
  · push_neg at hr
    rw [foldl_replaySet_frame parseF deadlineOf _ _ hr,
      show (Store.empty : Store F).view key id = none from rfl]
    cases hcol : st.getCol key with
    | none => simp [Store.view, hcol]
    | some col =>
      cases hy : col.items.find? (·.id = id) with
      | none => simp [Store.view, hcol, hy]
      | some y =>
        have hyid : y.id = id := by simpa using List.find?_some hy
        have hkr : setRecord fmt key col.fieldArr (st.expires key) now y ∈
            st.keyRecords fmt now key := by
          simp only [Store.keyRecords, hcol]
          exact List.mem_map_of_mem _ (List.mem_of_find?_eq_some hy)
        have hmem : setRecord fmt key col.fieldArr (st.expires key) now y ∈
            (st.cols.map (·.1)).flatMap (st.keyRecords fmt now) :=
          List.mem_flatMap.2 ⟨key, getCol_mem hcol, hkr⟩
        exact absurd (by simp [hyid]) (hr _ hmem)

/-- A shrink that no write interleaves, at a time when no deadline has passed: once enough
batches have run, replaying the shrunk file from an empty store gives every id of every key the
object it has in memory, and a deadline exactly when it has one in memory. -/
theorem shrink_restores_store (parseF : String → F) (deadlineOf : String → Int)
    (fmt : F → String) (st : Store F) (now : Int)
    (hkeys : ((st.cols.map (·.1)).map String.toList).Sorted (· < ·))
    (hids : ∀ key col, st.getCol key = some col → (col.items.map (·.id.toList)).Sorted (· < ·))
    (hobj : ∀ key col, st.getCol key = some col → ∀ x ∈ col.items, ObjectTokens x.obj)
    (hlive : ∀ key id due, st.expires key id = some due → now < due) :
    ∃ N, ∀ n, N ≤ n → ∀ key id,
      ((((ShrinkRun.mk st .start []).run fmt (List.replicate n (.batch now))).file.foldl
          (replaySet parseF deadlineOf) Store.empty).view key id).map (fun v => (v.1, v.2.2)) =
        (st.view key id).map (fun v => (v.1, v.2.2)) := by
  obtain ⟨N, hN⟩ := shrink_copy_complete fmt st now hkeys hids
  exact ⟨N, fun n hn key id => by
    rw [(hN n hn).2]
    exact copyRecords_replay parseF deadlineOf fmt st now hkeys hids hobj hlive key id⟩

/-- The shrink of `copyStore`, which has no deadline, restores it. -/
theorem shrink_restores_copyStore :
    ∃ N, ∀ n, N ≤ n → ∀ key id,
      ((((ShrinkRun.mk copyStore .start []).run toString (List.replicate n (.batch 0))).file.foldl
          (replaySet (fun _ => 0) (fun _ => 0)) (Store.empty : Store Int)).view key id).map
          (fun v => (v.1, v.2.2)) =
        (copyStore.view key id).map (fun v => (v.1, v.2.2)) :=
  have hcols : ∀ kc ∈ copyStore.cols, (kc.2.items.map (·.id.toList)).Sorted (· < ·) ∧
      ∀ x ∈ kc.2.items, x.obj.head? = some "point" ∨ x.obj.head? = some "string" := by
    decide
  shrink_restores_store (fun _ => 0) (fun _ => 0) toString copyStore 0 (by decide)
    (fun _ _ h => (hcols _ (mem_of_getCol copyStore h)).1)
    (fun _ _ h x hx t rest he => by
      have ht := (hcols _ (mem_of_getCol copyStore h)).2 x hx
      rw [he] at ht
      rcases ht with ht | ht <;> cases ht <;> decide)
    (fun _ _ _ h => nomatch h)

end Replay

/-! ### The copy interleaved with writes -/

section Interleaved

/-- What replaying restores of an id: its object, and whether it carries a deadline. -/
def Store.entry (st : Store F) (key id : String) : Option (List String × Bool) :=
  (st.view key id).map fun v => (v.1, v.2.2)

/-- What the copy relies on in a store: keys in strict order, the ids of each collection in
strict order, and objects whose tokens never start with an option of SET. -/
structure Store.Ordered (st : Store F) : Prop where
  keys : ((st.cols.map (·.1)).map String.toList).Sorted (· < ·)
  ids : ∀ key col, st.getCol key = some col → (col.items.map (·.id.toList)).Sorted (· < ·)
  objs : ∀ key col, st.getCol key = some col → ∀ x ∈ col.items, ObjectTokens x.obj

/-- A foreground write the refinement covers: id by id, both in memory and when its tokens are
replayed, it either leaves the object and the deadline alone or overwrites them whatever was
there. SET, FSET, DEL, PDEL, DROP and FLUSHDB are such writes; EXPIRE, PERSIST and JSET, whose
effect depends on what is there, are not. -/
def Overwrites (replay : Store F → List String → Store F) (tokens : List String)
    (apply : Store F → Store F) : Prop :=
  ∀ key id, (∀ st, (apply st).entry key id = st.entry key id ∧
      (replay st tokens).entry key id = st.entry key id) ∨
    ∃ v, ∀ st, (apply st).entry key id = v ∧ (replay st tokens).entry key id = v

/-- A run the refinement covers: every write is an `Overwrites` and keeps the store ordered,
and at each batch no deadline of the store has passed. -/
def ShrinkRun.Admissible (replay : Store F → List String → Store F) (fmt : F → String) :
    ShrinkRun F → List (ShrinkEvent F) → Prop
  | _, [] => True
  | r, .batch now :: es => (∀ key id due, r.store.expires key id = some due → now < due) ∧
      ShrinkRun.Admissible replay fmt (r.step fmt (.batch now)) es
  | r, .write tokens apply :: es => Overwrites replay tokens apply ∧
      (r.store.Ordered → (apply r.store).Ordered) ∧
      ShrinkRun.Admissible replay fmt (r.step fmt (.write tokens apply)) es

/-- The writes among the events, in order. -/
def ShrinkEvent.writes : List (ShrinkEvent F) → List (List String × (Store F → Store F))
  | [] => []
  | .batch _ :: es => ShrinkEvent.writes es
  | .write tokens apply :: es => (tokens, apply) :: ShrinkEvent.writes es

/-- No write changes the object or the deadline of `key`/`id`, in memory or replayed. -/
def Untouched (replay : Store F → List String → Store F) (key id : String)
    (W : List (List String × (Store F → Store F))) : Prop :=
  ∀ w ∈ W, ∀ st, (w.2 st).entry key id = st.entry key id ∧
    (replay st w.1).entry key id = st.entry key id

variable {replay : Store F → List String → Store F} {parseF : String → F}
  {deadlineOf : String → Int} {fmt : F → String} {key id : String}

lemma ShrinkRun.Admissible.writes :
    ∀ {es : List (ShrinkEvent F)} {r : ShrinkRun F}, r.Admissible replay fmt es →
      ∀ w ∈ ShrinkEvent.writes es, Overwrites replay w.1 w.2
  | [], _, _ => fun _ h => (List.not_mem_nil _ h).elim
  | .batch _ :: _, _, h => fun w hw => ShrinkRun.Admissible.writes h.2 w hw
  | .write _ _ :: _, _, h => List.forall_mem_cons.2 ⟨h.1, ShrinkRun.Admissible.writes h.2.2⟩

omit [Zero F] [DecidableEq F] in
lemma mem_take_or_get_le {α : Type} (f : α → List Char) {x : α} :
    ∀ {l : List α}, (l.map f).Sorted (· < ·) → x ∈ l → ∀ n,
      x ∈ l.take n ∨ ∃ y, l.get? n = some y ∧ f y ≤ f x
  | a :: l, hs, hx, n => by
    rw [List.map_cons, List.sorted_cons] at hs
    cases n with
    | zero =>
      refine .inr ⟨a, rfl, ?_⟩
      rcases List.mem_cons.1 hx with rfl | hx
      · exact le_rfl
      · exact (hs.1 _ (List.mem_map_of_mem f hx)).le
    | succ n =>
      rcases List.mem_cons.1 hx with rfl | hx
      · exact .inl (List.mem_cons_self _ _)
      · exact (mem_take_or_get_le f hs.2 hx n).imp (List.mem_cons_of_mem _) id

/-- The copy will still reach `key`/`id`: the key is at or past `nextkey` while keys remain,
or in the key batch in hand, with the id at or past `nextid` if it is the key being copied. -/
def Shrink.Ahead (s : Shrink) (key id : String) : Prop :=
  match s.phase, s.keys with
  | .ids nextid, k :: rest => (k = key ∧ nextid.toList ≤ id.toList) ∨ key ∈ rest ∨
      (s.keysdone = false ∧ s.nextkey.toList ≤ key.toList)
  | .finished, _ => False
  | _, _ => s.keysdone = false ∧ s.nextkey.toList ≤ key.toList

/-- The copy has written a record for `key`/`id`, or will still reach it. -/
def Shrink.Reaches (s : Shrink) (key id : String) : Prop :=
  (∃ r ∈ s.records, r.take 3 = ["set", key, id]) ∨ s.Ahead key id

lemma Shrink.ahead_of_nextkey {s : Shrink} (hp : s.phase ≠ .finished)
    (h : s.keysdone = false ∧ s.nextkey.toList ≤ key.toList) : s.Ahead key id := by
  obtain ⟨phase, keys, nextkey, keysdone, records⟩ := s
  cases phase with
  | finished => exact (hp rfl).elim
  | loadKeys => exact h
  | ids nextid => cases keys with
    | nil => exact h
    | cons k rest => exact .inr (.inr h)

lemma idBatch_mem {bs : BatchSizes} {st : Store F} {nextid : String} {now : Int}
    {r : List String} (h : r ∈ (idBatch bs fmt st key nextid now).1) :
    ∃ col x, st.getCol key = some col ∧ x ∈ col.items ∧
      r = setRecord fmt key col.fieldArr (st.expires key) now x := by
  unfold idBatch at h
  split at h
  · cases h
  · rename_i col hcol
    obtain ⟨x, hx, rfl⟩ := List.mem_map.1 h
    exact ⟨col, x, hcol, List.mem_of_mem_filter (List.mem_of_mem_take hx), rfl⟩

lemma Shrink.step_records (bs : BatchSizes) (st : Store F) (now : Int) (s : Shrink) :
    ∃ new, (s.step bs fmt st now).records = s.records ++ new ∧ ∀ r ∈ new,
      ∃ key col x, st.getCol key = some col ∧ x ∈ col.items ∧
        r = setRecord fmt key col.fieldArr (st.expires key) now x := by
  obtain ⟨phase, keys, nextkey, keysdone, records⟩ := s
  have hnone : ∀ s' : Shrink, s'.records = records →
      ∃ new, s'.records = records ++ new ∧ ∀ r ∈ new, ∃ key col x, st.getCol key = some col ∧
        x ∈ col.items ∧ r = setRecord fmt key col.fieldArr (st.expires key) now x :=
    fun _ h => ⟨[], by rw [h, List.append_nil], fun _ h => (List.not_mem_nil _ h).elim⟩
  cases phase with
  | finished => exact hnone _ rfl
  | loadKeys => cases keysdone <;> exact hnone _ rfl
  | ids nextid => cases keys with
    | nil => exact hnone _ rfl
    | cons k rest =>
      refine ⟨(idBatch bs fmt st k nextid now).1, ?_, fun r hr => ⟨k, idBatch_mem hr⟩⟩
      simp only [Shrink.step]
      cases (idBatch bs fmt st k nextid now).2 <;> rfl

lemma Shrink.Reaches.step (bs : BatchSizes) {st : Store F} (hS : st.Ordered)
    {col : ShrinkCol F} (hcol : st.getCol key = some col) {x : ShrinkItem F} (hx : x ∈ col.items)
    {s : Shrink} (h : s.Reaches key x.id) (now : Int) : (s.step bs fmt st now).Reaches key x.id := by
  obtain ⟨new, hrec, -⟩ := s.step_records bs st now
  rcases h with ⟨r, hr, ht⟩ | h
  · exact .inl ⟨r, hrec ▸ List.mem_append_left _ hr, ht⟩
  obtain ⟨phase, keys, nextkey, keysdone, records⟩ := s
  cases phase with
  | finished => exact h.elim
  | loadKeys =>
    obtain ⟨rfl, hk⟩ : keysdone = false ∧ nextkey.toList ≤ key.toList := h
    set K := (st.cols.map (·.1)).filter fun k => nextkey.toList ≤ k.toList
    have hK : (K.map String.toList).Sorted (· < ·) :=
      List.pairwise_map.2 ((List.pairwise_map.1 hS.keys).filter _)
    have hb : keyBatch bs st nextkey = (K.take bs.keys, K.get? bs.keys) := rfl
    have hstep : Shrink.step bs fmt st now ⟨.loadKeys, keys, nextkey, false, records⟩ =
        ⟨if K.take bs.keys = [] then .loadKeys else .ids "", K.take bs.keys,
          (K.get? bs.keys).getD nextkey, (K.get? bs.keys).isNone, records⟩ := by
      simp only [Shrink.step, hb, Bool.false_eq_true, if_false]
    rw [hstep]
    refine .inr ?_
    rcases mem_take_or_get_le String.toList hK
        (List.mem_filter.2 ⟨getCol_mem hcol, by simpa using hk⟩) bs.keys with hB | ⟨k', hk', hle⟩
    · obtain ⟨b, rest, hbr⟩ := List.exists_cons_of_ne_nil (List.ne_nil_of_mem hB)
      rw [hbr] at hB ⊢
      rcases List.mem_cons.1 hB with rfl | hB
      · exact .inl ⟨rfl, List.nil_le⟩
      · exact .inr (.inl hB)
    · rw [hk']
      split_ifs with hB
      · exact ⟨rfl, hle⟩
      · exact Shrink.ahead_of_nextkey (by simp) ⟨rfl, hle⟩
  | ids nextid => cases keys with
    | nil => exact .inr (Shrink.ahead_of_nextkey (by simp [Shrink.step]) h)
    | cons k rest =>
      have hnext : ∀ next, (idBatch bs fmt st k nextid now).2 = next →
          (Shrink.step bs fmt st now ⟨.ids nextid, k :: rest, nextkey, keysdone, records⟩) =
            match next with
            | some i => ⟨.ids i, k :: rest, nextkey, keysdone,
                records ++ (idBatch bs fmt st k nextid now).1⟩
            | none => ⟨if rest = [] then .loadKeys else .ids "", rest, nextkey, keysdone,
                records ++ (idBatch bs fmt st k nextid now).1⟩ := by
        rintro next rfl
        simp only [Shrink.step]
      rcases h with ⟨rfl, hid⟩ | hr | hd
      · set I := col.items.filter fun it => nextid.toList ≤ it.id.toList
        have hI : (I.map (·.id.toList)).Sorted (· < ·) :=
          List.pairwise_map.2 ((List.pairwise_map.1 (hS.ids _ _ hcol)).filter _)
        have hb : idBatch bs fmt st k nextid now =
            ((I.take bs.ids).map (setRecord fmt k col.fieldArr (st.expires k) now),
              (I.get? bs.ids).map (·.id)) := by
          simp only [idBatch, hcol, I]
        rcases mem_take_or_get_le (·.id.toList) hI
            (List.mem_filter.2 ⟨hx, by simpa using hid⟩) bs.ids with hT | ⟨y, hy, hle⟩
        · refine .inl ⟨setRecord fmt k col.fieldArr (st.expires k) now x, ?_, setRecord_take _ _ _ _ _ _⟩
          rw [hnext _ rfl]
          have : setRecord fmt k col.fieldArr (st.expires k) now x ∈
              (idBatch bs fmt st k nextid now).1 := by
            rw [hb]; exact List.mem_map_of_mem _ hT
          cases (idBatch bs fmt st k nextid now).2 <;> exact List.mem_append_right _ this
        · rw [hnext (some y.id) (by rw [hb, hy]; rfl)]
          exact .inr (.inl ⟨rfl, hle⟩)
      · refine .inr ?_
        rw [hnext _ rfl]
        cases (idBatch bs fmt st k nextid now).2 with
        | some i => exact .inr (.inl hr)
        | none =>
          obtain ⟨b, rest', rfl⟩ := List.exists_cons_of_ne_nil (List.ne_nil_of_mem hr)
          rcases List.mem_cons.1 hr with rfl | hr
          · exact .inl ⟨rfl, List.nil_le⟩
          · exact .inr (.inl hr)
      · refine .inr ?_
        rw [hnext _ rfl]
        cases (idBatch bs fmt st k nextid now).2 with
        | some i => exact .inr (.inr hd)
        | none => exact Shrink.ahead_of_nextkey (by split_ifs <;> simp) hd

omit [Zero F] [DecidableEq F] in
lemma find?_id_of_mem {items : List (ShrinkItem F)} (hs : (items.map (·.id.toList)).Sorted (· < ·))
    {x : ShrinkItem F} (hx : x ∈ items) : items.find? (·.id = x.id) = some x := by
  cases hy : items.find? (·.id = x.id) with
  | none => exact absurd hx (by simpa using List.find?_eq_none.1 hy x)
  | some y =>
    have hyx : y.id = x.id := by simpa using List.find?_some hy
    rw [List.inj_on_of_nodup_map hs.nodup (List.mem_of_find?_eq_some hy) hx
      (congrArg String.toList hyx)]

lemma replay_record_entry
    (hset : ∀ st args, replay st ("set" :: args) = replaySet parseF deadlineOf st ("set" :: args))
    {S : Store F} (hS : S.Ordered) {now : Int}
    (hlive : ∀ key id due, S.expires key id = some due → now < due) {col : ShrinkCol F}
    (hcol : S.getCol key = some col) {x : ShrinkItem F} (hx : x ∈ col.items) (st : Store F) :
    (replay st (setRecord fmt key col.fieldArr (S.expires key) now x)).entry key x.id =
      S.entry key x.id := by
  rw [show setRecord fmt key col.fieldArr (S.expires key) now x = "set" :: _ from rfl, hset,
    ← show setRecord fmt key col.fieldArr (S.expires key) now x = "set" :: _ from rfl]
  refine (replaySet_record parseF deadlineOf st fmt key col.fieldArr (S.expires key) now x
    (hS.objs key col hcol x hx)).trans ?_
  simp only [Store.entry, Store.view, hcol, find?_id_of_mem (hS.ids key col hcol) hx,
    Option.some_bind, Option.map_some', Option.some.injEq, Prod.mk.injEq, true_and]
  cases he : S.expires key x.id with
  | none => simp
  | some due => simp [hlive key x.id due he]

/-- What a run keeps about an id that no write touches: the store is ordered and holds `E` for
it, every record is a set record, the records for it replay to `E`, and while the store holds
it the copy reaches it. -/
structure ShrinkRun.Tracks (replay : Store F → List String → Store F) (key id : String)
    (E : Option (List String × Bool)) (r : ShrinkRun F) : Prop where
  ordered : r.store.Ordered
  entry : r.store.entry key id = E
  set : ∀ rec ∈ r.copy.records, ∃ args, rec = "set" :: args
  records : ∀ rec ∈ r.copy.records, rec.take 3 = ["set", key, id] →
    ∀ st, (replay st rec).entry key id = E
  reaches : E.isSome → r.copy.Reaches key id

lemma ShrinkRun.Tracks.batch
    (hset : ∀ st args, replay st ("set" :: args) = replaySet parseF deadlineOf st ("set" :: args))
    {E : Option (List String × Bool)} {r : ShrinkRun F} (h : r.Tracks replay key id E) {now : Int}
    (hlive : ∀ key id due, r.store.expires key id = some due → now < due) :
    (r.step fmt (.batch now)).Tracks replay key id E := by
  obtain ⟨new, hrec, hnew⟩ := r.copy.step_records .source r.store now
  have hmem : ∀ rec ∈ (r.step fmt (.batch now)).copy.records, rec ∈ r.copy.records ∨ rec ∈ new :=
    fun rec hr => List.mem_append.1 (hrec ▸ hr)
  refine ⟨h.ordered, h.entry, fun rec hr => ?_, fun rec hr ht st => ?_, fun hE => ?_⟩
  · rcases hmem rec hr with hr | hr
    · exact h.set rec hr
    · obtain ⟨_, _, _, -, -, rfl⟩ := hnew rec hr
      exact ⟨_, rfl⟩
  · rcases hmem rec hr with hr | hr
    · exact h.records rec hr ht st
    · obtain ⟨k, col, x, hcol, hx, rfl⟩ := hnew rec hr
      obtain ⟨rfl, rfl⟩ : k = key ∧ x.id = id := by simpa using ht
      rw [replay_record_entry hset h.ordered hlive hcol hx, h.entry]
  · have hv : (r.store.view key id).isSome := by
      have hE' : (r.store.entry key id).isSome := by rw [h.entry]; exact hE
      simpa [Store.entry] using hE'
    obtain ⟨col, hcol, hfind⟩ : ∃ col, r.store.getCol key = some col ∧
        (col.items.find? (·.id = id)).isSome := by
      unfold Store.view at hv
      cases hc : r.store.getCol key with
      | none => rw [hc] at hv; cases hv
      | some col => rw [hc] at hv; exact ⟨col, rfl, by simpa using hv⟩
    obtain ⟨x, hx⟩ := Option.isSome_iff_exists.1 hfind
    have hid : x.id = id := by simpa using List.find?_some hx
    subst hid
    exact (h.reaches hE).step .source h.ordered hcol (List.mem_of_find?_eq_some hx) now

lemma ShrinkRun.Tracks.write {E : Option (List String × Bool)} {r : ShrinkRun F}
    (h : r.Tracks replay key id E) {tokens : List String} {apply : Store F → Store F}
    (hord : r.store.Ordered → (apply r.store).Ordered)
    (hu : ∀ st, (apply st).entry key id = st.entry key id) :
    (r.step fmt (.write tokens apply)).Tracks replay key id E :=
  ⟨hord h.ordered, (hu _).trans h.entry, h.set, h.records, h.reaches⟩

/-- A whole run in which no write touches the id keeps it tracked. -/
lemma ShrinkRun.Tracks.run
    (hset : ∀ st args, replay st ("set" :: args) = replaySet parseF deadlineOf st ("set" :: args))
    {E : Option (List String × Bool)} :
    ∀ (es : List (ShrinkEvent F)) (r : ShrinkRun F), r.Tracks replay key id E →
      r.Admissible replay fmt es → Untouched replay key id (ShrinkEvent.writes es) →
      (r.run fmt es).Tracks replay key id E
  | [], _, h, _, _ => h
  | .batch now :: es, r, h, ha, hu =>
    ShrinkRun.Tracks.run hset es (r.step fmt (.batch now)) (h.batch hset ha.1) ha.2 hu
  | .write tokens apply :: es, r, h, ha, hu =>
    have hu' := List.forall_mem_cons.1 hu
    ShrinkRun.Tracks.run hset es (r.step fmt (.write tokens apply))
      (h.write ha.2.1 fun st => (hu'.1 st).1) ha.2.2 hu'.2

end Interleaved

/-- `truck1` at (33, -115) in `fleet`, with a deadline at 5 s that had passed at 10 s, when the
shrink ran, and that the expirer had not purged yet. -/
def expiredTruck : Store Int :=
  ⟨[("fleet", ⟨[], [⟨"truck1", ["point", "33", "-115"], []⟩]⟩)],
    fun k i => if k = "fleet" ∧ i = "truck1" then some 5000000000 else none⟩

/-- The shrink of `expiredTruck` at 10 s with no concurrent write. -/
def expiredTruckShrink : ShrinkRun Int :=
  (ShrinkRun.mk expiredTruck .start []).run toString
    [.batch 10000000000, .batch 10000000000, .batch 10000000000, .batch 10000000000]

/-- The copy writes `truck1` without `ex`: replaying the shrunk file gives `truck1` the same
object and no deadline, while in memory it carries one. -/
theorem shrink_drops_passed_deadline :
    expiredTruckShrink.copy.phase = .finished ∧
      expiredTruckShrink.file = [["set", "fleet", "truck1", "point", "33", "-115"]] ∧
      expiredTruckShrink.store.view "fleet" "truck1" =
        some (["point", "33", "-115"], fun _ => 0, true) ∧
      (expiredTruckShrink.file.foldl (replaySet (fun _ => 0) (fun _ => 0)) Store.empty).view
        "fleet" "truck1" = some (["point", "33", "-115"], fun _ => 0, false) :=
  ⟨rfl, rfl, rfl, rfl⟩

/-! ### Writing the shrunk file -/

/-- The bytes written to the shrink file so far, and `aofbuf`. -/
structure ShrinkWriter where
  file : List UInt8
  aofbuf : List UInt8

/-- Records appended to `aofbuf`, one multi-bulk array each. -/
def ShrinkWriter.append (w : ShrinkWriter) (records : List (List (List UInt8))) : ShrinkWriter :=
  { w with aofbuf := records.foldl appendValues w.aofbuf }

/-- `f.Write(aofbuf)`, then `aofbuf = aofbuf[:0]`. -/
def ShrinkWriter.flush (w : ShrinkWriter) : ShrinkWriter := ⟨w.file ++ w.aofbuf, []⟩

/-- An id batch of the copy: its records appended, then `aofbuf` written out if that leaves it
over `maxchunk`. -/
def ShrinkWriter.copyBatch (maxchunk : Nat) (w : ShrinkWriter)
    (records : List (List (List UInt8))) : ShrinkWriter :=
  let w := w.append records
  if w.aofbuf.length > maxchunk then w.flush else w

/-- The bytes `aofshrink` writes to the shrink file when every write succeeds: the `set`
records of the copy, one id batch at a time; the hook records, with `aofbuf` written out if it
is not empty; then, under the lock, `aofbuf` emptied, the `shrinklog`, and `aofbuf` written
out. -/
def aofshrinkBytes (maxchunk : Nat) (batches : List (List (List (List UInt8))))
    (hooks shrinklog : List (List (List UInt8))) : List UInt8 :=
  let w := (batches.foldl (ShrinkWriter.copyBatch maxchunk) ⟨[], []⟩).append hooks
  let w := if w.aofbuf.length > 0 then w.flush else w
  ({ w with aofbuf := [] }.append shrinklog).flush.file

lemma foldl_appendValues (records : List (List (List UInt8))) (aofbuf : List UInt8) :
    records.foldl appendValues aofbuf = aofbuf ++ records.flatMap encodeArray := by
  induction records generalizing aofbuf with
  | nil => simp
  | cons r rs ih => rw [List.foldl_cons, ih, appendValues_eq, List.flatMap_cons, List.append_assoc]

@[simp] lemma ShrinkWriter.append_contents (w : ShrinkWriter) (records : List (List (List UInt8))) :
    (w.append records).file ++ (w.append records).aofbuf =
      w.file ++ w.aofbuf ++ records.flatMap encodeArray := by
  simp [ShrinkWriter.append, foldl_appendValues]

@[simp] lemma ShrinkWriter.flush_contents (w : ShrinkWriter) :
    w.flush.file ++ w.flush.aofbuf = w.file ++ w.aofbuf := by
  simp [ShrinkWriter.flush]

/-- The copy's batches lose no byte and duplicate none, whatever the batches and `maxchunk`:
what is written and what is still in `aofbuf` are, together, the records so far. -/
lemma copy_contents (maxchunk : Nat) :
    ∀ (batches : List (List (List (List UInt8)))) (w : ShrinkWriter),
      (batches.foldl (ShrinkWriter.copyBatch maxchunk) w).file ++
          (batches.foldl (ShrinkWriter.copyBatch maxchunk) w).aofbuf =
        w.file ++ w.aofbuf ++ batches.flatten.flatMap encodeArray
  | [], w => by simp
  | records :: batches, w => by
    rw [List.foldl_cons, copy_contents maxchunk batches, List.flatten_cons, List.flatMap_append,
      ShrinkWriter.copyBatch]
    split_ifs <;> simp

/-- The shrink file is the multi-bulk arrays of the copy's `set` records, the hook records and
the `shrinklog`, in that order, for any records with any bytes in their values, any grouping of
the `set` records into batches and any `maxchunk`; reading it back gives those records. -/
theorem aofshrink_file_is_encoding (maxchunk : Nat) (batches : List (List (List (List UInt8))))
    (hooks shrinklog : List (List (List UInt8))) :
    aofshrinkBytes maxchunk batches hooks shrinklog =
        (batches.flatten ++ hooks ++ shrinklog).flatMap encodeArray ∧
      parseMultiBulk (aofshrinkBytes maxchunk batches hooks shrinklog) =
        some (batches.flatten ++ hooks ++ shrinklog) := by
  have hbytes : aofshrinkBytes maxchunk batches hooks shrinklog =
      (batches.flatten ++ hooks ++ shrinklog).flatMap encodeArray := by
    set w := (batches.foldl (ShrinkWriter.copyBatch maxchunk) ⟨[], []⟩).append hooks with hw
    have hcopy : w.file ++ w.aofbuf = (batches.flatten ++ hooks).flatMap encodeArray := by
      rw [hw, ShrinkWriter.append_contents, copy_contents]
      simp
    have hflush : (if w.aofbuf.length > 0 then w.flush else w).file = w.file ++ w.aofbuf := by
      split_ifs with h
      · rfl
      · rw [List.length_eq_zero.1 (show w.aofbuf.length = 0 by omega), List.append_nil]
    have hlog : ∀ v : ShrinkWriter, ({ v with aofbuf := [] }.append shrinklog).flush.file =
        v.file ++ shrinklog.flatMap encodeArray := fun v => by
      simp [ShrinkWriter.flush, ShrinkWriter.append, foldl_appendValues]
    show ({ (if w.aofbuf.length > 0 then w.flush else w) with aofbuf := [] }.append
      shrinklog).flush.file = _
    rw [hlog, hflush, hcopy, List.flatMap_append, List.flatMap_append, List.flatMap_append]
  exact ⟨hbytes, hbytes ▸ parseMultiBulk_encodeArray _⟩

end Tile38
