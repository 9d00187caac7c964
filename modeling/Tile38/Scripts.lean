import Mathlib
import Tile38.ScanWriter

/-!
# Failing scripts

A `WHEREEVAL` clause runs a Lua script (`whereevalT.match`, not under src). When the script
fails, `match` panics with the error's text; the panic unwinds through `fieldMatch`,
`writeObject` and the collection's iterator up to the search command, whose deferred function
recovers it when `usingLua()` holds. The writer of the scan writer module takes each script's
answer. The functions here are the same functions with the panics, and `Panic.Refines` relates
a run of each to a run of the other: both give the same result, unless a script fails.
-/

namespace Tile38

variable {F Obj : Type} [Zero F]

/-- What a panic carries: a runtime error (an index out of range), or the text of a failed
script. -/
inductive Panic
  | runtime
  | script (msg : String)
  deriving DecidableEq, Repr

/-- A panic of the writer that takes the scripts' answers is a runtime error. -/
def Panic.lift {α : Type} : Option α → Except Panic α
  | some a => .ok a
  | none => .error .runtime

/-- A result with the scripts' panics against the result with their answers: the same result,
or the panic of a script whose failure `fails` names. -/
def Panic.Refines {α : Type} (fails : String → Prop) (r : Except Panic α) (o : Option α) :
    Prop :=
  r = Panic.lift o ∨ ∃ msg, fails msg ∧ r = .error (.script msg)

namespace Panic.Refines

variable {α β : Type} {fails : String → Prop} {r : Except Panic α} {o : Option α}

lemma lift : Refines fails (Panic.lift o) o := .inl rfl

lemma pure (a : α) : Refines fails (.ok a) (some a) := .inl rfl

lemma mono {fails' : String → Prop} (h : Refines fails r o)
    (hf : ∀ msg, fails msg → fails' msg) : Refines fails' r o :=
  h.imp id fun ⟨msg, hm, hr⟩ => ⟨msg, hf msg hm, hr⟩

lemma bind {f : α → Except Panic β} {g : α → Option β} (h : Refines fails r o)
    (hf : ∀ a, o = some a → Refines fails (f a) (g a)) :
    Refines fails (r.bind f) (o.bind g) := by
  rcases h with rfl | ⟨msg, hm, rfl⟩
  · cases o with
    | none => exact .inl rfl
    | some a => exact hf a rfl
  · exact .inr ⟨msg, hm, rfl⟩

lemma map (f : α → β) (h : Refines fails r o) : Refines fails (r.map f) (o.map f) := by
  rcases h with rfl | ⟨msg, hm, rfl⟩
  · cases o <;> exact .inl rfl
  · exact .inr ⟨msg, hm, rfl⟩

lemma eq_some {a : α} (h : Refines fails r o) (hr : r = .ok a) : o = some a := by
  rcases h with rfl | ⟨msg, -, rfl⟩
  · cases o <;> cases hr
    rfl
  · cases hr

lemma eq_lift (h : Refines fails r o) (hf : ∀ msg, ¬ fails msg) : r = Panic.lift o :=
  h.resolve_right fun ⟨msg, hm, _⟩ => hf msg hm

lemma script_of_error {a : α} {p : Panic} (h : Refines fails r (some a)) (hr : r = .error p) :
    ∃ msg, fails msg ∧ p = .script msg := by
  rcases h with rfl | ⟨msg, hm, rfl⟩
  · cases hr
  · cases hr
    exact ⟨msg, hm, rfl⟩

end Panic.Refines

/-! ### The writer with the scripts' panics -/

omit [Zero F] in
/-- The `WHEREEVAL` clauses in order: the first that answers `false` stops the check, and a
script that fails panics with its text. -/
def evalsMatch (read : String → Option F) : List (WhereEval F) → Except Panic Bool
  | [] => .ok true
  | we :: wes =>
    match we.raise read with
    | some msg => .error (.script msg)
    | none => if we.test read then evalsMatch read wes else .ok false

omit [Zero F] in
lemma evalsMatch_refines (read : String → Option F) (wes : List (WhereEval F)) :
    Panic.Refines (fun msg => ∃ we ∈ wes, we.raise read = some msg) (evalsMatch read wes)
      (some (wes.all fun we => we.test read)) := by
  induction wes with
  | nil => exact .pure true
  | cons we wes ih =>
    rw [evalsMatch, List.all_cons]
    cases hr : we.raise read with
    | some msg => exact .inr ⟨msg, ⟨we, .head _, hr⟩, rfl⟩
    | none =>
      cases we.test read
      · exact .pure false
      · exact ih.mono fun msg ⟨w, hw, h⟩ => ⟨w, .tail _ hw, h⟩

/-- A `WHEREEVAL` script of the writer fails on an item's fields with the text `msg`. -/
def ScanConfig.scriptFails (cfg : ScanConfig F) (fields : List F) (msg : String) : Prop :=
  ∃ we ∈ cfg.whereevals, we.raise (fieldsWithNames cfg.fmap fields) = some msg

/-- `clausesWith`, with the scripts' panics. -/
def ScanConfig.clausesLua (cfg : ScanConfig F) (read : String → Option F) (z : F)
    (fields : List F) : Except Panic Bool := do
  if !(← Panic.lift (checkClauses (withZ z read) cfg.wheres)) then return false
  if !(← Panic.lift (checkClauses read cfg.whereins)) then return false
  evalsMatch (fieldsWithNames cfg.fmap fields) cfg.whereevals

/-- `clauseMatch`, with the scripts' panics. -/
def ScanConfig.clauseMatchLua (view : ObjectView F Obj) (cfg : ScanConfig F) (fields : List F)
    (o : Obj) : Except Panic Bool :=
  if cfg.fillsFvals then
    cfg.clausesLua (fvalsValue cfg.fmap (cfg.fieldVals fields)) (view.pointZ o) fields
  else cfg.clausesLua (fun f => some (fieldValue cfg.fmap fields f)) (view.pointZ o) fields

/-- `fieldMatch`, with the scripts' panics. -/
def ScanWriter.fieldMatchLua (view : ObjectView F Obj) (sw : ScanWriter F Obj)
    (fields : List F) (o : Obj) : Except Panic (ScanWriter F Obj × List F × Bool) :=
  let fvals := if sw.cfg.fillsFvals then sw.cfg.fieldVals fields else sw.fvals
  (sw.cfg.clauseMatchLua view fields o).map fun ok => ({ sw with fvals }, fvals, ok)

/-- `writeObject`, with the scripts' panics. -/
def ScanWriter.writeObjectLua (glob : Glob) (view : ObjectView F Obj) (sw : ScanWriter F Obj)
    (opts : ScanWriterParams F Obj) : Except Panic (ScanWriter F Obj × Bool) := do
  let (ok, keepGoing) :=
    if opts.ignoreGlobMatch then (true, true) else sw.cfg.globMatch glob view opts.id opts.o
  if !ok then return (sw, true)
  let (sw, nfields, ok) ← sw.fieldMatchLua view opts.fields opts.o
  if !ok then return (sw, true)
  return sw.accept opts nfields keepGoing

/-- `scan`, with the scripts' panics. -/
def ScanWriter.scanLua (glob : Glob) (view : ObjectView F Obj) (sw : ScanWriter F Obj) :
    List (ScanWriterParams F Obj) → Except Panic (ScanWriter F Obj)
  | [] => .ok sw
  | p :: ps => do
    let (sw, go) ← sw.writeObjectLua glob view p
    if go then sw.scanLua glob view ps else .ok sw

section Refinement

variable (glob : Glob) (view : ObjectView F Obj)

lemma ScanConfig.clausesLua_refines (cfg : ScanConfig F) (read : String → Option F) (z : F)
    (fields : List F) :
    Panic.Refines (cfg.scriptFails fields) (cfg.clausesLua read z fields)
      (cfg.clausesWith read z fields) := by
  refine Panic.Refines.lift.bind fun a _ => ?_
  cases a
  · exact .pure false
  refine Panic.Refines.lift.bind fun b _ => ?_
  cases b
  · exact .pure false
  exact evalsMatch_refines _ _

lemma ScanWriter.fieldMatchLua_refines (sw : ScanWriter F Obj) (fields : List F) (o : Obj) :
    Panic.Refines (sw.cfg.scriptFails fields) (sw.fieldMatchLua view fields o)
      (sw.fieldMatch view fields o) := by
  refine Panic.Refines.map _ ?_
  unfold ScanConfig.clauseMatchLua ScanConfig.clauseMatch
  split <;> exact ScanConfig.clausesLua_refines _ _ _ _

/-- One candidate: `writeObject` with the scripts' panics refines `writeObject`. -/
lemma ScanWriter.writeObjectLua_refines (sw : ScanWriter F Obj) (p : ScanWriterParams F Obj) :
    Panic.Refines (sw.cfg.scriptFails p.fields) (sw.writeObjectLua glob view p)
      (sw.writeObject glob view p) := by
  unfold ScanWriter.writeObjectLua ScanWriter.writeObject
  rcases (if p.ignoreGlobMatch then (true, true) else sw.cfg.globMatch glob view p.id p.o)
    with ⟨_ | _, k⟩
  · exact .pure _
  refine (sw.fieldMatchLua_refines view p.fields p.o).bind fun ⟨sw1, nf, ok⟩ _ => ?_
  cases ok <;> exact .pure _

/-- A whole scan with the scripts' panics refines the scan; a failure is one of a script on a
candidate of the stream. -/
theorem ScanWriter.scanLua_refines : ∀ (ps : List (ScanWriterParams F Obj)) (sw : ScanWriter F Obj),
    Panic.Refines (fun msg => ∃ p ∈ ps, sw.cfg.scriptFails p.fields msg)
      (sw.scanLua glob view ps) (sw.scan glob view ps)
  | [], _ => .pure _
  | p :: ps, sw => by
    refine ((sw.writeObjectLua_refines glob view p).mono fun msg h => ⟨p, .head _, h⟩).bind
      fun ⟨sw1, go⟩ h1 => ?_
    cases go
    · exact .pure _
    · have c1 := writeObject_cfg glob view h1
      exact (scanLua_refines ps sw1).mono fun msg ⟨q, hq, hf⟩ => ⟨q, .tail _ hq, c1 ▸ hf⟩

end Refinement

end Tile38
