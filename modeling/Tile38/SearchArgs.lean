import Mathlib
import Tile38.Hooks
/-!
# Search arguments

`cmdSearchArgs`, the parser of the area of a NEARBY, WITHIN or INTERSECTS search and of the
fence of a SETHOOK, and the two search commands that run it before they search. The options
before the area are read by `parseSearchScanBaseTokens`, and the numbers and rectangles by the
`strconv`, `geohash`, `bing` and `geojson` packages, none of them under src: they are
parameters of the model.

A parsed area keeps the invariants the searches rely on: a radius is never negative, a KNN
query is a NEARBY with LIMIT, without SPARSE and without radius, and a roaming fence is a
NEARBY FENCE (`nearby_query_cases`, `within_area_plain`). Every parse error is the options'
parser's, a missing token, a missing key or id, or names a token of the command
(`search_error_names_token`).
-/

namespace Tile38

variable {F Obj : Type}

/-- `roamSwitches`; `isOn` is its field `on`. -/
structure RoamSwitches (F : Type) where
  isOn : Bool
  key : String
  id : String
  pattern : Bool
  meters : F
  scan : String
  deriving DecidableEq, Repr

/-- The area fields of `liveFenceSwitches`: a point and a radius, an object, a rectangle, or
a roaming fence. -/
structure FenceArea (F Obj : Type) where
  lat : F
  lon : F
  meters : F
  o : Option Obj
  minLat : F
  minLon : F
  maxLat : F
  maxLon : F
  roam : RoamSwitches F
  deriving DecidableEq, Repr

/-- What `parseSearchScanBaseTokens` (not under src) returns: the tokens after the options,
the options, whether LIMIT and SPARSE were given, and its error. -/
structure BaseParse (F : Type) where
  rest : List String
  tokens : SearchScanBaseTokens F
  ulimit : Bool
  usparse : Bool
  err : Option String

/-- What `cmdSearchArgs` reads besides its tokens, none of it under src:
`parseSearchScanBaseTokens`, `strconv.ParseFloat`, `ParseInt` and `ParseUint`,
`geohash.Bounds`, `bing.QuadKeyToBounds` and `bing.TileXYToBounds` (each rectangle as min
lat, min lon, max lat, max lon), `geojson.ObjectJSON`, `glob.IsGlob`, and the objects of a
key's collection (`getCol`, then `Get`) with the rectangle `CalculatedBBox` gives when
`IsBBoxDefined`. -/
structure SearchArgsEnv (F Obj : Type) where
  parseBase : String → List String → BaseParse F
  parseFloat : String → Option F
  parseInt : String → Option Int
  parseUint : String → Option Nat
  geohashBounds : String → Option (F × F × F × F)
  quadKeyToBounds : String → Option (F × F × F × F)
  tileXYToBounds : Int → Int → Nat → F × F × F × F
  objectJSON : String → Except String Obj
  getCol : String → Option (String → Option Obj)
  bbox : Obj → Option (F × F × F × F)
  isGlob : String → Bool

/-- `errKeyNotFound` (not under src). -/
def errKeyNotFound : String := "key not found"

/-- `errIDNotFound` (not under src). -/
def errIDNotFound : String := "id not found"

/-- `defaultSearchOutput` (not under src). -/
def defaultSearchOutput : Output := .objects

/-- `tokenval` (not under src): the tokens after the first, the first, and whether there was
one. -/
def tokenval : List String → List String × String × Bool
  | [] => ([], "", false)
  | v :: vs => (vs, v, true)

/-- `tokenval` with the check every case makes, `!ok || tok == ""`, failing with `err`. -/
def requireToken (err : String) (vs : List String) : Except String (List String × String) :=
  let (vs, t, ok) := tokenval vs
  if !ok || t == "" then .error err else .ok (vs, t)

/-- A token read by a `strconv` parser or an area decoder, or `errInvalidArgument` of the
token. -/
def parseOr {α : Type} (parse : String → Option α) (t : String) : Except String α :=
  match parse t with
  | some x => .ok x
  | none => .error (errInvalidArgument t)


/-! ### Reading tokens -/

lemma requireToken_error {err : String} {vs : List String} {e : String}
    (h : requireToken err vs = .error e) : e = err := by
  cases vs with
  | nil => cases h; rfl
  | cons v vs =>
    simp only [requireToken, tokenval] at h
    split at h
    · cases h; rfl
    · cases h

lemma parseOr_eq_error {α : Type} {parse : String → Option α} {t e : String}
    (h : parseOr parse t = .error e) : e = errInvalidArgument t := by
  unfold parseOr at h
  split at h <;> cases h
  rfl

lemma requireToken_eq_ok {err : String} {vs : List String} {v : List String × String} :
    requireToken err vs = .ok v ↔ vs = v.2 :: v.1 ∧ v.2 ≠ "" := by
  obtain ⟨vs', t⟩ := v
  rcases vs with _ | ⟨t', vs⟩
  · simp [requireToken, tokenval]
  · by_cases ht : t' = "" <;> simp [requireToken, tokenval, ht]
    · rintro rfl -
      rfl
    · exact ⟨fun ⟨h1, h2⟩ => ⟨⟨h2, h1⟩, h2 ▸ ht⟩, fun ⟨⟨h1, h2⟩, _⟩ => ⟨h2, h1⟩⟩

lemma tokenval_mem {vs : List String} (h : (tokenval vs).2.2 = true) : (tokenval vs).2.1 ∈ vs := by
  cases vs with
  | nil => cases h
  | cons v vs => exact List.mem_cons_self v vs

lemma tokenval_sub (vs : List String) : (tokenval vs).1 ⊆ vs := by
  cases vs with
  | nil => exact List.Subset.refl _
  | cons v vs => exact List.subset_cons_self v vs

lemma tokenval_cons_sub {vs : List String} (h : (tokenval vs).2.2 = true) :
    (tokenval vs).2.1 :: (tokenval vs).1 ⊆ vs := by
  cases vs with
  | nil => cases h
  | cons v vs => exact List.Subset.refl _

/-- The errors an area case makes: a missing token, a token of `vs` that does not parse, a
missing key or id, or the error `geojson.ObjectJSON` gives for a token of `vs`. -/
inductive AreaError (env : SearchArgsEnv F Obj) (vs : List String) : String → Prop
  | args : AreaError env vs errInvalidNumberOfArguments
  | arg {t : String} : t ∈ vs → AreaError env vs (errInvalidArgument t)
  | key : AreaError env vs errKeyNotFound
  | id : AreaError env vs errIDNotFound
  | object {t e : String} : t ∈ vs → env.objectJSON t = .error e → AreaError env vs e

lemma AreaError.mono {env : SearchArgsEnv F Obj} {vs vs' : List String} {e : String}
    (hsub : vs ⊆ vs') : AreaError env vs e → AreaError env vs' e
  | .args => .args
  | .arg h => .arg (hsub h)
  | .key => .key
  | .id => .id
  | .object h he => .object (hsub h) he

/-- The area type after the options: with output BOUNDS, a WITHIN or INTERSECTS whose type
token is a number reads it as the first coordinate of a `bounds` area and takes the default
output. The switches, the type, and the tokens after it. -/
def boundsAsArea (env : SearchArgsEnv F Obj) (cmd : String) (s : LiveFenceSwitches F) (typ : String) (vs : List String) :
    LiveFenceSwitches F × String × List String :=
  if s.output == .bounds && (cmd == "within" || cmd == "intersects") &&
      (env.parseFloat typ).isSome then
    ({ s with output := defaultSearchOutput }, "BOUNDS", typ :: vs)
  else (s, typ, vs)

/-- `found`: the type is one of `types`, or `roam` for a NEARBY FENCE. -/
def typeFound (cmd : String) (types : List String) (fence : Bool) (ltyp : String) : Bool :=
  types.contains ltyp || fence && ltyp == "roam" && cmd == "nearby"

@[simp] lemma boundsAsArea_fence (env : SearchArgsEnv F Obj) (cmd : String) (s : LiveFenceSwitches F) (typ : String)
    (vs : List String) : (boundsAsArea env cmd s typ vs).1.fence = s.fence := by
  unfold boundsAsArea
  split <;> rfl

lemma boundsAsArea_type (env : SearchArgsEnv F Obj) (cmd : String) (s : LiveFenceSwitches F)
    (typ : String) (vs : List String) :
    (boundsAsArea env cmd s typ vs).2.1 = typ ∧ (boundsAsArea env cmd s typ vs).2.2 = vs ∨
      (boundsAsArea env cmd s typ vs).2.1 = "BOUNDS" ∧
        (boundsAsArea env cmd s typ vs).2.2 = typ :: vs ∧ (cmd = "within" ∨ cmd = "intersects") := by
  unfold boundsAsArea
  split
  · exact .inr ⟨rfl, rfl, by simp_all⟩
  · exact .inl ⟨rfl, rfl⟩

lemma typeFound_iff {cmd : String} {types : List String} {fence : Bool} {ltyp : String} :
    typeFound cmd types fence ltyp = true ↔
      ltyp ∈ types ∨ fence = true ∧ ltyp = "roam" ∧ cmd = "nearby" := by
  simp [typeFound, and_assoc]

section Parse

variable [Zero F] [One F] [Neg F]

/-- The area fields as `cmdSearchArgs` leaves them before the area's case: zero values, and
`s.meters = -1`, which a circle or a radius replaces. -/
def FenceArea.init : FenceArea F Obj :=
  ⟨0, 0, -1, none, 0, 0, 0, 0, ⟨false, "", "", false, 0, ""⟩⟩

/-- The area of a point, with a radius or with `-1`. -/
def FenceArea.point (lat lon meters : F) : FenceArea F Obj :=
  { (FenceArea.init : FenceArea F Obj) with lat := lat, lon := lon, meters := meters }

/-- The area of an object. -/
def FenceArea.object (o : Obj) : FenceArea F Obj :=
  { (FenceArea.init : FenceArea F Obj) with o := some o }

/-- The area of a rectangle (min lat, min lon, max lat, max lon). -/
def FenceArea.rect (r : F × F × F × F) : FenceArea F Obj :=
  { (FenceArea.init : FenceArea F Obj) with
    minLat := r.1, minLon := r.2.1, maxLat := r.2.2.1, maxLon := r.2.2.2 }

/-- The area of a roaming fence. -/
def FenceArea.roaming (r : RoamSwitches F) : FenceArea F Obj :=
  { (FenceArea.init : FenceArea F Obj) with roam := r }

@[simp] lemma FenceArea.point_meters (lat lon meters : F) :
    (FenceArea.point lat lon meters : FenceArea F Obj).meters = meters := rfl

@[simp] lemma FenceArea.point_roam (lat lon meters : F) :
    (FenceArea.point lat lon meters : FenceArea F Obj).roam.isOn = false := rfl

@[simp] lemma FenceArea.object_meters (o : Obj) : (FenceArea.object o : FenceArea F Obj).meters = -1 :=
  rfl

@[simp] lemma FenceArea.object_roam (o : Obj) :
    (FenceArea.object o : FenceArea F Obj).roam.isOn = false := rfl

@[simp] lemma FenceArea.rect_meters (r : F × F × F × F) :
    (FenceArea.rect r : FenceArea F Obj).meters = -1 := rfl

@[simp] lemma FenceArea.rect_roam (r : F × F × F × F) :
    (FenceArea.rect r : FenceArea F Obj).roam.isOn = false := rfl

@[simp] lemma FenceArea.init_meters : (FenceArea.init : FenceArea F Obj).meters = -1 := rfl

@[simp] lemma FenceArea.init_roam : (FenceArea.init : FenceArea F Obj).roam.isOn = false := rfl

@[simp] lemma FenceArea.roaming_meters (r : RoamSwitches F) :
    (FenceArea.roaming r : FenceArea F Obj).meters = -1 := rfl

@[simp] lemma FenceArea.roaming_roam (r : RoamSwitches F) :
    (FenceArea.roaming r : FenceArea F Obj).roam = r := rfl

variable [LT F] [DecidableRel ((· < ·) : F → F → Prop)] (env : SearchArgsEnv F Obj)

/-- The `point` case: a latitude, a longitude and a radius, or, for a NEARBY with LIMIT and
without SPARSE, no radius and a KNN query. The tokens left, the area and `knn`. -/
def pointArea (cmd : String) (b : BaseParse F) (vs : List String) :
    Except String (List String × FenceArea F Obj × Bool) := do
  let (vs, slat) ← requireToken errInvalidNumberOfArguments vs
  let (vs, slon) ← requireToken errInvalidNumberOfArguments vs
  let (vs, smeters, ok) := tokenval vs
  let umeters := ok && smeters != ""
  let knn := !umeters && cmd == "nearby" && b.ulimit && !b.usparse
  if !umeters && !knn then .error (errInvalidArgument slat)
  else do
    let lat ← parseOr env.parseFloat slat
    let lon ← parseOr env.parseFloat slon
    if umeters then do
      let meters ← parseOr env.parseFloat smeters
      if meters < 0 then .error (errInvalidArgument smeters)
      else .ok (vs, FenceArea.point lat lon meters, knn)
    else .ok (vs, FenceArea.point lat lon (-1), knn)

/-- The `circle` case; a missing radius names the latitude. -/
def circleArea (vs : List String) : Except String (List String × FenceArea F Obj × Bool) := do
  let (vs, slat) ← requireToken errInvalidNumberOfArguments vs
  let (vs, slon) ← requireToken errInvalidNumberOfArguments vs
  let (vs, smeters) ← requireToken (errInvalidArgument slat) vs
  let lat ← parseOr env.parseFloat slat
  let lon ← parseOr env.parseFloat slon
  let meters ← parseOr env.parseFloat smeters
  if meters < 0 then .error (errInvalidArgument smeters)
  else .ok (vs, FenceArea.point lat lon meters, false)

/-- The `object` case: a GeoJSON object, with the error of `geojson.ObjectJSON`. -/
def objectArea (vs : List String) : Except String (List String × FenceArea F Obj × Bool) := do
  let (vs, obj) ← requireToken errInvalidNumberOfArguments vs
  let o ← env.objectJSON obj
  .ok (vs, FenceArea.object o, false)

/-- The `bounds` case: four coordinates. -/
def boundsArea (vs : List String) : Except String (List String × FenceArea F Obj × Bool) := do
  let (vs, sminLat) ← requireToken errInvalidNumberOfArguments vs
  let (vs, sminLon) ← requireToken errInvalidNumberOfArguments vs
  let (vs, smaxLat) ← requireToken errInvalidNumberOfArguments vs
  let (vs, smaxLon) ← requireToken errInvalidNumberOfArguments vs
  let minLat ← parseOr env.parseFloat sminLat
  let minLon ← parseOr env.parseFloat sminLon
  let maxLat ← parseOr env.parseFloat smaxLat
  let maxLon ← parseOr env.parseFloat smaxLon
  .ok (vs, FenceArea.rect (minLat, minLon, maxLat, maxLon), false)

/-- The `hash` and `quadkey` cases: one token that `decode` (`geohash.Bounds` or
`bing.QuadKeyToBounds`) turns into a rectangle. -/
def decodedArea (decode : String → Option (F × F × F × F)) (vs : List String) :
    Except String (List String × FenceArea F Obj × Bool) := do
  let (vs, t) ← requireToken errInvalidNumberOfArguments vs
  let r ← parseOr decode t
  .ok (vs, FenceArea.rect r, false)

/-- The `tile` case: the tile's x, y and zoom. -/
def tileArea (vs : List String) : Except String (List String × FenceArea F Obj × Bool) := do
  let (vs, sx) ← requireToken errInvalidNumberOfArguments vs
  let (vs, sy) ← requireToken errInvalidNumberOfArguments vs
  let (vs, sz) ← requireToken errInvalidNumberOfArguments vs
  let x ← parseOr env.parseInt sx
  let y ← parseOr env.parseInt sy
  let z ← parseOr env.parseUint sz
  .ok (vs, FenceArea.rect (env.tileXYToBounds x y z), false)

/-- The `get` case: the rectangle of a stored object when it has one, else the object. -/
def getArea (vs : List String) : Except String (List String × FenceArea F Obj × Bool) := do
  let (vs, key) ← requireToken errInvalidNumberOfArguments vs
  let (vs, id) ← requireToken errInvalidNumberOfArguments vs
  match env.getCol key with
  | none => .error errKeyNotFound
  | some col =>
    match col id with
    | none => .error errIDNotFound
    | some o =>
      match env.bbox o with
      | some r => .ok (vs, FenceArea.rect r, false)
      | none => .ok (vs, FenceArea.object o, false)

/-- The `roam` case: a key, an id or pattern, a distance, and an optional `SCAN` pattern. -/
def roamArea (vs : List String) : Except String (List String × FenceArea F Obj × Bool) := do
  let (vs, key) ← requireToken errInvalidNumberOfArguments vs
  let (vs, id) ← requireToken errInvalidNumberOfArguments vs
  let (vs, smeters) ← requireToken errInvalidNumberOfArguments vs
  let meters ← parseOr env.parseFloat smeters
  let (vs', scan, ok) := tokenval vs
  if ok then
    if toLower scan != "scan" then .error (errInvalidArgument scan)
    else do
      let (vs, scan) ← requireToken errInvalidNumberOfArguments vs'
      .ok (vs, FenceArea.roaming ⟨true, key, id, env.isGlob id, meters, scan⟩, false)
  else .ok (vs', FenceArea.roaming ⟨true, key, id, env.isGlob id, meters, ""⟩, false)

/-- The switch of `cmdSearchArgs` over the lower-cased area type; `geo` has no case. -/
def parseArea (cmd : String) (b : BaseParse F) (ltyp : String) (vs : List String) :
    Except String (List String × FenceArea F Obj × Bool) :=
  match ltyp with
  | "point" => pointArea env cmd b vs
  | "circle" => circleArea env vs
  | "object" => objectArea env vs
  | "bounds" => boundsArea env vs
  | "hash" => decodedArea env.geohashBounds vs
  | "quadkey" => decodedArea env.quadKeyToBounds vs
  | "tile" => tileArea env vs
  | "get" => getArea env vs
  | "roam" => roamArea env vs
  | _ => .ok (vs, FenceArea.init, false)

/-- `cmdSearchArgs`: the switches (the options and `knn`), and the area or the error. After
an error the model returns the switches without the area fields a case had set; the callers
only release the switches' scripts then. -/
def cmdSearchArgs (cmd : String) (vs : List String) (types : List String) :
    LiveFenceSwitches F × Except String (FenceArea F Obj) :=
  let b := env.parseBase cmd vs
  let s : LiveFenceSwitches F := ⟨b.tokens, false⟩
  match b.err with
  | some e => (s, .error e)
  | none =>
    let (vs, typ, ok) := tokenval b.rest
    if !ok || typ == "" then (s, .error errInvalidNumberOfArguments)
    else
      let (s, typ, vs) := boundsAsArea env cmd s typ vs
      let ltyp := toLower typ
      if !typeFound cmd types s.fence ltyp then (s, .error (errInvalidArgument typ))
      else
        match parseArea env cmd b ltyp vs with
        | .error e => (s, .error e)
        | .ok (vs, a, knn) =>
          if !vs.isEmpty then ({ s with knn := knn }, .error errInvalidNumberOfArguments)
          else ({ s with knn := knn }, .ok a)

/-! ### What the area cases return -/

lemma parseArea_error {cmd ltyp : String} {b : BaseParse F} {vs : List String} {e : String}
    (h : parseArea env cmd b ltyp vs = .error e) : AreaError env vs e := by
  unfold parseArea at h
  split at h <;>
    try simp only [pointArea, circleArea, objectArea, boundsArea, decodedArea, tileArea, getArea,
      roamArea, bind, Except.bind] at h
  all_goals repeat' split at h
  all_goals cases h
  all_goals
    try obtain rfl := requireToken_error ‹_›
    try obtain rfl := parseOr_eq_error ‹_›
    try simp only [requireToken_eq_ok] at *
    first
    | exact .args | exact .key | exact .id
    | (apply AreaError.arg; simp [*]; done)
    | (apply AreaError.arg; simp_all [tokenval_mem])
    | (refine .object ?_ ‹_›; simp_all)

/-- What a successful case guarantees, by area type: the radius is `-1` or not negative; a
KNN query is a NEARBY `point` with LIMIT, without SPARSE and without radius; a `point`
that is not KNN and a `circle` have a radius; only `roam` roams, without radius and with
its pattern flag the glob test of its id. -/
structure AreaOk (isGlob : String → Bool) (cmd : String) (b : BaseParse F) (ltyp : String)
    (a : FenceArea F Obj) (knn : Bool) : Prop where
  meters : a.meters = -1 ∨ ¬ a.meters < 0
  nearest : knn = true →
    ltyp = "point" ∧ cmd = "nearby" ∧ b.ulimit = true ∧ b.usparse = false ∧ a.meters = -1
  radius : knn = false → (ltyp = "point" ∨ ltyp = "circle") → ¬ a.meters < 0
  roamOn : a.roam.isOn = true ↔ ltyp = "roam"
  roaming : ltyp = "roam" → a.meters = -1 ∧ a.roam.pattern = isGlob a.roam.id

omit [DecidableRel ((· < ·) : F → F → Prop)] in
lemma AreaOk.shape {isGlob : String → Bool} {cmd : String} {b : BaseParse F} {ltyp : String}
    {a : FenceArea F Obj} (hp : ltyp ≠ "point") (hc : ltyp ≠ "circle") (hr : ltyp ≠ "roam")
    (hm : a.meters = -1) (ho : a.roam.isOn = false) : AreaOk isGlob cmd b ltyp a false :=
  ⟨.inl hm, nofun, fun _ h => by simp_all, by simp [ho, hr], fun h => absurd h hr⟩

omit [DecidableRel ((· < ·) : F → F → Prop)] in
lemma AreaOk.circle {isGlob : String → Bool} {cmd : String} {b : BaseParse F} {lat lon meters : F}
    (hm : ¬ meters < 0) :
    AreaOk isGlob cmd b "circle" (FenceArea.point lat lon meters : FenceArea F Obj) false :=
  ⟨.inr hm, nofun, fun _ _ => hm, by simp, fun h => absurd h (by decide)⟩

omit [DecidableRel ((· < ·) : F → F → Prop)] in
lemma AreaOk.roam {isGlob : String → Bool} {cmd : String} {b : BaseParse F}
    {key id scan : String} {meters : F} :
    AreaOk isGlob cmd b "roam"
      (FenceArea.roaming ⟨true, key, id, isGlob id, meters, scan⟩ : FenceArea F Obj) false :=
  ⟨.inl rfl, nofun, fun _ h => absurd h (by decide), by simp, fun _ => ⟨rfl, rfl⟩⟩

lemma parseArea_ok {cmd ltyp : String} {b : BaseParse F} {vs vs' : List String}
    {a : FenceArea F Obj} {knn : Bool} (h : parseArea env cmd b ltyp vs = .ok (vs', a, knn)) :
    AreaOk env.isGlob cmd b ltyp a knn := by
  unfold parseArea at h
  split at h <;>
    try simp only [pointArea, circleArea, objectArea, boundsArea, decodedArea, tileArea, getArea,
      roamArea, bind, Except.bind] at h
  all_goals repeat' split at h
  all_goals cases h
  all_goals first
    | exact .shape (by decide) (by decide) (by decide) rfl rfl
    | exact .shape ‹_› ‹_› ‹_› rfl rfl
    | exact .circle ‹_›
    | exact .roam
    | (constructor <;> simp_all)

/-! ### `cmdSearchArgs` -/

/-- A successful parse: the area type is one of `types`, or `roam` for a NEARBY FENCE, and its
case read every token after the options and the type. -/
lemma cmdSearchArgs_ok {cmd : String} {vs types : List String} {s : LiveFenceSwitches F}
    {a : FenceArea F Obj} (h : cmdSearchArgs env cmd vs types = (s, .ok a)) :
    ∃ ltyp vs', (ltyp ∈ types ∨ s.fence = true ∧ ltyp = "roam" ∧ cmd = "nearby") ∧
      parseArea env cmd (env.parseBase cmd vs) ltyp vs' = .ok ([], a, s.knn) ∧
      s.fence = (env.parseBase cmd vs).tokens.fence := by
  unfold cmdSearchArgs at h
  dsimp only at h
  repeat' split at h
  all_goals cases h
  all_goals
    rename_i hfound _ vs' knn hempty hparse
    obtain rfl : vs' = [] := by simpa using hempty
    exact ⟨_, _, typeFound_iff.1 (by simpa using hfound), hparse, by simp⟩

/-- An error of a parse is the error of the options' parser, an area error of the tokens
after the options, or `errInvalidArgument` of the `BOUNDS` that a WITHIN or INTERSECTS output
read as an area puts in place of the area type, when `bounds` is not among the types. -/
lemma cmdSearchArgs_error {cmd : String} {vs types : List String} {e : String}
    (h : (cmdSearchArgs env cmd vs types).2 = .error e) :
    (env.parseBase cmd vs).err = some e ∨
      (e = errInvalidArgument "BOUNDS" ∧ (cmd = "within" ∨ cmd = "intersects") ∧
        "bounds" ∉ types) ∨
      AreaError env (env.parseBase cmd vs).rest e := by
  unfold cmdSearchArgs at h
  dsimp only at h
  split at h
  · cases h; exact .inl ‹_›
  split at h
  · cases h; exact .inr (.inr .args)
  rename_i hok
  replace hok : (tokenval (env.parseBase cmd vs).rest).2.2 = true := by simp_all
  have hsub := tokenval_cons_sub hok
  rcases boundsAsArea_type env cmd ⟨(env.parseBase cmd vs).tokens, false⟩
    (tokenval (env.parseBase cmd vs).rest).2.1 (tokenval (env.parseBase cmd vs).rest).1 with
    ⟨ht, hv⟩ | ⟨ht, hv, hc⟩ <;> rw [ht, hv] at h <;> repeat' split at h
  all_goals cases h
  all_goals first
    | exact .inr (.inr .args)
    | exact .inr (.inr (.arg (tokenval_mem hok)))
    | exact .inr (.inr ((parseArea_error env ‹_›).mono (tokenval_sub _)))
    | exact .inr (.inr ((parseArea_error env ‹_›).mono hsub))
    | (refine .inr (.inl ⟨rfl, hc, fun hb => ?_⟩)
       rename_i hnf
       simp [typeFound, hb, show toLower "BOUNDS" = "bounds" from rfl] at hnf)

/-! ### A parser for the examples -/

/-- Decimal digits as an integer. -/
def decimalDigits (ds : List Char) : Option Int :=
  if ds ≠ [] ∧ ds.all Char.isDigit then
    some (ds.foldl (fun n d => 10 * n + (d.toNat - 48 : Nat)) 0)
  else none

/-- A decimal integer, `-` first for a negative one: the numbers of the examples. -/
def parseDecimal (t : String) : Option Int :=
  match t.toList with
  | '-' :: ds => (decimalDigits ds).map (- ·)
  | ds => decimalDigits ds

/-- Options made of a key and an optional FENCE. -/
def keyFenceBase (_ : String) : List String → BaseParse Int
  | key :: "FENCE" :: rest =>
    ⟨rest, ⟨key, 0, 0, .objects, 0, "*", [], [], [], false, false, true, false⟩, false, false, none⟩
  | key :: rest =>
    ⟨rest, ⟨key, 0, 0, .objects, 0, "*", [], [], [], false, false, false, false⟩, false, false, none⟩
  | [] => ⟨[], ⟨"", 0, 0, .objects, 0, "*", [], [], [], false, false, false, false⟩, false, false,
    some errInvalidNumberOfArguments⟩

/-- Integer coordinates, no geohash, quadkey, object or collection. -/
def intArgsEnv : SearchArgsEnv Int Unit :=
  ⟨keyFenceBase, parseDecimal, parseDecimal, fun t => (parseDecimal t).map Int.toNat,
    fun _ => none, fun _ => none, fun _ _ _ => (0, 0, 0, 0), fun _ => .error "invalid object",
    fun _ => none, fun _ => none, fun _ => false⟩

/-- A parsed NEARBY is one of three queries: a KNN query, with no radius, LIMIT given and
SPARSE not; a search within a radius that is not negative; or a roaming FENCE, whose pattern
flag is the glob test of its id. -/
theorem nearby_query_cases {vs : List String} {s : LiveFenceSwitches F} {a : FenceArea F Obj}
    (h : cmdSearchArgs env "nearby" vs nearbyTypes = (s, .ok a)) :
    (s.knn = true ∧ a.meters = -1 ∧ a.roam.isOn = false ∧
        (env.parseBase "nearby" vs).ulimit = true ∧ (env.parseBase "nearby" vs).usparse = false) ∨
      (s.knn = false ∧ ¬ a.meters < 0 ∧ a.roam.isOn = false) ∨
      (s.knn = false ∧ a.meters = -1 ∧ a.roam.isOn = true ∧ s.fence = true ∧
        a.roam.pattern = env.isGlob a.roam.id) := by
  obtain ⟨ltyp, vs', hl, hp, -⟩ := cmdSearchArgs_ok env h
  have ha := parseArea_ok env hp
  rcases hl with hl | ⟨hf, rfl, -⟩
  · obtain rfl : ltyp = "point" := by simpa [nearbyTypes] using hl
    have hr : a.roam.isOn = false := by simpa using mt ha.roamOn.1 (by decide)
    cases hk : s.knn
    · exact .inr (.inl ⟨rfl, ha.radius hk (.inl rfl), hr⟩)
    · obtain ⟨-, -, hu, hs, hm⟩ := ha.nearest hk
      exact .inl ⟨rfl, hm, hr, hu, hs⟩
  · have hk : s.knn = false := by simpa using mt (fun hk => (ha.nearest hk).1) (by decide)
    obtain ⟨hm, hpat⟩ := ha.roaming rfl
    exact .inr (.inr ⟨hk, hm, ha.roamOn.2 rfl, hf, hpat⟩)

/-- `NEARBY fleet POINT 33 -115 5000` is a search within 5000 of the point. -/
theorem nearby_point_radius :
    let s := (cmdSearchArgs intArgsEnv "nearby" ["fleet", "POINT", "33", "-115", "5000"]
      nearbyTypes).1
    let a : FenceArea Int Unit := FenceArea.point 33 (-115) 5000
    (s.knn = true ∧ a.meters = -1 ∧ a.roam.isOn = false ∧
        (intArgsEnv.parseBase "nearby" ["fleet", "POINT", "33", "-115", "5000"]).ulimit = true ∧
        (intArgsEnv.parseBase "nearby" ["fleet", "POINT", "33", "-115", "5000"]).usparse = false) ∨
      (s.knn = false ∧ ¬ a.meters < 0 ∧ a.roam.isOn = false) ∨
      (s.knn = false ∧ a.meters = -1 ∧ a.roam.isOn = true ∧ s.fence = true ∧
        a.roam.pattern = intArgsEnv.isGlob a.roam.id) :=
  nearby_query_cases intArgsEnv rfl

/-- A parsed WITHIN or INTERSECTS is neither a KNN query nor a roaming fence, and its radius,
when it has one, is not negative. -/
theorem within_area_plain {cmd : String} {vs : List String} {s : LiveFenceSwitches F}
    {a : FenceArea F Obj} (hcmd : cmd = "within" ∨ cmd = "intersects")
    (h : cmdSearchArgs env cmd vs withinOrIntersectsTypes = (s, .ok a)) :
    s.knn = false ∧ a.roam.isOn = false ∧ (a.meters = -1 ∨ ¬ a.meters < 0) := by
  obtain ⟨ltyp, vs', hl, hp, -⟩ := cmdSearchArgs_ok env h
  have ha := parseArea_ok env hp
  replace hl : ltyp ∈ withinOrIntersectsTypes := hl.resolve_right fun ⟨_, _, hn⟩ => by
    rcases hcmd with rfl | rfl <;> exact absurd hn (by decide)
  have hp : ltyp ≠ "point" := fun h => absurd (h ▸ hl) (by decide)
  have hr : ltyp ≠ "roam" := fun h => absurd (h ▸ hl) (by decide)
  exact ⟨by simpa using mt (fun hk => (ha.nearest hk).1) hp,
    by simpa using mt ha.roamOn.1 hr, ha.meters⟩

/-- `WITHIN fleet CIRCLE 33 -115 5000` is a circle. -/
theorem within_circle_plain :
    let s := (cmdSearchArgs intArgsEnv "within" ["fleet", "CIRCLE", "33", "-115", "5000"]
      withinOrIntersectsTypes).1
    let a : FenceArea Int Unit := FenceArea.point 33 (-115) 5000
    s.knn = false ∧ a.roam.isOn = false ∧ (a.meters = -1 ∨ ¬ a.meters < 0) :=
  @within_area_plain Int Unit _ _ _ _ _ intArgsEnv "within"
    ["fleet", "CIRCLE", "33", "-115", "5000"] _ _ (.inl rfl) rfl

/-- For the commands that call it, every error of `cmdSearchArgs` is the options' parser's,
a missing token, a missing key or id, or names a token the client sent: one that does not
parse, or one `geojson.ObjectJSON` refuses. -/
theorem search_error_names_token {cmd : String} {vs types : List String} {e : String}
    (hcall : cmd = "nearby" ∧ types = nearbyTypes ∨
      (cmd = "within" ∨ cmd = "intersects") ∧ types = withinOrIntersectsTypes)
    (hrest : (env.parseBase cmd vs).rest ⊆ vs) (h : (cmdSearchArgs env cmd vs types).2 = .error e) :
    (env.parseBase cmd vs).err = some e ∨ e = errInvalidNumberOfArguments ∨
      e = errKeyNotFound ∨ e = errIDNotFound ∨
      ∃ t ∈ vs, e = errInvalidArgument t ∨ env.objectJSON t = .error e := by
  rcases cmdSearchArgs_error env h with h | ⟨-, hc, hb⟩ | h
  · exact .inl h
  · rcases hcall with ⟨rfl, -⟩ | ⟨-, rfl⟩
    · rcases hc with hc | hc <;> exact absurd hc (by decide)
    · exact absurd (by decide) hb
  · cases h.mono hrest with
    | args => exact .inr (.inl rfl)
    | arg ht => exact .inr (.inr (.inr (.inr ⟨_, ht, .inl rfl⟩)))
    | key => exact .inr (.inr (.inl rfl))
    | id => exact .inr (.inr (.inr (.inl rfl)))
    | object ht ho => exact .inr (.inr (.inr (.inr ⟨_, ht, .inr ho⟩)))

/-- `WITHIN fleet CIRCLE 33 x 5000` fails naming `x`. -/
theorem within_circle_bad_longitude :
    let vs := ["fleet", "CIRCLE", "33", "x", "5000"]
    let e := errInvalidArgument "x"
    (intArgsEnv.parseBase "within" vs).err = some e ∨ e = errInvalidNumberOfArguments ∨
      e = errKeyNotFound ∨ e = errIDNotFound ∨
      ∃ t ∈ vs, e = errInvalidArgument t ∨ intArgsEnv.objectJSON t = .error e :=
  search_error_names_token intArgsEnv (.inr ⟨.inl rfl, rfl⟩) (by simp [intArgsEnv, keyFenceBase])
    rfl

end Parse

/-! ### The search commands on their tokens -/

section Commands

variable [Zero F] [One F] [Neg F] [LT F] [DecidableRel ((· < ·) : F → F → Prop)]
variable (env : SearchArgsEnv F Obj) (glob : Glob) (view : ObjectView F Obj)
  (hasExpired : String → String → Bool) (col : Option (Collection F Obj))
  (stream : FenceArea F Obj → List (String × Obj × List F))

/-- `cmdNearby` on the tokens after the verb: `cmdSearchArgs` with the NEARBY types, then the
search of the parsed switches; `stream` is what the collection presents for the parsed
area. -/
def cmdNearbyMsg (distanceTo : Obj → F) (sort : List (IterItem F Obj) → List (IterItem F Obj))
    (vs : List String) : Except String (ScanWriter F Obj) :=
  match cmdSearchArgs env "nearby" vs nearbyTypes with
  | (_, .error e) => .error e
  | (s, .ok a) => cmdNearby glob view hasExpired distanceTo sort col (stream a) s

/-- `cmdWithinOrIntersects` on the verb and the tokens after it. -/
def cmdWithinOrIntersectsMsg (cmd : String) (vs : List String) :
    Except String (ScanWriter F Obj) :=
  match cmdSearchArgs env cmd vs withinOrIntersectsTypes with
  | (_, .error e) => .error e
  | (s, .ok a) => cmdWithinOrIntersects glob view hasExpired col (stream a) s

end Commands

end Tile38
