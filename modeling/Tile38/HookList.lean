import Mathlib
import Tile38.Hooks
/-!
# The HOOKS command

`cmdHooks` ranges over the controller's hook map, keeps the hooks whose name the pattern
matches, sorts them by name with `sort.Sort`, and replies with each hook's name, key,
endpoints, command tokens and metas. Go visits a map in an unspecified order and `sort.Sort`
is not stable; both are parameters here. On every registry that keeps its invariant the reply
is the one the registry determines, whatever the visiting order and whichever correct sort
runs (`hooks_reply_independent`): the names that match, in increasing order, each with the
listing of the hook it is registered under. From that reply follow what HOOKS shows after a
SETHOOK, which changes the listing of its own name only, and after a PDELHOOK.
-/

namespace Tile38

variable {F Obj : Type}

/-- The RESP array of one hook in the reply of HOOKS: its name, its key, its endpoints, the
tokens of its command, and its metas as name, value, name, value. -/
structure HookListing where
  name : String
  key : String
  endpoints : List String
  command : List String
  metas : List String
  deriving DecidableEq, Repr

/-- The listing of a hook. -/
def Hook.listing (h : Hook F Obj) : HookListing :=
  ⟨h.name, h.key, h.endpoints, h.message, h.metas.flatMap fun m => [m.name, m.value]⟩

/-- The listing of the hook a name is registered under. -/
def HookState.listed (st : HookState F Obj) (n : String) : Option HookListing :=
  (st.hooks.lookup n).bind fun p => (st.heap p).map (·.hook.listing)

/-- What `sort.Sort(hooksByName(hooks))` guarantees: a permutation in which no hook's name is
less than the name of a hook before it. -/
def SortsByName (sort : List (Hook F Obj) → List (Hook F Obj)) : Prop :=
  ∀ l, (sort l).Perm l ∧ (sort l).Sorted fun a b => ¬ b.name < a.name

/-- Insertion sort on names, one of the sorts `sort.Sort` with `hooksByName` may be. -/
def sortByName (l : List (Hook F Obj)) : List (Hook F Obj) :=
  l.insertionSort fun a b => a.name ≤ b.name

lemma sortByName_sorts : SortsByName (@sortByName F Obj) := by
  have : IsTotal (Hook F Obj) fun a b => a.name ≤ b.name := ⟨fun _ _ => le_total _ _⟩
  have : IsTrans (Hook F Obj) fun a b => a.name ≤ b.name := ⟨fun _ _ _ => le_trans⟩
  exact fun l => ⟨List.perm_insertionSort _ l, (List.sorted_insertionSort _ l).imp not_lt.2⟩

/-- `cmdHooks` with RESP output, on the tokens of the message. `visit` is the hook map
(`c.hooks`, a name and the hook's address) in the order `range` visits it, and `sort` is
`sort.Sort` with `hooksByName`. -/
def cmdHooks (glob : Glob) (st : HookState F Obj) (visit : List (Σ _ : String, Nat))
    (sort : List (Hook F Obj) → List (Hook F Obj)) (values : List String) :
    Except String (List HookListing) :=
  match values.drop 1 with
  | [pattern] =>
    if pattern = "" then .error errInvalidNumberOfArguments
    else
      let hooks := visit.filterMap fun e =>
        if glob.isMatch pattern e.1 then (st.heap e.2).map (·.hook) else none
      .ok ((sort hooks).map Hook.listing)
  | _ => .error errInvalidNumberOfArguments

/-- The reply the registry determines: the listings of the names `keep` selects, in
increasing order of name. -/
def namesReply (st : HookState F Obj) (keep : String → Bool) : List HookListing :=
  ((st.hooks.keys.filter keep).insertionSort (· ≤ ·)).filterMap st.listed

/-! ### The reply a registry determines -/

section Listed

variable {st st' : HookState F Obj} {keep : String → Bool}

lemma HookState.WF.listed_name (hw : st.WF) {n : String} {l : HookListing}
    (h : st.listed n = some l) : l.name = n := by
  obtain ⟨p, hl, hp⟩ := Option.bind_eq_some.1 h
  obtain ⟨c, hc, hname, -⟩ := hw.registered n p hl
  rw [hc, Option.map_some', Option.some.injEq] at hp
  rw [← hp, ← hname]
  rfl

lemma HookState.WF.listed_isSome (hw : st.WF) (n : String) :
    (st.listed n).isSome ↔ n ∈ st.hooks.keys := by
  rw [show n ∈ st.hooks.keys ↔ (st.hooks.lookup n).isSome from
    AList.mem_keys.trans AList.lookup_isSome.symm]
  cases hl : st.hooks.lookup n with
  | none => simp [HookState.listed, hl]
  | some p =>
    obtain ⟨c, hc, -⟩ := hw.registered n p hl
    simp [HookState.listed, hl, hc]

lemma namesReply_names (hw : st.WF) :
    (namesReply st keep).map (·.name) = (st.hooks.keys.filter keep).insertionSort (· ≤ ·) := by
  rw [namesReply, List.map_filterMap]
  conv_rhs => rw [← List.filterMap_some ((st.hooks.keys.filter keep).insertionSort (· ≤ ·))]
  refine List.filterMap_congr fun n hn => ?_
  have hk : n ∈ st.hooks.keys := List.mem_of_mem_filter ((List.perm_insertionSort _ _).subset hn)
  obtain ⟨l, hl⟩ := Option.isSome_iff_exists.1 ((hw.listed_isSome n).2 hk)
  rw [hl, Option.map_some', hw.listed_name hl]

lemma listed_of_mem_namesReply (hw : st.WF) {l : HookListing} (h : l ∈ namesReply st keep) :
    st.listed l.name = some l := by
  obtain ⟨n, -, hn⟩ := List.mem_filterMap.1 h
  rw [hw.listed_name hn]
  exact hn

lemma namesReply_congr (hw : st.WF) (hw' : st'.WF)
    (h : ∀ n, keep n = true → st.listed n = st'.listed n) :
    namesReply st keep = namesReply st' keep := by
  have hmem : ∀ n, n ∈ st.hooks.keys.filter keep ↔ n ∈ st'.hooks.keys.filter keep := fun n => by
    simp only [List.mem_filter, ← hw.listed_isSome, ← hw'.listed_isSome]
    constructor <;> rintro ⟨h1, h2⟩ <;> refine ⟨?_, h2⟩ <;> simpa [h n h2] using h1
  have hperm := (List.perm_ext_iff_of_nodup (st.hooks.keys_nodup.filter _)
    (st'.hooks.keys_nodup.filter _)).2 hmem
  have hsort : (st.hooks.keys.filter keep).insertionSort (· ≤ ·) =
      (st'.hooks.keys.filter keep).insertionSort (· ≤ ·) :=
    List.eq_of_perm_of_sorted
      (((List.perm_insertionSort _ _).trans hperm).trans (List.perm_insertionSort _ _).symm)
      (List.sorted_insertionSort _ _) (List.sorted_insertionSort _ _)
  rw [namesReply, namesReply, hsort]
  exact List.filterMap_congr fun n hn =>
    h n (List.mem_filter.1 ((List.perm_insertionSort _ _).subset hn)).2

lemma namesReply_filter (hw : st.WF) (q : String → Bool) :
    (namesReply st keep).filter (fun l => q l.name) = namesReply st (fun n => q n && keep n) := by
  have hsort : ((st.hooks.keys.filter keep).insertionSort (· ≤ ·)).filter q =
      (st.hooks.keys.filter fun n => q n && keep n).insertionSort (· ≤ ·) := by
    refine List.eq_of_perm_of_sorted ?_ ((List.sorted_insertionSort _ _).filter q)
      (List.sorted_insertionSort _ _)
    refine ((List.perm_insertionSort _ _).filter q).trans ?_
    rw [List.filter_filter]
    exact (List.perm_insertionSort _ _).symm
  rw [namesReply, namesReply, ← hsort, List.filter_filterMap, List.filterMap_filter]
  refine List.filterMap_congr fun n _ => ?_
  cases hl : st.listed n with
  | none => simp
  | some l => rw [Option.filter_some, hw.listed_name hl]

lemma namesReply_single (hw : st.WF) {name : String} {l : HookListing}
    (hl : st.listed name = some l) :
    namesReply st (fun n => n == name && keep n) = if keep name then [l] else [] := by
  have hk : name ∈ st.hooks.keys := (hw.listed_isSome name).1 (by rw [hl]; rfl)
  by_cases hkn : keep name
  · have hf : st.hooks.keys.filter (fun n => n == name && keep n) = [name] := by
      rw [List.filter_congr fun n _ => show (n == name && keep n) = (n == name) by
          by_cases h : n = name <;> simp [h, hkn],
        List.filter_beq, List.count_eq_one_of_mem st.hooks.keys_nodup hk]
      rfl
    simp [namesReply, hf, hl, hkn]
  · have hf : st.hooks.keys.filter (fun n => n == name && keep n) = [] :=
      List.filter_eq_nil_iff.2 fun n _ h => by
        simp only [Bool.and_eq_true, beq_iff_eq] at h
        obtain ⟨rfl, h2⟩ := h
        exact hkn h2
    simp [namesReply, hf, hkn]

lemma namesReply_length (hw : st.WF) :
    (namesReply st keep).length = (st.hooks.keys.filter keep).length := by
  rw [← List.length_map _ (·.name), namesReply_names hw, List.length_insertionSort]

lemma namesReply_eq_nil (h : ∀ n, keep n = true → st.hooks.lookup n = none) :
    namesReply st keep = [] := by
  have hnil : st.hooks.keys.filter keep = [] :=
    List.filter_eq_nil_iff.2 fun n hn hm =>
      AList.lookup_eq_none.1 (h n hm) (AList.mem_keys.2 hn)
  simp [namesReply, hnil]

end Listed

/-! ### The reply of HOOKS -/

section Reply

variable {glob : Glob} {st : HookState F Obj} {pattern : String} {visit : List (Σ _ : String, Nat)}

/-- The hooks the range loop keeps. -/
def keptHooks (glob : Glob) (st : HookState F Obj) (pattern : String)
    (visit : List (Σ _ : String, Nat)) : List (Hook F Obj) :=
  visit.filterMap fun e => if glob.isMatch pattern e.1 then (st.heap e.2).map (·.hook) else none

lemma visited_hook (hw : st.WF) (hvisit : visit.Perm st.hooks.entries) {e : Σ _ : String, Nat}
    (he : e ∈ visit) : ∃ c, st.heap e.2 = some c ∧ c.hook.name = e.1 ∧
      st.hooks.lookup e.1 = some e.2 := by
  have hl : st.hooks.lookup e.1 = some e.2 := AList.mem_lookup_iff.2 (hvisit.subset he)
  obtain ⟨c, hc, hn, -⟩ := hw.registered _ _ hl
  exact ⟨c, hc, hn, hl⟩

lemma keptHooks_names (hw : st.WF) (hvisit : visit.Perm st.hooks.entries) :
    ((keptHooks glob st pattern visit).map (·.name)).Perm
      (st.hooks.keys.filter (glob.isMatch pattern)) := by
  have hv : ∀ e ∈ visit, ∃ c, st.heap e.2 = some c ∧ c.hook.name = e.1 := fun e he =>
    (visited_hook hw hvisit he).imp fun _ h => ⟨h.1, h.2.1⟩
  have hnames : (keptHooks glob st pattern visit).map (·.name) =
      (visit.map Sigma.fst).filter (glob.isMatch pattern) := by
    clear hvisit
    induction visit with
    | nil => rfl
    | cons e visit ih =>
      obtain ⟨c, hc, hn⟩ := hv e (List.mem_cons_self _ _)
      have ih := ih fun e he => hv e (List.mem_cons_of_mem _ he)
      by_cases hm : glob.isMatch pattern e.1 <;>
        simp_all [keptHooks, List.filter_cons, List.filterMap_cons]
  rw [hnames]
  exact ((hvisit.map Sigma.fst).filter _)

lemma keptHooks_registered (hw : st.WF) (hvisit : visit.Perm st.hooks.entries)
    {h : Hook F Obj} (hh : h ∈ keptHooks glob st pattern visit) :
    st.listed h.name = some h.listing := by
  obtain ⟨e, he, hf⟩ := List.mem_filterMap.1 hh
  split at hf
  · obtain ⟨c, hc, hn, hl⟩ := visited_hook hw hvisit he
    rw [hc] at hf
    cases hf
    rw [HookState.listed, hn, hl, Option.some_bind, hc]
    rfl
  · cases hf

/-- HOOKS on a registry that keeps its invariant answers what the registry determines, for
every order in which `range` visits the hook map and every sort that `sort.Sort` could be. -/
lemma cmdHooks_eq_reply (hw : st.WF) (hvisit : visit.Perm st.hooks.entries)
    {sort : List (Hook F Obj) → List (Hook F Obj)} (hsort : SortsByName sort) (values : List String) :
    cmdHooks glob st visit sort values =
      match values.drop 1 with
      | [pattern] =>
        if pattern = "" then .error errInvalidNumberOfArguments
        else .ok (namesReply st (glob.isMatch pattern))
      | _ => .error errInvalidNumberOfArguments := by
  unfold cmdHooks
  split
  · rename_i pattern _
    split_ifs with hp
    · rfl
    · obtain ⟨hperm, hsorted⟩ := hsort (keptHooks glob st pattern visit)
      have hnames : (sort (keptHooks glob st pattern visit)).map (·.name) =
          (st.hooks.keys.filter (glob.isMatch pattern)).insertionSort (· ≤ ·) :=
        List.eq_of_perm_of_sorted
          ((hperm.map _).trans ((keptHooks_names hw hvisit).trans (List.perm_insertionSort _ _).symm))
          (List.pairwise_map.2 (hsorted.imp not_lt.1)) (List.sorted_insertionSort _ _)
      dsimp only
      congr 1
      calc (sort (keptHooks glob st pattern visit)).map Hook.listing
          = (sort (keptHooks glob st pattern visit)).filterMap fun h => st.listed h.name := by
            rw [← List.filterMap_eq_map]
            exact List.filterMap_congr fun h hh =>
              (keptHooks_registered hw hvisit (hperm.subset hh)).symm
        _ = namesReply st (glob.isMatch pattern) := by
            rw [namesReply, ← hnames, List.filterMap_map]
            rfl
  · rfl

lemma cmdHooks_pattern (hw : st.WF) (hp : pattern ≠ "") (hvisit : visit.Perm st.hooks.entries)
    {sort : List (Hook F Obj) → List (Hook F Obj)}
    (hsort : SortsByName sort) :
    cmdHooks glob st visit sort ["HOOKS", pattern] = .ok (namesReply st (glob.isMatch pattern)) := by
  rw [cmdHooks_eq_reply hw hvisit hsort]
  exact if_neg hp

/-- HOOKS with a pattern, on every registry that keeps its invariant, has one reply whatever
order Go's `range` visits the hook map in and whichever unstable sort `sort.Sort` is: the
names that match, in increasing order, each with the listing of the hook registered under
it. -/
theorem hooks_reply_independent (hw : st.WF) (hp : pattern ≠ "") :
    ∃ L : List HookListing,
      (L.map (·.name) = (st.hooks.keys.filter (glob.isMatch pattern)).insertionSort (· ≤ ·) ∧
        ∀ l ∈ L, st.listed l.name = some l) ∧
      ∀ (values : List String) (visit : List (Σ _ : String, Nat))
        (sort : List (Hook F Obj) → List (Hook F Obj)),
        values.drop 1 = [pattern] → visit.Perm st.hooks.entries → SortsByName sort →
          cmdHooks glob st visit sort values = .ok L := by
  refine ⟨namesReply st (glob.isMatch pattern),
    ⟨namesReply_names hw, fun l hl => listed_of_mem_namesReply hw hl⟩,
    fun values visit sort hv hvisit hsort => ?_⟩
  rw [cmdHooks_eq_reply hw hvisit hsort, hv]
  exact if_neg hp

end Reply

/-- The SETHOOK command of the examples, with the fence `NEARBY fleet FENCE POINT 33 -115 5000`. -/
def warehouseSetHook : List String :=
  ["SETHOOK", "warehouse", "http://10.0.0.1/hook", "NEARBY", "fleet", "FENCE", "POINT", "33",
    "-115", "5000"]

/-- A second hook, `depot`, with the same fence. -/
def depotSetHook : List String :=
  ["SETHOOK", "depot", "http://10.0.0.2/hook", "NEARBY", "fleet", "FENCE", "POINT", "33",
    "-115", "5000"]

/-- The registry after SETHOOK warehouse. -/
def warehouseState : HookState Int Unit :=
  HookState.empty.run [⟨plainHookEnv, warehouseSetHook, .resp⟩]

/-- The registry after two SETHOOKs, `warehouse` and then `depot`. -/
def twoHookState : HookState Int Unit :=
  HookState.empty.run [⟨plainHookEnv, warehouseSetHook, .resp⟩, ⟨plainHookEnv, depotSetHook, .resp⟩]

/-- HOOKS * on two hooks, with the map visited in one order and in the other. -/
theorem hooks_reply_visit_reversed :
    cmdHooks anyGlob twoHookState twoHookState.hooks.entries sortByName ["HOOKS", "*"] =
      cmdHooks anyGlob twoHookState twoHookState.hooks.entries.reverse sortByName ["HOOKS", "*"] := by
  obtain ⟨L, -, h⟩ := @hooks_reply_independent Int Unit anyGlob twoHookState "*"
    (HookState.WF.empty.run _) (by decide)
  rw [h ["HOOKS", "*"] _ _ rfl (List.Perm.refl _) sortByName_sorts,
    h ["HOOKS", "*"] _ _ rfl (List.reverse_perm _) sortByName_sorts]

/-! ### PDELHOOK, then HOOKS -/

section Pdel

variable {glob : Glob} {order : RangeOrder} {st : HookState F Obj} {pattern : String}
  {out : OutputType} {visit visit' : List (Σ _ : String, Nat)}
  {sort : List (Hook F Obj) → List (Hook F Obj)}

/-- PDELHOOK answers the number of hooks that HOOKS with the same pattern lists, and afterwards
HOOKS with that pattern lists none, on every registry that keeps its invariant, for every
order in which PDELHOOK's `range` visits the hook map and every order HOOKS visits it in. -/
theorem pdelhook_then_hooks (hw : st.WF) (hp : pattern ≠ "") (hvisit : visit.Perm st.hooks.entries)
    (hvisit' : visit'.Perm (cmdPDelHook glob order st ["PDELHOOK", pattern] out).2.hooks.entries)
    (hsort : SortsByName sort) :
    ∃ L, cmdHooks glob st visit sort ["HOOKS", pattern] = .ok L ∧
      (cmdPDelHook glob order st ["PDELHOOK", pattern] out).1 = .ok (.of out L.length) ∧
      cmdHooks glob (cmdPDelHook glob order st ["PDELHOOK", pattern] out).2 visit' sort
        ["HOOKS", pattern] = .ok [] := by
  obtain ⟨hw', hreply, hlookup⟩ := hw.cmdPDelHook glob order pattern out
  refine ⟨namesReply st (glob.isMatch pattern), ?_, ?_, ?_⟩
  · rw [cmdHooks_eq_reply hw hvisit hsort]
    simp [hp]
  · rw [hreply, if_neg hp, namesReply_length hw]
  · rw [cmdHooks_eq_reply hw' hvisit' hsort]
    simp only [List.drop_one, List.tail_cons, if_neg hp]
    rw [namesReply_eq_nil fun n hm => by rw [hlookup, if_pos ⟨hp, hm⟩]]

end Pdel

/-- The range order that visits the keys backwards. -/
def RangeOrder.reversed : RangeOrder := ⟨List.reverse, List.reverse_perm⟩

/-- PDELHOOK * on the two hooks, visiting them backwards, between two HOOKS *. -/
theorem pdelhook_star_then_hooks :
    ∃ L, cmdHooks anyGlob twoHookState twoHookState.hooks.entries sortByName ["HOOKS", "*"] = .ok L ∧
      (cmdPDelHook anyGlob .reversed twoHookState ["PDELHOOK", "*"] .resp).1 =
        .ok (.of .resp L.length) ∧
      cmdHooks anyGlob (cmdPDelHook anyGlob .reversed twoHookState ["PDELHOOK", "*"] .resp).2
        (cmdPDelHook anyGlob .reversed twoHookState ["PDELHOOK", "*"] .resp).2.hooks.entries
        sortByName ["HOOKS", "*"] = .ok [] :=
  pdelhook_then_hooks (HookState.WF.empty.run _) (by decide) (List.Perm.refl _) (List.Perm.refl _)
    sortByName_sorts

/-! ### SETHOOK, then HOOKS -/

section SetHook

variable {st : HookState F Obj}

/-- HOOKS shows of a hook exactly what `Hook.Equals` compares. -/
lemma Hook.listing_eq_of_equals {h h' : Hook F Obj} (he : h.equals h' = true) :
    h.listing = h'.listing := by
  simp only [Hook.equals, Bool.and_eq_true, beq_iff_eq] at he
  obtain ⟨⟨⟨⟨hk, hn⟩, he⟩, hm⟩, hmsg⟩ := he
  simp [Hook.listing, hk, hn, he, hm, hmsg]

lemma HookState.WF.register_listed (hw : st.WF) (hook : Hook F Obj) {n : String}
    (hn : n ≠ hook.name) : (st.register hook).listed n = st.listed n := by
  unfold HookState.listed HookState.register
  dsimp only
  rw [AList.lookup_insert_ne hn]
  cases hl : st.hooks.lookup n with
  | none => rfl
  | some q =>
    obtain ⟨c, hc, -⟩ := hw.registered n q hl
    simp only [Option.some_bind, Function.update_noteq (hw.lt_next hc).ne]

lemma HookState.WF.remove_listed (hw : st.WF) {m n : String} {p : Nat}
    (hp : st.hooks.lookup m = some p) (hn : n ≠ m) : (st.remove p).listed n = st.listed n := by
  obtain ⟨c, hc, -⟩ := hw.registered m p hp
  unfold HookState.listed
  rw [(hw.remove hp).2, AList.lookup_erase_ne hn, HookState.remove_heap hc]
  cases hl : st.hooks.lookup n with
  | none => rfl
  | some q =>
    simp only [Option.some_bind, Function.update_noteq fun h : q = p => hn (hw.name_eq hp (h ▸ hl))]

lemma HookState.WF.setHook_listed (hw : st.WF) (hook : Hook F Obj) {n : String}
    (hn : n ≠ hook.name) : (st.setHook hook).2.listed n = st.listed n := by
  unfold HookState.setHook
  cases hl : st.hooks.lookup hook.name with
  | none => exact hw.register_listed hook hn
  | some p =>
    obtain ⟨c, hc, -⟩ := hw.registered _ p hl
    simp only [hc]
    split_ifs
    · rfl
    · rw [(hw.remove hl).1.register_listed hook hn, hw.remove_listed hl hn]

lemma HookState.setHook_listed_self (st : HookState F Obj) (hook : Hook F Obj) :
    (st.setHook hook).2.listed hook.name = some hook.listing := by
  obtain ⟨p, c, hl, hc, he⟩ := HookState.setHook_equal st hook
  simp [HookState.listed, hl, hc, Hook.listing_eq_of_equals he]

end SetHook

section Runs

variable [Zero F] {glob : Glob} {env : HookEnv F} {st : HookState F Obj} {values : List String}
  {out : OutputType} {r : HookReply} {name urls pattern : String} {vs : List String}
  {visit visit' : List (Σ _ : String, Nat)} {sort : List (Hook F Obj) → List (Hook F Obj)}

/-- A SETHOOK that succeeds changes the reply of HOOKS, with any pattern, at the hook's own
name only: every other hook is listed as before and in the same order, and the hook is listed,
with the key of its fence, its trimmed endpoints, the tokens of its fence command and its metas
in name order, exactly when the pattern matches its name. This holds on every registry that
keeps its invariant, whether SETHOOK stored a new hook or kept an equal one, and whatever
order HOOKS visits the map in before and after. -/
theorem sethook_then_hooks (hw : st.WF) (hv : values.drop 1 = name :: urls :: vs)
    (hset : (cmdSetHook env st values out).1 = .ok r) (hp : pattern ≠ "")
    (hvisit : visit.Perm st.hooks.entries)
    (hvisit' : visit'.Perm (cmdSetHook env st values out).2.hooks.entries)
    (hsort : SortsByName sort) :
    ∃ commandvs cmdlc types rest metaMap L L',
      parseHookCommand vs ∅ = .ok (commandvs, cmdlc, types, rest, metaMap) ∧
      cmdHooks glob st visit sort ["HOOKS", pattern] = .ok L ∧
      cmdHooks glob (cmdSetHook env st values out).2 visit' sort ["HOOKS", pattern] = .ok L' ∧
      L'.filter (fun l => l.name != name) = L.filter (fun l => l.name != name) ∧
      L'.filter (fun l => l.name == name) =
        if glob.isMatch pattern name then
          [⟨name, (env.searchArgs cmdlc rest types).1.key, (splitComma urls).map trimSpace,
            commandvs, (sortedMetas metaMap).flatMap fun m => [m.name, m.value]⟩]
        else [] := by
  obtain ⟨name', urls', vs', commandvs, cmdlc, types, rest, metaMap, s, sw, hv', hn, he, hpc, hs,
    hf, hsw⟩ := cmdSetHook_ok_inv hset
  rw [hv] at hv'
  obtain ⟨rfl, rfl, rfl⟩ : name = name' ∧ urls = urls' ∧ vs = vs' := by simpa using hv'
  rw [cmdSetHook_of_parsed env st values out hv hn he hpc hs hf hsw] at hvisit' ⊢
  set hook : Hook F Obj := ⟨s.key, name, (splitComma urls).map trimSpace, commandvs,
    sortedMetas metaMap, s, sw⟩
  set st0 := { st with released := st.released ++ s.whereevals.map WhereEval.state }
  have hw0 : st0.WF := hw.released _
  have hw' := hw0.setHook hook
  refine ⟨commandvs, cmdlc, types, rest, metaMap, _, _, hpc, cmdHooks_pattern hw hp hvisit hsort,
    cmdHooks_pattern hw' hp hvisit' hsort, ?_, ?_⟩
  · rw [namesReply_filter hw' (· != name), namesReply_filter hw (· != name)]
    refine namesReply_congr hw' hw fun n hn => ?_
    have hne : n ≠ name := by
      simp only [Bool.and_eq_true, bne_iff_ne] at hn
      exact hn.1
    exact hw0.setHook_listed hook hne
  · rw [namesReply_filter hw' (· == name), namesReply_single hw' (HookState.setHook_listed_self st0 hook),
      hs]
    rfl

end Runs

/-- SETHOOK depot on the registry that holds warehouse, between two HOOKS *: warehouse is
listed as before, and depot joins it. -/
theorem sethook_depot_then_hooks :
    ∃ commandvs cmdlc types rest metaMap L L',
      parseHookCommand (depotSetHook.drop 3) ∅ = .ok (commandvs, cmdlc, types, rest, metaMap) ∧
      cmdHooks anyGlob warehouseState warehouseState.hooks.entries sortByName ["HOOKS", "*"] =
        .ok L ∧
      cmdHooks anyGlob (cmdSetHook plainHookEnv warehouseState depotSetHook .resp).2
        (cmdSetHook plainHookEnv warehouseState depotSetHook .resp).2.hooks.entries sortByName
        ["HOOKS", "*"] = .ok L' ∧
      L'.filter (fun l => l.name != "depot") = L.filter (fun l => l.name != "depot") ∧
      L'.filter (fun l => l.name == "depot") =
        if anyGlob.isMatch "*" "depot" then
          [⟨"depot", (plainHookEnv.searchArgs cmdlc rest types).1.key,
            (splitComma "http://10.0.0.2/hook").map trimSpace, commandvs,
            (sortedMetas metaMap).flatMap fun m => [m.name, m.value]⟩]
        else [] :=
  sethook_then_hooks (HookState.WF.empty.run _) rfl
    (show (cmdSetHook plainHookEnv warehouseState depotSetHook .resp).1 = .ok (.of .resp 1) from rfl)
    (by decide) (List.Perm.refl _) (List.Perm.refl _) sortByName_sorts

end Tile38
