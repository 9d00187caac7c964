import Tile38.Router
import Tile38.Resp

/-!
# The CLIENT command

`cmdClient` over the controller's table of connections `c.conns`, a map from a connection to
its `clientConn`: the id, the name, and when it was opened and last used. `CLIENT LIST` writes
one line per connection, in id order,

    id=%d addr=%s name=%s age=%d idle=%d\n

`CLIENT GETNAME` and `CLIENT SETNAME` read and set the name of the caller's own connection;
`SETNAME` refuses a name with a byte outside `!` to `~`. `CLIENT KILL` picks a connection by
id or by address and closes it.

Go strings are bytes, and so are the tokens, names and addresses here (`List UInt8`). The
table is a list with one entry per connection, in the order `range c.conns` visits it. The
server adds a connection when it accepts one (with the zero name), drops it when it closes,
and stamps it when it is used; that code is not under src and those are the environment's
moves on the table.

The main results: `SETNAME`'s check holds of every name in every reachable table, and that is
what makes `CLIENT LIST` readable: its output parses back, line by line and field by field, to
the connections in increasing id order (`client_list_parses`). And a name set by `SETNAME` is
what every later `GETNAME` of the connection reads, whatever else runs, until the connection
names itself again or closes (`getname_after_setname`).
-/

namespace Tile38

/-! ### Bytes -/

/-- The bytes of an ASCII literal. -/
def ascii (s : String) : List UInt8 := s.toList.map fun c => c.toNat.toUInt8

/-- `strings.ToLower` on bytes, as a comparison with an ASCII word sees it: ASCII capitals are
lowered, and so are the UTF-8 encodings of the two runes whose lower case is ASCII, `İ`
(U+0130, bytes C4 B0) to `i` and the Kelvin sign (U+212A, bytes E2 84 AA) to `k`. Every other
byte is kept: Go lowers other runes and turns invalid bytes into U+FFFD, but never into
ASCII. -/
def lowerBytes : List UInt8 → List UInt8
  | 0xC4 :: 0xB0 :: bs => 0x69 :: lowerBytes bs
  | 0xE2 :: 0x84 :: 0xAA :: bs => 0x6B :: lowerBytes bs
  | b :: bs => (if 65 ≤ b ∧ b ≤ 90 then b + 32 else b) :: lowerBytes bs
  | [] => []

example : lowerBytes [0xE2, 0x84, 0xAA, 73, 76, 76] = ascii "kill" := by decide

/-- `fmt.Sprintf("%d", n)` of a Go `int`. -/
def formatGoInt (n : Int) : List UInt8 :=
  if n < 0 then 45 :: formatInt n.natAbs else formatInt n.natAbs

/-- The check of `SETNAME`: every byte from `!` to `~`. -/
def nameOk (name : List UInt8) : Bool := name.all fun b => 33 ≤ b && b ≤ 126

/-! ### The table of connections -/

/-- A `clientConn` with the remote address of its connection: the connection it belongs to
(its key in `c.conns`), its id, `RemoteAddr().String()`, its name, and the times it was opened
and last used, in nanoseconds. -/
structure ClientConn where
  conn : Nat
  id : Int
  addr : List UInt8
  name : List UInt8
  opened : Int
  last : Int
  deriving DecidableEq, Repr

/-- A line of `CLIENT LIST` at time `now`: `now.Sub(t)/time.Second` truncates. -/
def listLine (now : Int) (cc : ClientConn) : List UInt8 :=
  ascii "id=" ++ formatGoInt cc.id ++ ascii " addr=" ++ cc.addr ++ ascii " name=" ++ cc.name ++
    ascii " age=" ++ formatGoInt ((now - cc.opened).tdiv 1000000000) ++ ascii " idle=" ++
    formatGoInt ((now - cc.last).tdiv 1000000000) ++ [10]

/-- The order of `byID`. -/
def ClientConn.idLE (a b : ClientConn) : Prop := a.id ≤ b.id

instance : DecidableRel ClientConn.idLE := fun a b => inferInstanceAs (Decidable (a.id ≤ b.id))

/-- The buffer of `CLIENT LIST`: the connections sorted by `byID`, a line each. -/
def clientList (now : Int) (conns : List ClientConn) : List UInt8 :=
  (conns.insertionSort ClientConn.idLE).flatMap (listLine now)

/-- `cc.name.set(name)` on the entry of connection `conn`, if it has one. -/
def setName (conns : List ClientConn) (conn : Nat) (name : List UInt8) : List ClientConn :=
  conns.map fun cc => if cc.conn = conn then { cc with name := name } else cc

/-- The loop of `CLIENT KILL` over its arguments, from `(useAddr, addr, useID, id)`: an
argument with a colon is the address and ends the loop; `ADDR` and `ID` take the next
argument; any other word is an error. -/
def killArgs : List (List UInt8) → Bool × List UInt8 × Bool × List UInt8 →
    Except String (Bool × List UInt8 × Bool × List UInt8)
  | [], acc => .ok acc
  | arg :: args, (useAddr, addr, useID, id) =>
    if 58 ∈ arg then .ok (true, arg, useID, id)
    else if lowerBytes arg = ascii "addr" then
      match args with
      | [] => .error "syntax error"
      | addr :: args => killArgs args (true, addr, useID, id)
    else if lowerBytes arg = ascii "id" then
      match args with
      | [] => .error "syntax error"
      | id :: args => killArgs args (useAddr, addr, true, id)
    else .error "No such client"

/-- The connection `CLIENT KILL` closes: the first, in the order of the table, whose id in
decimal is the one given or whose address is. -/
def killTarget (conns : List ClientConn) (useAddr : Bool) (addr : List UInt8) (useID : Bool)
    (id : List UInt8) : Option ClientConn :=
  conns.find? fun cc => (useID && formatGoInt cc.id == id) || (useAddr && cc.addr == addr)

/-- What `cmdClient` answers: the buffer of `LIST`, the name of `GETNAME`, the `OK` of
`SETNAME`, and the `OK` of `KILL` with the connection it closes. -/
inductive ClientReply
  | list (buf : List UInt8)
  | name (name : List UInt8)
  | ok
  | killed (conn : Nat)
  deriving DecidableEq, Repr

/-- `cmdClient` for the message `values` from connection `conn` at time `now`: the reply and
the table after, or the error. -/
def cmdClient (conns : List ClientConn) (conn : Nat) (now : Int) :
    List (List UInt8) → Except String (ClientReply × List ClientConn)
  | _ :: sub :: args =>
    if lowerBytes sub = ascii "list" then
      if args = [] then .ok (.list (clientList now conns), conns)
      else .error errInvalidNumberOfArguments
    else if lowerBytes sub = ascii "getname" then
      if args = [] then
        .ok (.name (((conns.find? (·.conn = conn)).map (·.name)).getD []), conns)
      else .error errInvalidNumberOfArguments
    else if lowerBytes sub = ascii "setname" then
      match args with
      | [name] =>
        if nameOk name then .ok (.ok, setName conns conn name)
        else .error "Client names cannot contain spaces, newlines or special characters."
      | _ => .error errInvalidNumberOfArguments
    else if lowerBytes sub = ascii "kill" then
      if args = [] then .error errInvalidNumberOfArguments
      else
        match killArgs args (false, [], false, []) with
        | .error e => .error e
        | .ok (useAddr, addr, useID, id) =>
          match killTarget conns useAddr addr useID id with
          | none => .error "No such client"
          | some cc => .ok (.killed cc.conn, conns)
    else .error "Syntax error, try CLIENT (LIST | KILL | GETNAME | SETNAME)"
  | _ => .error errInvalidNumberOfArguments

/-! ### Runs -/

/-- A move on the table: a `CLIENT` command from a connection, or the server accepting a
connection (whose name starts empty), closing one, or stamping one as used. -/
inductive ClientEvent
  | command (conn : Nat) (now : Int) (values : List (List UInt8))
  | accept (conn : Nat) (id : Int) (addr : List UInt8) (now : Int)
  | close (conn : Nat)
  | use (conn : Nat) (now : Int)

/-- One move: a failed command leaves the table as it is. -/
def clientStep (conns : List ClientConn) : ClientEvent → List ClientConn
  | .command conn now values =>
    match cmdClient conns conn now values with
    | .ok (_, conns) => conns
    | .error _ => conns
  | .accept conn id addr now => conns.filter (·.conn ≠ conn) ++ [⟨conn, id, addr, [], now, now⟩]
  | .close conn => conns.filter (·.conn ≠ conn)
  | .use conn now => conns.map fun cc => if cc.conn = conn then { cc with last := now } else cc

/-- A run of moves. -/
def clientRun (conns : List ClientConn) (events : List ClientEvent) : List ClientConn :=
  events.foldl clientStep conns

/-! ### Reading `CLIENT LIST` back -/

/-- A field `prefix` then its value. -/
def readField (pre field : List UInt8) : Option (List UInt8) :=
  if pre.isPrefixOf field then some (field.drop pre.length) else none

/-- A decimal Go `int`: digits, after a minus sign for a negative one. -/
def parseGoInt : List UInt8 → Option Int
  | 45 :: ds => if ds ≠ [] ∧ ds.all isDigit then some (-(digitsValue ds : Int)) else none
  | ds => if ds ≠ [] ∧ ds.all isDigit then some (digitsValue ds : Int) else none

/-- What a line of `CLIENT LIST` says: id, address, name, age and idle time. -/
def parseListLine (line : List UInt8) : Option (Int × List UInt8 × List UInt8 × Int × Int) :=
  match line.splitOn 32 with
  | [f1, f2, f3, f4, f5] => do
    let id ← (readField (ascii "id=") f1).bind parseGoInt
    let addr ← readField (ascii "addr=") f2
    let name ← readField (ascii "name=") f3
    let age ← (readField (ascii "age=") f4).bind parseGoInt
    let idle ← (readField (ascii "idle=") f5).bind parseGoInt
    pure (id, addr, name, age, idle)
  | _ => none

/-- A buffer of lines, each ended by a newline, read line by line. -/
def parseClientList (buf : List UInt8) :
    Option (List (Int × List UInt8 × List UInt8 × Int × Int)) :=
  match (buf.splitOn 10).reverse with
  | [] :: lines => lines.reverse.mapM parseListLine
  | _ => none

/-- What `CLIENT LIST` says of a connection at time `now`. -/
def listFields (now : Int) (cc : ClientConn) : Int × List UInt8 × List UInt8 × Int × Int :=
  (cc.id, cc.addr, cc.name, (now - cc.opened).tdiv 1000000000, (now - cc.last).tdiv 1000000000)

/-! ### Numbers and fields read back -/

lemma isDigit_ne {b : UInt8} (h : isDigit b = true) : b ≠ 32 ∧ b ≠ 10 ∧ b ≠ 45 :=
  ⟨by rintro rfl; exact absurd h (by decide), by rintro rfl; exact absurd h (by decide),
    by rintro rfl; exact absurd h (by decide)⟩

lemma formatGoInt_sep (n : Int) : 32 ∉ formatGoInt n ∧ 10 ∉ formatGoInt n := by
  have hd := (formatInt_spec n.natAbs).2.1
  have h : 32 ∉ formatInt n.natAbs ∧ 10 ∉ formatInt n.natAbs :=
    ⟨fun hm => (isDigit_ne (hd _ hm)).1 rfl, fun hm => (isDigit_ne (hd _ hm)).2.1 rfl⟩
  unfold formatGoInt
  split_ifs
  · simpa using h
  · exact h

lemma parseGoInt_formatGoInt (n : Int) : parseGoInt (formatGoInt n) = some n := by
  obtain ⟨hne, hd, hv⟩ := formatInt_spec n.natAbs
  have hall : (formatInt n.natAbs).all isDigit = true := List.all_eq_true.2 hd
  unfold formatGoInt
  split_ifs with hn
  · rw [parseGoInt.eq_1]
    simp only [ne_eq, hne, not_false_eq_true, hall, and_self, ite_true, hv, Option.some.injEq]
    rw [Int.ofNat_natAbs_of_nonpos hn.le, neg_neg]
  · obtain ⟨d, ds, hds⟩ := List.exists_cons_of_ne_nil hne
    have h45 : d ≠ 45 := (isDigit_ne (hd d (by simp [hds]))).2.2
    rw [hds] at hall hv ⊢
    rw [parseGoInt.eq_2 _ (by rintro _ ⟨⟩; exact h45 rfl)]
    simp only [hall, hv]; simp; omega

lemma readField_append (pre value : List UInt8) : readField pre (pre ++ value) = some value := by
  simp [readField, List.isPrefixOf_iff_prefix]

/-- The fields of a line of `CLIENT LIST`. -/
def listFieldBytes (now : Int) (cc : ClientConn) : List (List UInt8) :=
  [ascii "id=" ++ formatGoInt cc.id, ascii "addr=" ++ cc.addr, ascii "name=" ++ cc.name,
    ascii "age=" ++ formatGoInt ((now - cc.opened).tdiv 1000000000),
    ascii "idle=" ++ formatGoInt ((now - cc.last).tdiv 1000000000)]

lemma listLine_eq (now : Int) (cc : ClientConn) :
    listLine now cc = [32].intercalate (listFieldBytes now cc) ++ [10] := by
  have h1 : ascii " addr=" = 32 :: ascii "addr=" := rfl
  have h2 : ascii " name=" = 32 :: ascii "name=" := rfl
  have h3 : ascii " age=" = 32 :: ascii "age=" := rfl
  have h4 : ascii " idle=" = 32 :: ascii "idle=" := rfl
  simp [listLine, listFieldBytes, h1, h2, h3, h4, List.intercalate]

lemma parseListLine_fields (now : Int) (cc : ClientConn) (haddr : 32 ∉ cc.addr)
    (hname : 32 ∉ cc.name) :
    parseListLine ([32].intercalate (listFieldBytes now cc)) = some (listFields now cc) := by
  have hsep : ∀ l ∈ listFieldBytes now cc, 32 ∉ l := by
    simp only [listFieldBytes, List.mem_cons, List.mem_singleton, List.not_mem_nil, or_false]
    rintro l (rfl | rfl | rfl | rfl | rfl) <;> rw [List.mem_append, not_or] <;>
      first
      | exact ⟨by decide, (formatGoInt_sep _).1⟩
      | exact ⟨by decide, haddr⟩
      | exact ⟨by decide, hname⟩
  rw [parseListLine, List.splitOn_intercalate _ (32 : UInt8) hsep (by simp [listFieldBytes])]
  simp [listFieldBytes, readField_append, parseGoInt_formatGoInt, listFields]

lemma flatMap_append_sep (x : UInt8) : ∀ ls : List (List UInt8),
    ls.flatMap (· ++ [x]) = [x].intercalate (ls ++ [[]])
  | [] => rfl
  | l :: ls => by
    rw [List.flatMap_cons, flatMap_append_sep x ls]
    cases ls <;> simp [List.intercalate, List.intersperse]

lemma mem_intercalate {x : UInt8} {sep : List UInt8} :
    ∀ {ls : List (List UInt8)}, x ∈ sep.intercalate ls → x ∈ sep ∨ ∃ l ∈ ls, x ∈ l
  | [], h => by simp [List.intercalate] at h
  | [l], h => .inr ⟨l, List.mem_singleton_self _, by simpa [List.intercalate] using h⟩
  | l :: l' :: ls, h => by
    have heq : sep.intercalate (l :: l' :: ls) = l ++ sep ++ sep.intercalate (l' :: ls) := by
      simp [List.intercalate, List.intersperse]
    rw [heq, List.mem_append, List.mem_append] at h
    rcases h with (h | h) | h
    · exact .inr ⟨l, List.mem_cons_self _ _, h⟩
    · exact .inl h
    · rcases mem_intercalate h with h | ⟨l'', hl, h⟩
      · exact .inl h
      · exact .inr ⟨l'', List.mem_cons_of_mem _ hl, h⟩

lemma parseClientList_lines (ls : List (List UInt8)) (h : ∀ l ∈ ls, 10 ∉ l) :
    parseClientList (ls.flatMap (· ++ [10])) = ls.mapM parseListLine := by
  have hsep : ∀ l ∈ ls ++ [[]], (10 : UInt8) ∉ l := by
    intro l hl
    rcases List.mem_append.1 hl with hl | hl
    · exact h l hl
    · rw [List.mem_singleton.1 hl]; exact List.not_mem_nil _
  rw [flatMap_append_sep, parseClientList, List.splitOn_intercalate _ _ hsep (by simp)]
  simp

lemma mapM_parseListLine (now : Int) : ∀ L : List ClientConn,
    (∀ cc ∈ L, 32 ∉ cc.addr ∧ 32 ∉ cc.name) →
    (L.map fun cc => [32].intercalate (listFieldBytes now cc)).mapM parseListLine =
      some (L.map (listFields now))
  | [], _ => rfl
  | cc :: L, h => by
    rw [List.map_cons, List.mapM_cons, parseListLine_fields now cc
        (h cc (List.mem_cons_self _ _)).1 (h cc (List.mem_cons_self _ _)).2,
      mapM_parseListLine now L fun c hc => h c (List.mem_cons_of_mem _ hc)]
    rfl

lemma nameOk_sep {name : List UInt8} (h : nameOk name = true) : 32 ∉ name ∧ 10 ∉ name := by
  simp only [nameOk, List.all_eq_true, Bool.and_eq_true, decide_eq_true_eq] at h
  exact ⟨fun hm => absurd (h _ hm).1 (by decide), fun hm => absurd (h _ hm).1 (by decide)⟩

instance : IsTotal ClientConn ClientConn.idLE := ⟨fun a b => le_total a.id b.id⟩
instance : IsTrans ClientConn ClientConn.idLE := ⟨fun _ _ _ => le_trans⟩

/-- `CLIENT LIST` reads back: line by line and field by field, its output gives the id,
address, name, age and idle time of every connection, each once, in increasing id order, when
no address holds a space or a newline, every name passes `SETNAME`'s check, and ids are
distinct. -/
theorem clientList_parses (now : Int) (conns : List ClientConn)
    (haddr : ∀ cc ∈ conns, 32 ∉ cc.addr ∧ 10 ∉ cc.addr) (hname : ∀ cc ∈ conns, nameOk cc.name)
    (hid : (conns.map (·.id)).Nodup) :
    ∃ L : List ClientConn, parseClientList (clientList now conns) = some (L.map (listFields now)) ∧
      L.Perm conns ∧ L.Sorted fun a b => a.id < b.id := by
  set L := conns.insertionSort ClientConn.idLE
  have hp : L.Perm conns := List.perm_insertionSort _ _
  have hmem : ∀ cc ∈ L, cc ∈ conns := fun cc h => hp.subset h
  have hbody : clientList now conns =
      (L.map fun cc => [32].intercalate (listFieldBytes now cc)).flatMap (· ++ [10]) := by
    rw [clientList, List.flatMap_map]
    exact congrArg L.flatMap (funext (listLine_eq now))
  refine ⟨L, ?_, hp, ?_⟩
  · rw [hbody, parseClientList_lines]
    · exact mapM_parseListLine now L fun cc h =>
        ⟨(haddr cc (hmem cc h)).1, (nameOk_sep (hname cc (hmem cc h))).1⟩
    · simp only [List.mem_map]
      rintro _ ⟨cc, hcc, rfl⟩ hm
      rcases mem_intercalate hm with hm | ⟨l, hl, hm⟩
      · exact absurd hm (by decide)
      · simp only [listFieldBytes, List.mem_cons, List.mem_singleton, List.not_mem_nil,
          or_false] at hl
        rcases hl with rfl | rfl | rfl | rfl | rfl <;> rw [List.mem_append] at hm <;>
          rcases hm with hm | hm <;>
          first
          | exact absurd hm (by decide)
          | exact (formatGoInt_sep _).2 hm
          | exact (haddr cc (hmem cc hcc)).2 hm
          | exact (nameOk_sep (hname cc (hmem cc hcc))).2 hm
  · have hs : (L.map (·.id)).Sorted (· ≤ ·) :=
      List.pairwise_map.2 (List.sorted_insertionSort ClientConn.idLE conns)
    exact List.pairwise_map.1 (hs.lt_of_le ((hp.map _).nodup_iff.2 hid))

/-! ### What a command does to the table -/

lemma setName_map_key (conns : List ClientConn) (conn : Nat) (name : List UInt8) :
    (setName conns conn name).map (fun cc => (cc.id, cc.addr)) = conns.map fun cc => (cc.id, cc.addr) := by
  simp only [setName, List.map_map]
  exact List.map_congr_left fun cc _ => by simp only [Function.comp]; split_ifs <;> rfl

/-- A command that succeeds changes the table only by `SETNAME`, which sets the caller's name
to one that passed the check. -/
lemma cmdClient_table {conns conns' : List ClientConn} {conn : Nat} {now : Int}
    {values : List (List UInt8)} {r : ClientReply}
    (h : cmdClient conns conn now values = .ok (r, conns')) :
    conns' = conns ∨ lowerBytes (values.getD 1 []) = ascii "setname" ∧
      ∃ name, nameOk name = true ∧ conns' = setName conns conn name := by
  unfold cmdClient at h
  repeat' split at h
  all_goals first
    | (cases h; exact .inl rfl)
    | (cases h; exact .inr ⟨by assumption, _, by assumption, rfl⟩)
    | cases h

/-- What every reachable table satisfies, given the ids and addresses of the connections
accepted so far: every name passes `SETNAME`'s check, and the connections are accepted ones,
each at most once, in the order accepted. -/
structure ClientInv (accepted : List (Int × List UInt8)) (conns : List ClientConn) : Prop where
  names : ∀ cc ∈ conns, nameOk cc.name = true
  origin : List.Sublist (conns.map fun cc => (cc.id, cc.addr)) accepted

/-- The id and address of each connection a run accepts, in order. -/
def acceptedOf : List ClientEvent → List (Int × List UInt8)
  | [] => []
  | .accept _ id addr _ :: es => (id, addr) :: acceptedOf es
  | _ :: es => acceptedOf es

lemma ClientInv.step {acc : List (Int × List UInt8)} {conns : List ClientConn}
    (hi : ClientInv acc conns) (e : ClientEvent) :
    ClientInv (acc ++ acceptedOf [e]) (clientStep conns e) := by
  cases e with
  | command conn now values =>
    simp only [clientStep, acceptedOf, List.append_nil]
    split
    · rename_i h
      rcases cmdClient_table h with rfl | ⟨-, name, hn, rfl⟩
      · exact hi
      · refine ⟨fun cc hcc => ?_, by rw [setName_map_key]; exact hi.origin⟩
        obtain ⟨c, hc, rfl⟩ := List.mem_map.1 hcc
        split_ifs
        · exact hn
        · exact hi.names c hc
    · exact hi
  | accept conn id addr now =>
    refine ⟨fun cc hcc => ?_, ?_⟩
    · rcases List.mem_append.1 hcc with hcc | hcc
      · exact hi.names cc (List.mem_of_mem_filter hcc)
      · rw [List.mem_singleton.1 hcc]; rfl
    · simp only [clientStep, acceptedOf, List.map_append, List.map_cons, List.map_nil]
      exact ((List.filter_sublist _).map _ |>.trans hi.origin).append (List.Sublist.refl _)
  | close conn =>
    rw [show acceptedOf [.close conn] = [] from rfl, List.append_nil]
    exact ⟨fun cc hcc => hi.names cc (List.mem_of_mem_filter hcc),
      ((List.filter_sublist _).map _).trans hi.origin⟩
  | use conn now =>
    refine ⟨fun cc hcc => ?_, ?_⟩
    · obtain ⟨c, hc, rfl⟩ := List.mem_map.1 hcc
      split_ifs
      · exact hi.names c hc
      · exact hi.names c hc
    · simp only [clientStep, acceptedOf, List.append_nil, List.map_map]
      convert hi.origin using 1
      exact List.map_congr_left fun cc _ => by simp only [Function.comp]; split_ifs <;> rfl

lemma acceptedOf_cons (e : ClientEvent) (es : List ClientEvent) :
    acceptedOf (e :: es) = acceptedOf [e] ++ acceptedOf es := by
  cases e <;> rfl

lemma ClientInv.nil : ClientInv [] [] := ⟨fun _ h => (nomatch h), .slnil⟩

lemma ClientInv.run {acc : List (Int × List UInt8)} {conns : List ClientConn}
    (hi : ClientInv acc conns) (es : List ClientEvent) :
    ClientInv (acc ++ acceptedOf es) (clientRun conns es) := by
  induction es generalizing acc conns with
  | nil => simpa [clientRun, acceptedOf] using hi
  | cons e es ih =>
    rw [acceptedOf_cons, ← List.append_assoc]
    exact ih (hi.step e)

/-- After any run of `CLIENT` commands and of connections accepted, closed and used, the
output of `CLIENT LIST` reads back, line by line and field by field, as the id, address,
name, age and idle time of every connection of the table, each once, in increasing id order,
when the accepted connections have distinct ids and no address holds a space or a newline. -/
theorem client_list_parses (es : List ClientEvent)
    (haddr : ∀ p ∈ acceptedOf es, 32 ∉ p.2 ∧ 10 ∉ p.2)
    (hid : ((acceptedOf es).map Prod.fst).Nodup) (now : Int) :
    ∃ L : List ClientConn,
      parseClientList (clientList now (clientRun [] es)) = some (L.map (listFields now)) ∧
        L.Perm (clientRun [] es) ∧ L.Sorted fun a b => a.id < b.id := by
  have hi := ClientInv.nil.run es
  rw [List.nil_append] at hi
  refine clientList_parses now _ (fun cc hcc => haddr _ (hi.origin.subset
    (List.mem_map_of_mem (fun cc => (cc.id, cc.addr)) hcc))) hi.names ?_
  have := (hi.origin.map Prod.fst).nodup hid
  simpa [List.map_map] using this

/-- Two connections accepted, one named `bob` by `SETNAME`. -/
def twoClients : List ClientEvent :=
  [.accept 1 7 (ascii "10.0.0.1:5001") 0,
    .command 1 1000000000 [ascii "CLIENT", ascii "SETNAME", ascii "bob"],
    .accept 2 3 (ascii "10.0.0.2:5002") 2000000000]

theorem client_list_two_clients :
    ∃ L : List ClientConn, parseClientList (clientList 5000000000 (clientRun [] twoClients)) =
        some (L.map (listFields 5000000000)) ∧
      L.Perm (clientRun [] twoClients) ∧ L.Sorted fun a b => a.id < b.id :=
  client_list_parses twoClients (by decide) (by decide) 5000000000

/-! ### The name GETNAME reads -/

/-- Whether a move leaves connection `conn`'s name alone by its kind: anything but a `SETNAME`
from that connection, its closing, or a connection accepted under its key. -/
def ClientEvent.keepsName (conn : Nat) : ClientEvent → Bool
  | .command c _ values => c != conn || lowerBytes (values.getD 1 []) != ascii "setname"
  | .accept c _ _ _ => c != conn
  | .close c => c != conn
  | .use _ _ => true

/-- The name `GETNAME` reads for `conn`: that of the connection's first entry. -/
def nameOf (conns : List ClientConn) (conn : Nat) : Option (List UInt8) :=
  (conns.find? (·.conn = conn)).map (·.name)

lemma cmdClient_getname (conns : List ClientConn) (conn : Nat) (now : Int) (c : List UInt8)
    {sub : List UInt8} (hg : lowerBytes sub = ascii "getname") :
    cmdClient conns conn now [c, sub] = .ok (.name ((nameOf conns conn).getD []), conns) := by
  have hgl : ascii "getname" ≠ ascii "list" := by decide
  simp [cmdClient, hg, hgl, nameOf]

lemma cmdClient_setname (conns : List ClientConn) (conn : Nat) (now : Int) (c : List UInt8)
    {sub name : List UInt8} (hs : lowerBytes sub = ascii "setname") (hn : nameOk name = true) :
    cmdClient conns conn now [c, sub, name] = .ok (.ok, setName conns conn name) := by
  have hsl : ascii "setname" ≠ ascii "list" := by decide
  have hsg : ascii "setname" ≠ ascii "getname" := by decide
  simp [cmdClient, hs, hsl, hsg, hn]

lemma nameOf_map {f : ClientConn → ClientConn} (conns : List ClientConn) (conn : Nat)
    (hf : ∀ cc, (f cc).conn = cc.conn) (hn : ∀ cc, cc.conn = conn → (f cc).name = cc.name) :
    nameOf (conns.map f) conn = nameOf conns conn := by
  unfold nameOf
  rw [List.find?_map, show ((fun cc => decide (cc.conn = conn)) ∘ f) = fun cc => decide (cc.conn = conn)
    from funext fun cc => by simp [hf]]
  cases h : conns.find? (·.conn = conn) with
  | none => rfl
  | some cc => simpa using hn cc (by simpa using List.find?_some h)

lemma nameOf_filter_append (conns tail : List ClientConn) {c conn : Nat} (hc : c ≠ conn)
    (ht : ∀ cc ∈ tail, cc.conn ≠ conn) :
    nameOf (conns.filter (·.conn ≠ c) ++ tail) conn = nameOf conns conn := by
  unfold nameOf
  congr 1
  induction conns with
  | nil => exact List.find?_eq_none.2 fun cc hcc => by simpa using ht cc hcc
  | cons cc conns ih =>
    by_cases h1 : cc.conn = conn
    · have h2 : cc.conn ≠ c := fun h => hc (h ▸ h1)
      rw [List.filter_cons_of_pos (by simpa using h2), List.cons_append,
        List.find?_cons_of_pos _ (by simpa using h1), List.find?_cons_of_pos _ (by simpa using h1)]
    · rw [List.find?_cons_of_neg _ (by simpa using h1), ← ih]
      by_cases h2 : cc.conn = c
      · rw [List.filter_cons_of_neg (by simpa using h2)]
      · rw [List.filter_cons_of_pos (by simpa using h2), List.cons_append,
          List.find?_cons_of_neg _ (by simpa using h1)]

lemma nameOf_setName (conns : List ClientConn) (conn : Nat) (name : List UInt8)
    (hc : ∃ cc ∈ conns, cc.conn = conn) : nameOf (setName conns conn name) conn = some name := by
  unfold nameOf setName
  have hp : ((fun cc : ClientConn => decide (cc.conn = conn)) ∘
      fun cc : ClientConn => if cc.conn = conn then { cc with name := name } else cc) =
      fun cc => decide (cc.conn = conn) :=
    funext fun cc => by by_cases h : cc.conn = conn <;> simp [h]
  rw [List.find?_map, hp]
  obtain ⟨cc, hcc, hconn⟩ := hc
  have hsome : (conns.find? fun cc : ClientConn => decide (cc.conn = conn)).isSome :=
    List.find?_isSome.2 ⟨cc, hcc, by simpa using hconn⟩
  obtain ⟨cc0, h0⟩ := Option.isSome_iff_exists.1 hsome
  have h0c : cc0.conn = conn := by simpa using List.find?_some h0
  simp [h0, h0c]

lemma nameOf_step {conns : List ClientConn} {conn : Nat} {e : ClientEvent}
    (he : e.keepsName conn = true) : nameOf (clientStep conns e) conn = nameOf conns conn := by
  cases e with
  | command c now values =>
    simp only [clientStep]
    split
    · rename_i r conns' h
      rcases cmdClient_table h with rfl | ⟨hs, name, -, rfl⟩
      · rfl
      · have hc : c ≠ conn := by
          rintro rfl
          rw [ClientEvent.keepsName, hs] at he
          simp at he
        exact nameOf_map conns conn (fun cc => by split_ifs <;> rfl)
          fun cc h => by rw [if_neg fun h' => hc (h'.symm.trans h)]
    · rfl
  | accept c id addr now =>
    have hc : c ≠ conn := by simpa [ClientEvent.keepsName] using he
    exact nameOf_filter_append conns _ hc fun cc hcc => by rw [List.mem_singleton.1 hcc]; exact hc
  | close c =>
    show nameOf (conns.filter (·.conn ≠ c)) conn = _
    rw [← List.append_nil (conns.filter _)]
    exact nameOf_filter_append conns [] (by simpa [ClientEvent.keepsName] using he) nofun
  | use c now =>
    exact nameOf_map conns conn (fun cc => by split_ifs <;> rfl) fun cc _ => by split_ifs <;> rfl

lemma nameOf_run {conn : Nat} : ∀ (es : List ClientEvent) (conns : List ClientConn),
    (∀ e ∈ es, e.keepsName conn = true) → nameOf (clientRun conns es) conn = nameOf conns conn
  | [], _, _ => rfl
  | e :: es, conns, h => by
    rw [clientRun, List.foldl_cons, ← clientRun, nameOf_run es _ fun e he => h e (.tail _ he),
      nameOf_step (h e (.head _))]

/-- Once `SETNAME` has named a connection of the table, every later `GETNAME` of that
connection returns that name, whatever other connections do, and whatever the server accepts,
closes or stamps meanwhile, until the connection runs `SETNAME` again or closes. -/
theorem getname_after_setname {conns : List ClientConn} {es : List ClientEvent} {conn : Nat}
    {now now' : Int} {c sub name c' sub' : List UInt8} (hc : ∃ cc ∈ conns, cc.conn = conn)
    (hs : lowerBytes sub = ascii "setname") (hn : nameOk name = true)
    (hg : lowerBytes sub' = ascii "getname") (hkeep : ∀ e ∈ es, e.keepsName conn = true) :
    cmdClient (clientRun conns (.command conn now [c, sub, name] :: es)) conn now' [c', sub'] =
      .ok (.name name, clientRun conns (.command conn now [c, sub, name] :: es)) := by
  rw [cmdClient_getname _ _ _ _ hg, clientRun, List.foldl_cons, ← clientRun, nameOf_run es _ hkeep]
  simp [clientStep, cmdClient_setname conns conn now c hs hn, nameOf_setName conns conn name hc]

/-- Connection 1 names itself `bob`; then connection 2 is accepted, connection 1 is used, and
connection 2 names itself `eve`. -/
def bobThenEve : List ClientEvent :=
  [.accept 2 3 (ascii "10.0.0.2:5002") 2, .use 1 3,
    .command 2 4 [ascii "CLIENT", ascii "SETNAME", ascii "eve"]]

theorem bob_keeps_name :
    cmdClient (clientRun [⟨1, 7, ascii "10.0.0.1:5001", [], 0, 0⟩]
        (.command 1 1 [ascii "CLIENT", ascii "SetName", ascii "bob"] :: bobThenEve)) 1 5
        [ascii "CLIENT", ascii "GETNAME"] =
      .ok (.name (ascii "bob"), clientRun [⟨1, 7, ascii "10.0.0.1:5001", [], 0, 0⟩]
        (.command 1 1 [ascii "CLIENT", ascii "SetName", ascii "bob"] :: bobThenEve)) :=
  getname_after_setname ⟨_, List.mem_singleton_self _, rfl⟩ (by decide) (by decide) (by decide)
    (by decide)

end Tile38
