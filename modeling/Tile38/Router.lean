import Mathlib

/-!
# Command router

`handleInputCommand` answers `PING` and `ECHO` at once, authenticates the connection, picks
a lock from the command verb, rejects writes on a follower or on a read-only server, runs
`command`, and hands the tokens of every successful write to `writeAOF`. A handler is seen
here only through its outcome, as the router reads it; the handlers are modelled in their
own modules, except `cmdReadOnly`, which sets the flag the gates read and is modelled here.
Replies are kept abstract: their RESP and JSON framing belongs to the codec. The runs below are
runs of handlers that leave the AOF to the router; MASSINSERT's handler writes it itself and
is run by `handleInputCommandWith` (`Tile38.Dev`).
-/

namespace Tile38

/-- Connection types of the server package. -/
inductive ConnType
  | native | resp | http | webSocket
  deriving DecidableEq, Repr

/-- A parsed message: `command` is the lower-cased verb and `values` every token of the
message, the verb included. `auth` is the password an HTTP request carries. -/
structure Message where
  command : String
  values : List String
  auth : String
  connType : ConnType
  deriving DecidableEq, Repr

/-- The server settings the router reads. -/
structure Config where
  requirePass : String
  followHost : String
  readOnly : Bool
  deriving DecidableEq, Repr

/-- The controller fields the router reads or writes. `aof` lists the token arrays handed
to `writeAOF`, oldest first. -/
structure Router where
  config : Config
  fcuponce : Bool
  shrinking : Bool
  aof : List (List String)
  shrinklog : List (List String)
  deriving DecidableEq, Repr

/-- Modelled from the spec: `writeAOF` (not under src) appends the command's tokens as one
multi-bulk record to the AOF and, while a shrink is active, to the shrink log. -/
def Router.writeAOF (r : Router) (values : List String) : Router :=
  { r with aof := r.aof ++ [values],
           shrinklog := if r.shrinking then r.shrinklog ++ [values] else r.shrinklog }

@[simp] lemma Router.writeAOF_aof (r : Router) (values : List String) :
    (r.writeAOF values).aof = r.aof ++ [values] := rfl

@[simp] lemma Router.writeAOF_config (r : Router) (values : List String) :
    (r.writeAOF values).config = r.config := rfl

/-! ### Dispatch -/

/-- The verbs named by a case of the locking switch of `handleInputCommand` or of the switch
of `Controller.command`; `other` is every other verb, which both switches send to their
default case. -/
inductive Verb
  | set | fset | del | pdel | drop | flushdb | sethook | delhook | pdelhook | expire
  | persist | ttl | hooks | shutdown | massinsert | sleep | follow | readonly | stats
  | server | info | scan | nearby | within | intersects | search | bounds | get | jget
  | jset | jdel | type | keys | output | aof | aofmd5 | gc | aofshrink | configGet
  | configSet | configRewrite | config | script | client | eval | evalro | evalna
  | evalsha | evalrosha | evalnasha | scriptLoad | scriptExists | scriptFlush | echo | other
  deriving DecidableEq, Repr

/-- The case labels of the two switches. -/
def Verb.ofString : String → Verb
  | "set" => .set | "fset" => .fset | "del" => .del | "pdel" => .pdel | "drop" => .drop
  | "flushdb" => .flushdb | "sethook" => .sethook | "delhook" => .delhook
  | "pdelhook" => .pdelhook | "expire" => .expire | "persist" => .persist | "ttl" => .ttl
  | "hooks" => .hooks | "shutdown" => .shutdown | "massinsert" => .massinsert
  | "sleep" => .sleep | "follow" => .follow | "readonly" => .readonly | "stats" => .stats
  | "server" => .server | "info" => .info | "scan" => .scan | "nearby" => .nearby
  | "within" => .within | "intersects" => .intersects | "search" => .search
  | "bounds" => .bounds | "get" => .get | "jget" => .jget | "jset" => .jset
  | "jdel" => .jdel | "type" => .type | "keys" => .keys | "output" => .output
  | "aof" => .aof | "aofmd5" => .aofmd5 | "gc" => .gc | "aofshrink" => .aofshrink
  | "config get" => .configGet | "config set" => .configSet
  | "config rewrite" => .configRewrite | "config" => .config | "script" => .script
  | "client" => .client | "eval" => .eval | "evalro" => .evalro | "evalna" => .evalna
  | "evalsha" => .evalsha | "evalrosha" => .evalrosha | "evalnasha" => .evalnasha
  | "script load" => .scriptLoad | "script exists" => .scriptExists
  | "script flush" => .scriptFlush | "echo" => .echo | _ => .other

/-- The handlers `Controller.command` dispatches to. `subcommand` is the rewrite of
`CONFIG x` and `SCRIPT x` into a two-word verb, which is dispatched again and can only reach
the config and script handlers or the default case. -/
inductive Handler
  | cmdSet | cmdFset | cmdDel | cmdPdel | cmdDrop | cmdFlushDB | cmdSetHook | cmdDelHook
  | cmdPDelHook | cmdExpire | cmdPersist | cmdTTL | cmdHooks | shutdown | cmdMassInsert
  | cmdSleep | cmdFollow | cmdReadOnly | cmdStats | cmdServer | cmdInfo | cmdScan
  | cmdNearby | cmdWithin | cmdIntersects | cmdSearch | cmdBounds | cmdGet | cmdJget
  | cmdJset | cmdJdel | cmdType | cmdKeys | cmdOutput | cmdAOF | cmdAOFMD5 | gc | aofshrink
  | cmdConfigGet | cmdConfigSet | cmdConfigRewrite | subcommand | cmdClient
  | cmdEvalUnified (sha : Bool) | cmdScriptLoad | cmdScriptExists | cmdScriptFlush | unknown

/-- The switch of `Controller.command`. -/
def command : Verb → Handler
  | .set => .cmdSet
  | .fset => .cmdFset
  | .del => .cmdDel
  | .pdel => .cmdPdel
  | .drop => .cmdDrop
  | .flushdb => .cmdFlushDB
  | .sethook => .cmdSetHook
  | .delhook => .cmdDelHook
  | .pdelhook => .cmdPDelHook
  | .expire => .cmdExpire
  | .persist => .cmdPersist
  | .ttl => .cmdTTL
  | .hooks => .cmdHooks
  | .shutdown => .shutdown
  | .massinsert => .cmdMassInsert
  | .sleep => .cmdSleep
  | .follow => .cmdFollow
  | .readonly => .cmdReadOnly
  | .stats => .cmdStats
  | .server => .cmdServer
  | .info => .cmdInfo
  | .scan => .cmdScan
  | .nearby => .cmdNearby
  | .within => .cmdWithin
  | .intersects => .cmdIntersects
  | .search => .cmdSearch
  | .bounds => .cmdBounds
  | .get => .cmdGet
  | .jget => .cmdJget
  | .jset => .cmdJset
  | .jdel => .cmdJdel
  | .type => .cmdType
  | .keys => .cmdKeys
  | .output => .cmdOutput
  | .aof => .cmdAOF
  | .aofmd5 => .cmdAOFMD5
  | .gc => .gc
  | .aofshrink => .aofshrink
  | .configGet => .cmdConfigGet
  | .configSet => .cmdConfigSet
  | .configRewrite => .cmdConfigRewrite
  | .config | .script => .subcommand
  | .client => .cmdClient
  | .eval | .evalro | .evalna => .cmdEvalUnified false
  | .evalsha | .evalrosha | .evalnasha => .cmdEvalUnified true
  | .scriptLoad => .cmdScriptLoad
  | .scriptExists => .cmdScriptExists
  | .scriptFlush => .cmdScriptFlush
  | _ => .unknown

/-- The handlers that return a `commandDetailsT`: the ones that can change the collection
store, the expiration index or the hook registry. -/
def Handler.returnsDetails : Handler → Bool
  | .cmdSet | .cmdFset | .cmdDel | .cmdPdel | .cmdDrop | .cmdFlushDB | .cmdSetHook
  | .cmdDelHook | .cmdPDelHook | .cmdExpire | .cmdPersist | .cmdJset | .cmdJdel => true
  | _ => false

/-! ### Locking -/

/-- The lock the router holds while the handler runs. -/
inductive Lock
  | none | shared | exclusive
  deriving DecidableEq, Repr

/-- The check a locking case makes before the handler runs: `leader` rejects on a follower
and in read-only mode, `caughtUp` rejects on a follower that has not caught up yet. -/
inductive Gate
  | free | leader | caughtUp
  deriving DecidableEq, Repr

/-- One case of the locking switch of `handleInputCommand`. -/
structure Locking where
  lock : Lock
  write : Bool
  gate : Gate
  deriving DecidableEq, Repr

/-- The locking switch of `handleInputCommand`. -/
def lockingStrategy : Verb → Locking
  | .set | .del | .drop | .fset | .flushdb | .sethook | .pdelhook | .delhook
  | .expire | .persist | .jset | .pdel => ⟨.exclusive, true, .leader⟩
  | .eval | .evalsha => ⟨.exclusive, false, .leader⟩
  | .get | .keys | .scan | .nearby | .within | .intersects | .hooks | .search
  | .ttl | .bounds | .server | .info | .type | .jget | .evalro | .evalrosha =>
    ⟨.shared, false, .caughtUp⟩
  | .follow | .readonly | .config => ⟨.exclusive, false, .free⟩
  | .output | .echo => ⟨.none, false, .free⟩
  | .massinsert => ⟨.exclusive, false, .free⟩
  | .sleep => ⟨.shared, false, .free⟩
  | .shutdown => ⟨.exclusive, false, .free⟩
  | .aofshrink => ⟨.shared, false, .free⟩
  | .client => ⟨.exclusive, false, .free⟩
  | .evalna | .evalnasha => ⟨.none, false, .free⟩
  | _ => ⟨.shared, false, .free⟩

/-- The error a gate answers with, if any. -/
def Gate.check (r : Router) : Gate → Option String
  | .free => none
  | .leader =>
    if r.config.followHost ≠ "" then some "not the leader"
    else if r.config.readOnly then some "read only" else none
  | .caughtUp =>
    if r.config.followHost ≠ "" ∧ r.fcuponce = false then some "catching up to leader"
    else none

theorem leader_check_eq_none (r : Router) :
    Gate.leader.check r = none ↔ r.config.followHost = "" ∧ r.config.readOnly = false := by
  simp only [Gate.check]
  split_ifs <;> simp_all

/-- A write is exactly a verb whose handler returns details, except `JDEL`. -/
theorem lockingStrategy_write_iff (v : Verb) :
    (lockingStrategy v).write = true ↔ (command v).returnsDetails = true ∧ v ≠ .jdel := by
  cases v <;> decide

theorem lockingStrategy_of_write {v : Verb} (h : (lockingStrategy v).write = true) :
    lockingStrategy v = ⟨.exclusive, true, .leader⟩ := by
  revert h
  cases v <;> decide

/-! ### Authentication -/

/-- Go's `unicode.IsSpace`. -/
def isSpace (c : Char) : Bool :=
  c = ' ' || ('\t' ≤ c && c ≤ '\r') || c.val = 0x85 || c.val = 0xA0 || c.val = 0x1680 ||
    (0x2000 ≤ c.val && c.val ≤ 0x200A) || c.val = 0x2028 || c.val = 0x2029 ||
    c.val = 0x202F || c.val = 0x205F || c.val = 0x3000

/-- `strings.TrimSpace`. -/
def trimSpace (s : String) : String :=
  ⟨((s.toList.dropWhile isSpace).reverse.dropWhile isSpace).reverse⟩

/-- What the router writes back to the client. -/
inductive Reply
  | pong (echo : Option String)
  | ok
  | error (text : String)
  | value (res : String)
  deriving DecidableEq, Repr

/-- The authentication block of `handleInputCommand`: the connection's new
`Authenticated` flag, and the reply if the message is answered there. -/
def authenticate (cfg : Config) (authenticated : Bool) (msg : Message) :
    Bool × Option Reply :=
  if authenticated = false ∨ msg.command = "auth" then
    if cfg.requirePass ≠ "" then
      if msg.command ≠ "auth" ∧ msg.auth = "" then
        (authenticated, some (.error "authentication required"))
      else
        let password := if msg.auth ≠ "" then msg.auth else msg.values.getD 1 ""
        if cfg.requirePass ≠ trimSpace password then
          (authenticated, some (.error "invalid password"))
        else if msg.connType ≠ .http then (true, some .ok) else (true, none)
    else if msg.command = "auth" then (authenticated, some (.error "invalid password"))
    else (authenticated, none)
  else (authenticated, none)

/-! ### One message -/

/-- What `command` returns, as far as the router reads it: a reply value, a reply that is
a RESP error value, or an error. The empty reply is not written back. -/
inductive Outcome
  | reply (res : String)
  | errorValue (text : String)
  | error (text : String)
  deriving DecidableEq, Repr

/-- The effect of `handleInputCommand` on one message: the reply written, the connection's
`Authenticated` flag, the router fields, the lock held while `command` ran, whether
`command` ran, and whether the connection goes live. -/
structure Handled where
  reply : Option Reply
  authenticated : Bool
  router : Router
  lock : Lock
  invoked : Bool
  live : Bool
  deriving DecidableEq, Repr

/-- What the router does once the handler of a command with locking case `s` returned. -/
def finish (r : Router) (auth : Bool) (msg : Message) (s : Locking) : Outcome → Handled
  | .errorValue text => ⟨some (.error text), auth, r, s.lock, true, false⟩
  | .error text =>
    if text = "going live" then ⟨none, auth, r, s.lock, true, true⟩
    else ⟨some (.error text), auth, r, s.lock, true, false⟩
  | .reply res =>
    ⟨if res = "" then none else some (.value res), auth,
      if s.write then r.writeAOF msg.values else r, s.lock, true, false⟩

/-- `handleInputCommand`, for a message whose handler, if it runs, returns `outcome`. -/
def handleInputCommand (r : Router) (authenticated : Bool) (msg : Message)
    (outcome : Outcome) : Handled :=
  if msg.command = "ping" ∨ msg.command = "echo" then
    ⟨some (.pong (msg.values.get? 1)), authenticated, r, .none, false, false⟩
  else
    match authenticate r.config authenticated msg with
    | (auth, some reply) => ⟨some reply, auth, r, .none, false, false⟩
    | (auth, none) =>
      let s := lockingStrategy (Verb.ofString msg.command)
      match s.gate.check r with
      | some text => ⟨some (.error text), auth, r, s.lock, false, false⟩
      | none => finish r auth msg s outcome

/-- The message ran a handler that returns details, and the handler succeeded. -/
def Handled.mutated (h : Handled) (msg : Message) (outcome : Outcome) : Bool :=
  h.invoked && (command (Verb.ofString msg.command)).returnsDetails &&
    outcome matches .reply _

section OneMessage

variable (r : Router) (a : Bool) (msg : Message) (o : Outcome)

@[simp] lemma finish_invoked (s : Locking) : (finish r a msg s o).invoked = true := by
  cases o <;> simp only [finish]
  split_ifs <;> rfl

@[simp] lemma finish_lock (s : Locking) : (finish r a msg s o).lock = s.lock := by
  cases o <;> simp only [finish]
  split_ifs <;> rfl

lemma finish_router (s : Locking) :
    (finish r a msg s o).router =
      if s.write ∧ o matches .reply _ then r.writeAOF msg.values else r := by
  cases o <;> simp only [finish] <;> (try split_ifs) <;> simp_all

/-- Either the router answers the message without running its handler and leaves its
fields alone, or the gate of the message's locking case let it through and `finish` ran. -/
theorem handleInputCommand_cases :
    ((handleInputCommand r a msg o).invoked = false ∧ (handleInputCommand r a msg o).router = r) ∨
      ((lockingStrategy (Verb.ofString msg.command)).gate.check r = none ∧
        ∃ auth, handleInputCommand r a msg o =
          finish r auth msg (lockingStrategy (Verb.ofString msg.command)) o) := by
  unfold handleInputCommand
  split_ifs
  · exact .inl ⟨rfl, rfl⟩
  · rcases authenticate r.config a msg with ⟨auth, _ | reply⟩
    · dsimp only
      cases hg : Gate.check r (lockingStrategy (Verb.ofString msg.command)).gate
      · exact .inr ⟨rfl, auth, rfl⟩
      · exact .inl ⟨rfl, rfl⟩
    · exact .inl ⟨rfl, rfl⟩

/-- The handler runs only after authentication passed and the gate of its locking case let
it through, under the lock of that case. -/
theorem handle_invoked (h : (handleInputCommand r a msg o).invoked = true) :
    (lockingStrategy (Verb.ofString msg.command)).gate.check r = none ∧
      (handleInputCommand r a msg o).lock = (lockingStrategy (Verb.ofString msg.command)).lock := by
  rcases handleInputCommand_cases r a msg o with ⟨hi, -⟩ | ⟨hg, auth, he⟩
  · simp [hi] at h
  · exact ⟨hg, by rw [he, finish_lock]⟩

/-- The router's fields change only by one `writeAOF` of the message's tokens, made when the
handler of a write ran and succeeded. -/
theorem handle_router :
    (handleInputCommand r a msg o).router =
      if (handleInputCommand r a msg o).invoked ∧
          (lockingStrategy (Verb.ofString msg.command)).write ∧ o matches .reply _ then
        r.writeAOF msg.values else r := by
  rcases handleInputCommand_cases r a msg o with ⟨hi, hr⟩ | ⟨-, auth, he⟩
  · simp [hi, hr]
  · rw [he, finish_router, finish_invoked]
    simp only [true_and]

lemma handle_error {text : String} (he : text ≠ "going live") :
    (handleInputCommand r a msg (.error text)).router = r ∧
      ((handleInputCommand r a msg (.error text)).invoked = true →
        (handleInputCommand r a msg (.error text)).reply = some (.error text)) := by
  refine ⟨by rw [handle_router]; simp, fun hi => ?_⟩
  rcases handleInputCommand_cases r a msg (.error text) with ⟨h0, -⟩ | ⟨-, auth, hh⟩
  · rw [h0] at hi; cases hi
  · rw [hh]; simp [finish, he]

end OneMessage

/-- Every message whose handler can change the store, the expiration index or the hook
registry, `JDEL` apart, runs under the exclusive lock, is turned away on a follower and in
read-only mode, and when it succeeds hands its tokens to `writeAOF`. -/
theorem mutation_gated_and_journaled (r : Router) (a : Bool) (msg : Message) (o : Outcome)
    (hd : (command (Verb.ofString msg.command)).returnsDetails = true)
    (hj : Verb.ofString msg.command ≠ .jdel) :
    ((handleInputCommand r a msg o).invoked = true →
        (handleInputCommand r a msg o).lock = .exclusive ∧
          r.config.followHost = "" ∧ r.config.readOnly = false) ∧
      ((handleInputCommand r a msg o).mutated msg o = true →
        (handleInputCommand r a msg o).router.aof = r.aof ++ [msg.values]) := by
  have hw := lockingStrategy_of_write ((lockingStrategy_write_iff _).2 ⟨hd, hj⟩)
  refine ⟨fun hi => ?_, fun hm => ?_⟩
  · obtain ⟨hg, hl⟩ := handle_invoked r a msg o hi
    rw [hw] at hg hl
    exact ⟨hl, (leader_check_eq_none r).1 hg⟩
  · simp only [Handled.mutated, Bool.and_eq_true] at hm
    rw [handle_router, if_pos ⟨hm.1.1, by rw [hw], hm.2⟩, Router.writeAOF_aof]

/-- `JDEL` falls into the default locking case: on a follower its handler runs under the
shared lock, succeeds, and nothing reaches `writeAOF`. -/
theorem jdel_runs_on_follower_unjournaled :
    let r : Router := ⟨⟨"", "10.0.0.1", false⟩, false, false, [], []⟩
    let msg : Message := ⟨"jdel", ["JDEL", "fleet", "truck1", "speed"], "", .resp⟩
    let h := handleInputCommand r true msg (.reply "1")
    r.config.followHost ≠ "" ∧ h.invoked = true ∧ h.lock = .shared ∧
      h.mutated msg (.reply "1") = true ∧ h.router.aof = [] := by
  decide

/-! ### READONLY -/

/-- `errInvalidNumberOfArguments` (not under src). -/
def errInvalidNumberOfArguments : String := "invalid number of arguments"

/-- `errInvalidArgument` (not under src). -/
def errInvalidArgument (arg : String) : String := "invalid argument \x27" ++ arg ++ "\x27"

/-- `unicode.ToLower` on the runes whose lower case is ASCII: the ASCII capitals, `İ` (U+0130)
and the Kelvin sign (U+212A). Every other rune is kept: Go lowers some of them too, but never
into ASCII, and the lowered words are only compared with ASCII words. -/
def lowerRune (c : Char) : Char :=
  if c.toNat = 0x130 then 'i' else if c.toNat = 0x212A then 'k' else c.toLower

/-- `strings.ToLower`, rune by rune. -/
def toLower (s : String) : String := ⟨s.toList.map lowerRune⟩

example : toLower "\u212AILL" = "kill" := by decide

/-- `cmdReadOnly`: the settings after `READONLY yes` or `READONLY no`, and whether the flag
changed, which is when the settings are written back. -/
def cmdReadOnly (config : Config) (values : List String) : Except String (Config × Bool) :=
  match values.drop 1 with
  | [] => .error errInvalidNumberOfArguments
  | arg :: vs =>
    if arg = "" then .error errInvalidNumberOfArguments
    else if vs ≠ [] then .error errInvalidNumberOfArguments
    else
      match toLower arg with
      | "yes" =>
        if !config.readOnly then .ok ({ config with readOnly := true }, true) else .ok (config, false)
      | "no" =>
        if config.readOnly then .ok ({ config with readOnly := false }, true) else .ok (config, false)
      | _ => .error (errInvalidArgument arg)

example : cmdReadOnly ⟨"", "", false⟩ ["READONLY", "Yes"] = .ok (⟨"", "", true⟩, true) := rfl

/-! ### Runs -/

/-- Inputs of a router run: a message on a connection, with the outcome of its handler, or
a change of the settings or of the caught-up flag, as FOLLOW, READONLY, CONFIG SET and the
follow loop make them. -/
inductive Input
  | message (conn : Nat) (msg : Message) (outcome : Outcome)
  | reconfigure (config : Config) (fcuponce : Bool)

/-- The router with the `Authenticated` flag of every connection. -/
structure Server where
  router : Router
  authenticated : Nat → Bool

/-- The effect of one input on the server. -/
def Server.step (s : Server) : Input → Server
  | .message conn msg o =>
    let h := handleInputCommand s.router (s.authenticated conn) msg o
    ⟨h.router, fun c => if c = conn then h.authenticated else s.authenticated c⟩
  | .reconfigure config fcuponce => { s with router := { s.router with config, fcuponce } }

/-- The inputs applied one after the other. -/
def Server.run : Server → List Input → Server
  | s, [] => s
  | s, i :: is => (s.step i).run is

/-- The tokens of the input if it is a successful mutation other than `JDEL`. -/
def Server.mutation (s : Server) : Input → List (List String)
  | .message conn msg o =>
    if (handleInputCommand s.router (s.authenticated conn) msg o).mutated msg o ∧
      Verb.ofString msg.command ≠ .jdel then [msg.values] else []
  | .reconfigure _ _ => []

/-- The successful mutations of a run other than `JDEL`, in order. -/
def Server.mutations : Server → List Input → List (List String)
  | _, [] => []
  | s, i :: is => s.mutation i ++ (s.step i).mutations is

theorem step_aof (s : Server) (i : Input) :
    (s.step i).router.aof = s.router.aof ++ s.mutation i := by
  cases i with
  | reconfigure => simp [Server.step, Server.mutation]
  | message conn msg o =>
    simp only [Server.step, Server.mutation]
    have key : ((handleInputCommand s.router (s.authenticated conn) msg o).invoked = true ∧
        (lockingStrategy (Verb.ofString msg.command)).write = true ∧ o matches .reply _) ↔
        ((handleInputCommand s.router (s.authenticated conn) msg o).mutated msg o = true ∧
          Verb.ofString msg.command ≠ .jdel) := by
      simp only [lockingStrategy_write_iff, Handled.mutated, Bool.and_eq_true]
      tauto
    rw [handle_router]
    split_ifs with h1 h2 h2
    · rfl
    · exact absurd (key.1 h1) h2
    · exact absurd (key.2 h2) h1
    · simp

/-- Over every run the AOF grows by exactly the successful mutations other than `JDEL`,
in the order they ran. -/
theorem run_aof (s : Server) (is : List Input) :
    (s.run is).router.aof = s.router.aof ++ s.mutations is := by
  induction is generalizing s with
  | nil => simp [Server.run, Server.mutations]
  | cons i is ih => simp [Server.run, Server.mutations, ih, step_aof]

/-- A message leaves the settings as they were: the router changes only by `writeAOF`. -/
lemma step_config_message (s : Server) (conn : Nat) (msg : Message) (o : Outcome) :
    (s.step (.message conn msg o)).router.config = s.router.config := by
  simp only [Server.step]
  rw [handle_router]
  split_ifs <;> rfl

/-! ### Authentication over a run -/

/-- The password a message supplies to the authentication block: its `Auth` field, else the
argument of `AUTH`; none for any other message. -/
def Message.password (msg : Message) : Option String :=
  if msg.auth ≠ "" then some msg.auth
  else if msg.command = "auth" then some (msg.values.getD 1 "") else none

lemma authenticate_false {cfg : Config} (msg : Message) (hp : cfg.requirePass ≠ "") :
    authenticate cfg false msg =
      if msg.password.map trimSpace = some cfg.requirePass then
        (true, if msg.connType ≠ .http then some .ok else none)
      else
        (false, some (.error (if msg.password = none then "authentication required"
          else "invalid password"))) := by
  unfold authenticate Message.password
  rw [if_pos (.inl rfl), if_pos hp]
  by_cases ha : msg.auth = "" <;> by_cases hc : msg.command = "auth" <;>
    simp [ha, hc, eq_comm] <;> split_ifs <;> rfl

lemma authenticate_true (cfg : Config) (msg : Message) : (authenticate cfg true msg).1 = true := by
  unfold authenticate
  dsimp only
  repeat' split
  all_goals rfl

@[simp] lemma finish_authenticated (r : Router) (a : Bool) (msg : Message) (s : Locking)
    (o : Outcome) : (finish r a msg s o).authenticated = a := by
  cases o <;> simp only [finish]
  split_ifs <;> rfl

lemma handle_authenticated (r : Router) (a : Bool) (msg : Message) (o : Outcome) :
    (handleInputCommand r a msg o).authenticated =
      if msg.command = "ping" ∨ msg.command = "echo" then a
      else (authenticate r.config a msg).1 := by
  unfold handleInputCommand
  split_ifs
  · rfl
  · rcases authenticate r.config a msg with ⟨auth, _ | reply⟩
    · dsimp only
      split <;> simp
    · rfl

lemma handle_invoked_authenticate {r : Router} {a : Bool} {msg : Message} {o : Outcome}
    (h : (handleInputCommand r a msg o).invoked = true) :
    (authenticate r.config a msg).2 = none := by
  unfold handleInputCommand at h
  split_ifs at h
  rcases hA : authenticate r.config a msg with ⟨auth, _ | reply⟩
  · rfl
  · rw [hA] at h; cases h

lemma step_authenticated (s : Server) (i : Input) (conn : Nat)
    (hp : s.router.config.requirePass ≠ "") (h : (s.step i).authenticated conn = true) :
    s.authenticated conn = true ∨
      ∃ msg o, i = .message conn msg o ∧ msg.password.map trimSpace = some s.router.config.requirePass := by
  cases i with
  | reconfigure c f => exact .inl h
  | message c msg o =>
    simp only [Server.step] at h
    by_cases hc : conn = c
    · subst hc
      rw [if_pos rfl, handle_authenticated] at h
      cases ha : s.authenticated conn
      · rw [ha] at h
        split_ifs at h with hpe
        rw [authenticate_false msg hp] at h
        by_cases hm : msg.password.map trimSpace = some s.router.config.requirePass
        · exact .inr ⟨msg, o, rfl, hm⟩
        · rw [if_neg hm] at h; cases h
      · exact .inl rfl
    · rw [if_neg hc] at h
      exact .inl h

/-- Over a run that keeps the password `p`, a connection is authenticated only if it was at the
start or a message of the run on it supplied `p`. -/
lemma run_authenticated (p : String) (hp : p ≠ "") (conn : Nat) :
    ∀ (pre : List Input) (s : Server), s.router.config.requirePass = p →
      (∀ c f, Input.reconfigure c f ∈ pre → c.requirePass = p) →
      (s.run pre).router.config.requirePass = p ∧
        ((s.run pre).authenticated conn = true → s.authenticated conn = true ∨
          ∃ msg o, Input.message conn msg o ∈ pre ∧ msg.password.map trimSpace = some p) := by
  intro pre
  induction pre with
  | nil => intro s hs _; exact ⟨hs, .inl⟩
  | cons i pre ih =>
    intro s hs hkeep
    have hs1 : (s.step i).router.config.requirePass = p := by
      cases i with
      | message c msg o => rw [step_config_message]; exact hs
      | reconfigure c f => exact hkeep c f (.head _)
    obtain ⟨h1, h2⟩ := ih (s.step i) hs1 fun c f hm => hkeep c f (.tail _ hm)
    refine ⟨h1, fun h => ?_⟩
    rcases h2 h with h3 | ⟨msg, o, hm, hpw⟩
    · rcases step_authenticated s i conn (hs ▸ hp) h3 with h4 | ⟨msg, o, rfl, hpw⟩
      · exact .inl h4
      · exact .inr ⟨msg, o, .head _, hs ▸ hpw⟩
    · exact .inr ⟨msg, o, .tail _ hm, hpw⟩

/-- Password protection holds over every run that keeps the password `p`, from a connection
that is not authenticated: the handler of a message runs only if an earlier message on the
connection supplied `p` (its `Auth` field, else its `AUTH` argument), or the message itself is an
HTTP message that supplies `p`; and a message that does not supply `p` leaves the connection's
flag as it was. -/
theorem password_never_bypassed (p : String) (hp : p ≠ "") (s : Server) (conn : Nat)
    (hs : s.authenticated conn = false) (hcfg : s.router.config.requirePass = p)
    (pre : List Input) (hkeep : ∀ c f, Input.reconfigure c f ∈ pre → c.requirePass = p)
    (msg : Message) (o : Outcome) :
    ((handleInputCommand (s.run pre).router ((s.run pre).authenticated conn) msg o).invoked =
          true →
        (∃ msg' o', Input.message conn msg' o' ∈ pre ∧ msg'.password.map trimSpace = some p) ∨
          (msg.connType = .http ∧ msg.password.map trimSpace = some p)) ∧
      (msg.password.map trimSpace ≠ some p →
        (handleInputCommand (s.run pre).router ((s.run pre).authenticated conn) msg o).authenticated =
          (s.run pre).authenticated conn) := by
  obtain ⟨hcfg', hauth⟩ := run_authenticated p hp conn pre s hcfg hkeep
  have hp' : (s.run pre).router.config.requirePass ≠ "" := hcfg' ▸ hp
  refine ⟨fun hi => ?_, fun hm => ?_⟩
  · have hn := handle_invoked_authenticate hi
    rcases hb : (s.run pre).authenticated conn with _ | _
    · rw [hb, authenticate_false msg hp'] at hn
      split_ifs at hn with hm hh
      exact .inr ⟨not_not.1 hh, hcfg' ▸ hm⟩
    · rcases hauth hb with h0 | h1
      · rw [hs] at h0; cases h0
      · exact .inl h1
  · rw [handle_authenticated]
    split_ifs
    · rfl
    · rcases hb : (s.run pre).authenticated conn with _ | _
      · rw [authenticate_false msg hp', if_neg (hcfg' ▸ hm)]
      · exact authenticate_true _ _

/-- A server with the password `secret` and no connection authenticated yet. -/
def securedServer : Server := ⟨⟨⟨"secret", "", false⟩, false, false, [], []⟩, fun _ => false⟩

/-- AUTH secret over RESP on connection 0, then a reconfiguration that makes the server a
read-only follower and keeps the password. -/
def authThenFollow : List Input :=
  [.message 0 ⟨"auth", ["AUTH", "secret"], "", .resp⟩ (.reply "ok"),
    .reconfigure ⟨"secret", "10.0.0.1", true⟩ false]

/-- A GET over RESP that supplies no password. -/
def respGet : Message := ⟨"get", ["GET", "fleet", "truck1"], "", .resp⟩

theorem password_never_bypassed_after_auth :
    "secret" ≠ "" ∧ securedServer.authenticated 0 = false ∧
      securedServer.router.config.requirePass = "secret" ∧
      (∀ c f, Input.reconfigure c f ∈ authThenFollow → c.requirePass = "secret") ∧
      (((handleInputCommand (securedServer.run authThenFollow).router
            ((securedServer.run authThenFollow).authenticated 0) respGet (.reply "ok")).invoked =
              true →
          (∃ msg' o', Input.message 0 msg' o' ∈ authThenFollow ∧
            msg'.password.map trimSpace = some "secret") ∨
            (respGet.connType = .http ∧ respGet.password.map trimSpace = some "secret")) ∧
        (respGet.password.map trimSpace ≠ some "secret" →
          (handleInputCommand (securedServer.run authThenFollow).router
              ((securedServer.run authThenFollow).authenticated 0) respGet (.reply "ok")).authenticated =
            (securedServer.run authThenFollow).authenticated 0)) := by
  have hkeep : ∀ c f, Input.reconfigure c f ∈ authThenFollow → c.requirePass = "secret" := by
    intro c f h
    simp only [authThenFollow, List.mem_cons, Input.reconfigure.injEq, reduceCtorEq, false_or,
      List.mem_nil_iff, or_false] at h
    rw [h.1]
  exact ⟨by decide, rfl, rfl, hkeep, password_never_bypassed "secret" (by decide) securedServer 0
    rfl rfl authThenFollow hkeep respGet (.reply "ok")⟩

/-- Over HTTP, `AUTH` with the password as its argument and no `Auth` field authenticates a
fresh connection and runs `command`, which answers that the command is unknown. -/
theorem http_auth_runs_command :
    let r : Router := ⟨⟨"secret", "", false⟩, false, false, [], []⟩
    let msg : Message := ⟨"auth", ["AUTH", "secret"], "", .http⟩
    (handleInputCommand r false msg (.error "unknown command \x27AUTH\x27")).invoked = true ∧
      trimSpace msg.auth ≠ "secret" := by
  decide

end Tile38
