import Dss.HtmlEscaping
import Dss.Security
import Dss.SessionEviction
import Dss.SessionStore
import Dss.Transition

/-!
# Who a request acts for

A request names its session, in a cookie or a parameter, or comes over the trusted port with the
name of a user. `Security` keeps the user who is logged in for each thread of the web server; the
session keeps the one who logged in. A token lets an application log in as the user who enabled it.

Requests are handled one after the other, by any threads, with the clean-up of sessions in between:
two threads never interleave within a request. What the other handlers do is left out, also what a
property request writes into the tree of tokens and users: its privileges are stored, but nothing
checks them. `VdcToken::onPushed` is left out too. It creates and enables a token of the server's
own without any user, and nobody is logged in by it.
-/

namespace Dss

namespace WebAccess

open List

variable {U T : Type}

/-- The users of `Security`. They have roles, and each is found by its own name. -/
structure Users (U : Type) : Type where
  /-- `getProperty("users/" + name)` -/
  find : String → Option U
  getName : U → String
  /-- what the password checker says to a password after `setPassword` -/
  afterSetPassword : U → String → String → Bool
  find_getName : ∀ u, find (cString (getName u)) = some u

/-- `m_LoggedInUser` -/
inductive Login (U : Type) : Type where
  | nobody : Login U
  | user : U → Login U
  | system : Login U

structure Server (U T : Type) : Type where
  manager : SessionManager
  /-- `m_pUser` of the session with this token -/
  sessionUser : String → Option U
  tokens : TokenTree
  /-- `checkPassword` -/
  checkPassword : U → String → Bool
  /-- for each thread -/
  loggedIn : T → Login U

inductive Toplevel : Type where
  | browse : Toplevel
  | json : Toplevel
  | icons : Toplevel
  | getLatestLogs : Toplevel
  /-- `WebSocketConnectHandler` -/
  | websocket : Toplevel
  deriving DecidableEq

structure Request : Type where
  toplevel : Toplevel
  /-- the header `Cookie` -/
  cookie : Option String
  /-- the header `Authorization` -/
  authorization : Option String
  /-- whether `local_port` is `m_TrustedPort` -/
  trusted : Bool
  /-- whether there are fewer web sockets than `m_max_ws_clients` -/
  room : Bool := true
  /-- `getClass` -/
  handler : String
  method : String
  getParameter : String → String

/-- What becomes of a request. -/
inductive Outcome (U : Type) : Type where
  /-- it is not handled, or there is no such handler -/
  | refused : Outcome U
  /-- `SecurityException("not logged in")` -/
  | notLoggedIn : Outcome U
  /-- the handler is called with this session, which has this user, while someone is logged in -/
  | served : Option Session → Option U → Login U → Outcome U

/-! ## The code -/

/-- What is behind the first occurrence of a text. -/
def behind (key : List Char) : List Char → Option (List Char)
  | [] => none
  | c :: cs => if key <+: c :: cs then some ((c :: cs).drop key.length) else behind key cs

def extractToken (cookie : Option String) : String :=
  match cookie.bind fun cookie => behind "; token=".toList ("; " ++ cookie).toList with
  | none => ""
  | some rest => String.ofList (rest.takeWhile (· ≠ ';'))

def extractAuthenticatedUser (header : Option String) : String :=
  match header.bind fun header => behind " username=\"".toList header.toList with
  | none => ""
  | some rest => if '"' ∈ rest then String.ofList (rest.takeWhile (· ≠ '"')) else ""

/-- What the handlers keep of a name and of a login token. -/
def alnum (text : String) : String := String.ofList (text.toList.filter Char.isAlphanum)

def handlers : List String :=
  ["apartment", "zone", "device", "circuit", "set", "property", "event", "system", "structure",
    "metering", "subscription", "database", "state"]

section Code

variable [DecidableEq T] (gen : SessionTokenGenerator) (users : Users U) (now : ℤ)

namespace Server

variable (s : Server U T) (t : T)

def login (login : Login U) : Server U T :=
  { s with loggedIn := fun t' => if t' = t then login else s.loggedIn t' }

/-- `authenticateApplication`, with the user who is found. -/
def applicationUser (token : String) : Except Failure (Option U) :=
  match s.tokens.enabled.getProperty token with
  | none => .ok none
  | some (_, pToken) =>
    match pToken.getPropertyByName "user" with
    | none => .ok none
    | some pUserName => pUserName.getStringValue.map users.find

/-- `impersonate`, or the end of an authentication: the user is logged in, and a session is
registered that inherits him. The session is missing where there are too many. -/
def register (user : U) (mark : Session → Session) : Server U T × Option Session :=
  match s.manager.register gen now mark with
  | (manager, .id newToken) =>
    if newToken = "" then (s.login t (.user user), none)
    else
      let (manager, answer) := manager.getSession newToken
      ({ s.login t (.user user) with
          manager := manager
          sessionUser := fun id => if id = newToken then some user else s.sessionUser id },
        match answer with
        | .session session => session
        | _ => none)
  | _ => (s, none)

def userOf (session : Option Session) : Option U :=
  session.bind fun session => s.sessionUser session.id

/-- The session that the request names. -/
def namedSession (r : Request) : Server U T × Option Session :=
  let token := if extractToken r.cookie = "" then r.getParameter "token" else extractToken r.cookie
  if token = "" then (s, none)
  else
    match s.manager.getSession token with
    | (manager, .session session) => ({ s with manager := manager }, session)
    | _ => (s, none)

/-- The user that the request names over the trusted port; where the request is not to be handled
there is no result. -/
def trustedSession (r : Request) (session : Option Session) :
    Server U T × Option (Option Session) :=
  if (s.userOf session).isNone ∧ r.trusted then
    let userName := extractAuthenticatedUser r.authorization
    if userName = "" then (s, some session)
    else
      match users.find userName with
      | none => (s.login t .nobody, none)
      | some user =>
        if session.isNone ∧ r.toplevel ≠ .icons then
          match s.register gen now t user id with
          | (s, none) => (s, none)
          | (s, some session) => (s, some (some session))
        else (s.login t (.user user), some session)
  else (s, some session)

/-- `touch` and `authenticate` of a session. -/
def enter (session : Session) : Server U T :=
  { s with manager := { s.manager with
      sessions := s.manager.sessions.insert session.id (some (session.touch now)) } }.login t
    (match s.sessionUser session.id with
      | none => .nobody
      | some user => .user user)

variable [DecidableEq U]

/-- `SystemRequestHandler::jsonHandleRequest` -/
def system (r : Request) (session : Option Session) : Server U T :=
  match r.method, session with
  | "getDSID", _ | "getDSUID", _ => s.login t .system
  | "login", none =>
    let user := alnum (r.getParameter "user")
    let password := r.getParameter "password"
    if user = "" ∨ password = "" then s
    else
      match users.find user with
      | none => s.login t .nobody
      | some user =>
        if s.checkPassword user password then (s.register gen now t user id).1
        else s.login t .nobody
  | "loginApplication", _ =>
    let loginToken := alnum (r.getParameter "loginToken")
    if loginToken = "" then s
    else
      match s.applicationUser users loginToken with
      | .ok (some user) => (s.register gen now t user Session.markAsApplicationSession).1
      | _ => s.login t .nobody
  | "logout", none => s.login t .nobody
  | "logout", some session =>
    { s.login t .nobody with manager := (s.manager.removeSession session.id).1 }
  | "setPassword", some _ =>
    match s.loggedIn t with
    | .user user =>
      if r.getParameter "password" = "" then s
      else
        { s with
          checkPassword := Function.update s.checkPassword user
            (users.afterSetPassword user (r.getParameter "password")) }
    | _ => s
  | "requestApplicationToken", none =>
    if r.getParameter "applicationName" = "" then s
    else
      { s.login t .system with
        manager := { s.manager with generated := s.manager.generated + 1 }
        tokens := (s.tokens.createApplicationToken (escapeHTML (r.getParameter "applicationName"))
          (gen.token s.manager.generated)).2 }
  | "enableToken", some session =>
    match s.loggedIn t with
    | .user user =>
      if session.isApplicationSession ∨ r.getParameter "applicationToken" = "" then s
      else
        { s.login t .system with tokens :=
            (s.tokens.enableToken (r.getParameter "applicationToken")
              (some (users.getName user))).2 }
    | _ => s
  | "revokeToken", some _ =>
    if r.getParameter "applicationToken" = "" then s
    else
      { s.login t .system with tokens :=
          (s.tokens.revokeToken (r.getParameter "applicationToken")).2 }
  | _, _ => s

def serve (session : Option Session) : Outcome U :=
  .served session (s.userOf session) (s.loggedIn t)

def dispatch (r : Request) (session : Option Session) : Server U T × Outcome U :=
  match r.toplevel with
  | .browse | .icons => (s, s.serve t session)
  | .getLatestLogs => (s, if session.isNone then .notLoggedIn else s.serve t session)
  | .websocket => (s, if session.isNone ∨ ¬ r.room then .refused else s.serve t session)
  | .json =>
    if r.handler ∉ handlers then (s, .refused)
    else if r.handler = "system" then (s.system gen users now t r session, s.serve t session)
    else (s, if session.isNone then .notLoggedIn else s.serve t session)

/-- `httpRequestCallback`, and `WebSocketConnectHandler` where a web socket is asked for. -/
def httpRequestCallback (r : Request) : Server U T × Outcome U :=
  let (s, session) := (s.login t .nobody).namedSession r
  match s.trustedSession gen users now t r session with
  | (s, none) => (s, .refused)
  | (s, some none) => s.dispatch gen users now t r none
  | (s, some (some session)) =>
    (s.enter now t session).dispatch gen users now t r (some (session.touch now))

end Server

end Code

/-! ## Cookies -/

section Cookies

variable {k : Char} {key l rest : List Char}

theorem behind_append (hl : k ∉ l) : behind (k :: key) (l ++ rest) = behind (k :: key) rest := by
  induction l with
  | nil => rfl
  | cons c cs ih =>
    have ⟨hne, hcs⟩ := not_or.mp (mt mem_cons.mpr hl)
    rw [cons_append, behind, if_neg fun hprefix => hne (cons_prefix_cons.mp hprefix).1, ih hcs]

/-- A key without the separator does not reach over it. -/
theorem isPrefix_append_iff (hkey : k ∉ key) (hrest : ∀ c ∈ rest.head?, c = k) :
    key <+: l ++ rest ↔ key <+: l := by
  refine ⟨fun h => ?_, fun h => h.trans (prefix_append l rest)⟩
  rcases prefix_or_prefix_of_prefix h (prefix_append l rest) with hshort | ⟨tail, rfl⟩
  · exact hshort
  · rw [prefix_append_right_inj] at h
    rcases tail with - | ⟨c, tail⟩
    · exact (append_nil l).symm ▸ prefix_rfl
    · obtain ⟨rest', rfl⟩ := h
      exact absurd (mem_append_right l (hrest c rfl ▸ mem_cons_self)) hkey

def cookieFields (fields : List (List Char)) : List Char :=
  fields.flatMap fun field => ';' :: ' ' :: field

theorem toList_cookie {fields : List String} (h : fields ≠ []) :
    ("; " ++ "; ".intercalate fields).toList = cookieFields (fields.map String.toList) := by
  induction fields with
  | nil => exact absurd rfl h
  | cons field fields ih =>
    cases fields with
    | nil => simp [cookieFields]
    | cons next fields =>
      rw [String.intercalate_cons_cons, map_cons, cookieFields, flatMap_cons, ← cookieFields,
        ← ih (cons_ne_nil _ _)]
      simp

theorem head?_cookieFields {fields : List (List Char)} :
    ∀ c ∈ (cookieFields fields).head?, c = ';' := by
  cases fields with
  | nil => exact fun _ hmem => absurd hmem (Option.not_mem_none _)
  | cons => exact fun _ hmem => (Option.some.inj hmem).symm

/-- The first field that begins with the key. -/
theorem behind_cookieFields {fields : List (List Char)} (hkey : ';' ∉ key)
    (h : ∀ field ∈ fields, ';' ∉ field) :
    (behind (';' :: ' ' :: key) (cookieFields fields)).map (·.takeWhile (· ≠ ';')) =
      (fields.find? fun field => key <+: field).map (·.drop key.length) := by
  induction fields with
  | nil => rfl
  | cons field fields ih =>
    have ⟨hfield, hfields⟩ := forall_mem_cons.mp h
    have hcookie : cookieFields (field :: fields) =
        ';' :: ' ' :: (field ++ cookieFields fields) := rfl
    have hiff : (';' :: ' ' :: key <+: ';' :: ' ' :: (field ++ cookieFields fields)) ↔
        key <+: field := by
      rw [cons_prefix_cons, cons_prefix_cons, and_iff_right rfl, and_iff_right rfl,
        isPrefix_append_iff hkey head?_cookieFields]
    rw [hcookie, behind, find?_cons]
    by_cases hfirst : key <+: field
    · have hlength : key.length ≤ field.length := hfirst.length_le
      have hdrop : ∀ c ∈ field.drop key.length, decide (c ≠ ';') = true := fun c hmem =>
        decide_eq_true fun heq => hfield (heq ▸ mem_of_mem_drop hmem)
      have hstop : (cookieFields fields).takeWhile (· ≠ ';') = [] := by
        rcases hrest : cookieFields fields with - | ⟨c, cs⟩
        · rfl
        · have hc := @head?_cookieFields fields c (by rw [hrest]; rfl)
          rw [hc]
          rfl
      rw [if_pos (hiff.mpr hfirst), decide_eq_true hfirst]
      simp only [length_cons, drop_succ_cons, Option.map_some, drop_append_of_le_length hlength]
      rw [takeWhile_append_of_pos hdrop, hstop, append_nil]
    · rw [if_neg (hiff.not.mpr hfirst), decide_eq_false hfirst]
      have hskip : ';' ∉ ' ' :: field := by
        rw [mem_cons]
        exact not_or.mpr ⟨by decide, hfield⟩
      rw [← cons_append, behind_append hskip]
      exact ih hfields

/-- **The token of a cookie.** Whatever other fields it has, it is what the first one that begins
with the name of the token says. -/
theorem extractToken_intercalate {fields : List String} (h : ∀ field ∈ fields, ';' ∉ field.toList) :
    extractToken (some ("; ".intercalate fields)) =
      (((fields.map String.toList).find? fun field => "token=".toList <+: field).map fun field =>
        String.ofList (field.drop 6)).getD "" := by
  rcases fields with - | ⟨field, fields⟩
  · rfl
  · have hbehind := @behind_cookieFields "token=".toList ((field :: fields).map String.toList)
      (by decide) (forall_mem_map.mpr h)
    rw [extractToken, Option.bind_some, toList_cookie (cons_ne_nil _ _)]
    have hkey : "; token=".toList = ';' :: ' ' :: "token=".toList := by decide
    rw [hkey]
    rcases hrest : behind (';' :: ' ' :: "token=".toList)
      (cookieFields ((field :: fields).map String.toList)) with - | rest
    · rw [hrest] at hbehind
      rw [Option.map_eq_none_iff.mp hbehind.symm]
      rfl
    · rw [hrest] at hbehind
      obtain ⟨found, hfound, hdrop⟩ := Option.map_eq_some_iff.mp hbehind.symm
      rw [hfound, Option.map_some, Option.getD_some, ← show "token=".toList.length = 6 from rfl,
        hdrop]

theorem extractToken_intercalate_two :
    extractToken (some ("; ".intercalate ["csrftoken=A", "token=1", "token=2"])) = "1" :=
  (extractToken_intercalate (by decide)).trans (by decide)

end Cookies

/-! ## Runs -/

/-- What happens to the server. -/
inductive Action (T : Type) : Type where
  | request : T → Request → ℤ → Action T
  | cleanupSessions : ℤ → Action T
  | cleanupOldestSession : Action T

/-- A user shows who he is: by his password, or over the trusted port. -/
inductive Authenticates (users : Users U) (s : Server U T) (r : Request) : U → Prop where
  | password {user : U} (hlogin : r.toplevel = .json ∧ r.handler = "system" ∧ r.method = "login")
      (huser : users.find (alnum (r.getParameter "user")) = some user)
      (hpassword : s.checkPassword user (r.getParameter "password")) :
      Authenticates users s r user
  | trusted {user : U} (htrusted : r.trusted)
      (huser : users.find (extractAuthenticatedUser r.authorization) = some user) :
      Authenticates users s r user

/-- The server, and what is known of the past. -/
structure World (U T : Type) : Type where
  server : Server U T
  /-- who has shown who he is -/
  authenticated : Set U

section Runs

variable [DecidableEq U] [DecidableEq T] (gen : SessionTokenGenerator) (users : Users U)

/-- One request, or one clean-up. -/
def World.step (w : World U T) : Action T → World U T × Outcome U
  | .request t r now =>
    ({ server := (w.server.httpRequestCallback gen users now t r).1
       authenticated := w.authenticated ∪ {user | Authenticates users w.server r user} },
      (w.server.httpRequestCallback gen users now t r).2)
  | .cleanupSessions now =>
    ({ w with server := { w.server with
        manager := (w.server.manager.cleanupSessions now).1 } }, .refused)
  | .cleanupOldestSession =>
    ({ w with server := { w.server with
        manager := w.server.manager.cleanupOldestSession.1 } }, .refused)

def Steps (a : Action T) (w w' : World U T) : Prop := (w.step gen users a).1 = w'

end Runs

/-! ## The users of tokens -/

/-- Whatever a node below holds as a user is vouched for. -/
inductive Vouched (P : String → Prop) : PropertyNode → Prop where
  | mk {node : PropertyNode} :
      (node.name = "user" → ∀ text, node.value = .string text → P text) →
      (∀ child ∈ node.children, Vouched P child) → Vouched P node

namespace Vouched

variable {P Q : String → Prop} {node child : PropertyNode} {name text : String}
  {f : PropertyNode → PropertyNode}

theorem own (h : Vouched P node) (hname : node.name = "user") (hvalue : node.value = .string text) :
    P text := by
  cases h with
  | mk hown _ => exact hown hname text hvalue

theorem descend (h : Vouched P node) (hmem : child ∈ node.children) : Vouched P child := by
  cases h with
  | mk _ hchildren => exact hchildren child hmem

theorem mono (hPQ : ∀ text, P text → Q text) (h : Vouched P node) : Vouched Q node := by
  induction h with
  | mk hown _ ih => exact ⟨fun hname text hvalue => hPQ text (hown hname text hvalue), ih⟩

theorem new {index : ℕ} : Vouched P { name := name, index := index } :=
  ⟨fun _ _ hvalue => PropertyValue.noConfusion hvalue, fun _ hmem => absurd hmem not_mem_nil⟩

theorem setStringValue (h : Vouched P node) (htext : node.name = "user" → P text) :
    Vouched P (node.setStringValue text) :=
  ⟨fun hname _ hvalue => PropertyValue.string.inj hvalue ▸ htext hname,
    fun _ hmem => h.descend hmem⟩

theorem withChildren (h : Vouched P node) {children : List PropertyNode}
    (hchildren : ∀ child ∈ children, Vouched P child) :
    Vouched P { node with children := children } :=
  ⟨fun hname _ hvalue => h.own hname hvalue, hchildren⟩

theorem append (h : Vouched P node) (hchild : Vouched P child) :
    Vouched P { node with children := node.children ++ [child] } := by
  refine h.withChildren fun child' hmem => ?_
  rcases mem_append.mp hmem with hmem | hmem
  · exact h.descend hmem
  · rw [mem_singleton.mp hmem]
    exact hchild

theorem modifyFirst {nodes : List PropertyNode} (hnodes : ∀ node ∈ nodes, Vouched P node)
    (hf : ∀ node, node.name = name → Vouched P node → Vouched P (f node)) :
    ∀ node ∈ PropertyNode.modifyFirst name f nodes, Vouched P node := by
  induction nodes with
  | nil => exact hnodes
  | cons node nodes ih =>
    have ⟨hnode, hrest⟩ := forall_mem_cons.mp hnodes
    rw [PropertyNode.modifyFirst]
    split_ifs with hnamed
    · have hname : node.name = name := by
        simp only [PropertyNode.isNamed, Bool.and_eq_true, beq_iff_eq] at hnamed
        exact hnamed.1
      exact forall_mem_cons.mpr ⟨hf node hname hnode, hrest⟩
    · exact forall_mem_cons.mpr ⟨hnode, ih hrest⟩

theorem createStringProperty (h : Vouched P node) (htext : name = "user" → P text) :
    Vouched P (node.createStringProperty name text) := by
  rw [PropertyNode.createStringProperty]
  split_ifs
  · exact h.withChildren (modifyFirst (fun _ hmem => h.descend hmem) fun node hname hnode =>
      hnode.setStringValue fun huser => htext (hname.symm.trans huser))
  · exact h.append ((new : Vouched P { name := name, index := node.nextIndex name }).setStringValue
      htext)

theorem createNamed (h : Vouched P node) : Vouched P (node.createNamed name) := by
  rw [PropertyNode.createNamed]
  split_ifs
  · exact h
  · exact h.append new

/-- A node that a path makes is new; the others were there. -/
theorem create (hf : ∀ node, Vouched P node → Vouched P (f node)) {parts : List String} :
    ∀ {node : PropertyNode}, Vouched P node → Vouched P (node.create f parts).1 := by
  induction parts with
  | nil => exact hf _
  | cons part parts ih =>
    intro node h
    rw [PropertyNode.create]
    by_cases hself : PropertyNode.isSelf (part :: parts) = true
    · rw [if_pos hself]
      exact hf node h
    · rw [if_neg hself]
      split
      · rename_i i child hfound
        obtain ⟨j, -, hchild⟩ := Option.bind_eq_some_iff.mp hfound
        obtain ⟨child', hget, heq⟩ := Option.map_eq_some_iff.mp hchild
        cases heq
        refine h.withChildren fun other hmem => ?_
        rcases mem_or_eq_of_mem_set hmem with hmem | rfl
        · exact h.descend hmem
        · exact ih (h.descend (mem_of_getElem? hget))
      · split_ifs with hempty
        · exact h
        · exact h.append (ih new)

theorem removeChild (h : Vouched P node) (place : List ℕ) : Vouched P (node.removeChild place) := by
  unfold PropertyNode.removeChild
  split
  · exact h.withChildren fun _ hmem => h.descend (mem_of_mem_eraseIdx hmem)
  · exact h

theorem walk {parts : List String} :
    ∀ {node : PropertyNode} {place : List ℕ}, Vouched P node →
      node.walk parts = some (place, child) → Vouched P child := by
  induction parts with
  | nil =>
    intro node place h hfound
    cases hfound
    exact h
  | cons part parts ih =>
    intro node place h hfound
    rw [PropertyNode.walk] at hfound
    split_ifs at hfound with hself
    · cases hfound
      exact h
    · split at hfound
      · cases hfound
      · split at hfound
        · cases hfound
        · rename_i first hfirst
          obtain ⟨found, hrest, heq⟩ := Option.map_eq_some_iff.mp hfound
          cases heq
          exact ih (h.descend (mem_of_getElem? hfirst)) hrest

/-- A token is enabled for a user who is vouched for. -/
theorem enableToken {tokens : TokenTree} (h : Vouched P tokens.enabled) (token : String)
    (huser : P (cString name)) : Vouched P (tokens.enableToken token (some name)).2.enabled := by
  have hstart : ∀ node, Vouched P node → Vouched P (TokenTree.startEnabled token node) :=
    fun node hnode => (hnode.createStringProperty fun h => absurd h (by decide)).createNamed
  rw [TokenTree.enableToken]
  split
  · exact h
  · dsimp only
    split
    · exact create hstart h
    · split
      · exact create hstart h
      · split
        · exact create hstart h
        · refine create (fun node hnode => ?_) h
          exact ((hnode.createStringProperty fun h => absurd h (by decide)).createStringProperty
            fun h => absurd h (by decide)).createStringProperty fun _ => huser

end Vouched

theorem enabled_createApplicationToken (tokens : TokenTree) (applicationName token : String) :
    (tokens.createApplicationToken applicationName token).2.enabled = tokens.enabled := by
  rw [TokenTree.createApplicationToken]
  split <;> rfl

theorem Vouched.revokeToken {P : String → Prop} {tokens : TokenTree}
    (h : Vouched P tokens.enabled) (token : String) :
    Vouched P (tokens.revokeToken token).2.enabled := by
  rw [TokenTree.revokeToken]
  split
  · exact h
  · exact h.removeChild _

/-! ## The invariant -/

/-- Who acts has shown who he is. -/
def Login.Shown (authenticated : Set U) (login : Login U) : Prop :=
  login = .nobody ∨ ∃ user ∈ authenticated, login = .user user

/-- Who acts has shown who he is; and a session acts for its own user. -/
def Outcome.Lawful (authenticated : Set U) : Outcome U → Prop
  | .refused | .notLoggedIn => True
  | .served none _ login => login.Shown authenticated
  | .served (some _) sessionUser login =>
    ∃ user ∈ authenticated, sessionUser = some user ∧ login = .user user

def Server.Has (s : Server U T) (session : Session) : Prop :=
  s.manager.sessions.find? session.id = some (some session)

/-- What is remembered of the past. -/
structure Past (U : Type) : Type where
  authenticated : Set U
  /-- the users that sessions had -/
  sessionUser : String → Option U
  /-- the sessions that have been there -/
  gone : Set String

/-- What holds of a server. The sessions that had a user have him still, and those that are gone
stay away. -/
structure Inv (gen : SessionTokenGenerator) (users : Users U) (past : Past U) (s : Server U T) :
    Prop where
  sessions : ∀ id session, s.manager.sessions.find? id = some (some session) →
    session.id = id ∧ ∃ user ∈ past.authenticated, s.sessionUser id = some user
  issued : ∀ id user, s.sessionUser id = some user →
    ∃ n < s.manager.generated, id = gen.token n
  kept : ∀ id user, past.sessionUser id = some user → s.sessionUser id = some user
  gone : ∀ id ∈ past.gone, (∃ n < s.manager.generated, id = gen.token n) ∧
    ∀ session, s.manager.sessions.find? id ≠ some (some session)
  tokens : Vouched (fun text => ∃ user ∈ past.authenticated, text = cString (users.getName user))
    s.tokens.enabled

/-- Nobody has logged in yet. The tokens that have been kept name users who have shown who they
are. -/
structure Start (users : Users U) (w : World U T) : Prop where
  sessions : w.server.manager.sessions = OrderedMap.empty
  sessionUser : w.server.sessionUser = fun _ => none
  tokens : Vouched (fun text => ∃ user ∈ w.authenticated, text = cString (users.getName user))
    w.server.tokens.enabled

section Steps

variable {gen : SessionTokenGenerator} {users : Users U} {past : Past U} {s s' : Server U T} {t : T}
  {r : Request} {now : ℤ} {user : U} {session : Option Session} {mark : Session → Session}
  {m : SessionManager}

namespace Inv

theorem mono {more : Set U} (h : Inv gen users past s)
    (hmore : past.authenticated ⊆ more) : Inv gen users ⟨more, past.sessionUser, past.gone⟩ s where
  sessions id session hfound :=
    have ⟨hid, user, huser, heq⟩ := h.sessions id session hfound
    ⟨hid, user, hmore huser, heq⟩
  issued := h.issued
  kept := h.kept
  gone := h.gone
  tokens := h.tokens.mono fun _ ⟨user, huser, heq⟩ => ⟨user, hmore huser, heq⟩

theorem withManager (h : Inv gen users past s)
    (hgenerated : s.manager.generated ≤ m.generated)
    (hsub : ∀ id session, m.sessions.find? id = some (some session) →
      s.manager.sessions.find? id = some (some session)) :
    Inv gen users past { s with manager := m } where
  sessions id session hfound := h.sessions id session (hsub id session hfound)
  issued id user huser :=
    have ⟨n, hn, hid⟩ := h.issued id user huser
    ⟨n, hn.trans_le hgenerated, hid⟩
  kept := h.kept
  gone id hid :=
    have ⟨⟨n, hn, htoken⟩, hnone⟩ := h.gone id hid
    ⟨⟨n, hn.trans_le hgenerated, htoken⟩, fun session hfound =>
      hnone session (hsub id session hfound)⟩
  tokens := h.tokens

theorem withTokens {tokens : TokenTree} (h : Inv gen users past s)
    (htokens : Vouched (fun text => ∃ user ∈ past.authenticated,
      text = cString (users.getName user)) tokens.enabled) :
    Inv gen users past { s with tokens := tokens } :=
  ⟨h.sessions, h.issued, h.kept, h.gone, htokens⟩

theorem start {w : World U T} (h : Start users w) :
    Inv gen users ⟨w.authenticated, fun _ => none, ∅⟩ w.server where
  sessions id session hfound := by
    rw [h.sessions] at hfound
    cases hfound
  issued id user huser := by
    rw [h.sessionUser] at huser
    cases huser
  kept _ _ hearlier := absurd hearlier (Option.some_ne_none _).symm
  gone _ hid := absurd hid (Set.notMem_empty _)
  tokens := h.tokens

/-- An enabled token names a user who has shown who he is. -/
theorem applicationUser {token : String} (h : Inv gen users past s)
    (happlication : s.applicationUser users token = .ok (some user)) :
    user ∈ past.authenticated := by
  unfold Server.applicationUser at happlication
  split at happlication
  · cases happlication
  · rename_i place pToken hfound
    split at happlication
    · cases happlication
    · rename_i pUserName hname
      have hvouched := (h.tokens.walk hfound).descend (mem_of_find?_eq_some hname)
      have hnamed := find?_some hname
      simp only [PropertyNode.isNamed, Bool.and_eq_true, beq_iff_eq] at hnamed
      unfold PropertyNode.getStringValue at happlication
      split at happlication
      · rename_i text hvalue
        obtain ⟨user', huser', rfl⟩ := hvouched.own hnamed.1 hvalue
        have heq : users.find (cString (users.getName user')) = some user :=
          Except.ok.inj happlication
        rw [users.find_getName] at heq
        rw [← Option.some.inj heq]
        exact huser'
      · cases happlication

theorem namedSession (h : Inv gen users past s) (heq : s.namedSession r = (s', session)) :
    Inv gen users past s' ∧ s'.checkPassword = s.checkPassword ∧ s'.loggedIn = s.loggedIn ∧
      ∀ named ∈ session, s'.Has named := by
  rw [Server.namedSession] at heq
  generalize (if extractToken r.cookie = "" then _ else _) = token at heq
  split_ifs at heq with hempty
  · cases heq
    exact ⟨h, rfl, rfl, fun _ hmem => absurd hmem (Option.not_mem_none _)⟩
  · rw [SessionManager.getSession] at heq
    rcases hfound : s.manager.sessions.find? token with - | found
    · rw [hfound] at heq
      cases heq
      refine ⟨h.withManager le_rfl fun id session hget => ?_, rfl, rfl,
        fun _ hmem => absurd hmem (Option.not_mem_none _)⟩
      dsimp only at hget
      rw [OrderedMap.find?_insert] at hget
      split_ifs at hget
      · cases hget
      · exact hget
    · rw [hfound] at heq
      cases heq
      refine ⟨h, rfl, rfl, fun named hmem => ?_⟩
      rw [Option.mem_def.mp hmem] at hfound
      rw [Server.Has, (h.sessions token named hfound).1]
      exact hfound

end Inv

variable [DecidableEq T]

/-- A new session is there and has its user, or there are too many. -/
theorem register_cases (gen : SessionTokenGenerator) (s : Server U T) (t : T) (now : ℤ) (user : U)
    (mark : Session → Session) (hmark : ∀ session, (mark session).id = session.id) :
    s.register gen now t user mark = (s.login t (.user user), none) ∨
      ∃ session, session.id = gen.token s.manager.generated ∧
        s.register gen now t user mark =
          ({ s.login t (.user user) with
              manager := { s.manager with
                sessions := s.manager.sessions.insert session.id (some session)
                generated := s.manager.generated + 1
                relayTarget := true }
              sessionUser := fun id => if id = session.id then some user else s.sessionUser id },
            some session) := by
  by_cases hfull : s.manager.maxSessionCount ≤ s.manager.sessions.size
  · left
    rw [Server.register, SessionManager.register, if_pos hfull]
    exact if_pos rfl
  · right
    refine ⟨mark (s.manager.createSession (gen.token s.manager.generated) now), hmark _, ?_⟩
    rw [Server.register, SessionManager.register, if_neg hfull]
    dsimp only
    rw [if_neg (by rw [hmark]; exact gen.ne_empty _)]
    simp only [SessionManager.getSession, OrderedMap.find?_insert, if_pos]

namespace Inv

theorem login (h : Inv gen users past s) (login : Login U) :
    Inv gen users past (s.login t login) :=
  ⟨h.sessions, h.issued, h.kept, h.gone, h.tokens⟩

theorem register (h : Inv gen users past s) (huser : user ∈ past.authenticated)
    (hmark : ∀ session, (mark session).id = session.id) :
    Inv gen users past (s.register gen now t user mark).1 := by
  rcases register_cases gen s t now user mark hmark with heq | ⟨session, hid, heq⟩
  · rw [heq]
    exact h.login _
  · -- the token is new
    have hnew : ∀ {id : String}, (∃ n < s.manager.generated, id = gen.token n) →
        id ≠ session.id := by
      rintro _ ⟨n, hn, rfl⟩ hsame
      exact hn.ne (gen.injective (hsame.trans hid))
    rw [heq]
    refine ⟨fun id session' hfound => ?_, fun id user' hhas => ?_, fun id user' hearlier => ?_,
      fun id hgone => ?_, h.tokens⟩
    · dsimp only at hfound ⊢
      rw [OrderedMap.find?_insert] at hfound
      split_ifs at hfound with hsame
      · rw [if_pos hsame]
        rw [← Option.some.inj (Option.some.inj hfound)]
        exact ⟨hsame.symm, user, huser, rfl⟩
      · rw [if_neg hsame]
        exact h.sessions id session' hfound
    · dsimp only at hhas ⊢
      split_ifs at hhas with hsame
      · exact ⟨_, Nat.lt_succ_self _, hsame.trans hid⟩
      · obtain ⟨n, hn, hid⟩ := h.issued id user' hhas
        exact ⟨n, Nat.lt_succ_of_lt hn, hid⟩
    · have hkept := h.kept id user' hearlier
      exact (if_neg (hnew (h.issued id user' hkept))).trans hkept
    · obtain ⟨hissued, hnone⟩ := h.gone id hgone
      have ⟨n, hn, htoken⟩ := hissued
      refine ⟨⟨n, Nat.lt_succ_of_lt hn, htoken⟩, fun session' hfound => hnone session' ?_⟩
      rw [← hfound]
      exact (OrderedMap.find?_insert.trans (if_neg (hnew hissued))).symm

theorem trustedSession {found : Option (Option Session)} (h : Inv gen users past s)
    (hnobody : s.loggedIn t = .nobody) (hsession : ∀ named ∈ session, s.Has named)
    (htrusted : r.trusted → ∀ user, users.find (extractAuthenticatedUser r.authorization) =
      some user → user ∈ past.authenticated)
    (heq : s.trustedSession gen users now t r session = (s', found)) :
    Inv gen users past s' ∧ (s'.loggedIn t).Shown past.authenticated ∧
      s'.checkPassword = s.checkPassword ∧
      ∀ session' ∈ found, ∀ named ∈ session', s'.Has named := by
  have hsame : ∀ session' ∈ some session, ∀ named ∈ session', s.Has named := by
    rintro _ ⟨⟩
    exact hsession
  have hnone : ∀ {s : Server U T}, ∀ session' ∈ (none : Option (Option Session)),
      ∀ named ∈ session', s.Has named := fun _ hmem => absurd hmem (Option.not_mem_none _)
  rw [Server.trustedSession] at heq
  by_cases hasked : (s.userOf session).isNone ∧ r.trusted
  · rw [if_pos hasked] at heq
    dsimp only at heq
    by_cases hname : extractAuthenticatedUser r.authorization = ""
    · rw [if_pos hname] at heq
      cases heq
      exact ⟨h, Or.inl hnobody, rfl, hsame⟩
    · rw [if_neg hname] at heq
      rcases hfind : users.find (extractAuthenticatedUser r.authorization) with - | user
      · rw [hfind] at heq
        cases heq
        exact ⟨h.login _, Or.inl (if_pos rfl), rfl, hnone⟩
      · have huser := htrusted hasked.2 user hfind
        have hshown : (if t = t then Login.user user else s.loggedIn t).Shown past.authenticated :=
          Or.inr ⟨user, huser, if_pos rfl⟩
        rw [hfind] at heq
        dsimp only at heq
        split_ifs at heq with hnew
        · have hregister : Inv gen users past (s.register gen now t user id).1 :=
            h.register huser fun _ => rfl
          rcases register_cases gen s t now user id fun _ => rfl with hcase | ⟨new, -, hcase⟩
          · rw [hcase] at heq hregister
            cases heq
            exact ⟨hregister, hshown, rfl, hnone⟩
          · rw [hcase] at heq hregister
            cases heq
            refine ⟨hregister, hshown, rfl, ?_⟩
            rintro _ ⟨⟩ _ ⟨⟩
            exact OrderedMap.find?_insert.trans (if_pos rfl)
        · cases heq
          exact ⟨h.login _, hshown, rfl, hsame⟩
  · rw [if_neg hasked] at heq
    cases heq
    exact ⟨h, Or.inl hnobody, rfl, hsame⟩

theorem enter (t : T) (now : ℤ) {named : Session} (h : Inv gen users past s)
    (hnamed : s.Has named) :
    Inv gen users past (s.enter now t named) ∧
      ∃ user ∈ past.authenticated,
        (s.enter now t named).userOf (some (named.touch now)) = some user ∧
          (s.enter now t named).loggedIn t = .user user := by
  obtain ⟨-, user, huser, heq⟩ := h.sessions _ _ hnamed
  refine ⟨⟨fun id session hfound => ?_, h.issued, h.kept, fun id hgone => ?_, h.tokens⟩, user,
    huser, heq, ?_⟩
  · rw [Server.enter, Server.login] at hfound
    dsimp only at hfound
    rw [OrderedMap.find?_insert] at hfound
    split_ifs at hfound with hsame
    · rw [← Option.some.inj (Option.some.inj hfound), hsame]
      exact ⟨rfl, user, huser, heq⟩
    · exact h.sessions id session hfound
  · obtain ⟨hissued, hnone⟩ := h.gone id hgone
    refine ⟨hissued, fun session hfound => hnone session ?_⟩
    rw [← hfound]
    exact (OrderedMap.find?_insert.trans (if_neg fun hsame =>
      hnone named ((congrArg s.manager.sessions.find? hsame).trans hnamed))).symm
  · simp [Server.enter, Server.login, heq]

variable [DecidableEq U]

theorem system (h : Inv gen users past s)
    (hshown : (s.loggedIn t).Shown past.authenticated)
    (hpassword : r.method = "login" → ∀ user, users.find (alnum (r.getParameter "user")) =
      some user → s.checkPassword user (r.getParameter "password") → user ∈ past.authenticated) :
    Inv gen users past (s.system gen users now t r session) := by
  unfold Server.system
  split
  · exact h.login _
  · exact h.login _
  · rename_i hmethod
    dsimp only
    split_ifs with hmissing
    · exact h
    · split
      · exact h.login _
      · rename_i user hfind
        split_ifs with hchecked
        · exact h.register (hpassword hmethod user hfind hchecked) fun _ => rfl
        · exact h.login _
  · dsimp only
    split_ifs with hmissing
    · exact h
    · split
      · rename_i user hfound
        exact h.register (h.applicationUser hfound) fun _ => rfl
      · exact h.login _
  · exact h.login _
  · rename_i session _
    refine (h.login .nobody).withManager ?_ fun id session' hfound => ?_
    · unfold SessionManager.removeSession
      split_ifs <;> exact le_rfl
    · unfold SessionManager.removeSession at hfound
      split_ifs at hfound
      · exact (Option.filter_eq_some_iff.mp (OrderedMap.find?_filter.symm.trans hfound)).1
      · exact hfound
  · split
    · split_ifs
      · exact h
      · exact ⟨h.sessions, h.issued, h.kept, h.gone, h.tokens⟩
    · exact h
  · dsimp only
    split_ifs
    · exact h
    · have hmanager := (h.login (t := t) .system).withManager
        (m := { s.manager with generated := s.manager.generated + 1 }) (Nat.le_succ _)
        fun _ _ => id
      refine hmanager.withTokens ?_
      rw [enabled_createApplicationToken]
      exact h.tokens
  · split
    · rename_i user huser
      split_ifs
      · exact h
      · refine (h.login .system).withTokens (h.tokens.enableToken _ ?_)
        rw [huser] at hshown
        rcases hshown with hnobody | ⟨user', huser', heq⟩
        · cases hnobody
        · cases heq
          exact ⟨user, huser', rfl⟩
    · exact h
  · dsimp only
    split_ifs
    · exact h
    · exact (h.login .system).withTokens (h.tokens.revokeToken _)
  · exact h

theorem dispatch (h : Inv gen users past s)
    (hshown : (s.loggedIn t).Shown past.authenticated)
    (hpassword : r.toplevel = .json ∧ r.handler = "system" ∧ r.method = "login" →
      ∀ user, users.find (alnum (r.getParameter "user")) = some user →
        s.checkPassword user (r.getParameter "password") → user ∈ past.authenticated)
    (hserve : (s.serve t session).Lawful past.authenticated) :
    Inv gen users past (s.dispatch gen users now t r session).1 ∧
      (s.dispatch gen users now t r session).2.Lawful past.authenticated := by
  have hlogged : (if session.isNone then .notLoggedIn else s.serve t session).Lawful
      past.authenticated := by
    split_ifs
    · exact trivial
    · exact hserve
  unfold Server.dispatch
  split
  · exact ⟨h, hserve⟩
  · exact ⟨h, hserve⟩
  · exact ⟨h, hlogged⟩
  · refine ⟨h, ?_⟩
    dsimp only
    split_ifs
    · exact trivial
    · exact hserve
  · rename_i hjson
    by_cases hmissing : r.handler ∉ handlers
    · rw [if_pos hmissing]
      exact ⟨h, trivial⟩
    · rw [if_neg hmissing]
      by_cases hsystem : r.handler = "system"
      · rw [if_pos hsystem]
        exact ⟨h.system hshown fun hmethod => hpassword ⟨hjson, hsystem, hmethod⟩, hserve⟩
      · rw [if_neg hsystem]
        exact ⟨h, hlogged⟩

theorem httpRequestCallback (h : Inv gen users past s)
    (hshown : ∀ user, Authenticates users s r user → user ∈ past.authenticated) :
    Inv gen users past (s.httpRequestCallback gen users now t r).1 ∧
      (s.httpRequestCallback gen users now t r).2.Lawful past.authenticated := by
  rcases hnamedSession : (s.login t .nobody).namedSession r with ⟨s₁, session⟩
  have ⟨hnamed, hcheckNamed, hloggedNamed, hhas⟩ := (h.login .nobody).namedSession hnamedSession
  have hnobody : s₁.loggedIn t = .nobody := (congrFun hloggedNamed t).trans (if_pos rfl)
  rcases htrustedSession : s₁.trustedSession gen users now t r session with ⟨s₂, found⟩
  have ⟨htrusted, hlogin, hcheck, hfound⟩ := hnamed.trustedSession hnobody hhas
    (fun htrusted user huser => hshown user (.trusted htrusted huser)) htrustedSession
  have hpassword : r.toplevel = .json ∧ r.handler = "system" ∧ r.method = "login" →
      ∀ user, users.find (alnum (r.getParameter "user")) = some user →
        s₂.checkPassword user (r.getParameter "password") → user ∈ past.authenticated := by
    rw [hcheck, hcheckNamed]
    exact fun hlogin user huser hchecked => hshown user (.password hlogin huser hchecked)
  unfold Server.httpRequestCallback
  simp only [hnamedSession, htrustedSession]
  rcases found with - | - | session
  · exact ⟨htrusted, trivial⟩
  · exact htrusted.dispatch hlogin hpassword hlogin
  · have ⟨henter, user, huser, huserOf, hlogged⟩ :=
      htrusted.enter t now (hfound _ rfl session rfl)
    exact henter.dispatch (Or.inr ⟨user, huser, hlogged⟩) hpassword ⟨user, huser, huserOf, hlogged⟩

variable {earlier : String → Option U} {gone : Set String}

theorem step {a : Action T} {w : World U T}
    (h : Inv gen users ⟨w.authenticated, earlier, gone⟩ w.server) :
    Inv gen users ⟨(w.step gen users a).1.authenticated, earlier, gone⟩
        (w.step gen users a).1.server ∧
      (w.step gen users a).2.Lawful (w.step gen users a).1.authenticated := by
  cases a with
  | request t r now =>
    exact (h.mono Set.subset_union_left).httpRequestCallback fun user hshown =>
      Set.mem_union_right _ hshown
  | cleanupSessions now =>
    refine ⟨h.withManager le_rfl fun id session hfound => ?_, trivial⟩
    exact (Option.filter_eq_some_iff.mp (OrderedMap.find?_filter.symm.trans hfound)).1
  | cleanupOldestSession =>
    refine ⟨h.withManager ?_ fun id session hfound => ?_, trivial⟩
    · rw [SessionManager.cleanupOldestSession_eq]
    · rw [SessionManager.find?_cleanupOldestSession] at hfound
      split_ifs at hfound
      exact (Option.filter_eq_some_iff.mp hfound).1

theorem run {as : List (Action T)} {w w' : World U T}
    (h : Inv gen users ⟨w.authenticated, earlier, gone⟩ w.server)
    (hrun : Transition.Run (Steps gen users) w as w') :
    Inv gen users ⟨w'.authenticated, earlier, gone⟩ w'.server :=
  @Transition.Run.invariant _ _ (Steps gen users) w w' as
    (fun w => Inv gen users ⟨w.authenticated, earlier, gone⟩ w.server) h
    (fun _ _ _ hinv hstep => hstep ▸ hinv.step.1) hrun

end Inv

end Steps

/-! ## The law -/

section Law

variable [DecidableEq U] [DecidableEq T] {gen : SessionTokenGenerator} {users : Users U}
  {as bs : List (Action T)} {w w' w'' : World U T}

/-- **Who acts.** Whatever requests were handled before, a request is handled for nobody or for a
user who has once given his password or come over the trusted port; and where it has a session, for
the user of that session. A token lets nobody in but for a user who was in before. -/
theorem request_acts_for_shown_user (hs : Start users w)
    (hrun : Transition.Run (Steps gen users) w as w') (a : Action T) :
    (w'.step gen users a).2.Lawful (w'.step gen users a).1.authenticated :=
  ((Inv.start hs).run hrun).step.2

def twoUsers : Users Bool where
  find name := if name = "admin" then some true else if name = "guest" then some false else none
  getName admin := if admin then "admin" else "guest"
  afterSetPassword _ _ := fun _ => false
  find_getName := by decide

def signedOut : World Bool Unit where
  server :=
    { manager := { sessions := OrderedMap.empty }
      sessionUser := fun _ => none
      tokens :=
        { pending := { name := "pending" }, enabled := { name := "enabled" }, users := none }
      checkPassword := fun admin password => password = if admin then "secret" else "welcome"
      loggedIn := fun _ => .nobody }
  authenticated := ∅

theorem signedOut_start : Start twoUsers signedOut :=
  ⟨rfl, rfl, fun hname => absurd hname (by decide), fun _ hmem => absurd hmem not_mem_nil⟩

def askLogin (user password : String) : Action Unit :=
  .request ()
    { toplevel := .json, cookie := none, authorization := none, trusted := false
      handler := "system", method := "login"
      getParameter := fun name => if name = "user" then user else
        if name = "password" then password else "" } 0

/-- With the cookie of the first session. -/
def askLogout : Action Unit :=
  .request ()
    { toplevel := .json, cookie := some "token=0", authorization := none, trusted := false
      handler := "system", method := "logout", getParameter := fun _ => "" } 1

/-- What an action leaves. -/
def after (w : World Bool Unit) (a : Action Unit) : World Bool Unit :=
  (w.step SessionWorld.countingTokens twoUsers a).1

/-- The guest has the first session and the administrator the second one. -/
def signedIn : World Bool Unit :=
  after (after signedOut (askLogin "guest" "welcome")) (askLogin "admin" "secret")

def signedOff : World Bool Unit := after signedIn askLogout

theorem run_signedIn : Transition.Run (Steps SessionWorld.countingTokens twoUsers) signedOut
    ([] ++ [askLogin "guest" "welcome"] ++ [askLogin "admin" "secret"]) signedIn :=
  .snoc (.snoc .nil rfl) rfl

/-- Two are logged in, and the guest logs out. -/
theorem request_acts_for_shown_user_logout :
    (signedIn.step SessionWorld.countingTokens twoUsers askLogout).2.Lawful
      signedOff.authenticated :=
  request_acts_for_shown_user signedOut_start run_signedIn askLogout

/-- **A session keeps its user.** It has one from the beginning, and whatever is done later it
acts for no other one: its token is not given out again. -/
theorem session_keeps_user (hs : Start users w) (hrun : Transition.Run (Steps gen users) w as w')
    (hrun' : Transition.Run (Steps gen users) w' bs w'') (id : String) :
    (∀ session, w'.server.manager.sessions.find? id = some (some session) →
      (w'.server.sessionUser id).isSome) ∧
      ∀ user, w'.server.sessionUser id = some user → w''.server.sessionUser id = some user := by
  have hinv := (Inv.start hs).run hrun
  refine ⟨fun session hfound => ?_, fun user huser => ?_⟩
  · obtain ⟨-, user, -, huser⟩ := hinv.sessions id session hfound
    exact Option.isSome_iff_exists.mpr ⟨user, huser⟩
  · have hnow : Inv gen users ⟨w'.authenticated, w'.server.sessionUser, ∅⟩ w'.server :=
      ⟨hinv.sessions, hinv.issued, fun _ _ hearlier => hearlier, hinv.gone, hinv.tokens⟩
    exact (hnow.run hrun').kept id user huser

/-- Both sessions keep their users when the guest logs out. -/
theorem session_keeps_user_logout :
    (signedIn.server.sessionUser "0" = some false ∧ signedIn.server.sessionUser "1" = some true) ∧
      signedOff.server.sessionUser "0" = some false ∧
        signedOff.server.sessionUser "1" = some true :=
  have hguest : signedIn.server.sessionUser "0" = some false := by decide
  have hadmin : signedIn.server.sessionUser "1" = some true := by decide
  have hrun : Transition.Run (Steps SessionWorld.countingTokens twoUsers) signedIn _ signedOff :=
    .snoc .nil rfl
  ⟨⟨hguest, hadmin⟩, (session_keeps_user signedOut_start run_signedIn hrun "0").2 false hguest,
    (session_keeps_user signedOut_start run_signedIn hrun "1").2 true hadmin⟩

/-- **A session that is gone stays away.** Once it has been logged out or cleaned up, no request
finds it by its token again. -/
theorem session_stays_gone (hs : Start users w) (hrun : Transition.Run (Steps gen users) w as w')
    (hrun' : Transition.Run (Steps gen users) w' bs w'') {id : String}
    (hwas : (w'.server.sessionUser id).isSome)
    (hgone : ∀ session, w'.server.manager.sessions.find? id ≠ some (some session)) :
    ∀ session, w''.server.manager.sessions.find? id ≠ some (some session) := by
  have hinv := (Inv.start hs).run hrun
  obtain ⟨user, huser⟩ := Option.isSome_iff_exists.mp hwas
  have hnow : Inv gen users ⟨w'.authenticated, fun _ => none, {id}⟩ w'.server :=
    ⟨hinv.sessions, hinv.issued, hinv.kept,
      fun _ hid => hid ▸ ⟨hinv.issued id user huser, hgone⟩, hinv.tokens⟩
  exact ((hnow.run hrun').gone id rfl).2

/-- The guest logs in again, and his old session stays gone. -/
theorem session_stays_gone_login :
    ¬ ∃ session, (after signedOff (askLogin "guest" "welcome")).server.manager.sessions.find? "0" =
      some (some session) :=
  fun ⟨session, hfound⟩ => session_stays_gone signedOut_start (run_signedIn.snoc rfl)
    (.snoc .nil rfl : Transition.Run _ signedOff _ _) (by decide) (fun _ h => by cases h) session
    hfound

end Law

end WebAccess

end Dss
