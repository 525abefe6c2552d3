import Dss.PropertyPath

/-!
# Application tokens

The tokens of `Security` in the property tree. What was written before an exception stays. The
strings passed in are spliced into property paths as they are.
-/

namespace Dss

/-- The nodes below the root of `Security`. The nodes `pending` and `enabled` are made
when they are first used; an empty one finds what a missing one does, but itself, and
nothing is read from it. -/
structure TokenTree : Type where
  /-- `applicationTokens/pending` -/
  pending : PropertyNode
  /-- `applicationTokens/enabled` -/
  enabled : PropertyNode
  users : Option PropertyNode
  /-- the tokens of the events `ApplicationTokenDeleted` -/
  deleted : List String := []

inductive TokenCall : Type where
  | createApplicationToken : String → String → TokenCall
  /-- `enableToken(token, user)`, with the name of the user -/
  | enableToken : String → Option String → TokenCall
  | revokeToken : String → TokenCall
  | authenticateApplication : String → TokenCall
  | getApplicationName : String → TokenCall
  deriving DecidableEq

/-- What an operation returns. -/
inductive TokenAnswer : Type where
  /-- nothing -/
  | done : TokenAnswer
  /-- whether it did it -/
  | flag : Bool → TokenAnswer
  | name : String → TokenAnswer
  deriving DecidableEq

namespace PropertyNode

/-- `createProperty(name)` of a single name: a child that is there stays. -/
def createNamed (node : PropertyNode) (name : String) : PropertyNode :=
  if (node.getPropertyByName name).isSome then node
  else { node with children := node.children ++
          [{ name := name, index := node.nextIndex name }] }

end PropertyNode

namespace TokenTree

/-- `getProperty("users/" + name)` -/
def userNode (t : TokenTree) (name : String) : Option PropertyNode :=
  t.users.bind fun users => (users.getProperty name).map Prod.snd

def fillPending (applicationName token : String) (pToken : PropertyNode) : PropertyNode :=
  (pToken.createStringProperty "token" (cString token)).createStringProperty
    "applicationName" (cString applicationName)

def createApplicationToken (t : TokenTree) (applicationName token : String) :
    Except Failure TokenAnswer × TokenTree :=
  match t.pending.getProperty token with
  | some _ => (.ok .done, t)
  | none =>
    let (pending, failure) := t.pending.createProperty token (fillPending applicationName token)
    (match failure with
      | some f => .error f
      | none => .ok .done,
      { t with pending := pending })

def startEnabled (token : String) (pRealToken : PropertyNode) : PropertyNode :=
  (pRealToken.createStringProperty "token" (cString token)).createNamed "applicationName"

def fillEnabled (token applicationName user : String) (pRealToken : PropertyNode) :
    PropertyNode :=
  ((pRealToken.createStringProperty "token" (cString token)).createStringProperty
    "applicationName" (cString applicationName)).createStringProperty "user" (cString user)

def enableToken (t : TokenTree) (token : String) (user : Option String) :
    Except Failure TokenAnswer × TokenTree :=
  match t.pending.getProperty token with
  | none => (.ok (.flag false), t)
  | some (place, pToken) =>
    let (enabled, failure) := t.enabled.createProperty token (startEnabled token)
    match failure with
    | some f => (.error f, { t with enabled := enabled })
    | none =>
      match pToken.getPropertyByName "applicationName" with
      | none => (.error .nullPointer, { t with enabled := enabled })
      | some pApplicationName =>
        match pApplicationName.getStringValue with
        | .error f => (.error f, { t with enabled := enabled })
        | .ok applicationName =>
          (.ok (.flag true),
            { t with
              enabled := (t.enabled.createProperty token
                (fillEnabled token applicationName (user.getD "dssadmin"))).1
              pending := t.pending.removeChild place })

def revokeToken (t : TokenTree) (token : String) : Except Failure TokenAnswer × TokenTree :=
  match t.enabled.getProperty token with
  | none => (.ok (.flag false), t)
  | some (place, _) =>
    (.ok (.flag true),
      { t with enabled := t.enabled.removeChild place, deleted := t.deleted ++ [token] })

/-- `authenticateApplication`; the constructor of `User` asserts that there is a role. -/
def authenticateApplication (t : TokenTree) (token : String) : Except Failure TokenAnswer :=
  match t.enabled.getProperty token with
  | none => .ok (.flag false)
  | some (_, pToken) =>
    match pToken.getPropertyByName "user" with
    | none => .ok (.flag false)
    | some pUserName =>
      match pUserName.getStringValue with
      | .error f => .error f
      | .ok name =>
        match t.userNode name with
        | none => .ok (.flag false)
        | some user =>
          if (user.getPropertyByName "role").isSome then .ok (.flag true)
          else .error .nullPointer

def getApplicationName (t : TokenTree) (token : String) : Except Failure TokenAnswer :=
  match t.enabled.getProperty token with
  | none => .ok (.name "")
  | some (_, pToken) =>
    match pToken.getPropertyByName "applicationName" with
    | none => .ok (.name "")
    | some pApplicationName => pApplicationName.getStringValue.map .name

def perform (t : TokenTree) : TokenCall → Except Failure TokenAnswer × TokenTree
  | .createApplicationToken applicationName token =>
    t.createApplicationToken applicationName token
  | .enableToken token user => t.enableToken token user
  | .revokeToken token => t.revokeToken token
  | .authenticateApplication token => (t.authenticateApplication token, t)
  | .getApplicationName token => (t.getApplicationName token, t)

end TokenTree

end Dss
