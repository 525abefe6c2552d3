import Dss.Security

/-!
# The life cycle of application tokens

The token tree against a register of tokens: a token is pending when it is created, enabled when it
is enabled as a pending token, and revoked when it is revoked as an enabled one. The two agree as
long as a string that is no plain name finds nothing when it is spliced into a path.
-/

namespace Dss

open List

structure TokenRegister : Type where
  pending : List String := []
  enabled : List (String × String) := []
  revoked : List String := []

namespace TokenRegister

def after (r : TokenRegister) : TokenCall → TokenRegister
  | .createApplicationToken _ token => { r with pending := r.pending ++ [token] }
  | .enableToken token user =>
    if token ∈ r.pending then
      { r with
          pending := r.pending.filter fun token' => token' ≠ token
          enabled := r.enabled ++ [(token, cString (user.getD "dssadmin"))] }
    else r
  | .revokeToken token =>
    if token ∈ r.enabled.map Prod.fst then
      { r with
          enabled := r.enabled.filter fun entry => entry.1 ≠ token
          revoked := r.revoked ++ [token] }
    else r
  | .authenticateApplication _ | .getApplicationName _ => r

def Acts (r : TokenRegister) : TokenCall → Prop
  | .createApplicationToken _ _ => True
  | .enableToken token _ => token ∈ r.pending
  | .revokeToken token => token ∈ r.enabled.map Prod.fst
  | .authenticateApplication _ | .getApplicationName _ => False

end TokenRegister

structure TokenWorld : Type where
  tree : TokenTree
  register : TokenRegister := {}
  created : List String := []

namespace TokenWorld

/-! ## Runs -/

def createdBy : TokenCall → List String
  | .createApplicationToken _ token => [token]
  | .enableToken _ _ | .revokeToken _ | .authenticateApplication _ | .getApplicationName _ => []

/-- One call; `none` is a null pointer. -/
def step (w : TokenWorld) (call : TokenCall) : Option TokenWorld :=
  match (w.tree.perform call).1 with
  | .error .nullPointer => none
  | _ => some { tree := (w.tree.perform call).2
                register := w.register.after call
                created := w.created ++ createdBy call }

/-- No token has been created. -/
def Start (w : TokenWorld) : Prop :=
  w.tree.pending.children = [] ∧ w.tree.enabled.children = [] ∧ w.register = {} ∧ w.created = []

def Allowed (token : String) : Prop :=
  '/' ∉ token.toList ∧ '[' ∉ token.toList ∧ ']' ∉ token.toList ∧ '+' ∉ token.toList

def Fresh (calls : List TokenCall) : Prop :=
  (calls.flatMap createdBy).Nodup ∧ ∀ token ∈ calls.flatMap createdBy, Allowed token

/-! ## The law -/

/-- What holds in a state: the tree agrees with the register, and each token created is
exactly one of pending, enabled and revoked. -/
structure Law (w : TokenWorld) : Prop where
  pending : w.tree.pending.childNames = w.register.pending
  enabled : w.tree.enabled.childNames = w.register.enabled.map Prod.fst
  exactlyOne : (w.tree.pending.childNames ++ w.tree.enabled.childNames ++
    w.register.revoked).Perm w.created
  nodup : w.created.Nodup

/-- What an operation returns and moves: enabling is true of the pending tokens, and moves
the token and no other; revoking is true of the enabled tokens, and removes the token and
no other; authenticating is true of the enabled tokens whose user exists. -/
def Does (w : TokenWorld) : TokenCall → Prop
  | .createApplicationToken _ _ | .getApplicationName _ => True
  | .enableToken token user =>
    ((w.tree.enableToken token user).1 = .ok (.flag true) ↔ token ∈ w.register.pending) ∧
      (token ∈ w.register.pending →
        (w.tree.enableToken token user).2.pending.children =
            w.tree.pending.children.filter (fun child => child.name ≠ token) ∧
          ∃ child, child.name = token ∧
            (w.tree.enableToken token user).2.enabled.children =
              w.tree.enabled.children ++ [child])
  | .revokeToken token =>
    ((w.tree.revokeToken token).1 = .ok (.flag true) ↔
        token ∈ w.register.enabled.map Prod.fst) ∧
      (token ∈ w.register.enabled.map Prod.fst →
        (w.tree.revokeToken token).2.pending = w.tree.pending ∧
          (w.tree.revokeToken token).2.enabled.children =
            w.tree.enabled.children.filter fun child => child.name ≠ token)
  | .authenticateApplication token =>
    w.tree.authenticateApplication token = .ok (.flag true) ↔
      ∃ user, (token, user) ∈ w.register.enabled ∧ (w.tree.userNode user).isSome

/-- What holds of an operation. -/
structure CallLaw (w : TokenWorld) (call : TokenCall) : Prop where
  noNull : (w.tree.perform call).1 ≠ .error .nullPointer
  does : w.Does call
  unchanged : ¬ w.register.Acts call → (w.tree.perform call).2 = w.tree

/-- The law holds before and behind each call, and each call does what it owes. -/
def LawfulRun : TokenWorld → List TokenCall → Prop
  | w, [] => Law w
  | w, call :: calls => Law w ∧ CallLaw w call ∧ ∀ w', w.step call = some w' → LawfulRun w' calls

def NamesUser (t : TokenTree) (pToken user : PropertyNode) : Prop :=
  ∃ pUserName name, pToken.getPropertyByName "user" = some pUserName ∧
    pUserName.value = .string name ∧ t.userNode name = some user

/-- A string that is passed in is a plain name, or finds nothing when it is spliced into
the path; and the users have a role. -/
def Plainly (t : TokenTree) : TokenCall → Prop
  | .createApplicationToken _ token => token ≠ "" ∧ '\x00' ∉ token.toList
  | .enableToken token _ => PropertyNode.Plain token ∨ t.pending.getProperty token = none
  | .revokeToken token => PropertyNode.Plain token ∨ t.enabled.getProperty token = none
  | .authenticateApplication token =>
    ∀ place pToken user, t.enabled.getProperty token = some (place, pToken) →
      NamesUser t pToken user →
        PropertyNode.Plain token ∧ (user.getPropertyByName "role").isSome
  | .getApplicationName _ => True

def PlainlyRun : TokenWorld → List TokenCall → Prop
  | _, [] => True
  | w, call :: calls =>
    Plainly w.tree call ∧ ∀ w', w.step call = some w' → PlainlyRun w' calls

/-! ## The invariant -/

structure Legal (token : String) : Prop where
  plain : PropertyNode.Plain token
  bracket : ']' ∉ token.toList
  plus : '+' ∉ token.toList
  nul : '\x00' ∉ token.toList

/-- What runs keep: the tokens are legal, and their nodes have what the code reads of them. -/
structure Inv (w : TokenWorld) : Prop extends Law w where
  legal : ∀ token ∈ w.created, Legal token
  pendingIndex : ∀ child ∈ w.tree.pending.children, child.index = 0
  enabledIndex : ∀ child ∈ w.tree.enabled.children, child.index = 0
  pendingName : ∀ child ∈ w.tree.pending.children,
    ∃ node text, child.getPropertyByName "applicationName" = some node ∧
      node.value = .string text
  enabledValue : ∀ child ∈ w.tree.enabled.children, child.value = .none
  enabledUser : ∀ child ∈ w.tree.enabled.children,
    ∃ node user, (child.name, user) ∈ w.register.enabled ∧
      child.getPropertyByName "user" = some node ∧ node.value = .string user

variable {w w' : TokenWorld} {call : TokenCall} {token applicationName user : String}
  {pToken child : PropertyNode} {place : List ℕ}

theorem Inv.start (h : Start w) : Inv w := by
  obtain ⟨hpending, henabled, hregister, hcreated⟩ := h
  constructor
  case toLaw =>
    constructor <;> simp [PropertyNode.childNames, hpending, henabled, hregister, hcreated]
  all_goals simp [hpending, henabled, hcreated]

theorem Law.nodup_names (h : Law w) :
    (w.tree.pending.childNames ++ w.tree.enabled.childNames ++ w.register.revoked).Nodup :=
  h.exactlyOne.nodup_iff.mpr h.nodup

theorem Inv.distinct_pending (h : Inv w) : w.tree.pending.Distinct :=
  ⟨(nodup_append.mp (nodup_append.mp h.nodup_names).1).1, h.pendingIndex⟩

theorem Inv.distinct_enabled (h : Inv w) : w.tree.enabled.Distinct :=
  ⟨(nodup_append.mp (nodup_append.mp h.nodup_names).1).2.1, h.enabledIndex⟩

theorem Inv.not_mem_enabled (h : Inv w) {name : String} (hname : name ∈ w.tree.pending.childNames) :
    name ∉ w.tree.enabled.childNames := fun hname' =>
  (nodup_append.mp (nodup_append.mp h.nodup_names).1).2.2 name hname name hname' rfl

theorem Inv.legal_pending (h : Inv w) (hname : token ∈ w.tree.pending.childNames) :
    Legal token :=
  h.legal token (h.exactlyOne.mem_iff.mp
    (mem_append_left _ (mem_append_left _ hname)))

theorem Inv.legal_enabled (h : Inv w) (hname : token ∈ w.tree.enabled.childNames) :
    Legal token :=
  h.legal token (h.exactlyOne.mem_iff.mp
    (mem_append_left _ (mem_append_right _ hname)))

theorem Inv.find_pending (h : Inv w) (hname : token ∈ w.tree.pending.childNames) :
    ∃ place child, w.tree.pending.getProperty token = some (place, child) := by
  rcases hfound : w.tree.pending.getProperty token with - | ⟨place, child⟩
  · exact absurd hname ((h.distinct_pending.getProperty_eq_none_iff
      (h.legal_pending hname).plain).mp hfound)
  · exact ⟨place, child, rfl⟩

theorem Inv.find_enabled (h : Inv w) (hname : token ∈ w.tree.enabled.childNames) :
    ∃ place child, w.tree.enabled.getProperty token = some (place, child) := by
  rcases hfound : w.tree.enabled.getProperty token with - | ⟨place, child⟩
  · exact absurd hname ((h.distinct_enabled.getProperty_eq_none_iff
      (h.legal_enabled hname).plain).mp hfound)
  · exact ⟨place, child, rfl⟩

/-! ## What the operations write -/

theorem fillPending_eq (name : String) :
    TokenTree.fillPending applicationName token { name := name } =
      { name := name
        children := [{ name := "token", value := .string (cString token) },
          { name := "applicationName", value := .string (cString applicationName) }] } := by
  simp [TokenTree.fillPending, PropertyNode.createStringProperty,
    PropertyNode.getPropertyByName, PropertyNode.isNamed, PropertyNode.nextIndex]

theorem fillEnabled_eq (name : String) :
    TokenTree.fillEnabled token applicationName user { name := name } =
      { name := name
        children := [{ name := "token", value := .string (cString token) },
          { name := "applicationName", value := .string (cString applicationName) },
          { name := "user", value := .string (cString user) }] } := by
  simp [TokenTree.fillEnabled, PropertyNode.createStringProperty,
    PropertyNode.getPropertyByName, PropertyNode.isNamed, PropertyNode.nextIndex]

theorem exists_text_createStringProperty (node : PropertyNode) (name text : String) :
    ∃ child ∈ (node.createStringProperty name text).children, child.value = .string text := by
  rw [PropertyNode.createStringProperty]
  split_ifs with hsome
  · obtain ⟨child, hchild⟩ := Option.isSome_iff_exists.mp hsome
    have hkeeps : PropertyNode.KeepsName (·.setStringValue text) :=
      PropertyNode.keepsName_setStringValue
    have hfind : (node.modifyByName name (·.setStringValue text)).getPropertyByName name = _ :=
      PropertyNode.getPropertyByName_modifyByName_self hkeeps
    rw [hchild] at hfind
    exact ⟨child.setStringValue text, mem_of_find?_eq_some hfind, rfl⟩
  · exact ⟨_, mem_append_right _ (mem_singleton_self _), rfl⟩

theorem mem_createNamed {node : PropertyNode} {name : String} (h : child ∈ node.children) :
    child ∈ (node.createNamed name).children := by
  rw [PropertyNode.createNamed]
  split_ifs
  · exact h
  · exact mem_append_left _ h

theorem Inv.ne_of_text (h : Inv w) {node : PropertyNode} {text : String}
    (htext : ∃ child ∈ node.children, child.value = .string text) : node ≠ w.tree.enabled := by
  rintro rfl
  obtain ⟨child, hmem, hvalue⟩ := htext
  rw [h.enabledValue child hmem] at hvalue
  cases hvalue

/-- Whatever is found among the pending tokens, something is written for it among the
enabled ones. -/
theorem Inv.createProperty_ne (h : Inv w) {f : PropertyNode → PropertyNode}
    (hfound : w.tree.pending.getProperty token = some (place, pToken))
    (hf : ∃ text, ∃ child ∈ (f w.tree.enabled).children, child.value = .string text) :
    (w.tree.enabled.createProperty token f).1 ≠ w.tree.enabled := by
  obtain ⟨text, htext⟩ := hf
  refine PropertyNode.createProperty_ne hfound (fun name hname => ?_)
    (fun name hname => h.not_mem_enabled hname) (h.ne_of_text htext)
  have hlegal := h.legal_pending hname
  exact ⟨hlegal.plain.1, hlegal.bracket, hlegal.plus⟩

theorem Inv.enableToken_ne (h : Inv w) {user : Option String}
    (hfound : w.tree.pending.getProperty token = some (place, pToken)) :
    (w.tree.enableToken token user).2 ≠ w.tree := by
  have hstart : (w.tree.enabled.createProperty token (TokenTree.startEnabled token)).1 ≠
      w.tree.enabled := by
    obtain ⟨child, hmem, hvalue⟩ :=
      exists_text_createStringProperty w.tree.enabled "token" (cString token)
    exact h.createProperty_ne hfound ⟨_, child, mem_createNamed hmem, hvalue⟩
  have hfill : ∀ applicationName user, (w.tree.enabled.createProperty token
      (TokenTree.fillEnabled token applicationName user)).1 ≠ w.tree.enabled :=
    fun applicationName user => h.createProperty_ne hfound
      ⟨_, exists_text_createStringProperty _ "user" (cString user)⟩
  intro heq
  have henabled := congrArg TokenTree.enabled heq
  rw [TokenTree.enableToken, hfound] at henabled
  dsimp only at henabled
  split at henabled
  · exact hstart henabled
  · split at henabled
    · exact hstart henabled
    · split at henabled
      · exact hstart henabled
      · exact hfill _ _ henabled

theorem getStringValue_eq_ok {node : PropertyNode} {text : String}
    (h : node.value = .string text) : node.getStringValue = .ok text := by
  rw [PropertyNode.getStringValue, h]

theorem Inv.enableToken_eq (h : Inv w) (hmem : token ∈ w.register.pending)
    (user : Option String) : ∃ applicationName pending,
      pending.children = w.tree.pending.children.filter (fun child => child.name ≠ token) ∧
      w.tree.enableToken token user = (.ok (.flag true),
        { w.tree with
            pending := pending
            enabled := { w.tree.enabled with
              children := w.tree.enabled.children ++
                [TokenTree.fillEnabled token applicationName (user.getD "dssadmin")
                  { name := token }] } }) := by
  rw [← h.pending] at hmem
  have hlegal := h.legal_pending hmem
  obtain ⟨place, pToken, hfound⟩ := h.find_pending hmem
  obtain ⟨hchild, -, hremoved⟩ :=
    h.distinct_pending.of_getProperty_eq_some hlegal.plain hfound
  obtain ⟨node, text, hnode, htext⟩ := h.pendingName pToken hchild
  have hcreate : ∀ f, w.tree.enabled.createProperty token f =
      ({ w.tree.enabled with children := w.tree.enabled.children ++ [f { name := token }] },
        none) := fun f =>
    PropertyNode.createProperty_of_plain_of_not_mem hlegal.plain hlegal.plus hlegal.nul
      (h.not_mem_enabled hmem)
  refine ⟨text, w.tree.pending.removeChild place, hremoved, ?_⟩
  simp only [TokenTree.enableToken, hfound, hcreate, hnode, getStringValue_eq_ok htext]

theorem Inv.revokeToken_eq (h : Inv w) (hmem : token ∈ w.register.enabled.map Prod.fst) :
    ∃ enabled,
      enabled.children = w.tree.enabled.children.filter (fun child => child.name ≠ token) ∧
      w.tree.revokeToken token = (.ok (.flag true),
        { w.tree with enabled := enabled, deleted := w.tree.deleted ++ [token] }) := by
  rw [← h.enabled] at hmem
  obtain ⟨place, pToken, hfound⟩ := h.find_enabled hmem
  obtain ⟨-, -, hremoved⟩ :=
    h.distinct_enabled.of_getProperty_eq_some (h.legal_enabled hmem).plain hfound
  refine ⟨w.tree.enabled.removeChild place, hremoved, ?_⟩
  simp only [TokenTree.revokeToken, hfound]

theorem Inv.createApplicationToken_eq (h : Inv w) (hlegal : Legal token)
    (hnew : token ∉ w.created) :
    w.tree.createApplicationToken applicationName token = (.ok .done,
      { w.tree with pending := { w.tree.pending with
          children := w.tree.pending.children ++
            [TokenTree.fillPending applicationName token { name := token }] } }) := by
  have hname : token ∉ w.tree.pending.childNames := fun hmem =>
    hnew (h.exactlyOne.mem_iff.mp (mem_append_left _ (mem_append_left _ hmem)))
  have hfound := (h.distinct_pending.getProperty_eq_none_iff hlegal.plain).mpr hname
  simp only [TokenTree.createApplicationToken, hfound,
    PropertyNode.createProperty_of_plain_of_not_mem hlegal.plain hlegal.plus hlegal.nul hname]

/-! ## Steps -/

theorem perm_cons_filter {names : List String} (hnodup : names.Nodup) (hmem : token ∈ names) :
    names.Perm (token :: names.filter fun name => name ≠ token) := by
  have hne : (fun name => decide (name ≠ token)) = fun name => name != token := by
    funext name
    by_cases hname : name = token <;> simp [hname]
  rw [hne, ← hnodup.erase_eq_filter]
  exact perm_cons_erase hmem

theorem childNames_filter (node : PropertyNode) (children : List PropertyNode)
    (h : node.children = children.filter fun child => child.name ≠ token) :
    node.childNames = (children.map PropertyNode.name).filter fun name => name ≠ token := by
  rw [PropertyNode.childNames, h, KeyedList.map_filter_ne]

theorem Inv.create (h : Inv w) (hlegal : Legal token) (hnew : token ∉ w.created) :
    Inv { tree := (w.tree.createApplicationToken applicationName token).2
          register := w.register.after (.createApplicationToken applicationName token)
          created := w.created ++ [token] } := by
  rw [h.createApplicationToken_eq hlegal hnew]
  have hname : (TokenTree.fillPending applicationName token { name := token }).name = token := by
    rw [fillPending_eq]
  refine ⟨⟨?_, h.enabled, ?_, ?_⟩, ?_, ?_, h.enabledIndex, ?_, h.enabledValue, h.enabledUser⟩
  · simp only [PropertyNode.childNames, map_append, map_cons, map_nil, hname]
    exact congrArg (· ++ [token]) h.pending
  · refine List.Perm.trans ?_ (h.exactlyOne.append_right [token])
    simp only [PropertyNode.childNames, map_append, map_cons, map_nil, hname]
    rw [perm_iff_count]
    simp only [TokenRegister.after, count_append]
    omega
  · exact nodup_append.mpr ⟨h.nodup, nodup_singleton _, fun a ha b hb heq =>
      hnew (mem_singleton.mp hb ▸ heq ▸ ha)⟩
  · intro token' hmem
    rcases mem_append.mp hmem with hmem | hmem
    · exact h.legal token' hmem
    · exact mem_singleton.mp hmem ▸ hlegal
  · intro child hmem
    rcases mem_append.mp hmem with hmem | hmem
    · exact h.pendingIndex child hmem
    · rw [mem_singleton.mp hmem, fillPending_eq]
  · intro child hmem
    rcases mem_append.mp hmem with hmem | hmem
    · exact h.pendingName child hmem
    · rw [mem_singleton.mp hmem, fillPending_eq]
      exact ⟨{ name := "applicationName", value := .string (cString applicationName) },
        cString applicationName, by
          simp [PropertyNode.getPropertyByName, PropertyNode.isNamed], rfl⟩

theorem Inv.enable (h : Inv w) (hmem : token ∈ w.register.pending) (user : Option String) :
    Inv { tree := (w.tree.enableToken token user).2
          register := w.register.after (.enableToken token user)
          created := w.created } := by
  obtain ⟨applicationName, pending, hpending, heq⟩ := h.enableToken_eq hmem user
  have hnames := childNames_filter pending _ hpending
  have hafter : w.register.after (.enableToken token user) = { w.register with
      pending := w.register.pending.filter fun token' => token' ≠ token
      enabled := w.register.enabled ++ [(token, cString (user.getD "dssadmin"))] } := if_pos hmem
  have hname : (TokenTree.fillEnabled token applicationName (user.getD "dssadmin")
      { name := token }).name = token := by
    rw [fillEnabled_eq]
  rw [heq, hafter]
  refine ⟨⟨?_, ?_, ?_, h.nodup⟩, h.legal, ?_, ?_, ?_, ?_, ?_⟩
  · rw [← h.pending]
    exact hnames
  · simp only [PropertyNode.childNames, map_append, map_cons, map_nil, hname]
    exact congrArg (· ++ [token]) h.enabled
  · have hperm := perm_cons_filter h.distinct_pending.nodup (h.pending ▸ hmem)
    refine List.Perm.trans ?_ h.exactlyOne
    rw [perm_iff_count]
    intro name
    have hcount := hperm.count_eq name
    have hcount' : pending.childNames.count name =
        (w.tree.pending.childNames.filter fun name => name ≠ token).count name := by
      rw [hnames]
      rfl
    simp only [PropertyNode.childNames, map_append, map_cons, map_nil, hname,
      count_append, count_cons, count_nil] at hcount hcount' ⊢
    omega
  · intro child hchild
    rw [hpending] at hchild
    exact h.pendingIndex child (mem_filter.mp hchild).1
  · intro child hchild
    rcases mem_append.mp hchild with hchild | hchild
    · exact h.enabledIndex child hchild
    · rw [mem_singleton.mp hchild, fillEnabled_eq]
  · intro child hchild
    rw [hpending] at hchild
    exact h.pendingName child (mem_filter.mp hchild).1
  · intro child hchild
    rcases mem_append.mp hchild with hchild | hchild
    · exact h.enabledValue child hchild
    · rw [mem_singleton.mp hchild, fillEnabled_eq]
  · intro child hchild
    rcases mem_append.mp hchild with hchild | hchild
    · obtain ⟨node, user', hentry, hnode, hvalue⟩ := h.enabledUser child hchild
      exact ⟨node, user', mem_append_left _ hentry, hnode, hvalue⟩
    · rw [mem_singleton.mp hchild, fillEnabled_eq]
      exact ⟨{ name := "user", value := .string (cString (user.getD "dssadmin")) }, _,
        mem_append_right _ (mem_singleton_self _), by
          simp [PropertyNode.getPropertyByName, PropertyNode.isNamed], rfl⟩

theorem Inv.revoke (h : Inv w) (hmem : token ∈ w.register.enabled.map Prod.fst) :
    Inv { tree := (w.tree.revokeToken token).2
          register := w.register.after (.revokeToken token)
          created := w.created } := by
  obtain ⟨enabled, henabled, heq⟩ := h.revokeToken_eq hmem
  have hnames := childNames_filter enabled _ henabled
  have hafter : w.register.after (.revokeToken token) = { w.register with
      enabled := w.register.enabled.filter fun entry => entry.1 ≠ token
      revoked := w.register.revoked ++ [token] } := if_pos hmem
  rw [heq, hafter]
  refine ⟨⟨h.pending, ?_, ?_, h.nodup⟩, h.legal, h.pendingIndex, ?_, h.pendingName, ?_, ?_⟩
  · have hmap := congrArg (filter fun name => name ≠ token) h.enabled
    rw [filter_map] at hmap
    exact hnames.trans hmap
  · have hperm := perm_cons_filter h.distinct_enabled.nodup (h.enabled ▸ hmem)
    refine List.Perm.trans ?_ h.exactlyOne
    rw [perm_iff_count]
    intro name
    have hcount := hperm.count_eq name
    have hcount' : enabled.childNames.count name =
        (w.tree.enabled.childNames.filter fun name => name ≠ token).count name := by
      rw [hnames]
      rfl
    simp only [count_append, count_cons, count_nil] at hcount hcount' ⊢
    omega
  · intro child hchild
    rw [henabled] at hchild
    exact h.enabledIndex child (mem_filter.mp hchild).1
  · intro child hchild
    rw [henabled] at hchild
    exact h.enabledValue child (mem_filter.mp hchild).1
  · intro child hchild
    rw [henabled] at hchild
    obtain ⟨hchild, hne⟩ := mem_filter.mp hchild
    obtain ⟨node, user, hentry, hnode, hvalue⟩ := h.enabledUser child hchild
    exact ⟨node, user, mem_filter.mpr ⟨hentry, hne⟩, hnode, hvalue⟩

/-! ## The law of an operation -/

theorem ok_ne_null {answer : TokenAnswer} :
    (.ok answer : Except Failure TokenAnswer) ≠ .error .nullPointer := by
  intro h
  cases h

theorem step_eq_some (h : (w.tree.perform call).1 ≠ .error .nullPointer) :
    w.step call = some { tree := (w.tree.perform call).2
                         register := w.register.after call
                         created := w.created ++ createdBy call } := by
  rw [step]
  split
  · exact absurd ‹_› h
  · rfl

theorem eq_of_step (hs : w.step call = some w') :
    w' = { tree := (w.tree.perform call).2
           register := w.register.after call
           created := w.created ++ createdBy call } := by
  rw [step] at hs
  split at hs
  · cases hs
  · exact (Option.some.inj hs).symm

theorem Inv.enableToken_of_not_mem (h : Inv w) {user : Option String}
    (hp : Plainly w.tree (.enableToken token user)) (hmem : token ∉ w.register.pending) :
    w.tree.enableToken token user = (.ok (.flag false), w.tree) := by
  have hnone : w.tree.pending.getProperty token = none := by
    rcases hp with hplain | hnone
    · exact (h.distinct_pending.getProperty_eq_none_iff hplain).mpr (h.pending ▸ hmem)
    · exact hnone
  rw [TokenTree.enableToken, hnone]

theorem Inv.revokeToken_of_not_mem (h : Inv w) (hp : Plainly w.tree (.revokeToken token))
    (hmem : token ∉ w.register.enabled.map Prod.fst) :
    w.tree.revokeToken token = (.ok (.flag false), w.tree) := by
  have hnone : w.tree.enabled.getProperty token = none := by
    rcases hp with hplain | hnone
    · exact (h.distinct_enabled.getProperty_eq_none_iff hplain).mpr (h.enabled ▸ hmem)
    · exact hnone
  rw [TokenTree.revokeToken, hnone]

theorem authenticateApplication_of_namesUser {t : TokenTree} {user : PropertyNode}
    (hfound : t.enabled.getProperty token = some (place, pToken))
    (huser : NamesUser t pToken user) :
    t.authenticateApplication token =
      if (user.getPropertyByName "role").isSome then .ok (.flag true)
      else .error .nullPointer := by
  obtain ⟨node, name, hnode, hvalue, huser⟩ := huser
  simp only [TokenTree.authenticateApplication, hfound, hnode, getStringValue_eq_ok hvalue, huser]

theorem authenticateApplication_of_not_namesUser {t : TokenTree}
    (h : ∀ place pToken user, t.enabled.getProperty token = some (place, pToken) →
      ¬ NamesUser t pToken user) :
    t.authenticateApplication token ≠ .ok (.flag true) ∧
      t.authenticateApplication token ≠ .error .nullPointer := by
  rw [TokenTree.authenticateApplication]
  split
  · exact ⟨by simp, by simp⟩
  · rename_i place pToken hfound
    split
    · exact ⟨by simp, by simp⟩
    · rename_i node hnode
      split
      · rename_i f hf
        rw [PropertyNode.getStringValue_eq_error hf]
        exact ⟨by simp, by simp [PropertyNode.mismatch]⟩
      · rename_i name hname
        split
        · exact ⟨by simp, by simp⟩
        · rename_i user huser
          refine absurd ⟨node, name, hnode, ?_, huser⟩ (h place pToken user hfound)
          rw [PropertyNode.getStringValue] at hname
          split at hname
          · rename_i text hvalue
            exact hvalue.trans (congrArg _ (Except.ok.inj hname))
          · cases hname

theorem Inv.namesUser_iff (h : Inv w) (hplain : PropertyNode.Plain token)
    (hfound : w.tree.enabled.getProperty token = some (place, pToken)) (node : PropertyNode) :
    NamesUser w.tree pToken node ↔
      ∃ user, (token, user) ∈ w.register.enabled ∧ w.tree.userNode user = some node := by
  obtain ⟨hmem, hname, -⟩ := h.distinct_enabled.of_getProperty_eq_some hplain hfound
  obtain ⟨pUserName, user, hentry, hnode, hvalue⟩ := h.enabledUser pToken hmem
  rw [hname] at hentry
  constructor
  · rintro ⟨pUserName', user', hnode', hvalue', huser⟩
    obtain rfl := Option.some.inj (hnode.symm.trans hnode')
    obtain rfl := PropertyValue.string.inj (hvalue.symm.trans hvalue')
    exact ⟨user, hentry, huser⟩
  · rintro ⟨user', hentry', huser⟩
    have hnodup : (w.register.enabled.map Prod.fst).Nodup := by
      rw [← h.enabled]
      exact h.distinct_enabled.nodup
    have hsame := inj_on_of_nodup_map hnodup hentry hentry' rfl
    rw [← (Prod.mk.inj hsame).2] at huser
    exact ⟨pUserName, user, hnode, hvalue, huser⟩

theorem Inv.authenticate_iff (h : Inv w) (hp : Plainly w.tree (.authenticateApplication token)) :
    w.tree.authenticateApplication token = .ok (.flag true) ↔
      ∃ user, (token, user) ∈ w.register.enabled ∧ (w.tree.userNode user).isSome := by
  constructor
  · intro htrue
    by_contra hnot
    refine (authenticateApplication_of_not_namesUser ?_).1 htrue
    intro place pToken node hfound hnames
    have hplain := (hp place pToken node hfound hnames).1
    obtain ⟨user, hentry, huser⟩ := (h.namesUser_iff hplain hfound node).mp hnames
    exact hnot ⟨user, hentry, by rw [huser]; rfl⟩
  · rintro ⟨user, hentry, huser⟩
    obtain ⟨node, huser⟩ := Option.isSome_iff_exists.mp huser
    have hmem : token ∈ w.tree.enabled.childNames := by
      rw [h.enabled]
      exact mem_map_of_mem hentry
    obtain ⟨place, pToken, hfound⟩ := h.find_enabled hmem
    have hnames := (h.namesUser_iff (h.legal_enabled hmem).plain hfound node).mpr
      ⟨user, hentry, huser⟩
    rw [authenticateApplication_of_namesUser hfound hnames,
      if_pos (hp place pToken node hfound hnames).2]

theorem Inv.callLaw_enableToken (h : Inv w) {user : Option String}
    (hp : Plainly w.tree (.enableToken token user)) : CallLaw w (.enableToken token user) := by
  by_cases hmem : token ∈ w.register.pending
  · obtain ⟨name, pending, hpending, heq⟩ := h.enableToken_eq hmem user
    have hlaw : w.Does (.enableToken token user) := by
      rw [Does, heq]
      refine ⟨iff_of_true rfl hmem, fun _ => ⟨hpending, _, ?_, rfl⟩⟩
      rw [fillEnabled_eq]
    refine ⟨?_, hlaw, fun hacts => absurd hmem hacts⟩
    rw [TokenTree.perform, heq]
    exact ok_ne_null
  · have heq := h.enableToken_of_not_mem hp hmem
    refine ⟨?_, ?_, fun _ => ?_⟩
    · rw [TokenTree.perform, heq]
      exact ok_ne_null
    · rw [Does, heq]
      exact ⟨iff_of_false (by simp) hmem, fun hmem' => absurd hmem' hmem⟩
    · rw [TokenTree.perform, heq]

theorem Inv.callLaw_revokeToken (h : Inv w) (hp : Plainly w.tree (.revokeToken token)) :
    CallLaw w (.revokeToken token) := by
  by_cases hmem : token ∈ w.register.enabled.map Prod.fst
  · obtain ⟨enabled, henabled, heq⟩ := h.revokeToken_eq hmem
    have hlaw : w.Does (.revokeToken token) := by
      rw [Does, heq]
      exact ⟨iff_of_true rfl hmem, fun _ => ⟨rfl, henabled⟩⟩
    refine ⟨?_, hlaw, fun hacts => absurd hmem hacts⟩
    rw [TokenTree.perform, heq]
    exact ok_ne_null
  · have heq := h.revokeToken_of_not_mem hp hmem
    refine ⟨?_, ?_, fun _ => ?_⟩
    · rw [TokenTree.perform, heq]
      exact ok_ne_null
    · rw [Does, heq]
      exact ⟨iff_of_false (by simp) hmem, fun hmem' => absurd hmem' hmem⟩
    · rw [TokenTree.perform, heq]

theorem Inv.callLaw_authenticateApplication (h : Inv w)
    (hp : Plainly w.tree (.authenticateApplication token)) :
    CallLaw w (.authenticateApplication token) := by
  refine ⟨fun hnull => ?_, h.authenticate_iff hp, fun _ => rfl⟩
  refine (authenticateApplication_of_not_namesUser ?_).2 hnull
  intro place pToken user hfound hnames
  rw [TokenTree.perform, authenticateApplication_of_namesUser hfound hnames,
    if_pos (hp place pToken user hfound hnames).2] at hnull
  cases hnull

theorem callLaw_getApplicationName : CallLaw w (.getApplicationName token) := by
  refine ⟨?_, trivial, fun _ => rfl⟩
  simp only [TokenTree.perform, TokenTree.getApplicationName]
  split
  · exact ok_ne_null
  · split
    · exact ok_ne_null
    · rename_i node hnode
      rcases hvalue : node.getStringValue with f | text
      · rw [PropertyNode.getStringValue_eq_error hvalue]
        exact fun hcrash => Failure.noConfusion (Except.error.inj hcrash)
      · exact ok_ne_null

theorem Inv.callLaw (h : Inv w) (hp : Plainly w.tree call)
    (hfresh : ∀ token ∈ createdBy call, Allowed token ∧ token ∉ w.created) :
    CallLaw w call := by
  cases call with
  | createApplicationToken applicationName token =>
    obtain ⟨⟨hslash, hopen, hclose, hplus⟩, hnew⟩ := hfresh token (mem_singleton_self _)
    have hlegal : Legal token := ⟨⟨hp.1, hslash, hopen⟩, hclose, hplus, hp.2⟩
    have heq : w.tree.createApplicationToken applicationName token = _ :=
      h.createApplicationToken_eq hlegal hnew
    refine ⟨?_, trivial, fun hacts => absurd trivial hacts⟩
    rw [TokenTree.perform, heq]
    exact ok_ne_null
  | enableToken token user => exact h.callLaw_enableToken hp
  | revokeToken token => exact h.callLaw_revokeToken hp
  | authenticateApplication token => exact h.callLaw_authenticateApplication hp
  | getApplicationName token => exact callLaw_getApplicationName

/-- And it keeps the invariant. -/
theorem Inv.step (h : Inv w) (hp : Plainly w.tree call)
    (hfresh : ∀ token ∈ createdBy call, Allowed token ∧ token ∉ w.created)
    (hs : w.step call = some w') : Inv w' := by
  obtain rfl := eq_of_step hs
  cases call with
  | createApplicationToken applicationName token =>
    obtain ⟨⟨hslash, hopen, hclose, hplus⟩, hnew⟩ := hfresh token (mem_singleton_self _)
    exact h.create ⟨⟨hp.1, hslash, hopen⟩, hclose, hplus, hp.2⟩ hnew
  | enableToken token user =>
    rw [createdBy, append_nil]
    by_cases hmem : token ∈ w.register.pending
    · exact h.enable hmem user
    · rw [TokenTree.perform, h.enableToken_of_not_mem hp hmem, TokenRegister.after, if_neg hmem]
      exact h
  | revokeToken token =>
    rw [createdBy, append_nil]
    by_cases hmem : token ∈ w.register.enabled.map Prod.fst
    · exact h.revoke hmem
    · rw [TokenTree.perform, h.revokeToken_of_not_mem hp hmem, TokenRegister.after, if_neg hmem]
      exact h
  | authenticateApplication token =>
    rw [createdBy, append_nil]
    exact h
  | getApplicationName token =>
    rw [createdBy, append_nil]
    exact h

theorem Inv.plainly_create (h : Inv w) (hallowed : Allowed token) (hnew : token ∉ w.created)
    (hnext : (w.tree.createApplicationToken applicationName token).2.pending.childNames =
      w.register.pending ++ [token]) : token ≠ "" ∧ '\x00' ∉ token.toList := by
  have hlength := congrArg length hnext
  rw [length_append, ← h.pending] at hlength
  have hempty : token ≠ "" := by
    rintro rfl
    exact absurd hlength.symm (Nat.succ_ne_self _)
  refine ⟨hempty, fun hnul => ?_⟩
  have hplain : PropertyNode.Plain token := ⟨hempty, hallowed.1, hallowed.2.1⟩
  have hname : token ∉ w.tree.pending.childNames := fun hmem =>
    hnew (h.exactlyOne.mem_iff.mp (mem_append_left _ (mem_append_left _ hmem)))
  have hfound := (h.distinct_pending.getProperty_eq_none_iff hplain).mpr hname
  simp only [TokenTree.createApplicationToken, hfound,
    PropertyNode.createProperty_of_plain hplain hallowed.2.2.2 hname, PropertyNode.childNames,
    map_append, map_cons, map_nil] at hnext
  have hlast := (append_inj_right' hnext rfl)
  rw [← (cons.inj hlast).1] at hnul
  exact PropertyNode.nul_not_mem_cString token hnul

theorem Inv.plainly (h : Inv w)
    (hfresh : ∀ token ∈ createdBy call, Allowed token ∧ token ∉ w.created)
    (hcall : CallLaw w call) (hnext : ∀ w', w.step call = some w' → Law w') :
    Plainly w.tree call := by
  cases call with
  | createApplicationToken applicationName token =>
    obtain ⟨hallowed, hnew⟩ := hfresh token (mem_singleton_self _)
    exact h.plainly_create hallowed hnew (hnext _ (step_eq_some hcall.noNull)).pending
  | enableToken token user =>
    by_cases hmem : token ∈ w.register.pending
    · exact Or.inl (h.legal_pending (h.pending ▸ hmem)).plain
    · rcases hfound : w.tree.pending.getProperty token with - | ⟨place, pToken⟩
      · exact Or.inr hfound
      · exact absurd (hcall.unchanged hmem) (h.enableToken_ne hfound)
  | revokeToken token =>
    rcases hfound : w.tree.enabled.getProperty token with - | ⟨place, pToken⟩
    · exact Or.inr hfound
    · have htrue : (w.tree.revokeToken token).1 = .ok (.flag true) := by
        rw [TokenTree.revokeToken, hfound]
      exact Or.inl (h.legal_enabled (h.enabled ▸ hcall.does.1.mp htrue)).plain
  | authenticateApplication token =>
    intro place pToken user hfound hnames
    have heq := authenticateApplication_of_namesUser hfound hnames
    have hrole : (user.getPropertyByName "role").isSome := by
      by_contra hnone
      rw [if_neg hnone] at heq
      exact hcall.noNull heq
    rw [if_pos hrole] at heq
    obtain ⟨name, hentry, -⟩ := hcall.does.mp heq
    exact ⟨(h.legal_enabled (h.enabled ▸ mem_map_of_mem hentry)).plain, hrole⟩
  | getApplicationName token => exact trivial

/-! ## The law of runs -/

/-- **Token life cycle.** The law holds in every state of a run and of every operation of
it exactly when the strings that are passed in are plain names or find nothing. -/
theorem lawfulRun_iff_plainlyRun {calls : List TokenCall} (h₀ : Start w) (hfresh : Fresh calls) :
    LawfulRun w calls ↔ PlainlyRun w calls := by
  have hinv : Inv w := Inv.start h₀
  have hnodup : (w.created ++ calls.flatMap createdBy).Nodup := by
    rw [h₀.2.2.2]
    exact hfresh.1
  have hallowed := hfresh.2
  clear h₀ hfresh
  induction calls generalizing w with
  | nil => exact iff_of_true hinv.toLaw trivial
  | cons call calls ih =>
    have hcall : ∀ token ∈ createdBy call, Allowed token ∧ token ∉ w.created := fun token hmem =>
      ⟨hallowed token (mem_append_left _ hmem), fun hold =>
        (nodup_append.mp hnodup).2.2 token hold token (mem_append_left _ hmem) rfl⟩
    have hnext : ∀ w', Plainly w.tree call → w.step call = some w' →
        (LawfulRun w' calls ↔ PlainlyRun w' calls) := by
      intro w' hp hs
      refine ih (hinv.step hp hcall hs) ?_ fun token hmem =>
        hallowed token (mem_append_right _ hmem)
      rw [eq_of_step hs, append_assoc]
      exact hnodup
    constructor
    · rintro ⟨-, hlaw, hrest⟩
      have hp := hinv.plainly hcall hlaw fun w' hs => by
        have hrun := hrest w' hs
        cases calls with
        | nil => exact hrun
        | cons _ _ => exact hrun.1
      exact ⟨hp, fun w' hs => (hnext w' hp hs).mp (hrest w' hs)⟩
    · rintro ⟨hp, hrest⟩
      exact ⟨hinv.toLaw, hinv.callLaw hp hcall, fun w' hs => (hnext w' hp hs).mpr (hrest w' hs)⟩

/-- A tree without tokens, and the user `dssadmin`. -/
def noTokens : TokenWorld :=
  { tree :=
      { pending := { name := "pending" }
        enabled := { name := "enabled" }
        users := some
          { name := "users"
            children := [{ name := "dssadmin", children := [{ name := "role" }] }] } } }

/-- Creating a token, enabling it, asking for its name, and revoking it. -/
theorem lawfulRun_noTokens :
    LawfulRun noTokens
      [.createApplicationToken "app" "token1", .enableToken "token1" none,
        .getApplicationName "token1", .revokeToken "token1"] := by
  refine (lawfulRun_iff_plainlyRun ⟨rfl, rfl, rfl, rfl⟩ ⟨by decide, ?_⟩).mpr
    ⟨⟨by decide, by decide⟩, fun _ _ => ⟨Or.inl (by decide), fun _ _ => ⟨trivial, fun _ _ =>
      ⟨Or.inl (by decide), fun _ _ => trivial⟩⟩⟩⟩
  intro token hmem
  obtain rfl := mem_singleton.mp hmem
  exact ⟨by decide, by decide, by decide, by decide⟩

/-- Enabling the empty string. -/
theorem lawfulRun_noTokens_fails :
    ¬ ∀ (w : TokenWorld) (calls : List TokenCall), Start w → Fresh calls → LawfulRun w calls := by
  intro h
  have hfresh : Fresh [.enableToken "" none] :=
    ⟨nodup_nil, fun _ hmem => absurd hmem not_mem_nil⟩
  exact (h noTokens [.enableToken "" none] ⟨rfl, rfl, rfl, rfl⟩ hfresh).2.1.noNull rfl

end TokenWorld

end Dss
