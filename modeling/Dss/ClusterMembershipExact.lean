import Dss.ClusterMembership

/-!
# Who is in one cluster only

The request visits the device, its partner and each device that is coupled with it. What a visit
does to the memberships depends on them alone. A device that is visited `n` times with the loop
keeps the clusters whose place in their run is a multiple of `2 ^ n`.
-/

namespace Dss

open List

namespace ClusterMembership

open JokerGroup Interruptible Program SkippingLoop

/-! ## A visit -/

def entered (id : ℕ) (ids : List ℕ) : List ℕ := if id ∈ ids then ids else ids ++ [id]

def visited (id : ℕ) (ids : List ℕ) (leaves : Bool) : List ℕ :=
  entered id (if leaves then skim isAppUserGroup ids else ids)

variable {a : JokerGroup.Apartment} {device : Device} {group : ZoneGroup} {id : ℕ}

theorem self_mem_entered {ids : List ℕ} : id ∈ entered id ids := by
  rw [entered]
  split_ifs with hmem
  · exact hmem
  · exact mem_append_right _ (mem_singleton.mpr rfl)

theorem ids_add {m : Memberships} (h : isValidGroup id = true) :
    (m.add id).ids = entered id m.ids := by
  rw [Memberships.add, dif_pos h, entered]
  by_cases hmem : id ∈ m.ids
  · rw [dif_pos hmem, if_pos hmem]
  · rw [dif_neg hmem, if_neg hmem]

theorem erase_eq_eraseIdx {ids : List ℕ} (hnodup : ids.Nodup) {g : ℕ} (h : ids[g]? = some id) :
    ids.erase id = ids.eraseIdx g := by
  obtain ⟨hlt, rfl⟩ := List.getElem?_eq_some_iff.mp h
  exact hnodup.erase_getElem g hlt

theorem getGroup_ok (h : (getGroup a id device).result = .ok group) :
    group.base.groupID = id ∧ getGroup a id device = ⟨[], device, .ok group⟩ := by
  obtain ⟨zone, hzone, hfound, -⟩ := ok_of_bind h
  rcases hget : a.tryGetZone 0 with - | zone'
  · rw [getZone, hget] at hzone
    cases hzone
  · have hpure : getZone a 0 = (pure zone' : Request Zone) := by rw [getZone, hget]
    rw [getGroup, hpure, pure_bind'] at h ⊢
    rcases hgroup : zone'.getGroup id with - | group'
    · rw [hgroup] at h
      cases h
    · rw [hgroup] at h
      obtain rfl : group' = group := Except.ok.inj h
      exact ⟨(KeyedList.key_of_find? hgroup).2, rfl⟩

theorem deviceRemoveFromGroup_ok
    (h : (deviceRemoveFromGroup true (some group) device).result = .ok ()) :
    (deviceRemoveFromGroup true (some group) device).state.groups =
      device.groups.remove group.base.groupID := by
  rcases hlocked : group.isLocked with - | -
  · obtain ⟨-, -, -, hstate⟩ := deviceRemoveFromGroup_cluster device hlocked
    exact hstate
  · obtain ⟨error, heq⟩ := deviceRemoveFromGroup_of_isLocked device true hlocked
    rw [heq] at h
    cases h

theorem leaveClustersFrom_ok {n g : ℕ} (h : (leaveClustersFrom a n g device).result = .ok ()) :
    (leaveClustersFrom a n g device).state.groups.ids =
      loop isAppUserGroup n g device.groups.ids := by
  induction n generalizing g device with
  | zero => rfl
  | succ n ih =>
    rw [leaveClustersFrom, get_bind] at h ⊢
    rw [loop]
    rcases hid : device.groups.ids[g]? with - | id
    · rfl
    · rw [hid] at h
      obtain ⟨group, hgroup, hrest, hstate⟩ := ok_of_bind h
      obtain ⟨rfl, hget⟩ := getGroup_ok hgroup
      rw [hget] at hrest hstate
      rw [hstate]
      obtain ⟨_, hleft, hrest', hstate'⟩ := ok_of_bind hrest
      rw [hstate', ih hrest']
      congr 1
      rcases hcluster : isAppUserGroup group.base.groupID with - | -
      · have hnot : ¬ (groupIDAppUserMin ≤ group.base.groupID ∧
            group.base.groupID ≤ groupIDAppUserMax) := by
          simpa [isAppUserGroup] using hcluster
        rw [if_neg hnot]
        rfl
      · have hrange : groupIDAppUserMin ≤ group.base.groupID ∧
            group.base.groupID ≤ groupIDAppUserMax := by
          simpa [isAppUserGroup] using hcluster
        rw [if_pos hrange] at hleft ⊢
        rw [deviceRemoveFromGroup_ok hleft]
        exact erase_eq_eraseIdx device.groups.nodup hid

theorem ids_leaveClusters (h : (leaveClusters a device).result = .ok ()) :
    (leaveClusters a device).state.groups.ids = skim isAppUserGroup device.groups.ids := by
  rw [← loop_eq]
  exact leaveClustersFrom_ok h

theorem deviceAddToGroup_ok (hcluster : isAppUserGroup group.base.groupID = true)
    (h : (deviceAddToGroup (some group) group.base.groupID device).result = .ok ()) :
    (deviceAddToGroup (some group) group.base.groupID device).state.groups =
      device.groups.add group.base.groupID := by
  obtain ⟨_, hentered, -, hstate⟩ := ok_of_bind h
  refine (congrArg Device.groups hstate).trans ?_
  rcases hlocked : group.isLocked with - | -
  · have hgroups : (enterGroup (some group) device).state.groups =
        groupsWith device group.base.groupID := by
      rw [enterGroup, if_neg (ne_true_of_eq_false hlocked)]
      rfl
    have hkeeps := keeps_followInputs
      (P := fun other => other.groups = (enterGroup (some group) device).state.groups)
      (fun _ _ heq hother => heq.trans hother) group.base.groupID
      (enterGroup (some group) device).state rfl
    rw [hkeeps.2, hgroups, groupsWith, if_neg]
    rw [resetsGroups, isDefaultGroup_eq_false hcluster]
    exact Bool.false_ne_true
  · rw [enterGroup, if_pos hlocked] at hentered
    cases hentered

/-- Whether the visit to the device of the request begins with the loop. -/
def leavesFirst (device : Device) : Bool :=
  isInputDevice device && decide (1 < device.groups.ids.length)

theorem ids_visit {x : Request Unit} {leaves : Bool}
    (hcluster : isAppUserGroup group.base.groupID = true)
    (hleave : (x device).result = .ok () → (x device).state.groups.ids =
      if leaves then skim isAppUserGroup device.groups.ids else device.groups.ids)
    (h : ((x >>= fun _ => deviceAddToGroup (some group) group.base.groupID) device).result =
      .ok ()) :
    ((x >>= fun _ => deviceAddToGroup (some group) group.base.groupID) device).state.groups.ids =
      visited group.base.groupID device.groups.ids leaves := by
  obtain ⟨_, hleft, hadded, hstate⟩ := ok_of_bind h
  rw [hstate, deviceAddToGroup_ok hcluster hadded,
    ids_add (isValidGroup_of_isAppUserGroup hcluster), hleave hleft, visited]

theorem ids_enter (hcluster : isAppUserGroup group.base.groupID = true)
    (h : (enter a group device).result = .ok ()) : (enter a group device).state.groups.ids =
      visited group.base.groupID device.groups.ids (leavesFirst device) := by
  refine ids_visit hcluster (fun hleft => ?_) h
  have hiff : leavesFirst device = true ↔
      isInputDevice device = true ∧ 1 < device.groups.ids.length := by
    rw [leavesFirst, Bool.and_eq_true, decide_eq_true_iff]
  rcases hleaves : leavesFirst device with - | -
  · rw [if_neg fun hyes => Bool.false_ne_true (hleaves.symm.trans (hiff.mpr hyes))]
    rfl
  · rw [if_pos (hiff.mp hleaves)] at hleft ⊢
    exact ids_leaveClusters hleft

theorem ids_follow (hcluster : isAppUserGroup group.base.groupID = true)
    (h : (follow a group device).result = .ok ()) : (follow a group device).state.groups.ids =
      visited group.base.groupID device.groups.ids true :=
  ids_visit hcluster ids_leaveClusters h

theorem findGroup_cluster {D : Type} {home : Home D} (hcluster : isAppUserGroup id = true)
    (h : findGroup home device id = .ok group) : group.base.groupID = id := by
  rw [findGroup, if_pos hcluster, getCluster, Home.tryGetGroup] at h
  rcases hzone : home.apartment.tryGetZone 0 with - | zone
  · rw [hzone] at h
    cases h
  · rw [hzone, Option.bind_some] at h
    rcases hfound : zone.getGroup id with - | (g | c)
    · rw [hfound] at h
      cases h
    · rw [hfound] at h
      cases h
    · rw [hfound] at h
      cases h
      exact (KeyedList.key_of_find? hfound).2

/-! ## Many visits -/

/-- The clusters of a list whose place counts are left, and possibly the one that was entered
behind them. -/
def Kept (id m : ℕ) (ids ids' : List ℕ) : Prop :=
  ∃ l, (∀ other ∈ l, other = id) ∧ ids' = sieve isAppUserGroup m 0 ids ++ l

variable {ids ids' : List ℕ} {m : ℕ}

theorem kept_refl : Kept id 1 ids ids :=
  ⟨[], forall_mem_nil _, by rw [sieve_one, append_nil]⟩

theorem Kept.entered (h : Kept id m ids ids') : Kept id m ids (entered id ids') := by
  rw [ClusterMembership.entered]
  split_ifs
  · exact h
  · obtain ⟨l, hl, rfl⟩ := h
    refine ⟨l ++ [id], fun other hother => ?_, by rw [append_assoc]⟩
    rcases mem_append.mp hother with hother | hother
    · exact hl other hother
    · exact mem_singleton.mp hother

theorem Kept.skim (h : Kept id m ids ids') :
    Kept id (m * 2) ids (skim isAppUserGroup ids') := by
  obtain ⟨l, hl, rfl⟩ := h
  obtain ⟨k, hk⟩ : ∃ k, sieve isAppUserGroup 2 0 (sieve isAppUserGroup m 0 ids ++ l) =
      sieve isAppUserGroup 2 0 (sieve isAppUserGroup m 0 ids) ++ sieve isAppUserGroup 2 k l :=
    sieve_append
  have hproduct := sieve_sieve (p := isAppUserGroup) (m := m) (k := 0) (l := ids) (n := 2)
  rw [Nat.zero_div] at hproduct
  refine ⟨sieve isAppUserGroup 2 k l, fun other hother => ?_, by
    rw [skim_eq_sieve, hk, hproduct]⟩
  obtain ⟨i, hi, -⟩ := mem_sieve.mp hother
  exact hl other (mem_of_getElem? hi)

theorem kept_visits (leaves : List Bool) (h : Kept id m ids ids') :
    Kept id (m * 2 ^ leaves.count true) ids (leaves.foldl (visited id) ids') := by
  induction leaves generalizing m ids' with
  | nil => simpa using h
  | cons leave leaves ih =>
    rcases leave with - | -
    · simpa [visited] using ih (m := m) h.entered
    · have hstep := ih (m := m * 2) h.skim.entered
      rw [Nat.mul_assoc, ← Nat.pow_succ'] at hstep
      simpa [visited] using hstep

theorem mem_visits {leaves : List Bool} (h : leaves ≠ []) :
    id ∈ leaves.foldl (visited id) ids := by
  rw [← dropLast_append_getLast h, foldl_append]
  exact self_mem_entered

theorem Kept.mem_iff_of_not_cluster (h : Kept id m ids ids') (hid : isAppUserGroup id = true)
    {other : ℕ} (hother : isAppUserGroup other = false) : other ∈ ids' ↔ other ∈ ids := by
  obtain ⟨l, hl, rfl⟩ := h
  rw [mem_append, mem_sieve_of_not hother]
  refine or_iff_left fun hmem => ?_
  rw [hl other hmem, hid] at hother
  cases hother

/-- No cluster but this one has a place in its run that is a multiple of `m`. -/
def Cleared (id m : ℕ) (ids : List ℕ) : Prop :=
  ∀ (i other : ℕ), ids[i]? = some other → isAppUserGroup other = true → other ≠ id →
    ¬ m ∣ place isAppUserGroup 0 ids i

/-- The memberships are in one cluster only. -/
def OnlyIn (id : ℕ) (ids : List ℕ) : Prop :=
  ∀ other ∈ ids, isAppUserGroup other = true → other = id

theorem Kept.onlyIn_iff (h : Kept id m ids ids') : OnlyIn id ids' ↔ Cleared id m ids := by
  obtain ⟨l, hl, rfl⟩ := h
  constructor
  · intro honly i other hi hcluster hne hdvd
    refine hne (honly other (mem_append_left _ ?_) hcluster)
    exact mem_sieve.mpr ⟨i, hi, fun _ => hdvd⟩
  · intro hcleared other hmem hcluster
    rcases mem_append.mp hmem with hmem | hmem
    · obtain ⟨i, hi, hdvd⟩ := mem_sieve.mp hmem
      by_contra hne
      exact hcleared i other hi hcluster hne (hdvd hcluster)
    · exact hl other hmem

theorem cleared_iff : Cleared id m ids ↔ OnlyIn id (sieve isAppUserGroup m 0 ids) :=
  (Kept.onlyIn_iff ⟨[], forall_mem_nil _, (append_nil _).symm⟩).symm

instance (id : ℕ) (ids : List ℕ) : Decidable (OnlyIn id ids) :=
  inferInstanceAs (Decidable (∀ other ∈ ids, isAppUserGroup other = true → other = id))

instance (id m : ℕ) (ids : List ℕ) : Decidable (Cleared id m ids) :=
  decidable_of_iff _ cleared_iff.symm

/-! ## The visits of a request -/

section Visits

variable {D : Type} [DecidableEq D] {home home' home'' : Home D} {dsid : D}

def visitsTo (dsid : D) (visits : List (D × Bool)) : List Bool :=
  (visits.filter fun visit => visit.1 = dsid).map Prod.snd

structure Tracks (id : ℕ) (visits : List (D × Bool)) (home home' : Home D) : Prop where
  apartment : home'.apartment = home.apartment
  members : ∃ f : Member D → Device,
    home'.members = home.members.map (fun member => { member with device := f member }) ∧
      ∀ member ∈ home.members, (f member).groups.ids =
        (visitsTo member.dsid visits).foldl (visited id) member.device.groups.ids

theorem Tracks.refl : Tracks id [] home home :=
  ⟨rfl, Member.device, (map_id _).symm, fun _ _ => rfl⟩

theorem Tracks.trans {visits visits' : List (D × Bool)} (h : Tracks id visits home home')
    (h' : Tracks id visits' home' home'') : Tracks id (visits ++ visits') home home'' := by
  obtain ⟨hapartment, f, hmembers, hf⟩ := h
  obtain ⟨hapartment', f', hmembers', hf'⟩ := h'
  refine ⟨hapartment'.trans hapartment, fun member => f' { member with device := f member },
    ?_, fun member hmember => ?_⟩
  · rw [hmembers', hmembers, map_map]
    rfl
  · have hmember' : { member with device := f member } ∈ home'.members := by
      rw [hmembers]
      exact mem_map_of_mem hmember
    rw [hf' _ hmember', hf _ hmember, visitsTo, visitsTo, visitsTo, filter_append,
      map_append, foldl_append]
    rfl

theorem Tracks.infos {visits : List (D × Bool)} (h : Tracks id visits home home') :
    home'.members.map Member.info = home.members.map Member.info := by
  obtain ⟨-, f, hmembers, -⟩ := h
  rw [hmembers, map_map]
  rfl

theorem tracks_run {x : Request Unit} {leaves : Bool} {member : Member D}
    (hmember : home.tryGetDevice dsid = some member)
    (hx : (x member.device).result = .ok () → (x member.device).state.groups.ids =
      visited id member.device.groups.ids leaves)
    (h : (run x dsid home).2 = .ok ()) :
    Tracks id [(dsid, leaves)] home (run x dsid home).1 := by
  rw [run, hmember] at h ⊢
  obtain ⟨hmem, rfl⟩ := KeyedList.key_of_find? hmember
  refine ⟨rfl, fun other =>
    if other.dsid = member.dsid then (x member.device).state else other.device, ?_, ?_⟩
  · refine map_congr_left fun other _ => ?_
    dsimp only
    split_ifs <;> rfl
  · intro other hother
    dsimp only
    split_ifs with heq
    · obtain rfl := inj_on_of_nodup_map home.nodup hother hmem heq
      simpa [visitsTo] using hx h
    · simp [visitsTo, Ne.symm heq]

def coupledVisits (info : DeviceInfo D) (infos : List (DeviceInfo D)) : List (D × Bool) :=
  (infos.filter info.isOemCoupledWith).map fun other => (other.dsid, true)

def partnerVisits (rt : Runtime D) (info : DeviceInfo D) : List (D × Bool) :=
  if info.is2WayMaster then [(rt.nextDsuid info.dsid, true)] else []

theorem tracks_followPartner {rt : Runtime D} {info : DeviceInfo D}
    (hcluster : isAppUserGroup group.base.groupID = true)
    (h : (followPartner rt info group home).2 = .ok ()) :
    Tracks group.base.groupID (partnerVisits rt info) home
      (followPartner rt info group home).1 := by
  rw [followPartner] at h ⊢
  rw [partnerVisits]
  split_ifs at h ⊢ with hmaster
  · rcases hpartner : home.tryGetDevice (rt.nextDsuid info.dsid) with - | partner
    · rw [hpartner] at h
      cases h
    · rw [hpartner] at h
      exact tracks_run hpartner (ids_follow hcluster) h
  · exact Tracks.refl

theorem tracks_followCoupled {info : DeviceInfo D} {infos : List (DeviceInfo D)}
    {modifiedDevices result : List D} (hcluster : isAppUserGroup group.base.groupID = true)
    (hinfos : ∀ other ∈ infos, other ∈ home.members.map Member.info)
    (h : (followCoupled info group infos modifiedDevices home).2 = .ok result) :
    Tracks group.base.groupID (coupledVisits info infos) home
      (followCoupled info group infos modifiedDevices home).1 := by
  induction infos generalizing home modifiedDevices with
  | nil => exact Tracks.refl
  | cons other infos ih =>
    rw [followCoupled] at h ⊢
    rcases hcoupled : info.isOemCoupledWith other with - | -
    · rw [coupledVisits, filter_cons_of_neg (ne_true_of_eq_false hcoupled)]
      rw [hcoupled] at h
      exact ih (fun other hother => hinfos other (mem_cons_of_mem _ hother)) h
    · rw [coupledVisits, filter_cons_of_pos hcoupled]
      rw [hcoupled] at h
      obtain ⟨member, hmem, rfl⟩ := mem_map.mp (hinfos other mem_cons_self)
      have hmember : home.tryGetDevice member.info.dsid = some member :=
        (KeyedList.find?_eq_some_iff home.nodup).mpr ⟨hmem, rfl⟩
      have hvisit := tracks_run (x := follow home.apartment group) hmember (ids_follow hcluster)
      rcases hrun : run (follow home.apartment group) member.info.dsid home with ⟨home', e | u⟩
      · rw [hrun] at h
        cases h
      · rw [hrun] at h hvisit
        have hstep := hvisit rfl
        refine hstep.trans (ih (fun other hother => ?_) h)
        rw [hstep.infos]
        exact hinfos other (mem_cons_of_mem _ hother)

def visits (rt : Runtime D) (home : Home D) (member : Member D) : List (D × Bool) :=
  [(member.dsid, leavesFirst member.device)] ++ partnerVisits rt member.info ++
    coupledVisits member.info (home.members.map Member.info)

theorem Answer.ofError_ne_ok {D : Type} (e : Error) (modifiedDevices : List D) :
    Answer.ofError e ≠ .ok modifiedDevices := by
  cases e <;> exact nofun

theorem tracks_addToGroup {rt : Runtime D} {member : Member D} {modifiedDevices : List D}
    (hcluster : isAppUserGroup group.base.groupID = true)
    (hmember : home.tryGetDevice member.dsid = some member)
    (h : (addToGroup rt member.info group home).2 = .ok modifiedDevices) :
    Tracks group.base.groupID (visits rt home member) home
      (addToGroup rt member.info group home).1 := by
  rw [addToGroup] at h ⊢
  have hvisit := tracks_run (x := enter home.apartment group) hmember (ids_enter hcluster)
  rcases hrun : run (enter home.apartment group) member.info.dsid home with ⟨home₁, e | u⟩
  · rw [hrun] at h
    exact absurd h (Answer.ofError_ne_ok e _)
  · have hfirst : Tracks group.base.groupID [(member.dsid, leavesFirst member.device)] home
        home₁ := by
      have hrun' : run (enter home.apartment group) member.dsid home = (home₁, .ok u) := hrun
      rw [hrun'] at hvisit
      exact hvisit rfl
    rw [hrun] at h
    dsimp only at h ⊢
    rcases hpartner : followPartner rt member.info group home₁ with ⟨home₂, e | u⟩
    · rw [hpartner] at h
      exact absurd h (Answer.ofError_ne_ok e _)
    · have hsecond : Tracks group.base.groupID (partnerVisits rt member.info) home₁
          (followPartner rt member.info group home₁).1 :=
        tracks_followPartner hcluster (by rw [hpartner])
      rw [hpartner] at h hsecond
      dsimp only at h ⊢
      have hboth := hfirst.trans hsecond
      rw [visits, ← hboth.infos]
      split_ifs at h ⊢ with hoem
      · have hthird : (followCoupled member.info group (home₂.members.map Member.info)
              [member.info.dsid] home₂).2 = .ok modifiedDevices →
            Tracks group.base.groupID (coupledVisits member.info (home₂.members.map Member.info))
              home₂ (followCoupled member.info group (home₂.members.map Member.info)
                [member.info.dsid] home₂).1 :=
          tracks_followCoupled hcluster fun other hother => hother
        rcases hcoupled : followCoupled member.info group (home₂.members.map Member.info)
          [member.info.dsid] home₂ with ⟨home₃, e | modified⟩
        · rw [hcoupled] at h
          exact absurd h (Answer.ofError_ne_ok e _)
        · rw [hcoupled] at h hthird
          cases h
          exact hboth.trans (hthird rfl)
      · -- without such data nothing is coupled
        have hnone : coupledVisits member.info (home₂.members.map Member.info) = [] := by
          rw [coupledVisits, filter_eq_nil_iff.mpr, map_nil]
          intro other _ hcoupled
          simp only [DeviceInfo.isOemCoupledWith, Bool.and_eq_true, Bool.not_eq_true',
            decide_eq_true_iff] at hcoupled
          tauto
        rw [hnone, append_nil]
        exact hboth

/-! ## What is asked of it -/

/-- The partner of a 2-way master, or the master of its partner; or a device that is coupled by
its OEM data. -/
def Coupled (rt : Runtime D) (info other : DeviceInfo D) : Prop :=
  (info.is2WayMaster = true ∧ other.dsid = rt.nextDsuid info.dsid) ∨
    (other.is2WayMaster = true ∧ info.dsid = rt.nextDsuid other.dsid) ∨
    info.isOemCoupledWith other = true

instance (rt : Runtime D) (info other : DeviceInfo D) : Decidable (Coupled rt info other) :=
  inferInstanceAs (Decidable (_ ∨ _))

/-- **Exclusive cluster membership.** The device is in the cluster, and so are those that are
coupled with it. The latter are in no other cluster, and neither is a device with inputs only.
Nothing else has changed. -/
def Exclusive (rt : Runtime D) (member : Member D) (id : ℕ) (home home' : Home D) : Prop :=
  home'.members.map Member.info = home.members.map Member.info ∧
    ∀ other ∈ home.members, ∀ other' ∈ home'.members, other'.info = other.info →
      (Coupled rt member.info other.info →
        id ∈ other'.device.groups ∧ OnlyIn id other'.device.groups.ids) ∧
      (other.dsid = member.dsid → id ∈ other'.device.groups ∧
        (isInputDevice member.device = true → OnlyIn id other'.device.groups.ids)) ∧
      (∀ group, isAppUserGroup group = false →
        (group ∈ other'.device.groups ↔ group ∈ other.device.groups)) ∧
      (¬ Coupled rt member.info other.info → other.dsid ≠ member.dsid →
        other'.device.groups.ids = other.device.groups.ids)

def passes (rt : Runtime D) (member other : Member D) : ℕ :=
  (if other.dsid = member.dsid ∧ leavesFirst member.device = true then 1 else 0) +
    (if member.info.is2WayMaster = true ∧ other.dsid = rt.nextDsuid member.dsid then 1 else 0) +
    (if member.info.isOemCoupledWith other.info = true then 1 else 0)

/-- Where in a run of adjacent clusters a device that has to leave them may be in one: at no
place that is a multiple of `2 ^ n`, if it is made to leave them `n` times. A master that is not
made to do anything is in the cluster already. -/
def Orderly (rt : Runtime D) (member : Member D) (id : ℕ) (home : Home D) : Prop :=
  ∀ other ∈ home.members,
    (Coupled rt member.info other.info → passes rt member other = 0 →
      id ∈ other.device.groups) ∧
    (Coupled rt member.info other.info ∨
        (other.dsid = member.dsid ∧ isInputDevice member.device = true) →
      Cleared id (2 ^ passes rt member other) other.device.groups.ids)

instance (rt : Runtime D) (member : Member D) (id : ℕ) (home : Home D) :
    Decidable (Orderly rt member id home) :=
  inferInstanceAs (Decidable (∀ other ∈ home.members, _ ∧ _))

variable {rt : Runtime D} {member other : Member D}

theorem visitsTo_append (dsid : D) (l l' : List (D × Bool)) :
    visitsTo dsid (l ++ l') = visitsTo dsid l ++ visitsTo dsid l' := by
  rw [visitsTo, filter_append, map_append]
  rfl

theorem visitsTo_coupledVisits (hother : other ∈ home.members) :
    visitsTo other.dsid (coupledVisits member.info (home.members.map Member.info)) =
      if member.info.isOemCoupledWith other.info = true then [true] else [] := by
  have hself := KeyedList.filter_eq_singleton home.nodup hother
  have hfilter : visitsTo other.dsid (coupledVisits member.info (home.members.map Member.info)) =
      (((home.members.filter fun one => one.dsid = other.dsid).filter fun one =>
        member.info.isOemCoupledWith one.info).map fun _ => true) := by
    simp only [visitsTo, coupledVisits, filter_map, map_map, filter_filter]
    exact congrArg (map _) (filter_congr fun _ _ => Bool.and_comm _ _)
  rw [hfilter, hself]
  split_ifs with hcoupled
  · simp [hcoupled]
  · simp [hcoupled]

theorem visitsTo_visits (hother : other ∈ home.members) :
    visitsTo other.dsid (visits rt home member) =
      (if other.dsid = member.dsid then [leavesFirst member.device] else []) ++
      (if member.info.is2WayMaster = true ∧ other.dsid = rt.nextDsuid member.dsid then [true]
        else []) ++
      (if member.info.isOemCoupledWith other.info = true then [true] else []) := by
  rw [visits, visitsTo_append, visitsTo_append, visitsTo_coupledVisits hother]
  congr 2
  · by_cases hsame : other.dsid = member.dsid
    · simp [visitsTo, hsame]
    · simp [visitsTo, hsame, Ne.symm hsame]
  · rw [partnerVisits]
    by_cases hmaster : member.info.is2WayMaster = true
    · by_cases hnext : other.dsid = rt.nextDsuid member.dsid
      · have heq : rt.nextDsuid member.info.dsid = other.dsid := hnext.symm
        rw [if_pos hmaster, if_pos ⟨hmaster, hnext⟩, heq]
        simp [visitsTo]
      · have hne : rt.nextDsuid member.info.dsid ≠ other.dsid := Ne.symm hnext
        simp [visitsTo, hmaster, hnext, hne]
    · simp [visitsTo, hmaster]

theorem count_visitsTo (hother : other ∈ home.members) :
    (visitsTo other.dsid (visits rt home member)).count true = passes rt member other := by
  rw [visitsTo_visits hother, count_append, count_append]
  congr 2
  · by_cases hsame : other.dsid = member.dsid
    · cases hleaves : leavesFirst member.device <;> simp [hsame]
    · simp [hsame]
  · split_ifs <;> rfl
  · split_ifs <;> rfl

theorem visitsTo_eq_nil_iff (hother : other ∈ home.members) :
    visitsTo other.dsid (visits rt home member) = [] ↔
      other.dsid ≠ member.dsid ∧ passes rt member other = 0 := by
  rw [visitsTo_visits hother, passes]
  split_ifs <;> simp_all

theorem passes_ne_zero_of_coupled (h : Coupled rt member.info other.info)
    (hsame : other.dsid = member.dsid) (hother : other.info = member.info) :
    passes rt member other ≠ 0 := by
  have hpartner : member.info.is2WayMaster = true ∧ other.dsid = rt.nextDsuid member.dsid := by
    rw [hother] at h
    rcases h with h | h | h
    · exact ⟨h.1, hsame.trans h.2⟩
    · exact ⟨h.1, hsame.trans h.2⟩
    · simp [DeviceInfo.isOemCoupledWith] at h
  rw [passes, if_pos hpartner]
  omega

theorem passes_eq_zero (h : ¬ Coupled rt member.info other.info)
    (hne : other.dsid ≠ member.dsid) : passes rt member other = 0 := by
  have hmaster : ¬ (member.info.is2WayMaster = true ∧ other.dsid = rt.nextDsuid member.dsid) :=
    fun hmaster => h (Or.inl hmaster)
  rw [passes, if_neg fun hsame => hne hsame.1, if_neg hmaster,
    if_neg fun hoem => h (Or.inr (Or.inr hoem))]

theorem tracks_groupAddDevice {modifiedDevices : List D}
    (hmember : home.tryGetDevice member.dsid = some member)
    (hcluster : isAppUserGroup id = true)
    (h : (groupAddDevice rt member.dsid id home).2 = .ok modifiedDevices) :
    Tracks id (visits rt home member) home (groupAddDevice rt member.dsid id home).1 := by
  rw [groupAddDevice, hmember] at h ⊢
  dsimp only at h ⊢
  split_ifs at h ⊢
  rcases hfound : findGroup home member.device id with message | group
  · rw [hfound] at h
    cases h
  · obtain rfl := findGroup_cluster hcluster hfound
    rw [hfound] at h
    exact tracks_addToGroup hcluster hmember h

/-- **Exclusive membership.** Where the request for a cluster is answered with ok, it has done
what it should if and only if no device was in clusters that stand in the way of each other. -/
theorem exclusive_iff {modifiedDevices : List D}
    (hmember : home.tryGetDevice member.dsid = some member)
    (hcluster : isAppUserGroup id = true)
    (h : (groupAddDevice rt member.dsid id home).2 = .ok modifiedDevices) :
    Exclusive rt member id home (groupAddDevice rt member.dsid id home).1 ↔
      Orderly rt member id home := by
  have htracks := tracks_groupAddDevice hmember hcluster h
  have hinfos := htracks.infos
  obtain ⟨-, f, hmembers, hf⟩ := htracks
  generalize (groupAddDevice rt member.dsid id home).1 = home' at hmembers hinfos ⊢
  -- a device that is the same one before and behind the request
  have hsame : ∀ other ∈ home.members, ∀ other' ∈ home'.members, other'.info = other.info →
      other' = { other with device := f other } := by
    intro other hother other' hother' hinfo
    rw [hmembers] at hother'
    obtain ⟨other'', hother'', rfl⟩ := mem_map.mp hother'
    obtain rfl := inj_on_of_nodup_map home.nodup hother'' hother
      (congrArg DeviceInfo.dsid hinfo)
    rfl
  have hkept : ∀ other ∈ home.members, Kept id (2 ^ passes rt member other)
      other.device.groups.ids (f other).groups.ids := by
    intro other hother
    have hrefl : Kept id 1 other.device.groups.ids other.device.groups.ids := kept_refl
    have hkept := kept_visits (visitsTo other.dsid (visits rt home member)) hrefl
    rwa [Nat.one_mul, count_visitsTo hother, ← hf other hother] at hkept
  have hvisited : ∀ other ∈ home.members, visitsTo other.dsid (visits rt home member) ≠ [] →
      id ∈ (f other).groups := by
    intro other hother hvisits
    show id ∈ (f other).groups.ids
    rw [hf other hother]
    exact mem_visits hvisits
  constructor
  · rintro ⟨-, hall⟩ other hother
    have hother' : { other with device := f other } ∈ home'.members := by
      rw [hmembers]
      exact mem_map_of_mem hother
    obtain ⟨hcoupled, hself, -, -⟩ := hall other hother _ hother' rfl
    refine ⟨fun hc hzero => ?_, fun hor => (hkept other hother).onlyIn_iff.mp ?_⟩
    · have hnil : visitsTo other.dsid (visits rt home member) = [] := by
        refine (visitsTo_eq_nil_iff hother).mpr ⟨fun heq => ?_, hzero⟩
        obtain rfl := inj_on_of_nodup_map home.nodup hother
          (KeyedList.key_of_find? hmember).1 heq
        exact passes_ne_zero_of_coupled hc rfl rfl hzero
      have hids := hf other hother
      rw [hnil] at hids
      exact (congrArg (id ∈ ·) hids).mp (hcoupled hc).1
    · rcases hor with hc | ⟨heq, hinput⟩
      · exact (hcoupled hc).2
      · exact (hself heq).2 hinput
  · intro horderly
    refine ⟨hinfos, fun other hother other' hother' hinfo => ?_⟩
    obtain rfl := hsame other hother other' hother' hinfo
    obtain ⟨hmaster, hcleared⟩ := horderly other hother
    have honly := fun hor => (hkept other hother).onlyIn_iff.mpr (hcleared hor)
    refine ⟨fun hc => ⟨?_, honly (Or.inl hc)⟩, fun heq => ⟨?_, fun hinput =>
      honly (Or.inr ⟨heq, hinput⟩)⟩, fun group hgroup => ?_, fun hc hne => ?_⟩
    · by_cases hnil : visitsTo other.dsid (visits rt home member) = []
      · have hids := hf other hother
        rw [hnil] at hids
        exact (congrArg (id ∈ ·) hids).mpr (hmaster hc ((visitsTo_eq_nil_iff hother).mp hnil).2)
      · exact hvisited other hother hnil
    · exact hvisited other hother fun hnil => ((visitsTo_eq_nil_iff hother).mp hnil).1 heq
    · exact (hkept other hother).mem_iff_of_not_cluster hcluster hgroup
    · have hids := hf other hother
      rw [(visitsTo_eq_nil_iff hother).mpr ⟨hne, passes_eq_zero hc hne⟩] at hids
      exact hids

end Visits

/-! ## Examples -/

def numbers : Runtime ℕ where
  nextDsuid := (· + 1)
  dsuid2str := toString

def deviceOf (productID : ℕ) (ids : List ℕ) (hnodup : ids.Nodup)
    (hvalid : ∀ id ∈ ids, isValidGroup id = true) : Device where
  zoneID := 5
  groups := ⟨ids, hnodup, hvalid⟩
  activeGroup := 8
  productID := productID
  functionID := 0x8101
  binaryInputs := [8]
  outputMode := 0
  buttonActiveGroup := 8
  buttonID := 5
  buttonInputMode := 0
  buttonInputCount := 0
  is2WaySlave := false

def clusters : JokerGroup.Apartment where
  zones := [{ id := 0, groups := [.cluster { groupID := 16 }, .cluster { groupID := 17 },
    .cluster { groupID := 18 }, .group { groupID := 8 }] }]

def contact : Member ℕ where
  info := { dsid := 1, dsMeterDSID := 10, isPresent := true, isOemValid := true,
            oemSerialNumber := 7 }
  device := deviceOf (8 * 1024 + 200) [8, 16] (by decide) (by decide)

def contactHome : Home ℕ where
  apartment := clusters
  members := [contact,
    { info := { contact.info with dsid := 2, dsMeterDSID := 11 }
      device := deviceOf (8 * 1024 + 200) [16, 8, 17] (by decide) (by decide) }]
  nodup := by decide

/-- A contact in one cluster leaves it for another. -/
theorem exclusive_contact :
    Exclusive numbers contact 18 contactHome (groupAddDevice numbers 1 18 contactHome).1 :=
  (exclusive_iff (by rfl) (by decide) (show (groupAddDevice numbers 1 18 contactHome).2 =
    .ok [1, 2] by rfl)).mpr (by decide)

def twoClusters : Member ℕ where
  info := { dsid := 1, dsMeterDSID := 10, isPresent := true }
  device := deviceOf (8 * 1024 + 200) [16, 17] (by decide) (by decide)

def twoClustersHome : Home ℕ where
  apartment := clusters
  members := [twoClusters]
  nodup := by decide

/-- A contact in two clusters enters a third one, and the second of them is passed over. -/
theorem exclusive_fails : ¬ ∀ (home : Home ℕ) (member : Member ℕ) (id : ℕ) (modified : List ℕ),
    home.tryGetDevice member.dsid = some member → isAppUserGroup id = true →
    (groupAddDevice numbers member.dsid id home).2 = .ok modified →
    Exclusive numbers member id home (groupAddDevice numbers member.dsid id home).1 := by
  intro hall
  obtain ⟨-, hmembers⟩ := hall twoClustersHome twoClusters 18 [1] (by rfl) (by decide) (by rfl)
  let left : Member ℕ := { twoClusters with device := { twoClusters.device with
    groups := ⟨[17, 18], by decide, by decide⟩, binaryInputs := [18] } }
  have hleft : left ∈ (groupAddDevice numbers 1 18 twoClustersHome).1.members :=
    mem_singleton.mpr (by rfl)
  obtain ⟨-, hself, -⟩ := hmembers twoClusters mem_cons_self left hleft rfl
  have honly := (hself rfl).2 (by decide) 17 mem_cons_self (by decide)
  cases honly

end ClusterMembership

end Dss
