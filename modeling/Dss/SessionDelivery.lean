import Dss.SessionEvents

/-!
# What a session delivers

Between two calls the map of a token mirrors the list of its collector, which the relay and the
interpreter mirror in turn. Every call keeps that, but the law of the session survives an
unsubscription only if nothing else is dropped with it.
-/

namespace Dss

open List Function

namespace RelayWorld

variable {w : RelayWorld} {t t' : ℕ} {id eventName : String}

@[simp] theorem own_subscribeTo :
    (w.subscribeTo t eventName).own t' =
      if t' = t then
        w.own t ++ [relaySubscription (w.uniqueSubscriptionID eventName) eventName]
      else w.own t' :=
  own_setOwn

@[simp] theorem subscriptions_subscribeTo :
    (w.subscribeTo t eventName).subscriptions =
      w.subscriptions ++ [relaySubscription (w.uniqueSubscriptionID eventName) eventName] := rfl

@[simp] theorem own_unsubscribeFrom :
    (w.unsubscribeFrom t id).own t' = if t' = t then unsubscribe (w.own t) id else w.own t' :=
  own_setOwn

end RelayWorld

theorem EventHistory.step_unsubscribe_of_not_subscribed {h : EventHistory} {token name : String}
    (hfalse : h.subscribed token name = false) : h.step none (.unsubscribe token name) = h := by
  rw [EventHistory.step, ← hfalse, update_eq_self, update_eq_self]

theorem matches_relaySubscription (id eventName : String) (e : Event) :
    (relaySubscription id eventName).filter.matches e = .ok true := rfl

namespace SessionEvents

variable {s s' : SessionEvents} {h : EventHistory} {token name : String}
  {subscription subscription' : EventSubscriptionSession}

/-! ## Delivery -/

def reaches (idTargetMap : String → Option ℕ) (e : Event) (t : ℕ) (x : Subscription) : Bool :=
  decide (x.eventName = e.name) &&
    (match x.filter.matches e with
      | .ok b => b
      | .error _ => false) &&
    decide (x.handlerName = internalRelay) && decide (idTargetMap x.id = some t)

theorem deliver_eq {idTargetMap : String → Option ℕ} {e : Event} {t : ℕ}
    {xs : List Subscription} {pending : ℕ → List Event}
    (hxs : ∀ x ∈ xs, ∃ b, x.filter.matches e = .ok b) :
    deliver idTargetMap e xs pending t =
      pending t ++ List.replicate (xs.countP (reaches idTargetMap e t)) e := by
  induction xs generalizing pending with
  | nil => simp [deliver]
  | cons x xs ih =>
    have ih := fun pending => @ih pending fun y hy => hxs y (mem_cons_of_mem x hy)
    obtain ⟨b, hb⟩ := hxs x mem_cons_self
    rw [deliver, hb]
    by_cases hname : x.eventName = e.name
    · by_cases hhandler : x.handlerName = internalRelay
      · rcases htarget : idTargetMap x.id with - | t'
        · cases b <;> simp [hname, hhandler, htarget, reaches, ih]
        · rcases eq_or_ne t t' with rfl | ht
          · cases b <;> simp [hname, hhandler, htarget, hb, reaches, ih, replicate_succ]
          · cases b <;>
              simp [hname, hhandler, htarget, hb, reaches, ih, ht, ht.symm]
      · cases b <;> simp [hname, hhandler, reaches, ih]
    · simp [hname, reaches, ih]

/-! ## The invariant -/

def held (s : SessionEvents) (token : String) : List Event :=
  match s.subscriptions token with
  | none => []
  | some subscription => s.pending subscription.collector

/-- The maps of the session, of the collectors and of the relay agree, and what waits is
what was raised and not popped. -/
structure Inv (s : SessionEvents) (h : EventHistory) : Prop where
  relay : s.relay.AtRest
  filters : ∀ x ∈ s.relay.subscriptions, ∀ e, ∃ b, x.filter.matches e = .ok b
  apart : ∀ token token' subscription subscription', s.subscriptions token = some subscription →
    s.subscriptions token' = some subscription' →
    subscription.collector = subscription'.collector → token = token'
  old : ∀ token subscription, s.subscriptions token = some subscription →
    subscription.collector < s.nextCollector
  new : ∀ t, s.nextCollector ≤ t → s.relay.own t = [] ∧ s.pending t = []
  /-- the map of a token mirrors the list of its collector -/
  own : ∀ token subscription, s.subscriptions token = some subscription →
    ∀ x, x ∈ s.relay.own subscription.collector ↔
      x = relaySubscription x.id x.eventName ∧
        subscription.subscriptionMap x.eventName = some x.id
  names : ∀ token name, s.isSubscribed token name = h.subscribed token name
  held : ∀ token, h.popped token ++ s.held token = h.raised token

theorem fst_popEvent : (s.popEvent token).1 = (s.held token).head? := by
  rw [popEvent, held]
  cases s.subscriptions token with
  | none => rfl
  | some subscription =>
    simp only
    cases s.pending subscription.collector <;> rfl

theorem Inv.law (hinv : Inv s h) : Law s h := by
  refine ⟨hinv.names, fun token => ⟨s.held token, hinv.held token⟩, fun token => ?_⟩
  rw [fst_popEvent, ← hinv.held token, drop_left]

theorem Start.invariant (hs : Start s) : Inv s {} := by
  have hnone := hs.noSubscription
  refine ⟨hs.relay, hs.filters, ?_, ?_, hs.newCollectors, ?_, ?_, ?_⟩
  · intro token token' subscription subscription' hsome
    rw [hnone] at hsome
    cases hsome
  · intro token subscription hsome
    rw [hnone] at hsome
    cases hsome
  · intro token subscription hsome
    rw [hnone] at hsome
    cases hsome
  · intro token name
    rw [isSubscribed, hnone]
  · intro token
    rw [SessionEvents.held, hnone]
    rfl

/-! ## Raising and popping -/

theorem Inv.countP_reaches (hinv : Inv s h) (hsome : s.subscriptions token = some subscription)
    (e : Event) :
    s.relay.subscriptions.countP (reaches s.relay.idTargetMap e subscription.collector) =
      if (subscription.subscriptionMap e.name).isSome then 1 else 0 := by
  -- through which subscriptions, is a matter of their ids
  have hreaches : ∀ x ∈ s.relay.subscriptions,
      reaches s.relay.idTargetMap e subscription.collector x = true ↔
        subscription.subscriptionMap e.name = some x.id := by
    intro x hx
    have hown := hinv.relay.idTargetMap_eq_some (t := subscription.collector) hx
    rw [hinv.own token subscription hsome] at hown
    simp only [reaches, Bool.and_eq_true, decide_eq_true_eq, hown]
    constructor
    · rintro ⟨⟨⟨hname, -⟩, -⟩, -, hmap⟩
      rw [← hname, hmap]
    · intro hmap
      have hmem : relaySubscription x.id e.name ∈ s.relay.own subscription.collector :=
        (hinv.own token subscription hsome _).mpr ⟨rfl, hmap⟩
      have heq : x = relaySubscription x.id e.name :=
        RelayWorld.eq_of_mem hinv.relay.inv.distinct hx
          (hinv.relay.mem_subscriptions hmem) rfl
      have hname : x.eventName = e.name := congrArg Subscription.eventName heq
      have hfilter : x.filter.matches e = .ok true :=
        congrArg (fun y : Subscription => y.filter.matches e) heq
      rw [hfilter, hname]
      exact ⟨⟨⟨rfl, rfl⟩, congrArg Subscription.handlerName heq⟩, heq, hmap⟩
  rcases hmap : subscription.subscriptionMap e.name with - | id
  · rw [if_neg (by simp), countP_eq_zero]
    intro x hx
    rw [hreaches x hx, hmap]
    exact nofun
  · have hmem : relaySubscription id e.name ∈ s.relay.own subscription.collector :=
      (hinv.own token subscription hsome _).mpr ⟨rfl, hmap⟩
    have hid : id ∈ s.relay.subscriptions.map Subscription.id :=
      mem_map.mpr ⟨_, hinv.relay.mem_subscriptions hmem, rfl⟩
    rw [← count_eq_one_of_mem hinv.relay.inv.distinct hid, count,
      countP_map]
    refine countP_congr fun x hx => ?_
    rw [hreaches x hx, hmap, comp_apply, beq_iff_eq, Option.some.injEq]
    exact eq_comm

theorem Inv.raiseEvent (hinv : Inv s h) (e : Event) :
    Inv (s.raiseEvent e) (h.step none (.raise e)) := by
  have hfilters : ∀ x ∈ s.relay.subscriptions, ∃ b, x.filter.matches e = .ok b :=
    fun x hx => hinv.filters x hx e
  refine ⟨hinv.relay, hinv.filters, hinv.apart, hinv.old, ?_, hinv.own, hinv.names, ?_⟩
  · intro t ht
    refine ⟨(hinv.new t ht).1, ?_⟩
    -- nothing of the relay refers to a collector that is yet to be made
    have hcount : s.relay.subscriptions.countP (reaches s.relay.idTargetMap e t) = 0 := by
      rw [countP_eq_zero]
      intro x hx hreach
      simp only [reaches, Bool.and_eq_true, decide_eq_true_eq,
        hinv.relay.idTargetMap_eq_some hx, (hinv.new t ht).1] at hreach
      exact not_mem_nil hreach.2
    refine (deliver_eq hfilters).trans ?_
    rw [hcount, (hinv.new t ht).2]
    rfl
  · intro token
    have hname := hinv.names token e.name
    have hheld := hinv.held token
    rw [SessionEvents.isSubscribed] at hname
    rw [SessionEvents.held] at hheld ⊢
    rcases hsome : s.subscriptions token with - | subscription
    · simp only [SessionEvents.raiseEvent, hsome, EventHistory.step, ← hname] at hheld ⊢
      exact hheld
    · simp only [SessionEvents.raiseEvent, hsome, EventHistory.step, ← hname] at hheld ⊢
      rw [deliver_eq hfilters, hinv.countP_reaches hsome, ← append_assoc, hheld]
      split_ifs <;> simp

theorem Inv.popEvent (hinv : Inv s h) (token : String) :
    Inv (s.popEvent token).2 (h.step (s.popEvent token).1 (.pop token)) := by
  -- where nothing waits, nothing changes
  have hnothing (hpop' : s.popEvent token = (none, s)) :
      Inv (s.popEvent token).2 (h.step (s.popEvent token).1 (.pop token)) := by
    rw [hpop', EventHistory.step, Option.toList_none, append_nil, update_eq_self]
    exact hinv
  rcases hsome : s.subscriptions token with - | subscription
  · exact hnothing (by rw [SessionEvents.popEvent, hsome])
  rcases hpending : s.pending subscription.collector with - | ⟨e, es⟩
  · exact hnothing (by simp only [SessionEvents.popEvent, hsome, hpending])
  have hpop : s.popEvent token = (some e, { s with
      pending := update s.pending subscription.collector es }) := by
    simp only [SessionEvents.popEvent, hsome, hpending]
  rw [hpop]
  refine ⟨hinv.relay, hinv.filters, hinv.apart, hinv.old, ?_, hinv.own, hinv.names, ?_⟩
  · intro t ht
    refine ⟨(hinv.new t ht).1, ?_⟩
    have hne : t ≠ subscription.collector :=
      (lt_of_lt_of_le (hinv.old token subscription hsome) ht).ne'
    exact (update_of_ne hne es s.pending).trans (hinv.new t ht).2
  · intro token'
    have hheld := hinv.held token'
    rw [SessionEvents.held] at hheld ⊢
    rcases eq_or_ne token' token with rfl | htoken
    · simp only [hsome, hpending, EventHistory.step, update_self, Option.toList_some]
        at hheld ⊢
      rw [append_assoc]
      exact hheld
    · rcases hsome' : s.subscriptions token' with - | subscription'
      · simpa only [hsome', EventHistory.step, update_of_ne htoken] using hheld
      · have hne : subscription'.collector ≠ subscription.collector := fun hc =>
          htoken (hinv.apart token' token subscription' subscription hsome' hsome hc)
        simpa only [hsome', EventHistory.step, update_of_ne htoken,
          update_of_ne hne] using hheld

/-! ## Subscribing and unsubscribing -/

theorem Inv.replace {relay : RelayWorld} {f : String → Bool} (hinv : Inv s h)
    (hsome : s.subscriptions token = some subscription)
    (hcollector : subscription'.collector = subscription.collector) (hrelay : relay.AtRest)
    (hfilters : ∀ x ∈ relay.subscriptions, ∀ e, ∃ b, x.filter.matches e = .ok b)
    (hothers : ∀ t, t ≠ subscription.collector → relay.own t = s.relay.own t)
    (hown : ∀ x, x ∈ relay.own subscription.collector ↔
      x = relaySubscription x.id x.eventName ∧
        subscription'.subscriptionMap x.eventName = some x.id)
    (hf : ∀ name, (subscription'.subscriptionMap name).isSome = f name) :
    Inv { s with
        relay := relay
        subscriptions := Function.update s.subscriptions token (some subscription') }
      { h with subscribed := Function.update h.subscribed token f } := by
  -- a token with a subscription had one with the same collector before
  have hbefore : ∀ token' sub, update s.subscriptions token (some subscription') token' =
      some sub → ∃ sub', s.subscriptions token' = some sub' ∧ sub'.collector = sub.collector := by
    intro token' sub hsub
    rcases eq_or_ne token' token with rfl | htoken
    · rw [update_self] at hsub
      cases hsub
      exact ⟨subscription, hsome, hcollector.symm⟩
    · rw [update_of_ne htoken] at hsub
      exact ⟨sub, hsub, rfl⟩
  have hne {token' sub} (htoken : token' ≠ token) (hsub : s.subscriptions token' = some sub) :
      sub.collector ≠ subscription.collector := fun hc =>
    htoken (hinv.apart token' token sub subscription hsub hsome hc)
  refine ⟨hrelay, hfilters, ?_, ?_, ?_, ?_, ?_, ?_⟩
  · intro t₁ t₂ sub₁ sub₂ h₁ h₂ hc
    obtain ⟨sub₁', h₁', hc₁⟩ := hbefore t₁ sub₁ h₁
    obtain ⟨sub₂', h₂', hc₂⟩ := hbefore t₂ sub₂ h₂
    exact hinv.apart t₁ t₂ sub₁' sub₂' h₁' h₂' (hc₁.trans (hc.trans hc₂.symm))
  · intro token' sub hsub
    obtain ⟨sub', hsub', hc⟩ := hbefore token' sub hsub
    exact hc ▸ hinv.old token' sub' hsub'
  · intro t ht
    have hold := lt_of_lt_of_le (hinv.old token subscription hsome) ht
    exact ⟨(hothers t hold.ne').trans (hinv.new t ht).1, (hinv.new t ht).2⟩
  · intro token' sub hsub
    rcases eq_or_ne token' token with rfl | htoken
    · simp only [update_self] at hsub
      cases hsub
      rw [hcollector]
      exact hown
    · simp only [update_of_ne htoken] at hsub
      intro x
      rw [hothers _ (hne htoken hsub)]
      exact hinv.own token' sub hsub x
  · intro token' name'
    rw [isSubscribed]
    rcases eq_or_ne token' token with rfl | htoken
    · simp only [update_self]
      exact hf name'
    · simp only [update_of_ne htoken]
      exact hinv.names token' name'
  · intro token'
    refine Eq.trans ?_ (hinv.held token')
    rw [SessionEvents.held, SessionEvents.held]
    rcases eq_or_ne token' token with rfl | htoken
    · simp only [update_self, hsome, hcollector]
    · simp only [update_of_ne htoken]

theorem Inv.unsubscribeName (hinv : Inv s h) (hsome : s.subscriptions token = some subscription)
    (hok : s.unsubscribeName token subscription name = .ok (subscription', s')) :
    Inv s' (h.step none (.unsubscribe token name)) ∧
      s'.subscriptions token = some subscription' ∧
      subscription'.subscriptionMap = Function.update subscription.subscriptionMap name none ∧
      subscription'.collector = subscription.collector ∧ s'.pending = s.pending := by
  rw [SessionEvents.unsubscribeName] at hok
  rcases hmap : subscription.subscriptionMap name with - | id
  · rw [hmap] at hok
    cases hok
  rw [hmap] at hok
  cases hok
  have hmem : relaySubscription id name ∈ s.relay.own subscription.collector :=
    (hinv.own token subscription hsome _).mpr ⟨rfl, hmap⟩
  have hdistinct := hinv.relay.inv.ownDistinct subscription.collector
  refine ⟨?_, update_self .., rfl, rfl, rfl⟩
  refine hinv.replace hsome rfl (hinv.relay.unsubscribeFrom ⟨_, hmem, rfl⟩) ?_ ?_ ?_ ?_
  · intro x hx
    exact hinv.filters x (mem_of_mem_eraseP hx)
  · intro t ht
    rw [RelayWorld.own_unsubscribeFrom, if_neg ht]
  · intro x
    rw [RelayWorld.own_unsubscribeFrom, if_pos rfl, RelayWorld.mem_unsubscribe hdistinct,
      hinv.own token subscription hsome]
    dsimp only
    rcases eq_or_ne x.eventName name with hname | hname
    · rw [hname, update_self, hmap]
      constructor
      · rintro ⟨⟨-, ⟨⟩⟩, hne⟩
        exact absurd rfl hne
      · rintro ⟨-, ⟨⟩⟩
    · rw [update_of_ne hname, and_iff_left_iff_imp]
      intro hx hid
      have hxown := (hinv.own token subscription hsome x).mpr hx
      have heq := RelayWorld.eq_of_mem hdistinct hxown hmem hid
      exact hname (congrArg Subscription.eventName heq)
  · intro name'
    have hname := hinv.names token name'
    rw [isSubscribed, hsome] at hname
    simp only [update_apply]
    split_ifs
    · rfl
    · exact hname

theorem Inv.add (hinv : Inv s h) (hsome : s.subscriptions token = some subscription)
    (hmap : subscription.subscriptionMap name = none) :
    Inv { s with
        relay := s.relay.subscribeTo subscription.collector name
        subscriptions := Function.update s.subscriptions token (some { subscription with
          subscriptionMap := Function.update subscription.subscriptionMap name
            (some (s.relay.uniqueSubscriptionID name)) }) }
      (h.step none (.subscribe token name)) := by
  refine hinv.replace hsome rfl (hinv.relay.subscribeTo name) ?_ ?_ ?_ ?_
  · intro x hx e
    rw [RelayWorld.subscriptions_subscribeTo, mem_append, mem_singleton] at hx
    rcases hx with hx | rfl
    · exact hinv.filters x hx e
    · exact ⟨true, matches_relaySubscription _ _ e⟩
  · intro t ht
    rw [RelayWorld.own_subscribeTo, if_neg ht]
  · intro x
    rw [RelayWorld.own_subscribeTo, if_pos rfl, mem_append, mem_singleton,
      hinv.own token subscription hsome]
    dsimp only
    rcases eq_or_ne x.eventName name with hname | hname
    · rw [hname, update_self, hmap]
      constructor
      · rintro (⟨-, ⟨⟩⟩ | rfl)
        exact ⟨rfl, rfl⟩
      · rintro ⟨hx, hid⟩
        exact .inr ((Option.some.inj hid).symm ▸ hx)
    · rw [update_of_ne hname]
      constructor
      · rintro (hx | rfl)
        · exact hx
        · exact absurd rfl hname
      · exact .inl
  · intro name'
    have hname := hinv.names token name'
    rw [isSubscribed, hsome] at hname
    simp only [update_apply]
    split_ifs
    · rfl
    · exact hname

theorem Inv.createEventSubscription (hinv : Inv s h) (token : String) :
    Inv (s.createEventSubscription token).2 h ∧
      (s.createEventSubscription token).2.subscriptions token =
        some (s.createEventSubscription token).1 := by
  rcases hsome : s.subscriptions token with - | subscription
  swap
  · rw [SessionEvents.createEventSubscription, hsome]
    exact ⟨hinv, hsome⟩
  rw [SessionEvents.createEventSubscription, hsome]
  refine ⟨?_, update_self ..⟩
  obtain ⟨hown, hpending⟩ := hinv.new s.nextCollector le_rfl
  -- a token is the new one or it was there before
  have hcases : ∀ token' sub, update s.subscriptions token
      (some { collector := s.nextCollector }) token' = some sub →
        (token' = token ∧ sub = { collector := s.nextCollector }) ∨
          s.subscriptions token' = some sub := by
    intro token' sub hsub
    rcases eq_or_ne token' token with rfl | htoken
    · rw [update_self] at hsub
      exact .inl ⟨rfl, (Option.some.inj hsub).symm⟩
    · rw [update_of_ne htoken] at hsub
      exact .inr hsub
  refine ⟨hinv.relay, hinv.filters, ?_, ?_, ?_, ?_, ?_, ?_⟩
  · intro t₁ t₂ sub₁ sub₂ h₁ h₂ hc
    rcases hcases t₁ sub₁ h₁ with ⟨ht₁, rfl⟩ | hold₁ <;>
      rcases hcases t₂ sub₂ h₂ with ⟨ht₂, rfl⟩ | hold₂
    · exact ht₁.trans ht₂.symm
    · exact absurd hc (hinv.old t₂ sub₂ hold₂).ne'
    · exact absurd hc (hinv.old t₁ sub₁ hold₁).ne
    · exact hinv.apart t₁ t₂ sub₁ sub₂ hold₁ hold₂ hc
  · intro token' sub hsub
    rcases hcases token' sub hsub with ⟨-, rfl⟩ | hsub
    · exact Nat.lt_succ_self _
    · exact (hinv.old token' sub hsub).trans (Nat.lt_succ_self _)
  · exact fun t ht => hinv.new t (Nat.le_of_succ_le ht)
  · intro token' sub hsub x
    rcases hcases token' sub hsub with ⟨-, rfl⟩ | hsub
    · rw [hown]
      simp
    · exact hinv.own token' sub hsub x
  · intro token' name'
    have hname := hinv.names token' name'
    rw [isSubscribed] at hname ⊢
    rcases eq_or_ne token' token with rfl | htoken
    · rw [hsome] at hname
      simp only [update_self]
      exact hname
    · simpa only [update_of_ne htoken] using hname
  · intro token'
    have hheld := hinv.held token'
    rw [SessionEvents.held] at hheld ⊢
    rcases eq_or_ne token' token with rfl | htoken
    · rw [hsome] at hheld
      simpa only [update_self, hpending] using hheld
    · simpa only [update_of_ne htoken] using hheld

theorem Inv.subscribeEventSubscription (hinv : Inv s h) (token name : String) :
    Inv (s.subscribeEventSubscription token name) (h.step none (.subscribe token name)) := by
  obtain ⟨hcreated, hsome⟩ := hinv.createEventSubscription token
  rw [SessionEvents.subscribeEventSubscription]
  rcases hcreate : s.createEventSubscription token with ⟨subscription, s₁⟩
  rw [hcreate] at hcreated hsome
  simp only at hcreated hsome ⊢
  rw [subscribeName]
  rcases hname : s₁.unsubscribeName token subscription name with error | ⟨subscription₂, s₂⟩
  · refine hcreated.add hsome ?_
    rw [SessionEvents.unsubscribeName] at hname
    rcases hmap : subscription.subscriptionMap name with - | id
    · rfl
    · rw [hmap] at hname
      cases hname
  · obtain ⟨hgone, hsome₂, hmap, -, -⟩ := hcreated.unsubscribeName hsome hname
    have hnone : subscription₂.subscriptionMap name = none := by
      rw [hmap, update_self]
    have hadded := hgone.add hsome₂ hnone
    -- the history does not know that it was gone for a moment
    simpa only [EventHistory.step, update_self, update_idem] using hadded

theorem Inv.delete (hinv : Inv s h) (hsome : s.subscriptions token = some subscription)
    (hnames : ∀ name, subscription.subscriptionMap name = none)
    (hpending : s.pending subscription.collector = []) :
    ∃ s', s.deleteEventSubscription token (some subscription) = some s' ∧ Inv s' h := by
  refine ⟨_, rfl, ?_⟩
  obtain ⟨hrelay, hothers, hsubset⟩ := hinv.relay.destroy (t := subscription.collector)
  have hbefore : ∀ token' sub, update s.subscriptions token none token' = some sub →
      token' ≠ token ∧ s.subscriptions token' = some sub := by
    intro token' sub hsub
    rcases eq_or_ne token' token with rfl | htoken
    · rw [update_self] at hsub
      cases hsub
    · rw [update_of_ne htoken] at hsub
      exact ⟨htoken, hsub⟩
  refine ⟨hrelay, fun x hx => hinv.filters x (hsubset x hx), ?_, ?_, ?_, ?_, ?_, ?_⟩
  · intro t₁ t₂ sub₁ sub₂ h₁ h₂
    exact hinv.apart t₁ t₂ sub₁ sub₂ (hbefore t₁ sub₁ h₁).2 (hbefore t₂ sub₂ h₂).2
  · exact fun token' sub hsub => hinv.old token' sub (hbefore token' sub hsub).2
  · intro t ht
    have hold := lt_of_lt_of_le (hinv.old token subscription hsome) ht
    exact ⟨(hothers t hold.ne').trans (hinv.new t ht).1, (hinv.new t ht).2⟩
  · intro token' sub hsub x
    obtain ⟨htoken, hsub⟩ := hbefore token' sub hsub
    rw [hothers _ fun hc => htoken (hinv.apart token' token sub subscription hsub hsome hc)]
    exact hinv.own token' sub hsub x
  · intro token' name'
    have hname := hinv.names token' name'
    rw [isSubscribed] at hname ⊢
    rcases eq_or_ne token' token with rfl | htoken
    · rw [hsome] at hname
      simpa only [update_self, hnames, Option.isSome_none] using hname
    · simpa only [update_of_ne htoken] using hname
  · intro token'
    have hheld := hinv.held token'
    rw [SessionEvents.held] at hheld ⊢
    rcases eq_or_ne token' token with rfl | htoken
    · rw [hsome] at hheld
      simpa only [update_self, hpending] using hheld
    · simpa only [update_of_ne htoken] using hheld

theorem Inv.unsubscribeEventSubscription (hinv : Inv s h)
    (hok : Harmless s (.unsubscribe token name)) :
    ∃ s', s.unsubscribeEventSubscription token name = some s' ∧
      Inv s' (h.step none (.unsubscribe token name)) := by
  rw [SessionEvents.unsubscribeEventSubscription]
  rw [Harmless] at hok
  rcases hsome : s.subscriptions token with - | subscription
  · rw [hsome] at hok
    have hfalse := hinv.names token name
    rw [isSubscribed, hsome] at hfalse
    rw [EventHistory.step_unsubscribe_of_not_subscribed hfalse.symm]
    exact ⟨s, if_pos hok, hinv⟩
  rw [hsome] at hok
  obtain ⟨hpending, hothers⟩ := hok
  rcases hname : s.unsubscribeName token subscription name with error | ⟨subscription₂, s₂⟩
  · have hmap : subscription.subscriptionMap name = none := by
      rw [SessionEvents.unsubscribeName] at hname
      rcases hmap : subscription.subscriptionMap name with - | id
      · rfl
      · rw [hmap] at hname
        cases hname
    have hfalse := hinv.names token name
    rw [isSubscribed, hsome] at hfalse
    simp only [hmap, Option.isSome_none] at hfalse
    rw [EventHistory.step_unsubscribe_of_not_subscribed hfalse.symm]
    simp only [hname]
    refine hinv.delete hsome (fun name' => ?_) hpending
    rcases eq_or_ne name' name with rfl | hne
    · exact hmap
    · exact hothers name' hne
  · obtain ⟨hgone, hsome₂, hmap, hcollector, hpending₂⟩ := hinv.unsubscribeName hsome hname
    simp only [hname]
    have hdelete : s₂.deleteEventSubscription token (some subscription) =
        s₂.deleteEventSubscription token (some subscription₂) := by
      rw [deleteEventSubscription, deleteEventSubscription, hcollector]
    rw [hdelete]
    refine hgone.delete hsome₂ (fun name' => ?_) (by rw [hpending₂, hcollector, hpending])
    rw [hmap, update_apply]
    split_ifs with hne
    · rfl
    · exact hothers name' hne

theorem Inv.step (hinv : Inv s h) {c : EventCall} (hok : Harmless s c) :
    ∃ result s', s.step c = some (result, s') ∧ Inv s' (h.step result c) := by
  cases c with
  | subscribe token name => exact ⟨_, _, rfl, hinv.subscribeEventSubscription token name⟩
  | unsubscribe token name =>
    obtain ⟨s', hs', hinv'⟩ := hinv.unsubscribeEventSubscription hok
    refine ⟨none, s', ?_, hinv'⟩
    rw [SessionEvents.step, hs', Option.map_some]
  | raise e => exact ⟨_, _, rfl, hinv.raiseEvent e⟩
  | pop token => exact ⟨_, _, rfl, hinv.popEvent token⟩

theorem Inv.harmless_of_law (hinv : Inv s h) {c : EventCall} {result : Option Event}
    (hstep : s.step c = some (result, s')) (hlaw : Law s' (h.step result c)) : Harmless s c := by
  cases c with
  | subscribe | raise | pop => trivial
  | unsubscribe token name =>
    rw [SessionEvents.step, SessionEvents.unsubscribeEventSubscription] at hstep
    rw [Harmless]
    rcases hsome : s.subscriptions token with - | subscription
    · -- the null pointer has been compared with nothing
      simp only [hsome, deleteEventSubscription, Option.map_eq_some_iff] at hstep
      obtain ⟨_, hnone, -⟩ := hstep
      exact of_not_not fun htokens => by rw [if_neg htokens] at hnone; cases hnone
    simp only [hsome, deleteEventSubscription, Option.map_some, Option.some.injEq,
      Prod.mk.injEq] at hstep
    obtain ⟨rfl, rfl⟩ := hstep
    have hheld : s.held token = s.pending subscription.collector := by
      rw [SessionEvents.held, hsome]
    constructor
    · have hnext : none = ((h.raised token).drop (h.popped token).length).head? := by
        have hnext := hlaw.next token
        rw [fst_popEvent, SessionEvents.held] at hnext
        dsimp only at hnext
        rwa [update_self] at hnext
      rw [← hinv.held token, drop_left, hheld] at hnext
      exact head?_eq_none_iff.mp hnext.symm
    · intro name' hne
      have hafter := hlaw.names token name'
      have hbefore := hinv.names token name'
      simp only [isSubscribed, update_self] at hafter
      rw [isSubscribed, hsome] at hbefore
      simp only [EventHistory.step, update_self, update_of_ne hne, ← hbefore]
        at hafter
      exact Option.not_isSome_iff_eq_none.mp (by rw [← hafter]; exact Bool.false_ne_true)

/-! ## Runs -/

theorem Inv.delivers_iff (hinv : Inv s h) (calls : List EventCall) :
    Delivers s h calls ↔ HarmlessRun s calls := by
  induction calls generalizing s h with
  | nil => exact ⟨fun _ => trivial, fun _ => hinv.law⟩
  | cons c calls ih =>
    constructor
    · rintro ⟨-, result, s', hstep, hrest⟩
      have hlaw : Law s' (h.step result c) := by
        cases calls with
        | nil => exact hrest
        | cons => exact hrest.1
      have hok := hinv.harmless_of_law hstep hlaw
      refine ⟨hok, fun result' s₂ hstep₂ => ?_⟩
      obtain ⟨_, _, hstep₁, hinv₁⟩ := hinv.step hok
      cases hstep.symm.trans hstep₂
      cases hstep.symm.trans hstep₁
      exact (ih hinv₁).mp hrest
    · rintro ⟨hok, hrest⟩
      obtain ⟨result, s', hstep, hinv'⟩ := hinv.step hok
      exact ⟨hinv.law, result, s', hstep, (ih hinv').mpr (hrest result s' hstep)⟩

/-- **A session delivers what was raised while it was subscribed exactly if** a name is only
ever unsubscribed where its token has no other name and no event waits, or where the session
has no subscription at all. -/
theorem delivers_iff_harmlessRun (hs : Start s) (calls : List EventCall) :
    Delivers s {} calls ↔ HarmlessRun s calls :=
  hs.invariant.delivers_iff calls

def newSession : SessionEvents where
  relay := RelayWorld.noTargets

theorem start_newSession : Start newSession :=
  ⟨RelayWorld.start_noTargets.atRest, fun _ => nofun, rfl, fun _ => rfl, fun _ _ => ⟨rfl, rfl⟩⟩

/-- A name that is subscribed twice is delivered once. -/
theorem delivers_twice :
    Delivers newSession {}
      [.subscribe "token" "alarm", .subscribe "token" "alarm", .raise { name := "alarm" },
        .pop "token", .pop "token"] :=
  (delivers_iff_harmlessRun start_newSession _).mpr
    ⟨trivial, fun _ _ _ => ⟨trivial, fun _ _ _ => ⟨trivial, fun _ _ _ => ⟨trivial, fun _ _ _ =>
      ⟨trivial, fun _ _ _ => trivial⟩⟩⟩⟩⟩

/-- Of two names under a token, both go with the first that is unsubscribed. -/
theorem delivers_fails :
    ¬ ∀ (s : SessionEvents) (calls : List EventCall), Start s → Delivers s {} calls := by
  intro hall
  have hrun := (start_newSession.invariant.delivers_iff _).mp (hall newSession
    [.subscribe "token" "alarm", .subscribe "token" "wind", .unsubscribe "token" "alarm"]
    start_newSession)
  have hwind := ((hrun.2 _ _ rfl).2 _ _ rfl).1.2 "wind" (by decide)
  cases hwind

end SessionEvents

end Dss
