/-
  IpcActors.Gateway.Routing

  `commit_cross_message` on the tree path of a message (§4.3.1, §4.3.3).

  Take a message from `Sf` to `St` and a gateway at `N` on the tree path
  between them (`SubnetID.OnPath`), with `St ≠ N`.  On that path the message
  is classified bottom-up exactly while it climbs, up to and including the
  turning point `common_parent(Sf, St)`, and only if `Sf` is not an ancestor
  of `St` (`StorableMsg.applyType_onPath`).  `commit_cross_message` then
  never reaches its `common_parent(..).unwrap()` with no common parent
  (`CommitRoute.no_panic`); toward a strict descendant it commits into the
  top-down queue of the child `nextHop` names, also at the turning point
  (`CommitRoute.down`); otherwise into the bottom-up window, which the
  checkpoint carries to the parent, the other case of `nextHop`
  (`CommitRoute.up`).  With `SubnetID.route_spec` this gives `tree_routing`:
  the gateways pass the message along the tree path, each subnet once, in
  `depth Sf + depth St - 2 · depth (common_parent Sf St)` hops.
-/
import IpcActors.Gateway.Actor
import IpcActors.TreePath

namespace IpcActors.Gateway

open SubnetID

/-! ## Classification on the path -/

theorem commonParent_eq_iff {s t n : SubnetID} (hn : n.root = t.root) (hs : s.root = t.root) :
    n.commonParent t = s.commonParent t ↔ meet n t = meet s t := by
  rw [commonParent_eq_some hn, commonParent_eq_some hs]
  exact ⟨fun h => (Prod.mk.inj (Option.some.inj h)).2, fun h => h ▸ rfl⟩

/-- On its tree path a message is applied bottom-up exactly at the ancestors
    of its source, the turning point included, unless it is top-down from the
    start. -/
theorem StorableMsg.applyType_onPath {msg : StorableMsg} {n : SubnetID}
    (hp : OnPath msg.from.subnet msg.to.subnet n) :
    msg.applyType n = .BottomUp ↔ ¬ msg.from.subnet ≤ msg.to.subnet ∧ n ≤ msg.from.subnet := by
  obtain ⟨hr, hc, hor⟩ := hp
  have hcp : n.commonParent msg.to.subnet = msg.from.subnet.commonParent msg.to.subnet ↔
      n ≤ msg.from.subnet := by
    rw [commonParent_eq_iff (hc.1.symm.trans hr) hr]
    refine ⟨fun he => ?_, fun hns => meet_of_le_of_meet_le hr hns hc⟩
    refine hor.elim id fun hnt => ?_
    rw [meet_self_of_le hnt] at he
    exact he ▸ meet_le_left _ _
  unfold StorableMsg.applyType isBottomup
  by_cases h : ¬ msg.from.subnet ≤ msg.to.subnet ∧ n ≤ msg.from.subnet <;> simp_all

/-! ## What `commit_cross_message` does on the path -/

section OnPath

variable {epoch fee : Int} {st : State} {m : CrossMsg}

/-- The only panic of `commit_cross_message` is the `unwrap` of a missing
    common parent, on its bottom-up branch. -/
theorem commitCrossMessage_eq_panic (h : commitCrossMessage epoch st m fee = .error ActorError.panic) :
    m.msg.applyType st.networkName = .BottomUp ∧
      m.msg.to.subnet.commonParent m.msg.from.subnet = none := by
  unfold commitCrossMessage at h
  by_cases hto : m.msg.to.subnet = st.networkName
  · rw [if_pos hto] at h
    cases h
  rw [if_neg hto] at h
  cases hty : m.msg.applyType st.networkName <;> simp only [hty] at h
  · refine ⟨rfl, ?_⟩
    cases hcp : m.msg.to.subnet.commonParent m.msg.from.subnet with
    | none => rfl
    | some p =>
      simp only [hcp] at h
      split at h
      · cases hc : st.commitTopdownMsg m <;>
          simp [hc, bind, Except.bind, pure, Except.pure, ActorError.panic] at h
      · cases h
  · cases hc : State.commitTopdownMsg { st with appliedTopdownNonce := st.appliedTopdownNonce + 1 } m <;>
      simp [hc, bind, Except.bind, pure, Except.pure, ActorError.panic] at h

theorem commonParent_onPath (hp : OnPath m.msg.from.subnet m.msg.to.subnet st.networkName) :
    m.msg.to.subnet.commonParent m.msg.from.subnet =
      some ((meet m.msg.from.subnet m.msg.to.subnet).depth, meet m.msg.from.subnet m.msg.to.subnet) := by
  rw [commonParent_eq_some hp.1.symm, meet_comm hp.1.symm]

/-- Below the gateway, `commit_cross_message` is a top-down commit toward the
    child on the way, after moving the applied top-down nonce on if the
    message is top-down here. -/
theorem commitCrossMessage_down_eq (hp : OnPath m.msg.from.subnet m.msg.to.subnet st.networkName)
    (hne : m.msg.to.subnet ≠ st.networkName) (hlt : st.networkName < m.msg.to.subnet) :
    ∃ text, commitCrossMessage epoch st m fee =
      wrap .illegalState text (State.commitTopdownMsg (if m.msg.applyType st.networkName = .TopDown then
          { st with appliedTopdownNonce := st.appliedTopdownNonce + 1 } else st) m) >>=
        fun st' => pure (st', false, fee) := by
  unfold commitCrossMessage
  rw [if_neg hne]
  cases hty : m.msg.applyType st.networkName
  · obtain ⟨-, hns⟩ := (StorableMsg.applyType_onPath hp).1 hty
    have hturn : meet m.msg.from.subnet m.msg.to.subnet = st.networkName :=
      le_antisymm hp.2.1 (le_meet hns hlt.le)
    simp only [commonParent_onPath hp, hturn, if_true]
    exact ⟨_, rfl⟩
  · exact ⟨_, rfl⟩

/-- Elsewhere on the path, `commit_cross_message` commits into the bottom-up
    window and cannot fail. -/
theorem commitCrossMessage_up_eq (hp : OnPath m.msg.from.subnet m.msg.to.subnet st.networkName)
    (hne : m.msg.to.subnet ≠ st.networkName) (hlt : ¬ st.networkName < m.msg.to.subnet) :
    commitCrossMessage epoch st m fee =
      .ok (st.commitBottomupMsg m fee epoch, decide (m.msg.value > 0), 0) := by
  have hnt : ¬ st.networkName ≤ m.msg.to.subnet := fun h => hlt (lt_of_le_of_ne h (Ne.symm hne))
  have hns := hp.2.2.resolve_right hnt
  have hty := (StorableMsg.applyType_onPath hp).2 ⟨fun h => hnt (hns.trans h), hns⟩
  have hturn : meet m.msg.from.subnet m.msg.to.subnet ≠ st.networkName :=
    fun he => hnt (he ▸ meet_le_right hp.1)
  unfold commitCrossMessage
  simp only [if_neg hne, hty, commonParent_onPath hp, if_neg hturn]

theorem wrap_bind_eq_ok {code : ExitCode} {text : String} {x : Except String State}
    {r : State × Bool × Int} {fee : Int} :
    (wrap code text x >>= fun st' => pure (st', false, fee) : Except ActorError _) = .ok r ↔
      ∃ st', x = .ok st' ∧ r = (st', false, fee) := by
  cases x <;> simp [bind, Except.bind, pure, Except.pure, eq_comm]

/-- How `commit_cross_message` routes a message at a gateway on its tree path. -/
structure CommitRoute (epoch fee : Int) (st : State) (m : CrossMsg) : Prop where
  /-- The common parent it unwraps exists. -/
  no_panic : commitCrossMessage epoch st m fee ≠ .error ActorError.panic
  /-- Toward a strict descendant it commits into the top-down queue of the
      next hop, the child on the way, and succeeds exactly when that child is
      registered. -/
  down : st.networkName < m.msg.to.subnet → ∃ c, nextHop m.msg.to.subnet st.networkName = some c ∧
    ∀ r, commitCrossMessage epoch st m fee = .ok r ↔ ∃ sub, st.subnets c = some sub ∧
      r = ((if m.msg.applyType st.networkName = .TopDown then
              { st with appliedTopdownNonce := st.appliedTopdownNonce + 1 } else st).flushSubnet
            (sub.pushTopdownMsg m), false, fee)
  /-- Otherwise the next hop is the parent, and it commits into the bottom-up
      window, which the checkpoint takes there. -/
  up : ¬ st.networkName < m.msg.to.subnet →
    nextHop m.msg.to.subnet st.networkName = st.networkName.parent ∧
      commitCrossMessage epoch st m fee =
        .ok (st.commitBottomupMsg m fee epoch, decide (m.msg.value > 0), 0)

theorem commitRoute (hp : OnPath m.msg.from.subnet m.msg.to.subnet st.networkName)
    (hne : m.msg.to.subnet ≠ st.networkName) : CommitRoute epoch fee st m where
  no_panic h := by
    have := (commitCrossMessage_eq_panic h).2
    rw [commonParent_onPath hp] at this
    cases this
  down hlt := by
    obtain ⟨c, hc⟩ : ∃ c, m.msg.to.subnet.down st.networkName = some c := ⟨_, down_eq_some hlt⟩
    refine ⟨c, by rw [nextHop, if_pos hlt, hc], fun r => ?_⟩
    obtain ⟨text, he⟩ : ∃ text, commitCrossMessage epoch st m fee = _ :=
      commitCrossMessage_down_eq hp hne hlt
    rw [he, wrap_bind_eq_ok]
    -- the nonce bump touches neither the network's name nor the registry
    have h₀ : ∀ st₀ : State, st₀.networkName = st.networkName → st₀.subnets = st.subnets →
        ((∃ st', st₀.commitTopdownMsg m = .ok st' ∧ r = (st', false, fee)) ↔
          ∃ sub, st.subnets c = some sub ∧
            r = (st₀.flushSubnet (sub.pushTopdownMsg m), false, fee)) := by
      intro st₀ hn hs
      simp only [State.commitTopdownMsg_eq_ok_iff (hn ▸ hc), hs]
      constructor
      · rintro ⟨_, ⟨sub, hsub, rfl⟩, rfl⟩
        exact ⟨sub, hsub, rfl⟩
      · rintro ⟨sub, hsub, rfl⟩
        exact ⟨_, ⟨sub, hsub, rfl⟩, rfl⟩
    exact h₀ _ (by split <;> rfl) (by split <;> rfl)
  up hlt := ⟨if_neg hlt, commitCrossMessage_up_eq hp hne hlt⟩

end OnPath

/-! ## Routing follows the tree path -/

/-- What the gateways do with a message from `s` to `t`. -/
structure TreeRouting (s t : SubnetID) : Prop where
  /-- At every gateway on the path but `t`'s own, `commit_cross_message`
      routes the message as `CommitRoute` says. -/
  commit : ∀ (epoch fee : Int) (st : State) (m : CrossMsg), m.msg.from.subnet = s →
    m.msg.to.subnet = t → OnPath s t st.networkName → t ≠ st.networkName →
      CommitRoute epoch fee st m
  /-- The message is applied bottom-up exactly at the ancestors of `s` on the
      path, the turning point included, unless `s` is an ancestor of `t`. -/
  classify : ∀ (msg : StorableMsg) (n : SubnetID), msg.from.subnet = s → msg.to.subnet = t →
    OnPath s t n → (msg.applyType n = .BottomUp ↔ ¬ s ≤ t ∧ n ≤ s)
  /-- Hop by hop from `s`, it reaches `t` after `dist s t` hops, having
      visited every subnet of the path once and no other. -/
  hops : s.root = t.root → (route t (dist s t) s).getLast? = some t ∧
    (route t (dist s t) s).length = dist s t + 1 ∧ (route t (dist s t) s).Nodup ∧
      ∀ v, v ∈ route t (dist s t) s ↔ OnPath s t v

/-- **Tree routing.** -/
theorem tree_routing (s t : SubnetID) : TreeRouting s t where
  commit _ _ _ _ hs ht hp hne := commitRoute (hs ▸ ht ▸ hp) (ht ▸ hne)
  classify _ _ hs ht hp := by
    subst hs ht
    exact StorableMsg.applyType_onPath hp
  hops hr := route_spec _ hr rfl

end IpcActors.Gateway
