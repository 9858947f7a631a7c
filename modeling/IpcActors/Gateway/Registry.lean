/-
  IpcActors.Gateway.Registry

  The registry invariant P1 of the gateway (§4.1, §8).  On every run, every
  entry holds a non-negative stake and is Active exactly when that stake
  reaches `MIN_COLLATERAL_AMOUNT`; so `CommitChildCheckpoint`, which asks for an
  Active entry, only lands for a subnet that holds the collateral.

  The circulating supply is another matter.  `ApplyMessage` parks whatever
  message the system actor hands it, and `Propagate` later commits it top-down,
  adding its value, negative or not, to the next child's supply
  (`commit_topdown_msg`).  The supply stays non-negative on the runs whose
  applied messages carry no negative value (`Call.NonnegApply`): there `Kill`,
  which refuses a positive supply, only removes a subnet with none left.
  `circSupply_negative` is a run of three calls that drives a child's supply to
  `-1`.
-/
import IpcActors.Gateway.Frame

namespace IpcActors.Gateway

/-! ## Stake and status -/

/-- The stake part of P1 for one entry. -/
def Subnet.StakeOk (min : Int) (sub : Subnet) : Prop :=
  0 ≤ sub.stake ∧ (sub.status = .Active ↔ min ≤ sub.stake)

theorem Subnet.stakeOk_addStake {min v : Int} {sub : Subnet} (h : 0 ≤ sub.stake + v) :
    (sub.addStake min v).StakeOk min := by
  simp [Subnet.StakeOk, statusOf_eq_active, h]

theorem Subnet.StakeOk.of_eq {min : Int} {sub sub' : Subnet} (h : sub.StakeOk min)
    (hs : sub'.stake = sub.stake) (hst : sub'.status = sub.status) : sub'.StakeOk min := by
  unfold Subnet.StakeOk; rw [hs, hst]; exact h

variable (env : Env)

/-- Every transaction keeps the stake part of P1. -/
theorem stakeOk_step {info : MessageInfo} {m : Method} {st st' : State}
    (hc : Commits env info m st st')
    (h : AllSubnets (Subnet.StakeOk env.minCollateralAmount) st) :
    AllSubnets (Subnet.StakeOk env.minCollateralAmount) st' := by
  have push : ∀ (m : CrossMsg) (sub : Subnet), sub.StakeOk env.minCollateralAmount →
      (sub.pushTopdownMsg m).StakeOk env.minCollateralAmount :=
    fun m sub hs => hs.of_eq (by simp) (by simp)
  cases hc with
  | register hr =>
    obtain ⟨-, -, rfl⟩ := registerTx_eq_ok env info hr
    exact h.flushSubnet ⟨info.valueReceived_nonneg, statusOf_eq_active⟩
  | addStake hv ha =>
    obtain ⟨sub, hs, rfl⟩ := addStakeTx_eq_ok env info ha
    have := (h _ _ hs).1
    exact h.flushSubnet (Subnet.stakeOk_addStake (by omega))
  | releaseStake _ hr =>
    obtain ⟨sub, -, hle, -, rfl⟩ := releaseStakeTx_eq_ok env info hr
    exact h.flushSubnet (Subnet.stakeOk_addStake (by omega))
  | kill hk =>
    obtain ⟨-, -, -, -, rfl, -⟩ := killTx_eq_ok info hk
    exact h.rmSubnet _
  | commitChildCheck _ hcc =>
    obtain ⟨sub, st₁, sub₁, ch, hs, -, -, hb, -, rfl⟩ := commitChildCheckTx_eq_ok env info hcc
    have h₁ : sub₁.StakeOk env.minCollateralAmount := by
      rcases commitBundle_eq_ok hb with ⟨-, -, rfl, -⟩ | ⟨_, -, -, -, rfl, -⟩
      · exact h _ _ hs
      · exact (h _ _ hs).of_eq rfl rfl
    exact (h.of_subnets_eq ((commitBundle_frame hb).1.trans rfl)).flushSubnet (h₁.of_eq rfl rfl)
  | fund hf =>
    obtain ⟨_, -, -, ht⟩ := fundTx_eq_ok info hf
    exact h.commitTopdownMsg (push _) ht
  | release hr =>
    obtain ⟨_, -, -, -, rfl⟩ := releaseTx_eq_ok info hr
    exact h.of_subnets_eq (State.commitBottomupMsg_fields ..).1
  | sendCross hs => exact h.commitCrossMessage (push _) (sendCrossTx_eq_ok info hs).2.2.2.2
  | applyBottomup _ _ _ ha =>
    obtain ⟨-, rfl⟩ := applyBottomupTx_eq_ok ha
    exact h
  | applyTopdown _ _ _ _ ha => cases ha; exact h
  | park _ _ hp => cases hp; exact h
  | whitelist hw =>
    obtain ⟨_, _, -, -, -, rfl⟩ := whitelistPropagatorTx_eq_ok info hw
    exact h
  | propagate hp =>
    obtain ⟨_, _, -, -, -, -, -, hcm, rfl⟩ := propagateTx_eq_ok info hp
    exact (h.commitCrossMessage (push _) hcm).of_subnets_eq (State.removeFromPostbox_fields ..).1

/-! ## Circulating supply -/

/-- A call that, if it is `ApplyMessage`, hands over a message of non-negative
    value. -/
def Call.NonnegApply (c : Call) : Prop :=
  ∀ p, c.method = .applyMessage p → 0 ≤ p.crossMsg.msg.value

/-- The supply part of P1, with what keeps it: the parked messages, which a
    `Propagate` may commit top-down, carry no negative value. -/
structure SupplyOk (st : State) : Prop where
  circ : AllSubnets (fun sub => 0 ≤ sub.circSupply) st
  parked : AllItems (fun item => 0 ≤ item.crossMsg.msg.value) st

/-- Every transaction of a call admitted by `Call.NonnegApply` keeps the supply
    part of P1. -/
theorem supplyOk_step {c : Call} {st st' : State} (hq : c.NonnegApply)
    (hc : Commits env c.info c.method st st') (h : SupplyOk st) : SupplyOk st' := by
  have push : ∀ (m : CrossMsg), 0 ≤ m.msg.value → ∀ sub : Subnet, 0 ≤ sub.circSupply →
      0 ≤ (sub.pushTopdownMsg m).circSupply := fun m hm sub hs => by simp; omega
  obtain ⟨info, m⟩ := c
  cases hc with
  | register hr =>
    obtain ⟨-, -, rfl⟩ := registerTx_eq_ok env info hr
    exact ⟨h.circ.flushSubnet (Int.le_refl 0), h.parked⟩
  | addStake _ ha =>
    obtain ⟨sub, hs, rfl⟩ := addStakeTx_eq_ok env info ha
    exact ⟨h.circ.flushSubnet (by simpa using h.circ _ _ hs), h.parked⟩
  | releaseStake _ hr =>
    obtain ⟨sub, hs, -, -, rfl⟩ := releaseStakeTx_eq_ok env info hr
    exact ⟨h.circ.flushSubnet (by simpa using h.circ _ _ hs), h.parked⟩
  | kill hk =>
    obtain ⟨-, -, -, -, rfl, -⟩ := killTx_eq_ok info hk
    exact ⟨h.circ.rmSubnet _, h.parked⟩
  | commitChildCheck _ hcc =>
    obtain ⟨sub, st₁, sub₁, ch, hs, -, -, hb, -, rfl⟩ := commitChildCheckTx_eq_ok env info hcc
    have h₁ : 0 ≤ sub₁.circSupply := by
      rcases commitBundle_eq_ok hb with ⟨-, -, rfl, -⟩ | ⟨_, -, -, hle, rfl, -⟩
      · exact h.circ _ _ hs
      · show 0 ≤ sub.circSupply - _; omega
    have hf := commitBundle_frame hb
    exact ⟨(h.circ.of_subnets_eq hf.1).flushSubnet h₁, h.parked.of_postbox_eq hf.2.2.1⟩
  | fund hf =>
    obtain ⟨_, hlt, hm, ht⟩ := fundTx_eq_ok info hf
    obtain ⟨_, -, rfl⟩ := StorableMsg.newFundMsg_eq_ok hm
    exact ⟨h.circ.commitTopdownMsg (push _ (by show (0 : Int) ≤ _ - _; omega)) ht,
      h.parked.of_postbox_eq (State.commitTopdownMsg_frame ht).2.1⟩
  | release hr =>
    obtain ⟨_, -, -, -, rfl⟩ := releaseTx_eq_ok info hr
    exact ⟨h.circ.of_subnets_eq (State.commitBottomupMsg_fields ..).1, h.parked⟩
  | sendCross hs =>
    obtain ⟨-, -, hlt, hr, hcm⟩ := sendCrossTx_eq_ok info hs
    refine ⟨h.circ.commitCrossMessage (push _ ?_) hcm,
      h.parked.of_postbox_eq (commitCrossMessage_frame hcm).2⟩
    rw [hr]; show (0 : Int) ≤ _ - _; omega
  | applyBottomup _ _ _ ha =>
    obtain ⟨-, rfl⟩ := applyBottomupTx_eq_ok ha
    exact ⟨h.circ, h.parked⟩
  | applyTopdown _ _ _ _ ha => cases ha; exact ⟨h.circ, h.parked⟩
  | @park p _ _ _ _ _ hp =>
    cases hp
    exact ⟨h.circ, h.parked.update (by rintro _ ⟨⟩; exact hq p rfl)
      (State.insertPostbox_fields ..).2.2.1⟩
  | whitelist hw =>
    obtain ⟨item, _, hi, -, -, rfl⟩ := whitelistPropagatorTx_eq_ok info hw
    exact ⟨h.circ, h.parked.update (by rintro _ ⟨⟩; exact (h.parked _ _ hi :)) rfl⟩
  | propagate hp =>
    obtain ⟨item, _, hi, -, -, -, -, hcm, rfl⟩ := propagateTx_eq_ok info hp
    exact ⟨(h.circ.commitCrossMessage (push _ (h.parked _ _ hi)) hcm).of_subnets_eq
      (State.removeFromPostbox_fields ..).1,
      (h.parked.of_postbox_eq (commitCrossMessage_frame hcm).2).update (by rintro _ ⟨⟩) rfl⟩

/-! ## P1 on reachable states -/

/-- P1's stake part and its consequence for `CommitChildCheckpoint`. -/
structure RegistrySound (st : State) : Prop where
  stake_nonneg : ∀ id sub, st.subnets id = some sub → 0 ≤ sub.stake
  active_iff : ∀ id sub, st.subnets id = some sub →
    (sub.status = .Active ↔ env.minCollateralAmount ≤ sub.stake)
  commit_collateral : ∀ info ch st', Commits env info (.commitChildCheckpoint ch) st st' →
    ∃ sub, st.subnets (SubnetID.newFromParent st.networkName info.caller) = some sub ∧
      env.minCollateralAmount ≤ sub.stake

/-- P1's supply part and its consequence for `Kill`. -/
structure SupplySound (st : State) : Prop where
  circ_nonneg : ∀ id sub, st.subnets id = some sub → 0 ≤ sub.circSupply
  kill_empty : ∀ info st', Commits env info .kill st st' →
    ∃ sub, st.subnets (SubnetID.newFromParent st.networkName info.caller) = some sub ∧
      sub.circSupply = 0

theorem registrySound_of_stakeOk {st : State}
    (h : AllSubnets (Subnet.StakeOk env.minCollateralAmount) st) : RegistrySound env st where
  stake_nonneg id sub hs := (h id sub hs).1
  active_iff id sub hs := (h id sub hs).2
  commit_collateral info ch st' hc := by
    cases hc with
    | commitChildCheck _ hcc =>
      obtain ⟨sub, -, -, -, hs, ha, -⟩ := commitChildCheckTx_eq_ok env info hcc
      exact ⟨sub, hs, (h _ _ hs).2.1 ha⟩

theorem supplySound_of_supplyOk {st : State} (h : SupplyOk st) : SupplySound env st where
  circ_nonneg := h.circ
  kill_empty info st' hc := by
    cases hc with
    | kill hk =>
      obtain ⟨sub, hs, -, hle, -⟩ := killTx_eq_ok info hk
      exact ⟨sub, hs, Int.le_antisymm hle (h.circ _ _ hs)⟩

/-- **Registry invariant.**  Every reachable gateway satisfies P1's stake part;
    those reached by calls that apply no negative value also satisfy its
    supply part. -/
theorem registry_invariant {rt : Runtime State} :
    (Reachable env (fun _ => True) rt → RegistrySound env rt.state) ∧
      (Reachable env Call.NonnegApply rt → SupplySound env rt.state) := by
  refine ⟨fun hr => registrySound_of_stakeOk env (hr.inv env ?_ ?_),
    fun hr => supplySound_of_supplyOk env (hr.inv env ?_ ?_)⟩
  · intro _ _ _ h; cases h
  · exact fun _ _ _ _ h hc => stakeOk_step env hc h
  · exact fun _ => ⟨fun _ _ h => (by cases h), fun _ _ h => (by cases h)⟩
  · exact fun _ _ _ hq h hc => supplyOk_step env hq hc h

/-! ## Two runs on a root network with one child -/

/-- Actor `5` registers its subnet with one token of stake, and account `9`
    funds it. -/
def demoFundCalls : List Call :=
  [⟨⟨5, false, 1, by decide, 0⟩, .register⟩,
   ⟨⟨9, true, crossMsgFee + 3, by decide, 0⟩, .fund demoChild⟩]

theorem registry_invariant_demo :
    RegistrySound demoEnv (run demoEnv demoRuntime demoFundCalls).state ∧
      SupplySound demoEnv (run demoEnv demoRuntime demoFundCalls).state :=
  ⟨(registry_invariant demoEnv).1 (reachable_run demoEnv (.init _ rfl) fun _ _ => trivial),
    (registry_invariant demoEnv).2 (reachable_run demoEnv (.init _ rfl) (by
      intro c hc p hp
      simp only [demoFundCalls, List.mem_cons, List.mem_singleton, List.not_mem_nil,
        or_false] at hc
      rcases hc with rfl | rfl <;> cases hp))⟩

/-- A message from the root to the child carrying `-1`, as the system actor
    hands it to the root's gateway. -/
def negativeMsg : CrossMsg := ⟨⟨⟨demoRoot, 7⟩, ⟨demoChild, 8⟩, 0, -1, 0⟩, false⟩

/-- Actor `5` registers; the system actor applies `negativeMsg`, which is
    parked since it is not for the root; its sender `7` propagates it. -/
def negativeSupplyCalls : List Call :=
  [⟨⟨5, false, 1, by decide, 0⟩, .register⟩,
   ⟨⟨systemActorAddr, false, 0, by decide, 0⟩, .applyMessage ⟨negativeMsg⟩⟩,
   ⟨⟨7, false, crossMsgFee + 1, by decide, 0⟩, .propagate ⟨0⟩⟩]

/-- The supply part of P1 fails on a reachable gateway: the child's
    circulating supply is `-1`. -/
theorem circSupply_negative :
    Reachable demoEnv (fun _ => True) (run demoEnv demoRuntime negativeSupplyCalls) ∧
      ((run demoEnv demoRuntime negativeSupplyCalls).state.subnets demoChild).map
        Subnet.circSupply = some (-1) :=
  ⟨reachable_run demoEnv (.init _ rfl) fun _ _ => trivial, by decide⟩

end IpcActors.Gateway
