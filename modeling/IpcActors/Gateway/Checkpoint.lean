/-
  IpcActors.Gateway.Checkpoint

  The chain of checkpoints the gateway accepts from each child (§4.2).

  `commit_child_check` identifies the child by its caller: the entry it checks
  and updates is `new_from_parent(N, caller)`, and of the checkpoint's source
  it only asks that the source's subnet actor be the caller.  Against the
  child's previous checkpoint it asks that `prev_check` be its cid and that the
  previous epoch not lie after the new one.  After a success the child's
  `prev_checkpoint` is the checkpoint just accepted.

  `prev_checkpoint` is the chain's memory: on every reachable gateway, an entry's
  `prev_checkpoint` is set to `none` by `Register`, to the checkpoint by an
  accepted `CommitChildCheckpoint` of that child, is dropped with the entry by
  `Kill`, and no other call touches it (`CheckpointChain.frame`).  So between a
  child's registration and its kill, each accepted checkpoint after the first
  names the cid of the one accepted just before it.

  The checks are weaker than a chain of strictly increasing epochs from the
  child itself: the source is never compared with the child's id, only its
  subnet actor with the caller, and an epoch may repeat.
  `foreignSource_sameEpoch` has a child's actor get a checkpoint with a source
  under another root accepted and stored as the child's previous checkpoint,
  then a second one of the same epoch.
-/
import IpcActors.Gateway.Frame

namespace IpcActors.Gateway

variable (env : Env)

/-! ## Registry entries under their own id -/

/-- Every entry of the registry sits under its own id. -/
def Keyed (st : State) : Prop := ∀ id sub, st.subnets id = some sub → sub.id = id

theorem Keyed.flushSubnet {st : State} (h : Keyed st) (sub : Subnet) :
    Keyed (st.flushSubnet sub) := by
  intro id s hs
  simp only [State.flushSubnet_fields, Function.update_apply] at hs
  split at hs
  · rename_i he; cases hs; exact he.symm
  · exact h id s hs

theorem Keyed.rmSubnet {st : State} (h : Keyed st) (id : SubnetID) : Keyed (st.rmSubnet id) := by
  intro id' s hs
  simp only [State.rmSubnet_fields, Function.update_apply] at hs
  split at hs
  · cases hs
  · exact h id' s hs

theorem Keyed.of_subnets_eq {st st' : State} (h : Keyed st) (he : st'.subnets = st.subnets) :
    Keyed st' :=
  fun id sub hs => h id sub (he ▸ hs)

theorem Keyed.commitTopdownMsg {st st' : State} {m : CrossMsg} (h : Keyed st)
    (hc : st.commitTopdownMsg m = .ok st') : Keyed st' := by
  obtain ⟨_, _, -, -, rfl⟩ := State.commitTopdownMsg_eq_ok hc
  exact h.flushSubnet _

theorem Keyed.commitCrossMessage {st st' : State} {m : CrossMsg} {epoch fee f : Int} {b : Bool}
    (h : Keyed st) (hc : commitCrossMessage epoch st m fee = .ok (st', b, f)) : Keyed st' := by
  obtain ⟨-, ⟨-, ht, -⟩ | ⟨-, -, ht, -⟩ | ⟨-, -, rfl, -⟩⟩ := commitCrossMessage_eq_ok hc
  · exact (show Keyed { st with appliedTopdownNonce := st.appliedTopdownNonce + 1 } from h)
      |>.commitTopdownMsg ht
  · exact h.commitTopdownMsg ht
  · exact h.of_subnets_eq (State.commitBottomupMsg_fields ..).1

theorem keyed_step {info : MessageInfo} {m : Method} {st st' : State}
    (hc : Commits env info m st st') (h : Keyed st) : Keyed st' := by
  cases hc with
  | register hr =>
    obtain ⟨-, -, rfl⟩ := registerTx_eq_ok env info hr
    exact h.flushSubnet _
  | addStake _ ha =>
    obtain ⟨_, -, rfl⟩ := addStakeTx_eq_ok env info ha
    exact h.flushSubnet _
  | releaseStake _ hr =>
    obtain ⟨_, -, -, -, rfl⟩ := releaseStakeTx_eq_ok env info hr
    exact h.flushSubnet _
  | kill hk =>
    obtain ⟨_, -, -, -, rfl, -⟩ := killTx_eq_ok info hk
    exact h.rmSubnet _
  | commitChildCheck _ hcc =>
    obtain ⟨_, _, _, _, -, -, -, hb, -, rfl⟩ := commitChildCheckTx_eq_ok env info hcc
    exact (h.of_subnets_eq (commitBundle_frame hb).1 |>.of_subnets_eq rfl).flushSubnet _
  | fund hf =>
    obtain ⟨_, -, -, ht⟩ := fundTx_eq_ok info hf
    exact h.commitTopdownMsg ht
  | release hr =>
    obtain ⟨_, -, -, -, rfl⟩ := releaseTx_eq_ok info hr
    exact h.of_subnets_eq (State.commitBottomupMsg_fields ..).1
  | sendCross hs => exact h.commitCrossMessage (sendCrossTx_eq_ok info hs).2.2.2.2
  | applyBottomup _ _ _ ha =>
    obtain ⟨-, rfl⟩ := applyBottomupTx_eq_ok ha
    exact h
  | applyTopdown _ _ _ _ ha => cases ha; exact h
  | park _ _ hp => cases hp; exact h
  | whitelist hw =>
    obtain ⟨_, _, -, -, -, rfl⟩ := whitelistPropagatorTx_eq_ok info hw
    exact h
  | propagate hp =>
    obtain ⟨_, _, -, -, -, -, -, hcm, rfl⟩ := propagateTx_eq_ok info hp
    exact (h.commitCrossMessage hcm).of_subnets_eq (State.removeFromPostbox_fields ..).1

/-! ## The previous checkpoint of each child -/

/-- The previous checkpoint the registry holds for `id`: `none` when `id` is not
    registered, `some none` before its first checkpoint. -/
def State.prevCheckpointOf (st : State) (id : SubnetID) : Option (Option Checkpoint) :=
  (st.subnets id).map Subnet.prevCheckpoint

/-- Writing back an entry with the same previous checkpoint moves no chain. -/
theorem prevCheckpointOf_flushSubnet {st : State} (h : Keyed st) {sub : Subnet}
    {id : SubnetID} (hs : st.subnets id = some sub) (sub' : Subnet) (hid : sub'.id = sub.id)
    (hp : sub'.prevCheckpoint = sub.prevCheckpoint) (id' : SubnetID) :
    (st.flushSubnet sub').prevCheckpointOf id' = st.prevCheckpointOf id' := by
  simp only [State.prevCheckpointOf, State.flushSubnet_fields, Function.update_apply]
  split
  · rename_i he; subst he; rw [hid, h id sub hs, hs]; simp [hp]
  · rfl

theorem prevCheckpointOf_commitTopdownMsg {st st' : State} {m : CrossMsg} (h : Keyed st)
    (hc : st.commitTopdownMsg m = .ok st') (id : SubnetID) :
    st'.prevCheckpointOf id = st.prevCheckpointOf id := by
  obtain ⟨_, sub, -, hs, rfl⟩ := State.commitTopdownMsg_eq_ok hc
  exact prevCheckpointOf_flushSubnet h hs (sub.pushTopdownMsg m) rfl rfl id

theorem prevCheckpointOf_commitCrossMessage {st st' : State} {m : CrossMsg} {epoch fee f : Int}
    {b : Bool} (h : Keyed st) (hc : commitCrossMessage epoch st m fee = .ok (st', b, f))
    (id : SubnetID) : st'.prevCheckpointOf id = st.prevCheckpointOf id := by
  obtain ⟨-, ⟨-, ht, -⟩ | ⟨-, -, ht, -⟩ | ⟨-, -, rfl, -⟩⟩ := commitCrossMessage_eq_ok hc
  · exact prevCheckpointOf_commitTopdownMsg
      (show Keyed { st with appliedTopdownNonce := st.appliedTopdownNonce + 1 } from h) ht id
  · exact prevCheckpointOf_commitTopdownMsg h ht id
  · rfl

/-- The chain after the call, if the call moved it: a registration of the
    caller's subnet starts it, an accepted checkpoint of it extends it, a kill
    of it ends it. -/
def ChainMove (network : SubnetID) (info : MessageInfo) (m : Method) (id : SubnetID)
    (after : Option (Option Checkpoint)) : Prop :=
  id = SubnetID.newFromParent network info.caller ∧
    ((m = .register ∧ after = some none) ∨
      (∃ ch, m = .commitChildCheckpoint ch ∧ after = some (some ch)) ∨
      (m = .kill ∧ after = none))

theorem chainMove_of_flushSubnet {st : State} {network : SubnetID} {info : MessageInfo}
    {m : Method} {sub : Subnet} (hid : sub.id = SubnetID.newFromParent network info.caller)
    (hm : (m = .register ∧ sub.prevCheckpoint = none) ∨
      (∃ ch, m = .commitChildCheckpoint ch ∧ sub.prevCheckpoint = some ch))
    {id : SubnetID} (hne : (st.flushSubnet sub).prevCheckpointOf id ≠ st.prevCheckpointOf id) :
    ChainMove network info m id ((st.flushSubnet sub).prevCheckpointOf id) := by
  simp only [State.prevCheckpointOf, State.flushSubnet_fields, Function.update_apply] at hne ⊢
  split at hne
  · rename_i he
    subst he
    rw [if_pos rfl]
    rcases hm with ⟨rfl, hp⟩ | ⟨ch, rfl, hp⟩
    · exact ⟨hid, .inl ⟨rfl, by simp [hp]⟩⟩
    · exact ⟨hid, .inr (.inl ⟨ch, rfl, by simp [hp]⟩)⟩
  · exact absurd rfl hne

/-- **One step of the chains.**  On a keyed registry, a committed call that moves
    the previous checkpoint of some subnet is a `Register`, an accepted
    `CommitChildCheckpoint` or a `Kill` of the caller's subnet, and moves it as
    `ChainMove` says. -/
theorem prevCheckpointOf_step {info : MessageInfo} {m : Method} {st st' : State}
    (hc : Commits env info m st st') (h : Keyed st) (id : SubnetID)
    (hne : st'.prevCheckpointOf id ≠ st.prevCheckpointOf id) :
    ChainMove st.networkName info m id (st'.prevCheckpointOf id) := by
  cases hc with
  | register hr =>
    obtain ⟨rfl, -, rfl⟩ := registerTx_eq_ok env info hr
    exact chainMove_of_flushSubnet rfl (.inl ⟨rfl, rfl⟩) hne
  | addStake _ ha =>
    obtain ⟨sub, hs, rfl⟩ := addStakeTx_eq_ok env info ha
    exact absurd (prevCheckpointOf_flushSubnet h hs (sub.addStake _ _) rfl rfl id) hne
  | releaseStake _ hr =>
    obtain ⟨sub, hs, -, -, rfl⟩ := releaseStakeTx_eq_ok env info hr
    exact absurd (prevCheckpointOf_flushSubnet h hs (sub.addStake _ _) rfl rfl id) hne
  | kill hk =>
    obtain ⟨_, -, -, -, rfl, -⟩ := killTx_eq_ok info hk
    simp only [State.prevCheckpointOf, State.rmSubnet_fields, Function.update_apply] at hne ⊢
    split at hne
    · rename_i he; subst he; exact ⟨rfl, .inr (.inr ⟨rfl, by simp⟩)⟩
    · exact absurd rfl hne
  | @commitChildCheck ch _ _ _ _ hcc =>
    obtain ⟨sub, st₁, sub₁, _, hs, -, -, hb, -, rfl⟩ := commitChildCheckTx_eq_ok env info hcc
    have hid : ({ sub₁ with prevCheckpoint := some ch } : Subnet).id = _ :=
      (congrArg Subnet.id (commitBundle_sub hb)).trans (h _ sub hs)
    have hst : ∀ id, (st₁.flushCheckpoint ‹_›).prevCheckpointOf id = st.prevCheckpointOf id :=
      fun id => by simp only [State.prevCheckpointOf, State.flushCheckpoint_fields,
        (commitBundle_frame hb).1]
    rw [← hst] at hne
    exact chainMove_of_flushSubnet hid (.inr ⟨ch, rfl, rfl⟩) hne
  | fund hf =>
    obtain ⟨_, -, -, ht⟩ := fundTx_eq_ok info hf
    exact absurd (prevCheckpointOf_commitTopdownMsg h ht id) hne
  | release hr =>
    obtain ⟨_, -, -, -, rfl⟩ := releaseTx_eq_ok info hr
    exact absurd rfl hne
  | sendCross hs =>
    exact absurd (prevCheckpointOf_commitCrossMessage h (sendCrossTx_eq_ok info hs).2.2.2.2 id) hne
  | applyBottomup _ _ _ ha =>
    obtain ⟨-, rfl⟩ := applyBottomupTx_eq_ok ha
    exact absurd rfl hne
  | applyTopdown _ _ _ _ ha => cases ha; exact absurd rfl hne
  | park _ _ hp => cases hp; exact absurd rfl hne
  | whitelist hw =>
    obtain ⟨_, _, -, -, -, rfl⟩ := whitelistPropagatorTx_eq_ok info hw
    exact absurd rfl hne
  | propagate hp =>
    obtain ⟨_, _, -, -, -, -, -, hcm, rfl⟩ := propagateTx_eq_ok info hp
    exact absurd (prevCheckpointOf_commitCrossMessage h hcm id) hne

/-! ## The chain of accepted checkpoints -/

/-- What the gateway guarantees of the checkpoints it accepts from a child. -/
structure CheckpointChain (st : State) : Prop where
  /-- An accepted checkpoint comes from the registered and Active subnet of its
      caller, whose actor its source names; it extends that subnet's previous
      checkpoint, if any, by cid and without going back in epoch; and it
      becomes the subnet's previous checkpoint. -/
  accept : ∀ info ch st', Commits env info (.commitChildCheckpoint ch) st st' →
    ch.source.subnetActor = info.caller ∧
    ∃ sub, st.subnets (SubnetID.newFromParent st.networkName info.caller) = some sub ∧
      sub.status = .Active ∧ (∀ prev, sub.prevCheckpoint = some prev →
        ch.prevCheck = env.checkpointCid prev ∧ prev.epoch ≤ ch.epoch) ∧
      st'.prevCheckpointOf (SubnetID.newFromParent st.networkName info.caller) = some (some ch)
  /-- Nothing else moves a subnet's previous checkpoint but its registration
      and its kill. -/
  frame : ∀ info m st' id, Commits env info m st st' →
    st'.prevCheckpointOf id ≠ st.prevCheckpointOf id →
      ChainMove st.networkName info m id (st'.prevCheckpointOf id)

theorem chain_accept {info : MessageInfo} {ch : Checkpoint} {st st' : State} (h : Keyed st)
    (hc : Commits env info (.commitChildCheckpoint ch) st st') :
    ch.source.subnetActor = info.caller ∧
    ∃ sub, st.subnets (SubnetID.newFromParent st.networkName info.caller) = some sub ∧
      sub.status = .Active ∧ (∀ prev, sub.prevCheckpoint = some prev →
        ch.prevCheck = env.checkpointCid prev ∧ prev.epoch ≤ ch.epoch) ∧
      st'.prevCheckpointOf (SubnetID.newFromParent st.networkName info.caller) = some (some ch) := by
  cases hc with
  | commitChildCheck hcaller hcc =>
    obtain ⟨sub, st₁, sub₁, _, hs, ha, hp, hb, -, rfl⟩ := commitChildCheckTx_eq_ok env info hcc
    refine ⟨hcaller.symm, sub, hs, ha, fun prev he => ?_, ?_⟩
    · rw [he] at hp; exact (checkPrev_eq_ok env hp).symm
    · have hid : sub₁.id = _ := (congrArg Subnet.id (commitBundle_sub hb)).trans (h _ sub hs)
      simp [State.prevCheckpointOf, (commitBundle_frame hb).2.1, hid]

/-- **Checkpoint chain.**  Every reachable gateway satisfies `CheckpointChain`. -/
theorem checkpoint_chain {rt : Runtime State} (hr : Reachable env (fun _ => True) rt) :
    CheckpointChain env rt.state :=
  have hk : Keyed rt.state := hr.inv env (fun _ _ _ h => by cases h)
    fun _ _ _ _ h hc => keyed_step env hc h
  ⟨fun _ _ _ hc => chain_accept env hk hc,
    fun _ _ _ id hc hne => prevCheckpointOf_step env hc hk id hne⟩

/-- Actor `5` registers its subnet, then commits a checkpoint whose source is
    its subnet under another root, then one from its own subnet with the same
    epoch; `demoEnv` gives every checkpoint cid `0`. -/
def foreignCheckpoint : Checkpoint := ⟨⟨9, [5]⟩, 10, 0, none, []⟩

def sameEpochCheckpoint : Checkpoint := ⟨demoChild, 10, 0, none, []⟩

def foreignChainCalls : List Call :=
  [⟨⟨5, false, 1, by decide, 0⟩, .register⟩,
   ⟨⟨5, false, 0, by decide, 0⟩, .commitChildCheckpoint foreignCheckpoint⟩,
   ⟨⟨5, false, 0, by decide, 0⟩, .commitChildCheckpoint sameEpochCheckpoint⟩]

theorem checkpoint_chain_demo :
    CheckpointChain demoEnv (run demoEnv demoRuntime foreignChainCalls).state :=
  checkpoint_chain demoEnv (reachable_run demoEnv (.init _ rfl) fun _ _ => trivial)

/-- **The source of a checkpoint is not checked against the child.**  Both
    checkpoints are accepted and stored as `demoChild`'s previous checkpoint:
    the first has a source under another root, the second the same epoch as
    the first. -/
theorem foreignSource_sameEpoch :
    (run demoEnv demoRuntime (foreignChainCalls.take 2)).state.prevCheckpointOf demoChild =
        some (some foreignCheckpoint) ∧
      (run demoEnv demoRuntime foreignChainCalls).state.prevCheckpointOf demoChild =
        some (some sameEpochCheckpoint) ∧
      foreignCheckpoint.source ≠ demoChild ∧
      sameEpochCheckpoint.prevCheck = demoEnv.checkpointCid foreignCheckpoint ∧
      sameEpochCheckpoint.epoch = foreignCheckpoint.epoch := by
  decide

end IpcActors.Gateway
