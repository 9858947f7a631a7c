/-
  IpcActors.Joint.Compose

  The pair seen from each of its actors (§4.1, §4.4, §7).

  A step of the pair moves the gateway's committed state by at most one of
  the gateway's own transactions, with the subnet actor as caller
  (`step_gateway`), and the subnet actor's committed state by at most one of
  its own transactions (`step_subnetActor`): the `Reward` a checkpoint fee
  triggers only sends.  So every invariant proved of either actor on its own
  holds on every run of the pair, whatever calls the subnet actor receives
  (`run_gateway_inv`, `run_subnetActor_inv`).  `pair_invariants` carries over
  the gateway's registry invariant (the stake part of P1), and the subnet
  actor's validator book and status against the collateral.

  The gateway's record of the subnet's checkpoints is backed by the subnet
  actor: whatever the calls, the checkpoint the gateway holds as the
  subnet's previous one is one the subnet actor committed, after votes of two
  thirds of its stake (`checkpoints_backed`).  The gateway takes a
  checkpoint of the subnet only from the subnet actor, and the subnet actor
  sends only the checkpoints it flushes, each once and in order: the
  checkpoints the gateway accepts are a sublist of those the subnet actor
  committed (`accepted_checkpoints_committed`).

  On runs of Join, Leave and Kill the two actors then agree on the status of
  the subnet: the gateway's entry is Active exactly when the subnet actor is
  (`status_agreement`), since both compare the same stake with the same
  minimum collateral.
-/
import IpcActors.Joint.Protocol
import IpcActors.Gateway.Registry
import IpcActors.Gateway.Checkpoint

namespace IpcActors.Joint

open Gateway (Env MessageInfo demoEnv demoChild)
open SubnetActor (CrossActorPayload Commits)

variable (env : Env) (receiver : Address)

/-! ## Each actor's share of a step -/

section Share

variable {env receiver}

/-- The gateway's sends leave the subnet actor's state as it was: a reward
    only pays the validators. -/
theorem receiveAll_state (epoch : Int) (sa : Runtime SubnetActor.State) (ss : List Send) :
    (receiveAll receiver epoch sa ss).state = sa.state := by
  induction ss generalizing sa with
  | nil => rfl
  | cons s ss ih =>
    refine (ih _).trans ?_
    unfold receiveSend
    split
    · rfl
    · split
      · split
        · exact SubnetActor.stays_reward _ _
        · rfl
      · rfl

theorem deliver_sa_state (sys : System) (epoch : Int) (sa : Runtime SubnetActor.State)
    (p : CrossActorPayload) : (deliver env receiver sys epoch sa p).1.sa.state = sa.state := by
  unfold deliver
  split
  · split
    · exact receiveAll_state _ _ _
    · rfl
  · rfl

/-- A delivery moves the gateway by the call the payload makes, or not at all. -/
theorem deliver_gw_state (sys : System) (epoch : Int) (sa : Runtime SubnetActor.State)
    (p : CrossActorPayload) :
    (deliver env receiver sys epoch sa p).1.gw.state = sys.gw.state ∨
      ∃ h, (deliver env receiver sys epoch sa p).1.gw.state =
        (Gateway.step env { sys.gw with sent := [] } (payloadCall receiver epoch p h)).rt.state := by
  unfold deliver
  split
  · rename_i h
    refine .inr ⟨h.1, ?_⟩
    split <;> rename_i he <;> rw [he] <;> rfl
  · exact .inl rfl

/-- **Each actor's share of a step.**  A step of the pair leaves both
    actors' committed states as they were, or moves the subnet actor's by one
    of its own transactions and the gateway's, if at all, by the gateway's
    transaction for the payload that transaction sent, with the subnet actor
    as caller. -/
theorem step_pair (sys : System) (c : Call) :
    ((step env receiver sys c).1.sa.state = sys.sa.state ∧
        (step env receiver sys c).1.gw.state = sys.gw.state) ∨
      ∃ m msg, Commits env receiver c.info m sys.sa.state (step env receiver sys c).1.sa.state msg ∧
        ((step env receiver sys c).1.gw.state = sys.gw.state ∨
          ∃ p ∈ msg, ∃ info : MessageInfo, info.caller = receiver ∧
            Gateway.Commits env info p.method sys.gw.state (step env receiver sys c).1.gw.state) := by
  rcases SubnetActor.invoke_cases env receiver c.info c.method
      { sys.sa with balance := sys.sa.balance + c.info.valueReceived } with
    ⟨e, rt', h, hs⟩ | ⟨rt', h, hs⟩ | ⟨st', msg, hc, h⟩
  · exact .inl (by simp only [step, h]; exact ⟨hs, trivial⟩)
  · exact .inl (by simp only [step, h]; exact ⟨hs, trivial⟩)
  · refine .inr ⟨c.method, msg, ?_⟩
    cases msg with
    | none => simp only [step, h]; exact ⟨hc, .inl trivial⟩
    | some p =>
      simp only [step, h, deliver_sa_state]
      refine ⟨hc, ?_⟩
      rcases deliver_gw_state sys c.info.currEpoch _ p with he | ⟨hp, he⟩
      · exact .inl he
      · rw [he]
        exact (Gateway.step_commits env _ _).imp_right fun hg => ⟨p, rfl, _, rfl, hg⟩

/-- The gateway's share of a step: nothing, or one of its transactions called
    by the subnet actor. -/
theorem step_gateway (sys : System) (c : Call) :
    (step env receiver sys c).1.gw.state = sys.gw.state ∨
      ∃ info : MessageInfo, ∃ m, info.caller = receiver ∧
        Gateway.Commits env info m sys.gw.state (step env receiver sys c).1.gw.state :=
  (step_pair sys c).elim (fun h => .inl h.2) fun ⟨_, _, _, h⟩ =>
    h.imp_right fun ⟨p, _, info, hi, hc⟩ => ⟨info, p.method, hi, hc⟩

/-- The subnet actor's share of a step: nothing, or one of its transactions. -/
theorem step_subnetActor (sys : System) (c : Call) :
    (step env receiver sys c).1.sa.state = sys.sa.state ∨
      ∃ m msg, Commits env receiver c.info m sys.sa.state (step env receiver sys c).1.sa.state msg :=
  (step_pair sys c).elim (fun h => .inl h.1) fun ⟨m, msg, hc, _⟩ => .inr ⟨m, msg, hc⟩

end Share

/-! ## Invariants of each actor on runs of the pair -/

/-- **The gateway's invariants hold in the pair.**  A property of the
    gateway's state that every transaction called by the subnet actor keeps
    holds after every run of the pair. -/
theorem run_gateway_inv {I : Gateway.State → Prop}
    (h : ∀ {info m st st'}, info.caller = receiver → I st → Gateway.Commits env info m st st' → I st')
    (sys : System) (h0 : I sys.gw.state) (cs : List Call) : I (run env receiver sys cs).1.gw.state := by
  induction cs generalizing sys with
  | nil => exact h0
  | cons c cs ih =>
    refine ih _ ?_
    rcases step_gateway sys c with he | ⟨info, m, hcaller, hc⟩
    · exact he ▸ h0
    · exact h hcaller h0 hc

/-- **The subnet actor's invariants hold in the pair.**  A property of the
    subnet actor's state that every committed transaction keeps holds after
    every run of the pair. -/
theorem run_subnetActor_inv {I : SubnetActor.State → Prop}
    (h : ∀ {info m st st' msg}, I st → Commits env receiver info m st st' msg → I st')
    (sys : System) (h0 : I sys.sa.state) (cs : List Call) : I (run env receiver sys cs).1.sa.state := by
  induction cs generalizing sys with
  | nil => exact h0
  | cons c cs ih =>
    refine ih _ ?_
    rcases step_subnetActor sys c with he | ⟨m, msg, hc⟩
    · exact he ▸ h0
    · exact h h0 hc

/-- **Both actors keep their invariants in the pair.**  On every run of a
    fresh subnet actor and a fresh gateway, whatever the calls (Join, Leave,
    Kill, SubmitCheckpoint, Reward): every registry entry of the gateway has
    a non-negative stake and is Active exactly when its stake reaches the
    minimum collateral; the subnet actor's validator set lists each address
    once, exactly those with a positive stake; and an Active subnet actor
    holds at least the minimum collateral, an Inactive one less. -/
theorem pair_invariants (params : SubnetActor.ConstructParams) (gparams : Gateway.ConstructorParams)
    (cs : List Call) :
    Gateway.AllSubnets (Gateway.Subnet.StakeOk env.minCollateralAmount)
        (run env receiver (fresh params gparams) cs).1.gw.state ∧
      SubnetActor.ValidatorBook (run env receiver (fresh params gparams) cs).1.sa.state ∧
      SubnetActor.CollateralStatus env.minCollateralAmount
        (run env receiver (fresh params gparams) cs).1.sa.state :=
  ⟨run_gateway_inv env receiver (fun _ h hc => Gateway.stakeOk_step env hc h) (fresh params gparams)
      (fun _ _ h => by cases h) cs,
    run_subnetActor_inv env receiver (fun h hc => SubnetActor.validatorBook_step env receiver h hc)
      (fresh params gparams) ⟨List.nodup_nil, fun _ => .inr ⟨List.not_mem_nil _, rfl⟩⟩ cs,
    run_subnetActor_inv env receiver (fun h hc => SubnetActor.collateralStatus_step env receiver h hc)
      (fresh params gparams) ⟨nofun, nofun⟩ cs⟩

/-! ## The gateway's checkpoints come from the subnet actor -/

/-- The gateway's record of the subnet's checkpoints is backed by the subnet
    actor: the registry is keyed, and the previous checkpoint the gateway
    holds for the subnet, if any, is one the subnet actor committed. -/
structure CheckpointsBacked (sys : System) : Prop where
  keyed : Gateway.Keyed sys.gw.state
  backed : ∀ ch, sys.gw.state.prevCheckpointOf (sys.shid receiver) = some (some ch) →
    ch ∈ sys.sa.state.committedCheckpoints

/-- A payload that asks the gateway to commit `ch` comes from a call that
    flushed `ch`. -/
theorem mem_committed_of_payload {info : MessageInfo} {m : SubnetActor.Method}
    {st st' : SubnetActor.State} {msg : Option CrossActorPayload}
    (hc : Commits env receiver info m st st' msg) {p : CrossActorPayload} (hp : p ∈ msg)
    {ch : Gateway.Checkpoint} (hm : p.method = .commitChildCheckpoint ch) :
    ch ∈ st'.committedCheckpoints := by
  have hch : ch ∈ SubnetActor.commitsOf msg.toList := by
    cases hp
    simp [SubnetActor.commitsOf, SubnetActor.CrossActorPayload.checkpoint?, hm]
  rcases (SubnetActor.committed_step env receiver hc).2 with ⟨hno, -⟩ | ⟨ch', hone, -, he⟩
  · rw [hno] at hch; cases hch
  · rw [hone, List.mem_singleton] at hch
    rw [he, hch]
    exact List.mem_append_right _ (List.mem_singleton_self _)

/-- Every step of the pair keeps the gateway's checkpoints backed. -/
theorem checkpointsBacked_step {sys : System} (h : CheckpointsBacked receiver sys) (c : Call) :
    CheckpointsBacked receiver (step env receiver sys c).1 := by
  rcases step_pair sys c with ⟨hsa, hgw⟩ | ⟨m, msg, hc, hg⟩
  · refine ⟨hgw ▸ h.keyed, fun ch hch => ?_⟩
    rw [hsa]
    exact h.backed ch (by simpa only [System.shid, hgw] using hch)
  -- the subnet actor's committed checkpoints only grow
  have hsub : sys.sa.state.committedCheckpoints ⊆ (step env receiver sys c).1.sa.state.committedCheckpoints := by
    rcases (SubnetActor.committed_step env receiver hc).2 with ⟨-, he⟩ | ⟨_, -, -, he⟩ <;> rw [he]
    · exact List.Subset.refl _
    · exact List.subset_append_left _ _
  rcases hg with hgw | ⟨p, hp, info, hi, hgc⟩
  · refine ⟨hgw ▸ h.keyed, fun ch hch => hsub (h.backed ch ?_)⟩
    simpa only [System.shid, hgw] using hch
  · refine ⟨Gateway.keyed_step env hgc h.keyed, fun ch hch => ?_⟩
    have hid : (step env receiver sys c).1.shid receiver = sys.shid receiver := by
      simp only [System.shid, Gateway.Commits.networkName_eq env hgc]
    rw [hid] at hch
    by_cases hne : (step env receiver sys c).1.gw.state.prevCheckpointOf (sys.shid receiver) =
        sys.gw.state.prevCheckpointOf (sys.shid receiver)
    · exact hsub (h.backed ch (hne ▸ hch))
    · rcases (Gateway.prevCheckpointOf_step env hgc h.keyed _ hne).2 with
        ⟨-, ha⟩ | ⟨ch', hm, ha⟩ | ⟨-, ha⟩ <;> rw [ha] at hch <;> cases hch
      exact mem_committed_of_payload env receiver hc hp hm

theorem checkpointsBacked_run {sys : System} (h : CheckpointsBacked receiver sys) (cs : List Call) :
    CheckpointsBacked receiver (run env receiver sys cs).1 := by
  induction cs generalizing sys with
  | nil => exact h
  | cons c cs ih => exact ih (checkpointsBacked_step env receiver h c)

/-- **The gateway's checkpoints for the subnet come from the subnet actor.**
    On every run of a fresh subnet actor and a fresh gateway, whatever the
    calls, the checkpoint the gateway holds as the subnet's previous one, if
    any, is one the subnet actor committed. -/
theorem checkpoints_backed (params : SubnetActor.ConstructParams) (gparams : Gateway.ConstructorParams)
    (cs : List Call) (ch : Gateway.Checkpoint)
    (hch : (run env receiver (fresh params gparams) cs).1.gw.state.prevCheckpointOf
      ((run env receiver (fresh params gparams) cs).1.shid receiver) = some (some ch)) :
    ch ∈ (run env receiver (fresh params gparams) cs).1.sa.state.committedCheckpoints :=
  (checkpointsBacked_run env receiver ⟨fun _ _ h => (by cases h), fun _ h => (by cases h)⟩ cs).backed ch hch

/-- Validator `7` joins with the minimum collateral, which registers the
    subnet, and submits the checkpoint of the subnet's first period, which
    its vote alone commits. -/
def checkpointCalls : List Call :=
  [⟨⟨7, true, 1, by decide, 0⟩, .join ⟨""⟩⟩,
   ⟨⟨7, true, 0, by decide, 0⟩, .submitCheckpoint ⟨demoChild, 10, 0, none, []⟩⟩]

theorem checkpoints_backed_demo :
    (run demoEnv 5 (fresh demoParams demoGatewayParams) checkpointCalls).1.gw.state.prevCheckpointOf
        ((run demoEnv 5 (fresh demoParams demoGatewayParams) checkpointCalls).1.shid 5) =
        some (some ⟨demoChild, 10, 0, none, []⟩) ∧
      (⟨demoChild, 10, 0, none, []⟩ : Gateway.Checkpoint) ∈
        (run demoEnv 5 (fresh demoParams demoGatewayParams) checkpointCalls).1.sa.state.committedCheckpoints :=
  ⟨rfl, checkpoints_backed demoEnv 5 demoParams demoGatewayParams checkpointCalls _ rfl⟩

/-! ## The stream of checkpoints -/

/-- The checkpoint of a `CommitChildCheckpoint` delivery the gateway accepted. -/
def Delivery.checkpoint? (d : Delivery) : Option Gateway.Checkpoint :=
  match d.method, d.accepted with
  | .commitChildCheckpoint ch, true => some ch
  | _, _ => none

/-- The checkpoints of the `CommitChildCheckpoint` deliveries the gateway
    accepted, in order. -/
def acceptedCheckpoints (ds : List Delivery) : List Gateway.Checkpoint :=
  ds.filterMap Delivery.checkpoint?

theorem Delivery.checkpoint?_eq_some {d : Delivery} {ch : Gateway.Checkpoint} :
    d.checkpoint? = some ch ↔ d = ⟨.commitChildCheckpoint ch, true⟩ := by
  obtain ⟨m, b⟩ := d
  cases m <;> cases b <;> simp [Delivery.checkpoint?, eq_comm]

@[simp] theorem acceptedCheckpoints_append (ds es : List Delivery) :
    acceptedCheckpoints (ds ++ es) = acceptedCheckpoints ds ++ acceptedCheckpoints es :=
  List.filterMap_append _ _ _

@[simp] theorem acceptedCheckpoints_singleton (d : Delivery) :
    acceptedCheckpoints [d] = d.checkpoint?.toList := by
  simp only [acceptedCheckpoints, List.filterMap_cons, List.filterMap_nil]
  cases d.checkpoint? <;> rfl

section Stream

variable {env receiver}

/-- A payload is delivered, accepted or refused, or not sent at all. -/
theorem deliver_delivery (sys : System) (epoch : Int) (sa : Runtime SubnetActor.State)
    (p : CrossActorPayload) :
    (deliver env receiver sys epoch sa p).2 = none ∨
      ∃ b, (deliver env receiver sys epoch sa p).2 = some ⟨p.method, b⟩ := by
  unfold deliver
  split
  · split
    · exact .inr ⟨true, rfl⟩
    · exact .inr ⟨false, rfl⟩
  · exact .inl rfl

/-- A step delivers nothing, or a payload the subnet actor's committed
    transaction sent. -/
theorem step_delivery (sys : System) (c : Call) :
    (step env receiver sys c).2 = none ∨
      ∃ msg, Commits env receiver c.info c.method sys.sa.state (step env receiver sys c).1.sa.state msg ∧
        ∃ p ∈ msg, ∃ b, (step env receiver sys c).2 = some ⟨p.method, b⟩ := by
  rcases SubnetActor.invoke_cases env receiver c.info c.method
      { sys.sa with balance := sys.sa.balance + c.info.valueReceived } with
    ⟨e, rt', h, -⟩ | ⟨rt', h, -⟩ | ⟨st', msg, hc, h⟩
  · exact .inl (by simp only [step, h])
  · exact .inl (by simp only [step, h])
  · cases msg with
    | none => exact .inl (by simp only [step, h])
    | some p =>
      have hs : step env receiver sys c = deliver env receiver sys c.info.currEpoch
          { sys.sa with balance := sys.sa.balance + c.info.valueReceived, state := st' } p := by
        simp only [step, h]
      rw [hs]
      exact (deliver_delivery sys _ _ p).imp_right fun ⟨b, hd⟩ =>
        ⟨some p, (deliver_sa_state sys _ _ p).symm ▸ hc, p, rfl, b, hd⟩

/-- Every step keeps the checkpoints the gateway accepted a sublist of those
    the subnet actor committed. -/
theorem acceptedCheckpoints_step {sys : System} {ds : List Delivery}
    (h : (acceptedCheckpoints ds).Sublist sys.sa.state.committedCheckpoints) (c : Call) :
    (acceptedCheckpoints (ds ++ (step env receiver sys c).2.toList)).Sublist
      (step env receiver sys c).1.sa.state.committedCheckpoints := by
  -- the subnet actor's committed checkpoints only grow at the end
  have hpre : sys.sa.state.committedCheckpoints <+:
      (step env receiver sys c).1.sa.state.committedCheckpoints := by
    rcases step_subnetActor sys c with he | ⟨m, msg, hc⟩
    · rw [he]
    · rcases (SubnetActor.committed_step env receiver hc).2 with ⟨-, he⟩ | ⟨_, -, -, he⟩ <;> rw [he]
      exact List.prefix_append _ _
  rcases step_delivery sys c with hd | ⟨msg, hc, p, hp, b, hd⟩
  · rw [hd, Option.toList_none, List.append_nil]
    exact h.trans hpre.sublist
  rw [hd, Option.toList_some, acceptedCheckpoints_append, acceptedCheckpoints_singleton]
  cases hx : Delivery.checkpoint? ⟨p.method, b⟩ with
  | none =>
    rw [Option.toList_none, List.append_nil]
    exact h.trans hpre.sublist
  | some ch =>
    -- an accepted checkpoint is the one the subnet actor has just flushed
    have hm : p.method = .commitChildCheckpoint ch := congrArg Delivery.method (Delivery.checkpoint?_eq_some.1 hx)
    have hch : SubnetActor.commitsOf msg.toList = [ch] := by
      cases hp; simp [SubnetActor.commitsOf, SubnetActor.CrossActorPayload.checkpoint?, hm]
    rcases (SubnetActor.committed_step env receiver hc).2 with ⟨hno, -⟩ | ⟨ch', hone, -, he⟩
    · rw [hno] at hch; cases hch
    · rw [hone, List.singleton_inj] at hch
      rw [Option.toList_some, he, hch]
      exact h.append (List.Sublist.refl _)

end Stream

/-- **The gateway accepts the subnet's checkpoints in the order the subnet
    actor committed them.**  On every run of a fresh subnet actor and a fresh
    gateway, whatever the calls to the subnet actor, the checkpoints the
    gateway accepted from it form a sublist of those the subnet actor
    committed: none is invented, duplicated or reordered between the two. -/
theorem accepted_checkpoints_committed (params : SubnetActor.ConstructParams)
    (gparams : Gateway.ConstructorParams) (cs : List Call) :
    (acceptedCheckpoints (run env receiver (fresh params gparams) cs).2).Sublist
      (run env receiver (fresh params gparams) cs).1.sa.state.committedCheckpoints := by
  induction cs using List.reverseRecOn with
  | nil => exact List.nil_sublist _
  | append_singleton cs c ih =>
    rw [run_snoc]
    exact acceptedCheckpoints_step ih c

example : acceptedCheckpoints (run demoEnv 5 (fresh demoParams demoGatewayParams) checkpointCalls).2 =
    [⟨demoChild, 10, 0, none, []⟩] := by rfl

/-! ## The two actors agree on the status -/

/-- **The two actors agree on the status.**  On every run of Join, Leave and
    Kill calls from a fresh pair, while the gateway has an entry for the
    subnet, the entry is Active exactly when the subnet actor is. -/
theorem status_agreement (params : SubnetActor.ConstructParams) (gparams : Gateway.ConstructorParams)
    (cs : List Call) (hcs : ∀ c ∈ cs, c.isStaking = true) {sub : Gateway.Subnet}
    (he : (run env receiver (fresh params gparams) cs).1.entry receiver = some sub) :
    sub.status = .Active ↔ (run env receiver (fresh params gparams) cs).1.sa.state.status = .Active := by
  have hL := ledger_run env receiver params gparams cs hcs
  have hG := run_gateway_inv env receiver (fun _ h hc => Gateway.stakeOk_step env hc h)
    (fresh params gparams) (fun _ _ h => by cases h) cs _ _ he
  have hC := run_subnetActor_inv env receiver
    (fun h hc => SubnetActor.collateralStatus_step env receiver h hc) (fresh params gparams)
    ⟨nofun, nofun⟩ cs
  rw [hG.2, (hL.entry sub he).2.1]
  rcases hL.registered_iff.1 (by rw [he]; rfl) with hs | hs
  · exact ⟨fun _ => hs, fun _ => hC.active hs⟩
  · have := hC.inactive hs
    rw [hs]
    exact ⟨fun h => absurd h (by omega), nofun⟩

theorem status_agreement_demo :
    (∀ c ∈ stakingCalls, c.isStaking = true) ∧
      (run demoEnv 5 (fresh demoParams demoGatewayParams) stakingCalls).1.entry 5 =
        some ⟨demoChild, 2, [], 0, 0, .Active, none⟩ ∧
      (Gateway.Status.Active = .Active ↔
        (run demoEnv 5 (fresh demoParams demoGatewayParams) stakingCalls).1.sa.state.status = .Active) :=
  ⟨by decide, rfl, status_agreement demoEnv 5 demoParams demoGatewayParams stakingCalls (by decide) rfl⟩

end IpcActors.Joint
