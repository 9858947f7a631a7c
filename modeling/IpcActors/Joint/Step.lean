/-
  IpcActors.Joint.Step

  The subnet actor at `receiver` and its gateway, run together (§4.1, §4.4).

  A call from outside reaches the subnet actor, which commits its
  transaction and then sends the gateway the payload it chose
  (`IpcActors.SubnetActor.Actor`).  The joint step delivers that payload:
  the gateway runs the call it makes, with the subnet actor as caller and the
  payload's value; if the gateway accepts, the value moves and the subnet
  actor receives what the gateway sent it back (a refund is a plain transfer,
  a checkpoint fee a call of its `Reward`); if it refuses, the send fails,
  nothing moves, and both actors keep what they committed (§7).  A step
  records what became of its payload (`Delivery`), so a run has a history of
  the calls the gateway accepted and refused.

  The section on the gateway says once what it does with each staking call
  of the subnet actor (`invoke_register`, `invoke_addStake`,
  `invoke_releaseStake`, `invoke_kill`, `invoke_unregistered`); `step_staking`
  says once what a Join, a Leave or a Kill does to the pair.  The invariants
  of the pair are proved from these (`IpcActors.Joint.Ledger`).
-/
import IpcActors.SubnetActor.Actor
import IpcActors.Gateway.Step

namespace IpcActors.Joint

open Gateway (Env MessageInfo)
open SubnetActor (CrossActorPayload Commits)

/-- The subnet actor and its gateway: the runtime of each. -/
structure System where
  sa : Runtime SubnetActor.State
  gw : Runtime Gateway.State

/-- A call from outside to the subnet actor. -/
structure Call where
  info : MessageInfo
  method : SubnetActor.Method

/-- A payload that reached the gateway: its method, and whether the gateway
    accepted it. -/
structure Delivery where
  method : Gateway.Method
  accepted : Bool
  deriving DecidableEq

variable (env : Env) (receiver : Address)

/-! ## The joint step -/

/-- The gateway's call for a payload the subnet actor sends at `epoch`. -/
def payloadCall (epoch : Int) (p : CrossActorPayload) (h : 0 ≤ p.value) : Gateway.Call :=
  ⟨⟨receiver, false, p.value, h, epoch⟩, p.method⟩

/-- The subnet actor receives one send of the gateway: a reward runs its
    `Reward` with the gateway as caller, anything else is a plain transfer.
    Sends to other actors leave the pair.  The outcome of `Reward` is not
    consulted: were it to fail, FVM would fail the gateway's send, while this
    keeps the value with the subnet actor.  The pair never reaches that case:
    the caller is the gateway the subnet actor was built with, the gateway
    sends a reward only for a non-zero checkpoint fee, and the fee arrives in
    the step whose vote, by a validator, committed the checkpoint, so the
    validator set is not empty. -/
def receiveSend (epoch : Int) (sa : Runtime SubnetActor.State) (s : Send) :
    Runtime SubnetActor.State :=
  if s.to ≠ receiver then sa
  else
    let sa := { sa with balance := sa.balance + s.value }
    match s.method with
    | .reward =>
      if h : 0 ≤ s.value then (SubnetActor.reward ⟨sa.state.ipcGatewayAddr, false, s.value, h, epoch⟩ sa).rt
      else sa
    | _ => sa

/-- The subnet actor receives the gateway's sends in turn. -/
def receiveAll (epoch : Int) (sa : Runtime SubnetActor.State) (ss : List Send) :
    Runtime SubnetActor.State :=
  ss.foldl (receiveSend receiver epoch) sa

/-- `rt.send` of the payload `p` by the subnet actor, left as `sa` by its
    committed call: the gateway runs the call; if it accepts, the value moves
    and the subnet actor receives the gateway's sends; otherwise the send
    fails and only the gateway's committed state stays (§7).  A payload the
    balance does not cover is never sent. -/
def deliver (sys : System) (epoch : Int) (sa : Runtime SubnetActor.State) (p : CrossActorPayload) :
    System × Option Delivery :=
  if h : 0 ≤ p.value ∧ p.value ≤ sa.balance then
    match Gateway.step env { sys.gw with sent := [] } (payloadCall receiver epoch p h.1) with
    | .ok () gw => (⟨receiveAll receiver epoch { sa with balance := sa.balance - p.value } gw.sent,
        { gw with sent := sys.gw.sent ++ gw.sent }⟩, some ⟨p.method, true⟩)
    | .err _ gw => (⟨sa, { sys.gw with state := gw.state }⟩, some ⟨p.method, false⟩)
  else (⟨sa, sys.gw⟩, none)

/-- One call to the subnet actor, with the value it carries, and the delivery
    of its payload. -/
def step (sys : System) (c : Call) : System × Option Delivery :=
  match SubnetActor.invoke env receiver c.info c.method
      { sys.sa with balance := sys.sa.balance + c.info.valueReceived } with
  | .ok (some p) sa => deliver env receiver sys c.info.currEpoch sa p
  | .ok none sa => (⟨sa, sys.gw⟩, none)
  | .err _ sa => (⟨sa, sys.gw⟩, none)

/-- The calls `cs` in turn: the pair they leave and the deliveries they made. -/
def run (sys : System) : List Call → System × List Delivery
  | [] => (sys, [])
  | c :: cs =>
    let r := run (step env receiver sys c).1 cs
    (r.1, (step env receiver sys c).2.toList ++ r.2)

theorem run_snoc (sys : System) (cs : List Call) (c : Call) :
    run env receiver sys (cs ++ [c]) =
      ((step env receiver (run env receiver sys cs).1 c).1,
        (run env receiver sys cs).2 ++ (step env receiver (run env receiver sys cs).1 c).2.toList) := by
  induction cs generalizing sys with
  | nil => simp [run]
  | cons c' cs ih => simp [run, ih]

/-- A fresh subnet actor and a fresh gateway, neither holding any funds. -/
def fresh (params : SubnetActor.ConstructParams) (gparams : Gateway.ConstructorParams) : System :=
  ⟨⟨SubnetActor.State.new params, 0, []⟩, ⟨Gateway.State.new gparams, 0, []⟩⟩

/-- The subnet's id at the gateway. -/
def System.shid (sys : System) : SubnetID := SubnetID.newFromParent sys.gw.state.networkName receiver

/-- The gateway's registry entry for the subnet. -/
def System.entry (sys : System) : Option Gateway.Subnet := sys.gw.state.subnets (sys.shid receiver)

/-- What `v` has received from the two actors. -/
def System.paidTo (sys : System) (v : Address) : Int :=
  (((sys.sa.sent ++ sys.gw.sent).filter fun s => s.to = v).map Send.value).sum

/-- A Join, a Leave or a Kill. -/
def Call.isStaking (c : Call) : Bool :=
  match c.method with
  | .join _ | .leave | .kill => true
  | _ => false

/-! ## The gateway's side -/

section Gateway

open Gateway

variable {env} {info : MessageInfo} {rt : Runtime State}

/-- `Register` of a subnet the gateway does not know registers it with the
    value received as its stake. -/
theorem invoke_register (h : rt.state.subnets (SubnetID.newFromParent rt.state.networkName info.caller) = none) :
    invoke env info .register rt = .ok () { rt with state := (rt.state.registerSubnet
      env.minCollateralAmount (SubnetID.newFromParent rt.state.networkName info.caller) info.valueReceived) } := by
  have ht : registerTx env info rt.state = .ok (rt.state.registerSubnet env.minCollateralAmount
      (SubnetID.newFromParent rt.state.networkName info.caller) info.valueReceived,
      SubnetID.newFromParent rt.state.networkName info.caller) := by
    simp only [registerTx, State.getSubnet, h]
  simp only [invoke, register, RtM.bind_ok _ (transaction_ok ht)]
  rfl

/-- `AddStake` of a positive value to a registered subnet. -/
theorem invoke_addStake {sub : Subnet} (hv : 0 < info.valueReceived)
    (h : rt.state.subnets (SubnetID.newFromParent rt.state.networkName info.caller) = some sub) :
    invoke env info .addStake rt =
      .ok () { rt with state := rt.state.flushSubnet (sub.addStake env.minCollateralAmount info.valueReceived) } := by
  have ht : addStakeTx env info info.valueReceived rt.state =
      .ok (rt.state.flushSubnet (sub.addStake env.minCollateralAmount info.valueReceived), ()) := by
    simp only [addStakeTx, State.getSubnet, h]
  simp only [invoke, addStake, if_neg (Int.not_le.2 hv), RtM.pure_bind]
  exact transaction_ok ht

/-- `ReleaseStake` of at most the stake and the gateway's balance sends the
    value back to the caller. -/
theorem invoke_releaseStake {sub : Subnet} {p : FundParams} (hv : 0 < p.value)
    (h : rt.state.subnets (SubnetID.newFromParent rt.state.networkName info.caller) = some sub)
    (hs : p.value ≤ sub.stake) (hb : p.value ≤ rt.balance) :
    invoke env info (.releaseStake p) rt =
      .ok () ⟨rt.state.flushSubnet (sub.addStake env.minCollateralAmount (-p.value)),
        rt.balance - p.value, rt.sent ++ [⟨info.caller, .send, p.value⟩]⟩ := by
  have ht : releaseStakeTx env info p.value rt.balance rt.state =
      .ok (rt.state.flushSubnet (sub.addStake env.minCollateralAmount (-p.value)), ()) := by
    simp only [releaseStakeTx, State.getSubnet, h, if_neg (Int.not_lt.2 hs), if_neg (Int.not_lt.2 hb)]
  simp only [invoke, releaseStake, if_neg (Int.not_le.2 hv), RtM.pure_bind,
    RtM.bind_ok _ (currentBalance_apply rt), RtM.bind_ok _ (transaction_ok ht)]
  simp only [send, hb, hv.le, and_self, if_true]

/-- `Kill` of a registered subnet with no circulating supply removes it and
    sends its stake back to the caller. -/
theorem invoke_kill {sub : Subnet}
    (h : rt.state.subnets (SubnetID.newFromParent rt.state.networkName info.caller) = some sub)
    (hs : 0 ≤ sub.stake) (hb : sub.stake ≤ rt.balance) (hc : sub.circSupply ≤ 0) :
    invoke env info .kill rt =
      .ok () ⟨rt.state.rmSubnet (SubnetID.newFromParent rt.state.networkName info.caller),
        rt.balance - sub.stake, rt.sent ++ [⟨info.caller, .send, sub.stake⟩]⟩ := by
  have ht : killTx info rt.balance rt.state =
      .ok (rt.state.rmSubnet (SubnetID.newFromParent rt.state.networkName info.caller), sub.stake) := by
    simp only [killTx, State.getSubnet, h, if_neg (Int.not_lt.2 hb), gt_iff_lt, if_neg (Int.not_lt.2 hc)]
  simp only [invoke, kill, RtM.bind_ok _ (currentBalance_apply rt), RtM.bind_ok _ (transaction_ok ht)]
  simp only [send, hb, hs, and_self, if_true]

/-- The staking calls of a subnet the gateway does not know fail, leaving
    the gateway as it was. -/
theorem invoke_unregistered {m : Method} (hm : m = .addStake ∨ (∃ p, m = .releaseStake p) ∨ m = .kill)
    (h : rt.state.subnets (SubnetID.newFromParent rt.state.networkName info.caller) = none) :
    ∃ e, invoke env info m rt = .err e rt := by
  rcases hm with rfl | ⟨p, rfl⟩ | rfl
  · have ht : addStakeTx env info info.valueReceived rt.state =
        .error ⟨.illegalArgument, "subnet with id {} not registered"⟩ := by
      simp only [addStakeTx, State.getSubnet, h]
    simp only [invoke, addStake]
    split
    · exact ⟨_, rfl⟩
    · exact ⟨_, by rw [RtM.pure_bind]; exact transaction_error ht⟩
  · have ht : releaseStakeTx env info p.value rt.balance rt.state =
        .error ⟨.illegalArgument, "subnet with id {} not registered"⟩ := by
      simp only [releaseStakeTx, State.getSubnet, h]
    simp only [invoke, releaseStake]
    split
    · exact ⟨_, rfl⟩
    · exact ⟨_, by rw [RtM.pure_bind, RtM.bind_ok _ (currentBalance_apply rt),
        RtM.bind_err _ (transaction_error ht)]⟩
  · have ht : killTx info rt.balance rt.state =
        .error ⟨.illegalArgument, "subnet with id {} not registered"⟩ := by
      simp only [killTx, State.getSubnet, h]
    exact ⟨_, by rw [invoke, kill, RtM.bind_ok _ (currentBalance_apply rt),
      RtM.bind_err _ (transaction_error ht)]⟩

end Gateway

/-! ## What a staking call does to the pair -/

section Staking

variable {env receiver}

theorem deliver_accept {sys : System} {epoch : Int} {sa : Runtime SubnetActor.State}
    {p : CrossActorPayload} (h : 0 ≤ p.value ∧ p.value ≤ sa.balance) {gw : Runtime Gateway.State}
    (hg : Gateway.step env { sys.gw with sent := [] } (payloadCall receiver epoch p h.1) = .ok () gw) :
    deliver env receiver sys epoch sa p =
      (⟨receiveAll receiver epoch { sa with balance := sa.balance - p.value } gw.sent,
        { gw with sent := sys.gw.sent ++ gw.sent }⟩, some ⟨p.method, true⟩) := by
  simp only [deliver, dif_pos h, hg]

theorem deliver_refuse {sys : System} {epoch : Int} {sa : Runtime SubnetActor.State}
    {p : CrossActorPayload} (h : 0 ≤ p.value ∧ p.value ≤ sa.balance) {e : ActorError}
    (hg : Gateway.step env { sys.gw with sent := [] } (payloadCall receiver epoch p h.1) = .err e
      { sys.gw with sent := [], balance := sys.gw.balance + p.value }) :
    deliver env receiver sys epoch sa p = (⟨sa, sys.gw⟩, some ⟨p.method, false⟩) := by
  simp only [deliver, dif_pos h, hg]

/-- Join, Leave and Kill fail with the runtime they found, or commit their
    transaction and return its payload. -/
theorem invoke_staking {info : MessageInfo} {m : SubnetActor.Method} (hm : Call.isStaking ⟨info, m⟩ = true)
    (rt : Runtime SubnetActor.State) :
    (∃ e, SubnetActor.invoke env receiver info m rt = .err e rt) ∨
      ∃ st' msg, Commits env receiver info m rt.state st' msg ∧
        SubnetActor.invoke env receiver info m rt = .ok msg { rt with state := st' } := by
  have of_ends : ∀ {g : Runtime SubnetActor.State → Prop} {tx} {x : RtM SubnetActor.State (Option CrossActorPayload)},
      SubnetActor.TxEnds g tx x → (∀ st' msg, g rt → tx rt.state = .ok (st', msg) →
        Commits env receiver info m rt.state st' msg) → SubnetActor.invoke env receiver info m rt = x rt →
      (∃ e, SubnetActor.invoke env receiver info m rt = .err e rt) ∨
        ∃ st' msg, Commits env receiver info m rt.state st' msg ∧
          SubnetActor.invoke env receiver info m rt = .ok msg { rt with state := st' } := by
    intro g tx x h hc hx
    rw [hx]
    exact (h rt).imp_right fun ⟨st', msg, hg, ht, he⟩ => ⟨st', msg, hc st' msg hg ht, he⟩
  cases m with
  | join params =>
    exact of_ends (SubnetActor.join_ends env info params) (fun _ _ hg ht => .join hg ht) rfl
  | leave => exact of_ends (SubnetActor.leave_ends env info) (fun _ _ _ ht => .leave ht) rfl
  | kill => exact of_ends (SubnetActor.kill_ends env) (fun _ _ _ ht => .kill ht) rfl
  | submitCheckpoint => cases hm
  | reward => cases hm

/-- **A staking call** fails and leaves the pair as it was, but for the value
    it brought, or commits a transaction of its method and delivers its
    payload. -/
theorem step_staking {sys : System} {c : Call} (hc : c.isStaking = true) :
    step env receiver sys c = (⟨{ sys.sa with balance := sys.sa.balance + c.info.valueReceived }, sys.gw⟩, none) ∨
      ∃ st' msg, Commits env receiver c.info c.method sys.sa.state st' msg ∧
        step env receiver sys c = match msg with
          | none => (⟨{ sys.sa with state := st', balance := sys.sa.balance + c.info.valueReceived }, sys.gw⟩, none)
          | some p => deliver env receiver sys c.info.currEpoch
              { sys.sa with state := st', balance := sys.sa.balance + c.info.valueReceived } p := by
  rcases @invoke_staking env receiver _ _ hc
      { sys.sa with balance := sys.sa.balance + c.info.valueReceived } with ⟨e, he⟩ | ⟨st', msg, hcm, he⟩
  · exact .inl (by simp only [step, he])
  · refine .inr ⟨st', msg, hcm, ?_⟩
    cases msg <;> simp only [step, he]

end Staking

/-! ## Each staking call -/

section Calls

variable {env receiver} {sys : System} {c : Call}

/-- The subnet actor's part of a Join: it credits the stake and chooses the
    payload by its status and the minimum collateral. -/
theorem invoke_join_ok {net : String} (hm : c.method = .join ⟨net⟩)
    (hv : c.info.valueReceived ≠ 0) :
    SubnetActor.invoke env receiver c.info c.method
        { sys.sa with balance := sys.sa.balance + c.info.valueReceived } =
      .ok (if sys.sa.state.status = .Instantiated then
          if env.minCollateralAmount ≤ sys.sa.state.totalStake + c.info.valueReceived then
            some ⟨sys.sa.state.ipcGatewayAddr, .register, sys.sa.state.totalStake + c.info.valueReceived⟩
          else none
        else some ⟨sys.sa.state.ipcGatewayAddr, .addStake, c.info.valueReceived⟩)
        { sys.sa with
          state := (sys.sa.state.addStake c.info.caller net c.info.valueReceived).mutateState
            env.minCollateralAmount,
          balance := sys.sa.balance + c.info.valueReceived } := by
  rw [hm]
  exact SubnetActor.join_ok env c.info hv (by simp only [SubnetActor.joinTx,
    SubnetActor.State.addStake_fields, SubnetActor.State.addStake_stake])

/-- The subnet actor's part of a Leave of the stake `s`: it takes the stake
    off and, unless terminating, asks the gateway to release it. -/
theorem invoke_leave_ok (hm : c.method = .leave) {s : Int}
    (hs : sys.sa.state.getStake c.info.caller = some s) (hs0 : s ≠ 0) :
    SubnetActor.invoke env receiver c.info c.method
        { sys.sa with balance := sys.sa.balance + c.info.valueReceived } =
      .ok (if sys.sa.state.status ≠ .Terminating then
          some ⟨sys.sa.state.ipcGatewayAddr, .releaseStake ⟨s⟩, 0⟩ else none)
        { sys.sa with
          state := (sys.sa.state.rmStake c.info.caller s).mutateState env.minCollateralAmount,
          balance := sys.sa.balance + c.info.valueReceived } := by
  rw [hm]
  exact transaction_ok (by simp only [SubnetActor.leaveTx, hs, if_neg hs0])

/-- The subnet actor's part of a Kill with no funds and no validators left: it
    terminates and asks the gateway to kill the subnet. -/
theorem invoke_kill_ok (hm : c.method = .kill)
    (hb : sys.sa.balance + c.info.valueReceived = 0) (hst : sys.sa.state.status ≠ .Terminating)
    (hst' : sys.sa.state.status ≠ .Killed) (hvs : sys.sa.state.validatorSet = [])
    (htot : sys.sa.state.totalStake = 0) :
    SubnetActor.invoke env receiver c.info c.method
        { sys.sa with balance := sys.sa.balance + c.info.valueReceived } =
      .ok (some ⟨sys.sa.state.ipcGatewayAddr, .kill, 0⟩)
        { sys.sa with
          state := { sys.sa.state with status := .Terminating }.mutateState env.minCollateralAmount,
          balance := sys.sa.balance + c.info.valueReceived } := by
  rw [hm]
  exact SubnetActor.kill_ok env hb (by simp only [SubnetActor.killTx, hst, hst', hvs, htot,
    or_self, ne_eq, not_true_eq_false, if_false])

/-- A Join that brings an instantiated subnet to the minimum collateral
    registers it at the gateway with the whole stake. -/
theorem step_join_register {net : String} (hm : c.method = .join ⟨net⟩)
    (hv : c.info.valueReceived ≠ 0) (hst : sys.sa.state.status = .Instantiated)
    (hmin : env.minCollateralAmount ≤ sys.sa.state.totalStake + c.info.valueReceived)
    (h0 : 0 ≤ sys.sa.state.totalStake) (hb : sys.sa.state.totalStake ≤ sys.sa.balance)
    (he : sys.entry receiver = none) :
    step env receiver sys c =
      (⟨{ sys.sa with
          state := (sys.sa.state.addStake c.info.caller net c.info.valueReceived).mutateState
            env.minCollateralAmount,
          balance := sys.sa.balance + c.info.valueReceived -
            (sys.sa.state.totalStake + c.info.valueReceived) },
        { sys.gw with
          state := sys.gw.state.registerSubnet env.minCollateralAmount (sys.shid receiver)
            (sys.sa.state.totalStake + c.info.valueReceived),
          balance := sys.gw.balance + (sys.sa.state.totalStake + c.info.valueReceived) }⟩,
        some ⟨.register, true⟩) := by
  have hv0 := c.info.valueReceived_nonneg
  have hx := @invoke_join_ok env receiver sys c net hm hv
  rw [if_pos hst, if_pos hmin] at hx
  have hh : 0 ≤ sys.sa.state.totalStake + c.info.valueReceived ∧
      sys.sa.state.totalStake + c.info.valueReceived ≤ sys.sa.balance + c.info.valueReceived := by
    omega
  have hg := @invoke_register env ⟨receiver, false, _, hh.1, c.info.currEpoch⟩
    { sys.gw with sent := [], balance := sys.gw.balance +
      (sys.sa.state.totalStake + c.info.valueReceived) } he
  simp only [step, hx, deliver, dif_pos hh, Gateway.step, payloadCall]
  rw [hg]
  simp [receiveAll, System.shid]

/-- A Join that leaves an instantiated subnet below the minimum collateral
    sends nothing. -/
theorem step_join_below {net : String} (hm : c.method = .join ⟨net⟩)
    (hv : c.info.valueReceived ≠ 0) (hst : sys.sa.state.status = .Instantiated)
    (hmin : sys.sa.state.totalStake + c.info.valueReceived < env.minCollateralAmount) :
    step env receiver sys c =
      (⟨{ sys.sa with
          state := (sys.sa.state.addStake c.info.caller net c.info.valueReceived).mutateState
            env.minCollateralAmount,
          balance := sys.sa.balance + c.info.valueReceived }, sys.gw⟩, none) := by
  have hx := @invoke_join_ok env receiver sys c net hm hv
  rw [if_pos hst, if_neg (Int.not_le.2 hmin)] at hx
  simp only [step, hx]

/-- A Join once the subnet is past instantiation sends its value to the
    gateway as added stake, which a registered subnet accepts. -/
theorem step_join_addStake {net : String} (hm : c.method = .join ⟨net⟩)
    (hv : c.info.valueReceived ≠ 0) (hst : sys.sa.state.status ≠ .Instantiated)
    (hb : 0 ≤ sys.sa.balance) {sub : Gateway.Subnet} (he : sys.entry receiver = some sub) :
    step env receiver sys c =
      (⟨{ sys.sa with
          state := (sys.sa.state.addStake c.info.caller net c.info.valueReceived).mutateState
            env.minCollateralAmount,
          balance := sys.sa.balance + c.info.valueReceived - c.info.valueReceived },
        { sys.gw with
          state := sys.gw.state.flushSubnet (sub.addStake env.minCollateralAmount c.info.valueReceived),
          balance := sys.gw.balance + c.info.valueReceived }⟩,
        some ⟨.addStake, true⟩) := by
  have hv0 := c.info.valueReceived_nonneg
  have hx := @invoke_join_ok env receiver sys c net hm hv
  rw [if_neg hst] at hx
  have hh : 0 ≤ c.info.valueReceived ∧ c.info.valueReceived ≤ sys.sa.balance + c.info.valueReceived := by
    omega
  have hg := @invoke_addStake env ⟨receiver, false, _, hh.1, c.info.currEpoch⟩
    { sys.gw with sent := [], balance := sys.gw.balance + c.info.valueReceived } _ (by dsimp only; omega) he
  simp only [step, hx, deliver, dif_pos hh, Gateway.step, payloadCall]
  rw [hg]
  simp [receiveAll]

/-- A Join once the subnet is past instantiation, with no registry entry at
    the gateway, has its added stake refused. -/
theorem step_join_refused {net : String} (hm : c.method = .join ⟨net⟩)
    (hv : c.info.valueReceived ≠ 0) (hst : sys.sa.state.status ≠ .Instantiated)
    (hb : 0 ≤ sys.sa.balance) (he : sys.entry receiver = none) :
    step env receiver sys c =
      (⟨{ sys.sa with
          state := (sys.sa.state.addStake c.info.caller net c.info.valueReceived).mutateState
            env.minCollateralAmount,
          balance := sys.sa.balance + c.info.valueReceived }, sys.gw⟩,
        some ⟨.addStake, false⟩) := by
  have hv0 := c.info.valueReceived_nonneg
  have hx := @invoke_join_ok env receiver sys c net hm hv
  rw [if_neg hst] at hx
  have hh : 0 ≤ c.info.valueReceived ∧ c.info.valueReceived ≤ sys.sa.balance + c.info.valueReceived := by
    omega
  obtain ⟨e, hg⟩ := @invoke_unregistered env ⟨receiver, false, _, hh.1, c.info.currEpoch⟩
    { sys.gw with sent := [], balance := sys.gw.balance + c.info.valueReceived } _ (.inl rfl) he
  simp only [step, hx, deliver, dif_pos hh, Gateway.step, payloadCall]
  rw [hg]

/-- A Leave of stake `s` by a validator of a registered subnet: the gateway
    releases `s` and sends it back to the subnet actor. -/
theorem step_leave_registered (hm : c.method = .leave) {s : Int}
    (hs : sys.sa.state.getStake c.info.caller = some s) (hs0 : 0 < s)
    (hst : sys.sa.state.status ≠ .Terminating) (hb : 0 ≤ sys.sa.balance)
    {sub : Gateway.Subnet} (he : sys.entry receiver = some sub) (hsub : s ≤ sub.stake)
    (hgb : s ≤ sys.gw.balance) :
    step env receiver sys c =
      (⟨{ sys.sa with
          state := (sys.sa.state.rmStake c.info.caller s).mutateState env.minCollateralAmount,
          balance := sys.sa.balance + c.info.valueReceived + s },
        ⟨sys.gw.state.flushSubnet (sub.addStake env.minCollateralAmount (-s)), sys.gw.balance - s,
          sys.gw.sent ++ [⟨receiver, .send, s⟩]⟩⟩,
        some ⟨.releaseStake ⟨s⟩, true⟩) := by
  have hv0 := c.info.valueReceived_nonneg
  have hx := @invoke_leave_ok env receiver sys c hm s hs hs0.ne'
  rw [if_pos hst] at hx
  have hh : (0 : Int) ≤ 0 ∧ (0 : Int) ≤ sys.sa.balance + c.info.valueReceived := by omega
  have hg := @invoke_releaseStake env ⟨receiver, false, _, hh.1, c.info.currEpoch⟩
    { sys.gw with sent := [], balance := sys.gw.balance + 0 } _ ⟨s⟩ hs0 he hsub
    (by dsimp only; omega)
  simp only [step, hx, deliver, dif_pos hh, Gateway.step, payloadCall]
  rw [hg]
  simp [receiveAll, receiveSend]

/-- A Leave while the gateway has no entry for the subnet: the release is
    refused, and the stake stays with the subnet actor. -/
theorem step_leave_refused (hm : c.method = .leave) {s : Int}
    (hs : sys.sa.state.getStake c.info.caller = some s) (hs0 : 0 < s)
    (hst : sys.sa.state.status ≠ .Terminating) (hb : 0 ≤ sys.sa.balance)
    (he : sys.entry receiver = none) :
    step env receiver sys c =
      (⟨{ sys.sa with
          state := (sys.sa.state.rmStake c.info.caller s).mutateState env.minCollateralAmount,
          balance := sys.sa.balance + c.info.valueReceived }, sys.gw⟩,
        some ⟨.releaseStake ⟨s⟩, false⟩) := by
  have hv0 := c.info.valueReceived_nonneg
  have hx := @invoke_leave_ok env receiver sys c hm s hs hs0.ne'
  rw [if_pos hst] at hx
  have hh : (0 : Int) ≤ 0 ∧ (0 : Int) ≤ sys.sa.balance + c.info.valueReceived := by omega
  obtain ⟨e, hg⟩ := @invoke_unregistered env ⟨receiver, false, _, hh.1, c.info.currEpoch⟩
    { sys.gw with sent := [], balance := sys.gw.balance + 0 } _ (.inr (.inl ⟨⟨s⟩, rfl⟩)) he
  simp only [step, hx, deliver, dif_pos hh, Gateway.step, payloadCall]
  rw [hg]

/-- A Leave from a terminating subnet sends nothing. -/
theorem step_leave_terminating (hm : c.method = .leave) {s : Int}
    (hs : sys.sa.state.getStake c.info.caller = some s) (hs0 : s ≠ 0)
    (hst : sys.sa.state.status = .Terminating) :
    step env receiver sys c =
      (⟨{ sys.sa with
          state := (sys.sa.state.rmStake c.info.caller s).mutateState env.minCollateralAmount,
          balance := sys.sa.balance + c.info.valueReceived }, sys.gw⟩, none) := by
  have hx := @invoke_leave_ok env receiver sys c hm s hs hs0
  rw [if_neg (not_not.2 hst)] at hx
  simp only [step, hx]

/-- A Kill of a registered subnet all of whose validators have left, with no
    funds: the gateway removes it and sends its stake back. -/
theorem step_kill_registered (hm : c.method = .kill)
    (hb : sys.sa.balance + c.info.valueReceived = 0) (hst : sys.sa.state.status ≠ .Terminating)
    (hst' : sys.sa.state.status ≠ .Killed) (hvs : sys.sa.state.validatorSet = [])
    (htot : sys.sa.state.totalStake = 0) {sub : Gateway.Subnet} (he : sys.entry receiver = some sub)
    (hs : 0 ≤ sub.stake) (hgb : sub.stake ≤ sys.gw.balance) (hc : sub.circSupply ≤ 0) :
    step env receiver sys c =
      (⟨{ sys.sa with
          state := { sys.sa.state with status := .Terminating }.mutateState env.minCollateralAmount,
          balance := sys.sa.balance + c.info.valueReceived + sub.stake },
        ⟨sys.gw.state.rmSubnet (sys.shid receiver), sys.gw.balance - sub.stake,
          sys.gw.sent ++ [⟨receiver, .send, sub.stake⟩]⟩⟩,
        some ⟨.kill, true⟩) := by
  have hx := @invoke_kill_ok env receiver sys c hm hb hst hst' hvs htot
  have hh : (0 : Int) ≤ 0 ∧ (0 : Int) ≤ sys.sa.balance + c.info.valueReceived := by omega
  have hg := @invoke_kill env ⟨receiver, false, _, hh.1, c.info.currEpoch⟩
    { sys.gw with sent := [], balance := sys.gw.balance + 0 } _ he hs (by dsimp only; omega) hc
  simp only [step, hx, deliver, dif_pos hh, Gateway.step, payloadCall]
  rw [hg]
  simp [receiveAll, receiveSend, System.shid]

/-- A Kill while the subnet actor holds funds fails before its transaction. -/
theorem step_kill_funded (hm : c.method = .kill) (hb : sys.sa.balance + c.info.valueReceived ≠ 0) :
    step env receiver sys c =
      (⟨{ sys.sa with balance := sys.sa.balance + c.info.valueReceived }, sys.gw⟩, none) := by
  have hx : SubnetActor.invoke env receiver c.info c.method
      { sys.sa with balance := sys.sa.balance + c.info.valueReceived } =
      .err ⟨.illegalState, "the subnet has non-zero balance: \x7b:\x7d"⟩
        { sys.sa with balance := sys.sa.balance + c.info.valueReceived } := by
    rw [hm]
    simp only [SubnetActor.invoke, SubnetActor.kill, RtM.bind_ok _ (currentBalance_apply _)]
    rw [if_pos hb]
    rfl
  simp only [step, hx]

/-- A Kill while the gateway has no entry for the subnet: the subnet actor
    terminates, and the gateway refuses the kill. -/
theorem step_kill_refused (hm : c.method = .kill)
    (hb : sys.sa.balance + c.info.valueReceived = 0) (hst : sys.sa.state.status ≠ .Terminating)
    (hst' : sys.sa.state.status ≠ .Killed) (hvs : sys.sa.state.validatorSet = [])
    (htot : sys.sa.state.totalStake = 0) (he : sys.entry receiver = none) :
    step env receiver sys c =
      (⟨{ sys.sa with
          state := { sys.sa.state with status := .Terminating }.mutateState env.minCollateralAmount,
          balance := sys.sa.balance + c.info.valueReceived }, sys.gw⟩,
        some ⟨.kill, false⟩) := by
  have hx := @invoke_kill_ok env receiver sys c hm hb hst hst' hvs htot
  have hh : (0 : Int) ≤ 0 ∧ (0 : Int) ≤ sys.sa.balance + c.info.valueReceived := by omega
  obtain ⟨e, hg⟩ := @invoke_unregistered env ⟨receiver, false, _, hh.1, c.info.currEpoch⟩
    { sys.gw with sent := [], balance := sys.gw.balance + 0 } _ (.inr (.inr rfl)) he
  simp only [step, hx, deliver, dif_pos hh, Gateway.step, payloadCall]
  rw [hg]

end Calls

end IpcActors.Joint
