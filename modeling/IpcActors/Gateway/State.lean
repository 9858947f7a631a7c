/-
  IpcActors.Gateway.State

  The operations `lib.rs` calls on the gateway state, its registry entries and
  its checkpoints, and the side-effect helpers of `cross.rs`.  `state.rs`,
  `subnet.rs`, `checkpoint.rs` and `cross.rs` are not among the sources, so
  each definition here is modelled from the spec's account of the operation
  and says so; `lib.rs` itself is in `IpcActors.Gateway.Actor`.

  The blockstore is not modelled: loads and flushes never fail, so the
  `StorageFailure` paths of the spec (§7) do not arise.  A helper that fails
  returns the text of its failure; `lib.rs` wraps it with its own exit code
  and message (`downcast_default`), which is what `wrap` does.
-/
import IpcActors.Gateway.Types

namespace IpcActors.Gateway

/-- `e.downcast_default(code, msg)` on a helper's failure. -/
def wrap {α : Type} (code : ExitCode) (msg : String) : Except String α → Except ActorError α
  | .ok a => .ok a
  | .error _ => .error ⟨code, msg⟩

@[simp] theorem wrap_ok {α : Type} (code : ExitCode) (msg : String) (a : α) :
    wrap code msg (.ok a) = .ok a := rfl

@[simp] theorem wrap_error {α : Type} (code : ExitCode) (msg e : String) :
    wrap code msg (.error e : Except String α) = .error ⟨code, msg⟩ := rfl

/-- The status a subnet holding `stake` has against the threshold `min`. -/
def statusOf (min stake : Int) : Status := if min ≤ stake then .Active else .Inactive

theorem statusOf_eq_active {min stake : Int} :
    statusOf min stake = .Active ↔ min ≤ stake := by
  unfold statusOf; split <;> simp_all

/-! ## Registry entries (`subnet.rs`) -/

namespace Subnet

/-- Modelled from the spec (`Subnet::add_stake`, §4.1): adds `value` to the
    stake (a negative one on release) and makes the subnet Active once the
    stake reaches the threshold, Inactive below it. -/
def addStake (min : Int) (sub : Subnet) (value : Int) : Subnet :=
  { sub with stake := sub.stake + value, status := statusOf min (sub.stake + value) }

/-- Modelled from the spec (`Subnet::release_supply`, §4.2): takes `value` out
    of the circulating supply, failing on underflow. -/
def releaseSupply (sub : Subnet) (value : Int) : Except String Subnet :=
  if sub.circSupply < value then .error "cannot release more than the circulating supply"
  else .ok { sub with circSupply := sub.circSupply - value }

/-- Modelled from the spec (§4.3.2): the entry after a top-down message is
    committed toward it.  The message is queued with the entry's next top-down
    nonce, and its value joins the circulating supply. -/
def pushTopdownMsg (sub : Subnet) (crossMsg : CrossMsg) : Subnet :=
  { sub with topDownMsgs := sub.topDownMsgs ++
                [{ crossMsg with msg := { crossMsg.msg with nonce := sub.topdownNonce } }],
             topdownNonce := sub.topdownNonce + 1,
             circSupply := sub.circSupply + crossMsg.msg.value }

@[simp] theorem addStake_fields (min : Int) (sub : Subnet) (value : Int) :
    (sub.addStake min value).id = sub.id ∧ (sub.addStake min value).stake = sub.stake + value ∧
      (sub.addStake min value).circSupply = sub.circSupply ∧
      (sub.addStake min value).status = statusOf min (sub.stake + value) ∧
      (sub.addStake min value).prevCheckpoint = sub.prevCheckpoint :=
  ⟨rfl, rfl, rfl, rfl, rfl⟩

@[simp] theorem pushTopdownMsg_fields (sub : Subnet) (m : CrossMsg) :
    (sub.pushTopdownMsg m).id = sub.id ∧ (sub.pushTopdownMsg m).stake = sub.stake ∧
      (sub.pushTopdownMsg m).circSupply = sub.circSupply + m.msg.value ∧
      (sub.pushTopdownMsg m).status = sub.status ∧
      (sub.pushTopdownMsg m).prevCheckpoint = sub.prevCheckpoint :=
  ⟨rfl, rfl, rfl, rfl, rfl⟩

theorem releaseSupply_eq_ok {sub sub' : Subnet} {value : Int}
    (h : sub.releaseSupply value = .ok sub') :
    value ≤ sub.circSupply ∧ sub' = { sub with circSupply := sub.circSupply - value } := by
  unfold releaseSupply at h
  split at h <;> rename_i hlt
  · cases h
  · cases h; exact ⟨Int.not_lt.1 hlt, rfl⟩

end Subnet

/-! ## The state (`state.rs`) -/

namespace State

/-- `State::get_subnet`. -/
def getSubnet (st : State) (id : SubnetID) : Option Subnet := st.subnets id

/-- Modelled from the spec (`State::flush_subnet`): writes the entry under its id. -/
def flushSubnet (st : State) (sub : Subnet) : State :=
  { st with subnets := Function.update st.subnets sub.id (some sub) }

@[simp] theorem flushSubnet_fields (st : State) (sub : Subnet) :
    (st.flushSubnet sub).subnets = Function.update st.subnets sub.id (some sub) ∧
      (st.flushSubnet sub).networkName = st.networkName ∧
      (st.flushSubnet sub).postbox = st.postbox ∧
      (st.flushSubnet sub).appliedTopdownNonce = st.appliedTopdownNonce :=
  ⟨rfl, rfl, rfl, rfl⟩

/-- Modelled from the spec (`State::rm_subnet`). -/
def rmSubnet (st : State) (id : SubnetID) : State :=
  { st with subnets := Function.update st.subnets id none }

@[simp] theorem rmSubnet_fields (st : State) (id : SubnetID) :
    (st.rmSubnet id).subnets = Function.update st.subnets id none ∧
      (st.rmSubnet id).networkName = st.networkName ∧ (st.rmSubnet id).postbox = st.postbox ∧
      (st.rmSubnet id).appliedTopdownNonce = st.appliedTopdownNonce :=
  ⟨rfl, rfl, rfl, rfl⟩

/-- Modelled from the spec (`State::register_subnet`, §4.1): the stake is the
    value received, the status follows the threshold, the circulating supply
    is zero and there is no previous checkpoint. -/
def registerSubnet (min : Int) (st : State) (id : SubnetID) (value : Int) :
    State :=
  st.flushSubnet
    { id, stake := value, topDownMsgs := [], topdownNonce := 0, circSupply := 0,
      status := statusOf min value, prevCheckpoint := none }

/-- The epoch that closes the checkpoint period containing `epoch`. -/
def windowEpoch (period epoch : Int) : Int := (epoch / period + 1) * period

/-- Modelled from the spec (`State::get_window_checkpoint`): the checkpoint
    under construction for the current period, or a fresh one. -/
def getWindowCheckpoint (st : State) (epoch : Int) : Checkpoint :=
  let e := windowEpoch st.checkPeriod epoch
  (st.checkpoints e).getD ⟨st.networkName, e, 0, none, []⟩

/-- Modelled from the spec (`State::flush_checkpoint`). -/
def flushCheckpoint (st : State) (ch : Checkpoint) : State :=
  { st with checkpoints := Function.update st.checkpoints ch.epoch (some ch) }

@[simp] theorem flushCheckpoint_fields (st : State) (ch : Checkpoint) :
    (st.flushCheckpoint ch).subnets = st.subnets ∧
      (st.flushCheckpoint ch).networkName = st.networkName ∧
      (st.flushCheckpoint ch).postbox = st.postbox ∧
      (st.flushCheckpoint ch).appliedTopdownNonce = st.appliedTopdownNonce :=
  ⟨rfl, rfl, rfl, rfl⟩

/-- Modelled from the spec (`State::store_bottomup_msg`, §4.2): keeps a child's
    bundle as the next bottom-up batch. -/
def storeBottomupMsg (st : State) (meta : CrossMsgs) : State :=
  { st with bottomupMsgMeta := st.bottomupMsgMeta ++ [meta] }

@[simp] theorem storeBottomupMsg_fields (st : State) (meta : CrossMsgs) :
    (st.storeBottomupMsg meta).subnets = st.subnets ∧
      (st.storeBottomupMsg meta).networkName = st.networkName ∧
      (st.storeBottomupMsg meta).postbox = st.postbox ∧
      (st.storeBottomupMsg meta).appliedTopdownNonce = st.appliedTopdownNonce :=
  ⟨rfl, rfl, rfl, rfl⟩

/-- Modelled from the spec (`State::commit_topdown_msg`, §4.3.2, §4.3.3): gives
    the message the next top-down nonce of the child on its path, appends it to
    that child's queue, and adds its value to the child's circulating supply. -/
def commitTopdownMsg (st : State) (crossMsg : CrossMsg) : Except String State :=
  match crossMsg.msg.to.subnet.down st.networkName with
  | none => .error "no child subnet on the route to the destination"
  | some next =>
    match st.getSubnet next with
    | none => .error "the next subnet on the route is not registered"
    | some sub => .ok (st.flushSubnet (sub.pushTopdownMsg crossMsg))

theorem commitTopdownMsg_eq_ok {st st' : State} {m : CrossMsg}
    (h : st.commitTopdownMsg m = .ok st') :
    ∃ next sub, m.msg.to.subnet.down st.networkName = some next ∧ st.subnets next = some sub ∧
      st' = st.flushSubnet (sub.pushTopdownMsg m) := by
  unfold commitTopdownMsg at h
  split at h
  · cases h
  · rename_i next hn
    unfold getSubnet at h
    split at h
    · cases h
    · rename_i sub hs
      cases h
      exact ⟨next, sub, hn, hs, rfl⟩

/-- Once the child on the route is known, the commit succeeds exactly when it is
    registered. -/
theorem commitTopdownMsg_eq_ok_iff {st st' : State} {m : CrossMsg} {next : SubnetID}
    (hn : m.msg.to.subnet.down st.networkName = some next) :
    st.commitTopdownMsg m = .ok st' ↔
      ∃ sub, st.subnets next = some sub ∧ st' = st.flushSubnet (sub.pushTopdownMsg m) := by
  unfold commitTopdownMsg getSubnet
  rw [hn]
  cases hs : st.subnets next <;> simp [hs, eq_comm]

/-- A top-down commit changes only the registry. -/
theorem commitTopdownMsg_frame {st st' : State} {m : CrossMsg}
    (h : st.commitTopdownMsg m = .ok st') :
    st'.networkName = st.networkName ∧ st'.postbox = st.postbox ∧
      st'.appliedTopdownNonce = st.appliedTopdownNonce := by
  obtain ⟨_, _, -, -, rfl⟩ := commitTopdownMsg_eq_ok h
  simp

/-- Modelled from the spec (`State::commit_bottomup_msg`, §4.3.3): adds the
    message, its value and the fee to the bundle of the current window
    checkpoint, and moves the bottom-up nonce on. -/
def commitBottomupMsg (st : State) (msg : CrossMsg) (fee : Int) (epoch : Int) :
    State :=
  let ch := st.getWindowCheckpoint epoch
  let b := ch.crossMsgs.getD ⟨[], 0, 0, 0⟩
  let b' := { b with msgs := b.msgs ++ [msg], value := b.value + msg.msg.value, fee := b.fee + fee }
  let ch' := { ch with crossMsgs := some b' }
  { st.flushCheckpoint ch' with nonce := st.nonce + 1 }

@[simp] theorem commitBottomupMsg_fields (st : State) (msg : CrossMsg) (fee epoch : Int) :
    (st.commitBottomupMsg msg fee epoch).subnets = st.subnets ∧
      (st.commitBottomupMsg msg fee epoch).networkName = st.networkName ∧
      (st.commitBottomupMsg msg fee epoch).postbox = st.postbox ∧
      (st.commitBottomupMsg msg fee epoch).appliedTopdownNonce = st.appliedTopdownNonce :=
  ⟨rfl, rfl, rfl, rfl⟩

/-- Modelled from the spec (`State::bottomup_state_transition`, §4.3.4): the
    message must hold the next applied bottom-up nonce, which then moves on.
    The gateway holds no circulating supply of its own: the child's was
    released when its checkpoint was committed (§4.2). -/
def bottomupStateTransition (st : State) (msg : StorableMsg) : Except String State :=
  if msg.nonce = st.appliedBottomupNonce then
    .ok { st with appliedBottomupNonce := st.appliedBottomupNonce + 1 }
  else .error "the bottom-up message being applied doesn't hold the subsequent nonce"

/-- Modelled from the spec (`State::collect_cross_fee`, §4.3.2): deducts the
    fee, failing with insufficient funds when `value ≤ fee`. -/
def collectCrossFee (value fee : Int) : Except ActorError Int :=
  if value ≤ fee then .error ⟨.insufficientFunds, "not enough funds to pay the cross-message fee"⟩
  else .ok (value - fee)

theorem collectCrossFee_eq_ok {value fee v : Int}
    (h : collectCrossFee value fee = .ok v) : fee < value ∧ v = value - fee := by
  unfold collectCrossFee at h
  split at h <;> rename_i hle
  · cases h
  · cases h; exact ⟨Int.not_le.1 hle, rfl⟩

/-- Modelled from the spec (`State::insert_postbox`, §3): stores the item under
    its content hash, which it returns. -/
def insertPostbox (env : Env) (st : State) (owners : Option (List Address))
    (crossMsg : CrossMsg) : State × Cid :=
  let item : PostBoxItem := ⟨crossMsg, owners⟩
  ({ st with postbox := Function.update st.postbox (env.postboxCid item) (some item) },
    env.postboxCid item)

@[simp] theorem insertPostbox_fields (env : Env) (st : State) (owners : Option (List Address))
    (crossMsg : CrossMsg) :
    (st.insertPostbox env owners crossMsg).1.subnets = st.subnets ∧
      (st.insertPostbox env owners crossMsg).1.networkName = st.networkName ∧
      (st.insertPostbox env owners crossMsg).1.postbox =
        Function.update st.postbox (env.postboxCid ⟨crossMsg, owners⟩)
          (some ⟨crossMsg, owners⟩) ∧
      (st.insertPostbox env owners crossMsg).1.appliedTopdownNonce = st.appliedTopdownNonce :=
  ⟨rfl, rfl, rfl, rfl⟩

/-- Modelled from the spec (`State::load_from_postbox`). -/
def loadFromPostbox (st : State) (cid : Cid) : Except String PostBoxItem :=
  match st.postbox cid with
  | some item => .ok item
  | none => .error "postbox item not found"

/-- Modelled from the spec (`State::swap_postbox_item`). -/
def swapPostboxItem (st : State) (cid : Cid) (item : PostBoxItem) : State :=
  { st with postbox := Function.update st.postbox cid (some item) }

@[simp] theorem swapPostboxItem_fields (st : State) (cid : Cid) (item : PostBoxItem) :
    (st.swapPostboxItem cid item).subnets = st.subnets ∧
      (st.swapPostboxItem cid item).networkName = st.networkName ∧
      (st.swapPostboxItem cid item).postbox = Function.update st.postbox cid (some item) ∧
      (st.swapPostboxItem cid item).appliedTopdownNonce = st.appliedTopdownNonce :=
  ⟨rfl, rfl, rfl, rfl⟩

/-- Modelled from the spec (`State::remove_from_postbox`, §4.3.5). -/
def removeFromPostbox (st : State) (cid : Cid) : State :=
  { st with postbox := Function.update st.postbox cid none }

@[simp] theorem removeFromPostbox_fields (st : State) (cid : Cid) :
    (st.removeFromPostbox cid).subnets = st.subnets ∧
      (st.removeFromPostbox cid).networkName = st.networkName ∧
      (st.removeFromPostbox cid).postbox = Function.update st.postbox cid none ∧
      (st.removeFromPostbox cid).appliedTopdownNonce = st.appliedTopdownNonce :=
  ⟨rfl, rfl, rfl, rfl⟩

end State

/-! ## Checkpoints (`checkpoint.rs`) -/

/-- Modelled from the spec (`Checkpoint::add_child_check`, §4.2): records the
    child checkpoint in the window, rejecting a second one from the same
    source. -/
def Checkpoint.addChildCheck (cid : Checkpoint → Cid) (ch commit : Checkpoint) :
    Except String Checkpoint :=
  if ch.childChecks.any (fun c => c.source == commit.source) then
    .error "child checkpoint from this source already in the window"
  else .ok { ch with childChecks := ch.childChecks ++ [⟨commit.source, [cid commit]⟩] }

/-! ## Messages and their side effects (`cross.rs`) -/

/-- The method a send of `StorableMsg.method` names. -/
def methodOf (n : Nat) : MethodNum := if n = 0 then .send else .num n

/-- Modelled from the spec (`StorableMsg::new_fund_msg`, §4.3.2): a top-down
    `METHOD_SEND` of `value` from the destination's parent to the destination,
    both at `sigAddr`; its nonce is set when it is committed. -/
def StorableMsg.newFundMsg (subId : SubnetID) (sigAddr : Address) (value : Int) :
    Except String StorableMsg :=
  match subId.parent with
  | some p => .ok ⟨⟨p, sigAddr⟩, ⟨subId, sigAddr⟩, 0, value, 0⟩
  | none => .error "error getting parent for subnet addr"

theorem StorableMsg.newFundMsg_eq_ok {subId : SubnetID} {sigAddr : Address} {value : Int}
    {msg : StorableMsg} (h : StorableMsg.newFundMsg subId sigAddr value = .ok msg) :
    ∃ p, subId.parent = some p ∧ msg = ⟨⟨p, sigAddr⟩, ⟨subId, sigAddr⟩, 0, value, 0⟩ := by
  unfold StorableMsg.newFundMsg at h
  split at h
  · cases h; exact ⟨_, ‹_›, rfl⟩
  · cases h

/-- Modelled from the spec (`StorableMsg::new_release_msg`, §4.3.2): a
    bottom-up `METHOD_SEND` of `value` from `subId` to its parent, both at
    `sigAddr`, with the gateway's bottom-up nonce. -/
def StorableMsg.newReleaseMsg (subId : SubnetID) (sigAddr : Address) (value : Int)
    (nonce : Nat) : Except String StorableMsg :=
  match subId.parent with
  | some p => .ok ⟨⟨subId, sigAddr⟩, ⟨p, sigAddr⟩, 0, value, nonce⟩
  | none => .error "error getting parent for subnet addr"

/-- Modelled from the spec (`CrossMsg::send`, §4.3.4): deliver the message to its
    raw destination. -/
def CrossMsg.send (crossMsg : CrossMsg) (rto : Address) : RtM State Unit :=
  IpcActors.send rto (methodOf crossMsg.msg.method) crossMsg.msg.value

/-- Modelled from the spec (`burn_bu_funds`, §4.3.2): burn `value` by sending it
    to the burnt-funds actor. -/
def burnBuFunds (value : Int) : RtM State Unit :=
  IpcActors.send burntFundsActorAddr .send value

/-- Modelled from the spec (`distribute_crossmsg_fee`, §4.2): pay the fee to the
    subnet actor's `Reward`; a zero fee sends nothing. -/
def distributeCrossmsgFee (subnetActor : Address) (fee : Int) : RtM State Unit :=
  if fee = 0 then pure () else IpcActors.send subnetActor .reward fee

/-- Modelled from the spec (`cross_msg_side_effects`, §4.3.3, §4.3.5): burn the
    value of a message committed bottom-up with funds, and pay a top-down fee
    to the child on the message's path. -/
def crossMsgSideEffects (network : SubnetID) (crossMsg : CrossMsg) (doBurn : Bool)
    (topDownFee : Int) : RtM State Unit := do
  if doBurn then burnBuFunds crossMsg.msg.value
  match crossMsg.msg.to.subnet.down network with
  | some next => distributeCrossmsgFee next.subnetActor topDownFee
  | none => pure ()

end IpcActors.Gateway
