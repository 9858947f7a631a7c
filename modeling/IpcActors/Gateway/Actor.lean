/-
  IpcActors.Gateway.Actor

  The gateway actor of `gateway/src/lib.rs`: its methods and
  `commit_cross_message`, the routing step `SendCross` and `Propagate` share.
  Each method is a program in `RtM State` that follows the Rust body in order;
  the closure each one hands to `rt.transaction` is its `…Tx` function, a pure
  function of the committed state.

  `step` is the runtime delivering one call: the value sent with it joins the
  balance, then the method runs.  `run` delivers a list of calls in order.
-/
import IpcActors.Gateway.State

namespace IpcActors.Gateway

/-- What `rt.message()` and the clock say about a call: the immediate caller
    and whether its code is in `CALLER_TYPES_SIGNABLE`, the value received
    (never negative) and the current epoch. -/
structure MessageInfo where
  caller : Address
  callerSignable : Bool
  valueReceived : Int
  valueReceived_nonneg : 0 ≤ valueReceived
  currEpoch : Int

variable (env : Env) (info : MessageInfo)

/-! ## Registry methods -/

/-- The transaction of `Actor::register`. -/
def registerTx (st : State) : Except ActorError (State × SubnetID) :=
  let shid := SubnetID.newFromParent st.networkName info.caller
  match st.getSubnet shid with
  | some _ => .error ⟨.illegalArgument, "subnet with id {} already registered"⟩
  | none => .ok (st.registerSubnet env.minCollateralAmount shid info.valueReceived, shid)

/-- `Actor::register`. -/
def register : RtM State SubnetID := transaction (registerTx env info)

theorem registerTx_eq_ok {st st' : State} {shid : SubnetID}
    (h : registerTx env info st = .ok (st', shid)) :
    shid = SubnetID.newFromParent st.networkName info.caller ∧ st.subnets shid = none ∧
      st' = st.registerSubnet env.minCollateralAmount shid info.valueReceived := by
  dsimp only [registerTx, State.getSubnet] at h
  split at h
  · cases h
  · cases h; exact ⟨rfl, ‹_›, rfl⟩

/-- The transaction of `Actor::add_stake`. -/
def addStakeTx (val : Int) (st : State) : Except ActorError (State × Unit) :=
  let shid := SubnetID.newFromParent st.networkName info.caller
  match st.getSubnet shid with
  | some sub => .ok (st.flushSubnet (sub.addStake env.minCollateralAmount val), ())
  | none => .error ⟨.illegalArgument, "subnet with id {} not registered"⟩

theorem addStakeTx_eq_ok {val : Int} {st st' : State}
    (h : addStakeTx env info val st = .ok (st', ())) :
    ∃ sub, st.subnets (SubnetID.newFromParent st.networkName info.caller) = some sub ∧
      st' = st.flushSubnet (sub.addStake env.minCollateralAmount val) := by
  dsimp only [addStakeTx, State.getSubnet] at h
  split at h
  · cases h; exact ⟨_, ‹_›, rfl⟩
  · cases h

/-- `Actor::add_stake`. -/
def addStake : RtM State Unit := do
  let val := info.valueReceived
  if val ≤ 0 then throw (⟨.illegalArgument, "no stake to add"⟩ : ActorError)
  transaction (addStakeTx env info val)

/-- The transaction of `Actor::release_stake`. -/
def releaseStakeTx (sendVal balance : Int) (st : State) :
    Except ActorError (State × Unit) :=
  let shid := SubnetID.newFromParent st.networkName info.caller
  match st.getSubnet shid with
  | some sub =>
    if sub.stake < sendVal then
      .error ⟨.illegalState, "subnet actor not allowed to release so many funds"⟩
    else if balance < sendVal then
      .error ⟨.illegalState,
        "something went really wrong! the actor doesn't have enough balance to release"⟩
    else .ok (st.flushSubnet (sub.addStake env.minCollateralAmount (-sendVal)), ())
  | none => .error ⟨.illegalArgument, "subnet with id {} not registered"⟩

theorem releaseStakeTx_eq_ok {sendVal balance : Int} {st st' : State}
    (h : releaseStakeTx env info sendVal balance st = .ok (st', ())) :
    ∃ sub, st.subnets (SubnetID.newFromParent st.networkName info.caller) = some sub ∧
      sendVal ≤ sub.stake ∧ sendVal ≤ balance ∧
      st' = st.flushSubnet (sub.addStake env.minCollateralAmount (-sendVal)) := by
  dsimp only [releaseStakeTx, State.getSubnet] at h
  split at h
  · rename_i sub hs
    split at h
    · cases h
    · split at h
      · cases h
      · cases h; exact ⟨sub, hs, by omega, by omega, rfl⟩
  · cases h

/-- `Actor::release_stake`. -/
def releaseStake (params : FundParams) : RtM State Unit := do
  let sendVal := params.value
  if sendVal ≤ 0 then throw (⟨.illegalArgument, "no funds to release in params"⟩ : ActorError)
  let balance ← currentBalance
  transaction (releaseStakeTx env info sendVal balance)
  send info.caller .send sendVal

/-- The transaction of `Actor::kill`; it returns the stake to send back. -/
def killTx (balance : Int) (st : State) : Except ActorError (State × Int) :=
  let shid := SubnetID.newFromParent st.networkName info.caller
  match st.getSubnet shid with
  | some sub =>
    if balance < sub.stake then
      .error ⟨.illegalState,
        "something went really wrong! the actor doesn't have enough balance to release"⟩
    else if sub.circSupply > 0 then
      .error ⟨.illegalState,
        "cannot kill a subnet that still holds user funds in its circ. supply"⟩
    else .ok (st.rmSubnet shid, sub.stake)
  | none => .error ⟨.illegalArgument, "subnet with id {} not registered"⟩

theorem killTx_eq_ok {balance v : Int} {st st' : State}
    (h : killTx info balance st = .ok (st', v)) :
    ∃ sub, st.subnets (SubnetID.newFromParent st.networkName info.caller) = some sub ∧
      sub.stake ≤ balance ∧ sub.circSupply ≤ 0 ∧
      st' = st.rmSubnet (SubnetID.newFromParent st.networkName info.caller) ∧ v = sub.stake := by
  dsimp only [killTx, State.getSubnet] at h
  split at h
  · rename_i sub hs
    split at h
    · cases h
    · split at h
      · cases h
      · cases h; exact ⟨sub, hs, by omega, by omega, rfl, rfl⟩
  · cases h

/-- `Actor::kill`. -/
def kill : RtM State Unit := do
  let balance ← currentBalance
  let sendVal ← transaction (killTx info balance)
  send info.caller .send sendVal

/-! ## Checkpoints -/

/-- The bundle part of `Actor::commit_child_check`: store a bundle that carries
    messages, release its value from the child's circulating supply, and
    return the fee it carries. -/
def commitBundle (st : State) (sub : Subnet) :
    Option CrossMsgs → Except ActorError (State × Subnet × Int)
  | some crossMsg => do
    let st := if crossMsg.msgsCid ≠ 0 then st.storeBottomupMsg crossMsg else st
    let sub ← wrap .illegalState "error releasing circulating supply"
      (sub.releaseSupply crossMsg.value)
    pure (st, sub, crossMsg.fee)
  | none => pure (st, sub, 0)

theorem commitBundle_eq_ok {st st₁ : State} {sub sub₁ : Subnet} {b : Option CrossMsgs}
    {fee : Int} (h : commitBundle st sub b = .ok (st₁, sub₁, fee)) :
    (b = none ∧ st₁ = st ∧ sub₁ = sub ∧ fee = 0) ∨
      ∃ cm, b = some cm ∧ st₁ = (if cm.msgsCid ≠ 0 then st.storeBottomupMsg cm else st) ∧
        cm.value ≤ sub.circSupply ∧ sub₁ = { sub with circSupply := sub.circSupply - cm.value } ∧
        fee = cm.fee := by
  cases b with
  | none => cases h; exact .inl ⟨rfl, rfl, rfl, rfl⟩
  | some cm =>
    cases hr : sub.releaseSupply cm.value with
    | error e => simp [commitBundle, hr, bind, Except.bind] at h
    | ok sub' =>
      obtain ⟨hle, rfl⟩ := Subnet.releaseSupply_eq_ok hr
      simp only [commitBundle, hr, bind, Except.bind, wrap, pure, Except.pure,
        Except.ok.injEq, Prod.mk.injEq] at h
      obtain ⟨rfl, rfl, rfl⟩ := h
      exact .inr ⟨cm, rfl, rfl, hle, rfl, rfl⟩

/-- Storing a bundle touches neither the registry, the postbox nor the nonces. -/
theorem commitBundle_frame {st st₁ : State} {sub sub₁ : Subnet} {b : Option CrossMsgs}
    {fee : Int} (h : commitBundle st sub b = .ok (st₁, sub₁, fee)) :
    st₁.subnets = st.subnets ∧ st₁.networkName = st.networkName ∧ st₁.postbox = st.postbox ∧
      st₁.appliedTopdownNonce = st.appliedTopdownNonce := by
  rcases commitBundle_eq_ok h with ⟨-, rfl, -, -⟩ | ⟨cm, -, rfl, -⟩
  · exact ⟨rfl, rfl, rfl, rfl⟩
  · split <;> simp

/-- Of the child's entry, storing a bundle changes the circulating supply only. -/
theorem commitBundle_sub {st st₁ : State} {sub sub₁ : Subnet} {b : Option CrossMsgs}
    {fee : Int} (h : commitBundle st sub b = .ok (st₁, sub₁, fee)) :
    sub₁ = { sub with circSupply := sub₁.circSupply } := by
  rcases commitBundle_eq_ok h with ⟨-, -, rfl, -⟩ | ⟨_, -, -, -, rfl, -⟩ <;> rfl

/-- The checks `Actor::commit_child_check` makes against the previous
    checkpoint of the child. -/
def checkPrev (commit : Checkpoint) : Option Checkpoint → Except ActorError Unit
  | some prev =>
    if prev.epoch > commit.epoch then
      .error ⟨.illegalArgument, "checkpoint being committed belongs to the past"⟩
    else if commit.prevCheck ≠ env.checkpointCid prev then
      .error ⟨.illegalArgument, "previous checkpoint not consistente with previous one"⟩
    else .ok ()
  | none => .ok ()

theorem checkPrev_eq_ok {commit prev : Checkpoint} (h : checkPrev env commit (some prev) = .ok ()) :
    prev.epoch ≤ commit.epoch ∧ commit.prevCheck = env.checkpointCid prev := by
  simp only [checkPrev] at h
  split at h
  · cases h
  · split at h
    · cases h
    · rename_i h₁ h₂
      exact ⟨by omega, not_not.1 h₂⟩

/-- The transaction of `Actor::commit_child_check`; it returns the fee to
    distribute. -/
def commitChildCheckTx (commit : Checkpoint) (st : State) :
    Except ActorError (State × Int) :=
  let shid := SubnetID.newFromParent st.networkName info.caller
  match st.getSubnet shid with
  | some sub => do
    if sub.status ≠ .Active then
      throw ⟨.illegalState, "can't commit checkpoint for an inactive subnet"⟩
    let ch := st.getWindowCheckpoint info.currEpoch
    checkPrev env commit sub.prevCheckpoint
    let (st, sub, fee) ← commitBundle st sub commit.crossMsgs
    let ch ← wrap .illegalArgument "error adding child checkpoint"
      (ch.addChildCheck env.checkpointCid commit)
    let st := st.flushCheckpoint ch
    pure (st.flushSubnet { sub with prevCheckpoint := some commit }, fee)
  | none => .error ⟨.illegalArgument, "subnet with id {} not registered"⟩

theorem commitChildCheckTx_eq_ok {commit : Checkpoint} {st st' : State} {fee : Int}
    (h : commitChildCheckTx env info commit st = .ok (st', fee)) :
    ∃ sub st₁ sub₁ ch,
      st.subnets (SubnetID.newFromParent st.networkName info.caller) = some sub ∧
      sub.status = .Active ∧ checkPrev env commit sub.prevCheckpoint = .ok () ∧
      commitBundle st sub commit.crossMsgs = .ok (st₁, sub₁, fee) ∧
      (st.getWindowCheckpoint info.currEpoch).addChildCheck env.checkpointCid commit = .ok ch ∧
      st' = (st₁.flushCheckpoint ch).flushSubnet { sub₁ with prevCheckpoint := some commit } := by
  dsimp only [commitChildCheckTx, State.getSubnet] at h
  split at h
  · rename_i sub hs
    by_cases ha : sub.status = .Active
    · simp only [ha, ne_eq, not_true_eq_false, if_false, bind, Except.bind, pure,
        Except.pure] at h
      cases hp : checkPrev env commit sub.prevCheckpoint with
      | error e => simp [hp] at h
      | ok u =>
        simp only [hp] at h
        cases hb : commitBundle st sub commit.crossMsgs with
        | error e => simp [hb] at h
        | ok r =>
          obtain ⟨st₁, sub₁, fee₁⟩ := r
          cases hc : (st.getWindowCheckpoint info.currEpoch).addChildCheck env.checkpointCid commit
            <;> simp [hb, hc, wrap] at h
          obtain ⟨rfl, rfl⟩ := h
          exact ⟨sub, st₁, sub₁, _, hs, ha, hp, hb, rfl, rfl⟩
    · simp [ha, bind, Except.bind] at h
  · cases h

/-- `Actor::commit_child_check`. -/
def commitChildCheck (commit : Checkpoint) : RtM State Unit := do
  let subnetActor := commit.source.subnetActor
  if info.caller ≠ subnetActor then
    throw (⟨.illegalArgument, "source in checkpoint doesn't belong to subnet"⟩ : ActorError)
  let fee ← transaction (commitChildCheckTx env info commit)
  distributeCrossmsgFee subnetActor fee

/-! ## Cross-messages -/

/-- `Actor::commit_cross_message`: commit a message that has not reached its
    destination, top-down toward the child on its path or bottom-up into the
    current window.  It returns whether the value is to be burnt and the
    top-down fee to distribute. -/
def commitCrossMessage (epoch : Int) (st : State) (crossMsg : CrossMsg)
    (fee : Int) : Except ActorError (State × Bool × Int) :=
  let sto := crossMsg.msg.to.subnet
  if sto = st.networkName then .error ⟨.illegalState, "should already be committed"⟩
  else match crossMsg.msg.applyType st.networkName with
    | .BottomUp =>
      match sto.commonParent crossMsg.msg.from.subnet with
      | none => .error ActorError.panic
      | some (_, nearestCommonParent) =>
        if nearestCommonParent = st.networkName then do
          let st ← wrap .illegalState "error committing bottom-up messages"
            (st.commitTopdownMsg crossMsg)
          pure (st, false, fee)
        else .ok (st.commitBottomupMsg crossMsg fee epoch, decide (crossMsg.msg.value > 0), 0)
    | .TopDown => do
      let st := { st with appliedTopdownNonce := st.appliedTopdownNonce + 1 }
      let st ← wrap .illegalState "error committing top-down message while applying it"
        (st.commitTopdownMsg crossMsg)
      pure (st, false, fee)

/-- The three ways `commit_cross_message` can succeed: a top-down message
    committed toward the child on its path (after the applied top-down nonce
    moved on), a bottom-up message turned top-down at its turning point, or a
    bottom-up message committed into the current window. -/
theorem commitCrossMessage_eq_ok {epoch : Int} {st st' : State} {m : CrossMsg}
    {fee : Int} {b : Bool} {f : Int}
    (h : commitCrossMessage epoch st m fee = .ok (st', b, f)) :
    m.msg.to.subnet ≠ st.networkName ∧
      ((m.msg.applyType st.networkName = .TopDown ∧
          State.commitTopdownMsg { st with appliedTopdownNonce := st.appliedTopdownNonce + 1 } m =
            .ok st' ∧ b = false ∧ f = fee) ∨
        (m.msg.applyType st.networkName = .BottomUp ∧
          (∃ k, m.msg.to.subnet.commonParent m.msg.from.subnet = some (k, st.networkName)) ∧
          st.commitTopdownMsg m = .ok st' ∧ b = false ∧ f = fee) ∨
        (m.msg.applyType st.networkName = .BottomUp ∧
          (∃ k c, m.msg.to.subnet.commonParent m.msg.from.subnet = some (k, c) ∧
            c ≠ st.networkName) ∧
          st' = st.commitBottomupMsg m fee epoch ∧ b = decide (m.msg.value > 0) ∧ f = 0)) := by
  dsimp only [commitCrossMessage] at h
  by_cases hto : m.msg.to.subnet = st.networkName
  · rw [if_pos hto] at h; cases h
  rw [if_neg hto] at h
  refine ⟨hto, ?_⟩
  cases hty : m.msg.applyType st.networkName <;> simp only [hty] at h
  · cases hcp : m.msg.to.subnet.commonParent m.msg.from.subnet with
    | none => simp only [hcp] at h; cases h
    | some p =>
      obtain ⟨k, c⟩ := p
      simp only [hcp] at h
      by_cases hc : c = st.networkName
      · subst hc
        cases ht : st.commitTopdownMsg m <;> simp [ht, wrap, bind, Except.bind, pure,
          Except.pure] at h
        obtain ⟨rfl, rfl, rfl⟩ := h
        exact .inr (.inl ⟨rfl, ⟨k, rfl⟩, rfl, rfl, rfl⟩)
      · simp only [hc, if_false, Except.ok.injEq, Prod.mk.injEq] at h
        obtain ⟨rfl, rfl, rfl⟩ := h
        exact .inr (.inr ⟨rfl, ⟨k, c, rfl, hc⟩, rfl, rfl, rfl⟩)
  · cases ht : State.commitTopdownMsg
        { st with appliedTopdownNonce := st.appliedTopdownNonce + 1 } m <;>
      simp [ht, wrap, bind, Except.bind, pure, Except.pure] at h
    obtain ⟨rfl, rfl, rfl⟩ := h
    exact .inl ⟨rfl, rfl, rfl, rfl⟩

/-- `commit_cross_message` keeps the network name and the postbox. -/
theorem commitCrossMessage_frame {epoch : Int} {st st' : State} {m : CrossMsg}
    {fee : Int} {b : Bool} {f : Int}
    (h : commitCrossMessage epoch st m fee = .ok (st', b, f)) :
    st'.networkName = st.networkName ∧ st'.postbox = st.postbox := by
  obtain ⟨-, ⟨-, ht, -⟩ | ⟨-, -, ht, -⟩ | ⟨-, -, rfl, -⟩⟩ := commitCrossMessage_eq_ok h
  · exact ⟨(State.commitTopdownMsg_frame ht).1, (State.commitTopdownMsg_frame ht).2.1⟩
  · exact ⟨(State.commitTopdownMsg_frame ht).1, (State.commitTopdownMsg_frame ht).2.1⟩
  · simp

/-- The transaction of `Actor::fund`. -/
def fundTx (params : SubnetID) (fee : Int) (st : State) :
    Except ActorError (State × Unit) := do
  let value ← State.collectCrossFee info.valueReceived fee
  let msg ← wrap .illegalState "error creating fund cross-message"
    (StorableMsg.newFundMsg params info.caller value)
  let st ← wrap .illegalState "error committing top-down message"
    (st.commitTopdownMsg ⟨msg, false⟩)
  pure (st, ())

theorem fundTx_eq_ok {params : SubnetID} {fee : Int} {st st' : State}
    (h : fundTx info params fee st = .ok (st', ())) :
    ∃ msg, fee < info.valueReceived ∧
      StorableMsg.newFundMsg params info.caller (info.valueReceived - fee) = .ok msg ∧
      st.commitTopdownMsg ⟨msg, false⟩ = .ok st' := by
  cases hv : State.collectCrossFee info.valueReceived fee with
  | error e => simp [fundTx, hv, bind, Except.bind] at h
  | ok v =>
    obtain ⟨hlt, rfl⟩ := State.collectCrossFee_eq_ok hv
    cases hm : StorableMsg.newFundMsg params info.caller (info.valueReceived - fee) with
    | error e => simp [fundTx, hv, hm, bind, Except.bind, wrap] at h
    | ok msg =>
      cases hc : st.commitTopdownMsg ⟨msg, false⟩ <;>
        simp [fundTx, hv, hm, hc, bind, Except.bind, wrap, pure, Except.pure] at h
      exact ⟨msg, hlt, rfl, hc.trans (by rw [h])⟩

/-- `Actor::fund`.  The caller's key address (`resolve_secp_bls`) is taken to
    be its address. -/
def fund (params : SubnetID) : RtM State Unit := do
  if !info.callerSignable then throw ActorError.forbidden
  if info.valueReceived ≤ 0 then
    throw (⟨.illegalArgument, "no funds included in fund message"⟩ : ActorError)
  transaction (fundTx info params crossMsgFee)
  distributeCrossmsgFee params.subnetActor crossMsgFee

/-- The transaction of `Actor::release`; it returns the value left to burn. -/
def releaseTx (st : State) : Except ActorError (State × Int) := do
  let value ← State.collectCrossFee info.valueReceived crossMsgFee
  let msg ← wrap .illegalState "error creating release cross-message"
    (StorableMsg.newReleaseMsg st.networkName info.caller value st.nonce)
  pure (st.commitBottomupMsg ⟨msg, false⟩ crossMsgFee info.currEpoch, value)

theorem releaseTx_eq_ok {st st' : State} {v : Int} (h : releaseTx info st = .ok (st', v)) :
    ∃ msg, crossMsgFee < info.valueReceived ∧ v = info.valueReceived - crossMsgFee ∧
      StorableMsg.newReleaseMsg st.networkName info.caller v st.nonce = .ok msg ∧
      st' = st.commitBottomupMsg ⟨msg, false⟩ crossMsgFee info.currEpoch := by
  cases hv : State.collectCrossFee info.valueReceived crossMsgFee with
  | error e => simp [releaseTx, hv, bind, Except.bind] at h
  | ok v' =>
    obtain ⟨hlt, rfl⟩ := State.collectCrossFee_eq_ok hv
    cases hm : StorableMsg.newReleaseMsg st.networkName info.caller
        (info.valueReceived - crossMsgFee) st.nonce <;>
      simp [releaseTx, hv, hm, bind, Except.bind, wrap, pure, Except.pure] at h
    obtain ⟨rfl, rfl⟩ := h
    exact ⟨_, hlt, rfl, hm, rfl⟩

/-- `Actor::release`. -/
def release : RtM State Unit := do
  if !info.callerSignable then throw ActorError.forbidden
  if info.valueReceived ≤ 0 then
    throw (⟨.illegalArgument, "no funds included in message"⟩ : ActorError)
  let value ← transaction (releaseTx info)
  burnBuFunds value

/-- The transaction of `Actor::send_cross`: it readdresses the message from the
    calling actor at this network to `destination`, takes the fee out of its
    value and commits it. -/
def sendCrossTx (params : CrossMsgParams) (st : State) :
    Except ActorError (State × CrossMsg × Bool × Int) := do
  if params.destination = st.networkName then
    throw ⟨.illegalArgument, "destination is the current network, you are better off with a good ol' message, no cross needed"⟩
  let msg := params.crossMsg.msg
  let msg := { msg with «to» := ⟨params.destination, msg.to.rawAddr⟩,
                        «from» := ⟨st.networkName, info.caller⟩ }
  if info.valueReceived ≠ msg.value then
    throw ⟨.illegalArgument,
      "the funds in cross-msg params are not equal to the ones sent in the message"⟩
  let value ← State.collectCrossFee msg.value crossMsgFee
  let crossMsg := { params.crossMsg with msg := { msg with value } }
  let (st, doBurn, topDownFee) ← commitCrossMessage info.currEpoch st crossMsg crossMsgFee
  pure (st, crossMsg, doBurn, topDownFee)

/-- The message `SendCross` commits: the caller's message readdressed from the
    caller at this network to `destination`, with the fee taken out. -/
def sendCrossMsg (params : CrossMsgParams) (network : SubnetID) : CrossMsg :=
  { params.crossMsg with msg :=
    { params.crossMsg.msg with «to» := ⟨params.destination, params.crossMsg.msg.to.rawAddr⟩,
                               «from» := ⟨network, info.caller⟩,
                               value := params.crossMsg.msg.value - crossMsgFee } }

theorem sendCrossTx_eq_ok {params : CrossMsgParams} {st st' : State}
    {r : CrossMsg × Bool × Int} (h : sendCrossTx info params st = .ok (st', r)) :
    params.destination ≠ st.networkName ∧ info.valueReceived = params.crossMsg.msg.value ∧
      crossMsgFee < params.crossMsg.msg.value ∧ r.1 = sendCrossMsg info params st.networkName ∧
      commitCrossMessage info.currEpoch st r.1 crossMsgFee = .ok (st', r.2) := by
  by_cases hd : params.destination = st.networkName
  · simp [sendCrossTx, hd, bind, Except.bind] at h
  by_cases hv : info.valueReceived = params.crossMsg.msg.value
  · cases hf : State.collectCrossFee params.crossMsg.msg.value crossMsgFee with
    | error e => simp [sendCrossTx, hd, hv, hf, bind, Except.bind, pure, Except.pure] at h
    | ok v =>
      obtain ⟨hlt, rfl⟩ := State.collectCrossFee_eq_ok hf
      cases hc : commitCrossMessage info.currEpoch st (sendCrossMsg info params st.networkName)
          crossMsgFee with
      | error e =>
        simp [sendCrossTx, hd, hv, hf, bind, Except.bind, sendCrossMsg, pure, Except.pure] at h hc
        rw [hc] at h; cases h
      | ok q =>
        simp [sendCrossTx, hd, hv, hf, bind, Except.bind, sendCrossMsg, pure, Except.pure] at h hc
        rw [hc] at h
        cases h
        exact ⟨hd, hv, hlt, rfl, by simpa [sendCrossMsg] using hc⟩
  · simp [sendCrossTx, hd, hv, bind, Except.bind, pure, Except.pure] at h

/-- `Actor::send_cross`. -/
def sendCross (params : CrossMsgParams) : RtM State Unit := do
  if info.callerSignable then throw ActorError.forbidden
  if params.destination = SubnetID.default then
    throw (⟨.illegalArgument, "no destination for cross-message explicitly set"⟩ : ActorError)
  let (crossMsg, doBurn, topDownFee) ← transaction (sendCrossTx info params)
  let st ← getState
  crossMsgSideEffects st.networkName crossMsg doBurn topDownFee

/-! ## Applying messages and the postbox -/

/-- The reward actor's funding hook (`EXTERNAL_FUNDING_METHOD`), modelled from
    the spec (§4.3.4, §6): the call carries no value, and the reward actor
    answers it by crediting `value` to the gateway. -/
def fundingHook (value : Int) : RtM State Unit := fun rt =>
  .ok () { rt with balance := rt.balance + value,
                   sent := rt.sent ++ [⟨rewardActorAddr, .externalFunding, 0⟩] }

/-- The transaction of `Actor::apply_msg` for a bottom-up message that reached
    this network. -/
def applyBottomupTx (msg : StorableMsg) (st : State) : Except ActorError (State × Unit) := do
  let st ← wrap .illegalState "failed applying bottomup message" (st.bottomupStateTransition msg)
  pure (st, ())

theorem applyBottomupTx_eq_ok {msg : StorableMsg} {st st' : State}
    (h : applyBottomupTx msg st = .ok (st', ())) :
    msg.nonce = st.appliedBottomupNonce ∧
      st' = { st with appliedBottomupNonce := st.appliedBottomupNonce + 1 } := by
  by_cases hn : msg.nonce = st.appliedBottomupNonce <;>
    simp [applyBottomupTx, State.bottomupStateTransition, hn, bind, Except.bind, wrap, pure,
      Except.pure] at h
  exact ⟨hn, h.symm⟩

/-- The transaction of `Actor::apply_msg` for a top-down message that reached
    this network with the expected nonce. -/
def applyTopdownTx (st : State) : Except ActorError (State × Unit) :=
  .ok ({ st with appliedTopdownNonce := st.appliedTopdownNonce + 1 }, ())

/-- The transaction of `Actor::apply_msg` for a message that only passes through
    this network: park it in the postbox with its sender as the only owner. -/
def parkTx (crossMsg : CrossMsg) (st : State) : Except ActorError (State × Cid) :=
  .ok (st.insertPostbox env (some [crossMsg.msg.from.rawAddr]) crossMsg)

/-- The end of `Actor::apply_msg` for a message that passes through: park it
    and return its cid. -/
def parkInPostbox (crossMsg : CrossMsg) : RtM State (Option Cid) := do
  let cid ← transaction (parkTx env crossMsg)
  pure (some cid)

/-- `Actor::apply_msg`: deliver a message that reached this network, or park
    one that passes through it. -/
def applyMsg (params : ApplyMsgParams) : RtM State (Option Cid) := do
  if info.caller ≠ systemActorAddr then throw ActorError.forbidden
  let crossMsg := params.crossMsg
  let rto := crossMsg.msg.to.rawAddr
  let sto := crossMsg.msg.to.subnet
  let st ← getState
  match crossMsg.msg.applyType st.networkName with
  | .BottomUp =>
    if sto = st.networkName then do
      transaction (applyBottomupTx crossMsg.msg)
      crossMsg.send rto
      pure none
    else parkInPostbox env crossMsg
  | .TopDown => do
    if crossMsg.msg.value > 0 then fundingHook crossMsg.msg.value
    if sto = st.networkName then do
      if st.appliedTopdownNonce ≠ crossMsg.msg.nonce then
        throw (⟨.illegalState,
          "the top-down message being applied doesn't hold the subsequent nonce"⟩ : ActorError)
      transaction applyTopdownTx
      crossMsg.send rto
      pure none
    else parkInPostbox env crossMsg

/-- The transaction of `Actor::whitelist_propagator`. -/
def whitelistPropagatorTx (params : WhitelistPropagatorParams) (st : State) :
    Except ActorError (State × Unit) := do
  let item ← wrap .unhandledMessage "cannot load from postbox" (st.loadFromPostbox params.postboxCid)
  match item.owners with
  | none => throw ⟨.illegalState, "postbox item cannot add owner for now"⟩
  | some owners =>
    if info.caller ∉ owners then throw ⟨.illegalState, "not owner"⟩
    pure (st.swapPostboxItem params.postboxCid { item with owners := some (owners ++ params.toAdd) },
      ())

theorem whitelistPropagatorTx_eq_ok {params : WhitelistPropagatorParams} {st st' : State}
    (h : whitelistPropagatorTx info params st = .ok (st', ())) :
    ∃ item owners, st.postbox params.postboxCid = some item ∧ item.owners = some owners ∧
      info.caller ∈ owners ∧
      st' = st.swapPostboxItem params.postboxCid
        { item with owners := some (owners ++ params.toAdd) } := by
  cases hi : st.postbox params.postboxCid with
  | none => simp [whitelistPropagatorTx, State.loadFromPostbox, hi, bind, Except.bind, wrap] at h
  | some item =>
    cases ho : item.owners with
    | none =>
      simp [whitelistPropagatorTx, State.loadFromPostbox, hi, ho, bind, Except.bind, wrap] at h
    | some owners =>
      by_cases hc : info.caller ∈ owners <;>
        simp [whitelistPropagatorTx, State.loadFromPostbox, hi, ho, hc, bind, Except.bind, wrap,
          pure, Except.pure] at h
      exact ⟨item, owners, rfl, ho, hc, h.symm⟩

/-- `Actor::whitelist_propagator`. -/
def whitelistPropagator (params : WhitelistPropagatorParams) : RtM State Unit :=
  transaction (whitelistPropagatorTx info params)

/-- The transaction of `Actor::propagate`: check the caller against the owners,
    take the fee out of the value sent, commit the parked message and remove
    it.  It returns the message, the side effects and the remainder. -/
def propagateTx (params : PropagateParams) (st : State) :
    Except ActorError (State × CrossMsg × Bool × Int × Int) := do
  let item ← wrap .unhandledMessage "cannot load from postbox" (st.loadFromPostbox params.postboxCid)
  if let some owners := item.owners then
    if info.caller ∉ owners then throw ⟨.illegalState, "owner not match"⟩
  let value ← State.collectCrossFee info.valueReceived crossMsgFee
  let (st, doBurn, topDownFee) ← commitCrossMessage info.currEpoch st item.crossMsg crossMsgFee
  pure (st.removeFromPostbox params.postboxCid, item.crossMsg, doBurn, topDownFee, value)

theorem propagateTx_eq_ok {params : PropagateParams} {st st' : State}
    {r : CrossMsg × Bool × Int × Int} (h : propagateTx info params st = .ok (st', r)) :
    ∃ item st₁, st.postbox params.postboxCid = some item ∧
      (∀ owners, item.owners = some owners → info.caller ∈ owners) ∧
      crossMsgFee < info.valueReceived ∧ r.1 = item.crossMsg ∧
      r.2.2.2 = info.valueReceived - crossMsgFee ∧
      commitCrossMessage info.currEpoch st item.crossMsg crossMsgFee = .ok (st₁, r.2.1, r.2.2.1) ∧
      st' = st₁.removeFromPostbox params.postboxCid := by
  cases hi : st.postbox params.postboxCid with
  | none => simp [propagateTx, State.loadFromPostbox, hi, bind, Except.bind, wrap] at h
  | some item =>
    have hown : ∀ owners, item.owners = some owners → info.caller ∈ owners := by
      intro owners ho
      by_contra hc
      simp [propagateTx, State.loadFromPostbox, hi, ho, hc, bind, Except.bind, wrap] at h
    cases hv : State.collectCrossFee info.valueReceived crossMsgFee with
    | error e =>
      cases ho : item.owners <;>
        simp_all [propagateTx, State.loadFromPostbox, bind, Except.bind, wrap, pure, Except.pure]
    | ok v =>
      obtain ⟨hlt, rfl⟩ := State.collectCrossFee_eq_ok hv
      cases hc : commitCrossMessage info.currEpoch st item.crossMsg crossMsgFee with
      | error e =>
        cases ho : item.owners <;>
          simp_all [propagateTx, State.loadFromPostbox, bind, Except.bind, wrap, pure, Except.pure]
      | ok q =>
        obtain ⟨st₁, b, f⟩ := q
        have : st' = st₁.removeFromPostbox params.postboxCid ∧
            r = (item.crossMsg, b, f, info.valueReceived - crossMsgFee) := by
          cases ho : item.owners <;>
            simp_all [propagateTx, State.loadFromPostbox, bind, Except.bind, wrap, pure,
              Except.pure, eq_comm]
        obtain ⟨rfl, rfl⟩ := this
        exact ⟨item, st₁, rfl, hown, hlt, rfl, rfl, hc, rfl⟩

/-- `Actor::propagate`. -/
def propagate (params : PropagateParams) : RtM State Unit := do
  let (crossMsg, doBurn, topDownFee, value) ← transaction (propagateTx info params)
  let st ← getState
  crossMsgSideEffects st.networkName crossMsg doBurn topDownFee
  if value ≠ 0 then send info.caller .send value

/-! ## Dispatch -/

/-- The gateway's methods (`Method`), with their parameters.  The constructor
    runs once, before any call: runs start from `State.new`. -/
inductive Method
  | register
  | addStake
  | releaseStake (params : FundParams)
  | kill
  | commitChildCheckpoint (ch : Checkpoint)
  | fund (params : SubnetID)
  | release
  | sendCross (params : CrossMsgParams)
  | applyMessage (params : ApplyMsgParams)
  | propagate (params : PropagateParams)
  | whiteListPropagator (params : WhitelistPropagatorParams)
  deriving DecidableEq

/-- `actor_dispatch!`: run the method a call names; results other than success
    are not kept. -/
def invoke : Method → RtM State Unit
  | .register => do let _ ← register env info
  | .addStake => addStake env info
  | .releaseStake params => releaseStake env info params
  | .kill => kill info
  | .commitChildCheckpoint ch => commitChildCheck env info ch
  | .fund params => fund info params
  | .release => release info
  | .sendCross params => sendCross info params
  | .applyMessage params => do let _ ← applyMsg env info params
  | .propagate params => propagate info params
  | .whiteListPropagator params => whitelistPropagator info params

end IpcActors.Gateway
