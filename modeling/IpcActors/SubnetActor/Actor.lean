/-
  IpcActors.SubnetActor.Actor

  The methods of the subnet actor (`src/subnet-actor/src/lib.rs`).

  `Join`, `Leave`, `Kill` and `SubmitCheckpoint` each run one transaction
  that decides the message for the gateway, a `CrossActorPayload`, and send it
  once the transaction has committed.  The model of a method stops before
  that send and returns the payload; the system the actor runs in delivers it
  (`IpcActors.SubnetActor.Votes` for the actor on its own,
  `IpcActors.Joint.Step` with its gateway).  Since the transaction has
  committed by then, the actor's state does not depend on the send (§5, §7).

  `TxEnds g tx x` is the spec of such a method: it fails with the runtime it
  found, or passes its guard `g` and commits what `tx` returns, and nothing
  else.  Every method but `Reward` has one (`join_ends`, `leave_ends`,
  `kill_ends`, `submitCheckpoint_ends`); `Reward` commits nothing.
-/
import IpcActors.SubnetActor.State

namespace IpcActors.SubnetActor

open Gateway (Checkpoint Env MessageInfo)

/-- `CrossActorPayload`: a call to the gateway and the value it carries. -/
structure CrossActorPayload where
  «to» : Address
  method : Gateway.Method
  value : Int

/-- `JoinParams`. -/
structure JoinParams where
  validatorNetAddr : String

/-- The methods of `actor_dispatch!` (the constructor is run by the init actor). -/
inductive Method
  | join (params : JoinParams)
  | leave
  | kill
  | submitCheckpoint (ch : Checkpoint)
  | reward

/-! ## How a method ends -/

/-- `x` fails with the runtime it found, or passes the guard `g` and commits
    the state and result `tx` returns, changing nothing else. -/
def TxEnds {α : Type} (g : Runtime State → Prop) (tx : State → Except ActorError (State × α))
    (x : RtM State α) : Prop :=
  ∀ rt, (∃ e, x rt = .err e rt) ∨
    ∃ st' a, g rt ∧ tx rt.state = .ok (st', a) ∧ x rt = .ok a { rt with state := st' }

section TxEnds

variable {α : Type} {g : Runtime State → Prop} {tx : State → Except ActorError (State × α)}

theorem txEnds_transaction : TxEnds (fun _ => True) tx (transaction tx) := by
  intro rt
  cases h : tx rt.state with
  | error e => exact .inl ⟨e, transaction_error h⟩
  | ok r =>
    obtain ⟨st', a⟩ := r
    exact .inr ⟨st', a, trivial, rfl, transaction_ok h⟩

/-- A check that throws when `c` holds, before a transaction. -/
theorem TxEnds.guard {c : Prop} [Decidable c] {e : ActorError} (k : PUnit → RtM State α)
    (hk : TxEnds g tx (k PUnit.unit)) :
    TxEnds (fun rt => ¬ c ∧ g rt) tx (if c then throw e >>= k else pure PUnit.unit >>= k) := by
  intro rt
  by_cases hc : c
  · exact .inl ⟨e, by rw [if_pos hc]; rfl⟩
  · rw [if_neg hc, RtM.pure_bind]
    exact (hk rt).imp_right fun ⟨st', a, hg, ht, hx⟩ => ⟨st', a, ⟨hc, hg⟩, ht, hx⟩

theorem TxEnds.mono {g' : Runtime State → Prop} {x : RtM State α} (h : TxEnds g tx x)
    (hg : ∀ rt, g rt → g' rt) : TxEnds g' tx x :=
  fun rt => (h rt).imp_right fun ⟨st', a, hr, ht, hx⟩ => ⟨st', a, hg rt hr, ht, hx⟩

end TxEnds

variable (env : Env) (receiver : Address) (info : MessageInfo)

/-! ## Join, Leave, Kill -/

/-- The transaction of `Actor::join`: credit the stake, then ask the gateway to
    register the subnet once the instantiated subnet holds the minimum
    collateral, or to add the new stake to a subnet past instantiation. -/
def joinTx (netAddr : String) (st : State) : Except ActorError (State × Option CrossActorPayload) :=
  let amount := info.valueReceived
  let st := st.addStake info.caller netAddr amount
  let totalStake := st.totalStake
  let msg :=
    if st.status = .Instantiated then
      if env.minCollateralAmount ≤ totalStake then
        some ⟨st.ipcGatewayAddr, .register, totalStake⟩
      else none
    else some ⟨st.ipcGatewayAddr, .addStake, amount⟩
  .ok (st.mutateState env.minCollateralAmount, msg)

/-- `Actor::join`, up to the send of its payload. -/
def join (params : JoinParams) : RtM State (Option CrossActorPayload) := do
  if info.valueReceived = 0 then
    throw (⟨.illegalArgument, "a minimum collateral is required to join the subnet"⟩ : ActorError)
  transaction (joinTx env info params.validatorNetAddr)

theorem join_ends (params : JoinParams) :
    TxEnds (fun _ => info.valueReceived ≠ 0) (joinTx env info params.validatorNetAddr)
      (join env info params) :=
  (TxEnds.guard _ txEnds_transaction).mono fun _ h => h.1

theorem joinTx_eq_ok {netAddr : String} {st st' : State} {msg : Option CrossActorPayload}
    (h : joinTx env info netAddr st = .ok (st', msg)) :
    st' = (st.addStake info.caller netAddr info.valueReceived).mutateState env.minCollateralAmount ∧
      msg = if st.status = .Instantiated then
          if env.minCollateralAmount ≤ st.totalStake + info.valueReceived then
            some ⟨st.ipcGatewayAddr, .register, st.totalStake + info.valueReceived⟩
          else none
        else some ⟨st.ipcGatewayAddr, .addStake, info.valueReceived⟩ := by
  simp only [joinTx, Except.ok.injEq, Prod.mk.injEq] at h
  exact ⟨h.1.symm, h.2.symm⟩

theorem join_ok {params : JoinParams} {rt : Runtime State} {st' : State} {msg : Option CrossActorPayload}
    (hv : info.valueReceived ≠ 0) (h : joinTx env info params.validatorNetAddr rt.state = .ok (st', msg)) :
    join env info params rt = .ok msg { rt with state := st' } := by
  simp only [join, if_neg hv, RtM.pure_bind]
  exact transaction_ok h

/-- The transaction of `Actor::leave`: the caller must hold a stake, which is
    taken off; unless the subnet is terminating, the gateway is asked to
    release it. -/
def leaveTx (st : State) : Except ActorError (State × Option CrossActorPayload) :=
  match st.getStake info.caller with
  | none => .error ⟨.illegalState, "caller has no stake in subnet"⟩
  | some stake =>
    if stake = 0 then .error ⟨.illegalState, "caller has no stake in subnet"⟩
    else
      let msg :=
        if st.status ≠ .Terminating then
          some ⟨st.ipcGatewayAddr, .releaseStake ⟨stake⟩, 0⟩
        else none
      .ok ((st.rmStake info.caller stake).mutateState env.minCollateralAmount, msg)

/-- `Actor::leave`, up to the send of its payload. -/
def leave : RtM State (Option CrossActorPayload) := transaction (leaveTx env info)

theorem leave_ends : TxEnds (fun _ => True) (leaveTx env info) (leave env info) :=
  txEnds_transaction

theorem leaveTx_eq_ok {st st' : State} {msg : Option CrossActorPayload}
    (h : leaveTx env info st = .ok (st', msg)) :
    ∃ stake, st.getStake info.caller = some stake ∧ stake ≠ 0 ∧
      st' = (st.rmStake info.caller stake).mutateState env.minCollateralAmount ∧
      msg = if st.status ≠ .Terminating then
        some ⟨st.ipcGatewayAddr, .releaseStake ⟨stake⟩, 0⟩ else none := by
  unfold leaveTx at h
  split at h
  · cases h
  · rename_i stake hs
    split at h
    · cases h
    · cases h; exact ⟨stake, hs, ‹_›, rfl, rfl⟩

/-- The transaction of `Actor::kill`: a subnet all of whose validators have
    left moves to terminating, and the gateway is asked to kill it. -/
def killTx (st : State) : Except ActorError (State × Option CrossActorPayload) :=
  if st.status = .Terminating ∨ st.status = .Killed then
    .error ⟨.illegalState, "the subnet is already in a killed or terminating state"⟩
  else if st.validatorSet ≠ [] ∨ st.totalStake ≠ 0 then
    .error ⟨.illegalState, "this subnet can only be killed when all validators have left"⟩
  else
    let st := { st with status := .Terminating }
    .ok (st.mutateState env.minCollateralAmount, some ⟨st.ipcGatewayAddr, .kill, 0⟩)

/-- `Actor::kill`, up to the send of its payload: the actor must hold no funds. -/
def kill : RtM State (Option CrossActorPayload) := do
  let balance ← currentBalance
  if balance ≠ 0 then
    throw (⟨.illegalState, "the subnet has non-zero balance: \x7b:\x7d"⟩ : ActorError)
  transaction (killTx env)

theorem kill_ends : TxEnds (fun rt => rt.balance = 0) (killTx env) (kill env) := by
  intro rt
  simp only [kill, RtM.bind_ok _ (currentBalance_apply rt)]
  exact ((TxEnds.guard (fun _ => transaction (killTx env)) txEnds_transaction) rt).imp_right
    fun ⟨st', a, hg, ht, hx⟩ => ⟨st', a, not_not.1 hg.1, ht, hx⟩

theorem kill_ok {rt : Runtime State} {st' : State} {msg : Option CrossActorPayload}
    (hb : rt.balance = 0) (h : killTx env rt.state = .ok (st', msg)) :
    kill env rt = .ok msg { rt with state := st' } := by
  simp only [kill, RtM.bind_ok _ (currentBalance_apply rt)]
  rw [if_neg (not_not.2 hb), RtM.pure_bind]
  exact transaction_ok h

theorem killTx_eq_ok {st st' : State} {msg : Option CrossActorPayload}
    (h : killTx env st = .ok (st', msg)) :
    st.status ≠ .Terminating ∧ st.status ≠ .Killed ∧ st.validatorSet = [] ∧ st.totalStake = 0 ∧
      st' = { st with status := .Terminating } ∧ msg = some ⟨st.ipcGatewayAddr, .kill, 0⟩ := by
  unfold killTx at h
  split at h
  · cases h
  · split at h
    · cases h
    · rename_i h₁ h₂
      cases h
      simp only [not_or, not_not] at h₁ h₂
      exact ⟨h₁.1, h₁.2, h₂.1, h₂.2, rfl, rfl⟩

/-! ## SubmitCheckpoint -/

/-- The transaction of `Actor::submit_checkpoint`: add the caller's vote for
    the checkpoint's cid; once the voters hold two thirds of the stake, flush
    the checkpoint, ask the gateway to commit it and drop its stored votes,
    and otherwise store the votes. -/
def submitCheckpointTx (ch : Checkpoint) (st : State) :
    Except ActorError (State × Option CrossActorPayload) :=
  let chCid := env.checkpointCid ch
  let found := (st.getVotes chCid).isSome
  let votes := (st.getVotes chCid).getD []
  if info.caller ∈ votes then .error ⟨.illegalState, "miner has already voted the checkpoint"⟩
  else
    let votes := votes ++ [info.caller]
    if st.hasMajorityVote votes then
      let st := st.flushCheckpoint ch
      .ok (if found then st.removeVotes chCid else st,
        some ⟨st.ipcGatewayAddr, .commitChildCheckpoint ch, 0⟩)
    else .ok (st.setVotes chCid votes, none)

/-- `Actor::submit_checkpoint`, up to the send of its payload. -/
def submitCheckpoint (ch : Checkpoint) : RtM State (Option CrossActorPayload) := do
  let state ← getState
  if !state.isValidator info.caller then
    throw (⟨.illegalState, "not validator"⟩ : ActorError)
  match state.verifyCheckpoint receiver ch with
  | .error _ => throw (⟨.illegalState, "checkpoint failed"⟩ : ActorError)
  | .ok () => transaction (submitCheckpointTx env info ch)

theorem submitCheckpoint_ends (ch : Checkpoint) :
    TxEnds (fun rt => rt.state.isValidator info.caller = true ∧
        rt.state.verifyCheckpoint receiver ch = .ok ())
      (submitCheckpointTx env info ch) (submitCheckpoint env receiver info ch) := by
  intro rt
  by_cases hv : rt.state.isValidator info.caller = true
  · cases hc : rt.state.verifyCheckpoint receiver ch with
    | error =>
      refine .inl ⟨⟨.illegalState, "checkpoint failed"⟩, ?_⟩
      simp only [submitCheckpoint, RtM.bind_ok _ (getState_apply rt), hv, hc]
      rfl
    | ok u =>
      have hx : submitCheckpoint env receiver info ch rt = transaction (submitCheckpointTx env info ch) rt := by
        simp only [submitCheckpoint, RtM.bind_ok _ (getState_apply rt), hv, hc]
        rfl
      rw [hx]
      exact (txEnds_transaction rt).imp_right fun ⟨st', a, _, ht, hx⟩ => ⟨st', a, ⟨hv, hc⟩, ht, hx⟩
  · refine .inl ⟨⟨.illegalState, "not validator"⟩, ?_⟩
    simp only [Bool.not_eq_true] at hv
    simp only [submitCheckpoint, RtM.bind_ok _ (getState_apply rt), hv]
    rfl

theorem submitCheckpointTx_eq_ok {ch : Checkpoint} {st st' : State}
    {msg : Option CrossActorPayload} (h : submitCheckpointTx env info ch st = .ok (st', msg)) :
    info.caller ∉ (st.getVotes (env.checkpointCid ch)).getD [] ∧
      ((st.hasMajorityVote ((st.getVotes (env.checkpointCid ch)).getD [] ++ [info.caller]) ∧
          st' = (if (st.getVotes (env.checkpointCid ch)).isSome then
            (st.flushCheckpoint ch).removeVotes (env.checkpointCid ch) else st.flushCheckpoint ch) ∧
          msg = some ⟨st.ipcGatewayAddr, .commitChildCheckpoint ch, 0⟩) ∨
        (st.hasMajorityVote ((st.getVotes (env.checkpointCid ch)).getD [] ++ [info.caller]) = false ∧
          st' = st.setVotes (env.checkpointCid ch)
            ((st.getVotes (env.checkpointCid ch)).getD [] ++ [info.caller]) ∧ msg = none)) := by
  dsimp only [submitCheckpointTx] at h
  split at h
  · cases h
  · rename_i hn
    refine ⟨hn, ?_⟩
    split at h
    · cases h; exact .inl ⟨‹_›, rfl, rfl⟩
    · rename_i hm
      cases h; exact .inr ⟨Bool.eq_false_iff.2 hm, rfl, rfl⟩

/-! ## Reward -/

/-- Pay `value` to each validator in turn. -/
def sendAll (value : Int) : List Validator → RtM State Unit
  | [] => pure ()
  | v :: vs => do send v.addr .send value; sendAll value vs

/-- `Actor::reward`: the gateway's reward, split evenly between the validators;
    the remainder of the division stays with the actor. -/
def reward : RtM State Unit := do
  let st ← getState
  if info.caller ≠ st.ipcGatewayAddr then throw ActorError.forbidden
  let amount := info.valueReceived
  if amount = 0 then
    throw (⟨.illegalArgument, "no rewards sent for distribution"⟩ : ActorError)
  if st.validatorSet.length = 0 then
    throw (⟨.illegalState, "no validators in subnet"⟩ : ActorError)
  let div := (st.validatorSet.length : Int)
  let rewAmount := amount / div
  sendAll rewAmount st.validatorSet

theorem stays_sendAll (value : Int) : ∀ vs, Stays (sendAll value vs)
  | [] => stays_pure _
  | _ :: vs => (stays_send _ _ _).bind fun _ => stays_sendAll value vs

theorem stays_reward : Stays (reward info) := by
  intro rt
  simp only [reward, RtM.bind_ok _ (getState_apply rt)]
  split
  · rfl
  · simp only [RtM.pure_bind]
    split
    · rfl
    · simp only [RtM.pure_bind]
      split
      · rfl
      · exact stays_sendAll _ _ rt

/-! ## Dispatch -/

/-- `actor_dispatch!`: run the method a call names, up to the send of its
    payload. -/
def invoke : Method → RtM State (Option CrossActorPayload)
  | .join params => join env info params
  | .leave => leave env info
  | .kill => kill env
  | .submitCheckpoint ch => submitCheckpoint env receiver info ch
  | .reward => do reward info; pure none

/-! ## What a call commits -/

/-- The transaction a call of `m` commits from `st`, with the payload it
    chose: every guard of the method passed. -/
inductive Commits : Method → State → State → Option CrossActorPayload → Prop
  | join {params : JoinParams} {st st' : State} {msg : Option CrossActorPayload} :
      info.valueReceived ≠ 0 → joinTx env info params.validatorNetAddr st = .ok (st', msg) →
      Commits (.join params) st st' msg
  | leave {st st' : State} {msg : Option CrossActorPayload} :
      leaveTx env info st = .ok (st', msg) → Commits .leave st st' msg
  | kill {st st' : State} {msg : Option CrossActorPayload} :
      killTx env st = .ok (st', msg) → Commits .kill st st' msg
  | submitCheckpoint {ch : Checkpoint} {st st' : State} {msg : Option CrossActorPayload} :
      st.isValidator info.caller = true → st.verifyCheckpoint receiver ch = .ok () →
      submitCheckpointTx env info ch st = .ok (st', msg) → Commits (.submitCheckpoint ch) st st' msg

/-- **Every call** fails or sends nothing with the state as it found it, or
    commits a transaction of its method and sends the payload it chose. -/
theorem invoke_cases (m : Method) (rt : Runtime State) :
    (∃ e rt', invoke env receiver info m rt = .err e rt' ∧ rt'.state = rt.state) ∨
      (∃ rt', invoke env receiver info m rt = .ok none rt' ∧ rt'.state = rt.state) ∨
      ∃ st' msg, Commits env receiver info m rt.state st' msg ∧
        invoke env receiver info m rt = .ok msg { rt with state := st' } := by
  have of_ends : ∀ {g : Runtime State → Prop} {tx} {x : RtM State (Option CrossActorPayload)},
      TxEnds g tx x → (∀ st' msg, g rt → tx rt.state = .ok (st', msg) →
        Commits env receiver info m rt.state st' msg) → invoke env receiver info m rt = x rt →
      (∃ e rt', invoke env receiver info m rt = .err e rt' ∧ rt'.state = rt.state) ∨
        (∃ rt', invoke env receiver info m rt = .ok none rt' ∧ rt'.state = rt.state) ∨
        ∃ st' msg, Commits env receiver info m rt.state st' msg ∧
          invoke env receiver info m rt = .ok msg { rt with state := st' } := by
    intro g tx x h hc hx
    rw [hx]
    rcases h rt with ⟨e, he⟩ | ⟨st', msg, hg, ht, he⟩
    · exact .inl ⟨e, rt, he, rfl⟩
    · exact .inr (.inr ⟨st', msg, hc st' msg hg ht, he⟩)
  cases m with
  | join params => exact of_ends (join_ends env info params) (fun _ _ hg ht => .join hg ht) rfl
  | leave => exact of_ends (leave_ends env info) (fun _ _ _ ht => .leave ht) rfl
  | kill => exact of_ends (kill_ends env) (fun _ _ _ ht => .kill ht) rfl
  | submitCheckpoint ch =>
    exact of_ends (submitCheckpoint_ends env receiver info ch)
      (fun _ _ hg ht => .submitCheckpoint hg.1 hg.2 ht) rfl
  | reward =>
    have hs := stays_reward info rt
    simp only [invoke, RtM.bind_apply]
    cases h : reward info rt with
    | ok _ rt' => exact .inr (.inl ⟨rt', rfl, by rw [h] at hs; exact hs⟩)
    | err e rt' => exact .inl ⟨e, rt', rfl, by rw [h] at hs; exact hs⟩

end IpcActors.SubnetActor
