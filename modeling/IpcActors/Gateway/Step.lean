/-
  IpcActors.Gateway.Step

  The gateway as a state machine: a call is delivered by `step`, a list of
  calls by `run`, and `Commits` says, once for all methods, which committed
  states one call can lead to.  Every invariant of the gateway is proved
  against `Commits`, one case per transaction of `lib.rs`, and lifted to runs
  by `run_induction`.

  A call's value joins the gateway's balance before the method runs.  A method
  that fails keeps what it committed before failing (§7): the committed state
  after a call is the one before it, or the one its transaction produced.
-/
import IpcActors.Gateway.Actor

namespace IpcActors.Gateway

/-- A call to the gateway: what the runtime says about it, and the method. -/
structure Call where
  info : MessageInfo
  method : Method

variable (env : Env)

/-- The runtime delivers one call. -/
def step (rt : Runtime State) (c : Call) : Outcome State Unit :=
  invoke env c.info c.method { rt with balance := rt.balance + c.info.valueReceived }

/-- The runtime delivers calls one after another. -/
def run (rt : Runtime State) : List Call → Runtime State
  | [] => rt
  | c :: cs => run (step env rt c).rt cs

@[simp] theorem run_nil (rt : Runtime State) : run env rt [] = rt := rfl

@[simp] theorem run_cons (rt : Runtime State) (c : Call) (cs : List Call) :
    run env rt (c :: cs) = run env (step env rt c).rt cs := rfl

theorem run_append (rt : Runtime State) (cs ds : List Call) :
    run env rt (cs ++ ds) = run env (run env rt cs) ds := by
  induction cs generalizing rt with
  | nil => rfl
  | cons c cs ih => exact ih _

/-- The committed states one call of `m` can lead to from `st`: one
    constructor per transaction of `lib.rs`, with the checks the method made
    before it. -/
inductive Commits (info : MessageInfo) : Method → State → State → Prop
  | register {st st' : State} {shid : SubnetID} :
      registerTx env info st = .ok (st', shid) → Commits info .register st st'
  | addStake {st st' : State} : 0 < info.valueReceived →
      addStakeTx env info info.valueReceived st = .ok (st', ()) → Commits info .addStake st st'
  | releaseStake {p : FundParams} {b : Int} {st st' : State} : 0 < p.value →
      releaseStakeTx env info p.value b st = .ok (st', ()) →
      Commits info (.releaseStake p) st st'
  | kill {b v : Int} {st st' : State} :
      killTx info b st = .ok (st', v) → Commits info .kill st st'
  | commitChildCheck {ch : Checkpoint} {fee : Int} {st st' : State} :
      info.caller = ch.source.subnetActor →
      commitChildCheckTx env info ch st = .ok (st', fee) →
      Commits info (.commitChildCheckpoint ch) st st'
  | fund {p : SubnetID} {st st' : State} :
      fundTx info p crossMsgFee st = .ok (st', ()) → Commits info (.fund p) st st'
  | release {v : Int} {st st' : State} :
      releaseTx info st = .ok (st', v) → Commits info .release st st'
  | sendCross {p : CrossMsgParams} {r : CrossMsg × Bool × Int} {st st' : State} :
      sendCrossTx info p st = .ok (st', r) → Commits info (.sendCross p) st st'
  | applyBottomup {p : ApplyMsgParams} {st st' : State} :
      info.caller = systemActorAddr →
      p.crossMsg.msg.applyType st.networkName = .BottomUp →
      p.crossMsg.msg.to.subnet = st.networkName →
      applyBottomupTx p.crossMsg.msg st = .ok (st', ()) → Commits info (.applyMessage p) st st'
  | applyTopdown {p : ApplyMsgParams} {st st' : State} :
      info.caller = systemActorAddr →
      p.crossMsg.msg.applyType st.networkName = .TopDown →
      p.crossMsg.msg.to.subnet = st.networkName →
      st.appliedTopdownNonce = p.crossMsg.msg.nonce →
      applyTopdownTx st = .ok (st', ()) → Commits info (.applyMessage p) st st'
  | park {p : ApplyMsgParams} {c : Cid} {st st' : State} :
      info.caller = systemActorAddr →
      p.crossMsg.msg.to.subnet ≠ st.networkName →
      parkTx env p.crossMsg st = .ok (st', c) → Commits info (.applyMessage p) st st'
  | whitelist {p : WhitelistPropagatorParams} {st st' : State} :
      whitelistPropagatorTx info p st = .ok (st', ()) →
      Commits info (.whiteListPropagator p) st st'
  | propagate {p : PropagateParams} {r : CrossMsg × Bool × Int × Int}
      {st st' : State} :
      propagateTx info p st = .ok (st', r) → Commits info (.propagate p) st st'

/-! ## Every method commits at most its transaction -/

theorem stays_distributeCrossmsgFee (a : Address) (fee : Int) :
    Stays (distributeCrossmsgFee a fee) := by
  unfold distributeCrossmsgFee; exact Stays.ite (stays_pure _) (stays_send _ _ _)

theorem stays_crossMsgSideEffects (n : SubnetID) (m : CrossMsg) (b : Bool) (fee : Int) :
    Stays (crossMsgSideEffects n m b fee) := by
  unfold crossMsgSideEffects
  refine Stays.ite ((stays_send _ _ _).bind fun _ => ?_) ((stays_pure _).bind fun _ => ?_) <;>
  · split
    · exact stays_distributeCrossmsgFee _ _
    · exact stays_pure _

theorem stays_fundingHook (v : Int) : Stays (fundingHook v) := fun _ => rfl

theorem stays_send_then {α : Type} (m : CrossMsg) (rto : Address) (a : α) :
    Stays (m.send rto >>= fun _ => (pure a : RtM State α)) :=
  (stays_send _ _ _).bind fun _ => stays_pure _

theorem within_applyMsg (info : MessageInfo) (p : ApplyMsgParams) :
    Within (Commits env info (.applyMessage p)) (applyMsg env info p) := by
  unfold applyMsg
  refine within_guard fun hsys => within_getState_bind fun st => ?_
  have hsys : info.caller = systemActorAddr := not_not.1 hsys
  have hpark : p.crossMsg.msg.to.subnet ≠ st.networkName →
      Within (fun s s' => s = st → Commits env info (.applyMessage p) s s')
        (parkInPostbox env p.crossMsg) := fun hne =>
    (within_transaction fun _ _ _ h hs => .park hsys (hs ▸ hne) h).bind_stays
      fun _ => stays_pure _
  split
  · rename_i hty
    split
    · rename_i hto
      exact (within_transaction fun _ _ _ h hs =>
        .applyBottomup hsys (hs ▸ hty) (hs ▸ hto) h).bind_stays fun _ => stays_send_then _ _ _
    · exact hpark ‹_›
  · rename_i hty
    refine Within.ite ((stays_fundingHook _).bind_within ?_) ((stays_pure _).bind_within ?_) <;>
    · intro _
      split
      · rename_i hto
        exact within_guard fun hn => (within_transaction fun _ _ _ h hs =>
          .applyTopdown hsys (hs ▸ hty) (hs ▸ hto) (hs ▸ not_not.1 hn) h).bind_stays
            fun _ => stays_send_then _ _ _
      · exact hpark ‹_›

/-- **One call commits at most its transaction.** -/
theorem within_invoke (info : MessageInfo) (m : Method) :
    Within (Commits env info m) (invoke env info m) := by
  cases m with
  | register =>
    exact (within_transaction fun _ _ _ h => .register h).bind_stays fun _ => stays_pure _
  | addStake =>
    exact within_guard fun h => within_transaction fun _ _ _ h' =>
      .addStake (Int.not_le.1 h) h'
  | releaseStake p =>
    exact within_guard fun h => stays_currentBalance.bind_within fun _ =>
      (within_transaction fun _ _ _ h' => .releaseStake (Int.not_le.1 h) h').bind_stays
        fun _ => stays_send _ _ _
  | kill =>
    exact stays_currentBalance.bind_within fun _ =>
      (within_transaction fun _ _ _ h => .kill h).bind_stays fun _ => stays_send _ _ _
  | commitChildCheckpoint ch =>
    exact within_guard fun h => (within_transaction fun _ _ _ h' =>
      .commitChildCheck (not_not.1 h) h').bind_stays fun _ => stays_distributeCrossmsgFee _ _
  | fund p =>
    exact within_guard fun _ => within_guard fun _ =>
      (within_transaction fun _ _ _ h => .fund h).bind_stays
        fun _ => stays_distributeCrossmsgFee _ _
  | release =>
    exact within_guard fun _ => within_guard fun _ =>
      (within_transaction fun _ _ _ h => .release h).bind_stays fun _ => stays_send _ _ _
  | sendCross p =>
    exact within_guard fun _ => within_guard fun _ =>
      (within_transaction fun _ _ _ h => .sendCross h).bind_stays fun _ =>
        stays_getState.bind fun _ => stays_crossMsgSideEffects _ _ _ _
  | applyMessage p =>
    exact (within_applyMsg env info p).bind_stays fun _ => stays_pure _
  | propagate p =>
    exact (within_transaction fun _ _ _ h => .propagate h).bind_stays fun _ =>
      stays_getState.bind fun _ => (stays_crossMsgSideEffects _ _ _ _).bind fun _ =>
        Stays.ite (stays_send _ _ _) (stays_pure _)
  | whiteListPropagator p =>
    exact within_transaction fun _ _ _ h => .whitelist h

/-- A call leaves the committed state as it was, or moves it as `Commits` allows. -/
theorem step_commits (rt : Runtime State) (c : Call) :
    (step env rt c).rt.state = rt.state ∨
      Commits env c.info c.method rt.state (step env rt c).rt.state :=
  within_invoke env c.info c.method { rt with balance := rt.balance + c.info.valueReceived }

/-! ## Reachable runtimes -/

/-- The runtimes a gateway can be in: a fresh gateway, and whatever one call
    admitted by `Q` leads to. -/
inductive Reachable (Q : Call → Prop) : Runtime State → Prop
  | init {rt : Runtime State} (params : ConstructorParams) :
      rt.state = State.new params → Reachable Q rt
  | step {rt : Runtime State} (c : Call) :
      Reachable Q rt → Q c → Reachable Q (step env rt c).rt

/-- **Invariant induction.**  A property of the state that holds of every fresh
    gateway and that every transaction keeps, for the calls `Q` admits, holds in
    every reachable runtime. -/
theorem Reachable.inv {Q : Call → Prop} {I : State → Prop}
    (h0 : ∀ params, I (State.new params))
    (h : ∀ c st st', Q c → I st → Commits env c.info c.method st st' → I st')
    {rt : Runtime State} (hr : Reachable env Q rt) : I rt.state := by
  induction hr with
  | init params he => exact he ▸ h0 params
  | @step rt c _ hc ih =>
    rcases step_commits env rt c with he | hs
    · exact he ▸ ih
    · exact h c _ _ hc ih hs

/-- A run of admitted calls from a reachable runtime ends in a reachable one. -/
theorem reachable_run {Q : Call → Prop} {rt : Runtime State} (hr : Reachable env Q rt)
    {cs : List Call} (hcs : ∀ c ∈ cs, Q c) : Reachable env Q (run env rt cs) := by
  induction cs generalizing rt with
  | nil => exact hr
  | cons c cs ih =>
    exact ih (.step c hr (hcs c (List.mem_cons_self _ _))) fun c' h => hcs c' (List.mem_cons_of_mem _ h)

/-! ## A small hierarchy for the examples -/

/-- A threshold of one token, and content hashes that are all `0`. -/
def demoEnv : Env := ⟨1, fun _ => 0, fun _ => 0⟩

/-- The root network `/0`, its child `/0/5` run by subnet actor `5`, and that
    child's own child `/0/5/6`. -/
def demoRoot : SubnetID := ⟨0, []⟩

def demoChild : SubnetID := ⟨0, [5]⟩

def demoGrandchild : SubnetID := ⟨0, [5, 6]⟩

/-- A fresh gateway at `/0` with nothing in its balance. -/
def demoRuntime : Runtime State := ⟨State.new ⟨demoRoot, 10⟩, 0, []⟩

end IpcActors.Gateway
