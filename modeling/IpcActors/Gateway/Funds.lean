/-
  IpcActors.Gateway.Funds

  What the gateway pays out on a child's account, against what it is credited
  for it (§3, §4.1, §4.2).

  For a child the gateway holds its stake and its circulating supply (`held`).
  `flows` counts, for one committed call and one child, what the call credits
  to the child (the stake `Register` and `AddStake` receive for it, and the
  value of the top-down messages committed toward it) and what it pays out on
  the child's account (the stake `ReleaseStake` and `Kill` send back, and the
  bundle value a checkpoint releases from the supply); `account` takes the
  flows of the state a call leaves.  A transaction counts once it has moved
  the child's entry: it stays committed even when the send after it fails
  (§7).

  Every committed call moves what is held for a child by at most its credit
  less its payout (`held_commits`, one case per transaction), so along a run
  the payouts and what is still held never exceed the credits and what was
  held at the start (`held_run`), as for a reserve.  What is held is not
  negative on the runs whose applied messages carry no negative value
  (`Backed`, from the step lemmas of the registry invariant).

  These are the amounts the transactions book, not tokens sent, and the bound
  leaves the bundle fee out, and has to: `commit_child_check` takes the fee as
  the child's actor declares it, checks it against nothing the child holds,
  and pays it out of the gateway's own balance, which also backs the other
  children.  `feeDrain_blocks_release` has a child draw its sibling's stake as
  a fee, after which the sibling's `ReleaseStake` fails.
-/
import IpcActors.Gateway.Registry
import IpcActors.Gateway.Checkpoint
import Mathlib.Algebra.Ring.Int.Defs

namespace IpcActors.Gateway

/-! ## The account of a child -/

/-- What the gateway holds for a child whose entry is `e`: the stake and the
    circulating supply. -/
def held : Option Subnet → Int
  | some sub => sub.stake + sub.circSupply
  | none => 0

/-- The value of the top-down messages queued for a child while its entry went
    from `e` to `e'`. -/
def queuedValue : Option Subnet → Option Subnet → Int
  | some sub, some sub' =>
    ((sub'.topDownMsgs.drop sub.topDownMsgs.length).map fun m => m.msg.value).sum
  | _, _ => 0

/-- The value a checkpoint's bundle releases from the circulating supply. -/
def Checkpoint.bundleValue (ch : Checkpoint) : Int := (ch.crossMsgs.map CrossMsgs.value).getD 0

/-- What calls moved on a child's account: what they credited to it, and what
    they paid out on it. -/
structure Account where
  credited : Int
  paidOut : Int
  deriving DecidableEq, Repr

/-- Nothing moved. -/
def Account.zero : Account := ⟨0, 0⟩

/-- The moves of two stretches of a run, one after the other. -/
def Account.add (a b : Account) : Account :=
  ⟨a.credited + b.credited, a.paidOut + b.paidOut⟩

/-- What a committed call of `m` moved on the account of the child `id` at the
    gateway of `network`, the call taking the child's entry from `e` to `e'`.
    A staking call or a checkpoint counts when it comes from the child's actor
    and moved the entry; what a call queued toward the child always counts. -/
def flows (network : SubnetID) (info : MessageInfo) (m : Method) (id : SubnetID)
    (e e' : Option Subnet) : Account :=
  let queued := queuedValue e e'
  if e' ≠ e ∧ SubnetID.newFromParent network info.caller = id then
    match m with
    | .register | .addStake => ⟨queued + info.valueReceived, 0⟩
    | .releaseStake p => ⟨queued, p.value⟩
    | .kill => ⟨queued, (e.map Subnet.stake).getD 0⟩
    | .commitChildCheckpoint ch => ⟨queued, ch.bundleValue⟩
    | _ => ⟨queued, 0⟩
  else ⟨queued, 0⟩

variable (env : Env)

/-- What the call `c` moves on the account of the child `id`: the flows of the
    state it leaves. -/
def account (id : SubnetID) (rt : Runtime State) (c : Call) : Account :=
  flows rt.state.networkName c.info c.method id (rt.state.subnets id)
    ((step env rt c).rt.state.subnets id)

/-- What the calls `cs` move on the account of the child `id`, from `rt`. -/
def accountRun (id : SubnetID) : Runtime State → List Call → Account
  | _, [] => .zero
  | rt, c :: cs => (account env id rt c).add (accountRun id (step env rt c).rt cs)

/-! ## Entries a call leaves or queues on -/

@[simp] theorem queuedValue_self (e : Option Subnet) : queuedValue e e = 0 := by
  cases e <;> simp [queuedValue]

/-- A call that leaves the child's entry as it was moves nothing on its account. -/
theorem flows_self (network : SubnetID) (info : MessageInfo) (m : Method) (id : SubnetID)
    (e : Option Subnet) :
    (flows network info m id e e).credited = 0 ∧ (flows network info m id e e).paidOut = 0 := by
  simp [flows]

theorem queuedValue_push (sub : Subnet) (m : CrossMsg) :
    queuedValue (some sub) (some (sub.pushTopdownMsg m)) = m.msg.value := by
  simp [queuedValue, Subnet.pushTopdownMsg]

/-- An entry that a commit of cross-messages left as it was or queued one
    top-down message on. -/
def Pushed (e e' : Option Subnet) : Prop :=
  e' = e ∨ ∃ sub m, e = some sub ∧ e' = some (sub.pushTopdownMsg m)

theorem Pushed.held_eq {e e' : Option Subnet} (h : Pushed e e') :
    held e' = held e + queuedValue e e' := by
  rcases h with rfl | ⟨sub, m, rfl, rfl⟩
  · simp
  · simp only [held, Subnet.pushTopdownMsg_fields, queuedValue_push]; omega

theorem pushed_commitTopdownMsg {st st' : State} {m : CrossMsg} (hk : Keyed st)
    (h : st.commitTopdownMsg m = .ok st') (id : SubnetID) :
    Pushed (st.subnets id) (st'.subnets id) := by
  obtain ⟨next, sub, -, hs, rfl⟩ := State.commitTopdownMsg_eq_ok h
  by_cases hid : id = next
  · subst hid; exact .inr ⟨sub, m, hs, by simp [Function.update_apply, hk _ _ hs]⟩
  · exact .inl (by simp [Function.update_apply, hk _ _ hs, hid])

theorem pushed_commitCrossMessage {epoch fee f : Int} {b : Bool} {st st' : State} {m : CrossMsg}
    (hk : Keyed st) (h : commitCrossMessage epoch st m fee = .ok (st', b, f)) (id : SubnetID) :
    Pushed (st.subnets id) (st'.subnets id) := by
  obtain ⟨-, ⟨-, ht, -⟩ | ⟨-, -, ht, -⟩ | ⟨-, -, rfl, -⟩⟩ := commitCrossMessage_eq_ok h
  · exact @pushed_commitTopdownMsg { st with appliedTopdownNonce := st.appliedTopdownNonce + 1 }
      st' m hk ht id
  · exact pushed_commitTopdownMsg hk ht id
  · exact .inl (by simp)

/-- `Fund`, `SendCross` and `Propagate` pay nothing out and credit what they
    queued. -/
theorem flows_queued (network : SubnetID) (info : MessageInfo) (id : SubnetID)
    (e e' : Option Subnet) {m : Method}
    (hm : (∃ p, m = .fund p) ∨ (∃ p, m = .sendCross p) ∨ ∃ p, m = .propagate p) :
    (flows network info m id e e').paidOut = 0 ∧
      (flows network info m id e e').credited = queuedValue e e' := by
  rcases hm with ⟨p, rfl⟩ | ⟨p, rfl⟩ | ⟨p, rfl⟩ <;> simp only [flows] <;> split <;> exact ⟨rfl, rfl⟩

/-- A call that only queues toward the child moves what is held for it by
    what it credits. -/
theorem held_of_pushed {e e' : Option Subnet} (hp : Pushed e e') {a : Account}
    (h : a.paidOut = 0 ∧ a.credited = queuedValue e e') :
    held e' + a.paidOut ≤ held e + a.credited := by
  rw [h.1, h.2, hp.held_eq]; omega

/-- The entry a call moved is the one it writes. -/
theorem eq_of_moved {st st' : State} {id : SubnetID} (shid : SubnetID) (hmv : st'.subnets id ≠ st.subnets id)
    (h : ∀ x, x ≠ shid → st'.subnets x = st.subnets x) : id = shid :=
  by_contra fun hne => hmv (h id hne)

/-! ## One committed call -/

/-- **One committed call** moves what the gateway holds for the child `id` by
    at most its credit less its payout. -/
theorem held_commits {info : MessageInfo} {m : Method} {st st' : State}
    (hc : Commits env info m st st') (hk : Keyed st)
    (hcirc : AllSubnets (fun sub => 0 ≤ sub.circSupply) st) (id : SubnetID) :
    held (st'.subnets id) + (flows st.networkName info m id (st.subnets id) (st'.subnets id)).paidOut ≤
      held (st.subnets id) +
        (flows st.networkName info m id (st.subnets id) (st'.subnets id)).credited := by
  by_cases hmv : st'.subnets id = st.subnets id
  · have h := flows_self st.networkName info m id (st.subnets id)
    rw [hmv]; omega
  cases hc with
  | register hr =>
    obtain ⟨rfl, hnone, rfl⟩ := registerTx_eq_ok env info hr
    obtain rfl := eq_of_moved (SubnetID.newFromParent st.networkName info.caller) hmv
      fun x hx => by simp [State.registerSubnet, hx]
    rw [flows, if_pos ⟨hmv, rfl⟩]
    simp [held, queuedValue, hnone, State.registerSubnet]
  | addStake _ ha =>
    obtain ⟨sub, hs, rfl⟩ := addStakeTx_eq_ok env info ha
    obtain rfl := eq_of_moved (SubnetID.newFromParent st.networkName info.caller) hmv
      fun x hx => by simp [hk _ _ hs, hx]
    rw [flows, if_pos ⟨hmv, rfl⟩]
    simp [held, queuedValue, hs, hk _ _ hs, Subnet.addStake]; omega
  | releaseStake _ hr =>
    obtain ⟨sub, hs, -, -, rfl⟩ := releaseStakeTx_eq_ok env info hr
    obtain rfl := eq_of_moved (SubnetID.newFromParent st.networkName info.caller) hmv
      fun x hx => by simp [hk _ _ hs, hx]
    rw [flows, if_pos ⟨hmv, rfl⟩]
    simp [held, queuedValue, hs, hk _ _ hs, Subnet.addStake]; omega
  | kill hkill =>
    obtain ⟨sub, hs, -, -, rfl, -⟩ := killTx_eq_ok info hkill
    obtain rfl := eq_of_moved (SubnetID.newFromParent st.networkName info.caller) hmv
      fun x hx => by simp [hx]
    have := hcirc _ _ hs
    rw [flows, if_pos ⟨hmv, rfl⟩]
    simp [held, queuedValue, hs]; omega
  | commitChildCheck _ hcc =>
    obtain ⟨sub, st₁, sub₁, w, hs, -, -, hb, -, rfl⟩ := commitChildCheckTx_eq_ok env info hcc
    have hid : sub₁.id = _ := (congrArg Subnet.id (commitBundle_sub hb)).trans (hk _ sub hs)
    have hf := (commitBundle_frame hb).1
    obtain rfl := eq_of_moved (SubnetID.newFromParent st.networkName info.caller) hmv
      fun x hx => by simp [hf, hid, hx]
    rw [flows, if_pos ⟨hmv, rfl⟩]
    rcases commitBundle_eq_ok hb with ⟨hnone, -, rfl, -⟩ | ⟨cm, hsome, -, -, rfl, -⟩
    · simp [held, queuedValue, hs, hid, Checkpoint.bundleValue, hnone]
    · simp [held, queuedValue, hs, hk _ _ hs, Checkpoint.bundleValue, hsome]; omega
  | fund hf =>
    obtain ⟨_, -, -, ht⟩ := fundTx_eq_ok info hf
    exact held_of_pushed (pushed_commitTopdownMsg hk ht id) (flows_queued _ _ _ _ _ (.inl ⟨_, rfl⟩))
  | release hr =>
    obtain ⟨_, -, -, -, rfl⟩ := releaseTx_eq_ok info hr
    exact absurd (by simp) hmv
  | sendCross hs =>
    exact held_of_pushed (pushed_commitCrossMessage hk (sendCrossTx_eq_ok info hs).2.2.2.2 id)
      (flows_queued _ _ _ _ _ (.inr (.inl ⟨_, rfl⟩)))
  | applyBottomup _ _ _ ha =>
    obtain ⟨-, rfl⟩ := applyBottomupTx_eq_ok ha
    exact absurd rfl hmv
  | applyTopdown _ _ _ _ ha => cases ha; exact absurd rfl hmv
  | park _ _ hp => cases hp; exact absurd (by simp) hmv
  | whitelist hw =>
    obtain ⟨_, _, -, -, -, rfl⟩ := whitelistPropagatorTx_eq_ok info hw
    exact absurd (by simp) hmv
  | propagate hp =>
    obtain ⟨_, st₁, -, -, -, -, -, hcm, rfl⟩ := propagateTx_eq_ok info hp
    have h := pushed_commitCrossMessage hk hcm id
    rw [← (State.removeFromPostbox_fields st₁ _).1] at h
    exact held_of_pushed h (flows_queued _ _ _ _ _ (.inr (.inr ⟨_, rfl⟩)))

/-! ## Runs -/

/-- What the gateway holds for each child is not negative: P1's stake and
    supply parts, on a registry whose entries sit under their own id. -/
structure Backed (st : State) : Prop where
  keyed : Keyed st
  stake : AllSubnets (Subnet.StakeOk env.minCollateralAmount) st
  supply : SupplyOk st

theorem Backed.held_nonneg {st : State} (h : Backed env st) (id : SubnetID) :
    0 ≤ held (st.subnets id) := by
  cases hs : st.subnets id with
  | none => exact Int.le_refl 0
  | some sub =>
    have := (h.stake _ _ hs).1
    have := h.supply.circ _ _ hs
    simp only [held]; omega

theorem backed_reachable {rt : Runtime State} (hr : Reachable env Call.NonnegApply rt) :
    Backed env rt.state :=
  hr.inv env (fun _ => ⟨fun _ _ h => (by cases h), fun _ _ h => (by cases h),
      ⟨fun _ _ h => (by cases h), fun _ _ h => (by cases h)⟩⟩)
    fun _ _ _ hq h hc => ⟨keyed_step env hc h.keyed, stakeOk_step env hc h.stake,
      supplyOk_step env hq hc h.supply⟩

/-- One call, committed or not. -/
theorem held_step {rt : Runtime State} (h : Backed env rt.state) (c : Call) (id : SubnetID) :
    held ((step env rt c).rt.state.subnets id) + (account env id rt c).paidOut ≤
      held (rt.state.subnets id) + (account env id rt c).credited := by
  rcases step_commits env rt c with he | hc
  · have hf := flows_self rt.state.networkName c.info c.method id (rt.state.subnets id)
    simp only [account, he, hf.1, hf.2]; omega
  · exact held_commits env hc h.keyed h.supply.circ id

/-- **A run** of calls that apply no negative value: the payouts on a child's
    account and what is still held for it never exceed its credits and what was
    held for it at the start. -/
theorem held_run {rt : Runtime State} (hr : Reachable env Call.NonnegApply rt) {cs : List Call}
    (hcs : ∀ c ∈ cs, c.NonnegApply) (id : SubnetID) :
    held ((run env rt cs).state.subnets id) + (accountRun env id rt cs).paidOut ≤
      held (rt.state.subnets id) + (accountRun env id rt cs).credited := by
  induction cs generalizing rt with
  | nil => simp [accountRun, Account.zero]
  | cons c cs ih =>
    have hq := hcs c (List.mem_cons_self _ _)
    have hrest := ih (.step c hr hq) fun c' h => hcs c' (List.mem_cons_of_mem _ h)
    have hstep := held_step env (backed_reachable env hr) c id
    simp only [run_cons, accountRun, Account.add]
    omega

/-- **The books of a child.**  On every run from a fresh gateway whose applied
    messages carry no negative value, what the gateway holds for a child is not
    negative, and the stake its transactions released and the bundle value they
    released on the child's account, with what it still holds for the child,
    never exceed what was credited to the child. -/
theorem child_account_bound (params : ConstructorParams) (cs : List Call)
    (hcs : ∀ c ∈ cs, c.NonnegApply) (id : SubnetID) :
    0 ≤ held ((run env ⟨State.new params, 0, []⟩ cs).state.subnets id) ∧
      (accountRun env id ⟨State.new params, 0, []⟩ cs).paidOut +
          held ((run env ⟨State.new params, 0, []⟩ cs).state.subnets id) ≤
        (accountRun env id ⟨State.new params, 0, []⟩ cs).credited := by
  have hr : Reachable env Call.NonnegApply ⟨State.new params, 0, []⟩ := .init params rfl
  have h := held_run env hr hcs id
  have h0 : held ((⟨State.new params, 0, []⟩ : Runtime State).state.subnets id) = 0 := rfl
  exact ⟨(backed_reachable env (reachable_run env hr hcs)).held_nonneg env id, by omega⟩

/-! ## Where the bound stops -/

/-- The subnet of actor `6` under the root, a sibling of `demoChild`. -/
def demoSibling : SubnetID := ⟨0, [6]⟩

/-- A checkpoint of `demoChild` whose bundle releases nothing and declares a
    fee of `2`. -/
def feeCheckpoint : Checkpoint := ⟨demoChild, 10, 0, some ⟨[], 0, 2, 0⟩, []⟩

/-- Actors `5` and `6` register their subnets with one token each, and `5`
    commits `feeCheckpoint`. -/
def feeDrainCalls : List Call :=
  [⟨⟨5, false, 1, by decide, 0⟩, .register⟩, ⟨⟨6, false, 1, by decide, 0⟩, .register⟩,
   ⟨⟨5, false, 0, by decide, 0⟩, .commitChildCheckpoint feeCheckpoint⟩]

theorem child_account_bound_demo :
    (∀ c ∈ feeDrainCalls, c.NonnegApply) ∧
      0 ≤ held ((run demoEnv demoRuntime feeDrainCalls).state.subnets demoChild) ∧
      (accountRun demoEnv demoChild demoRuntime feeDrainCalls).paidOut +
          held ((run demoEnv demoRuntime feeDrainCalls).state.subnets demoChild) ≤
        (accountRun demoEnv demoChild demoRuntime feeDrainCalls).credited :=
  have h : ∀ c ∈ feeDrainCalls, c.NonnegApply := by
    intro c hc p hp
    simp only [feeDrainCalls, List.mem_cons, List.mem_singleton, List.not_mem_nil,
      or_false] at hc
    rcases hc with rfl | rfl | rfl <;> cases hp
  ⟨h, child_account_bound demoEnv ⟨demoRoot, 10⟩ feeDrainCalls h demoChild⟩

/-- Actor `6` asks for its stake of `1` back. -/
def siblingRelease : Call := ⟨⟨6, false, 0, by decide, 0⟩, .releaseStake ⟨1⟩⟩

/-- **The fee is paid out of a sibling's stake.**  After `feeDrainCalls` the
    gateway has paid `demoChild`'s actor the declared fee of `2` out of its
    balance, which held one token of stake for each child and is now empty.
    The sibling's stake of `1` is still on the books, and its `ReleaseStake`
    fails the balance check of `release_stake`. -/
theorem feeDrain_blocks_release :
    (run demoEnv demoRuntime feeDrainCalls).sent = [⟨5, .reward, 2⟩] ∧
      (run demoEnv demoRuntime feeDrainCalls).balance = 0 ∧
      ((run demoEnv demoRuntime feeDrainCalls).state.subnets demoSibling).map Subnet.stake =
        some 1 ∧
      (step demoEnv (run demoEnv demoRuntime feeDrainCalls) siblingRelease).error? =
        some ⟨.illegalState,
          "something went really wrong! the actor doesn't have enough balance to release"⟩ := by
  decide

end IpcActors.Gateway
