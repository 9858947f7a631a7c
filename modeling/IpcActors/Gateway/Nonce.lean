/-
  IpcActors.Gateway.Nonce

  The applied top-down and bottom-up nonces of the gateway (§4.3.4, P2).

  `ApplyMessage` checks the nonce only for a top-down message destined to this
  network, and moves it on by one when the check passes (`step_appliesTopdown`).
  `commit_cross_message` moves it on as well, on its top-down branch, whichever
  method calls it: a `SendCross` toward a descendant and the `Propagate` of a
  parked top-down message both shift it (`appliedTopdownNonce_step`), while an
  `ApplyMessage` of a message that only passes through parks it and leaves the
  nonce alone.  So a message of the parent's stream can be refused although
  its nonce is in order (`sendCross_shifts_topdownNonce`).

  What does hold: the nonce never goes back and moves by at most one per call,
  exactly on the calls `topdownBump` names; a top-down message for this network
  is accepted exactly when it holds the current nonce, so one whose nonce was
  accepted once is refused from then on (`topdown_nonce_discipline`).

  The applied bottom-up nonce has no such gap.  Only `ApplyMessage` of a
  bottom-up message for this network moves it (`appliedBottomupNonce_step`),
  so over any run the messages applied hold consecutive nonces, in order and
  each once (`bottomup_nonce_discipline`).
-/
import IpcActors.Gateway.Frame

namespace IpcActors.Gateway

variable (env : Env)

/-! ## Evaluating an `ApplyMessage` -/

theorem fundingHook_bind {β : Type} (v : Int) (f : Unit → RtM State β) (rt : Runtime State) :
    (fundingHook v >>= f) rt =
      f () ({ rt with balance := rt.balance + v,
                      sent := rt.sent ++ [⟨rewardActorAddr, .externalFunding, 0⟩] }) :=
  rfl

theorem stays_crossMsg_send (m : CrossMsg) (a : Address) : Stays (m.send a) := stays_send _ _ _

/-- `c` is the system actor applying a top-down message for the network of `st`,
    with nonce `k`. -/
def Call.AppliesTopdown (st : State) (k : Nat) (c : Call) : Prop :=
  c.info.caller = systemActorAddr ∧ ∃ p, c.method = .applyMessage p ∧
    p.crossMsg.msg.applyType st.networkName = .TopDown ∧
    p.crossMsg.msg.to.subnet = st.networkName ∧ p.crossMsg.msg.nonce = k

/-- The committed state after such a call: the nonce moved on when `k` was the
    expected one, nothing otherwise. -/
theorem step_appliesTopdown_state {rt : Runtime State} {c : Call} {k : Nat}
    (h : c.AppliesTopdown rt.state k) :
    (step env rt c).rt.state =
      if k = rt.state.appliedTopdownNonce then
        { rt.state with appliedTopdownNonce := rt.state.appliedTopdownNonce + 1 }
      else rt.state := by
  obtain ⟨info, m⟩ := c
  obtain ⟨hsys, p, hm, hty, hto, rfl⟩ := h
  dsimp only at hsys hm
  subst hm
  have tx : ∀ rt' : Runtime State,
      ((transaction applyTopdownTx >>= fun _ => p.crossMsg.send p.crossMsg.msg.to.rawAddr >>=
        fun _ => (pure none : RtM State (Option Cid))) rt').rt.state =
        { rt'.state with appliedTopdownNonce := rt'.state.appliedTopdownNonce + 1 } := fun _ => by
    rw [Stays.bind_state fun _ => (stays_crossMsg_send _ _).bind fun _ => stays_pure _]
    exact transaction_state rfl
  simp only [step, invoke]
  rw [Stays.bind_state fun _ => stays_pure _]
  simp only [applyMsg, hsys, ne_eq, not_true_eq_false, if_false, RtM.pure_bind,
    RtM.bind_ok _ (getState_apply _), hty, hto, if_true]
  by_cases hn : rt.state.appliedTopdownNonce = p.crossMsg.msg.nonce
  · rw [if_pos hn.symm]
    split <;> simp only [fundingHook_bind, RtM.pure_bind] <;> exact tx _
  · rw [if_neg (Ne.symm hn)]
    split <;> simp only [fundingHook_bind, RtM.pure_bind] <;> rfl

/-- A top-down message for this network with another nonce is refused. -/
theorem step_appliesTopdown_isOk {rt : Runtime State} {c : Call} {k : Nat}
    (h : c.AppliesTopdown rt.state k) (hk : k ≠ rt.state.appliedTopdownNonce) :
    (step env rt c).isOk = false := by
  obtain ⟨info, m⟩ := c
  obtain ⟨hsys, p, hm, hty, hto, rfl⟩ := h
  dsimp only at hsys hm
  subst hm
  simp only [step, invoke, RtM.isOk_bind_pure, applyMsg, hsys, ne_eq, not_true_eq_false,
    if_false, RtM.pure_bind, RtM.bind_ok _ (getState_apply _), hty, hto, if_true]
  split <;> simp only [fundingHook_bind, RtM.pure_bind] <;> rw [if_pos (Ne.symm hk)] <;> rfl

/-! ## How the nonce moves -/

/-- Whether a committed call of `m` moves the applied top-down nonce of `st`: a
    top-down `ApplyMessage` for this network, or a `commit_cross_message` of a
    message that is top-down here, by `SendCross` or `Propagate`. -/
def topdownBump (st : State) (info : MessageInfo) : Method → Bool
  | .applyMessage p => decide (p.crossMsg.msg.applyType st.networkName = .TopDown ∧
      p.crossMsg.msg.to.subnet = st.networkName)
  | .sendCross p =>
    decide ((sendCrossMsg info p st.networkName).msg.applyType st.networkName = .TopDown)
  | .propagate p =>
    match st.postbox p.postboxCid with
    | some item => decide (item.crossMsg.msg.applyType st.networkName = .TopDown)
    | none => false
  | _ => false

/-- `commit_cross_message` moves the nonce on its top-down branch only. -/
theorem commitCrossMessage_nonce {epoch : Int} {st st' : State} {m : CrossMsg}
    {fee f : Int} {b : Bool} (h : commitCrossMessage epoch st m fee = .ok (st', b, f)) :
    st'.appliedTopdownNonce = st.appliedTopdownNonce +
      if m.msg.applyType st.networkName = .TopDown then 1 else 0 := by
  obtain ⟨-, ⟨hty, ht, -⟩ | ⟨hty, -, ht, -⟩ | ⟨hty, -, rfl, -⟩⟩ := commitCrossMessage_eq_ok h
  · simp [hty, (State.commitTopdownMsg_frame ht).2.2]
  · simp [hty, (State.commitTopdownMsg_frame ht).2.2]
  · simp [hty]

/-- **One step of the nonce.**  A committed call moves the applied top-down
    nonce by one if `topdownBump` names it, and leaves it otherwise. -/
theorem appliedTopdownNonce_step {info : MessageInfo} {m : Method} {st st' : State}
    (hc : Commits env info m st st') :
    st'.appliedTopdownNonce = st.appliedTopdownNonce + if topdownBump st info m then 1 else 0 := by
  cases hc with
  | register h =>
    obtain ⟨-, -, rfl⟩ := registerTx_eq_ok env info h
    rfl
  | addStake _ h =>
    obtain ⟨_, -, rfl⟩ := addStakeTx_eq_ok env info h
    rfl
  | releaseStake _ h =>
    obtain ⟨_, -, -, -, rfl⟩ := releaseStakeTx_eq_ok env info h
    rfl
  | kill h =>
    obtain ⟨_, -, -, -, rfl, -⟩ := killTx_eq_ok info h
    rfl
  | commitChildCheck _ h =>
    obtain ⟨_, _, _, _, -, -, -, hb, -, rfl⟩ := commitChildCheckTx_eq_ok env info h
    exact (commitBundle_frame hb).2.2.2
  | fund h =>
    obtain ⟨_, -, -, ht⟩ := fundTx_eq_ok info h
    exact (State.commitTopdownMsg_frame ht).2.2
  | release h =>
    obtain ⟨_, -, -, -, rfl⟩ := releaseTx_eq_ok info h
    rfl
  | sendCross h =>
    obtain ⟨-, -, -, hr, hcm⟩ := sendCrossTx_eq_ok info h
    rw [commitCrossMessage_nonce hcm, hr]
    simp [topdownBump]
  | applyBottomup _ hty _ h =>
    obtain ⟨-, rfl⟩ := applyBottomupTx_eq_ok h
    simp [topdownBump, hty]
  | applyTopdown _ hty hto _ h =>
    cases h
    simp [topdownBump, hty, hto]
  | park _ hne h =>
    cases h
    simp [topdownBump, hne]
  | whitelist h =>
    obtain ⟨_, _, -, -, -, rfl⟩ := whitelistPropagatorTx_eq_ok info h
    rfl
  | propagate h =>
    obtain ⟨item, _, hi, -, -, -, -, hcm, rfl⟩ := propagateTx_eq_ok info h
    rw [State.removeFromPostbox_fields .. |>.2.2.2, commitCrossMessage_nonce hcm]
    simp [topdownBump, hi]

/-- Hence over a run the nonce never goes back. -/
theorem appliedTopdownNonce_run (rt : Runtime State) (cs : List Call) :
    rt.state.appliedTopdownNonce ≤ (run env rt cs).state.appliedTopdownNonce := by
  induction cs generalizing rt with
  | nil => exact le_rfl
  | cons c cs ih =>
    refine le_trans ?_ (ih _)
    rcases step_commits env rt c with he | hc
    · rw [he]
    · rw [appliedTopdownNonce_step env hc]; exact Nat.le_add_right _ _

/-! ## Top-down nonce discipline -/

/-- What the applied top-down nonce guarantees. -/
structure TopdownNonceDiscipline : Prop where
  /-- A top-down message for this network passes the nonce check exactly when
      it holds the current nonce; otherwise the call fails and commits nothing. -/
  accept : ∀ rt c k, Call.AppliesTopdown rt.state k c →
    (k = rt.state.appliedTopdownNonce →
      (step env rt c).rt.state =
        { rt.state with appliedTopdownNonce := rt.state.appliedTopdownNonce + 1 }) ∧
    (k ≠ rt.state.appliedTopdownNonce →
      (step env rt c).isOk = false ∧ (step env rt c).rt.state = rt.state)
  /-- Every committed call moves the nonce by one exactly when `topdownBump`
      names it. -/
  moves : ∀ info m st st', Commits env info m st st' →
    st'.appliedTopdownNonce = st.appliedTopdownNonce + if topdownBump st info m then 1 else 0
  /-- Once a top-down message for this network is accepted with nonce `k`, any
      later one with nonce `k` is refused. -/
  replay : ∀ rt cs₁ c cs₂ c' k, Call.AppliesTopdown (run env rt cs₁).state k c →
    k = (run env rt cs₁).state.appliedTopdownNonce →
    Call.AppliesTopdown (run env rt (cs₁ ++ c :: cs₂)).state k c' →
    (step env (run env rt (cs₁ ++ c :: cs₂)) c').isOk = false

/-- **Top-down nonce discipline**, as the code has it. -/
theorem topdown_nonce_discipline : TopdownNonceDiscipline env where
  accept rt c k h := by
    refine ⟨fun hk => by rw [step_appliesTopdown_state env h, if_pos hk], fun hk => ?_⟩
    exact ⟨step_appliesTopdown_isOk env h hk, by rw [step_appliesTopdown_state env h, if_neg hk]⟩
  moves _ _ _ _ hc := appliedTopdownNonce_step env hc
  replay rt cs₁ c cs₂ c' k h hk h' := by
    refine step_appliesTopdown_isOk env h' (Nat.ne_of_lt ?_)
    have hc : (step env (run env rt cs₁) c).rt.state.appliedTopdownNonce = k + 1 := by
      rw [step_appliesTopdown_state env h, if_pos hk, hk]
    calc k < (step env (run env rt cs₁) c).rt.state.appliedTopdownNonce := by omega
      _ ≤ _ := by
        rw [run_append, run_cons]
        exact appliedTopdownNonce_run env _ cs₂

/-! ## The parent's stream at a fresh gateway of `/0/5` -/

/-- The system actor applying a message at a gateway. -/
def applyCall (m : CrossMsg) : Call :=
  ⟨⟨systemActorAddr, false, 0, Int.le_refl 0, 0⟩, .applyMessage ⟨m⟩⟩

/-- A fresh gateway of `/0/5`: its applied top-down nonce is `0`. -/
def childRuntime : Runtime State := ⟨State.new ⟨demoChild, 10⟩, 0, []⟩

/-- A top-down message from `/0` to `/0/5` with nonce `0`. -/
def firstTopdownMsg : CrossMsg := ⟨⟨⟨demoRoot, 7⟩, ⟨demoChild, 8⟩, 0, 1, 0⟩, false⟩

/-- Actor `6` registers `/0/5/6` at the gateway of `/0/5`, and actor `9`, at
    `/0/5`, sends a message down to it. -/
def sendDownCalls : List Call :=
  [⟨⟨6, false, 1, by decide, 0⟩, .register⟩,
   ⟨⟨9, false, crossMsgFee + 1, by decide, 0⟩,
     .sendCross ⟨⟨⟨⟨demoChild, 9⟩, ⟨demoGrandchild, 8⟩, 0, crossMsgFee + 1, 0⟩, false⟩,
       demoGrandchild⟩⟩]

/-- **`SendCross` shifts the parent's stream.**  At a fresh gateway of `/0/5`,
    a `SendCross` toward its child `/0/5/6` moves the applied top-down nonce to
    `1` on the top-down branch of `commit_cross_message`, so the parent's first
    message for `/0/5`, which holds nonce `0`, is refused. -/
theorem sendCross_shifts_topdownNonce :
    childRuntime.state.appliedTopdownNonce = firstTopdownMsg.msg.nonce ∧
      (run demoEnv childRuntime sendDownCalls).state.appliedTopdownNonce = 1 ∧
      (step demoEnv (run demoEnv childRuntime sendDownCalls) (applyCall firstTopdownMsg)).error? =
        some ⟨.illegalState,
          "the top-down message being applied doesn't hold the subsequent nonce"⟩ := by
  decide

/-! ## The applied bottom-up nonce -/

section Bottomup

variable {st st' : State}

/-- `applyBottomupTx` passes exactly when the message holds the applied
    bottom-up nonce, which it then moves on. -/
theorem applyBottomupTx_apply (msg : StorableMsg) (st : State) :
    applyBottomupTx msg st =
      if msg.nonce = st.appliedBottomupNonce then
        .ok ({ st with appliedBottomupNonce := st.appliedBottomupNonce + 1 }, ())
      else .error ⟨.illegalState, "failed applying bottomup message"⟩ := by
  unfold applyBottomupTx State.bottomupStateTransition
  split <;> rfl

theorem commitTopdownMsg_appliedBottomupNonce {m : CrossMsg} (h : st.commitTopdownMsg m = .ok st') :
    st'.appliedBottomupNonce = st.appliedBottomupNonce := by
  obtain ⟨_, _, -, -, rfl⟩ := State.commitTopdownMsg_eq_ok h
  rfl

theorem commitCrossMessage_appliedBottomupNonce {epoch fee f : Int} {m : CrossMsg} {b : Bool}
    (h : commitCrossMessage epoch st m fee = .ok (st', b, f)) :
    st'.appliedBottomupNonce = st.appliedBottomupNonce := by
  obtain ⟨-, ⟨-, ht, -⟩ | ⟨-, -, ht, -⟩ | ⟨-, -, rfl, -⟩⟩ := commitCrossMessage_eq_ok h
  · exact (commitTopdownMsg_appliedBottomupNonce ht :)
  · exact commitTopdownMsg_appliedBottomupNonce ht
  · rfl

theorem commitBundle_appliedBottomupNonce {st₁ : State} {sub sub₁ : Subnet} {b : Option CrossMsgs}
    {fee : Int} (h : commitBundle st sub b = .ok (st₁, sub₁, fee)) :
    st₁.appliedBottomupNonce = st.appliedBottomupNonce := by
  rcases commitBundle_eq_ok h with ⟨-, rfl, -, -⟩ | ⟨cm, -, rfl, -⟩
  · rfl
  · split <;> rfl

/-- The nonce of the bottom-up message for the network of `st` that `c` has the
    system actor apply, if `c` is such a call. -/
def Call.bottomupNonce? (st : State) (c : Call) : Option Nat :=
  match c.method with
  | .applyMessage p =>
    if c.info.caller = systemActorAddr ∧ p.crossMsg.msg.applyType st.networkName = .BottomUp ∧
        p.crossMsg.msg.to.subnet = st.networkName then some p.crossMsg.msg.nonce
    else none
  | _ => none

theorem Call.bottomupNonce?_eq_some {c : Call} {k : Nat} (h : c.bottomupNonce? st = some k) :
    ∃ p, c.method = .applyMessage p ∧ c.info.caller = systemActorAddr ∧
      p.crossMsg.msg.applyType st.networkName = .BottomUp ∧
      p.crossMsg.msg.to.subnet = st.networkName ∧ p.crossMsg.msg.nonce = k := by
  obtain ⟨info, m⟩ := c
  cases m with
  | applyMessage p =>
    simp only [Call.bottomupNonce?] at h
    split_ifs at h with hc
    cases h
    exact ⟨p, rfl, hc.1, hc.2.1, hc.2.2, rfl⟩
  | _ => simp [Call.bottomupNonce?] at h

/-- **One step of the bottom-up nonce.**  A committed call moves it by one
    when it applies a bottom-up message for this network that holds it, and
    leaves it otherwise: unlike the top-down nonce, no other transaction
    touches it. -/
theorem appliedBottomupNonce_step {info : MessageInfo} {m : Method} (hc : Commits env info m st st') :
    st'.appliedBottomupNonce = st.appliedBottomupNonce +
      if Call.bottomupNonce? st ⟨info, m⟩ = some st.appliedBottomupNonce then 1 else 0 := by
  cases hc with
  | register h =>
    obtain ⟨-, -, rfl⟩ := registerTx_eq_ok env info h
    rfl
  | addStake _ h =>
    obtain ⟨_, -, rfl⟩ := addStakeTx_eq_ok env info h
    rfl
  | releaseStake _ h =>
    obtain ⟨_, -, -, -, rfl⟩ := releaseStakeTx_eq_ok env info h
    rfl
  | kill h =>
    obtain ⟨_, -, -, -, rfl, -⟩ := killTx_eq_ok info h
    rfl
  | commitChildCheck _ h =>
    obtain ⟨_, _, _, _, -, -, -, hb, -, rfl⟩ := commitChildCheckTx_eq_ok env info h
    exact (commitBundle_appliedBottomupNonce hb :)
  | fund h =>
    obtain ⟨_, -, -, ht⟩ := fundTx_eq_ok info h
    exact commitTopdownMsg_appliedBottomupNonce ht
  | release h =>
    obtain ⟨_, -, -, -, rfl⟩ := releaseTx_eq_ok info h
    rfl
  | sendCross h =>
    obtain ⟨-, -, -, -, hcm⟩ := sendCrossTx_eq_ok info h
    exact commitCrossMessage_appliedBottomupNonce hcm
  | applyBottomup hsys hty hto h =>
    obtain ⟨hn, rfl⟩ := applyBottomupTx_eq_ok h
    simp [Call.bottomupNonce?, hsys, hty, hto, hn]
  | applyTopdown _ hty _ _ h =>
    cases h
    simp [Call.bottomupNonce?, hty]
  | park _ hne h =>
    cases h
    simp [Call.bottomupNonce?, hne, State.insertPostbox]
  | whitelist h =>
    obtain ⟨_, _, -, -, -, rfl⟩ := whitelistPropagatorTx_eq_ok info h
    rfl
  | propagate h =>
    obtain ⟨_, _, -, -, -, -, -, hcm, rfl⟩ := propagateTx_eq_ok info h
    exact (commitCrossMessage_appliedBottomupNonce hcm :)

/-- The committed state after a bottom-up message for this network: the nonce
    moved on when the message held it, nothing otherwise. -/
theorem step_bottomup_state {rt : Runtime State} {c : Call} {k : Nat}
    (h : c.bottomupNonce? rt.state = some k) :
    (step env rt c).rt.state =
      if k = rt.state.appliedBottomupNonce then
        { rt.state with appliedBottomupNonce := rt.state.appliedBottomupNonce + 1 }
      else rt.state := by
  obtain ⟨p, hm, hsys, hty, hto, rfl⟩ := Call.bottomupNonce?_eq_some h
  obtain ⟨info, m⟩ := c
  dsimp only at hm hsys
  subst hm
  simp only [step, invoke]
  rw [Stays.bind_state fun _ => stays_pure _]
  simp only [applyMsg, hsys, ne_eq, not_true_eq_false, if_false, RtM.pure_bind,
    RtM.bind_ok _ (getState_apply _), hty, hto, if_true]
  rw [Stays.bind_state fun _ => (stays_crossMsg_send _ _).bind fun _ => stays_pure _]
  by_cases hn : p.crossMsg.msg.nonce = rt.state.appliedBottomupNonce
  · rw [if_pos hn]
    exact transaction_state (by rw [applyBottomupTx_apply, if_pos hn])
  · rw [if_neg hn, transaction_error (by rw [applyBottomupTx_apply, if_neg hn])]
    rfl

/-- A bottom-up message for this network with another nonce is refused. -/
theorem step_bottomup_isOk {rt : Runtime State} {c : Call} {k : Nat}
    (h : c.bottomupNonce? rt.state = some k) (hk : k ≠ rt.state.appliedBottomupNonce) :
    (step env rt c).isOk = false := by
  obtain ⟨p, hm, hsys, hty, hto, rfl⟩ := Call.bottomupNonce?_eq_some h
  obtain ⟨info, m⟩ := c
  dsimp only at hm hsys
  subst hm
  simp only [step, invoke, RtM.isOk_bind_pure, applyMsg, hsys, ne_eq, not_true_eq_false,
    if_false, RtM.pure_bind, RtM.bind_ok _ (getState_apply _), hty, hto, if_true]
  rw [RtM.bind_err _ (transaction_error (by rw [applyBottomupTx_apply, if_neg hk]))]
  rfl

/-- Hence one call moves the nonce by one exactly when it applies a bottom-up
    message for this network that holds it. -/
theorem appliedBottomupNonce_call (rt : Runtime State) (c : Call) :
    (step env rt c).rt.state.appliedBottomupNonce = rt.state.appliedBottomupNonce +
      if c.bottomupNonce? rt.state = some rt.state.appliedBottomupNonce then 1 else 0 := by
  by_cases h : c.bottomupNonce? rt.state = some rt.state.appliedBottomupNonce
  · rw [step_bottomup_state env h, if_pos rfl, if_pos h]
  · rcases step_commits env rt c with he | hc
    · rw [he, if_neg h]; rfl
    · exact appliedBottomupNonce_step env hc

/-- The nonces of the bottom-up messages for this network that a run applies:
    those that hold the applied bottom-up nonce when they arrive. -/
def appliedBottomups (rt : Runtime State) : List Call → List Nat
  | [] => []
  | c :: cs =>
    (if c.bottomupNonce? rt.state = some rt.state.appliedBottomupNonce then
      [rt.state.appliedBottomupNonce] else []) ++ appliedBottomups (step env rt c).rt cs

/-- **Over a run**, the applied messages hold the nonces from the applied
    bottom-up nonce on, one after the other, and the nonce ends that many
    further on. -/
theorem appliedBottomups_run (rt : Runtime State) (cs : List Call) :
    appliedBottomups env rt cs =
        List.range' rt.state.appliedBottomupNonce (appliedBottomups env rt cs).length ∧
      (run env rt cs).state.appliedBottomupNonce =
        rt.state.appliedBottomupNonce + (appliedBottomups env rt cs).length := by
  induction cs generalizing rt with
  | nil => exact ⟨rfl, rfl⟩
  | cons c cs ih =>
    obtain ⟨hl, hn⟩ := ih (step env rt c).rt
    have hs := appliedBottomupNonce_call env rt c
    simp only [appliedBottomups, run_cons]
    split
    next h =>
      rw [if_pos h] at hs
      rw [hs] at hl hn
      refine ⟨?_, ?_⟩
      · rw [List.singleton_append, List.length_cons, List.range'_succ, ← hl]
      · rw [hn, List.singleton_append, List.length_cons]; omega
    next h =>
      rw [if_neg h, Nat.add_zero] at hs
      rw [hs] at hl hn
      exact ⟨hl, hn⟩

end Bottomup

/-! ## Bottom-up nonce discipline -/

/-- What the applied bottom-up nonce guarantees.  Unlike the top-down nonce,
    which other transactions move as well (`sendCross_shifts_topdownNonce`), it holds in
    full. -/
structure BottomupNonceDiscipline : Prop where
  /-- A bottom-up message for this network that holds the nonce is applied: the
      nonce moves on, and nothing else of the committed state changes. -/
  accept : ∀ rt c, Call.bottomupNonce? rt.state c = some rt.state.appliedBottomupNonce →
    (step env rt c).rt.state =
      { rt.state with appliedBottomupNonce := rt.state.appliedBottomupNonce + 1 }
  /-- One with another nonce is refused and commits nothing. -/
  refuse : ∀ rt c k, Call.bottomupNonce? rt.state c = some k →
    k ≠ rt.state.appliedBottomupNonce →
    (step env rt c).isOk = false ∧ (step env rt c).rt.state = rt.state
  /-- Over any run the applied messages hold consecutive nonces from the
      applied bottom-up nonce on, in order, and the nonce ends past the last of
      them. -/
  in_order : ∀ rt cs,
    appliedBottomups env rt cs =
        List.range' rt.state.appliedBottomupNonce (appliedBottomups env rt cs).length ∧
      (run env rt cs).state.appliedBottomupNonce =
        rt.state.appliedBottomupNonce + (appliedBottomups env rt cs).length
  /-- So no nonce is applied twice. -/
  once : ∀ rt cs, (appliedBottomups env rt cs).Nodup

/-- **Bottom-up nonce discipline**, as the code has it. -/
theorem bottomup_nonce_discipline : BottomupNonceDiscipline env where
  accept _ _ h := by rw [step_bottomup_state env h, if_pos rfl]
  refuse _ _ _ h hk := ⟨step_bottomup_isOk env h hk, by rw [step_bottomup_state env h, if_neg hk]⟩
  in_order := appliedBottomups_run env
  once rt cs := by rw [(appliedBottomups_run env rt cs).1]; exact List.nodup_range' _ _

/-- A bottom-up message from `/0/5/6` to `/0/5` with nonce `k`. -/
def bottomupMsg (k : Nat) : CrossMsg := ⟨⟨⟨demoGrandchild, 7⟩, ⟨demoChild, 8⟩, 0, 0, k⟩, false⟩

/-- At a fresh gateway of `/0/5`, the message with nonce `1` is refused until
    the one with nonce `0` is applied, and a replay of nonce `0` is refused. -/
example : appliedBottomups demoEnv childRuntime
    [applyCall (bottomupMsg 1), applyCall (bottomupMsg 0), applyCall (bottomupMsg 0),
      applyCall (bottomupMsg 1)] = [0, 1] := by decide

end IpcActors.Gateway
