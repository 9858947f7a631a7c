/-
  IpcActors.Joint.Checkpointing

  The ledger of the pair on runs that interleave checkpoints with staking
  (§4.4, §4.1.5, §7).

  A `SubmitCheckpoint` moves no stake: the subnet actor records a vote, or
  flushes the checkpoint and sends `CommitChildCheckpoint` with no value
  (`submitCheckpoint_keeps_stake`).  If the checkpoint carries no
  cross-messages, the gateway's `commit_child_check` releases no circulating
  supply and distributes a fee of zero, so it sends nothing, and of the
  subnet's entry it sets the previous checkpoint only
  (`invoke_commitChildCheck_bare`).  The ledger of the pair reads of the
  entry its id, stake and circulating supply only (`Ledger.keep_books`),
  so it holds on every run of staking calls and such checkpoints
  (`ledger_run_checkpoints`), and with it the agreement of the two books, the
  custody of the stake, and the gateway holding exactly the stake
  (`custody_with_checkpoints`).

  A checkpoint whose bundle declares a fee is another matter: the gateway
  pays the fee out of its balance, which holds the stake.

  The same ledger shows that the subnet can never be killed once a token has
  come in (`kill_refused_once_funded`): `Kill` wants a zero balance and no
  stake, and without stake the subnet actor's balance is every token ever
  brought, as a Leave pays nothing out.
-/
import IpcActors.Joint.Compose

namespace IpcActors.Joint

open Gateway (Env MessageInfo Checkpoint demoEnv demoChild)
open SubnetActor (Commits)

variable (env : Env) (receiver : Address)

/-- A `SubmitCheckpoint` whose checkpoint carries no cross-messages. -/
def Call.isBareCheckpoint (c : Call) : Bool :=
  match c.method with
  | .submitCheckpoint ch => ch.crossMsgs.isNone
  | _ => false

/-! ## Each actor's share -/

section Gateway

open Gateway

variable {env} {info : MessageInfo} {ch : Checkpoint}

/-- A checkpoint without cross-messages commits with no fee, and rewrites the
    caller's entry with its previous checkpoint set. -/
theorem commitChildCheckTx_bare (hb : ch.crossMsgs = none) {st st' : State} {fee : Int}
    (h : commitChildCheckTx env info ch st = .ok (st', fee)) :
    fee = 0 ∧ st'.networkName = st.networkName ∧
      ∃ sub, st.subnets (SubnetID.newFromParent st.networkName info.caller) = some sub ∧
        st'.subnets = Function.update st.subnets sub.id (some { sub with prevCheckpoint := some ch }) := by
  obtain ⟨sub, st₁, sub₁, chw, hs, -, -, hbd, -, rfl⟩ := commitChildCheckTx_eq_ok env info h
  rcases commitBundle_eq_ok hbd with ⟨-, rfl, rfl, rfl⟩ | ⟨cm, hcm, -⟩
  · exact ⟨rfl, rfl, _, hs, rfl⟩
  · cases hb.symm.trans hcm

/-- `CommitChildCheckpoint` of a checkpoint without cross-messages fails with
    the runtime it found, or commits with no fee and sends nothing. -/
theorem invoke_commitChildCheck_bare (hb : ch.crossMsgs = none) (rt : Runtime State) :
    (∃ e, invoke env info (.commitChildCheckpoint ch) rt = .err e rt) ∨
      ∃ st', commitChildCheckTx env info ch rt.state = .ok (st', 0) ∧
        invoke env info (.commitChildCheckpoint ch) rt = .ok () { rt with state := st' } := by
  simp only [invoke, commitChildCheck]
  by_cases hcall : info.caller = ch.source.subnetActor
  · simp only [hcall, ne_eq, not_true_eq_false, if_false, RtM.pure_bind]
    cases ht : commitChildCheckTx env info ch rt.state with
    | error e => exact .inl ⟨e, RtM.bind_err _ (transaction_error ht)⟩
    | ok r =>
      obtain ⟨st', fee⟩ := r
      obtain rfl := (commitChildCheckTx_bare hb ht).1
      exact .inr ⟨st', rfl, by rw [RtM.bind_ok _ (transaction_ok ht)]; rfl⟩
  · exact .inl ⟨_, by simp [hcall, RtM.bind_apply]; rfl⟩

end Gateway

section SubnetActor

variable {env receiver} {info : MessageInfo} {ch : Checkpoint} {st st' : SubnetActor.State}
  {msg : Option SubnetActor.CrossActorPayload}

/-- A committed `SubmitCheckpoint` moves no stake, and sends the gateway at
    most the checkpoint, with no value. -/
theorem submitCheckpoint_keeps_stake (hc : Commits env receiver info (.submitCheckpoint ch) st st' msg) :
    st'.stake = st.stake ∧ st'.totalStake = st.totalStake ∧ st'.status = st.status ∧
      (msg = none ∨ msg = some ⟨st.ipcGatewayAddr, .commitChildCheckpoint ch, 0⟩) := by
  cases hc with
  | submitCheckpoint _ _ ht =>
    obtain ⟨-, ⟨-, rfl, rfl⟩ | ⟨-, rfl, rfl⟩⟩ := SubnetActor.submitCheckpointTx_eq_ok env info ht
    · exact ⟨by split <;> rfl, by split <;> rfl, by split <;> rfl, .inr rfl⟩
    · exact ⟨rfl, rfl, rfl, .inl rfl⟩

end SubnetActor

/-! ## The ledger across a checkpoint -/

section Ledger

variable {env receiver} {sys : System} {ds : List Delivery} {received : Int}

/-- The delivery of a checkpoint without cross-messages: the gateway refuses
    it and keeps its state, or commits it and sends nothing, so that only its
    state moves. -/
theorem deliver_bare {epoch : Int} {sa : Runtime SubnetActor.State} {gwAddr : Address}
    {ch : Checkpoint} (hb : ch.crossMsgs = none) (h0 : 0 ≤ sa.balance) :
    deliver env receiver sys epoch sa ⟨gwAddr, .commitChildCheckpoint ch, 0⟩ =
        (⟨sa, sys.gw⟩, some ⟨.commitChildCheckpoint ch, false⟩) ∨
      ∃ st', Gateway.commitChildCheckTx env ⟨receiver, false, 0, Int.le_refl 0, epoch⟩ ch sys.gw.state = .ok (st', 0) ∧
        deliver env receiver sys epoch sa ⟨gwAddr, .commitChildCheckpoint ch, 0⟩ =
          (⟨sa, { sys.gw with state := st' }⟩, some ⟨.commitChildCheckpoint ch, true⟩) := by
  have h : (0 : Int) ≤ 0 ∧ (0 : Int) ≤ sa.balance := ⟨le_rfl, h0⟩
  rcases @invoke_commitChildCheck_bare env ⟨receiver, false, 0, Int.le_refl 0, epoch⟩ ch hb
      { { sys.gw with sent := [] } with balance := sys.gw.balance + 0 } with ⟨e, he⟩ | ⟨st', ht, he⟩
  · exact .inl (deliver_refuse h he)
  · have hd : deliver env receiver sys epoch sa ⟨gwAddr, .commitChildCheckpoint ch, 0⟩ = _ :=
      deliver_accept h he
    refine .inr ⟨st', ht, hd.trans ?_⟩
    simp only [Int.sub_zero, Int.add_zero, List.append_nil]
    rfl

/-- The ledger reads of the gateway its balance, its sends, and the id, stake
    and circulating supply of the subnet's entry: a move of the gateway that
    keeps them, rewriting the entry by `f`, keeps the ledger with any answer
    to a `CommitChildCheckpoint`. -/
theorem Ledger.keep_books {sa : Runtime SubnetActor.State} {gw gw' : Runtime Gateway.State}
    (hJ : Ledger env receiver ⟨sa, gw⟩ ds received)
    (hbal : gw'.balance = gw.balance) (hsent : gw'.sent = gw.sent)
    (hnet : gw'.state.networkName = gw.state.networkName) (f : Gateway.Subnet → Gateway.Subnet)
    (hf : ∀ sub, (f sub).id = sub.id ∧ (f sub).stake = sub.stake ∧ (f sub).circSupply = sub.circSupply)
    (hent : System.entry receiver ⟨sa, gw'⟩ = (System.entry receiver ⟨sa, gw⟩).map f)
    (ch : Checkpoint) (b : Bool) :
    Ledger env receiver ⟨sa, gw'⟩ (ds ++ [⟨.commitChildCheckpoint ch, b⟩]) received := by
  have hmem : ∀ m, m ≠ .commitChildCheckpoint ch →
      ((⟨m, true⟩ : Delivery) ∈ ds ++ [⟨.commitChildCheckpoint ch, b⟩] ↔ ⟨m, true⟩ ∈ ds) :=
    fun m hm => by simp [hm]
  have hstake : System.gwStake receiver ⟨sa, gw'⟩ = System.gwStake receiver ⟨sa, gw⟩ := by
    simp only [System.gwStake, hent]
    cases System.entry receiver ⟨sa, gw⟩ <;> simp [(hf _).2.1]
  refine ⟨hJ.total_eq, hJ.nonneg, ?_, ?_, ?_, ?_, ?_, ?_, ?_, hJ.sa_nonneg, hJ.sa_sent, ?_⟩
  · rw [hent, Option.isSome_map']; exact hJ.registered_iff
  · rw [hent, Option.isSome_map', hmem .register nofun, hmem .kill nofun]; exact hJ.history
  · rw [hmem .kill nofun]; exact hJ.instantiated
  · intro sub' h
    rw [hent, Option.map_eq_some'] at h
    obtain ⟨sub, hs, rfl⟩ := h
    obtain ⟨hid, hst, hc⟩ := hJ.entry sub hs
    obtain ⟨hf₁, hf₂, hf₃⟩ := hf sub
    refine ⟨?_, hf₂.trans hst, hf₃.trans hc⟩
    rw [hf₁, hid]
    simp only [System.shid, hnet]
  · intro h
    rw [hent, Option.map_eq_none'] at h
    exact hJ.unregistered h
  · rw [hstake]; exact hJ.sa_balance
  · rw [hstake, hbal]; exact hJ.gw_balance
  · rw [hsent]; exact hJ.gw_sent

/-- **One checkpoint without cross-messages keeps the ledger.**  The call
    fails, or records a vote, or commits the checkpoint and sends it to the
    gateway, which refuses it or sets it as the subnet's previous
    checkpoint; no token moves but the value the call brought. -/
theorem ledger_step_bare (hJ : Ledger env receiver sys ds received) {c : Call}
    (hc : c.isBareCheckpoint = true) :
    Ledger env receiver (step env receiver sys c).1 (ds ++ (step env receiver sys c).2.toList)
      (received + c.info.valueReceived) := by
  obtain ⟨info, m⟩ := c
  cases m with
  | submitCheckpoint ch =>
    have hb : ch.crossMsgs = none := by simpa [Call.isBareCheckpoint] using hc
    have hv := info.valueReceived_nonneg
    rcases SubnetActor.submitCheckpoint_ends env receiver info ch
        { sys.sa with balance := sys.sa.balance + info.valueReceived } with
      ⟨e, he⟩ | ⟨st', msg, hg, ht, he⟩
    · -- the call fails and keeps the value it brought
      simp only [step, SubnetActor.invoke, he]
      exact hJ.keep_gateway hv nofun ⟨hJ.total_eq, hJ.nonneg⟩ Iff.rfl
        (fun h => ⟨h, (hJ.instantiated h).2⟩) (fun h => by have := hJ.unregistered h; omega)
        fun _ => rfl
    dsimp only at hg ht
    obtain ⟨hstake, htot, hst, hmsg⟩ := submitCheckpoint_keeps_stake (.submitCheckpoint hg.1 hg.2 ht)
    have hJ' : Ledger env receiver
        ⟨{ sys.sa with state := st', balance := sys.sa.balance + info.valueReceived }, sys.gw⟩
        (ds ++ (none : Option Delivery).toList) (received + info.valueReceived) :=
      hJ.keep_gateway hv nofun
      ⟨by rw [htot, hstake]; exact hJ.total_eq, by rw [hstake]; exact hJ.nonneg⟩ (by rw [hst])
      (fun h => by rw [hst] at h; rw [htot]; exact ⟨h, (hJ.instantiated h).2⟩)
      (fun h => by have := hJ.unregistered h; rw [htot]; omega) fun _ => htot
    rw [Option.toList_none, List.append_nil] at hJ'
    rcases hmsg with rfl | rfl
    · -- a vote is recorded
      simp only [step, SubnetActor.invoke, he]
      simpa using hJ'
    -- the checkpoint is committed and sent to the gateway, with no value
    simp only [step, SubnetActor.invoke, he]
    have h0 : 0 ≤ ({ { sys.sa with balance := sys.sa.balance + info.valueReceived } with
        state := st' } : Runtime SubnetActor.State).balance := by
      have := hJ.sa_nonneg; dsimp only; omega
    rcases deliver_bare hb h0 with hd | ⟨st'', ht', hd⟩
    · rw [hd]
      exact hJ'.keep_books rfl rfl rfl id (fun _ => ⟨rfl, rfl, rfl⟩) (by simp) ch false
    · rw [hd]
      obtain ⟨-, hnet, sub, hs, hsub⟩ := commitChildCheckTx_bare hb ht'
      refine hJ'.keep_books (by rfl) (by rfl) hnet (fun sub => { sub with prevCheckpoint := some ch })
        (fun _ => ⟨rfl, rfl, rfl⟩) ?_ ch true
      have hid : SubnetID.newFromParent sys.gw.state.networkName receiver = sub.id :=
        (hJ.entry sub hs).1.symm
      show st''.subnets (SubnetID.newFromParent st''.networkName receiver) = _
      rw [hsub, hnet, hid, Function.update_same]
      exact (congrArg (Option.map fun sub => { sub with prevCheckpoint := some ch }) hs).symm
  | _ => cases hc

end Ledger

/-! ## Runs -/

/-- The ledger holds on every run of staking calls and checkpoints without
    cross-messages from a fresh pair. -/
theorem ledger_run_checkpoints (params : SubnetActor.ConstructParams)
    (gparams : Gateway.ConstructorParams) (cs : List Call)
    (hcs : ∀ c ∈ cs, c.isStaking = true ∨ c.isBareCheckpoint = true) :
    Ledger env receiver (run env receiver (fresh params gparams) cs).1
      (run env receiver (fresh params gparams) cs).2 (cs.map fun c => c.info.valueReceived).sum := by
  induction cs using List.reverseRecOn with
  | nil => exact ledger_fresh env receiver params gparams
  | append_singleton cs c ih =>
    rw [run_snoc, List.map_append, List.sum_append, List.map_singleton, List.sum_singleton]
    have hJ := ih fun c' h => hcs c' (List.mem_append_left _ h)
    exact (hcs c (List.mem_append_right _ (List.mem_singleton_self c))).elim
      (ledger_step hJ) (ledger_step_bare hJ)

/-- **Checkpoints keep the stake where it is.**  On every run from a fresh
    pair of Join, Leave and Kill calls and `SubmitCheckpoint` calls whose
    checkpoints carry no cross-messages, the stake ledger and the registry
    agree, a Leave pays the validator nothing, no one but the subnet actor
    has received a token, and the gateway holds exactly the stake it books
    for the subnet. -/
theorem custody_with_checkpoints (params : SubnetActor.ConstructParams)
    (gparams : Gateway.ConstructorParams) (cs : List Call)
    (hcs : ∀ c ∈ cs, c.isStaking = true ∨ c.isBareCheckpoint = true) :
    RegistryAgreement receiver (run env receiver (fresh params gparams) cs).1
        (run env receiver (fresh params gparams) cs).2 ∧
      StakeCustody env receiver (run env receiver (fresh params gparams) cs).1
        (cs.map fun c => c.info.valueReceived).sum ∧
      (run env receiver (fresh params gparams) cs).1.gw.balance =
        (run env receiver (fresh params gparams) cs).1.gwStake receiver :=
  have h := ledger_run_checkpoints env receiver params gparams cs hcs
  ⟨⟨h.total_eq, h.history, fun sub hs => (h.entry sub hs).2.1⟩,
    ⟨fun _ _ hm hne hs hsp hT => h.leaveOutcome hm hne hs hsp hT, fun _ hv => h.paidTo_eq_zero hv,
      by have := h.sa_balance; omega⟩,
    h.gw_balance⟩

theorem custody_with_checkpoints_demo :
    (∀ c ∈ checkpointCalls, c.isStaking = true ∨ c.isBareCheckpoint = true) ∧
      RegistryAgreement 5 (run demoEnv 5 (fresh demoParams demoGatewayParams) checkpointCalls).1
        (run demoEnv 5 (fresh demoParams demoGatewayParams) checkpointCalls).2 ∧
      StakeCustody demoEnv 5 (run demoEnv 5 (fresh demoParams demoGatewayParams) checkpointCalls).1
        (checkpointCalls.map fun c => c.info.valueReceived).sum ∧
      (run demoEnv 5 (fresh demoParams demoGatewayParams) checkpointCalls).1.gw.balance =
        (run demoEnv 5 (fresh demoParams demoGatewayParams) checkpointCalls).1.gwStake 5 :=
  ⟨by decide, custody_with_checkpoints demoEnv 5 demoParams demoGatewayParams checkpointCalls
    (by decide)⟩

/-- The gateway accepts both the registration and the checkpoint. -/
example : ((run demoEnv 5 (fresh demoParams demoGatewayParams) checkpointCalls).2.map
    Delivery.accepted) = [true, true] := by rfl

/-- The checkpoint cannot declare a fee: with a bundle of no messages and a
    fee of `1`, the gateway pays the fee out of the stake of `1` it holds, and
    the subnet actor passes it on to validator `7`. -/
example :
    ((run demoEnv 5 (fresh demoParams demoGatewayParams)
        [⟨⟨7, true, 1, by decide, 0⟩, .join ⟨""⟩⟩,
         ⟨⟨7, true, 0, by decide, 0⟩, .submitCheckpoint ⟨demoChild, 10, 0, some ⟨[], 0, 1, 0⟩, []⟩⟩]).1
      |> fun sys => (sys.gw.balance, sys.gwStake 5, sys.paidTo 7)) = (0, 1, 1) := by rfl

/-! ## Kill -/

/-- **Once a token has come in, the subnet can no longer be killed.**  On
    every run from a fresh pair of Join, Leave and Kill calls and checkpoints
    without cross-messages that brought a positive value, a further Kill
    fails and changes nothing but the value it brought.  `Kill` asks for no
    validator, no stake and a zero balance; with no stake the gateway holds
    nothing for the subnet, so the subnet actor's balance is every token ever
    brought, since a Leave pays nothing out. -/
theorem kill_refused_once_funded (params : SubnetActor.ConstructParams)
    (gparams : Gateway.ConstructorParams) (cs : List Call)
    (hcs : ∀ c ∈ cs, c.isStaking = true ∨ c.isBareCheckpoint = true)
    (hpos : 0 < (cs.map fun c => c.info.valueReceived).sum) {c : Call} (hk : c.method = .kill) :
    step env receiver (run env receiver (fresh params gparams) cs).1 c =
      (⟨{ (run env receiver (fresh params gparams) cs).1.sa with
          balance := (run env receiver (fresh params gparams) cs).1.sa.balance + c.info.valueReceived },
        (run env receiver (fresh params gparams) cs).1.gw⟩, none) := by
  have hJ := ledger_run_checkpoints env receiver params gparams cs hcs
  generalize run env receiver (fresh params gparams) cs = r at hJ ⊢
  obtain ⟨sys, ds⟩ := r
  obtain ⟨info, m⟩ := c
  subst hk
  have hv := info.valueReceived_nonneg
  rcases SubnetActor.kill_ends env { sys.sa with balance := sys.sa.balance + info.valueReceived } with
    ⟨e, he⟩ | ⟨st', msg, hb0, ht, -⟩
  · simp only [step, SubnetActor.invoke, he]
  · -- a Kill that commits found no stake, so the balance holds every token brought
    obtain ⟨-, -, -, htot, -, -⟩ := SubnetActor.killTx_eq_ok env ht
    have hg : sys.gwStake receiver = 0 := by
      cases he : sys.entry receiver with
      | none => exact gwStake_of_none he
      | some sub => rw [gwStake_of_entry he, (hJ.entry sub he).2.1]; exact htot
    have := hJ.sa_balance
    dsimp only at hb0 this hg
    omega

/-- Validator `7` joins with the minimum collateral and leaves: no validator
    and no stake are left, but the stake of `1` the gateway returned stays in
    the subnet actor's balance, and a Kill is refused. -/
theorem kill_refused_once_funded_demo :
    (∀ c ∈ leaveCalls, c.isStaking = true ∨ c.isBareCheckpoint = true) ∧
      0 < (leaveCalls.map fun c => c.info.valueReceived).sum ∧
      step demoEnv 5 (run demoEnv 5 (fresh demoParams demoGatewayParams) leaveCalls).1
          ⟨⟨7, true, 0, by decide, 0⟩, .kill⟩ =
        (⟨{ (run demoEnv 5 (fresh demoParams demoGatewayParams) leaveCalls).1.sa with
            balance := (run demoEnv 5 (fresh demoParams demoGatewayParams) leaveCalls).1.sa.balance + 0 },
          (run demoEnv 5 (fresh demoParams demoGatewayParams) leaveCalls).1.gw⟩, none) :=
  ⟨by decide, by decide, kill_refused_once_funded demoEnv 5 demoParams demoGatewayParams leaveCalls
    (by decide) (by decide) rfl⟩

example : (run demoEnv 5 (fresh demoParams demoGatewayParams) leaveCalls).1.sa.state.validatorSet = [] ∧
    (run demoEnv 5 (fresh demoParams demoGatewayParams) leaveCalls).1.sa.state.totalStake = 0 ∧
    (run demoEnv 5 (fresh demoParams demoGatewayParams) leaveCalls).1.sa.balance = 1 := ⟨rfl, rfl, rfl⟩

end IpcActors.Joint
