/-
  IpcActors.Joint.Payees

  Whom the pair pays (§4.1, §4.4, §7).

  A program `PaysOnly P` when every send it records goes to an address that
  `P` allows; transactions, reads and checks record none, and a send records
  one (`paysOnly_*`, `PaysOnly.bind`, `paysOnly_guard`).  The calls a subnet
  actor makes on its own subnet, its staking calls and its checkpoints, pay
  only their caller (`Gateway.paysOnly_invoke`): `ReleaseStake` and `Kill`
  send the stake back to it, and `CommitChildCheckpoint` pays the fee to the
  subnet actor of the checkpoint's source, which it has checked is the caller.
  The subnet actor records no send but the reward shares, which go to its
  validators (`SubnetActor.invoke_pays_validators`), and an address becomes a
  validator only by a Join (`validators_step`).

  Hence on every run from a fresh pair, whatever the calls to the subnet
  actor, the gateway pays only the subnet actor, and the subnet actor pays
  only addresses that called Join (`pays_only_joiners`).
-/
import IpcActors.Joint.Compose

namespace IpcActors

/-! ## Programs that pay only some addresses -/

section PaysOnly

variable {σ α β : Type} {P : Address → Prop}

/-- Every send the program records goes to an address that `P` allows. -/
def PaysOnly (P : Address → Prop) (x : RtM σ α) : Prop :=
  ∀ rt, ∃ new, (x rt).rt.sent = rt.sent ++ new ∧ ∀ s ∈ new, P s.to

theorem paysOnly_of_sent_eq {x : RtM σ α} (h : ∀ rt, (x rt).rt.sent = rt.sent) : PaysOnly P x :=
  fun rt => ⟨[], by rw [h, List.append_nil], nofun⟩

theorem paysOnly_pure (a : α) : PaysOnly P (pure a : RtM σ α) := paysOnly_of_sent_eq fun _ => rfl

theorem paysOnly_currentBalance : PaysOnly P (currentBalance : RtM σ Int) :=
  paysOnly_of_sent_eq fun _ => rfl

theorem paysOnly_transaction (f : σ → Except ActorError (σ × α)) : PaysOnly P (transaction f) :=
  paysOnly_of_sent_eq fun _ => by unfold transaction; split <;> rfl

theorem paysOnly_send {a : Address} (ha : P a) (m : MethodNum) (v : Int) :
    PaysOnly P (send a m v : RtM σ Unit) := by
  intro rt
  unfold send
  split
  · exact ⟨[⟨a, m, v⟩], rfl, by simpa using ha⟩
  · exact ⟨[], (List.append_nil _).symm, nofun⟩

theorem PaysOnly.bind {x : RtM σ α} {f : α → RtM σ β} (hx : PaysOnly P x)
    (hf : ∀ a, PaysOnly P (f a)) : PaysOnly P (x >>= f) := by
  intro rt
  rw [RtM.bind_apply]
  obtain ⟨n₁, h₁, hn₁⟩ := hx rt
  rcases hr : x rt with ⟨a, rt'⟩ | ⟨e, rt'⟩ <;> rw [hr] at h₁
  · obtain ⟨n₂, h₂, hn₂⟩ := hf a rt'
    exact ⟨n₁ ++ n₂, by rw [h₂, show rt'.sent = _ from h₁, List.append_assoc],
      fun s hs => (List.mem_append.1 hs).elim (hn₁ s) (hn₂ s)⟩
  · exact ⟨n₁, h₁, hn₁⟩

theorem PaysOnly.ite {c : Prop} [Decidable c] {x y : RtM σ α} (hx : PaysOnly P x)
    (hy : PaysOnly P y) : PaysOnly P (if c then x else y) := by
  split <;> assumption

/-- A check that throws when `c` holds, followed by a program that, when `c`
    does not hold, pays only addresses `P` allows. -/
theorem paysOnly_guard {c : Prop} [Decidable c] {e : ActorError} {k : PUnit → RtM σ α}
    (hk : ¬c → PaysOnly P (k PUnit.unit)) :
    PaysOnly P (if c then throw e >>= k else pure PUnit.unit >>= k) := by
  split
  · exact paysOnly_of_sent_eq fun _ => rfl
  · rename_i h
    exact (paysOnly_pure _).bind fun _ => hk h

end PaysOnly

/-! ## Each actor's payees -/

namespace Gateway

variable (env : Env) {P : Address → Prop}

/-- The calls a subnet actor makes on its own subnet: its staking calls and
    its checkpoints. -/
def Method.isChildCall : Method → Bool
  | .register | .addStake | .releaseStake _ | .kill | .commitChildCheckpoint _ => true
  | _ => false

theorem paysOnly_distributeCrossmsgFee {a : Address} (ha : P a) (fee : Int) :
    PaysOnly P (distributeCrossmsgFee a fee) :=
  PaysOnly.ite (paysOnly_pure _) (paysOnly_send ha _ _)

/-- **The gateway pays only the caller** in the calls a subnet actor makes on
    its own subnet. -/
theorem paysOnly_invoke (info : MessageInfo) (m : Method) (hm : m.isChildCall = true) :
    PaysOnly (· = info.caller) (invoke env info m) := by
  cases m with
  | register => exact (paysOnly_transaction _).bind fun _ => paysOnly_pure _
  | addStake => exact paysOnly_guard fun _ => paysOnly_transaction _
  | releaseStake p =>
    exact paysOnly_guard fun _ => paysOnly_currentBalance.bind fun _ =>
      (paysOnly_transaction _).bind fun _ => paysOnly_send (by rfl) _ _
  | kill =>
    exact paysOnly_currentBalance.bind fun _ =>
      (paysOnly_transaction _).bind fun _ => paysOnly_send (by rfl) _ _
  | commitChildCheckpoint ch =>
    exact paysOnly_guard fun h => (paysOnly_transaction _).bind fun _ =>
      paysOnly_distributeCrossmsgFee (by exact (not_not.1 h).symm) _
  | _ => cases hm

end Gateway

namespace SubnetActor

open Gateway (Env MessageInfo)

variable (env : Env) (receiver : Address) (info : MessageInfo)

theorem TxEnds.sent_eq {α : Type} {g : Runtime State → Prop}
    {tx : State → Except ActorError (State × α)} {x : RtM State α} (h : TxEnds g tx x)
    (rt : Runtime State) : (x rt).rt.sent = rt.sent := by
  rcases h rt with ⟨e, he⟩ | ⟨st', a, -, -, he⟩ <;> rw [he] <;> rfl

theorem paysOnly_sendAll {P : Address → Prop} (value : Int) :
    ∀ vs : List Validator, (∀ v ∈ vs, P v.addr) → PaysOnly P (sendAll value vs)
  | [] => fun _ => paysOnly_pure _
  | v :: vs => fun h =>
    (paysOnly_send (h v (List.mem_cons_self _ _)) _ _).bind fun _ =>
      paysOnly_sendAll value vs fun w hw => h w (List.mem_cons_of_mem _ hw)

/-- `Reward` pays the validators of the state it finds. -/
theorem reward_pays_validators (rt : Runtime State) :
    ∃ new, (reward info rt).rt.sent = rt.sent ++ new ∧
      ∀ s ∈ new, s.to ∈ rt.state.validatorSet.map Validator.addr := by
  simp only [reward, RtM.bind_ok _ (getState_apply rt)]
  exact (paysOnly_guard fun _ => paysOnly_guard fun _ => paysOnly_guard fun _ =>
    paysOnly_sendAll _ _ fun v hv => List.mem_map_of_mem _ hv) rt

/-- **The subnet actor pays only its validators**: a call records no send
    but the reward shares. -/
theorem invoke_pays_validators (m : Method) (rt : Runtime State) :
    ∃ new, (invoke env receiver info m rt).rt.sent = rt.sent ++ new ∧
      ∀ s ∈ new, s.to ∈ rt.state.validatorSet.map Validator.addr := by
  have keep : (invoke env receiver info m rt).rt.sent = rt.sent →
      ∃ new, (invoke env receiver info m rt).rt.sent = rt.sent ++ new ∧
        ∀ s ∈ new, s.to ∈ rt.state.validatorSet.map Validator.addr :=
    fun h => ⟨[], by rw [h, List.append_nil], nofun⟩
  cases m with
  | join params => exact keep ((join_ends env info params).sent_eq rt)
  | leave => exact keep ((leave_ends env info).sent_eq rt)
  | kill => exact keep ((kill_ends env).sent_eq rt)
  | submitCheckpoint ch => exact keep ((submitCheckpoint_ends env receiver info ch).sent_eq rt)
  | reward =>
    obtain ⟨new, h, hn⟩ := reward_pays_validators info rt
    refine ⟨new, ?_, hn⟩
    show ((reward info >>= fun _ => pure none) rt).rt.sent = _
    rw [RtM.bind_apply]
    cases hr : reward info rt <;> rw [hr] at h <;> exact h

/-- An address becomes a validator only by a Join of its own. -/
theorem validators_step {m : Method} {st st' : State} {msg : Option CrossActorPayload}
    (hc : Commits env receiver info m st st' msg) :
    ∀ a ∈ st'.validatorSet.map Validator.addr,
      a ∈ st.validatorSet.map Validator.addr ∨ (a = info.caller ∧ ∃ p, m = .join p) := by
  intro a ha
  cases hc with
  | @join params _ _ _ _ ht =>
    obtain ⟨rfl, -⟩ := joinTx_eq_ok env info ht
    rw [(State.mutateState_fields ..).2.2.1, State.addStake_addrs] at ha
    split at ha
    · exact .inl ha
    · rcases List.mem_append.1 ha with ha | ha
      · exact .inl ha
      · exact .inr ⟨List.mem_singleton.1 ha, params, rfl⟩
  | leave ht =>
    obtain ⟨s, -, -, rfl, -⟩ := leaveTx_eq_ok env info ht
    rw [(State.mutateState_fields ..).2.2.1] at ha
    exact .inl ((List.filter_sublist _).map _ |>.subset ha)
  | kill ht =>
    obtain ⟨-, -, -, -, rfl, -⟩ := killTx_eq_ok env ht
    exact .inl ha
  | submitCheckpoint _ _ ht =>
    obtain ⟨-, ⟨-, rfl, -⟩ | ⟨-, rfl, -⟩⟩ := submitCheckpointTx_eq_ok env info ht
    · exact .inl (by split at ha <;> exact ha)
    · exact .inl ha

end SubnetActor

/-! ## The pair -/

namespace Joint

open Gateway (Env MessageInfo demoEnv demoChild)
open SubnetActor (CrossActorPayload Commits Validator)

variable (env : Env) (receiver : Address)

/-- `c` is a Join by `a`. -/
def Call.joinedBy (c : Call) (a : Address) : Prop := c.info.caller = a ∧ ∃ p, c.method = .join p

/-- Whom the pair has paid and who its validators are, against the addresses
    `J` allows: the subnet actor's validators and the addresses it paid are
    in `J`, and the gateway paid only the subnet actor. -/
structure PaysJoiners (J : Address → Prop) (sys : System) : Prop where
  validators : ∀ a ∈ sys.sa.state.validatorSet.map Validator.addr, J a
  sa_sent : ∀ s ∈ sys.sa.sent, J s.to
  gw_sent : ∀ s ∈ sys.gw.sent, s.to = receiver

section Pair

variable {env receiver} {J : Address → Prop} {sys : System}

/-- The subnet actor only calls its gateway on its own subnet. -/
theorem payload_isChildCall {info : MessageInfo} {m : SubnetActor.Method}
    {st st' : SubnetActor.State} {msg : Option CrossActorPayload}
    (hc : Commits env receiver info m st st' msg) : ∀ p ∈ msg, p.method.isChildCall = true := by
  cases hc with
  | join _ ht =>
    obtain ⟨rfl, rfl⟩ := SubnetActor.joinTx_eq_ok env info ht
    intro p hp
    split_ifs at hp <;> cases hp <;> rfl
  | leave ht =>
    obtain ⟨s, -, -, rfl, rfl⟩ := SubnetActor.leaveTx_eq_ok env info ht
    intro p hp
    split_ifs at hp <;> cases hp
    rfl
  | kill ht =>
    obtain ⟨-, -, -, -, rfl, rfl⟩ := SubnetActor.killTx_eq_ok env ht
    intro p hp; cases hp; rfl
  | submitCheckpoint _ _ ht =>
    obtain ⟨-, ⟨-, rfl, rfl⟩ | ⟨-, rfl, rfl⟩⟩ := SubnetActor.submitCheckpointTx_eq_ok env info ht
    · intro p hp; cases hp; rfl
    · nofun

/-- The subnet actor receives the gateway's sends: its state stays, and what
    it pays on goes to its validators. -/
theorem receiveAll_pays (epoch : Int) (sa : Runtime SubnetActor.State) (ss : List Send) :
    ∃ new, (receiveAll receiver epoch sa ss).sent = sa.sent ++ new ∧
      ∀ s ∈ new, s.to ∈ sa.state.validatorSet.map Validator.addr := by
  induction ss generalizing sa with
  | nil => exact ⟨[], (List.append_nil _).symm, nofun⟩
  | cons s ss ih =>
    have hone : ∃ new, (receiveSend receiver epoch sa s).sent = sa.sent ++ new ∧
        ∀ s ∈ new, s.to ∈ sa.state.validatorSet.map Validator.addr := by
      unfold receiveSend
      split
      · exact ⟨[], (List.append_nil _).symm, nofun⟩
      · split
        · split
          · exact SubnetActor.reward_pays_validators _ _
          · exact ⟨[], (List.append_nil _).symm, nofun⟩
        · exact ⟨[], (List.append_nil _).symm, nofun⟩
    obtain ⟨n₁, h₁, hn₁⟩ := hone
    obtain ⟨n₂, h₂, hn₂⟩ := ih (receiveSend receiver epoch sa s)
    rw [show (receiveSend receiver epoch sa s).state = sa.state from receiveAll_state epoch sa [s]] at hn₂
    refine ⟨n₁ ++ n₂, ?_, fun t ht => (List.mem_append.1 ht).elim (hn₁ t) (hn₂ t)⟩
    rw [show receiveAll receiver epoch sa (s :: ss) =
      receiveAll receiver epoch (receiveSend receiver epoch sa s) ss from rfl, h₂, h₁,
      List.append_assoc]

/-- A delivery keeps what `PaysJoiners` asks, from a subnet actor left with
    validators and payees in `J`. -/
theorem paysJoiners_deliver (h : PaysJoiners receiver J sys) (epoch : Int)
    {sa : Runtime SubnetActor.State} (hv : ∀ a ∈ sa.state.validatorSet.map Validator.addr, J a)
    (hs : ∀ s ∈ sa.sent, J s.to) {p : CrossActorPayload} (hp : p.method.isChildCall = true) :
    PaysJoiners receiver J (deliver env receiver sys epoch sa p).1 := by
  unfold deliver
  split
  · rename_i hb
    obtain ⟨new, hnew, hto⟩ := Gateway.paysOnly_invoke env (payloadCall receiver epoch p hb.1).info
      p.method hp { sys.gw with sent := [], balance := sys.gw.balance + p.value }
    split
    · rename_i gw hgw
      have hgs : ∀ s ∈ gw.sent, s.to = receiver := by
        have h' : (Gateway.step env { sys.gw with sent := [] }
            (payloadCall receiver epoch p hb.1)).rt.sent = [] ++ new := hnew
        rw [hgw, List.nil_append, Outcome.rt_ok] at h'
        rw [h']
        exact hto
      obtain ⟨n, hn, hn'⟩ := receiveAll_pays epoch { sa with balance := sa.balance - p.value } gw.sent
      refine ⟨by rw [receiveAll_state]; exact hv, fun s hs' => ?_, fun s hs' => ?_⟩
      · rw [hn] at hs'
        exact (List.mem_append.1 hs').elim (hs s) fun h' => hv _ (hn' s h')
      · exact (List.mem_append.1 hs').elim (h.gw_sent s) (hgs s)
    · exact ⟨hv, hs, h.gw_sent⟩
  · exact ⟨hv, hs, h.gw_sent⟩

/-- **One step of the pair** keeps `PaysJoiners`, for a call that, if it is
    a Join, comes from an address in `J`. -/
theorem paysJoiners_step (h : PaysJoiners receiver J sys) {c : Call}
    (hc : ∀ p, c.method = .join p → J c.info.caller) :
    PaysJoiners receiver J (step env receiver sys c).1 := by
  let rt₀ : Runtime SubnetActor.State := { sys.sa with balance := sys.sa.balance + c.info.valueReceived }
  obtain ⟨new, hnew, hto⟩ := SubnetActor.invoke_pays_validators env receiver c.info c.method rt₀
  have hs : ∀ s ∈ (SubnetActor.invoke env receiver c.info c.method rt₀).rt.sent, J s.to := by
    rw [hnew]
    exact fun s hs' => (List.mem_append.1 hs').elim (h.sa_sent s) fun h' => h.validators _ (hto s h')
  unfold step
  rcases SubnetActor.invoke_cases env receiver c.info c.method rt₀ with
    ⟨e, rt', he, hst⟩ | ⟨rt', he, hst⟩ | ⟨st', msg, hcm, he⟩ <;> rw [he] at hs ⊢
  · exact ⟨hst ▸ h.validators, hs, h.gw_sent⟩
  · exact ⟨hst ▸ h.validators, hs, h.gw_sent⟩
  · have hv : ∀ a ∈ st'.validatorSet.map Validator.addr, J a := fun a ha =>
      (SubnetActor.validators_step env receiver c.info hcm a ha).elim (h.validators a)
        fun ⟨hca, p, hp⟩ => hca ▸ hc p hp
    cases msg with
    | none => exact ⟨hv, hs, h.gw_sent⟩
    | some p => exact paysJoiners_deliver h _ hv hs (payload_isChildCall hcm p rfl)

end Pair

theorem paysJoiners_run {J : Address → Prop} (sys : System) (cs : List Call)
    (hcs : ∀ c ∈ cs, ∀ p, c.method = .join p → J c.info.caller) (h : PaysJoiners receiver J sys) :
    PaysJoiners receiver J (run env receiver sys cs).1 := by
  induction cs generalizing sys with
  | nil => exact h
  | cons c cs ih =>
    exact ih _ (fun c' hc' => hcs c' (List.mem_cons_of_mem _ hc'))
      (paysJoiners_step h (hcs c (List.mem_cons_self _ _)))

/-- **The pair pays only those who joined.**  On every run from a fresh
    subnet actor and a fresh gateway, whatever the calls to the subnet actor,
    the gateway pays only the subnet actor, and the subnet actor pays only
    addresses that called Join, which are also the only addresses among its
    validators.  The stake the gateway returns and the checkpoint fees it
    pays stay in the pair, and the subnet actor passes tokens on only as
    reward shares to its validators. -/
theorem pays_only_joiners (params : SubnetActor.ConstructParams) (gparams : Gateway.ConstructorParams)
    (cs : List Call) :
    PaysJoiners receiver (fun a => ∃ c ∈ cs, c.joinedBy a) (run env receiver (fresh params gparams) cs).1 :=
  paysJoiners_run env receiver _ cs (fun c hc p hp => ⟨c, hc, rfl, p, hp⟩) ⟨nofun, nofun, nofun⟩

/-- A checkpoint with a fee of `1`: the gateway pays it to the subnet actor,
    which passes it on to validator `7`, the one address that joined. -/
example :
    ((run demoEnv 5 (fresh demoParams demoGatewayParams)
        [⟨⟨7, true, 1, by decide, 0⟩, .join ⟨""⟩⟩,
         ⟨⟨7, true, 0, by decide, 0⟩, .submitCheckpoint ⟨demoChild, 10, 0, some ⟨[], 0, 1, 0⟩, []⟩⟩]).1
      |> fun sys => (sys.sa.sent.map Send.to, sys.gw.sent.map Send.to)) = ([7], [5]) := by
  rfl

end Joint

end IpcActors
