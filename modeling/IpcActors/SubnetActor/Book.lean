/-
  IpcActors.SubnetActor.Book

  The validator book of the subnet actor: its validator set against its stake
  table (§3, §4.4).

  `Join` credits the caller a positive stake and lists it in the validator
  set, or updates its network address there; `Leave` takes the caller's whole
  stake off and drops it from the set; `Kill` and `SubmitCheckpoint` touch
  neither.  So on every run of a fresh actor the set lists each address once,
  and lists exactly the addresses whose stake is positive, every other address
  holding none (`validator_book`).  This is what `SubmitCheckpoint` relies on
  when it accepts a vote from a listed validator, and what `Reward` relies on
  when it pays one share per entry of the set.

  `mutate_state` ends every call that changes the stake, and sets the status
  from the total stake against the minimum collateral; `Kill` moves to
  Terminating and `SubmitCheckpoint` touches neither.  So an Active subnet
  always holds at least the minimum collateral and an Inactive one less
  (`CollateralStatus`, `collateralStatus_step`).

  `Reward` pays `⌊v / n⌋` to each of the `n` entries of the validator set in
  turn, keeping the remainder (`reward_ok`).  With the book, on every run of a
  fresh actor a Reward from the gateway pays each validator exactly one equal
  share, and nobody else anything (`reward_shares`).

  `runAlone_inv` is the induction every invariant of the actor on its own goes
  through: what every committed call keeps holds after every run.
-/
import IpcActors.SubnetActor.Votes

namespace IpcActors.SubnetActor

open Gateway (Env MessageInfo demoEnv demoRoot)

variable (env : Env) (receiver : Address)

/-- **Invariant induction for the actor on its own.**  A property of the state
    that every committed call keeps holds after every run. -/
theorem runAlone_inv {I : State → Prop}
    (h : ∀ {info m st st' msg}, I st → Commits env receiver info m st st' msg → I st')
    {st : State} (h0 : I st) (cs : List Call) : I (runAlone env receiver st cs).1 := by
  induction cs generalizing st with
  | nil => exact h0
  | cons c cs ih =>
    rcases stepAlone_cases env receiver st c with he | ⟨st', msg, hc, he⟩
    · simp only [runAlone, he]; exact ih h0
    · simp only [runAlone, he]; exact ih (h h0 hc)

/-! ## The validator set against the stake table -/

/-- The validator set against the stake table: each address listed once, and
    exactly the addresses whose stake is positive; every other address holds
    no stake. -/
structure ValidatorBook (st : State) : Prop where
  nodup : (st.validatorSet.map Validator.addr).Nodup
  staked : ∀ a, (a ∈ st.validatorSet.map Validator.addr ∧ 0 < (st.getStake a).getD 0) ∨
    (a ∉ st.validatorSet.map Validator.addr ∧ (st.getStake a).getD 0 = 0)

namespace State

/-- `add_stake` lists the caller once: it keeps the set's addresses, appending
    the caller's when it was not there. -/
theorem addStake_addrs (st : State) (a : Address) (n : String) (v : Int) :
    (st.addStake a n v).validatorSet.map Validator.addr =
      if a ∈ st.validatorSet.map Validator.addr then st.validatorSet.map Validator.addr
      else st.validatorSet.map Validator.addr ++ [a] := by
  unfold addStake
  split
  · simp only [List.map_map]
    exact List.map_congr_left fun v _ => by simp only [Function.comp_apply]; split <;> simp_all
  · simp

theorem getStake_addStake (st : State) (a : Address) (n : String) (v : Int) (b : Address) :
    ((st.addStake a n v).getStake b).getD 0 =
      if a = b then (st.getStake a).getD 0 + v else (st.getStake b).getD 0 := by
  simp only [getStake, addStake, StakeTable.get_set]
  split <;> simp

theorem getStake_rmStake (st : State) (a : Address) (v : Int) (b : Address) :
    ((st.rmStake a v).getStake b).getD 0 =
      if a = b then (st.getStake a).getD 0 - v else (st.getStake b).getD 0 := by
  simp only [getStake, rmStake, StakeTable.get_set]
  split <;> simp

end State

section Book

variable {st st' : State}

theorem ValidatorBook.of_eq (h : ValidatorBook st) (hv : st'.validatorSet = st.validatorSet)
    (hs : st'.stake = st.stake) : ValidatorBook st' := by
  have hg : st'.getStake = st.getStake := by
    funext a; simp only [State.getStake, hs]
  exact ⟨hv ▸ h.nodup, hv ▸ hg ▸ h.staked⟩

theorem ValidatorBook.stake_nonneg (h : ValidatorBook st) (a : Address) :
    0 ≤ (st.getStake a).getD 0 := by
  rcases h.staked a with ⟨-, h⟩ | ⟨-, h⟩ <;> omega

/-- A `Join` of a positive value keeps the book. -/
theorem ValidatorBook.addStake (h : ValidatorBook st) (a : Address) (n : String) {v : Int}
    (hv : 0 < v) : ValidatorBook (st.addStake a n v) := by
  have hn := h.stake_nonneg a
  refine ⟨?_, fun b => ?_⟩
  · rw [State.addStake_addrs]
    split
    · exact h.nodup
    · rw [← List.concat_eq_append]; exact h.nodup.concat ‹_›
  · rw [State.addStake_addrs, State.getStake_addStake]
    by_cases hb : a = b
    · subst hb
      rw [if_pos rfl]
      refine .inl ⟨?_, by omega⟩
      split
      · assumption
      · exact List.mem_append_right _ (List.mem_singleton_self _)
    · rw [if_neg hb]
      split
      · exact h.staked b
      · simp only [List.mem_append, List.mem_singleton, Ne.symm hb, or_false]
        exact h.staked b

/-- A `Leave` of the caller's whole stake keeps the book. -/
theorem ValidatorBook.rmStake (h : ValidatorBook st) (a : Address) {s : Int}
    (hs : st.getStake a = some s) : ValidatorBook (st.rmStake a s) := by
  have hsub : ((st.validatorSet.filter fun v => v.addr ≠ a).map Validator.addr).Sublist
      (st.validatorSet.map Validator.addr) := (List.filter_sublist _).map _
  have hmem : ∀ b, b ∈ (st.validatorSet.filter fun v => v.addr ≠ a).map Validator.addr ↔
      b ∈ st.validatorSet.map Validator.addr ∧ b ≠ a := fun b => by
    simp only [List.mem_map, List.mem_filter, decide_eq_true_eq]
    constructor
    · rintro ⟨v, ⟨hv, hva⟩, rfl⟩; exact ⟨⟨v, hv, rfl⟩, hva⟩
    · rintro ⟨⟨v, hv, rfl⟩, hva⟩; exact ⟨v, ⟨hv, hva⟩, rfl⟩
  refine ⟨hsub.nodup h.nodup, fun b => ?_⟩
  show (b ∈ (st.validatorSet.filter fun v => v.addr ≠ a).map Validator.addr ∧ _) ∨
    (b ∉ (st.validatorSet.filter fun v => v.addr ≠ a).map Validator.addr ∧ _)
  rw [hmem, State.getStake_rmStake]
  by_cases hb : a = b
  · subst hb; simp [hs]
  · simp only [if_neg hb, ne_eq, Ne.symm hb, not_false_eq_true, and_true]
    exact h.staked b

end Book

/-- Every committed call keeps the validator book. -/
theorem validatorBook_step {info : MessageInfo} {m : Method} {st st' : State}
    {msg : Option CrossActorPayload} (h : ValidatorBook st)
    (hc : Commits env receiver info m st st' msg) : ValidatorBook st' := by
  cases hc with
  | @join params _ _ _ hv ht =>
    obtain ⟨rfl, -⟩ := joinTx_eq_ok env info ht
    have := h.addStake info.caller params.validatorNetAddr
      (lt_of_le_of_ne info.valueReceived_nonneg (Ne.symm hv))
    exact this.of_eq (State.mutateState_fields ..).2.2.1 (State.mutateState_fields ..).2.1
  | leave ht =>
    obtain ⟨s, hs, -, rfl, -⟩ := leaveTx_eq_ok env info ht
    exact (h.rmStake info.caller hs).of_eq (State.mutateState_fields ..).2.2.1
      (State.mutateState_fields ..).2.1
  | kill ht =>
    obtain ⟨-, -, -, -, rfl, -⟩ := killTx_eq_ok env ht
    exact h.of_eq rfl rfl
  | submitCheckpoint _ _ ht =>
    obtain ⟨-, ⟨-, rfl, -⟩ | ⟨-, rfl, -⟩⟩ := submitCheckpointTx_eq_ok env info ht
    · split <;> exact h.of_eq rfl rfl
    · exact h.of_eq rfl rfl

/-! ## The status against the collateral -/

/-- The status against the collateral: an Active subnet holds at least the
    minimum collateral, an Inactive one less. -/
structure CollateralStatus (min : Int) (st : State) : Prop where
  active : st.status = .Active → min ≤ st.totalStake
  inactive : st.status = .Inactive → st.totalStake < min

/-- Whatever it starts from, `mutate_state` leaves the status in line with the
    collateral. -/
theorem State.collateralStatus_mutateState (min : Int) (st : State) :
    CollateralStatus min (st.mutateState min) := by
  have hs := State.mutateState_status min st
  refine ⟨fun h => ?_, fun h => ?_⟩ <;> rw [(State.mutateState_fields min st).1] <;> rw [h] at hs <;>
    cases hst : st.status <;> simp only [hst] at hs <;> (try split at hs) <;> first | omega | cases hs

/-- Every committed call keeps the status in line with the collateral. -/
theorem collateralStatus_step {info : MessageInfo} {m : Method} {st st' : State}
    {msg : Option CrossActorPayload} (h : CollateralStatus env.minCollateralAmount st)
    (hc : Commits env receiver info m st st' msg) : CollateralStatus env.minCollateralAmount st' := by
  cases hc with
  | join _ ht =>
    obtain ⟨rfl, -⟩ := joinTx_eq_ok env info ht
    exact State.collateralStatus_mutateState _ _
  | leave ht =>
    obtain ⟨s, -, -, rfl, -⟩ := leaveTx_eq_ok env info ht
    exact State.collateralStatus_mutateState _ _
  | kill ht =>
    obtain ⟨-, -, -, -, rfl, -⟩ := killTx_eq_ok env ht
    exact ⟨nofun, nofun⟩
  | submitCheckpoint _ _ ht =>
    obtain ⟨-, ⟨-, rfl, -⟩ | ⟨-, rfl, -⟩⟩ := submitCheckpointTx_eq_ok env info ht
    · split <;> exact ⟨h.active, h.inactive⟩
    · exact ⟨h.active, h.inactive⟩

/-- **The validator book.**  On every run of a fresh subnet actor, its
    validator set lists each address at most once and lists exactly the
    addresses whose stake is positive; every address not listed holds no
    stake. -/
theorem validator_book (params : ConstructParams) (cs : List Call) :
    ValidatorBook (runAlone env receiver (State.new params) cs).1 :=
  @runAlone_inv env receiver ValidatorBook (fun h hc => validatorBook_step env receiver h hc)
    (State.new params) ⟨List.nodup_nil, fun _ => .inr ⟨List.not_mem_nil _, rfl⟩⟩ cs

/-! ## Reward -/

section Reward

/-- `sendAll` pays `value` to each validator in turn, when the balance covers
    them all. -/
theorem sendAll_ok {value : Int} (h0 : 0 ≤ value) :
    ∀ (vs : List Validator) (rt : Runtime State), (vs.length : Int) * value ≤ rt.balance →
      sendAll value vs rt = .ok () { rt with
        balance := rt.balance - vs.length * value
        sent := rt.sent ++ vs.map fun v => ⟨v.addr, .send, value⟩ }
  | [], rt, _ => by simp [sendAll]
  | v :: vs, rt, hb => by
    have hlen : ((v :: vs).length : Int) * value = vs.length * value + value := by
      rw [List.length_cons, Nat.cast_succ, Int.add_mul, Int.one_mul]
    have hc0 := Int.mul_nonneg (Int.natCast_nonneg vs.length) h0
    have hvs : (vs.length : Int) * value ≤ rt.balance - value := by omega
    have hsend : (send v.addr .send value : RtM State Unit) rt =
        .ok () { rt with balance := rt.balance - value, sent := rt.sent ++ [⟨v.addr, .send, value⟩] } :=
      if_pos ⟨h0, by omega⟩
    simp only [sendAll, RtM.bind_ok _ hsend,
      sendAll_ok h0 vs { rt with balance := rt.balance - value, sent := rt.sent ++ [⟨v.addr, .send, value⟩] } hvs,
      List.map_cons, List.append_assoc, List.singleton_append, hlen]
    congr 2; omega

/-- **Reward.**  Called by the gateway with a positive amount `v`, covered by
    the balance, while the validator set has `n` entries, `Reward` pays
    `v / n` to each of them in turn and keeps the rest. -/
theorem reward_ok {info : MessageInfo} {rt : Runtime State}
    (hc : info.caller = rt.state.ipcGatewayAddr) (hv : info.valueReceived ≠ 0)
    (hn : rt.state.validatorSet ≠ []) (hb : info.valueReceived ≤ rt.balance) :
    reward info rt = .ok () { rt with
      balance := rt.balance - rt.state.validatorSet.length *
        (info.valueReceived / rt.state.validatorSet.length),
      sent := rt.sent ++ rt.state.validatorSet.map fun v =>
        ⟨v.addr, .send, info.valueReceived / rt.state.validatorSet.length⟩ } := by
  have hn0 : (rt.state.validatorSet.length : Int) ≠ 0 := by
    simpa [List.length_eq_zero] using hn
  have hv0 := info.valueReceived_nonneg
  simp only [reward, RtM.bind_ok _ (getState_apply rt), hc, ne_eq, not_true_eq_false, if_false,
    RtM.pure_bind, hv, if_false, Int.natCast_eq_zero.not.mp hn0]
  exact sendAll_ok (Int.ediv_nonneg hv0 (Int.natCast_nonneg _)) _ _
    (Int.le_trans (Int.mul_ediv_self_le hn0) hb)

/-- Otherwise `Reward` fails with the runtime as it found it, and pays
    nobody. -/
theorem reward_err {info : MessageInfo} {rt : Runtime State}
    (h : ¬(info.caller = rt.state.ipcGatewayAddr ∧ info.valueReceived ≠ 0 ∧ rt.state.validatorSet ≠ [])) :
    ∃ e, reward info rt = .err e rt := by
  simp only [reward, RtM.bind_ok _ (getState_apply rt)]
  by_cases hc : info.caller = rt.state.ipcGatewayAddr
  · by_cases hv : info.valueReceived = 0
    · simp [hc, hv, RtM.bind_apply]
    · have hn : rt.state.validatorSet = [] := by simpa [hc, hv] using h
      simp [hc, hv, hn, RtM.bind_apply]
  · simp [hc, RtM.bind_apply]

/-- What the call `c` to the subnet actor in state `st` pays `a`: the values
    of its sends to `a`. -/
def paidBy (st : State) (c : Call) (a : Address) : Int :=
  ((((invoke env receiver c.info c.method ⟨st, c.balance, []⟩).rt.sent).filter fun s => s.to = a).map
    Send.value).sum

/-- Paying `x` to each validator pays `a` once per entry it has. -/
theorem paid_map (vs : List Validator) (x : Int) (a : Address) :
    (((vs.map fun v => (⟨v.addr, .send, x⟩ : Send)).filter fun s => s.to = a).map Send.value).sum =
      ((vs.map Validator.addr).count a : Int) * x := by
  induction vs with
  | nil => simp
  | cons v vs ih =>
    by_cases h : v.addr = a
    · simp [List.filter_cons, h, ih, List.count_cons, Int.add_mul, Int.add_comm]
    · simp [List.filter_cons, h, ih, List.count_cons]

/-- **Rewards are shared fairly.**  On every run of a fresh subnet actor, a
    `Reward` call whose amount the balance covers pays each validator exactly
    one share of the amount divided by the number of validators, and pays
    nobody else anything; unless it comes from the gateway with a non-zero
    amount, it pays nobody. -/
theorem reward_shares (params : ConstructParams) (cs : List Call) (c : Call) (hm : c.method = .reward)
    (hb : c.info.valueReceived ≤ c.balance) (a : Address) :
    paidBy env receiver (runAlone env receiver (State.new params) cs).1 c a =
      if c.info.caller = (runAlone env receiver (State.new params) cs).1.ipcGatewayAddr ∧
          c.info.valueReceived ≠ 0 ∧
          a ∈ (runAlone env receiver (State.new params) cs).1.validatorSet.map Validator.addr then
        c.info.valueReceived / (runAlone env receiver (State.new params) cs).1.validatorSet.length
      else 0 := by
  have hbook := @runAlone_inv env receiver ValidatorBook
    (fun h hc => validatorBook_step env receiver h hc) (State.new params)
    ⟨List.nodup_nil, fun _ => .inr ⟨List.not_mem_nil _, rfl⟩⟩ cs
  generalize (runAlone env receiver (State.new params) cs).1 = st at hbook ⊢
  obtain ⟨info, m, b⟩ := c
  subst hm
  dsimp only at hb ⊢
  by_cases hpay : info.caller = st.ipcGatewayAddr ∧ info.valueReceived ≠ 0 ∧ st.validatorSet ≠ []
  · obtain ⟨hc, hv, hn⟩ := hpay
    simp only [paidBy, invoke, RtM.bind_ok _ (@reward_ok info ⟨st, b, []⟩ hc hv hn hb),
      RtM.pure_bind, RtM.pure_apply, Outcome.rt, List.nil_append, paid_map]
    by_cases ha : a ∈ st.validatorSet.map Validator.addr
    · rw [List.count_eq_one_of_mem hbook.nodup ha, if_pos ⟨hc, hv, ha⟩]; simp
    · rw [List.count_eq_zero_of_not_mem ha, if_neg fun h => ha h.2.2]; simp
  · obtain ⟨e, he⟩ := @reward_err info ⟨st, b, []⟩ hpay
    rw [if_neg fun h => hpay ⟨h.1, h.2.1, fun hn => by simp [hn] at h⟩]
    simp [paidBy, invoke, RtM.bind_err _ he]

/-- Validator `7` joins a subnet whose gateway is at address `1`; the gateway
    then rewards it with `3`. -/
def rewardRun : List Call := [⟨⟨7, true, 1, by decide, 0⟩, .join ⟨""⟩, 1⟩]

def rewardCall : Call := ⟨⟨1, false, 3, by decide, 0⟩, .reward, 3⟩

theorem reward_shares_demo :
    rewardCall.method = .reward ∧ rewardCall.info.valueReceived ≤ rewardCall.balance ∧
      paidBy demoEnv 5 (runAlone demoEnv 5 (State.new ⟨demoRoot, 10, 1⟩) rewardRun).1 rewardCall 7 = 3 :=
  ⟨rfl, by decide, (reward_shares demoEnv 5 ⟨demoRoot, 10, 1⟩ rewardRun rewardCall rfl (by decide) 7).trans rfl⟩

end Reward

end IpcActors.SubnetActor
