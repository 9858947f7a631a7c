/-
  IpcActors.Joint.Ledger

  The stake ledger of the subnet actor and its gateway over runs of Join,
  Leave and Kill (§4.1, §4.4).

  `Ledger` is the invariant of such runs from a fresh pair.  It ties the two
  books together: `total_stake` is the sum of the stake table; the gateway
  has an entry for the subnet exactly while the subnet actor is Active or
  Inactive, that is after a Register it accepted and before a Kill it
  accepted, and the entry holds `total_stake`; every token brought to the
  subnet actor is in its balance or in the gateway's stake, and the gateway
  holds exactly that stake.  `stakingStep` classifies what one staking call
  does to the pair, one constructor of `StakingStep` per outcome of
  `IpcActors.Joint.Step`; `ledger_step` proves the ledger kept in each case,
  and `ledger_run` over the run by induction.

  Two results follow.  `registry_agreement`: the two books agree.  And
  `Ledger.leaveOutcome`: a Leave takes the validator's stake out of the books,
  but the refund the gateway makes goes to the subnet actor, which has no
  method that passes it on; no validator ever receives a token, and the subnet
  actor's balance holds every stake withdrawn (`leftStake_stranded`).
-/
import IpcActors.Joint.Step

namespace IpcActors.Joint

open Gateway (Env MessageInfo demoEnv demoRoot)
open SubnetActor (CrossActorPayload Commits)

variable (env : Env) (receiver : Address)

/-- The stake the gateway holds for the subnet: that of its entry, if any. -/
def System.gwStake (sys : System) : Int := ((sys.entry receiver).map Gateway.Subnet.stake).getD 0

/-! ## The stake book of the subnet actor -/

section StakeBook

variable {env receiver} {info : MessageInfo} {m : SubnetActor.Method} {st st' : SubnetActor.State}
  {msg : Option CrossActorPayload}

theorem getD_getStake_nonneg (hn : st.stake.Nonneg) (a : Address) : 0 ≤ (st.getStake a).getD 0 := by
  cases h : st.getStake a with
  | none => exact Int.le_refl 0
  | some s => exact hn.get_nonneg h

/-- **The stake book.**  Every committed call keeps `total_stake` the sum of
    the stake table, and every stake non-negative (§3). -/
theorem stakeBook_step (hc : Commits env receiver info m st st' msg)
    (ht : st.totalStake = st.stake.sum) (hn : st.stake.Nonneg) :
    st'.totalStake = st'.stake.sum ∧ st'.stake.Nonneg := by
  have hv := info.valueReceived_nonneg
  cases hc with
  | join _ h =>
    obtain ⟨rfl, -⟩ := SubnetActor.joinTx_eq_ok env info h
    have := getD_getStake_nonneg hn info.caller
    simp only [SubnetActor.State.getStake] at this
    simp only [SubnetActor.State.mutateState_fields, SubnetActor.State.addStake_stake,
      SubnetActor.StakeTable.sum_set, SubnetActor.State.getStake]
    exact ⟨by omega, hn.set _ (by omega)⟩
  | leave h =>
    obtain ⟨s, hs, -, rfl, -⟩ := SubnetActor.leaveTx_eq_ok env info h
    simp only [SubnetActor.State.getStake] at hs
    simp only [SubnetActor.State.mutateState_fields, SubnetActor.State.rmStake_stake,
      SubnetActor.StakeTable.sum_set, SubnetActor.State.getStake, hs, Option.getD_some]
    exact ⟨by omega, hn.set _ (by omega)⟩
  | kill h =>
    obtain ⟨-, -, -, -, rfl, -⟩ := SubnetActor.killTx_eq_ok env h
    exact ⟨ht, hn⟩
  | submitCheckpoint _ _ h =>
    obtain ⟨-, ⟨-, rfl, -⟩ | ⟨-, rfl, -⟩⟩ := SubnetActor.submitCheckpointTx_eq_ok env info h
    · split <;> exact ⟨ht, hn⟩
    · exact ⟨ht, hn⟩

@[simp] theorem totalStake_join (st : SubnetActor.State) (a : Address) (net : String) (v min : Int) :
    ((st.addStake a net v).mutateState min).totalStake = st.totalStake + v := by
  simp only [SubnetActor.State.mutateState_fields, SubnetActor.State.addStake_stake]

@[simp] theorem totalStake_leave (st : SubnetActor.State) (a : Address) (s min : Int) :
    ((st.rmStake a s).mutateState min).totalStake = st.totalStake - s := by
  simp only [SubnetActor.State.mutateState_fields, SubnetActor.State.rmStake_stake]

end StakeBook

/-! ## The ledger of the pair -/

/-- The ledger of the subnet actor and its gateway, after staking calls that
    brought the value `received` and made the deliveries `ds`. -/
structure Ledger (sys : System) (ds : List Delivery) (received : Int) : Prop where
  /-- `total_stake` is the sum of the stake table, whose stakes are non-negative. -/
  total_eq : sys.sa.state.totalStake = sys.sa.state.stake.sum
  nonneg : sys.sa.state.stake.Nonneg
  /-- The gateway knows the subnet exactly while the subnet actor is Active or
      Inactive, -/
  registered_iff : (sys.entry receiver).isSome ↔
    sys.sa.state.status = .Active ∨ sys.sa.state.status = .Inactive
  /-- that is, after a Register it accepted and before a Kill it accepted. -/
  history : (sys.entry receiver).isSome ↔ ⟨.register, true⟩ ∈ ds ∧ ⟨.kill, true⟩ ∉ ds
  /-- An instantiated subnet was never killed, and holds less than the
      minimum collateral, or nothing. -/
  instantiated : sys.sa.state.status = .Instantiated → ⟨.kill, true⟩ ∉ ds ∧
    (sys.sa.state.totalStake < env.minCollateralAmount ∨ sys.sa.state.totalStake = 0)
  /-- The entry sits under the subnet's id, holds the total stake and no
      circulating supply. -/
  entry : ∀ sub, sys.entry receiver = some sub →
    sub.id = sys.shid receiver ∧ sub.stake = sys.sa.state.totalStake ∧ sub.circSupply = 0
  /-- Without an entry, the subnet actor holds the stake itself. -/
  unregistered : sys.entry receiver = none → sys.sa.state.totalStake ≤ sys.sa.balance
  /-- Every token brought to the subnet actor is in its balance or in the
      gateway's stake, and the gateway holds exactly that stake. -/
  sa_balance : sys.sa.balance + sys.gwStake receiver = received
  gw_balance : sys.gw.balance = sys.gwStake receiver
  sa_nonneg : 0 ≤ sys.sa.balance
  /-- The subnet actor sends nothing of its own, and the gateway sends only to it. -/
  sa_sent : sys.sa.sent = []
  gw_sent : ∀ s ∈ sys.gw.sent, s.to = receiver

/-! ## The outcomes of a staking call -/

/-- **What a staking call does** to the pair: one constructor per outcome of
    `IpcActors.Joint.Step`, with the facts that decide it, the transaction the
    subnet actor commits, and the step the pair takes. -/
inductive StakingStep (sys : System) (c : Call) : System × Option Delivery → Prop
  /-- The subnet actor refuses the call and keeps only the value it brought. -/
  | fail :
      StakingStep sys c (⟨{ sys.sa with balance := sys.sa.balance + c.info.valueReceived }, sys.gw⟩, none)
  /-- A Join brings an instantiated subnet to the minimum collateral, and the
      gateway registers it with the whole stake. -/
  | joinRegister {net : String} (hm : c.method = .join ⟨net⟩) (hst : sys.sa.state.status = .Instantiated)
      (hmin : env.minCollateralAmount ≤ sys.sa.state.totalStake + c.info.valueReceived)
      (he : sys.entry receiver = none)
      (hcm : Commits env receiver c.info c.method sys.sa.state
        ((sys.sa.state.addStake c.info.caller net c.info.valueReceived).mutateState
          env.minCollateralAmount)
        (some ⟨sys.sa.state.ipcGatewayAddr, .register, sys.sa.state.totalStake + c.info.valueReceived⟩)) :
      StakingStep sys c
        (⟨{ sys.sa with
            state := (sys.sa.state.addStake c.info.caller net c.info.valueReceived).mutateState
              env.minCollateralAmount,
            balance := sys.sa.balance + c.info.valueReceived -
              (sys.sa.state.totalStake + c.info.valueReceived) },
          { sys.gw with
            state := sys.gw.state.registerSubnet env.minCollateralAmount (sys.shid receiver)
              (sys.sa.state.totalStake + c.info.valueReceived),
            balance := sys.gw.balance + (sys.sa.state.totalStake + c.info.valueReceived) }⟩,
          some ⟨.register, true⟩)
  /-- A Join leaves an instantiated subnet below the minimum collateral, and
      nothing is sent. -/
  | joinBelow {net : String} (hm : c.method = .join ⟨net⟩) (hst : sys.sa.state.status = .Instantiated)
      (hmin : sys.sa.state.totalStake + c.info.valueReceived < env.minCollateralAmount)
      (hcm : Commits env receiver c.info c.method sys.sa.state
        ((sys.sa.state.addStake c.info.caller net c.info.valueReceived).mutateState
          env.minCollateralAmount) none) :
      StakingStep sys c
        (⟨{ sys.sa with
            state := (sys.sa.state.addStake c.info.caller net c.info.valueReceived).mutateState
              env.minCollateralAmount,
            balance := sys.sa.balance + c.info.valueReceived }, sys.gw⟩, none)
  /-- A Join past instantiation sends its value as added stake, which the
      gateway takes for a subnet it knows -/
  | joinAddStake {net : String} {sub : Gateway.Subnet} (hm : c.method = .join ⟨net⟩)
      (hst : sys.sa.state.status ≠ .Instantiated) (he : sys.entry receiver = some sub)
      (hcm : Commits env receiver c.info c.method sys.sa.state
        ((sys.sa.state.addStake c.info.caller net c.info.valueReceived).mutateState
          env.minCollateralAmount)
        (some ⟨sys.sa.state.ipcGatewayAddr, .addStake, c.info.valueReceived⟩)) :
      StakingStep sys c
        (⟨{ sys.sa with
            state := (sys.sa.state.addStake c.info.caller net c.info.valueReceived).mutateState
              env.minCollateralAmount,
            balance := sys.sa.balance + c.info.valueReceived - c.info.valueReceived },
          { sys.gw with
            state := sys.gw.state.flushSubnet
              (sub.addStake env.minCollateralAmount c.info.valueReceived),
            balance := sys.gw.balance + c.info.valueReceived }⟩,
          some ⟨.addStake, true⟩)
  /-- and refuses for one it does not. -/
  | joinRefused {net : String} (hm : c.method = .join ⟨net⟩)
      (hst : sys.sa.state.status ≠ .Instantiated) (he : sys.entry receiver = none)
      (hcm : Commits env receiver c.info c.method sys.sa.state
        ((sys.sa.state.addStake c.info.caller net c.info.valueReceived).mutateState
          env.minCollateralAmount)
        (some ⟨sys.sa.state.ipcGatewayAddr, .addStake, c.info.valueReceived⟩)) :
      StakingStep sys c
        (⟨{ sys.sa with
            state := (sys.sa.state.addStake c.info.caller net c.info.valueReceived).mutateState
              env.minCollateralAmount,
            balance := sys.sa.balance + c.info.valueReceived }, sys.gw⟩,
          some ⟨.addStake, false⟩)
  /-- A Leave of the stake `s` from a subnet that is not terminating: the
      gateway releases `s` of a subnet it knows and sends it back -/
  | leaveRegistered {s : Int} {sub : Gateway.Subnet} (hm : c.method = .leave)
      (hs : sys.sa.state.getStake c.info.caller = some s) (hsp : 0 < s)
      (hT : sys.sa.state.status ≠ .Terminating) (he : sys.entry receiver = some sub)
      (hcm : Commits env receiver c.info c.method sys.sa.state
        ((sys.sa.state.rmStake c.info.caller s).mutateState env.minCollateralAmount)
        (some ⟨sys.sa.state.ipcGatewayAddr, .releaseStake ⟨s⟩, 0⟩)) :
      StakingStep sys c
        (⟨{ sys.sa with
            state := (sys.sa.state.rmStake c.info.caller s).mutateState env.minCollateralAmount,
            balance := sys.sa.balance + c.info.valueReceived + s },
          ⟨sys.gw.state.flushSubnet (sub.addStake env.minCollateralAmount (-s)), sys.gw.balance - s,
            sys.gw.sent ++ [⟨receiver, .send, s⟩]⟩⟩,
          some ⟨.releaseStake ⟨s⟩, true⟩)
  /-- and refuses the release for one it does not. -/
  | leaveRefused {s : Int} (hm : c.method = .leave)
      (hs : sys.sa.state.getStake c.info.caller = some s) (hsp : 0 < s)
      (hT : sys.sa.state.status ≠ .Terminating) (he : sys.entry receiver = none)
      (hcm : Commits env receiver c.info c.method sys.sa.state
        ((sys.sa.state.rmStake c.info.caller s).mutateState env.minCollateralAmount)
        (some ⟨sys.sa.state.ipcGatewayAddr, .releaseStake ⟨s⟩, 0⟩)) :
      StakingStep sys c
        (⟨{ sys.sa with
            state := (sys.sa.state.rmStake c.info.caller s).mutateState env.minCollateralAmount,
            balance := sys.sa.balance + c.info.valueReceived }, sys.gw⟩,
          some ⟨.releaseStake ⟨s⟩, false⟩)
  /-- A Leave from a terminating subnet sends nothing. -/
  | leaveTerminating {s : Int} (hm : c.method = .leave)
      (hs : sys.sa.state.getStake c.info.caller = some s) (hsp : 0 < s)
      (hT : sys.sa.state.status = .Terminating)
      (hcm : Commits env receiver c.info c.method sys.sa.state
        ((sys.sa.state.rmStake c.info.caller s).mutateState env.minCollateralAmount) none) :
      StakingStep sys c
        (⟨{ sys.sa with
            state := (sys.sa.state.rmStake c.info.caller s).mutateState env.minCollateralAmount,
            balance := sys.sa.balance + c.info.valueReceived }, sys.gw⟩, none)
  /-- A Kill with no stake and no funds left: the gateway drops a subnet it
      knows and sends its stake back -/
  | killRegistered {sub : Gateway.Subnet} (hm : c.method = .kill)
      (hb : sys.sa.balance + c.info.valueReceived = 0) (htot : sys.sa.state.totalStake = 0)
      (he : sys.entry receiver = some sub)
      (hcm : Commits env receiver c.info c.method sys.sa.state
        ({ sys.sa.state with status := .Terminating }.mutateState env.minCollateralAmount)
        (some ⟨sys.sa.state.ipcGatewayAddr, .kill, 0⟩)) :
      StakingStep sys c
        (⟨{ sys.sa with
            state := { sys.sa.state with status := .Terminating }.mutateState env.minCollateralAmount,
            balance := sys.sa.balance + c.info.valueReceived + sub.stake },
          ⟨sys.gw.state.rmSubnet (sys.shid receiver), sys.gw.balance - sub.stake,
            sys.gw.sent ++ [⟨receiver, .send, sub.stake⟩]⟩⟩,
          some ⟨.kill, true⟩)
  /-- and refuses the kill of one it does not. -/
  | killRefused (hm : c.method = .kill) (hb : sys.sa.balance + c.info.valueReceived = 0)
      (htot : sys.sa.state.totalStake = 0) (he : sys.entry receiver = none)
      (hcm : Commits env receiver c.info c.method sys.sa.state
        ({ sys.sa.state with status := .Terminating }.mutateState env.minCollateralAmount)
        (some ⟨sys.sa.state.ipcGatewayAddr, .kill, 0⟩)) :
      StakingStep sys c
        (⟨{ sys.sa with
            state := { sys.sa.state with status := .Terminating }.mutateState env.minCollateralAmount,
            balance := sys.sa.balance + c.info.valueReceived }, sys.gw⟩,
          some ⟨.kill, false⟩)

section Ledger

variable {env receiver} {sys : System} {ds : List Delivery} {received : Int}

theorem mem_append_refused {d : Option Delivery} (hd : ∀ x ∈ d, x.accepted = false)
    {x : Delivery} (hx : x.accepted = true) : x ∈ ds ++ d.toList ↔ x ∈ ds := by
  cases d with
  | none => simp
  | some y =>
    have : x ≠ y := fun h => by rw [h, hd y rfl] at hx; cases hx
    simp [this]

/-- A step that leaves the gateway as it was: the subnet actor commits `st'`
    and keeps the value `v` brought, and nothing the gateway accepted is
    recorded. -/
theorem Ledger.keep_gateway (hJ : Ledger env receiver sys ds received) {st' : SubnetActor.State}
    {v : Int} (hv : 0 ≤ v) {d : Option Delivery} (hd : ∀ x ∈ d, x.accepted = false)
    (hbook : st'.totalStake = st'.stake.sum ∧ st'.stake.Nonneg)
    (hreg : (st'.status = .Active ∨ st'.status = .Inactive) ↔
      (sys.sa.state.status = .Active ∨ sys.sa.state.status = .Inactive))
    (hinst : st'.status = .Instantiated → sys.sa.state.status = .Instantiated ∧
      (st'.totalStake < env.minCollateralAmount ∨ st'.totalStake = 0))
    (hunreg : sys.entry receiver = none → st'.totalStake ≤ sys.sa.balance + v)
    (hent : (sys.entry receiver).isSome → st'.totalStake = sys.sa.state.totalStake) :
    Ledger env receiver ⟨{ sys.sa with state := st', balance := sys.sa.balance + v }, sys.gw⟩
      (ds ++ d.toList) (received + v) where
  total_eq := hbook.1
  nonneg := hbook.2
  registered_iff := hJ.registered_iff.trans hreg.symm
  history := by
    rw [mem_append_refused hd rfl, mem_append_refused hd rfl]
    exact hJ.history
  instantiated h := by
    rw [mem_append_refused hd rfl]
    exact ⟨(hJ.instantiated (hinst h).1).1, (hinst h).2⟩
  entry sub h := by
    have h' : sys.entry receiver = some sub := h
    obtain ⟨h₁, h₂, h₃⟩ := hJ.entry sub h'
    exact ⟨h₁, h₂.trans (hent (by rw [h']; rfl)).symm, h₃⟩
  unregistered := hunreg
  sa_balance := by
    show sys.sa.balance + v + sys.gwStake receiver = received + v
    have := hJ.sa_balance
    omega
  gw_balance := hJ.gw_balance
  sa_nonneg := by have := hJ.sa_nonneg; dsimp only; omega
  sa_sent := hJ.sa_sent
  gw_sent := hJ.gw_sent

theorem gwStake_of_entry {sys : System} {sub : Gateway.Subnet} (h : sys.entry receiver = some sub) :
    sys.gwStake receiver = sub.stake := by
  simp only [System.gwStake, h, Option.map_some', Option.getD_some]

theorem gwStake_of_none {sys : System} (h : sys.entry receiver = none) : sys.gwStake receiver = 0 := by
  simp only [System.gwStake, h, Option.map_none', Option.getD_none]

theorem entry_flushSubnet {sa : Runtime SubnetActor.State} {gw : Runtime Gateway.State}
    {sub : Gateway.Subnet} (hid : sub.id = sys.shid receiver)
    (hst : gw.state = sys.gw.state.flushSubnet sub) :
    (⟨sa, gw⟩ : System).entry receiver = some sub := by
  simp only [System.entry, System.shid, hst, Gateway.State.flushSubnet_fields]
  rw [← System.shid, ← hid, Function.update_same]

theorem entry_rmSubnet {sa : Runtime SubnetActor.State} {gw : Runtime Gateway.State}
    (hst : gw.state = sys.gw.state.rmSubnet (sys.shid receiver)) :
    (⟨sa, gw⟩ : System).entry receiver = none := by
  simp only [System.entry, System.shid, hst, Gateway.State.rmSubnet_fields]
  rw [← System.shid, Function.update_same]

theorem mem_append_accepted {m m' : Gateway.Method} (h : m ≠ m') :
    (⟨m, true⟩ : Delivery) ∈ ds ++ [⟨m', true⟩] ↔ ⟨m, true⟩ ∈ ds := by
  simp [h]

/-- `mutate_state` keeps a registered subnet Active or Inactive. -/
theorem status_mutateState_registered {st : SubnetActor.State} (min : Int)
    (h : st.status = .Active ∨ st.status = .Inactive) :
    (st.mutateState min).status = .Active ∨ (st.mutateState min).status = .Inactive := by
  rw [SubnetActor.State.mutateState_status]
  rcases h with h | h <;> simp only [h] <;> split <;> simp

/-- Only a subnet the gateway knows is Active or Inactive. -/
theorem Ledger.entry_none (hJ : Ledger env receiver sys ds received)
    (h : ¬(sys.sa.state.status = .Active ∨ sys.sa.state.status = .Inactive)) :
    sys.entry receiver = none :=
  Option.not_isSome_iff_eq_none.1 fun hs => h (hJ.registered_iff.1 hs)

theorem Ledger.not_registered (hJ : Ledger env receiver sys ds received)
    (he : sys.entry receiver = none) :
    ¬(sys.sa.state.status = .Active ∨ sys.sa.state.status = .Inactive) :=
  fun h => by simpa [he] using hJ.registered_iff.2 h

theorem Ledger.gw_sent_append (hJ : Ledger env receiver sys ds received) (x : Int) :
    ∀ s ∈ sys.gw.sent ++ [⟨receiver, .send, x⟩], s.to = receiver := by
  intro s hs
  rcases List.mem_append.1 hs with hs | hs
  · exact hJ.gw_sent s hs
  · rw [List.mem_singleton.1 hs]

/-- Register, accepted from an instantiated subnet whose `total_stake` `T`
    reached the minimum collateral: the gateway takes all of it. -/
theorem Ledger.register (hJ : Ledger env receiver sys ds received) (hnone : sys.entry receiver = none)
    (hkill : ⟨.kill, true⟩ ∉ ds) {st' : SubnetActor.State}
    (hbook : st'.totalStake = st'.stake.sum ∧ st'.stake.Nonneg) (hst : st'.status = .Active)
    {T : Int} (htot : st'.totalStake = T) {gw : Runtime Gateway.State}
    (hgw : gw.state = sys.gw.state.registerSubnet env.minCollateralAmount (sys.shid receiver) T)
    (hgb : gw.balance = sys.gw.balance + T) (hsent : ∀ s ∈ gw.sent, s.to = receiver) {b v : Int}
    (hb : b + T = sys.sa.balance + v) (hb0 : 0 ≤ b) :
    Ledger env receiver ⟨{ sys.sa with state := st', balance := b }, gw⟩
      (ds ++ [⟨.register, true⟩]) (received + v) := by
  have he : System.entry receiver ⟨{ sys.sa with state := st', balance := b }, gw⟩ = some _ :=
    entry_flushSubnet (by rfl) hgw
  have hs := hJ.sa_balance
  have hg := hJ.gw_balance
  rw [gwStake_of_none hnone] at hs hg
  refine ⟨hbook.1, hbook.2, by simp [he, hst], by simp [he, hkill], fun h => ?_, fun sub h => ?_,
    fun h => ?_, ?_, ?_, hb0, hJ.sa_sent, hsent⟩
  · rw [hst] at h; cases h
  · rw [he] at h
    cases h
    simp [System.shid, hgw, Gateway.State.registerSubnet, htot]
  · rw [he] at h; cases h
  · rw [gwStake_of_entry he]; dsimp only; omega
  · rw [gwStake_of_entry he, hgb]; dsimp only; omega

/-- A stake change of `δ` the gateway accepted for a registered subnet, the
    subnet actor going to the state `st'` and the balance `b`: AddStake, and
    the ReleaseStake of a Leave. -/
theorem Ledger.restake (hJ : Ledger env receiver sys ds received) {sub : Gateway.Subnet}
    (hsub : sys.entry receiver = some sub) {m : Gateway.Method} (hm : m ≠ .register ∧ m ≠ .kill)
    {st' : SubnetActor.State} (hbook : st'.totalStake = st'.stake.sum ∧ st'.stake.Nonneg)
    (hst : st'.status = .Active ∨ st'.status = .Inactive) {δ : Int}
    (htot : st'.totalStake = sys.sa.state.totalStake + δ) {gw : Runtime Gateway.State}
    (hgw : gw.state = sys.gw.state.flushSubnet (sub.addStake env.minCollateralAmount δ))
    (hgb : gw.balance = sys.gw.balance + δ) (hsent : ∀ s ∈ gw.sent, s.to = receiver) {b v : Int}
    (hb : b + δ = sys.sa.balance + v) (hb0 : 0 ≤ b) :
    Ledger env receiver ⟨{ sys.sa with state := st', balance := b }, gw⟩ (ds ++ [⟨m, true⟩])
      (received + v) := by
  obtain ⟨hid, hstake, hcirc⟩ := hJ.entry sub hsub
  have he : System.entry receiver ⟨{ sys.sa with state := st', balance := b }, gw⟩ =
      some (sub.addStake env.minCollateralAmount δ) :=
    entry_flushSubnet ((Gateway.Subnet.addStake_fields _ _ _).1.trans hid) hgw
  have hs := hJ.sa_balance
  have hg := hJ.gw_balance
  have hh := hJ.history
  rw [gwStake_of_entry hsub] at hs hg
  rw [hsub] at hh
  refine ⟨hbook.1, hbook.2, by simpa [he] using hst, ?_, fun h => ?_, fun sub' h => ?_,
    fun h => ?_, ?_, ?_, hb0, hJ.sa_sent, hsent⟩
  · rw [he, mem_append_accepted (Ne.symm hm.1), mem_append_accepted (Ne.symm hm.2)]
    exact hh
  · rcases hst with h' | h' <;> rw [h'] at h <;> cases h
  · rw [he] at h
    cases h
    simp only [System.shid, hgw, Gateway.State.flushSubnet_fields,
      Gateway.Subnet.addStake_fields] at hid ⊢
    exact ⟨hid, by omega, hcirc⟩
  · rw [he] at h; cases h
  · rw [gwStake_of_entry he]; simp only [Gateway.Subnet.addStake_fields]; omega
  · rw [gwStake_of_entry he, hgb]; simp only [Gateway.Subnet.addStake_fields]; omega

/-- Kill, accepted for a registered subnet with no stake left: the gateway
    drops the entry and sends its stake back. -/
theorem Ledger.kill (hJ : Ledger env receiver sys ds received) {sub : Gateway.Subnet}
    (hsub : sys.entry receiver = some sub) {st' : SubnetActor.State}
    (hbook : st'.totalStake = st'.stake.sum ∧ st'.stake.Nonneg) (hst : st'.status = .Terminating)
    (htot : st'.totalStake = 0) {gw : Runtime Gateway.State}
    (hgw : gw.state = sys.gw.state.rmSubnet (sys.shid receiver))
    (hgb : gw.balance = sys.gw.balance - sub.stake) (hsent : ∀ s ∈ gw.sent, s.to = receiver)
    {b v : Int} (hb : b = sys.sa.balance + v + sub.stake) (hb0 : 0 ≤ b) :
    Ledger env receiver ⟨{ sys.sa with state := st', balance := b }, gw⟩
      (ds ++ [⟨.kill, true⟩]) (received + v) := by
  have he : System.entry receiver ⟨{ sys.sa with state := st', balance := b }, gw⟩ = none :=
    entry_rmSubnet hgw
  have hs := hJ.sa_balance
  have hg := hJ.gw_balance
  rw [gwStake_of_entry hsub] at hs hg
  refine ⟨hbook.1, hbook.2, by simp [he, hst], by simp [he], fun h => ?_, fun _ h => ?_,
    fun _ => ?_, ?_, ?_, hb0, hJ.sa_sent, hsent⟩
  · rw [hst] at h; cases h
  · rw [he] at h; cases h
  · dsimp only; omega
  · rw [gwStake_of_none he]; dsimp only; omega
  · rw [gwStake_of_none he, hgb]; omega

/-- Without an entry at the gateway and past instantiation, `mutate_state`
    leaves the status as it is. -/
theorem status_mutateState_unregistered {st : SubnetActor.State} (min : Int)
    (h₁ : st.status ≠ .Instantiated) (h₂ : ¬(st.status = .Active ∨ st.status = .Inactive)) :
    (st.mutateState min).status = st.status := by
  rw [SubnetActor.State.mutateState_status]
  cases hs : st.status <;> simp_all

/-- **The outcome of a staking call.**  From a pair whose ledger holds, every
    Join, Leave or Kill takes one of the steps `StakingStep` lists. -/
theorem stakingStep (hJ : Ledger env receiver sys ds received) {c : Call} (hc : c.isStaking = true) :
    StakingStep env receiver sys c (step env receiver sys c) := by
  have hb := hJ.sa_nonneg
  rcases step_staking hc with he | ⟨st', msg, hcm, -⟩
  · rw [he]; exact .fail
  obtain ⟨info, m⟩ := c
  have hcm' := hcm
  cases hcm with
  | @join params _ _ _ hv0 ht =>
    obtain ⟨rfl, rfl⟩ := SubnetActor.joinTx_eq_ok env info ht
    by_cases hst : sys.sa.state.status = .Instantiated
    · have hnone := hJ.entry_none (by simp [hst])
      rw [if_pos hst] at hcm'
      by_cases hmin : env.minCollateralAmount ≤ sys.sa.state.totalStake + info.valueReceived
      · rw [if_pos hmin] at hcm'
        rw [step_join_register rfl hv0 hst hmin (hJ.total_eq ▸ hJ.nonneg.sum_nonneg)
          (hJ.unregistered hnone) hnone]
        exact .joinRegister rfl hst hmin hnone hcm'
      · rw [if_neg hmin] at hcm'
        rw [step_join_below rfl hv0 hst (Int.not_le.1 hmin)]
        exact .joinBelow rfl hst (Int.not_le.1 hmin) hcm'
    · rw [if_neg hst] at hcm'
      cases he : sys.entry receiver with
      | none =>
        rw [step_join_refused rfl hv0 hst hb he]
        exact .joinRefused rfl hst he hcm'
      | some sub =>
        rw [step_join_addStake rfl hv0 hst hb he]
        exact .joinAddStake rfl hst he hcm'
  | leave ht =>
    obtain ⟨s, hs, hs0, rfl, rfl⟩ := SubnetActor.leaveTx_eq_ok env info ht
    have hsp : 0 < s := lt_of_le_of_ne (hJ.nonneg.get_nonneg hs) (Ne.symm hs0)
    by_cases hT : sys.sa.state.status = .Terminating
    · rw [if_neg (not_not.2 hT)] at hcm'
      rw [step_leave_terminating rfl hs hs0 hT]
      exact .leaveTerminating rfl hs hsp hT hcm'
    · rw [if_pos hT] at hcm'
      cases he : sys.entry receiver with
      | none =>
        rw [step_leave_refused rfl hs hsp hT hb he]
        exact .leaveRefused rfl hs hsp hT he hcm'
      | some sub =>
        obtain ⟨-, hstake, -⟩ := hJ.entry sub he
        have hg := hJ.gw_balance
        rw [gwStake_of_entry he] at hg
        have hsle : s ≤ sys.sa.state.totalStake := hJ.total_eq ▸ hJ.nonneg.get_le_sum hs
        rw [step_leave_registered rfl hs hsp hT hb he (by omega) (by omega)]
        exact .leaveRegistered rfl hs hsp hT he hcm'
  | kill ht =>
    obtain ⟨hT, hK, hvs, htot, rfl, rfl⟩ := SubnetActor.killTx_eq_ok env ht
    by_cases hb0 : sys.sa.balance + info.valueReceived = 0
    · cases he : sys.entry receiver with
      | none =>
        rw [step_kill_refused rfl hb0 hT hK hvs htot he]
        exact .killRefused rfl hb0 htot he hcm'
      | some sub =>
        obtain ⟨-, hstake, hcirc⟩ := hJ.entry sub he
        have hg := hJ.gw_balance
        rw [gwStake_of_entry he] at hg
        rw [step_kill_registered rfl hb0 hT hK hvs htot he (by omega) (by omega) (by omega)]
        exact .killRegistered rfl hb0 htot he hcm'
    · rw [step_kill_funded rfl hb0]
      exact .fail
  | submitCheckpoint => cases hc

/-- **One staking call keeps the ledger.** -/
theorem ledger_step (hJ : Ledger env receiver sys ds received) {c : Call} (hc : c.isStaking = true) :
    Ledger env receiver (step env receiver sys c).1 (ds ++ (step env receiver sys c).2.toList)
      (received + c.info.valueReceived) := by
  have hv := c.info.valueReceived_nonneg
  have hb := hJ.sa_nonneg
  have book : ∀ {st' msg}, Commits env receiver c.info c.method sys.sa.state st' msg →
      st'.totalStake = st'.stake.sum ∧ st'.stake.Nonneg :=
    fun hcm => stakeBook_step hcm hJ.total_eq hJ.nonneg
  have hs := stakingStep hJ hc
  generalize step env receiver sys c = r at hs ⊢
  cases hs with
  | fail =>
    exact hJ.keep_gateway hv nofun ⟨hJ.total_eq, hJ.nonneg⟩ Iff.rfl
      (fun h => ⟨h, (hJ.instantiated h).2⟩) (fun h => by have := hJ.unregistered h; omega)
      fun _ => rfl
  | joinRegister _ hst hmin he hcm =>
    have hu := hJ.unregistered he
    exact hJ.register he (hJ.instantiated hst).1 (book hcm)
      (by simp [SubnetActor.State.mutateState_status, hst, hmin]) (totalStake_join ..) (by rfl)
      (by rfl) (by exact hJ.gw_sent) (by omega) (by omega)
  | joinBelow _ hst hmin hcm =>
    have hnone := hJ.entry_none (by simp [hst])
    have hu := hJ.unregistered hnone
    exact hJ.keep_gateway hv nofun (book hcm)
      (by simp [SubnetActor.State.mutateState_status, hst, Int.not_le.2 hmin])
      (fun _ => ⟨hst, .inl (by simpa using hmin)⟩) (fun _ => by simp; omega)
      fun h => by rw [hnone] at h; cases h
  | joinAddStake _ hst he hcm =>
    exact hJ.restake he (by constructor <;> nofun) (book hcm) (status_mutateState_registered _
      (by simpa using hJ.registered_iff.1 (by rw [he]; rfl))) (totalStake_join ..) (by rfl) (by rfl)
      (by exact hJ.gw_sent) (by omega) (by omega)
  | @joinRefused net _ hst he hcm =>
    have hst' := @status_mutateState_unregistered
      (sys.sa.state.addStake c.info.caller net c.info.valueReceived)
      env.minCollateralAmount (by simpa using hst) (by simpa using hJ.not_registered he)
    simp only [SubnetActor.State.addStake_fields] at hst'
    have hu := hJ.unregistered he
    exact hJ.keep_gateway hv (by simp) (book hcm) (by rw [hst']) (fun h => absurd (hst' ▸ h) hst)
      (fun _ => by simp; omega) fun h => by rw [he] at h; cases h
  | @leaveRegistered s _ _ hs hsp hT he hcm =>
    have hsle : s ≤ sys.sa.state.totalStake := hJ.total_eq ▸ hJ.nonneg.get_le_sum hs
    exact hJ.restake he (by constructor <;> nofun) (book hcm) (status_mutateState_registered _
      (by simpa using hJ.registered_iff.1 (by rw [he]; rfl)))
      ((totalStake_leave ..).trans (Int.sub_eq_add_neg ..)) (by rfl)
      (by exact Int.sub_eq_add_neg ..) (by exact hJ.gw_sent_append _) (by omega) (by omega)
  | @leaveRefused s _ hs hsp hT he hcm =>
    have hsle : s ≤ sys.sa.state.totalStake := hJ.total_eq ▸ hJ.nonneg.get_le_sum hs
    -- an instantiated subnet stays below the minimum collateral
    have hlt : sys.sa.state.status = .Instantiated →
        sys.sa.state.totalStake - s < env.minCollateralAmount := fun h => by
      rcases (hJ.instantiated h).2 with h' | h' <;> omega
    have hst' : ((sys.sa.state.rmStake c.info.caller s).mutateState
        env.minCollateralAmount).status = sys.sa.state.status := by
      by_cases hI : sys.sa.state.status = .Instantiated
      · have := hlt hI
        simp only [SubnetActor.State.mutateState_status, SubnetActor.State.rmStake_fields,
          SubnetActor.State.rmStake_stake, hI]
        rw [if_neg (Int.not_le.2 this)]
      · exact (@status_mutateState_unregistered
          (sys.sa.state.rmStake c.info.caller s) env.minCollateralAmount (by simpa using hI)
          (by simpa using hJ.not_registered he)).trans (by simp)
    have hu := hJ.unregistered he
    exact hJ.keep_gateway hv (by simp) (book hcm) (by rw [hst'])
      (fun h => ⟨hst' ▸ h, .inl (by simpa using hlt (hst' ▸ h))⟩) (fun _ => by simp; omega)
      fun h => by rw [he] at h; cases h
  | @leaveTerminating s _ hs hsp hT hcm =>
    have hsle : s ≤ sys.sa.state.totalStake := hJ.total_eq ▸ hJ.nonneg.get_le_sum hs
    have hnone := hJ.entry_none (by simp [hT])
    have hu := hJ.unregistered hnone
    exact hJ.keep_gateway hv nofun (book hcm) (by simp [SubnetActor.State.mutateState_status, hT])
      (fun h => by simp [SubnetActor.State.mutateState_status, hT] at h) (fun _ => by simp; omega)
      fun h => by rw [hnone] at h; cases h
  | killRegistered _ hb0 htot he hcm =>
    obtain ⟨-, hstake, -⟩ := hJ.entry _ he
    have hg := hJ.gw_balance
    rw [gwStake_of_entry he] at hg
    exact hJ.kill he (book hcm) (by simp [SubnetActor.State.mutateState_status])
      (by simpa using htot) (by rfl) (by rfl) (by exact hJ.gw_sent_append _) (by rfl) (by omega)
  | killRefused _ hb0 htot he hcm =>
    exact hJ.keep_gateway hv (by simp) (book hcm)
      (by simp [SubnetActor.State.mutateState_status, hJ.not_registered he])
      (fun h => by simp [SubnetActor.State.mutateState_status] at h) (fun _ => by simp; omega)
      fun h => by rw [he] at h; cases h

end Ledger

/-! ## Runs -/

/-- A fresh pair starts with an empty ledger. -/
theorem ledger_fresh (params : SubnetActor.ConstructParams) (gparams : Gateway.ConstructorParams) :
    Ledger env receiver (fresh params gparams) [] 0 where
  total_eq := rfl
  nonneg := nofun
  registered_iff := by simp [System.entry, fresh, Gateway.State.new, SubnetActor.State.new]
  history := by simp [System.entry, fresh, Gateway.State.new]
  instantiated _ := ⟨nofun, .inr rfl⟩
  entry _ h := by cases h
  unregistered _ := Int.le_refl 0
  sa_balance := rfl
  gw_balance := rfl
  sa_nonneg := Int.le_refl 0
  sa_sent := rfl
  gw_sent := nofun

/-- **The ledger holds on every run of staking calls from a fresh pair.** -/
theorem ledger_run (params : SubnetActor.ConstructParams) (gparams : Gateway.ConstructorParams)
    (cs : List Call) (hcs : ∀ c ∈ cs, c.isStaking = true) :
    Ledger env receiver (run env receiver (fresh params gparams) cs).1
      (run env receiver (fresh params gparams) cs).2 (cs.map fun c => c.info.valueReceived).sum := by
  induction cs using List.reverseRecOn with
  | nil => exact ledger_fresh env receiver params gparams
  | append_singleton cs c ih =>
    rw [run_snoc, List.map_append, List.sum_append, List.map_singleton, List.sum_singleton]
    exact ledger_step (ih fun c' h => hcs c' (List.mem_append_left _ h))
      (hcs c (List.mem_append_right _ (List.mem_singleton_self c)))

/-! ## The two books agree -/

/-- The subnet actor's stake ledger and the gateway's registry agree. -/
structure RegistryAgreement (sys : System) (ds : List Delivery) : Prop where
  /-- `total_stake` is the sum of the stake table. -/
  total_eq : sys.sa.state.totalStake = sys.sa.state.stake.sum
  /-- The gateway has an entry for the subnet exactly when the subnet actor
      has sent a Register the gateway accepted and no Kill it accepted. -/
  registered_iff : (sys.entry receiver).isSome ↔ ⟨.register, true⟩ ∈ ds ∧ ⟨.kill, true⟩ ∉ ds
  /-- While the entry exists, its stake is `total_stake`. -/
  stake_eq : ∀ sub, sys.entry receiver = some sub → sub.stake = sys.sa.state.totalStake

/-- **The stake ledger and the registry agree** on every run of Join, Leave
    and Kill from a fresh pair. -/
theorem registry_agreement (params : SubnetActor.ConstructParams)
    (gparams : Gateway.ConstructorParams) (cs : List Call) (hcs : ∀ c ∈ cs, c.isStaking = true) :
    RegistryAgreement receiver (run env receiver (fresh params gparams) cs).1
      (run env receiver (fresh params gparams) cs).2 :=
  have h := ledger_run env receiver params gparams cs hcs
  ⟨h.total_eq, h.history, fun sub hs => (h.entry sub hs).2.1⟩

/-- The subnet actor `5` under the root `/0`, with its gateway at address `1`. -/
def demoParams : SubnetActor.ConstructParams := ⟨demoRoot, 10, 1⟩

/-- The gateway of the root `/0`. -/
def demoGatewayParams : Gateway.ConstructorParams := ⟨demoRoot, 10⟩

/-- Validator `7` joins with the minimum collateral, which registers the
    subnet, validator `8` adds stake, and `7` leaves. -/
def stakingCalls : List Call :=
  [⟨⟨7, true, 1, by decide, 0⟩, .join ⟨""⟩⟩, ⟨⟨8, true, 2, by decide, 0⟩, .join ⟨""⟩⟩,
   ⟨⟨7, true, 0, by decide, 0⟩, .leave⟩]

theorem registry_agreement_demo :
    (∀ c ∈ stakingCalls, c.isStaking = true) ∧
      RegistryAgreement 5 (run demoEnv 5 (fresh demoParams demoGatewayParams) stakingCalls).1
        (run demoEnv 5 (fresh demoParams demoGatewayParams) stakingCalls).2 :=
  ⟨by decide, registry_agreement demoEnv 5 demoParams demoGatewayParams stakingCalls (by decide)⟩

/-! ## Custody of the stake -/

/-- What a Leave by the caller of `c`, whose stake is `s`, does to the pair. -/
structure LeaveOutcome (sys : System) (c : Call) (s : Int) : Prop where
  /-- The Leave commits: the caller's stake is set to zero, it leaves the
      validator set, and `total_stake` drops by `s`. -/
  commits : (step env receiver sys c).1.sa.state =
    (sys.sa.state.rmStake c.info.caller s).mutateState env.minCollateralAmount
  /-- The caller receives nothing. -/
  unpaid : (step env receiver sys c).1.paidTo c.info.caller = sys.paidTo c.info.caller
  /-- If the gateway knows the subnet, it accepts the release and sends `s`
      to the subnet actor, whose balance grows by `s`; -/
  refunded : (sys.entry receiver).isSome →
    (step env receiver sys c).2 = some ⟨.releaseStake ⟨s⟩, true⟩ ∧
      (step env receiver sys c).1.sa.balance = sys.sa.balance + c.info.valueReceived + s
  /-- otherwise it refuses, and the subnet actor keeps the `s` tokens it holds. -/
  refused : sys.entry receiver = none →
    (step env receiver sys c).2 = some ⟨.releaseStake ⟨s⟩, false⟩ ∧
      (step env receiver sys c).1.sa.balance = sys.sa.balance + c.info.valueReceived

/-- Where the validators' stake is on a run of staking calls that brought the
    value `received`. -/
structure StakeCustody (sys : System) (received : Int) : Prop where
  /-- A Leave by a validator other than the subnet actor, with a positive
      stake, while the subnet is not terminating. -/
  leave : ∀ (c : Call) (s : Int), c.method = .leave → c.info.caller ≠ receiver →
    sys.sa.state.getStake c.info.caller = some s → 0 < s → sys.sa.state.status ≠ .Terminating →
    LeaveOutcome env receiver sys c s
  /-- No one but the subnet actor has received a token. -/
  unpaid : ∀ v, v ≠ receiver → sys.paidTo v = 0
  /-- The subnet actor's balance holds every token brought to it but the
      gateway's stake for the subnet. -/
  held : sys.sa.balance = received - sys.gwStake receiver

section Custody

variable {env receiver} {sys : System} {ds : List Delivery} {received : Int}

theorem Ledger.leaveOutcome (hJ : Ledger env receiver sys ds received) {c : Call} {s : Int}
    (hm : c.method = .leave) (hne : c.info.caller ≠ receiver)
    (hs : sys.sa.state.getStake c.info.caller = some s) (hsp : 0 < s)
    (hT : sys.sa.state.status ≠ .Terminating) : LeaveOutcome env receiver sys c s := by
  have hsle : s ≤ sys.sa.state.totalStake := hJ.total_eq ▸ hJ.nonneg.get_le_sum hs
  cases he : sys.entry receiver with
  | none =>
    have h := @step_leave_refused env receiver sys c hm s hs hsp hT hJ.sa_nonneg he
    exact ⟨by rw [h], by rw [h]; rfl, fun h' => by simp [he] at h', fun _ => by rw [h]; exact ⟨rfl, rfl⟩⟩
  | some sub =>
    obtain ⟨-, hstake, -⟩ := hJ.entry sub he
    have hg := hJ.gw_balance
    rw [gwStake_of_entry he] at hg
    have h := @step_leave_registered env receiver sys c hm s hs hsp hT hJ.sa_nonneg sub he
      (by omega) (by omega)
    refine ⟨by rw [h], ?_, fun _ => by rw [h]; exact ⟨rfl, rfl⟩, fun h' => nomatch he.symm.trans h'⟩
    rw [h]
    simp [System.paidTo, Ne.symm hne]

theorem Ledger.paidTo_eq_zero (hJ : Ledger env receiver sys ds received) {v : Address}
    (hv : v ≠ receiver) : sys.paidTo v = 0 := by
  have h : (sys.sa.sent ++ sys.gw.sent).filter (fun s => decide (s.to = v)) = [] := by
    rw [hJ.sa_sent, List.nil_append, List.filter_eq_nil_iff]
    intro s hs
    simp [hJ.gw_sent s hs, Ne.symm hv]
  simp only [System.paidTo, h, List.map_nil, List.sum_nil]

end Custody

/-- Validator `7` joins with the minimum collateral, which registers the
    subnet, and leaves. -/
def leaveCalls : List Call :=
  [⟨⟨7, true, 1, by decide, 0⟩, .join ⟨""⟩⟩, ⟨⟨7, true, 0, by decide, 0⟩, .leave⟩]

/-- Actor `7` asks the subnet actor to kill the subnet. -/
def strandedKill : Call := ⟨⟨7, true, 0, by decide, 0⟩, .kill⟩

/-- **The stake a validator leaves with stays in the subnet actor.**  The
    gateway accepts both calls and sends the stake of `1` that `7` held back to
    the subnet actor, which keeps it: `7` receives nothing, and the subnet
    actor's balance, now `1`, makes it refuse every `Kill` until it is
    withdrawn, which no method does. -/
theorem leftStake_stranded :
    (run demoEnv 5 (fresh demoParams demoGatewayParams) (leaveCalls.take 1)).1.sa.state.getStake 7 =
        some 1 ∧
      (run demoEnv 5 (fresh demoParams demoGatewayParams) leaveCalls).2 =
        [⟨.register, true⟩, ⟨.releaseStake ⟨1⟩, true⟩] ∧
      (run demoEnv 5 (fresh demoParams demoGatewayParams) leaveCalls).1.paidTo 7 = 0 ∧
      (run demoEnv 5 (fresh demoParams demoGatewayParams) leaveCalls).1.sa.balance = 1 ∧
      (SubnetActor.invoke demoEnv 5 strandedKill.info strandedKill.method
          (run demoEnv 5 (fresh demoParams demoGatewayParams) leaveCalls).1.sa).error? =
        some ⟨.illegalState, "the subnet has non-zero balance: \x7b:\x7d"⟩ := by
  decide

end IpcActors.Joint
