/-
  IpcActors.Joint.Protocol

  The protocol the subnet actor speaks with its gateway (§4.1, §4.4), as an
  automaton over the payloads it sends, and that the actor follows it.

  The actor is in one of three phases: before its `Register` (Instantiated),
  registered (Active or Inactive), and terminated (Terminating).  `Phase.next`
  says which payloads may go out in each phase and where each one leads.
  Before registration a `ReleaseStake` or a checkpoint may go out, `Register`
  leads to the registered phase and `Kill` to the terminated one; a
  registered actor sends `AddStake`, `ReleaseStake`, checkpoints and at last
  `Kill`; a terminated one still sends `AddStake` on a `Join`, and
  checkpoints, but never again `Register`, `ReleaseStake` or `Kill`.

  `phase_step` proves one call of the actor keeps to the automaton, one case
  per transaction of `src/subnet-actor/src/lib.rs`; the phase argument needs
  the stake book of `IpcActors.Joint.Ledger` and that an instantiated actor
  holds less than the minimum collateral, or nothing (`PhaseInv`).
  `payload_protocol`: on every run of a fresh actor, the payloads it sends are
  a word of the automaton that ends in the phase of the actor's status, the
  status never becomes `Killed`, and every payload goes to the gateway.  So
  `Register` and `Kill` each go out at most once (`register_kill_once`).
-/
import IpcActors.Joint.Ledger
import IpcActors.SubnetActor.Book

namespace IpcActors.Joint

open Gateway (Env MessageInfo demoEnv)
open SubnetActor (CrossActorPayload Commits State Status runAlone stepAlone_cases)

/-! ## The protocol -/

/-- The phase of the subnet actor in its protocol with the gateway. -/
inductive Phase
  | unregistered
  | registered
  | terminated
  deriving DecidableEq, Repr

namespace Phase

/-- The phase of a status of the subnet actor. -/
def ofStatus : Status → Phase
  | .Instantiated => .unregistered
  | .Active | .Inactive => .registered
  | .Terminating | .Killed => .terminated

/-- The payloads the actor may send the gateway in each phase, and the phase
    each one leads to. -/
def next : Phase → Gateway.Method → Option Phase
  | .unregistered, .register => some .registered
  | .unregistered, .kill => some .terminated
  | .unregistered, .releaseStake _ => some .unregistered
  | .unregistered, .commitChildCheckpoint _ => some .unregistered
  | .registered, .addStake => some .registered
  | .registered, .releaseStake _ => some .registered
  | .registered, .commitChildCheckpoint _ => some .registered
  | .registered, .kill => some .terminated
  | .terminated, .addStake => some .terminated
  | .terminated, .commitChildCheckpoint _ => some .terminated
  | _, _ => none

/-- The phase the payloads `ms` lead to from `p`, if the protocol allows each
    of them in turn. -/
def run : Phase → List Gateway.Method → Option Phase
  | p, [] => some p
  | p, m :: ms => (p.next m).bind fun q => q.run ms

/-- Whether the gateway takes a payload from a subnet in a phase: `Register`
    before registration, every payload of a registered subnet, nothing
    else. -/
def accepts : Phase → Gateway.Method → Bool
  | .unregistered, .register => true
  | .registered, _ => true
  | _, _ => false

/-- The phase the deliveries `ds` lead to from `p`, if the protocol allows
    each payload in turn and the gateway answers each as `accepts` says. -/
def runDeliveries : Phase → List Delivery → Option Phase
  | p, [] => some p
  | p, d :: ds =>
    if d.accepted = p.accepts d.method then (p.next d.method).bind fun q => q.runDeliveries ds
    else none

theorem run_append (p : Phase) (ms ms' : List Gateway.Method) :
    p.run (ms ++ ms') = (p.run ms).bind fun q => q.run ms' := by
  induction ms generalizing p with
  | nil => rfl
  | cons m ms ih => cases h : p.next m <;> simp [run, h, ih]

@[simp] theorem run_single (p : Phase) (m : Gateway.Method) : p.run [m] = p.next m := by
  simp [run]

theorem runDeliveries_append (p : Phase) (ds ds' : List Delivery) :
    p.runDeliveries (ds ++ ds') = (p.runDeliveries ds).bind fun q => q.runDeliveries ds' := by
  induction ds generalizing p with
  | nil => rfl
  | cons d ds ih =>
    simp only [List.cons_append, runDeliveries]
    split
    · cases h : p.next d.method <;> simp [h, ih]
    · rfl

/-- A payload the protocol allows, answered as it says. -/
theorem runDeliveries_single {p q : Phase} {m : Gateway.Method} (h : p.run [m] = some q) {b : Bool}
    (hb : b = p.accepts m) : p.runDeliveries [⟨m, b⟩] = some q := by
  rw [run_single] at h
  simp [runDeliveries, hb, h]

/-- Outside the registered phase the gateway takes only `Register`. -/
theorem accepts_of_ne {p : Phase} {m : Gateway.Method} (hp : p ≠ .registered) (hm : m ≠ .register) :
    p.accepts m = false := by
  cases p <;> cases m <;> first | rfl | exact absurd rfl hp | exact absurd rfl hm

theorem next_commit (p : Phase) (ch : Gateway.Checkpoint) :
    p.next (.commitChildCheckpoint ch) = some p := by
  cases p <;> rfl

theorem next_addStake {p : Phase} (h : p ≠ .unregistered) : p.next .addStake = some p := by
  cases p <;> first | rfl | exact absurd rfl h

theorem next_releaseStake {p : Phase} (h : p ≠ .terminated) (v : Gateway.FundParams) :
    p.next (.releaseStake v) = some p := by
  cases p <;> first | rfl | exact absurd rfl h

theorem next_kill {p : Phase} (h : p ≠ .terminated) : p.next .kill = some .terminated := by
  cases p <;> first | rfl | exact absurd rfl h

theorem ofStatus_eq_unregistered {s : Status} : ofStatus s = .unregistered ↔ s = .Instantiated := by
  cases s <;> simp [ofStatus]

theorem ofStatus_eq_registered {s : Status} :
    ofStatus s = .registered ↔ s = .Active ∨ s = .Inactive := by
  cases s <;> simp [ofStatus]

theorem ofStatus_eq_terminated {s : Status} (hk : s ≠ .Killed) :
    ofStatus s = .terminated ↔ s = .Terminating := by
  cases s <;> simp_all [ofStatus]

/-- How many `Register`s the automaton still allows from a phase. -/
def registersLeft : Phase → Nat
  | .unregistered => 1
  | _ => 0

/-- How many `Kill`s the automaton still allows from a phase. -/
def killsLeft : Phase → Nat
  | .terminated => 0
  | _ => 1

theorem next_left {p q : Phase} {m : Gateway.Method} (h : p.next m = some q) :
    q.registersLeft + (if m = .register then 1 else 0) ≤ p.registersLeft ∧
      q.killsLeft + (if m = .kill then 1 else 0) ≤ p.killsLeft := by
  cases p <;> cases m <;> cases h <;> simp [registersLeft, killsLeft]

/-- A word of the automaton holds at most the `Register`s and `Kill`s its
    first phase allows. -/
theorem run_count {p q : Phase} {ms : List Gateway.Method} (h : p.run ms = some q) :
    ms.count .register ≤ p.registersLeft ∧ ms.count .kill ≤ p.killsLeft := by
  induction ms generalizing p with
  | nil => simp
  | cons m ms ih =>
    obtain ⟨p', hp', hr⟩ := Option.bind_eq_some.1 h
    have hl := next_left hp'
    have ih' := ih hr
    simp only [List.count_cons, beq_iff_eq]
    omega

end Phase

/-! ## The subnet actor keeps to it -/

section Status

variable {min : Int} {st : State}

/-- Past instantiation, `mutate_state` keeps the phase. -/
theorem phase_mutateState (h : st.status ≠ .Instantiated) :
    Phase.ofStatus (st.mutateState min).status = Phase.ofStatus st.status := by
  rw [State.mutateState_status]
  cases hs : st.status <;> simp only [hs] at h ⊢ <;> (try split) <;> first | rfl | exact absurd rfl h

/-- `mutate_state` leaves the actor instantiated only below the minimum
    collateral. -/
theorem mutateState_eq_instantiated :
    (st.mutateState min).status = .Instantiated ↔ st.status = .Instantiated ∧ st.totalStake < min := by
  rw [State.mutateState_status]
  cases st.status <;> simp only [] <;> (try split) <;> simp <;> omega

theorem mutateState_ne_killed (h : st.status ≠ .Killed) : (st.mutateState min).status ≠ .Killed := by
  rw [State.mutateState_status]
  cases hs : st.status <;> simp only [hs] at h ⊢ <;> (try split) <;> simp_all

end Status

/-- What the phase argument needs of the actor's state: the stake book, an
    instantiated actor below the minimum collateral or without stake, no
    `Killed` status, and the gateway's address. -/
structure PhaseInv (min : Int) (gw : Address) (st : State) : Prop where
  total_eq : st.totalStake = st.stake.sum
  nonneg : st.stake.Nonneg
  instantiated : st.status = .Instantiated → st.totalStake < min ∨ st.totalStake = 0
  not_killed : st.status ≠ .Killed
  gateway : st.ipcGatewayAddr = gw

theorem phaseInv_new (params : SubnetActor.ConstructParams) (min : Int) :
    PhaseInv min params.ipcGatewayAddr (State.new params) :=
  ⟨rfl, fun _ h => (by cases h), fun _ => .inr rfl, nofun, rfl⟩

section Step

variable {env : Env} {receiver : Address} {info : MessageInfo} {m : SubnetActor.Method}
  {st st' : State} {msg : Option CrossActorPayload}

/-- Every payload goes to the gateway the actor was built with, which no call
    changes. -/
theorem gateway_step (hc : Commits env receiver info m st st' msg) :
    st'.ipcGatewayAddr = st.ipcGatewayAddr ∧ ∀ p ∈ msg, p.to = st.ipcGatewayAddr := by
  cases hc with
  | join _ ht =>
    obtain ⟨rfl, rfl⟩ := SubnetActor.joinTx_eq_ok env info ht
    refine ⟨by simp, fun p hp => ?_⟩
    split_ifs at hp <;> cases hp <;> rfl
  | leave ht =>
    obtain ⟨s, -, -, rfl, rfl⟩ := SubnetActor.leaveTx_eq_ok env info ht
    refine ⟨by simp, fun p hp => ?_⟩
    split_ifs at hp <;> cases hp
    rfl
  | kill ht =>
    obtain ⟨-, -, -, -, rfl, rfl⟩ := SubnetActor.killTx_eq_ok env ht
    exact ⟨rfl, fun p hp => by cases hp; rfl⟩
  | submitCheckpoint _ _ ht =>
    obtain ⟨-, ⟨-, rfl, rfl⟩ | ⟨-, rfl, rfl⟩⟩ := SubnetActor.submitCheckpointTx_eq_ok env info ht
    · exact ⟨by split <;> rfl, fun p hp => by cases hp; rfl⟩
    · exact ⟨rfl, nofun⟩

/-- **One call keeps to the protocol.**  A committed call keeps an instantiated
    actor below the minimum collateral, or without stake, and the status off
    `Killed`; its payload, if any, is one the automaton allows in the phase of
    the status it found, and leads to the phase of the status it commits. -/
theorem status_step (hc : Commits env receiver info m st st' msg)
    (ht : st.totalStake = st.stake.sum) (hn : st.stake.Nonneg)
    (hi : st.status = .Instantiated → st.totalStake < env.minCollateralAmount ∨ st.totalStake = 0)
    (hk : st.status ≠ .Killed) :
    (st'.status = .Instantiated → st'.totalStake < env.minCollateralAmount ∨ st'.totalStake = 0) ∧
      st'.status ≠ .Killed ∧
      (Phase.ofStatus st.status).run (msg.toList.map CrossActorPayload.method) =
        some (Phase.ofStatus st'.status) := by
  cases hc with
  | @join params _ _ _ _ hj =>
    obtain ⟨rfl, rfl⟩ := SubnetActor.joinTx_eq_ok env info hj
    refine ⟨fun h => .inl (by simpa using (mutateState_eq_instantiated.1 h).2), mutateState_ne_killed hk, ?_⟩
    by_cases hI : st.status = .Instantiated
    · have hs : (st.addStake info.caller params.validatorNetAddr info.valueReceived).status =
          .Instantiated := by rw [(State.addStake_fields ..).1, hI]
      rw [if_pos hI, hI]
      split_ifs with hmin
      · rw [State.mutateState_status, hs, (State.addStake_stake ..).1, if_pos hmin]; rfl
      · rw [mutateState_eq_instantiated.2 ⟨hs, by rw [(State.addStake_stake ..).1]; omega⟩]; rfl
    · rw [if_neg hI, phase_mutateState (by simpa using hI), (State.addStake_fields ..).1]
      exact (Phase.run_single _ _).trans (Phase.next_addStake (mt Phase.ofStatus_eq_unregistered.1 hI))
  | leave hl =>
    obtain ⟨s, hs, hs0, rfl, rfl⟩ := SubnetActor.leaveTx_eq_ok env info hl
    refine ⟨fun h => .inl (by simpa using (mutateState_eq_instantiated.1 h).2), mutateState_ne_killed hk, ?_⟩
    by_cases hT : st.status = .Terminating
    · rw [if_neg (not_not.2 hT), Option.toList_none, List.map_nil, phase_mutateState (by simp [hT]),
        (State.rmStake_fields ..).1]
      rfl
    · rw [if_pos hT]
      by_cases hI : st.status = .Instantiated
      · have hsn := hn.get_nonneg hs
        have hle := hn.get_le_sum hs
        have hlt : st.totalStake - s < env.minCollateralAmount := by
          rcases hi hI with h | h <;> omega
        rw [(mutateState_eq_instantiated.2 ⟨by simpa using hI, by simpa using hlt⟩), hI]
        rfl
      · rw [phase_mutateState (by simpa using hI), (State.rmStake_fields ..).1]
        exact (Phase.run_single _ _).trans
          (Phase.next_releaseStake (mt (Phase.ofStatus_eq_terminated hk).1 hT) _)
  | kill hk' =>
    obtain ⟨hT, -, -, -, rfl, rfl⟩ := SubnetActor.killTx_eq_ok env hk'
    exact ⟨nofun, nofun,
      (Phase.run_single _ _).trans (Phase.next_kill (mt (Phase.ofStatus_eq_terminated hk).1 hT))⟩
  | submitCheckpoint _ _ hs =>
    obtain ⟨-, ⟨-, rfl, rfl⟩ | ⟨-, rfl, rfl⟩⟩ := SubnetActor.submitCheckpointTx_eq_ok env info hs
    · split <;> exact ⟨hi, hk, (Phase.run_single _ _).trans (Phase.next_commit _ _)⟩
    · exact ⟨hi, hk, rfl⟩

/-- One committed call keeps `PhaseInv`, keeps to the automaton and sends its
    payload, if any, to the gateway. -/
theorem phase_step {gw : Address} (hc : Commits env receiver info m st st' msg)
    (h : PhaseInv env.minCollateralAmount gw st) :
    PhaseInv env.minCollateralAmount gw st' ∧
      (Phase.ofStatus st.status).run (msg.toList.map CrossActorPayload.method) =
        some (Phase.ofStatus st'.status) ∧ ∀ p ∈ msg, p.to = gw := by
  obtain ⟨ht', hn'⟩ := stakeBook_step hc h.total_eq h.nonneg
  obtain ⟨hi', hk', hrun⟩ := status_step hc h.total_eq h.nonneg h.instantiated h.not_killed
  obtain ⟨hg', hto⟩ := gateway_step hc
  exact ⟨⟨ht', hn', hi', hk', hg'.trans h.gateway⟩, hrun, fun p hp => (hto p hp).trans h.gateway⟩

end Step

/-! ## Runs -/

section Run

variable (env : Env) (receiver : Address)

/-- Over a run from a state that meets `PhaseInv`, the payloads sent make a
    word of the automaton from the phase of the first status to that of the
    last, and each goes to the gateway. -/
theorem phase_run {gw : Address} {st : State} (h : PhaseInv env.minCollateralAmount gw st)
    (cs : List SubnetActor.Call) :
    PhaseInv env.minCollateralAmount gw (runAlone env receiver st cs).1 ∧
      (Phase.ofStatus st.status).run ((runAlone env receiver st cs).2.map CrossActorPayload.method) =
        some (Phase.ofStatus (runAlone env receiver st cs).1.status) ∧
      ∀ p ∈ (runAlone env receiver st cs).2, p.to = gw := by
  induction cs generalizing st with
  | nil => exact ⟨h, rfl, nofun⟩
  | cons c cs ih =>
    rcases stepAlone_cases env receiver st c with he | ⟨st', msg, hc, he⟩
    · simpa only [runAlone, he, Option.toList_none, List.nil_append] using ih h
    · obtain ⟨h', hrun, hto⟩ := phase_step hc h
      obtain ⟨h'', hrun', hto'⟩ := ih h'
      simp only [runAlone, he, List.map_append, Phase.run_append, hrun, Option.some_bind]
      refine ⟨h'', hrun', fun p hp => ?_⟩
      rcases List.mem_append.1 hp with hp | hp
      · exact hto p (Option.mem_toList.1 hp)
      · exact hto' p hp

/-- **The protocol of a subnet actor.**  On every run of a fresh subnet actor,
    the payloads it sends are a word of the protocol automaton from the
    unregistered phase, ending in the phase of the actor's status; the status
    is never `Killed`; and every payload goes to the gateway it was built
    with. -/
theorem payload_protocol (params : SubnetActor.ConstructParams) (cs : List SubnetActor.Call) :
    Phase.unregistered.run ((runAlone env receiver (State.new params) cs).2.map CrossActorPayload.method) =
        some (Phase.ofStatus (runAlone env receiver (State.new params) cs).1.status) ∧
      (runAlone env receiver (State.new params) cs).1.status ≠ .Killed ∧
      ∀ p ∈ (runAlone env receiver (State.new params) cs).2, p.to = params.ipcGatewayAddr :=
  let ⟨h, hrun, hto⟩ := phase_run env receiver (phaseInv_new params env.minCollateralAmount) cs
  ⟨hrun, h.not_killed, hto⟩

/-- **`Register` and `Kill` go out at most once.**  On every run of a fresh
    subnet actor, it asks the gateway to register the subnet at most once, and
    to kill it at most once. -/
theorem register_kill_once (params : SubnetActor.ConstructParams) (cs : List SubnetActor.Call) :
    ((runAlone env receiver (State.new params) cs).2.map CrossActorPayload.method).count .register ≤ 1 ∧
      ((runAlone env receiver (State.new params) cs).2.map CrossActorPayload.method).count .kill ≤ 1 :=
  Phase.run_count (phase_run env receiver (phaseInv_new params env.minCollateralAmount) cs).2.1

end Run

/-! ## The gateway answers as the protocol says -/

section Joint

variable (env : Env) (receiver : Address)

/-- **One staking call keeps the pair to the protocol.**  From a state of the
    ledger whose status is not `Killed`, the delivery a Join, a Leave or a
    Kill makes is one the automaton allows in the phase of the subnet actor's
    status, the gateway answers it as `Phase.accepts` says, and it leads to
    the phase of the status the subnet actor ends in. -/
theorem delivery_step {sys : System} {ds : List Delivery} {received : Int}
    (hJ : Ledger env receiver sys ds received) (hk : sys.sa.state.status ≠ .Killed)
    {c : Call} (hc : c.isStaking = true) :
    (step env receiver sys c).1.sa.state.status ≠ .Killed ∧
      (Phase.ofStatus sys.sa.state.status).runDeliveries (step env receiver sys c).2.toList =
        some (Phase.ofStatus (step env receiver sys c).1.sa.state.status) := by
  have phase : ∀ {st' msg}, Commits env receiver c.info c.method sys.sa.state st' msg →
      st'.status ≠ .Killed ∧ (Phase.ofStatus sys.sa.state.status).run
        (msg.toList.map CrossActorPayload.method) = some (Phase.ofStatus st'.status) :=
    fun hcm => (status_step hcm hJ.total_eq hJ.nonneg (fun h => (hJ.instantiated h).2) hk).2
  -- the subnet is in the registered phase exactly while the gateway has its entry
  have hreg : (sys.entry receiver).isSome ↔ Phase.ofStatus sys.sa.state.status = .registered :=
    hJ.registered_iff.trans Phase.ofStatus_eq_registered.symm
  have hnone : sys.entry receiver = none → Phase.ofStatus sys.sa.state.status ≠ .registered :=
    fun he h => by rw [← hreg, he] at h; cases h
  have hsome : ∀ {sub}, sys.entry receiver = some sub → Phase.ofStatus sys.sa.state.status = .registered :=
    fun he => hreg.1 (by rw [he]; rfl)
  have hs := stakingStep hJ hc
  generalize step env receiver sys c = r at hs ⊢
  cases hs with
  | fail => exact ⟨hk, rfl⟩
  | joinRegister _ hst _ _ hcm =>
    obtain ⟨hk', hrun⟩ := phase hcm
    exact ⟨hk', Phase.runDeliveries_single hrun (by rw [hst]; rfl)⟩
  | joinBelow _ _ _ hcm => exact phase hcm
  | joinAddStake _ _ he hcm =>
    obtain ⟨hk', hrun⟩ := phase hcm
    exact ⟨hk', Phase.runDeliveries_single hrun (by rw [hsome he]; rfl)⟩
  | joinRefused _ _ he hcm =>
    obtain ⟨hk', hrun⟩ := phase hcm
    exact ⟨hk', Phase.runDeliveries_single hrun (@Phase.accepts_of_ne _ .addStake (hnone he) nofun).symm⟩
  | leaveRegistered _ _ _ _ he hcm =>
    obtain ⟨hk', hrun⟩ := phase hcm
    exact ⟨hk', Phase.runDeliveries_single hrun (by rw [hsome he]; rfl)⟩
  | @leaveRefused s _ _ _ _ he hcm =>
    obtain ⟨hk', hrun⟩ := phase hcm
    exact ⟨hk', Phase.runDeliveries_single hrun
      (@Phase.accepts_of_ne _ (.releaseStake ⟨s⟩) (hnone he) nofun).symm⟩
  | leaveTerminating _ _ _ _ hcm => exact phase hcm
  | killRegistered _ _ _ he hcm =>
    obtain ⟨hk', hrun⟩ := phase hcm
    exact ⟨hk', Phase.runDeliveries_single hrun (by rw [hsome he]; rfl)⟩
  | killRefused _ _ _ he hcm =>
    obtain ⟨hk', hrun⟩ := phase hcm
    exact ⟨hk', Phase.runDeliveries_single hrun (@Phase.accepts_of_ne _ .kill (hnone he) nofun).symm⟩

/-- **The pair follows the protocol.**  On every run of Join, Leave and Kill
    calls from a fresh subnet actor and a fresh gateway, the deliveries to the
    gateway are a word of the protocol automaton from the unregistered phase,
    ending in the phase of the subnet actor's status, and the gateway answers
    each as the protocol says: it takes the `Register`, every payload of the
    registered subnet, and nothing before the `Register` or after the
    `Kill`. -/
theorem gateway_follows_protocol (params : SubnetActor.ConstructParams)
    (gparams : Gateway.ConstructorParams) (cs : List Call) (hcs : ∀ c ∈ cs, c.isStaking = true) :
    Phase.unregistered.runDeliveries (run env receiver (fresh params gparams) cs).2 =
      some (Phase.ofStatus (run env receiver (fresh params gparams) cs).1.sa.state.status) := by
  suffices h : (run env receiver (fresh params gparams) cs).1.sa.state.status ≠ .Killed ∧
      Phase.unregistered.runDeliveries (run env receiver (fresh params gparams) cs).2 =
        some (Phase.ofStatus (run env receiver (fresh params gparams) cs).1.sa.state.status) from h.2
  induction cs using List.reverseRecOn with
  | nil => exact ⟨nofun, rfl⟩
  | append_singleton cs c ih =>
    have hcs' : ∀ c' ∈ cs, c'.isStaking = true := fun c' h => hcs c' (List.mem_append_left _ h)
    obtain ⟨hk, hrun⟩ := ih hcs'
    obtain ⟨hk', hd⟩ := delivery_step env receiver (ledger_run env receiver params gparams cs hcs') hk
      (hcs c (List.mem_append_right _ (List.mem_singleton_self c)))
    rw [run_snoc, Phase.runDeliveries_append, hrun]
    exact ⟨hk', hd⟩

end Joint

/-- A Kill of the fresh subnet, which the gateway refuses as it does not know
    it, then a Join of `7` with the minimum collateral: the terminated subnet
    sends the stake on as `AddStake`, which the gateway refuses too. -/
def protocolCalls : List Call :=
  [⟨⟨7, true, 0, by decide, 0⟩, .kill⟩, ⟨⟨7, true, 1, by decide, 0⟩, .join ⟨""⟩⟩]

theorem gateway_follows_protocol_demo :
    (∀ c ∈ protocolCalls, c.isStaking = true) ∧
      Phase.unregistered.runDeliveries (run demoEnv 5 (fresh demoParams demoGatewayParams) protocolCalls).2 =
        some (Phase.ofStatus (run demoEnv 5 (fresh demoParams demoGatewayParams) protocolCalls).1.sa.state.status) :=
  ⟨by decide, gateway_follows_protocol demoEnv 5 demoParams demoGatewayParams protocolCalls (by decide)⟩

example : (run demoEnv 5 (fresh demoParams demoGatewayParams) protocolCalls).2 =
    [⟨.kill, false⟩, ⟨.addStake, false⟩] := by
  rfl

end IpcActors.Joint
