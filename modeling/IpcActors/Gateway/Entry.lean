/-
  IpcActors.Gateway.Entry

  What one call can do to a child's registry entry, and two consequences over
  runs (§3, §4.1, §4.3.2).

  `EntryMove own e e'` lists the moves a committed call makes on the entry of
  one child, from `e` to `e'`: it leaves the entry alone, or queues one
  top-down message onto it (`Fund`, `SendCross`, `Propagate`), or, only when
  `own` holds, that is when the caller is the child's own subnet actor, it
  registers the entry, moves its stake (`AddStake`, `ReleaseStake`), commits a
  checkpoint (the circulating supply and the previous checkpoint) or removes
  the entry (`Kill`).  `entryMove_step` proves it once, one case per
  transaction; both results below are read off it.

  `queue_in_order`: in every reachable gateway, each child's top-down queue
  holds the nonces `0, 1, …, n - 1` in order, `n` being the entry's
  `topdown_nonce` (§3: top-down enqueue assigns nonces in arrival order).
  `foreign_calls_only_queue`: on a run in which the child's own actor makes no
  call, its entry only has messages queued onto it; it stays registered or
  unregistered and keeps its stake, status and previous checkpoint.
-/
import IpcActors.Gateway.Funds
import Mathlib.Algebra.BigOperators.Group.List

namespace IpcActors.Gateway

/-! ## The moves of an entry -/

/-- What one committed call can do to the registry entry of a child.  The
    moves that take `own` are those of a call from the child's own subnet
    actor. -/
inductive EntryMove (min : Int) (own : Prop) : Option Subnet → Option Subnet → Prop
  | keep {e : Option Subnet} : EntryMove min own e e
  | push {sub : Subnet} (m : CrossMsg) : EntryMove min own (some sub) (some (sub.pushTopdownMsg m))
  | register {id : SubnetID} {v : Int} : own →
      EntryMove min own none (some ⟨id, v, [], 0, 0, statusOf min v, none⟩)
  | stake {sub : Subnet} (v : Int) : own → EntryMove min own (some sub) (some (sub.addStake min v))
  | checkpoint {sub : Subnet} (c : Int) (ch : Checkpoint) : own →
      EntryMove min own (some sub) (some { sub with circSupply := c, prevCheckpoint := some ch })
  | kill {sub : Subnet} : own → EntryMove min own (some sub) none

section Moves

variable {min : Int} {own : Prop}

theorem EntryMove.of_pushed {e e' : Option Subnet} (h : Pushed e e') : EntryMove min own e e' := by
  rcases h with rfl | ⟨sub, m, rfl, rfl⟩
  · exact .keep
  · exact .push m

/-- A write of the entry under `shid` moves the entry of `id` only if `id` is `shid`. -/
theorem entryMove_update {f : SubnetID → Option Subnet} {shid id : SubnetID} {o : Option Subnet}
    (h : shid = id → EntryMove min own (f id) o) :
    EntryMove min own (f id) (Function.update f shid o id) := by
  by_cases hid : shid = id
  · subst hid; rw [Function.update_same]; exact h rfl
  · rw [Function.update_noteq (Ne.symm hid)]; exact .keep

theorem entryMove_flushSubnet {st : State} {id : SubnetID} {sub : Subnet}
    (h : sub.id = id → EntryMove min own (st.subnets id) (some sub)) :
    EntryMove min own (st.subnets id) ((st.flushSubnet sub).subnets id) := by
  rw [(State.flushSubnet_fields st sub).1]
  exact entryMove_update h

end Moves

variable (env : Env)

/-- **What one call does to an entry.**  A committed call moves the entry of
    `id` by an `EntryMove`, whose own moves it makes only when its caller is
    the subnet actor of `id`. -/
theorem entryMove_step {info : MessageInfo} {m : Method} {st st' : State}
    (hc : Commits env info m st st') (hk : Keyed st) (id : SubnetID) :
    EntryMove env.minCollateralAmount (SubnetID.newFromParent st.networkName info.caller = id)
      (st.subnets id) (st'.subnets id) := by
  cases hc with
  | register hr =>
    obtain ⟨rfl, hnone, rfl⟩ := registerTx_eq_ok env info hr
    refine entryMove_flushSubnet fun h => ?_
    obtain rfl := h
    rw [hnone]
    exact .register rfl
  | addStake _ ha =>
    obtain ⟨sub, hs, rfl⟩ := addStakeTx_eq_ok env info ha
    refine entryMove_flushSubnet fun h => ?_
    obtain rfl := (hk _ _ hs).symm.trans h
    rw [hs]
    exact .stake _ rfl
  | releaseStake _ hr =>
    obtain ⟨sub, hs, -, -, rfl⟩ := releaseStakeTx_eq_ok env info hr
    refine entryMove_flushSubnet fun h => ?_
    obtain rfl := (hk _ _ hs).symm.trans h
    rw [hs]
    exact .stake _ rfl
  | kill hk' =>
    obtain ⟨sub, hs, -, -, rfl, -⟩ := killTx_eq_ok info hk'
    refine entryMove_update fun h => ?_
    obtain rfl := h
    rw [hs]
    exact .kill rfl
  | @commitChildCheck commit _ _ _ _ hcc =>
    obtain ⟨sub, st₁, sub₁, ch, hs, -, -, hb, -, rfl⟩ := commitChildCheckTx_eq_ok env info hcc
    have he : (st₁.flushCheckpoint ch).subnets = st.subnets :=
      (State.flushCheckpoint_fields st₁ ch).1.trans (commitBundle_frame hb).1
    have hsub := commitBundle_sub hb
    have hid : sub₁.id = sub.id := by rw [hsub]
    rw [← he]
    refine entryMove_flushSubnet fun h => ?_
    obtain rfl := (hk _ _ hs).symm.trans (hid.symm.trans h)
    rw [he, hs, hsub]
    exact .checkpoint _ commit rfl
  | fund hf =>
    obtain ⟨_, -, -, ht⟩ := fundTx_eq_ok info hf
    exact .of_pushed (pushed_commitTopdownMsg hk ht id)
  | release hr =>
    obtain ⟨_, -, -, -, rfl⟩ := releaseTx_eq_ok info hr
    exact .keep
  | sendCross hs => exact .of_pushed (pushed_commitCrossMessage hk (sendCrossTx_eq_ok info hs).2.2.2.2 id)
  | applyBottomup _ _ _ ha =>
    obtain ⟨-, rfl⟩ := applyBottomupTx_eq_ok ha
    exact .keep
  | applyTopdown _ _ _ _ ha => cases ha; exact .keep
  | park _ _ hp => cases hp; exact .keep
  | whitelist hw =>
    obtain ⟨_, _, -, -, -, rfl⟩ := whitelistPropagatorTx_eq_ok info hw
    exact .keep
  | propagate hp =>
    obtain ⟨_, _, -, -, -, -, -, hcm, rfl⟩ := propagateTx_eq_ok info hp
    exact .of_pushed (pushed_commitCrossMessage hk hcm id)

theorem keyed_reachable {Q : Call → Prop} {rt : Runtime State} (hr : Reachable env Q rt) :
    Keyed rt.state :=
  hr.inv env (fun _ _ _ h => by cases h) fun _ _ _ _ hk hc => keyed_step env hc hk

/-! ## Top-down nonces in arrival order -/

/-- The top-down queue of an entry holds the nonces `0, …, n - 1` in order,
    `n` being the nonce the next message will get. -/
def Subnet.QueueInOrder (sub : Subnet) : Prop :=
  sub.topDownMsgs.map (fun m => m.msg.nonce) = List.range sub.topdownNonce

theorem Subnet.QueueInOrder.pushTopdownMsg {sub : Subnet} (h : sub.QueueInOrder) (m : CrossMsg) :
    (sub.pushTopdownMsg m).QueueInOrder := by
  simp only [Subnet.QueueInOrder, Subnet.pushTopdownMsg, List.map_append, List.map_singleton,
    List.range_succ]
  exact congrArg (· ++ [sub.topdownNonce]) h

theorem EntryMove.queueInOrder {min : Int} {own : Prop} {e e' : Option Subnet}
    (hm : EntryMove min own e e') (h : ∀ sub, e = some sub → sub.QueueInOrder) :
    ∀ sub, e' = some sub → sub.QueueInOrder := by
  cases hm with
  | keep => exact h
  | push m => rintro _ ⟨⟩; exact (h _ rfl).pushTopdownMsg m
  | register _ => rintro _ ⟨⟩; rfl
  | @stake sub _ _ => rintro _ ⟨⟩; exact h sub rfl
  | @checkpoint sub _ _ _ => rintro _ ⟨⟩; exact h sub rfl
  | kill _ => rintro _ ⟨⟩

/-- **Top-down nonces in arrival order.**  In every reachable gateway, each
    child's top-down queue holds the nonces `0, 1, …, n - 1` in order, `n`
    being the nonce the next message queued for it will get. -/
theorem queue_in_order {Q : Call → Prop} {rt : Runtime State} (hr : Reachable env Q rt) :
    AllSubnets Subnet.QueueInOrder rt.state :=
  (hr.inv env (I := fun st => Keyed st ∧ AllSubnets Subnet.QueueInOrder st)
    (fun _ => ⟨fun _ _ h => (by cases h), fun _ _ h => (by cases h)⟩)
    fun _ _ _ _ h hc => ⟨keyed_step env hc h.1,
      fun id => (entryMove_step env hc h.1 id).queueInOrder (h.2 id)⟩).2

theorem queue_in_order_demo :
    Reachable demoEnv (fun _ => True) (run demoEnv demoRuntime demoFundCalls) ∧
      AllSubnets Subnet.QueueInOrder (run demoEnv demoRuntime demoFundCalls).state :=
  have hr := reachable_run demoEnv (.init _ rfl) fun _ _ => trivial
  ⟨hr, queue_in_order demoEnv hr⟩

/-! ## Only the child's own actor moves its entry -/

/-- `e'` is `e` with top-down messages queued onto it and nothing else
    changed: the same registration, stake, status and previous checkpoint,
    with the nonce and the circulating supply moved by the queued messages. -/
def QueuedOnto : Option Subnet → Option Subnet → Prop
  | none, e' => e' = none
  | some _, none => False
  | some sub, some sub' => ∃ ms : List CrossMsg,
      sub' = { sub with topDownMsgs := sub.topDownMsgs ++ ms,
                        topdownNonce := sub.topdownNonce + ms.length,
                        circSupply := sub.circSupply + (ms.map fun m => m.msg.value).sum }

theorem QueuedOnto.refl : ∀ e : Option Subnet, QueuedOnto e e
  | none => rfl
  | some sub => ⟨[], by cases sub; simp⟩

theorem QueuedOnto.trans : ∀ {e₁ e₂ e₃ : Option Subnet},
    QueuedOnto e₁ e₂ → QueuedOnto e₂ e₃ → QueuedOnto e₁ e₃
  | none, _, _, rfl, h => h
  | some _, none, _, h, _ => h.elim
  | some _, some _, none, _, h => h.elim
  | some _, some _, some _, ⟨ms, h₁⟩, ⟨ms', h₂⟩ =>
    ⟨ms ++ ms', by subst h₁ h₂; simp [Nat.add_assoc, Int.add_assoc, List.sum_append]⟩

/-- A move of a call from another actor only queues. -/
theorem EntryMove.queuedOnto {min : Int} {own : Prop} {e e' : Option Subnet}
    (hm : EntryMove min own e e') (hown : ¬ own) : QueuedOnto e e' := by
  cases hm with
  | keep => exact .refl _
  | @push sub m =>
    exact ⟨[{ m with msg := { m.msg with nonce := sub.topdownNonce } }], by simp [Subnet.pushTopdownMsg]⟩
  | register h => exact absurd h hown
  | stake _ h => exact absurd h hown
  | checkpoint _ _ h => exact absurd h hown
  | kill h => exact absurd h hown

theorem step_networkName (rt : Runtime State) (c : Call) :
    (step env rt c).rt.state.networkName = rt.state.networkName := by
  rcases step_commits env rt c with he | hc
  · rw [he]
  · exact Commits.networkName_eq env hc

theorem queuedOnto_run {rt : Runtime State} (hk : Keyed rt.state) (id : SubnetID) (cs : List Call)
    (hcs : ∀ c ∈ cs, SubnetID.newFromParent rt.state.networkName c.info.caller ≠ id) :
    QueuedOnto (rt.state.subnets id) ((run env rt cs).state.subnets id) := by
  induction cs generalizing rt with
  | nil => exact .refl _
  | cons c cs ih =>
    have hn := step_networkName env rt c
    have htail : ∀ c' ∈ cs,
        SubnetID.newFromParent (step env rt c).rt.state.networkName c'.info.caller ≠ id :=
      fun c' h => hn ▸ hcs c' (List.mem_cons_of_mem _ h)
    rcases step_commits env rt c with he | hc
    · have := ih (he ▸ hk) htail
      rwa [he] at this
    · exact ((entryMove_step env hc hk id).queuedOnto (hcs c (List.mem_cons_self _ _))).trans
        (ih (keyed_step env hc hk) htail)

/-- **Only the child's own actor moves its entry.**  On a run from a reachable
    gateway in which no call comes from the subnet actor of `id`, the entry of
    `id` only has top-down messages queued onto it: it is registered at the
    end exactly if it was at the start, with the same stake, status and
    previous checkpoint, and its nonce and circulating supply moved by the
    queued messages alone. -/
theorem foreign_calls_only_queue {Q : Call → Prop} {rt : Runtime State} (hr : Reachable env Q rt)
    (id : SubnetID) (cs : List Call)
    (hcs : ∀ c ∈ cs, SubnetID.newFromParent rt.state.networkName c.info.caller ≠ id) :
    QueuedOnto (rt.state.subnets id) ((run env rt cs).state.subnets id) :=
  queuedOnto_run env (keyed_reachable env hr) id cs hcs

theorem foreign_calls_only_queue_demo :
    Reachable demoEnv (fun _ => True) (run demoEnv demoRuntime (demoFundCalls.take 1)) ∧
      (∀ c ∈ demoFundCalls.drop 1, SubnetID.newFromParent
        (run demoEnv demoRuntime (demoFundCalls.take 1)).state.networkName c.info.caller ≠ demoChild) ∧
      QueuedOnto ((run demoEnv demoRuntime (demoFundCalls.take 1)).state.subnets demoChild)
        ((run demoEnv (run demoEnv demoRuntime (demoFundCalls.take 1)) (demoFundCalls.drop 1)).state.subnets
          demoChild) :=
  have hr := reachable_run demoEnv (.init _ rfl) fun _ _ => trivial
  have hcs : ∀ c ∈ demoFundCalls.drop 1, SubnetID.newFromParent
      (run demoEnv demoRuntime (demoFundCalls.take 1)).state.networkName c.info.caller ≠ demoChild := by
    decide
  ⟨hr, hcs, foreign_calls_only_queue demoEnv hr demoChild _ hcs⟩

end IpcActors.Gateway
