/-
  IpcActors.Gateway.Frame

  Properties of every registry entry and of every postbox item, and what the
  gateway's transactions leave alone.

  `AllSubnets P st` says that every entry of the registry satisfies `P`, and
  `AllItems P st` the same of the postbox.  Writing an entry that satisfies
  `P`, or removing one, keeps them; so does a top-down commit or a
  `commit_cross_message` whose updated entry keeps `P`.  The registry
  invariants (`IpcActors.Gateway.Registry`), the stake ledger and the postbox
  invariants are all proved through these lemmas, one case per transaction.

  No transaction renames the network: `Commits.networkName_eq`.
-/
import IpcActors.Gateway.Step

namespace IpcActors.Gateway

/-! ## Every registry entry -/

/-- Every entry of the registry satisfies `P`. -/
def AllSubnets (P : Subnet → Prop) (st : State) : Prop :=
  ∀ id sub, st.subnets id = some sub → P sub

section AllSubnets

variable {P : Subnet → Prop} {st st' : State}

theorem AllSubnets.of_subnets_eq (h : AllSubnets P st) (he : st'.subnets = st.subnets) :
    AllSubnets P st' :=
  fun id sub hs => h id sub (he ▸ hs)

theorem AllSubnets.flushSubnet (h : AllSubnets P st) {sub : Subnet} (hs : P sub) :
    AllSubnets P (st.flushSubnet sub) := by
  intro id s hs'
  simp only [State.flushSubnet_fields, Function.update_apply] at hs'
  split at hs'
  · cases hs'; exact hs
  · exact h id s hs'

theorem AllSubnets.rmSubnet (h : AllSubnets P st) (id : SubnetID) :
    AllSubnets P (st.rmSubnet id) := by
  intro id' s hs'
  simp only [State.rmSubnet_fields, Function.update_apply] at hs'
  split at hs'
  · cases hs'
  · exact h id' s hs'

/-- A top-down commit keeps a property that the updated entry keeps. -/
theorem AllSubnets.commitTopdownMsg (h : AllSubnets P st) {m : CrossMsg}
    (hp : ∀ sub, P sub → P (sub.pushTopdownMsg m)) (hc : st.commitTopdownMsg m = .ok st') :
    AllSubnets P st' := by
  obtain ⟨next, sub, -, hs, rfl⟩ := State.commitTopdownMsg_eq_ok hc
  exact h.flushSubnet (hp sub (h next sub hs))

/-- So does `commit_cross_message`, whichever way it routes the message. -/
theorem AllSubnets.commitCrossMessage (h : AllSubnets P st) {m : CrossMsg}
    (hp : ∀ sub, P sub → P (sub.pushTopdownMsg m)) {epoch fee f : Int} {b : Bool}
    (hc : commitCrossMessage epoch st m fee = .ok (st', b, f)) : AllSubnets P st' := by
  obtain ⟨-, ⟨-, ht, -⟩ | ⟨-, -, ht, -⟩ | ⟨-, -, rfl, -⟩⟩ := commitCrossMessage_eq_ok hc
  · exact (show AllSubnets P { st with appliedTopdownNonce := st.appliedTopdownNonce + 1 }
      from h).commitTopdownMsg hp ht
  · exact h.commitTopdownMsg hp ht
  · exact h.of_subnets_eq (State.commitBottomupMsg_fields ..).1

end AllSubnets

/-! ## Every postbox item -/

/-- Every item of the postbox satisfies `P`. -/
def AllItems (P : PostBoxItem → Prop) (st : State) : Prop :=
  ∀ cid item, st.postbox cid = some item → P item

section AllItems

variable {P : PostBoxItem → Prop} {st st' : State}

theorem AllItems.of_postbox_eq (h : AllItems P st) (he : st'.postbox = st.postbox) :
    AllItems P st' :=
  fun cid item hi => h cid item (he ▸ hi)

theorem AllItems.update (h : AllItems P st) {cid : Cid} {o : Option PostBoxItem}
    (ho : ∀ item, o = some item → P item)
    (he : st'.postbox = Function.update st.postbox cid o) : AllItems P st' := by
  intro cid' item hi
  rw [he, Function.update_apply] at hi
  split at hi
  · exact ho item hi
  · exact h cid' item hi

end AllItems

/-! ## What no transaction changes -/

variable (env : Env)

/-- No transaction changes the network's name. -/
theorem Commits.networkName_eq {info : MessageInfo} {m : Method} {st st' : State}
    (hc : Commits env info m st st') : st'.networkName = st.networkName := by
  cases hc with
  | register h =>
    obtain ⟨-, -, rfl⟩ := registerTx_eq_ok env info h
    rfl
  | addStake _ h =>
    obtain ⟨_, -, rfl⟩ := addStakeTx_eq_ok env info h
    rfl
  | releaseStake _ h =>
    obtain ⟨_, -, -, -, rfl⟩ := releaseStakeTx_eq_ok env info h
    rfl
  | kill h =>
    obtain ⟨_, -, -, -, rfl, -⟩ := killTx_eq_ok info h
    rfl
  | commitChildCheck _ h =>
    obtain ⟨_, _, _, _, -, -, -, hb, -, rfl⟩ := commitChildCheckTx_eq_ok env info h
    exact (commitBundle_frame hb).2.1
  | fund h =>
    obtain ⟨_, -, -, ht⟩ := fundTx_eq_ok info h
    exact (State.commitTopdownMsg_frame ht).1
  | release h =>
    obtain ⟨_, -, -, -, rfl⟩ := releaseTx_eq_ok info h
    rfl
  | sendCross h => exact (commitCrossMessage_frame (sendCrossTx_eq_ok info h).2.2.2.2).1
  | applyBottomup _ _ _ h =>
    obtain ⟨-, rfl⟩ := applyBottomupTx_eq_ok h
    rfl
  | applyTopdown _ _ _ _ h => cases h; rfl
  | park _ _ h => cases h; rfl
  | whitelist h =>
    obtain ⟨_, _, -, -, -, rfl⟩ := whitelistPropagatorTx_eq_ok info h
    rfl
  | propagate h =>
    obtain ⟨_, _, -, -, -, -, -, hc, rfl⟩ := propagateTx_eq_ok info h
    exact (commitCrossMessage_frame hc).1

end IpcActors.Gateway
