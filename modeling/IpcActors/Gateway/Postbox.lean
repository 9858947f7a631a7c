/-
  IpcActors.Gateway.Postbox

  The postbox (§4.3.5) as a state machine of its own.  Every gateway
  transaction moves the postbox in one of four ways (`PostboxMove`): it leaves
  it alone, `ApplyMessage` parks a message under the content hash of the item
  it builds, `WhiteListPropagator` appends addresses to the owners of an item
  an owner calls it for, or `Propagate` removes an item its caller may
  propagate.  `Commits.postboxMove` says that every transaction refines one of
  these moves; the rest of the module reasons about the moves only.

  On every run from a fresh gateway, with a collision-free content hash:
  every item has an owner list, which is exactly the parked message's sender
  followed by the addresses that the `WhiteListPropagator` calls which passed
  since the item was last parked appended (`addedOwners`, from the step lemma
  `owners_step`), each call made by a member at the time (`Delegated`);
  `Propagate` only succeeds for an owner and removes the item; and no other
  operation removes an item or replaces its cross-message
  (`postbox_authorization`).

  Since `Propagate` removes what it forwards, a parked message is forwarded
  at most once: on every run, from any state, the `Propagate` calls that pass
  under a key are no more than the messages parked under it, plus the item
  that was there at the start (`postbox_forwards_once`).
-/
import IpcActors.Gateway.Frame
import Mathlib.Logic.Equiv.List

namespace IpcActors.Gateway

variable (env : Env)

/-! ## The moves of the postbox -/

/-- The item `ApplyMessage` parks for a message passing through: the message,
    owned by its sender. -/
def parkedItem (crossMsg : CrossMsg) : PostBoxItem :=
  ⟨crossMsg, some [crossMsg.msg.from.rawAddr]⟩

/-- What one call of `m` by `info.caller` can do to the postbox of `st`. -/
inductive PostboxMove (info : MessageInfo) (st : State) :
    Method → (Cid → Option PostBoxItem) → Prop
  | frame {m : Method} : (∀ p, m ≠ .propagate p) → PostboxMove info st m st.postbox
  | park {p : ApplyMsgParams} :
      info.caller = systemActorAddr → p.crossMsg.msg.to.subnet ≠ st.networkName →
      PostboxMove info st (.applyMessage p)
        (Function.update st.postbox (env.postboxCid (parkedItem p.crossMsg))
          (some (parkedItem p.crossMsg)))
  | whitelist {p : WhitelistPropagatorParams} {item : PostBoxItem} {owners : List Address} :
      st.postbox p.postboxCid = some item → item.owners = some owners → info.caller ∈ owners →
      PostboxMove info st (.whiteListPropagator p)
        (Function.update st.postbox p.postboxCid
          (some { item with owners := some (owners ++ p.toAdd) }))
  | propagate {p : PropagateParams} {item : PostBoxItem} :
      st.postbox p.postboxCid = some item →
      (∀ owners, item.owners = some owners → info.caller ∈ owners) →
      PostboxMove info st (.propagate p) (Function.update st.postbox p.postboxCid none)

/-- **Every transaction refines a postbox move.** -/
theorem Commits.postboxMove {info : MessageInfo} {m : Method} {st st' : State}
    (hc : Commits env info m st st') : PostboxMove env info st m st'.postbox := by
  cases hc with
  | register h =>
    obtain ⟨-, -, rfl⟩ := registerTx_eq_ok env info h
    exact .frame nofun
  | addStake _ h =>
    obtain ⟨_, -, rfl⟩ := addStakeTx_eq_ok env info h
    exact .frame nofun
  | releaseStake _ h =>
    obtain ⟨_, -, -, -, rfl⟩ := releaseStakeTx_eq_ok env info h
    exact .frame nofun
  | kill h =>
    obtain ⟨_, -, -, -, rfl, -⟩ := killTx_eq_ok info h
    exact .frame nofun
  | commitChildCheck _ h =>
    obtain ⟨_, _, _, _, -, -, -, hb, -, rfl⟩ := commitChildCheckTx_eq_ok env info h
    simp only [State.flushSubnet_fields, State.flushCheckpoint_fields, (commitBundle_frame hb).2.2.1]
    exact .frame nofun
  | fund h =>
    obtain ⟨_, -, -, ht⟩ := fundTx_eq_ok info h
    rw [(State.commitTopdownMsg_frame ht).2.1]
    exact .frame nofun
  | release h =>
    obtain ⟨_, -, -, -, rfl⟩ := releaseTx_eq_ok info h
    exact .frame nofun
  | sendCross h =>
    rw [(commitCrossMessage_frame (sendCrossTx_eq_ok info h).2.2.2.2).2]
    exact .frame nofun
  | applyBottomup _ _ _ h =>
    obtain ⟨-, rfl⟩ := applyBottomupTx_eq_ok h
    exact .frame nofun
  | applyTopdown _ _ _ _ h => cases h; exact .frame nofun
  | park hsys hne h => cases h; exact .park hsys hne
  | whitelist h =>
    obtain ⟨_, _, hi, ho, hc, rfl⟩ := whitelistPropagatorTx_eq_ok info h
    exact .whitelist hi ho hc
  | propagate h =>
    obtain ⟨_, _, hi, hown, -, -, -, hcm, rfl⟩ := propagateTx_eq_ok info h
    rw [State.removeFromPostbox_fields .. |>.2.2.1, (commitCrossMessage_frame hcm).2]
    exact .propagate hi hown

/-! ## Every item is owned and stored under its own hash -/

/-- Every item has an owner set, and sits under the content hash of the item
    that parked its message. -/
structure PostboxSound (st : State) : Prop where
  owned : AllItems (fun item => item.owners.isSome) st
  keyed : ∀ cid item, st.postbox cid = some item →
    cid = env.postboxCid (parkedItem item.crossMsg)

theorem PostboxSound.move {info : MessageInfo} {m : Method} {st st' : State}
    {pb : Cid → Option PostBoxItem} (h : PostboxSound env st) (hm : PostboxMove env info st m pb)
    (he : st'.postbox = pb) : PostboxSound env st' := by
  cases hm with
  | frame _ => exact ⟨h.owned.of_postbox_eq he, fun cid item hi => h.keyed cid item (he ▸ hi)⟩
  | park =>
    refine ⟨h.owned.update (by rintro _ ⟨⟩; rfl) he, fun cid item hi => ?_⟩
    rw [he, Function.update_apply] at hi
    split at hi
    · cases hi; assumption
    · exact h.keyed cid item hi
  | @whitelist p item₀ _ hi₀ _ _ =>
    refine ⟨h.owned.update (by rintro _ ⟨⟩; rfl) he, fun cid item hi => ?_⟩
    rw [he, Function.update_apply] at hi
    split at hi
    · cases hi; subst cid; exact h.keyed _ item₀ hi₀
    · exact h.keyed cid item hi
  | propagate _ _ =>
    refine ⟨h.owned.update (by rintro _ ⟨⟩) he, fun cid item hi => ?_⟩
    rw [he, Function.update_apply] at hi
    split at hi
    · cases hi
    · exact h.keyed cid item hi

theorem postboxSound_step {info : MessageInfo} {m : Method} {st st' : State}
    (hc : Commits env info m st st') (h : PostboxSound env st) : PostboxSound env st' :=
  h.move env hc.postboxMove rfl

/-- With a collision-free hash, no move but `Propagate` removes an item or
    replaces its cross-message. -/
theorem PostboxMove.keeps (hinj : Function.Injective env.postboxCid) {info : MessageInfo}
    {m : Method} {st : State} {pb : Cid → Option PostBoxItem} (h : PostboxSound env st)
    (hm : PostboxMove env info st m pb) {cid : Cid} {item : PostBoxItem}
    (hi : st.postbox cid = some item) :
    (∃ item', pb cid = some item' ∧ item'.crossMsg = item.crossMsg) ∨
      (m = .propagate ⟨cid⟩ ∧ pb cid = none) := by
  cases hm with
  | frame _ => exact .inl ⟨item, hi, rfl⟩
  | @park p =>
    refine .inl ?_
    rw [Function.update_apply]
    split
    · rename_i he
      have := hinj ((h.keyed cid item hi).symm.trans he)
      exact ⟨_, rfl, (congrArg PostBoxItem.crossMsg this).symm⟩
    · exact ⟨item, hi, rfl⟩
  | whitelist hi' _ _ =>
    refine .inl ?_
    rw [Function.update_apply]
    split
    · subst cid; rw [hi] at hi'; cases hi'; exact ⟨_, rfl, rfl⟩
    · exact ⟨item, hi, rfl⟩
  | @propagate p _ _ _ =>
    by_cases hcid : cid = p.postboxCid
    · subst cid; exact .inr ⟨rfl, by simp⟩
    · exact .inl ⟨item, by simp [Function.update_apply, hcid, hi], rfl⟩

/-! ## What one call does to the postbox -/

section Calls

/-- The key a call parks a message under, if it parks one: the system actor
    applying a message that only passes through this network. -/
def Call.parksAt? (st : State) (c : Call) : Option Cid :=
  match c.method with
  | .applyMessage p =>
    if c.info.caller = systemActorAddr ∧ p.crossMsg.msg.to.subnet ≠ st.networkName then
      some (env.postboxCid (parkedItem p.crossMsg))
    else none
  | _ => none

/-- The key a call forwards the item of, if it does: a `Propagate` whose
    transaction passes. -/
def Call.forwards? (st : State) (c : Call) : Option Cid :=
  match c.method with
  | .propagate p => if (propagateTx c.info p st).isOk then some p.postboxCid else none
  | _ => none

variable {env}

theorem Call.parksAt?_eq_some {st : State} {c : Call} {cid : Cid}
    (h : c.parksAt? env st = some cid) :
    ∃ p, c.method = .applyMessage p ∧ c.info.caller = systemActorAddr ∧
      p.crossMsg.msg.to.subnet ≠ st.networkName ∧ env.postboxCid (parkedItem p.crossMsg) = cid := by
  obtain ⟨info, m⟩ := c
  cases m with
  | applyMessage p =>
    simp only [Call.parksAt?] at h
    split_ifs at h with hc
    cases h
    exact ⟨p, rfl, hc.1, hc.2, rfl⟩
  | _ => simp [Call.parksAt?] at h

theorem Call.forwards?_eq_some {st : State} {c : Call} {cid : Cid} (h : c.forwards? st = some cid) :
    ∃ p st' r, c.method = .propagate p ∧ p.postboxCid = cid ∧
      propagateTx c.info p st = .ok (st', r) := by
  obtain ⟨info, m⟩ := c
  cases m with
  | propagate p =>
    simp only [Call.forwards?] at h
    split_ifs at h with hok
    cases h
    cases ht : propagateTx info p st with
    | error e => simp [ht, Except.isOk, Except.toBool] at hok
    | ok r => exact ⟨p, r.1, r.2, rfl, rfl, ht⟩
  | _ => simp [Call.forwards?] at h

variable (env)

/-- A `Propagate` whose transaction passes commits it. -/
theorem step_propagate_state {rt : Runtime State} {info : MessageInfo} {p : PropagateParams}
    {st' : State} {r : CrossMsg × Bool × Int × Int} (h : propagateTx info p rt.state = .ok (st', r)) :
    (step env rt ⟨info, .propagate p⟩).rt.state = st' := by
  simp only [step, invoke, propagate]
  rw [Stays.bind_state fun _ => stays_getState.bind fun _ =>
    (stays_crossMsgSideEffects _ _ _ _).bind fun _ => Stays.ite (stays_send _ _ _) (stays_pure _)]
  exact transaction_state h

/-- The system actor applying a message that passes through parks it. -/
theorem step_park_state {rt : Runtime State} {info : MessageInfo} {p : ApplyMsgParams}
    (hsys : info.caller = systemActorAddr) (hne : p.crossMsg.msg.to.subnet ≠ rt.state.networkName) :
    (step env rt ⟨info, .applyMessage p⟩).rt.state =
      (rt.state.insertPostbox env (some [p.crossMsg.msg.from.rawAddr]) p.crossMsg).1 := by
  have park : ∀ rt' : Runtime State, rt'.state = rt.state →
      (parkInPostbox env p.crossMsg rt').rt.state =
        (rt.state.insertPostbox env (some [p.crossMsg.msg.from.rawAddr]) p.crossMsg).1 :=
    fun rt' h => by
      rw [parkInPostbox, Stays.bind_state fun _ => stays_pure _, ← h]
      exact transaction_state rfl
  simp only [step, invoke]
  rw [Stays.bind_state fun _ => stays_pure _]
  simp only [applyMsg, hsys, ne_eq, not_true_eq_false, if_false, RtM.pure_bind,
    RtM.bind_ok _ (getState_apply _), hne]
  cases p.crossMsg.msg.applyType rt.state.networkName
  · exact park _ rfl
  · split <;> simp only [RtM.bind_apply, fundingHook, RtM.pure_bind] <;> exact park _ rfl

/-- The keys a run forwards the items of, in order. -/
def forwarded (rt : Runtime State) : List Call → List Cid
  | [] => []
  | c :: cs => (c.forwards? rt.state).toList ++ forwarded (step env rt c).rt cs

/-- The keys a run parks messages under, in order. -/
def parked (rt : Runtime State) : List Call → List Cid
  | [] => []
  | c :: cs => (c.parksAt? env rt.state).toList ++ parked (step env rt c).rt cs

theorem parked_append (rt : Runtime State) (cs : List Call) (c : Call) :
    parked env rt (cs ++ [c]) = parked env rt cs ++ (c.parksAt? env (run env rt cs).state).toList := by
  induction cs generalizing rt with
  | nil => simp [parked]
  | cons c' cs ih => simp [parked, ih]

end Calls

/-! ## Who owns an item -/

/-- `a` was added to the owners of the item at `cid`, which holds `crossMsg`,
    by a `WhiteListPropagator` call of the run `cs` that went through, made by
    an owner of that item at the time. -/
def Delegated (rt : Runtime State) (cs : List Call) (cid : Cid) (crossMsg : CrossMsg)
    (a : Address) : Prop :=
  ∃ cs₁ c cs₂ toAdd, cs = cs₁ ++ c :: cs₂ ∧ c.method = .whiteListPropagator ⟨cid, toAdd⟩ ∧
    a ∈ toAdd ∧ Commits env c.info c.method (run env rt cs₁).state (run env rt (cs₁ ++ [c])).state ∧
    ∃ item owners, (run env rt cs₁).state.postbox cid = some item ∧ item.crossMsg = crossMsg ∧
      item.owners = some owners ∧ c.info.caller ∈ owners

theorem Delegated.snoc {rt : Runtime State} {cs : List Call} {cid : Cid} {crossMsg : CrossMsg}
    {a : Address} (h : Delegated env rt cs cid crossMsg a) (c : Call) :
    Delegated env rt (cs ++ [c]) cid crossMsg a := by
  obtain ⟨cs₁, c', cs₂, toAdd, rfl, h⟩ := h
  exact ⟨cs₁, c', cs₂ ++ [c], toAdd, by simp, h⟩

/-- The owners of the item at `cid` after the run `cs`: its message's sender,
    and addresses delegated by owners. -/
def OwnersDelegated (rt : Runtime State) (cs : List Call) : Prop :=
  ∀ cid item, (run env rt cs).state.postbox cid = some item →
    ∀ owners, item.owners = some owners → ∀ a ∈ owners,
      a = item.crossMsg.msg.from.rawAddr ∨ Delegated env rt cs cid item.crossMsg a

theorem ownersDelegated_snoc {rt : Runtime State} {cs : List Call} (c : Call)
    (h : OwnersDelegated env rt cs) : OwnersDelegated env rt (cs ++ [c]) := by
  have keep : ∀ cid item, (run env rt cs).state.postbox cid = some item →
      ∀ owners, item.owners = some owners → ∀ a ∈ owners,
        a = item.crossMsg.msg.from.rawAddr ∨ Delegated env rt (cs ++ [c]) cid item.crossMsg a :=
    fun cid item hi owners ho a ha => (h cid item hi owners ho a ha).imp_right (·.snoc env c)
  have hrun : run env rt (cs ++ [c]) = (step env (run env rt cs) c).rt := run_append env _ _ _
  intro cid item hi
  rw [hrun] at hi
  rcases step_commits env (run env rt cs) c with he | hc
  · exact keep cid item (he ▸ hi)
  have hm := hc.postboxMove
  revert hi
  generalize (step env (run env rt cs) c).rt.state.postbox = pb at hm
  generalize hcm : c.method = m at hm
  intro hi
  cases hm with
  | frame _ => exact keep cid item hi
  | park =>
    simp only [Function.update_apply] at hi
    split at hi
    · cases hi; rintro _ ⟨⟩ a ha; exact .inl (List.mem_singleton.1 ha)
    · exact keep cid item hi
  | @whitelist p item₀ owners₀ hi₀ ho₀ hcaller =>
    simp only [Function.update_apply] at hi
    split at hi
    · subst cid; cases hi
      rintro _ ⟨⟩ a ha
      rcases List.mem_append.1 ha with ha | ha
      · exact keep _ _ hi₀ _ ho₀ a ha
      · exact .inr ⟨cs, c, [], p.toAdd, rfl, hcm, ha, hrun ▸ hc, item₀, owners₀, hi₀, rfl, ho₀,
          hcaller⟩
    · exact keep cid item hi
  | propagate _ _ =>
    simp only [Function.update_apply] at hi
    split at hi
    · cases hi
    · exact keep cid item hi

theorem ownersDelegated_run {rt : Runtime State} {params : ConstructorParams}
    (h0 : rt.state = State.new params) (cs : List Call) : OwnersDelegated env rt cs := by
  induction cs using List.reverseRecOn with
  | nil => intro cid item hi; rw [run_nil, h0] at hi; cases hi
  | append_singleton cs c ih => exact ownersDelegated_snoc env c ih

/-! ## The owner list of an item -/

/-- What a call appends to the owners of the item under `cid` when it runs on
    `st`: the addresses of a `WhiteListPropagator` call for `cid` whose
    transaction passes, that is, one made by an owner of the item. -/
def Call.addsOwners (st : State) (cid : Cid) (c : Call) : List Address :=
  match c.method with
  | .whiteListPropagator p =>
    if p.postboxCid = cid ∧ (whitelistPropagatorTx c.info p st).isOk then p.toAdd else []
  | _ => []

/-- The addresses the calls `cs` append to the owners of the item under `cid`,
    in order. -/
def addedOwners (rt : Runtime State) (cid : Cid) : List Call → List Address
  | [] => []
  | c :: cs => c.addsOwners rt.state cid ++ addedOwners (step env rt c).rt cid cs

theorem addedOwners_append (rt : Runtime State) (cid : Cid) (cs : List Call) (c : Call) :
    addedOwners env rt cid (cs ++ [c]) =
      addedOwners env rt cid cs ++ c.addsOwners (run env rt cs).state cid := by
  induction cs generalizing rt with
  | nil => simp [addedOwners]
  | cons c' cs ih => simp [addedOwners, ih]

/-- A `WhiteListPropagator` appends the addresses it adds to the owners of the
    item it names, and leaves every other item as it was. -/
theorem step_whitelist_postbox (rt : Runtime State) (info : MessageInfo)
    (p : WhitelistPropagatorParams) (cid : Cid) :
    (step env rt ⟨info, .whiteListPropagator p⟩).rt.state.postbox cid =
      (rt.state.postbox cid).map fun item =>
        { item with
          owners := item.owners.map (· ++ Call.addsOwners rt.state cid ⟨info, .whiteListPropagator p⟩) } := by
  cases ht : whitelistPropagatorTx info p rt.state with
  | error e =>
    have he : (step env rt ⟨info, .whiteListPropagator p⟩).rt.state = rt.state := by
      simp only [step, invoke, whitelistPropagator, transaction, ht, Outcome.rt_err]
    rw [he]
    cases rt.state.postbox cid <;> simp [Call.addsOwners, ht, Except.isOk, Except.toBool]
  | ok r =>
    obtain ⟨st', ⟨⟩⟩ := r
    obtain ⟨item, owners, hi, ho, -, rfl⟩ := whitelistPropagatorTx_eq_ok info ht
    have he : (step env rt ⟨info, .whiteListPropagator p⟩).rt.state =
        rt.state.swapPostboxItem p.postboxCid { item with owners := some (owners ++ p.toAdd) } := by
      simp only [step, invoke, whitelistPropagator]
      exact transaction_state ht
    rw [he, State.swapPostboxItem_fields .. |>.2.2.1, Function.update_apply]
    split
    · subst cid
      simp [hi, ho, Call.addsOwners, ht, Except.isOk, Except.toBool]
    · rename_i hk
      cases rt.state.postbox cid <;> simp [Call.addsOwners, Ne.symm hk]

/-- **One step of an item's owners.**  After a call, the item under `cid` is
    the one the call parked there, owned by its sender alone, or the item that
    was there, with the addresses the call adds appended to its owners. -/
theorem owners_step (rt : Runtime State) (c : Call) {cid : Cid} {item' : PostBoxItem}
    (hi : (step env rt c).rt.state.postbox cid = some item') :
    (c.parksAt? env rt.state = some cid ∧ item' = parkedItem item'.crossMsg) ∨
      (c.parksAt? env rt.state ≠ some cid ∧ ∃ item, rt.state.postbox cid = some item ∧
        item' = { item with owners := item.owners.map (· ++ c.addsOwners rt.state cid) }) := by
  by_cases hp : c.parksAt? env rt.state = some cid
  · obtain ⟨p, hm, hsys, hne, rfl⟩ := Call.parksAt?_eq_some hp
    obtain ⟨info, m⟩ := c
    dsimp only at hm hsys
    subst hm
    rw [step_park_state env hsys hne] at hi
    simp only [State.insertPostbox, parkedItem, Function.update_same, Option.some.injEq] at hi
    subst hi
    exact .inl ⟨hp, rfl⟩
  refine .inr ⟨hp, ?_⟩
  obtain ⟨info, m⟩ := c
  by_cases hw : ∃ p, m = .whiteListPropagator p
  · obtain ⟨p, rfl⟩ := hw
    rw [step_whitelist_postbox] at hi
    obtain ⟨item, hi₀, rfl⟩ := Option.map_eq_some'.1 hi
    exact ⟨item, hi₀, rfl⟩
  -- any other call adds no owner, and leaves the item under `cid` where it is
  have hnil : Call.addsOwners rt.state cid ⟨info, m⟩ = [] := by
    cases m <;> first | rfl | exact absurd ⟨_, rfl⟩ hw
  suffices rt.state.postbox cid = some item' from ⟨item', this, by rw [hnil]; cases item'; simp⟩
  rcases step_commits env rt ⟨info, m⟩ with he | hc
  · exact he ▸ hi
  have hm := hc.postboxMove
  revert hi
  generalize (step env rt ⟨info, m⟩).rt.state.postbox = pb at hm
  intro hi
  cases hm with
  | frame _ => exact hi
  | park hsys hne =>
    rw [Function.update_apply] at hi
    split at hi
    · rename_i hk
      dsimp only at hsys
      exact absurd (by simp [Call.parksAt?, hsys, hne, hk]) hp
    · exact hi
  | whitelist _ _ _ => exact absurd ⟨_, rfl⟩ hw
  | propagate _ _ =>
    rw [Function.update_apply] at hi
    split at hi
    · cases hi
    · exact hi

/-- The owners of every item after the run `cs`: its sender, followed by the
    addresses that the calls since the last call that parked it there added. -/
def OwnersAdded (rt : Runtime State) (cs : List Call) : Prop :=
  ∀ cid item, (run env rt cs).state.postbox cid = some item →
    ∃ cs₁ c cs₂, cs = cs₁ ++ c :: cs₂ ∧ c.parksAt? env (run env rt cs₁).state = some cid ∧
      cid ∉ parked env (run env rt (cs₁ ++ [c])) cs₂ ∧
      (run env rt (cs₁ ++ [c])).state.postbox cid = some (parkedItem item.crossMsg) ∧
      item.owners = some (item.crossMsg.msg.from.rawAddr ::
        addedOwners env (run env rt (cs₁ ++ [c])) cid cs₂)

theorem ownersAdded_snoc {rt : Runtime State} {cs : List Call} (c : Call)
    (h : OwnersAdded env rt cs) : OwnersAdded env rt (cs ++ [c]) := by
  intro cid item' hi
  have hrun : run env rt (cs ++ [c]) = (step env (run env rt cs) c).rt := run_append env _ _ _
  rw [hrun] at hi
  rcases owners_step env (run env rt cs) c hi with ⟨hp, hpark⟩ | ⟨hp, item, hi₀, rfl⟩
  · refine ⟨cs, c, [], rfl, hp, by simp [parked], by rw [hrun, hi]; exact congrArg some hpark, ?_⟩
    rw [hpark]
    rfl
  · obtain ⟨cs₁, c₀, cs₂, rfl, hp₀, hlast, hpark, ho⟩ := h cid item hi₀
    have hr : run env (run env rt (cs₁ ++ [c₀])) cs₂ = run env rt (cs₁ ++ c₀ :: cs₂) := by
      rw [← run_append]; simp
    refine ⟨cs₁, c₀, cs₂ ++ [c], by simp, hp₀, ?_, hpark, ?_⟩
    · rw [parked_append, hr, List.mem_append, Option.mem_toList, Option.mem_def]
      exact fun h => h.elim hlast hp
    · rw [addedOwners_append, hr]
      simp [ho]

theorem ownersAdded_run {rt : Runtime State} {params : ConstructorParams}
    (h0 : rt.state = State.new params) (cs : List Call) : OwnersAdded env rt cs := by
  induction cs using List.reverseRecOn with
  | nil => intro cid item hi; rw [run_nil, h0] at hi; cases hi
  | append_singleton cs c ih => exact ownersAdded_snoc env c ih

/-! ## Postbox authorization -/

/-- What the postbox guarantees after the run `cs`: every item has an owner
    list, exactly its sender and the addresses delegated since it was parked;
    `Propagate` succeeds only for an owner and removes the item; no other call
    removes an item or replaces its cross-message. -/
structure PostboxAuthorized (rt : Runtime State) (cs : List Call) : Prop where
  /-- Every item has an owner set, each member of which is its sender or was
      delegated by a member at the time; -/
  owners : ∀ cid item, (run env rt cs).state.postbox cid = some item →
    ∃ owners, item.owners = some owners ∧ ∀ a ∈ owners,
      a = item.crossMsg.msg.from.rawAddr ∨ Delegated env rt cs cid item.crossMsg a
  /-- and the owners are exactly the sender followed by the addresses that the
      `WhiteListPropagator` calls which passed since the call that last parked
      the item added, in order. -/
  members : ∀ cid item, (run env rt cs).state.postbox cid = some item →
    ∃ cs₁ c cs₂, cs = cs₁ ++ c :: cs₂ ∧ c.parksAt? env (run env rt cs₁).state = some cid ∧
      cid ∉ parked env (run env rt (cs₁ ++ [c])) cs₂ ∧
      (run env rt (cs₁ ++ [c])).state.postbox cid = some (parkedItem item.crossMsg) ∧
      item.owners = some (item.crossMsg.msg.from.rawAddr ::
        addedOwners env (run env rt (cs₁ ++ [c])) cid cs₂)
  /-- `Propagate` succeeds only for an owner, and removes the item; -/
  propagate : ∀ info p st', Commits env info (.propagate p) (run env rt cs).state st' →
    ∃ item owners, (run env rt cs).state.postbox p.postboxCid = some item ∧
      item.owners = some owners ∧ info.caller ∈ owners ∧ st'.postbox p.postboxCid = none
  /-- no other call removes an item or replaces its cross-message. -/
  keeps : ∀ info m st', Commits env info m (run env rt cs).state st' →
    ∀ cid item, (run env rt cs).state.postbox cid = some item →
      (∃ item', st'.postbox cid = some item' ∧ item'.crossMsg = item.crossMsg) ∨
        (m = .propagate ⟨cid⟩ ∧ st'.postbox cid = none)

theorem postboxSound_run {rt : Runtime State} {params : ConstructorParams}
    (h0 : rt.state = State.new params) (cs : List Call) :
    PostboxSound env (run env rt cs).state :=
  (reachable_run env (Q := fun _ => True) (.init params h0) fun _ _ => trivial).inv env
    (fun _ => ⟨fun _ _ h => (by cases h), fun _ _ h => (by cases h)⟩)
    (fun _ _ _ _ h hc => postboxSound_step env hc h)

/-- **Postbox authorization.** -/
theorem postbox_authorization (hinj : Function.Injective env.postboxCid) {rt : Runtime State}
    {params : ConstructorParams} (h0 : rt.state = State.new params) (cs : List Call) :
    PostboxAuthorized env rt cs := by
  have hs := postboxSound_run env h0 cs
  refine ⟨fun cid item hi => ?_, ownersAdded_run env h0 cs, fun info p st' hc => ?_,
    fun info m st' hc cid item hi => (hc.postboxMove).keeps env hinj hs hi⟩
  · obtain ⟨owners, ho⟩ := Option.isSome_iff_exists.1 (hs.owned cid item hi)
    exact ⟨owners, ho, ownersDelegated_run env h0 cs cid item hi owners ho⟩
  · have hm := hc.postboxMove
    generalize st'.postbox = pb at hm ⊢
    cases hm with
    | frame hne => exact absurd rfl (hne p)
    | propagate hi hown =>
      obtain ⟨owners, ho⟩ := Option.isSome_iff_exists.1 (hs.owned _ _ hi)
      exact ⟨_, owners, hi, ho, hown owners ho, by simp⟩

/-! ## A collision-free content hash -/

instance : Encodable SubnetID :=
  Encodable.ofEquiv (Nat × List Address)
    ⟨fun s => (s.root, s.children), fun p => ⟨p.1, p.2⟩, fun _ => rfl, fun _ => rfl⟩

instance : Encodable IPCAddress :=
  Encodable.ofEquiv (SubnetID × Address)
    ⟨fun a => (a.subnet, a.rawAddr), fun p => ⟨p.1, p.2⟩, fun _ => rfl, fun _ => rfl⟩

instance : Encodable StorableMsg :=
  Encodable.ofEquiv (IPCAddress × IPCAddress × Nat × Int × Nat)
    ⟨fun m => (m.from, m.to, m.method, m.value, m.nonce),
      fun p => ⟨p.1, p.2.1, p.2.2.1, p.2.2.2.1, p.2.2.2.2⟩, fun _ => rfl, fun _ => rfl⟩

instance : Encodable CrossMsg :=
  Encodable.ofEquiv (StorableMsg × Bool)
    ⟨fun m => (m.msg, m.wrapped), fun p => ⟨p.1, p.2⟩, fun _ => rfl, fun _ => rfl⟩

instance : Encodable PostBoxItem :=
  Encodable.ofEquiv (CrossMsg × Option (List Address))
    ⟨fun i => (i.crossMsg, i.owners), fun p => ⟨p.1, p.2⟩, fun _ => rfl, fun _ => rfl⟩

/-- Content hashes that never collide on postbox items: an item's encoding. -/
def encodingEnv : Env := ⟨1, fun _ => 0, Encodable.encode⟩

/-- A message from `/0` at `7` to `/0/5` at `8`, passing through `/0`. -/
def passingMsg : CrossMsg := ⟨⟨⟨⟨0, []⟩, 7⟩, ⟨⟨0, [5]⟩, 8⟩, 0, 1, 0⟩, false⟩

/-- The system actor parks `passingMsg` at the root, and its sender `7`
    whitelists `9`. -/
def whitelistCalls : List Call :=
  [⟨⟨systemActorAddr, false, 0, by decide, 0⟩, .applyMessage ⟨passingMsg⟩⟩,
   ⟨⟨7, false, 0, by decide, 0⟩,
     .whiteListPropagator ⟨Encodable.encode (parkedItem passingMsg), [9]⟩⟩]

theorem postbox_authorization_demo :
    PostboxAuthorized encodingEnv ⟨State.new ⟨⟨0, []⟩, 10⟩, 0, []⟩ whitelistCalls :=
  postbox_authorization encodingEnv Encodable.encode_injective rfl whitelistCalls

/-! ## Each parked message is forwarded once -/

/-- Whether the postbox of `st` holds an item under `cid`. -/
def State.hasItem (st : State) (cid : Cid) : Bool := (st.postbox cid).isSome

/-- Only an item that is there can be forwarded. -/
theorem hasItem_of_forwards {st : State} {c : Call} {cid : Cid} (h : c.forwards? st = some cid) :
    st.hasItem cid = true := by
  obtain ⟨p, _, _, -, rfl, ht⟩ := Call.forwards?_eq_some h
  obtain ⟨_, _, hi, -⟩ := propagateTx_eq_ok _ ht
  simp [State.hasItem, hi]

theorem PostboxMove.postbox_eq {info : MessageInfo} {m : Method} {st : State}
    {pb : Cid → Option PostBoxItem} (hm : PostboxMove env info st m pb)
    (h₁ : ∀ p, m ≠ .applyMessage p) (h₂ : ∀ p, m ≠ .whiteListPropagator p)
    (h₃ : ∀ p, m ≠ .propagate p) : pb = st.postbox := by
  cases hm with
  | frame _ => rfl
  | park => exact absurd rfl (h₁ _)
  | whitelist _ _ _ => exact absurd rfl (h₂ _)
  | propagate _ _ => exact absurd rfl (h₃ _)

/-- A transaction that neither parks nor forwards keeps every key of the
    postbox: `WhiteListPropagator` only rewrites an item that is there. -/
theorem Commits.hasItem_eq {info : MessageInfo} {m : Method} {st st' : State}
    (hc : Commits env info m st st') (hf : Call.forwards? st ⟨info, m⟩ = none)
    (hp : Call.parksAt? env st ⟨info, m⟩ = none) (cid : Cid) :
    st'.hasItem cid = st.hasItem cid := by
  have hm := hc.postboxMove
  cases hc with
  | park hsys hne _ => simp [Call.parksAt?, hsys, hne] at hp
  | propagate h => simp [Call.forwards?, h, Except.isOk, Except.toBool] at hf
  | applyBottomup _ _ _ h => obtain ⟨-, rfl⟩ := applyBottomupTx_eq_ok h; rfl
  | applyTopdown _ _ _ _ h => cases h; rfl
  | whitelist h =>
    obtain ⟨item, _, hi, -, -, rfl⟩ := whitelistPropagatorTx_eq_ok info h
    simp only [State.hasItem, State.swapPostboxItem_fields, Function.update_apply]
    split <;> simp_all
  | _ => exact congrArg (fun pb => (pb cid).isSome) (hm.postbox_eq env nofun nofun nofun)

/-- **One step of the postbox's keys.**  A call empties the key it forwards,
    fills the key it parks under, and leaves every other key as it was. -/
theorem hasItem_step (rt : Runtime State) (c : Call) (cid : Cid) :
    (step env rt c).rt.state.hasItem cid =
      if c.forwards? rt.state = some cid then false
      else if c.parksAt? env rt.state = some cid then true
      else rt.state.hasItem cid := by
  obtain ⟨info, m⟩ := c
  cases hf : Call.forwards? rt.state ⟨info, m⟩ with
  | some k =>
    obtain ⟨p, st', r, hm, rfl, ht⟩ := Call.forwards?_eq_some hf
    dsimp only at hm ht
    subst hm
    obtain ⟨_, _, -, -, -, -, -, hcm, rfl⟩ := propagateTx_eq_ok info ht
    rw [step_propagate_state env ht]
    by_cases hk : p.postboxCid = cid
    · subst hk; simp [State.hasItem]
    · simp [State.hasItem, Call.parksAt?, Function.update_apply, (commitCrossMessage_frame hcm).2,
        hk, Ne.symm hk]
  | none =>
    cases hp : Call.parksAt? env rt.state ⟨info, m⟩ with
    | some k =>
      obtain ⟨p, hm, hsys, hne, rfl⟩ := Call.parksAt?_eq_some hp
      dsimp only at hm hsys
      subst hm
      rw [step_park_state env hsys hne]
      by_cases hk : env.postboxCid (parkedItem p.crossMsg) = cid
      · subst hk; simp [State.hasItem, State.insertPostbox, parkedItem]
      · have hk' := hk
        rw [parkedItem] at hk'
        simp [State.hasItem, State.insertPostbox, Function.update_apply, hk, Ne.symm hk']
    | none =>
      simp only [reduceCtorEq, if_false]
      rcases step_commits env rt ⟨info, m⟩ with he | hc
      · rw [he]
      · exact hc.hasItem_eq env hf hp cid

theorem count_toList {o : Option Cid} {cid : Cid} :
    o.toList.count cid = if o = some cid then 1 else 0 := by
  cases o with
  | none => rfl
  | some k => by_cases h : k = cid <;> simp [h, Ne.symm]

/-- Over one call, what is forwarded from `cid` and what is left there is no
    more than what was there and what the call parked there. -/
theorem forwards_step_le (rt : Runtime State) (c : Call) (cid : Cid) :
    (c.forwards? rt.state).toList.count cid + ((step env rt c).rt.state.hasItem cid).toNat ≤
      (rt.state.hasItem cid).toNat + (c.parksAt? env rt.state).toList.count cid := by
  rw [hasItem_step env rt c cid, count_toList, count_toList]
  by_cases hf : c.forwards? rt.state = some cid
  · simp [hf, hasItem_of_forwards hf]
  · by_cases hp : c.parksAt? env rt.state = some cid <;> simp [hf, hp]

/-- **A parked message is forwarded at most once.**  On every run, under every
    key, the `Propagate` calls that pass are no more than the messages parked
    under that key during the run, plus the item that was there at the start,
    less the item left there at the end.  `Propagate` removes the item it
    forwards, so a second `Propagate` of the same key fails until a message is
    parked there again; from an empty postbox, a key is forwarded at most as
    often as a message is parked under it. -/
theorem postbox_forwards_once (rt : Runtime State) (cs : List Call) (cid : Cid) :
    (forwarded env rt cs).count cid + ((run env rt cs).state.hasItem cid).toNat ≤
      (rt.state.hasItem cid).toNat + (parked env rt cs).count cid := by
  induction cs generalizing rt with
  | nil => simp [forwarded, parked]
  | cons c cs ih =>
    have hc := forwards_step_le env rt c cid
    have hr := ih (step env rt c).rt
    simp only [forwarded, parked, run_cons, List.count_append]
    omega

/-- Actor `5` registers `/0/5` at the root; the system actor parks a message
    for `/0/5`; its sender `7` propagates it twice. -/
def forwardTwiceCalls : List Call :=
  [⟨⟨5, false, 1, by decide, 0⟩, .register⟩,
   ⟨⟨systemActorAddr, false, 0, by decide, 0⟩, .applyMessage ⟨passingMsg⟩⟩,
   ⟨⟨7, false, crossMsgFee + 1, by decide, 0⟩, .propagate ⟨0⟩⟩,
   ⟨⟨7, false, crossMsgFee + 1, by decide, 0⟩, .propagate ⟨0⟩⟩]

/-- The first `Propagate` forwards the parked message; the second finds no
    item. -/
example : forwarded demoEnv demoRuntime forwardTwiceCalls = [0] ∧
    parked demoEnv demoRuntime forwardTwiceCalls = [0] := by decide


end IpcActors.Gateway
