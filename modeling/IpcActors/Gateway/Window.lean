/-
  IpcActors.Gateway.Window

  The window checkpoints a gateway builds for its own parent, one per
  checkpoint period (§3, §4.2, §4.3.3).

  Two transactions write them.  `CommitChildCheckpoint` records a child's
  checkpoint in the window of the current epoch (`add_child_check`), and a
  bottom-up commit (`Release`, or `SendCross` and `Propagate` of a message that
  climbs on) adds the message, its value and `CROSS_MSG_FEE` to that window's
  bundle (`commit_bottomup_msg`).  `checkpoints_step` says so once, for every
  transaction.

  `window_sound`: in every reachable gateway, each stored window sits under its
  own epoch, lists each child source at most once, and its bundle declares
  exactly the value of the messages it carries and one fee per message.
  `checkpoint_once_per_window`: along any run, the checkpoints the gateway
  accepts have pairwise distinct sources and windows, so a second checkpoint
  from one source in one period is refused, whatever calls come in between.
-/
import IpcActors.Gateway.Nonce
import Mathlib.Data.List.Nodup
import Mathlib.Algebra.BigOperators.Group.List
import Mathlib.Algebra.Ring.Int.Defs

namespace IpcActors.Gateway

/-! ## What a call does to the checkpoints -/

theorem commitBundle_checkpoints {st st₁ : State} {sub sub₁ : Subnet} {b : Option CrossMsgs}
    {fee : Int} (h : commitBundle st sub b = .ok (st₁, sub₁, fee)) :
    st₁.checkpoints = st.checkpoints := by
  rcases commitBundle_eq_ok h with ⟨-, rfl, -⟩ | ⟨cm, -, rfl, -⟩
  · rfl
  · split <;> rfl

theorem commitTopdownMsg_checkpoints {st st' : State} {m : CrossMsg}
    (h : st.commitTopdownMsg m = .ok st') : st'.checkpoints = st.checkpoints := by
  obtain ⟨_, _, -, -, rfl⟩ := State.commitTopdownMsg_eq_ok h
  rfl

/-- `commit_cross_message` writes the checkpoints on its bottom-up branch only. -/
theorem commitCrossMessage_checkpoints {epoch fee f : Int} {b : Bool} {st st' : State}
    {m : CrossMsg} (h : commitCrossMessage epoch st m fee = .ok (st', b, f)) :
    st'.checkpoints = st.checkpoints ∨
      st'.checkpoints = (st.commitBottomupMsg m fee epoch).checkpoints := by
  obtain ⟨-, ⟨-, ht, -⟩ | ⟨-, -, ht, -⟩ | ⟨-, -, rfl, -⟩⟩ := commitCrossMessage_eq_ok h
  · have := commitTopdownMsg_checkpoints ht
    exact .inl this
  · exact .inl (commitTopdownMsg_checkpoints ht)
  · exact .inr rfl

variable (env : Env)

/-- A committed child checkpoint is added to the window of the current epoch. -/
theorem commitChildCheck_checkpoints {info : MessageInfo} {commit : Checkpoint} {st st' : State}
    (hc : Commits env info (.commitChildCheckpoint commit) st st') :
    ∃ ch, (st.getWindowCheckpoint info.currEpoch).addChildCheck env.checkpointCid commit = .ok ch ∧
      st'.checkpoints = (st.flushCheckpoint ch).checkpoints := by
  cases hc with
  | commitChildCheck _ h =>
    obtain ⟨_, st₁, _, ch, -, -, -, hb, hch, rfl⟩ := commitChildCheckTx_eq_ok env info h
    refine ⟨ch, hch, ?_⟩
    show Function.update st₁.checkpoints ch.epoch (some ch) = _
    rw [commitBundle_checkpoints hb]
    rfl

/-- **What one call does to the checkpoints.**  A committed call leaves them
    alone, or records a child checkpoint in the window of the current epoch,
    or commits a bottom-up message with `CROSS_MSG_FEE` into that window. -/
theorem checkpoints_step {info : MessageInfo} {m : Method} {st st' : State}
    (hc : Commits env info m st st') :
    st'.checkpoints = st.checkpoints ∨
      (∃ commit ch, m = .commitChildCheckpoint commit ∧
        (st.getWindowCheckpoint info.currEpoch).addChildCheck env.checkpointCid commit = .ok ch ∧
        st'.checkpoints = (st.flushCheckpoint ch).checkpoints) ∨
      ∃ msg, st'.checkpoints = (st.commitBottomupMsg msg crossMsgFee info.currEpoch).checkpoints := by
  cases hc with
  | register h =>
    obtain ⟨-, -, rfl⟩ := registerTx_eq_ok env info h
    exact .inl rfl
  | addStake _ h =>
    obtain ⟨_, -, rfl⟩ := addStakeTx_eq_ok env info h
    exact .inl rfl
  | releaseStake _ h =>
    obtain ⟨_, -, -, -, rfl⟩ := releaseStakeTx_eq_ok env info h
    exact .inl rfl
  | kill h =>
    obtain ⟨_, -, -, -, rfl, -⟩ := killTx_eq_ok info h
    exact .inl rfl
  | @commitChildCheck commit _ _ _ hcall h =>
    obtain ⟨ch, hch, he⟩ := commitChildCheck_checkpoints env (.commitChildCheck hcall h)
    exact .inr (.inl ⟨commit, ch, rfl, hch, he⟩)
  | fund h =>
    obtain ⟨_, -, -, ht⟩ := fundTx_eq_ok info h
    exact .inl (commitTopdownMsg_checkpoints ht)
  | release h =>
    obtain ⟨_, -, -, -, rfl⟩ := releaseTx_eq_ok info h
    exact .inr (.inr ⟨_, rfl⟩)
  | sendCross h =>
    exact (commitCrossMessage_checkpoints (sendCrossTx_eq_ok info h).2.2.2.2).imp id
      fun he => .inr ⟨_, he⟩
  | applyBottomup _ _ _ h =>
    obtain ⟨-, rfl⟩ := applyBottomupTx_eq_ok h
    exact .inl rfl
  | applyTopdown _ _ _ _ h => cases h; exact .inl rfl
  | park _ _ h => cases h; exact .inl rfl
  | whitelist h =>
    obtain ⟨_, _, -, -, -, rfl⟩ := whitelistPropagatorTx_eq_ok info h
    exact .inl rfl
  | propagate h =>
    obtain ⟨_, _, -, -, -, -, -, hcm, rfl⟩ := propagateTx_eq_ok info h
    exact (commitCrossMessage_checkpoints hcm).imp id fun he => .inr ⟨_, he⟩

/-! ## The windows as the gateway builds them -/

/-- A window checkpoint as the gateway stores it under the epoch `e`: under
    its own epoch, each child source listed once, and a bundle that declares
    the value of its messages and one `CROSS_MSG_FEE` per message. -/
structure Checkpoint.WindowOk (e : Int) (ch : Checkpoint) : Prop where
  epoch : ch.epoch = e
  sources : (ch.childChecks.map ChildCheck.source).Nodup
  bundle : ∀ b, ch.crossMsgs = some b →
    b.value = (b.msgs.map fun m => m.msg.value).sum ∧ b.fee = crossMsgFee * b.msgs.length

/-- Every stored window checkpoint is as the gateway builds it. -/
def WindowSound (st : State) : Prop := ∀ e ch, st.checkpoints e = some ch → ch.WindowOk e

section Windows

variable {st st' : State}

theorem WindowSound.of_checkpoints_eq (h : WindowSound st) (he : st'.checkpoints = st.checkpoints) :
    WindowSound st' :=
  fun e ch hc => h e ch (he ▸ hc)

/-- The window of an epoch is as the gateway builds it, stored or fresh. -/
theorem WindowSound.window (h : WindowSound st) (epoch : Int) :
    (st.getWindowCheckpoint epoch).WindowOk (State.windowEpoch st.checkPeriod epoch) := by
  simp only [State.getWindowCheckpoint]
  cases hc : st.checkpoints (State.windowEpoch st.checkPeriod epoch) with
  | none => exact ⟨rfl, List.nodup_nil, fun _ h => by cases h⟩
  | some ch => exact h _ _ hc

theorem WindowSound.flushCheckpoint (h : WindowSound st) {e : Int} {ch : Checkpoint}
    (hch : ch.WindowOk e) : WindowSound (st.flushCheckpoint ch) := by
  intro e' c hc
  simp only [State.flushCheckpoint, Function.update_apply] at hc
  split at hc
  · rename_i he
    cases hc
    rw [he, hch.epoch]
    exact hch
  · exact h e' c hc

/-- Recording a child checkpoint adds its source, which the window did not list. -/
theorem Checkpoint.WindowOk.addChildCheck {e : Int} {ch ch' commit : Checkpoint}
    {cid : Checkpoint → Cid} (h : ch.WindowOk e) (ha : ch.addChildCheck cid commit = .ok ch') :
    ch'.WindowOk e ∧ commit.source ∉ ch.childChecks.map ChildCheck.source ∧
      ch'.childChecks.map ChildCheck.source = ch.childChecks.map ChildCheck.source ++ [commit.source] := by
  unfold Checkpoint.addChildCheck at ha
  split at ha
  · cases ha
  · rename_i hany
    cases ha
    have hn : commit.source ∉ ch.childChecks.map ChildCheck.source := by
      simpa [List.any_eq_true] using hany
    have hs : (ch.childChecks ++ [(⟨commit.source, [cid commit]⟩ : ChildCheck)]).map ChildCheck.source =
        ch.childChecks.map ChildCheck.source ++ [commit.source] := by simp
    refine ⟨⟨h.epoch, ?_, h.bundle⟩, hn, hs⟩
    rw [hs, ← List.concat_eq_append]
    exact h.sources.concat hn

/-- A bottom-up commit with `CROSS_MSG_FEE` keeps every window as the gateway
    builds it. -/
theorem WindowSound.commitBottomupMsg (h : WindowSound st) (msg : CrossMsg) (epoch : Int) :
    WindowSound (st.commitBottomupMsg msg crossMsgFee epoch) := by
  have hw := h.window epoch
  refine WindowSound.flushCheckpoint (e := State.windowEpoch st.checkPeriod epoch) h
    ⟨hw.epoch, hw.sources, fun b hb => ?_⟩
  cases hb
  cases hc : (st.getWindowCheckpoint epoch).crossMsgs with
  | none => simp
  | some b =>
    obtain ⟨hv, hf⟩ := hw.bundle b hc
    simp only [Option.getD_some, List.map_append, List.map_singleton, List.sum_append,
      List.sum_singleton, List.length_append, List.length_singleton, hv, hf]
    exact ⟨trivial, by rw [Int.natCast_add, Int.mul_add, Int.natCast_one, Int.mul_one]⟩

end Windows

/-- Every committed call keeps the windows as the gateway builds them. -/
theorem windowSound_step {info : MessageInfo} {m : Method} {st st' : State}
    (hc : Commits env info m st st') (h : WindowSound st) : WindowSound st' := by
  rcases checkpoints_step env hc with he | ⟨commit, ch, -, hch, he⟩ | ⟨msg, he⟩
  · exact h.of_checkpoints_eq he
  · exact (h.flushCheckpoint ((h.window info.currEpoch).addChildCheck hch).1).of_checkpoints_eq he
  · exact (h.commitBottomupMsg msg info.currEpoch).of_checkpoints_eq he

/-- **The windows as the gateway builds them.**  In every reachable gateway,
    each stored window checkpoint sits under its own epoch, lists each child
    source at most once, and carries a bundle whose declared value is the sum
    of its messages' values and whose declared fee is one `CROSS_MSG_FEE` per
    message. -/
theorem window_sound {Q : Call → Prop} {rt : Runtime State} (hr : Reachable env Q rt) :
    WindowSound rt.state :=
  hr.inv env (fun _ _ _ h => by cases h) fun _ _ _ _ h hc => windowSound_step env hc h

/-- At the gateway of `/0/5`: actor `6` registers its subnet `/0/5/6`, account
    `9` releases funds into the first window, and actor `6` commits the same
    checkpoint twice in that window. -/
def grandchildCheckpoint : Checkpoint := ⟨demoGrandchild, 10, 0, none, []⟩

def windowCalls : List Call :=
  [⟨⟨6, false, 1, by decide, 0⟩, .register⟩,
   ⟨⟨9, true, crossMsgFee + 5, by decide, 1⟩, .release⟩,
   ⟨⟨6, false, 0, by decide, 2⟩, .commitChildCheckpoint grandchildCheckpoint⟩,
   ⟨⟨6, false, 0, by decide, 3⟩, .commitChildCheckpoint grandchildCheckpoint⟩]

theorem window_sound_demo :
    Reachable demoEnv (fun _ => True) (run demoEnv childRuntime windowCalls) ∧
      WindowSound (run demoEnv childRuntime windowCalls).state :=
  have hr := reachable_run demoEnv (.init _ rfl) fun _ _ => trivial
  ⟨hr, window_sound demoEnv hr⟩

/-! ## One checkpoint per source and window -/

/-- The child sources the window stored under the epoch `w` lists. -/
def State.sourcesAt (st : State) (w : Int) : List SubnetID :=
  ((st.checkpoints w).map fun ch => ch.childChecks.map ChildCheck.source).getD []

/-- The sources and windows of the checkpoints the gateway accepted along the
    calls `cs` from `rt`, in the order it accepted them. -/
def acceptedChecks (rt : Runtime State) : List Call → List (SubnetID × Int)
  | [] => []
  | c :: cs =>
    (match c.method with
      | .commitChildCheckpoint ch =>
        if (step env rt c).isOk then [(ch.source, State.windowEpoch rt.state.checkPeriod c.info.currEpoch)]
        else []
      | _ => []) ++ acceptedChecks (step env rt c).rt cs

section Sources

variable {st st' : State}

theorem sourcesAt_of_checkpoints_eq (he : st'.checkpoints = st.checkpoints) (w : Int) :
    st'.sourcesAt w = st.sourcesAt w := by
  simp only [State.sourcesAt, he]

theorem sourcesAt_window (st : State) (epoch : Int) :
    (st.getWindowCheckpoint epoch).childChecks.map ChildCheck.source =
      st.sourcesAt (State.windowEpoch st.checkPeriod epoch) := by
  simp only [State.getWindowCheckpoint, State.sourcesAt]
  cases st.checkpoints (State.windowEpoch st.checkPeriod epoch) <;> rfl

theorem sourcesAt_flushCheckpoint (st : State) (ch : Checkpoint) (w : Int) :
    (st.flushCheckpoint ch).sourcesAt w =
      if w = ch.epoch then ch.childChecks.map ChildCheck.source else st.sourcesAt w := by
  simp only [State.sourcesAt, State.flushCheckpoint, Function.update_apply]
  split <;> rfl

theorem sourcesAt_commitBottomupMsg (h : WindowSound st) (msg : CrossMsg) (fee epoch w : Int) :
    (st.commitBottomupMsg msg fee epoch).sourcesAt w = st.sourcesAt w := by
  show (st.flushCheckpoint _).sourcesAt w = _
  rw [sourcesAt_flushCheckpoint]
  split
  · rename_i hw
    rw [hw, (h.window epoch).epoch]
    exact sourcesAt_window st epoch
  · rfl

/-- A committed child checkpoint is recorded in the window of its epoch,
    which did not list its source. -/
theorem sources_commitChildCheck {info : MessageInfo} {commit : Checkpoint} (h : WindowSound st)
    (hc : Commits env info (.commitChildCheckpoint commit) st st') :
    st'.sourcesAt (State.windowEpoch st.checkPeriod info.currEpoch) =
      st.sourcesAt (State.windowEpoch st.checkPeriod info.currEpoch) ++ [commit.source] ∧
      commit.source ∉ st.sourcesAt (State.windowEpoch st.checkPeriod info.currEpoch) := by
  obtain ⟨ch, hch, he⟩ := commitChildCheck_checkpoints env hc
  obtain ⟨hok, hn, hs⟩ := (h.window info.currEpoch).addChildCheck hch
  rw [sourcesAt_window] at hn
  rw [sourcesAt_of_checkpoints_eq he, sourcesAt_flushCheckpoint, if_pos hok.epoch.symm, hs,
    sourcesAt_window]
  exact ⟨rfl, hn⟩

/-- Along any committed call, the sources a window lists only grow. -/
theorem sourcesAt_step {info : MessageInfo} {m : Method} (h : WindowSound st)
    (hc : Commits env info m st st') (w : Int) : st.sourcesAt w <+: st'.sourcesAt w := by
  rcases checkpoints_step env hc with he | ⟨commit, ch, -, hch, he⟩ | ⟨msg, he⟩
  · exact ⟨[], by simp [sourcesAt_of_checkpoints_eq he]⟩
  · obtain ⟨hok, -, hs⟩ := (h.window info.currEpoch).addChildCheck hch
    rw [sourcesAt_of_checkpoints_eq he, sourcesAt_flushCheckpoint]
    split
    · rename_i hw
      rw [hs, sourcesAt_window, hw, hok.epoch]
      exact List.prefix_append _ _
    · exact List.prefix_refl _
  · exact ⟨[], by simp [sourcesAt_of_checkpoints_eq he, sourcesAt_commitBottomupMsg h]⟩

end Sources

/-- An accepted `CommitChildCheckpoint` committed its transaction. -/
theorem commits_of_isOk {rt : Runtime State} {c : Call} {commit : Checkpoint}
    (hm : c.method = .commitChildCheckpoint commit) (hok : (step env rt c).isOk = true) :
    Commits env c.info (.commitChildCheckpoint commit) rt.state (step env rt c).rt.state := by
  obtain ⟨info, m⟩ := c
  dsimp only at hm
  subst hm
  simp only [step, invoke, commitChildCheck] at hok ⊢
  by_cases hcall : info.caller = commit.source.subnetActor
  · simp only [hcall, ne_eq, not_true_eq_false, if_false, RtM.pure_bind] at hok ⊢
    cases ht : commitChildCheckTx env info commit rt.state with
    | error e => simp [RtM.bind_apply, transaction, ht] at hok
    | ok r =>
      obtain ⟨st', fee⟩ := r
      rw [Stays.bind_state fun _ => stays_distributeCrossmsgFee _ _]
      simp only [transaction, ht, Outcome.rt_ok]
      exact .commitChildCheck hcall ht
  · simp [hcall, RtM.bind_apply] at hok

/-- The checkpoints accepted along a run from a gateway whose windows are as
    it builds them: each source and window once, and none that its window
    already listed. -/
theorem acceptedChecks_unrecorded {rt : Runtime State} (h : WindowSound rt.state) (cs : List Call) :
    (acceptedChecks env rt cs).Nodup ∧
      ∀ p ∈ acceptedChecks env rt cs, p.1 ∉ rt.state.sourcesAt p.2 := by
  induction cs generalizing rt with
  | nil => exact ⟨List.nodup_nil, fun _ hp => by cases hp⟩
  | cons c cs ih =>
    obtain ⟨h', hmono⟩ : WindowSound (step env rt c).rt.state ∧
        ∀ w, rt.state.sourcesAt w ⊆ (step env rt c).rt.state.sourcesAt w := by
      rcases step_commits env rt c with he | hc
      · rw [he]; exact ⟨h, fun _ => List.Subset.refl _⟩
      · exact ⟨windowSound_step env hc h, fun w => (sourcesAt_step env h hc w).subset⟩
    obtain ⟨hnd, hfresh⟩ := ih h'
    have hrest : ∀ p ∈ acceptedChecks env (step env rt c).rt cs, p.1 ∉ rt.state.sourcesAt p.2 :=
      fun p hp hm => hfresh p hp (hmono _ hm)
    simp only [acceptedChecks]
    split
    next ch hm =>
      split
      next hok =>
        obtain ⟨hs, hn⟩ := sources_commitChildCheck env h (commits_of_isOk env hm hok)
        exact ⟨List.nodup_cons.2 ⟨fun hmem => hfresh _ hmem (by simp [hs]), hnd⟩,
          List.forall_mem_cons.2 ⟨hn, hrest⟩⟩
      next => exact ⟨hnd, hrest⟩
    next => exact ⟨hnd, hrest⟩

/-- **One checkpoint per source and window.**  Along any run from a reachable
    gateway, the checkpoints the gateway accepts have pairwise distinct
    sources and windows: once a child checkpoint from a source is accepted in
    a checkpoint period, every later one from that source in that period is
    refused, whatever calls come in between. -/
theorem checkpoint_once_per_window {Q : Call → Prop} {rt : Runtime State} (hr : Reachable env Q rt)
    (cs : List Call) : (acceptedChecks env rt cs).Nodup :=
  (acceptedChecks_unrecorded env (window_sound env hr) cs).1

theorem checkpoint_once_per_window_demo :
    Reachable demoEnv (fun _ => True) childRuntime ∧
      (acceptedChecks demoEnv childRuntime windowCalls).Nodup :=
  have hr : Reachable demoEnv (fun _ => True) childRuntime := .init _ rfl
  ⟨hr, checkpoint_once_per_window demoEnv hr windowCalls⟩

/-- Of the two commits of `grandchildCheckpoint` in the first window, the
    gateway of `/0/5` accepts the first only. -/
example : acceptedChecks demoEnv childRuntime windowCalls = [(demoGrandchild, 10)] := by decide

end IpcActors.Gateway
