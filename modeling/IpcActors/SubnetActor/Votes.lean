/-
  IpcActors.SubnetActor.Votes

  The subnet actor on its own: its vote tally and the checkpoints it sends the
  gateway (§4.4 SubmitCheckpoint, P5).

  A run hands every call the balance the actor holds when the call arrives,
  whatever the gateway and the rest of the network did with earlier sends; the
  state a call commits does not depend on the fate of its own send (§7).  So
  the runs here are every sequence of states the actor can go through.

  One step does one of three things to the votes stored for a cid
  (`votes_step`): nothing, while sending no checkpoint with that cid; drop
  them; or add the vote of the caller, a validator that had not voted.  A call
  that sends a checkpoint is a vote that completed two thirds of the stake
  (`quorum_step`).  From these: every stored vote set is duplicate-free and
  made of votes cast by validators since the cid was last committed, and every
  committed checkpoint carries such a quorum (`vote_tally`).

  A call that sends a checkpoint flushes it, and its epoch is the next
  expected one (`committed_step`), so the `k`-th checkpoint a fresh actor sends
  has epoch `(k + 1) · check_period` (`sent_epochs`): one per epoch,
  unless the period is `0` (`zeroPeriod_sameEpoch`).
-/
import IpcActors.SubnetActor.Actor
import IpcActors.Gateway.Step

namespace IpcActors.SubnetActor

open Gateway (Checkpoint Env MessageInfo demoEnv demoRoot demoChild)

/-- A call to the subnet actor: the message, the method, and the balance the
    actor holds when the call arrives. -/
structure Call where
  info : MessageInfo
  method : Method
  balance : Int

variable (env : Env) (receiver : Address)

/-! ## Runs of the actor on its own -/

/-- One call: the state it leaves and the payload it sends. -/
def stepAlone (st : State) (c : Call) : State × Option CrossActorPayload :=
  match invoke env receiver c.info c.method ⟨st, c.balance, []⟩ with
  | .ok r rt => (rt.state, r)
  | .err _ rt => (rt.state, none)

theorem stepAlone_cases (st : State) (c : Call) :
    stepAlone env receiver st c = (st, none) ∨
      ∃ st' msg, Commits env receiver c.info c.method st st' msg ∧
        stepAlone env receiver st c = (st', msg) := by
  rcases invoke_cases env receiver c.info c.method ⟨st, c.balance, []⟩ with
    ⟨e, rt', h, hs⟩ | ⟨rt', h, hs⟩ | ⟨st', msg, hc, h⟩
  · exact .inl (by simp only [stepAlone, h]; exact congrArg (·, none) hs)
  · exact .inl (by simp only [stepAlone, h]; exact congrArg (·, none) hs)
  · exact .inr ⟨st', msg, hc, by simp only [stepAlone, h]⟩

/-- The calls `cs` in turn: the state they leave and the payloads they send. -/
def runAlone (st : State) : List Call → State × List CrossActorPayload
  | [] => (st, [])
  | c :: cs =>
    let r := runAlone (stepAlone env receiver st c).1 cs
    (r.1, (stepAlone env receiver st c).2.toList ++ r.2)

theorem runAlone_append (st : State) (cs₁ cs₂ : List Call) :
    runAlone env receiver st (cs₁ ++ cs₂) =
      ((runAlone env receiver (runAlone env receiver st cs₁).1 cs₂).1,
        (runAlone env receiver st cs₁).2 ++ (runAlone env receiver (runAlone env receiver st cs₁).1 cs₂).2) := by
  induction cs₁ generalizing st with
  | nil => rfl
  | cons c cs ih => simp [runAlone, ih]

theorem runAlone_snoc (st : State) (cs : List Call) (c : Call) :
    runAlone env receiver st (cs ++ [c]) =
      ((stepAlone env receiver (runAlone env receiver st cs).1 c).1,
        (runAlone env receiver st cs).2 ++ (stepAlone env receiver (runAlone env receiver st cs).1 c).2.toList) := by
  simp [runAlone_append, runAlone]

/-- The checkpoint a payload asks the gateway to commit. -/
def CrossActorPayload.checkpoint? (p : CrossActorPayload) : Option Checkpoint :=
  match p.method with
  | .commitChildCheckpoint ch => some ch
  | _ => none

/-- The checkpoints a list of payloads asks the gateway to commit. -/
def commitsOf (ps : List CrossActorPayload) : List Checkpoint :=
  ps.filterMap CrossActorPayload.checkpoint?

@[simp] theorem commitsOf_append (ps qs : List CrossActorPayload) :
    commitsOf (ps ++ qs) = commitsOf ps ++ commitsOf qs :=
  List.filterMap_append _ _ _

/-! ## The vote tally -/

section Votes

variable {info : MessageInfo} {m : Method} {st st' : State} {msg : Option CrossActorPayload}

/-- Join, Leave and Kill leave the votes and the committed checkpoints alone,
    and send no checkpoint. -/
theorem frame_of_not_submit (hc : Commits env receiver info m st st' msg)
    (hm : ∀ ch, m ≠ .submitCheckpoint ch) :
    st'.windowChecks = st.windowChecks ∧ st'.committedCheckpoints = st.committedCheckpoints ∧
      st'.checkPeriod = st.checkPeriod ∧ commitsOf msg.toList = [] := by
  cases hc with
  | join _ h =>
    cases h
    refine ⟨?_, ?_, ?_, by split <;> (try split) <;> rfl⟩ <;>
      obtain ⟨s, hs⟩ := State.mutateState_eq env.minCollateralAmount (st.addStake info.caller _ _) <;>
      rw [hs] <;> rfl
  | leave h =>
    obtain ⟨_, -, -, rfl, rfl⟩ := leaveTx_eq_ok env info h
    refine ⟨?_, ?_, ?_, by split <;> rfl⟩ <;>
      obtain ⟨s, hs⟩ := State.mutateState_eq env.minCollateralAmount (st.rmStake info.caller _) <;>
      rw [hs] <;> rfl
  | kill h =>
    obtain ⟨-, -, -, -, rfl, rfl⟩ := killTx_eq_ok env h
    exact ⟨rfl, rfl, rfl, rfl⟩
  | submitCheckpoint _ _ _ => exact absurd rfl (hm _)

/-- **One step of the votes of `cid`.**  A committed call leaves them alone
    and sends no checkpoint with that cid, or drops them, or adds the vote of
    its caller, a validator that had not voted for `cid`, and sends nothing. -/
theorem votes_step (hc : Commits env receiver info m st st' msg) (cid : Cid) :
    (st'.windowChecks cid = st.windowChecks cid ∧
        ∀ ch ∈ commitsOf msg.toList, env.checkpointCid ch ≠ cid) ∨
      st'.windowChecks cid = none ∨
      (∃ ch, m = .submitCheckpoint ch ∧ env.checkpointCid ch = cid ∧
        st.isValidator info.caller = true ∧ info.caller ∉ (st.windowChecks cid).getD [] ∧
        st'.windowChecks cid = some ((st.windowChecks cid).getD [] ++ [info.caller]) ∧
        msg = none) := by
  by_cases hm : ∃ ch, m = .submitCheckpoint ch
  · obtain ⟨ch, rfl⟩ := hm
    cases hc with
    | submitCheckpoint hv _ ht =>
    obtain ⟨hn, ⟨-, rfl, rfl⟩ | ⟨-, rfl, rfl⟩⟩ := submitCheckpointTx_eq_ok env info ht
    · by_cases hcid : env.checkpointCid ch = cid
      · -- committed: the votes of its cid are gone, or were never stored
        subst cid
        refine .inr (.inl ?_)
        split
        · simp [State.removeVotes]
        · exact Option.not_isSome_iff_eq_none.1 ‹_›
      · refine .inl ⟨?_, by simpa [commitsOf, CrossActorPayload.checkpoint?] using hcid⟩
        split <;> simp [State.removeVotes, State.flushCheckpoint, Function.update_apply, Ne.symm hcid]
    · by_cases hcid : env.checkpointCid ch = cid
      · subst cid
        exact .inr (.inr ⟨ch, rfl, rfl, hv, hn, by simp [State.setVotes, State.getVotes], rfl⟩)
      · exact .inl ⟨by simp [State.setVotes, Function.update_apply, Ne.symm hcid], by simp [commitsOf]⟩
  · have h := frame_of_not_submit env receiver hc fun ch he => hm ⟨ch, he⟩
    exact .inl ⟨congrFun h.1 cid, by rw [h.2.2.2]; nofun⟩

/-- A committed call that sends a checkpoint is a vote for it by a validator
    that had not voted, completing two thirds of the stake. -/
theorem quorum_step (hc : Commits env receiver info m st st' msg) {ch : Checkpoint}
    (hch : ch ∈ commitsOf msg.toList) :
    m = .submitCheckpoint ch ∧ st.isValidator info.caller = true ∧
      info.caller ∉ (st.windowChecks (env.checkpointCid ch)).getD [] ∧
      st.hasMajorityVote ((st.windowChecks (env.checkpointCid ch)).getD [] ++ [info.caller]) = true := by
  by_cases hm : ∃ ch', m = .submitCheckpoint ch'
  · obtain ⟨ch', rfl⟩ := hm
    cases hc with
    | submitCheckpoint hv _ ht =>
    obtain ⟨hn, ⟨hmaj, -, rfl⟩ | ⟨-, -, rfl⟩⟩ := submitCheckpointTx_eq_ok env info ht
    · simp only [commitsOf, Option.toList_some, List.filterMap_cons, CrossActorPayload.checkpoint?,
        List.filterMap_nil, List.mem_singleton] at hch
      subst hch
      exact ⟨rfl, hv, hn, hmaj⟩
    · simp [commitsOf] at hch
  · rw [(frame_of_not_submit env receiver hc fun ch he => hm ⟨ch, he⟩).2.2.2] at hch
    cases hch

/-- A committed call sends no checkpoint and keeps the committed ones, or
    sends the checkpoint of the next expected epoch and flushes it. -/
theorem committed_step (hc : Commits env receiver info m st st' msg) :
    st'.checkPeriod = st.checkPeriod ∧
      ((commitsOf msg.toList = [] ∧ st'.committedCheckpoints = st.committedCheckpoints) ∨
        ∃ ch, commitsOf msg.toList = [ch] ∧ ch.epoch = st.nextCheckEpoch ∧
          st'.committedCheckpoints = st.committedCheckpoints ++ [ch]) := by
  by_cases hm : ∃ ch, m = .submitCheckpoint ch
  · obtain ⟨ch, rfl⟩ := hm
    cases hc with
    | submitCheckpoint _ hver ht =>
    obtain ⟨-, ⟨-, rfl, rfl⟩ | ⟨-, rfl, rfl⟩⟩ := submitCheckpointTx_eq_ok env info ht
    · refine ⟨by split <;> rfl, .inr ⟨ch, rfl, (State.verifyCheckpoint_eq_ok hver).2, ?_⟩⟩
      split <;> rfl
    · exact ⟨rfl, .inl ⟨rfl, rfl⟩⟩
  · obtain ⟨-, hcc, hp, hno⟩ := frame_of_not_submit env receiver hc fun ch he => hm ⟨ch, he⟩
    exact ⟨hp, .inl ⟨hno, hcc⟩⟩

end Votes

/-- `v` voted for `cid` in the run `cs` from `st`, since `cid` was last
    committed: a call of `cs` by `v` that went through submitted a checkpoint
    with that cid while `v` was a validator, and no later call of `cs` sent
    the gateway a checkpoint with that cid. -/
def VotedSince (st : State) (cs : List Call) (cid : Cid) (v : Address) : Prop :=
  ∃ cs₁ c cs₂ ch, cs = cs₁ ++ c :: cs₂ ∧ c.info.caller = v ∧ c.method = .submitCheckpoint ch ∧
    env.checkpointCid ch = cid ∧ (runAlone env receiver st cs₁).1.isValidator v = true ∧
    (∃ st' msg, Commits env receiver c.info c.method (runAlone env receiver st cs₁).1 st' msg) ∧
    ∀ ch' ∈ commitsOf (runAlone env receiver (runAlone env receiver st (cs₁ ++ [c])).1 cs₂).2,
      env.checkpointCid ch' ≠ cid

/-- A later call that sends no checkpoint with that cid keeps a vote counted. -/
theorem VotedSince.snoc {st : State} {cs : List Call} {cid : Cid} {v : Address}
    (h : VotedSince env receiver st cs cid v) {c : Call}
    (hc : ∀ ch ∈ commitsOf (stepAlone env receiver (runAlone env receiver st cs).1 c).2.toList,
      env.checkpointCid ch ≠ cid) :
    VotedSince env receiver st (cs ++ [c]) cid v := by
  obtain ⟨cs₁, c₁, cs₂, ch, rfl, hv, hm, hcid, hval, hcom, hlater⟩ := h
  refine ⟨cs₁, c₁, cs₂ ++ [c], ch, by simp, hv, hm, hcid, hval, hcom, fun ch' hch' => ?_⟩
  have key : (runAlone env receiver st (cs₁ ++ c₁ :: cs₂)).1 =
      (runAlone env receiver (runAlone env receiver st (cs₁ ++ [c₁])).1 cs₂).1 := by
    rw [show cs₁ ++ c₁ :: cs₂ = (cs₁ ++ [c₁]) ++ cs₂ by simp, runAlone_append]
  rw [runAlone_snoc, commitsOf_append, List.mem_append] at hch'
  rw [key] at hc
  exact hch'.elim (hlater ch') (hc ch')

/-- **The stored votes.**  On every run from a state with no stored votes,
    each stored vote set lists distinct addresses, each of which voted for
    that cid as a validator since the cid was last committed. -/
theorem storedVotes_run (st₀ : State) (h₀ : ∀ cid, st₀.windowChecks cid = none) (cs : List Call) :
    ∀ cid vs, (runAlone env receiver st₀ cs).1.windowChecks cid = some vs →
      vs.Nodup ∧ ∀ v ∈ vs, VotedSince env receiver st₀ cs cid v := by
  induction cs using List.reverseRecOn with
  | nil => intro cid vs h; simp [runAlone, h₀] at h
  | append_singleton cs c ih =>
    intro cid vs h
    rw [runAlone_snoc] at h
    rcases stepAlone_cases env receiver (runAlone env receiver st₀ cs).1 c with he | ⟨st', msg, hc, he⟩
    · rw [he] at h
      obtain ⟨hnd, hvs⟩ := ih cid vs h
      exact ⟨hnd, fun v hv => (hvs v hv).snoc env receiver (by simp [he, commitsOf])⟩
    · rw [he] at h
      rcases votes_step env receiver hc cid with ⟨hs, hno⟩ | hnone | ⟨ch, hm, hcid, hval, hn, hs, rfl⟩
      · rw [hs] at h
        obtain ⟨hnd, hvs⟩ := ih cid vs h
        exact ⟨hnd, fun v hv => (hvs v hv).snoc env receiver (by rw [he]; exact hno)⟩
      · rw [hnone] at h; cases h
      · rw [hs] at h
        cases h
        -- the votes stored before, and the caller's new one
        have hold : (((runAlone env receiver st₀ cs).1.windowChecks cid).getD []).Nodup ∧
            ∀ v ∈ ((runAlone env receiver st₀ cs).1.windowChecks cid).getD [],
              VotedSince env receiver st₀ cs cid v := by
          cases hw : (runAlone env receiver st₀ cs).1.windowChecks cid with
          | none => exact ⟨List.nodup_nil, nofun⟩
          | some vs => exact ih cid vs hw
        refine ⟨by simpa using hold.1.concat hn, fun v hv => ?_⟩
        rcases List.mem_append.1 hv with hv | hv
        · exact (hold.2 v hv).snoc env receiver (by rw [he]; nofun)
        · rw [List.mem_singleton] at hv
          subst hv
          exact ⟨cs, c, [], ch, rfl, rfl, hm, hcid, hval, ⟨st', none, hc⟩, by simp [runAlone, commitsOf]⟩

/-- The voters of a checkpoint with cid `cid` once `a` has voted: the stored
    votes, then `a`. -/
def State.votersWith (st : State) (cid : Cid) (a : Address) : List Address :=
  (st.getVotes cid).getD [] ++ [a]

/-- What the vote tally guarantees on a run `cs` of a fresh subnet actor. -/
structure VoteTally (params : ConstructParams) (cs : List Call) : Prop where
  /-- Every stored vote set lists distinct addresses, each of which voted for
      that cid as a validator since the cid was last committed. -/
  stored : ∀ cid vs, (runAlone env receiver (State.new params) cs).1.windowChecks cid = some vs →
    vs.Nodup ∧ ∀ v ∈ vs, VotedSince env receiver (State.new params) cs cid v
  /-- A call that then sends the gateway a checkpoint is a validator's vote;
      with the votes stored for its cid, each cast by a validator since the
      cid was last committed, it makes a list of distinct voters whose
      current stakes, each counted once, make two thirds of the current total
      stake. -/
  commit : ∀ c ch, ch ∈ commitsOf (stepAlone env receiver (runAlone env receiver (State.new params) cs).1 c).2.toList →
    let st := (runAlone env receiver (State.new params) cs).1
    st.isValidator c.info.caller = true ∧
      (∀ v ∈ (st.getVotes (env.checkpointCid ch)).getD [],
        VotedSince env receiver (State.new params) cs (env.checkpointCid ch) v) ∧
      (st.votersWith (env.checkpointCid ch) c.info.caller).Nodup ∧
      2 * st.totalStake ≤
        3 * ((st.votersWith (env.checkpointCid ch) c.info.caller).map fun v => (st.getStake v).getD 0).sum

/-- **Quorum safety of the vote tally.** -/
theorem vote_tally (params : ConstructParams) (cs : List Call) : VoteTally env receiver params cs where
  stored := storedVotes_run env receiver (State.new params) (fun _ => rfl) cs
  commit c ch hch := by
    have hstored := storedVotes_run env receiver (State.new params) (fun _ => rfl) cs
      (env.checkpointCid ch)
    rcases stepAlone_cases env receiver (runAlone env receiver (State.new params) cs).1 c with
      he | ⟨st', msg, hc, he⟩
    · rw [he] at hch; cases hch
    · rw [he] at hch
      obtain ⟨-, hval, hn, hmaj⟩ := quorum_step env receiver hc hch
      have hold : (((runAlone env receiver (State.new params) cs).1.getVotes
            (env.checkpointCid ch)).getD []).Nodup ∧
          ∀ v ∈ ((runAlone env receiver (State.new params) cs).1.getVotes (env.checkpointCid ch)).getD [],
            VotedSince env receiver (State.new params) cs (env.checkpointCid ch) v := by
        cases hw : (runAlone env receiver (State.new params) cs).1.windowChecks (env.checkpointCid ch) with
        | none => simp [State.getVotes, hw]
        | some vs => simpa [State.getVotes, hw] using hstored vs hw
      exact ⟨hval, hold.2, by simpa [State.votersWith] using hold.1.concat hn,
        by simpa [State.hasMajorityVote, State.votersWith, State.getVotes] using hmaj⟩

/-! ## The checkpoints sent -/

/-- The committed checkpoints have epochs `p, 2p, 3p, …` for the period `p`. -/
def EpochsInOrder (st : State) : Prop :=
  st.committedCheckpoints.map Checkpoint.epoch =
    (List.range st.committedCheckpoints.length).map fun k : Nat => ((k : Int) + 1) * st.checkPeriod

theorem nextCheckEpoch_of_epochsInOrder {st : State} (h : EpochsInOrder st) :
    st.nextCheckEpoch = ((st.committedCheckpoints.length : Int) + 1) * st.checkPeriod := by
  unfold State.nextCheckEpoch
  rcases List.eq_nil_or_concat st.committedCheckpoints with hn | ⟨l, x, hx⟩
  · simp [hn]
  · rw [List.concat_eq_append] at hx
    unfold EpochsInOrder at h
    rw [hx, List.map_append, List.length_append, List.length_singleton, List.range_succ,
      List.map_append] at h
    have hx' := (List.append_inj' h rfl).2
    simp only [List.map_cons, List.map_nil, List.cons.injEq, and_true] at hx'
    rw [hx, List.getLast?_append_of_ne_nil _ (List.cons_ne_nil x []), List.getLast?_singleton]
    simp only [Option.map_some', Option.getD_some, hx', List.length_append, List.length_singleton]
    rw [Int.natCast_add, Int.natCast_one, Int.add_mul ((l.length : Int) + 1) 1 st.checkPeriod,
      Int.one_mul]

/-- Each call keeps the epochs of the committed checkpoints in order. -/
theorem epochsInOrder_step {info : MessageInfo} {m : Method} {st st' : State}
    {msg : Option CrossActorPayload} (hc : Commits env receiver info m st st' msg)
    (h : EpochsInOrder st) : EpochsInOrder st' := by
  obtain ⟨hp, ⟨-, hcc⟩ | ⟨ch, -, he, hcc⟩⟩ := committed_step env receiver hc <;>
    unfold EpochsInOrder <;> rw [hcc, hp]
  · exact h
  · rw [List.map_append, List.length_append, List.length_singleton, List.range_succ,
      List.map_append, h, List.map_cons, List.map_nil, he, nextCheckEpoch_of_epochsInOrder h]
    rfl

/-- Over a run, the checkpoints sent are the ones flushed, in order, and the
    epochs stay in order. -/
theorem sent_run (st₀ : State) (h₀ : EpochsInOrder st₀) (cs : List Call) :
    (runAlone env receiver st₀ cs).1.committedCheckpoints =
        st₀.committedCheckpoints ++ commitsOf (runAlone env receiver st₀ cs).2 ∧
      (runAlone env receiver st₀ cs).1.checkPeriod = st₀.checkPeriod ∧
      EpochsInOrder (runAlone env receiver st₀ cs).1 := by
  induction cs generalizing st₀ with
  | nil => simp [runAlone, commitsOf, h₀]
  | cons c cs ih =>
    rcases stepAlone_cases env receiver st₀ c with he | ⟨st', msg, hc, he⟩
    · simpa [runAlone, he, commitsOf] using ih st₀ h₀
    · obtain ⟨hp, hcs⟩ := committed_step env receiver hc
      obtain ⟨h₁, h₂, h₃⟩ := ih st' (epochsInOrder_step env receiver hc h₀)
      simp only [runAlone, he, commitsOf_append]
      refine ⟨?_, h₂.trans hp, h₃⟩
      rw [h₁]
      rcases hcs with ⟨hno, hcc⟩ | ⟨ch, hch, -, hcc⟩
      · simp [hcc, hno]
      · simp [hcc, hch]

/-- The checkpoints a fresh actor sends are the ones it flushed, in order, the
    `k`-th with epoch `(k + 1) · check_period`. -/
theorem sent_epochs (params : ConstructParams) (cs : List Call) :
    commitsOf (runAlone env receiver (State.new params) cs).2 =
        (runAlone env receiver (State.new params) cs).1.committedCheckpoints ∧
      (commitsOf (runAlone env receiver (State.new params) cs).2).map Checkpoint.epoch =
        (List.range (commitsOf (runAlone env receiver (State.new params) cs).2).length).map
          fun k : Nat => ((k : Int) + 1) * params.checkPeriod := by
  obtain ⟨h₁, h₂, h₃⟩ := sent_run env receiver (State.new params) rfl cs
  replace h₁ := h₁.trans (List.nil_append _)
  refine ⟨h₁.symm, ?_⟩
  rw [← h₁]
  unfold EpochsInOrder at h₃
  rw [h₃, h₂]
  rfl

/-- **One checkpoint per epoch.**  On every run of a subnet actor constructed
    with a non-zero checkpoint period, the checkpoints it sends the gateway are
    the ones it flushed, in order, the `k`-th with epoch
    `(k + 1) · check_period`; so no two have the same epoch. -/
theorem commit_once_per_epoch (params : ConstructParams) (hp : params.checkPeriod ≠ 0)
    (cs : List Call) :
    commitsOf (runAlone env receiver (State.new params) cs).2 =
        (runAlone env receiver (State.new params) cs).1.committedCheckpoints ∧
      (commitsOf (runAlone env receiver (State.new params) cs).2).map Checkpoint.epoch =
        (List.range (commitsOf (runAlone env receiver (State.new params) cs).2).length).map
          (fun k : Nat => ((k : Int) + 1) * params.checkPeriod) ∧
      ((commitsOf (runAlone env receiver (State.new params) cs).2).map Checkpoint.epoch).Nodup := by
  obtain ⟨h₁, h₂⟩ := sent_epochs env receiver params cs
  refine ⟨h₁, h₂, ?_⟩
  rw [h₂]
  refine (List.nodup_range _).map fun a b hab => ?_
  have := Int.eq_of_mul_eq_mul_right hp hab
  omega

/-- Validator `7` joins the subnet `/0/5` of actor `5`, then votes twice for
    the same checkpoint, each time alone making the quorum. -/
def tallyCheckpoint (epoch : Int) : Checkpoint := ⟨demoChild, epoch, 0, none, []⟩

def tallyCalls (epoch : Int) : List Call :=
  [⟨⟨7, true, 1, by decide, 0⟩, .join ⟨""⟩, 1⟩,
   ⟨⟨7, true, 0, by decide, 0⟩, .submitCheckpoint (tallyCheckpoint epoch), 0⟩,
   ⟨⟨7, true, 0, by decide, 0⟩, .submitCheckpoint (tallyCheckpoint (2 * epoch)), 0⟩]

theorem commit_once_per_epoch_demo :
    (10 : Int) ≠ 0 ∧
      (commitsOf (runAlone demoEnv 5 (State.new ⟨demoRoot, 10, 1⟩) (tallyCalls 10)).2).map
        Checkpoint.epoch = [10, 20] :=
  ⟨by decide, (commit_once_per_epoch demoEnv 5 ⟨demoRoot, 10, 1⟩ (by decide) (tallyCalls 10)).2.1.trans
    (by decide)⟩

/-- With a checkpoint period of `0`, the next expected epoch never moves: the
    same checkpoint of epoch `0` is sent twice. -/
theorem zeroPeriod_sameEpoch :
    (commitsOf (runAlone demoEnv 5 (State.new ⟨demoRoot, 0, 1⟩) (tallyCalls 0)).2).map
      Checkpoint.epoch = [0, 0] := by
  decide

end IpcActors.SubnetActor
