/-
  IpcActors.SubnetActor.State

  The subnet actor's state: the validator book and the vote tally (§3, §4.4).

  The subnet actor's `state.rs` is not among the sources, so the state and
  every operation on it are modelled from the spec.  The stake table is an
  association list with one entry per address, which `StakeTable` carries as
  a field; `total_stake` is kept beside it, and the spec's invariant
  `total_stake == Σ stake_table` is a theorem about the actor's runs
  (`IpcActors.Joint.Ledger`), not a field.  Votes are kept per checkpoint
  cid; committed checkpoints are kept in the order they were flushed, which is
  all the check of "the next expected period" reads of them.

  Fields of the constructor parameters and of the state that no modelled
  method reads (name, consensus, genesis, the minimum validator stake) are left
  out.
-/
import IpcActors.Gateway.Actor
import Mathlib.Data.List.Nodup
import Mathlib.Algebra.Ring.Int.Defs
import Mathlib.Algebra.Order.BigOperators.Group.List
import Mathlib.Algebra.Order.Group.Int

namespace IpcActors.SubnetActor

open Gateway (Checkpoint)

/-- `Status` of a subnet as its subnet actor sees it. -/
inductive Status
  | Instantiated
  | Active
  | Inactive
  | Terminating
  | Killed
  deriving DecidableEq, Repr

/-- `Validator`: an address that joined, with its network address. -/
structure Validator where
  addr : Address
  netAddr : String
  deriving DecidableEq, Repr

/-! ## The stake table -/

/-- The entry of `a` in an association list. -/
def getEntry (a : Address) : List (Address × Int) → Option Int
  | [] => none
  | (b, w) :: l => if b = a then some w else getEntry a l

/-- Set the entry of `a` to `v`, appending one when `a` has none. -/
def setEntry (a : Address) (v : Int) : List (Address × Int) → List (Address × Int)
  | [] => [(a, v)]
  | (b, w) :: l => if b = a then (a, v) :: l else (b, w) :: setEntry a v l

theorem keys_setEntry (a : Address) (v : Int) :
    ∀ l : List (Address × Int), (setEntry a v l).map Prod.fst =
      if a ∈ l.map Prod.fst then l.map Prod.fst else l.map Prod.fst ++ [a]
  | [] => rfl
  | (b, w) :: l => by
    by_cases hb : b = a
    · subst hb; simp [setEntry]
    · simp only [setEntry, if_neg hb, List.map_cons, keys_setEntry a v l, List.mem_cons,
        Ne.symm hb, false_or]
      split <;> rfl

theorem getEntry_setEntry (a : Address) (v : Int) (c : Address) :
    ∀ l : List (Address × Int), getEntry c (setEntry a v l) = if a = c then some v else getEntry c l
  | [] => rfl
  | (b, w) :: l => by
    by_cases hb : b = a
    · subst hb; by_cases hc : b = c <;> simp [setEntry, getEntry, hc]
    · simp only [setEntry, if_neg hb, getEntry, getEntry_setEntry a v c l]
      by_cases hc : b = c
      · subst hc; simp [Ne.symm hb]
      · simp [hc]

/-- Setting one entry moves the sum by the change of that entry. -/
theorem sum_setEntry (a : Address) (v : Int) :
    ∀ l : List (Address × Int), ((setEntry a v l).map Prod.snd).sum =
      (l.map Prod.snd).sum - (getEntry a l).getD 0 + v
  | [] => by simp [setEntry, getEntry]
  | (b, w) :: l => by
    by_cases hb : b = a
    · subst hb; simp only [setEntry, getEntry, if_true, List.map_cons, List.sum_cons,
        Option.getD_some]; omega
    · simp only [setEntry, if_neg hb, getEntry, List.map_cons, List.sum_cons, sum_setEntry a v l]
      omega

theorem mem_of_getEntry (a : Address) :
    ∀ {l : List (Address × Int)} {s : Int}, getEntry a l = some s → (a, s) ∈ l
  | [], _, h => by cases h
  | (b, w) :: l, s, h => by
    unfold getEntry at h
    split at h
    · cases h; subst b; exact List.mem_cons_self _ _
    · exact List.mem_cons_of_mem _ (mem_of_getEntry a h)

theorem mem_setEntry (a : Address) (v : Int) :
    ∀ {l : List (Address × Int)} {p : Address × Int}, p ∈ setEntry a v l → p ∈ l ∨ p = (a, v)
  | [], _, h => .inr (List.mem_singleton.1 h)
  | (b, w) :: l, p, h => by
    unfold setEntry at h
    split at h
    · rcases List.mem_cons.1 h with rfl | h
      · exact .inr rfl
      · exact .inl (List.mem_cons_of_mem _ h)
    · rcases List.mem_cons.1 h with rfl | h
      · exact .inl (List.mem_cons_self _ _)
      · exact (mem_setEntry a v h).imp_left (List.mem_cons_of_mem _)

/-- `stake_table`: the stake of each address that joined, one entry per address. -/
structure StakeTable where
  entries : List (Address × Int)
  nodup : (entries.map Prod.fst).Nodup

namespace StakeTable

def empty : StakeTable := ⟨[], List.nodup_nil⟩

/-- `get_stake`. -/
def get (t : StakeTable) (a : Address) : Option Int := getEntry a t.entries

/-- `set_stake`. -/
def set (t : StakeTable) (a : Address) (v : Int) : StakeTable :=
  ⟨setEntry a v t.entries, by
    rw [keys_setEntry]
    split
    · exact t.nodup
    · simpa using t.nodup.concat ‹_›⟩

/-- The sum of the stakes. -/
def sum (t : StakeTable) : Int := (t.entries.map Prod.snd).sum

@[simp] theorem get_set (t : StakeTable) (a : Address) (v : Int) (c : Address) :
    (t.set a v).get c = if a = c then some v else t.get c :=
  getEntry_setEntry a v c t.entries

theorem sum_set (t : StakeTable) (a : Address) (v : Int) :
    (t.set a v).sum = t.sum - (t.get a).getD 0 + v :=
  sum_setEntry a v t.entries

/-- Every stake in the table is non-negative. -/
def Nonneg (t : StakeTable) : Prop := ∀ p ∈ t.entries, 0 ≤ p.2

theorem Nonneg.set {t : StakeTable} (h : t.Nonneg) (a : Address) {v : Int} (hv : 0 ≤ v) :
    (t.set a v).Nonneg := fun p hp => (mem_setEntry a v hp).elim (h p) fun he => he ▸ hv

theorem Nonneg.get_nonneg {t : StakeTable} (h : t.Nonneg) {a : Address} {s : Int}
    (hg : t.get a = some s) : 0 ≤ s :=
  h _ (mem_of_getEntry a hg)

/-- A stake is at most the sum of the table. -/
theorem Nonneg.get_le_sum {t : StakeTable} (h : t.Nonneg) {a : Address} {s : Int}
    (hg : t.get a = some s) : s ≤ t.sum :=
  List.single_le_sum (fun _ hx => by
    obtain ⟨p, hp, rfl⟩ := List.mem_map.1 hx
    exact h p hp) s (List.mem_map.2 ⟨_, mem_of_getEntry a hg, rfl⟩)

theorem Nonneg.sum_nonneg {t : StakeTable} (h : t.Nonneg) : 0 ≤ t.sum :=
  List.sum_nonneg fun _ hx => by
    obtain ⟨p, hp, rfl⟩ := List.mem_map.1 hx
    exact h p hp

@[simp] theorem get_empty (a : Address) : empty.get a = none := rfl

@[simp] theorem sum_empty : empty.sum = 0 := rfl

end StakeTable

/-! ## The state -/

/-- `ConstructParams`, the fields the modelled methods read. -/
structure ConstructParams where
  parent : SubnetID
  checkPeriod : Int
  ipcGatewayAddr : Address

/-- The subnet actor's `State`: `window_checks` holds the votes of each
    checkpoint cid, `committed_checkpoints` the checkpoints flushed so far. -/
structure State where
  parentId : SubnetID
  ipcGatewayAddr : Address
  checkPeriod : Int
  status : Status
  stake : StakeTable
  totalStake : Int
  validatorSet : List Validator
  committedCheckpoints : List Checkpoint
  windowChecks : Cid → Option (List Address)

/-- Modelled from the spec (`State::new`): no stake, no validators, no votes. -/
def State.new (params : ConstructParams) : State where
  parentId := params.parent
  ipcGatewayAddr := params.ipcGatewayAddr
  checkPeriod := params.checkPeriod
  status := .Instantiated
  stake := .empty
  totalStake := 0
  validatorSet := []
  committedCheckpoints := []
  windowChecks := fun _ => none

namespace State

/-- `State::get_stake`. -/
def getStake (st : State) (a : Address) : Option Int := st.stake.get a

/-- `State::is_validator`. -/
def isValidator (st : State) (a : Address) : Bool := decide (a ∈ st.validatorSet.map Validator.addr)

/-- Modelled from the spec (`State::add_stake`, §4.4 Join): credit `amount` to
    the stake of `a` and to the total, and add `a` to the validator set, or
    update its network address. -/
def addStake (st : State) (a : Address) (netAddr : String) (amount : Int) : State :=
  { st with
    stake := st.stake.set a ((st.getStake a).getD 0 + amount)
    totalStake := st.totalStake + amount
    validatorSet :=
      if a ∈ st.validatorSet.map Validator.addr then
        st.validatorSet.map fun v => if v.addr = a then ⟨a, netAddr⟩ else v
      else st.validatorSet ++ [⟨a, netAddr⟩] }

/-- Modelled from the spec (`State::rm_stake`, §4.4 Leave): take `amount` off
    the stake of `a` and off the total, and drop `a` from the validator set. -/
def rmStake (st : State) (a : Address) (amount : Int) : State :=
  { st with
    stake := st.stake.set a ((st.getStake a).getD 0 - amount)
    totalStake := st.totalStake - amount
    validatorSet := st.validatorSet.filter fun v => v.addr ≠ a }

/-- Modelled from the spec (`State::mutate_state`, §4.4): the status follows
    the total stake against the minimum collateral, from the instantiated
    status on, until the subnet terminates. -/
def mutateState (min : Int) (st : State) : State :=
  match st.status with
  | .Instantiated => if min ≤ st.totalStake then { st with status := .Active } else st
  | .Active => if st.totalStake < min then { st with status := .Inactive } else st
  | .Inactive => if min ≤ st.totalStake then { st with status := .Active } else st
  | _ => st

/-- Modelled from the spec (`State::has_majority_vote`, §4.4): the voters'
    stakes, each counted once per vote, make at least two thirds of the
    total stake. -/
def hasMajorityVote (st : State) (votes : List Address) : Bool :=
  decide (2 * st.totalStake ≤ 3 * (votes.map fun v => (st.getStake v).getD 0).sum)

/-- The epoch of the next expected checkpoint: one period after the last one
    committed, or after epoch `0`. -/
def nextCheckEpoch (st : State) : Int :=
  (st.committedCheckpoints.getLast?.map Checkpoint.epoch).getD 0 + st.checkPeriod

/-- Modelled from the spec (`State::verify_checkpoint`, §4.4 step 2): the
    checkpoint comes from this subnet and is for the next expected period.
    Signatures are not modelled. -/
def verifyCheckpoint (st : State) (receiver : Address) (ch : Checkpoint) :
    Except String Unit :=
  if ch.source ≠ SubnetID.newFromParent st.parentId receiver then
    .error "submitting checkpoint with the wrong source"
  else if ch.epoch ≠ st.nextCheckEpoch then
    .error "checkpoint epoch is not the next expected period"
  else .ok ()

theorem verifyCheckpoint_eq_ok {st : State} {receiver : Address} {ch : Checkpoint}
    (h : st.verifyCheckpoint receiver ch = .ok ()) :
    ch.source = SubnetID.newFromParent st.parentId receiver ∧ ch.epoch = st.nextCheckEpoch := by
  unfold verifyCheckpoint at h
  split at h
  · cases h
  · split at h
    · cases h
    · exact ⟨not_not.1 ‹_›, not_not.1 ‹_›⟩

/-- Modelled from the spec (`State::flush_checkpoint`). -/
def flushCheckpoint (st : State) (ch : Checkpoint) : State :=
  { st with committedCheckpoints := st.committedCheckpoints ++ [ch] }

/-- `State::get_votes`. -/
def getVotes (st : State) (cid : Cid) : Option (List Address) := st.windowChecks cid

/-- `State::set_votes`. -/
def setVotes (st : State) (cid : Cid) (votes : List Address) : State :=
  { st with windowChecks := Function.update st.windowChecks cid (some votes) }

/-- `State::remove_votes`. -/
def removeVotes (st : State) (cid : Cid) : State :=
  { st with windowChecks := Function.update st.windowChecks cid none }

/-! ### What each operation changes -/

@[simp] theorem addStake_fields (st : State) (a : Address) (n : String) (v : Int) :
    (st.addStake a n v).status = st.status ∧ (st.addStake a n v).ipcGatewayAddr = st.ipcGatewayAddr ∧
      (st.addStake a n v).committedCheckpoints = st.committedCheckpoints ∧
      (st.addStake a n v).windowChecks = st.windowChecks ∧
      (st.addStake a n v).checkPeriod = st.checkPeriod ∧ (st.addStake a n v).parentId = st.parentId :=
  ⟨rfl, rfl, rfl, rfl, rfl, rfl⟩

@[simp] theorem addStake_stake (st : State) (a : Address) (n : String) (v : Int) :
    (st.addStake a n v).totalStake = st.totalStake + v ∧
      (st.addStake a n v).stake = st.stake.set a ((st.getStake a).getD 0 + v) :=
  ⟨rfl, rfl⟩

@[simp] theorem rmStake_stake (st : State) (a : Address) (v : Int) :
    (st.rmStake a v).totalStake = st.totalStake - v ∧
      (st.rmStake a v).stake = st.stake.set a ((st.getStake a).getD 0 - v) :=
  ⟨rfl, rfl⟩

@[simp] theorem rmStake_fields (st : State) (a : Address) (v : Int) :
    (st.rmStake a v).status = st.status ∧ (st.rmStake a v).ipcGatewayAddr = st.ipcGatewayAddr ∧
      (st.rmStake a v).committedCheckpoints = st.committedCheckpoints ∧
      (st.rmStake a v).windowChecks = st.windowChecks ∧
      (st.rmStake a v).checkPeriod = st.checkPeriod ∧ (st.rmStake a v).parentId = st.parentId :=
  ⟨rfl, rfl, rfl, rfl, rfl, rfl⟩

/-- `mutate_state` changes the status only. -/
theorem mutateState_eq (min : Int) (st : State) :
    ∃ s, st.mutateState min = { st with status := s } := by
  unfold mutateState
  split <;> (try split) <;> exact ⟨_, rfl⟩

/-- The status `mutate_state` moves to. -/
theorem mutateState_status (min : Int) (st : State) :
    (st.mutateState min).status = match st.status with
      | .Instantiated => if min ≤ st.totalStake then .Active else .Instantiated
      | .Active => if st.totalStake < min then .Inactive else .Active
      | .Inactive => if min ≤ st.totalStake then .Active else .Inactive
      | s => s := by
  unfold mutateState
  cases h : st.status <;> simp only [h] <;> (try split) <;> simp only [h]

@[simp] theorem mutateState_fields (min : Int) (st : State) :
    (st.mutateState min).totalStake = st.totalStake ∧ (st.mutateState min).stake = st.stake ∧
      (st.mutateState min).validatorSet = st.validatorSet ∧
      (st.mutateState min).ipcGatewayAddr = st.ipcGatewayAddr := by
  obtain ⟨s, hs⟩ := mutateState_eq min st
  rw [hs]
  exact ⟨rfl, rfl, rfl, rfl⟩

@[simp] theorem flushCheckpoint_fields (st : State) (ch : Checkpoint) :
    (st.flushCheckpoint ch).status = st.status ∧ (st.flushCheckpoint ch).stake = st.stake ∧
      (st.flushCheckpoint ch).totalStake = st.totalStake ∧
      (st.flushCheckpoint ch).validatorSet = st.validatorSet ∧
      (st.flushCheckpoint ch).windowChecks = st.windowChecks ∧
      (st.flushCheckpoint ch).ipcGatewayAddr = st.ipcGatewayAddr :=
  ⟨rfl, rfl, rfl, rfl, rfl, rfl⟩

end State

end IpcActors.SubnetActor
