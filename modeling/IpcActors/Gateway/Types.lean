/-
  IpcActors.Gateway.Types

  The gateway's data model: registry entries, checkpoints, cross-messages,
  postbox items and the actor state, together with the errors and the runtime
  record the methods of `gateway/src/lib.rs` run against.

  `lib.rs` is the only gateway file among the sources; the types live in
  `state.rs`, `subnet.rs`, `checkpoint.rs`, `cross.rs` and `types.rs`, which are
  not.  Their fields are the ones the spec (§3) lists and `lib.rs` reads.
  Content hashes and the collateral threshold `MIN_COLLATERAL_AMOUNT` come
  from outside the code, so they are the fields of `Env`: every result holds
  for every choice of them.
-/
import IpcActors.Runtime

namespace IpcActors

namespace Gateway

/-- `CROSS_MSG_FEE`: 100 nanoFIL, in atto. -/
def crossMsgFee : Int := 100000000000

/-- The burnt-funds actor `f099`, the sink of `burn_bu_funds`. -/
def burntFundsActorAddr : Address := 99

/-- The system actor `f00`, the only caller of `ApplyMessage`. -/
def systemActorAddr : Address := 0

/-- The reward actor `f02`, whose funding hook mints top-down value. -/
def rewardActorAddr : Address := 2

/-! ## Cross-messages -/

/-- `StorableMsg`: a cross-message between two IPC addresses. -/
structure StorableMsg where
  «from» : IPCAddress
  «to» : IPCAddress
  method : Nat
  value : Int
  nonce : Nat
  deriving DecidableEq, Repr

/-- `CrossMsg`: a storable message and its `wrapped` flag. -/
structure CrossMsg where
  msg : StorableMsg
  wrapped : Bool
  deriving DecidableEq, Repr

/-- `IPCMsgType`. -/
inductive IPCMsgType
  | BottomUp
  | TopDown
  deriving DecidableEq, Repr

/-- Modelled from the spec (`cross.rs` is not among the sources): a message is
    bottom-up when it flows toward an ancestor, i.e. its source is not an
    ancestor of (or equal to) its destination. -/
def isBottomup («from» «to» : SubnetID) : Bool := !decide («from» ≤ «to»)

/-- Modelled from the spec (`cross.rs`): `StorableMsg::apply_type(curr)`.  A
    bottom-up message is applied as bottom-up until it reaches its turning
    point `common_parent(from, to)` (§4.3.3, §8 scenario 3); from there on, and
    for every top-down message, it is applied as top-down (§4.3.1).  On the
    tree path between `from` and `to`, `curr`'s common parent with `to` is the
    turning point exactly while the message climbs. -/
def StorableMsg.applyType (msg : StorableMsg) (curr : SubnetID) : IPCMsgType :=
  if isBottomup msg.from.subnet msg.to.subnet ∧
      curr.commonParent msg.to.subnet = msg.from.subnet.commonParent msg.to.subnet then
    .BottomUp
  else .TopDown

/-! ## Checkpoints -/

/-- `CrossMsgs` meta of a checkpoint: the bundle of bottom-up messages it
    carries, their aggregated value and fee, and the cid of the message list
    (`TCid::default()`, i.e. `0`, when there is none). -/
structure CrossMsgs where
  msgs : List CrossMsg
  value : Int
  fee : Int
  msgsCid : Cid
  deriving DecidableEq, Repr

/-- `ChildCheck`: the checkpoints of one child committed in a window. -/
structure ChildCheck where
  source : SubnetID
  checks : List Cid
  deriving DecidableEq, Repr

/-- `Checkpoint`. -/
structure Checkpoint where
  source : SubnetID
  epoch : Int
  prevCheck : Cid
  crossMsgs : Option CrossMsgs
  childChecks : List ChildCheck
  deriving DecidableEq, Repr

/-! ## Registry and postbox -/

/-- `Status` of a registered subnet. -/
inductive Status
  | Active
  | Inactive
  | Killed
  deriving DecidableEq, Repr

/-- `Subnet`: the gateway's registry entry for a child. -/
structure Subnet where
  id : SubnetID
  stake : Int
  topDownMsgs : List CrossMsg
  topdownNonce : Nat
  circSupply : Int
  status : Status
  prevCheckpoint : Option Checkpoint
  deriving DecidableEq, Repr

/-- `PostBoxItem`: a parked cross-message and the addresses allowed to
    propagate it (anyone when `none`). -/
structure PostBoxItem where
  crossMsg : CrossMsg
  owners : Option (List Address)
  deriving DecidableEq, Repr

/-- What the gateway's code takes from outside the sources:
    `MIN_COLLATERAL_AMOUNT` and the content hashes of the blockstore. -/
structure Env where
  minCollateralAmount : Int
  checkpointCid : Checkpoint → Cid
  postboxCid : PostBoxItem → Cid

/-- The gateway `State`. -/
structure State where
  networkName : SubnetID
  subnets : SubnetID → Option Subnet
  checkPeriod : Int
  checkpoints : Int → Option Checkpoint
  bottomupMsgMeta : List CrossMsgs
  nonce : Nat
  appliedBottomupNonce : Nat
  appliedTopdownNonce : Nat
  postbox : Cid → Option PostBoxItem

/-- `ConstructorParams`. -/
structure ConstructorParams where
  networkName : SubnetID
  checkpointPeriod : Int

/-- Modelled from the spec (`State::new` is in `state.rs`): an empty registry,
    ledger and postbox, and all nonces at zero. -/
def State.new (params : ConstructorParams) : State where
  networkName := params.networkName
  subnets := fun _ => none
  checkPeriod := params.checkpointPeriod
  checkpoints := fun _ => none
  bottomupMsgMeta := []
  nonce := 0
  appliedBottomupNonce := 0
  appliedTopdownNonce := 0
  postbox := fun _ => none

/-! ## Method parameters -/

/-- `FundParams`. -/
structure FundParams where
  value : Int
  deriving DecidableEq, Repr

/-- `CrossMsgParams`. -/
structure CrossMsgParams where
  crossMsg : CrossMsg
  destination : SubnetID
  deriving DecidableEq, Repr

/-- `ApplyMsgParams`. -/
structure ApplyMsgParams where
  crossMsg : CrossMsg
  deriving DecidableEq, Repr

/-- `PropagateParams`. -/
structure PropagateParams where
  postboxCid : Cid
  deriving DecidableEq, Repr

/-- `WhitelistPropagatorParams`. -/
structure WhitelistPropagatorParams where
  postboxCid : Cid
  toAdd : List Address
  deriving DecidableEq, Repr

end Gateway

end IpcActors
