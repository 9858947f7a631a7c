/-
  IpcActors.Runtime

  The host runtime of `fil_actors_runtime` as one actor sees it during a
  method call, modelled from the spec (§5, §7): the actor's committed state,
  its balance, and the sends it has made so far.

  A method runs in `RtM`.  `transaction f` runs the closure `f` on the
  committed state and commits its result, or leaves the state untouched when
  `f` fails; `send` moves value out of the balance.  A failure ends the method
  but keeps what was committed before it: an outbound send that fails after a
  transaction does not undo the transaction (§7).
-/
import IpcActors.SubnetId

namespace IpcActors

/-- `fvm_shared::error::ExitCode`, the codes the actors' errors carry. -/
inductive ExitCode
  | illegalArgument
  | illegalState
  | insufficientFunds
  | unhandledMessage
  | forbidden
  | sysInsufficientFunds
  | sysPanic
  deriving DecidableEq, Repr

/-- `ActorError`: an exit code and its message. -/
structure ActorError where
  exitCode : ExitCode
  msg : String
  deriving DecidableEq, Repr

/-- The error of the runtime's caller validation (`validate_immediate_caller_*`). -/
def ActorError.forbidden : ActorError := ⟨.forbidden, "caller not of an accepted type"⟩

/-- A panic of the actor's code, such as `unwrap` on `None`. -/
def ActorError.panic : ActorError := ⟨.sysPanic, "called Option::unwrap() on a None value"⟩

/-- The error of a send the balance does not cover. -/
def ActorError.sendFailed : ActorError := ⟨.sysInsufficientFunds, "not enough balance to send"⟩

/-- The methods a gateway send names.  `send` is `METHOD_SEND`, a plain
    transfer; `reward` is `SUBNET_ACTOR_REWARD_METHOD`, the subnet actor's
    `Reward`; `externalFunding` is the reward actor's funding hook; `num` is the
    method number an applied cross-message carries. -/
inductive MethodNum
  | send
  | reward
  | externalFunding
  | num (n : Nat)
  deriving DecidableEq, Repr

/-- A completed `rt.send`: recipient, method and value. -/
structure Send where
  «to» : Address
  method : MethodNum
  value : Int
  deriving DecidableEq, Repr

/-- The runtime during a call: the committed state, the balance, the sends. -/
structure Runtime (σ : Type) where
  state : σ
  balance : Int
  sent : List Send

/-- How a method ends: with a result or an error, and the runtime as it was
    left. -/
inductive Outcome (σ α : Type) where
  | ok (a : α) (rt : Runtime σ)
  | err (e : ActorError) (rt : Runtime σ)

namespace Outcome

variable {σ α : Type}

/-- The runtime a method leaves behind, whether it succeeded or not. -/
def rt : Outcome σ α → Runtime σ
  | ok _ rt => rt
  | err _ rt => rt

/-- The method succeeded. -/
def isOk : Outcome σ α → Bool
  | ok .. => true
  | err .. => false

/-- The error the method failed with, if it failed. -/
def error? : Outcome σ α → Option ActorError
  | ok .. => none
  | err e _ => some e

@[simp] theorem rt_ok (a : α) (rt : Runtime σ) : (ok a rt).rt = rt := rfl
@[simp] theorem rt_err (e : ActorError) (rt : Runtime σ) : (err e rt : Outcome σ α).rt = rt := rfl
@[simp] theorem isOk_ok (a : α) (rt : Runtime σ) : (ok a rt).isOk = true := rfl
@[simp] theorem isOk_err (e : ActorError) (rt : Runtime σ) :
    (err e rt : Outcome σ α).isOk = false := rfl

end Outcome

/-- A method of an actor with state `σ`. -/
def RtM (σ α : Type) : Type := Runtime σ → Outcome σ α

namespace RtM

variable {σ α β : Type}

instance : Monad (RtM σ) where
  pure a rt := .ok a rt
  bind x f rt := match x rt with
    | .ok a rt' => f a rt'
    | .err e rt' => .err e rt'

instance : MonadExceptOf ActorError (RtM σ) where
  throw e rt := .err e rt
  tryCatch x h rt := match x rt with
    | .ok a rt' => .ok a rt'
    | .err e rt' => h e rt'

@[simp] theorem pure_apply (a : α) (rt : Runtime σ) : (pure a : RtM σ α) rt = .ok a rt := rfl

@[simp] theorem throw_apply (e : ActorError) (rt : Runtime σ) :
    (throw e : RtM σ α) rt = .err e rt := rfl

theorem bind_apply (x : RtM σ α) (f : α → RtM σ β) (rt : Runtime σ) :
    (x >>= f) rt = match x rt with
      | .ok a rt' => f a rt'
      | .err e rt' => .err e rt' := rfl

@[simp] theorem bind_ok {x : RtM σ α} {rt rt' : Runtime σ} {a : α} (f : α → RtM σ β)
    (h : x rt = .ok a rt') : (x >>= f) rt = f a rt' := by
  rw [bind_apply, h]

@[simp] theorem bind_err {x : RtM σ α} {rt rt' : Runtime σ} {e : ActorError}
    (f : α → RtM σ β) (h : x rt = .err e rt') : (x >>= f) rt = .err e rt' := by
  rw [bind_apply, h]

end RtM

/-- `rt.transaction(f)`: run `f` on the committed state, and commit what it
    returns or, when it fails, nothing. -/
def transaction {σ α : Type} (f : σ → Except ActorError (σ × α)) : RtM σ α := fun rt =>
  match f rt.state with
  | .ok (st, a) => .ok a { rt with state := st }
  | .error e => .err e rt

/-- `rt.state()`: read the committed state. -/
def getState {σ : Type} : RtM σ σ := fun rt => .ok rt.state rt

/-- `rt.current_balance()`. -/
def currentBalance {σ : Type} : RtM σ Int := fun rt => .ok rt.balance rt

/-- `rt.send(to, method, params, value)` to a callee that accepts it: the
    value leaves the balance; a send the balance does not cover fails and
    moves nothing. -/
def send {σ : Type} («to» : Address) (method : MethodNum) (value : Int) :
    RtM σ Unit := fun rt =>
  if 0 ≤ value ∧ value ≤ rt.balance then
    .ok () { rt with balance := rt.balance - value, sent := rt.sent ++ [⟨«to», method, value⟩] }
  else .err ActorError.sendFailed rt

section Lemmas

variable {σ α : Type}

@[simp] theorem transaction_ok {f : σ → Except ActorError (σ × α)} {rt : Runtime σ}
    {st : σ} {a : α} (h : f rt.state = .ok (st, a)) :
    transaction f rt = .ok a { rt with state := st } := by
  simp [transaction, h]

@[simp] theorem transaction_error {f : σ → Except ActorError (σ × α)} {rt : Runtime σ}
    {e : ActorError} (h : f rt.state = .error e) : transaction f rt = .err e rt := by
  simp [transaction, h]

@[simp] theorem getState_apply (rt : Runtime σ) : (getState : RtM σ σ) rt = .ok rt.state rt :=
  rfl

@[simp] theorem currentBalance_apply (rt : Runtime σ) :
    (currentBalance : RtM σ Int) rt = .ok rt.balance rt := rfl

@[simp] theorem RtM.pure_bind {β : Type} (a : α) (f : α → RtM σ β) (rt : Runtime σ) :
    ((pure a : RtM σ α) >>= f) rt = f a rt := rfl

theorem RtM.isOk_bind_pure {β : Type} (x : RtM σ α) (b : β) (rt : Runtime σ) :
    ((x >>= fun _ => pure b) rt).isOk = (x rt).isOk := by
  rw [RtM.bind_apply]; cases x rt <;> rfl

theorem transaction_state {f : σ → Except ActorError (σ × α)} {rt : Runtime σ} {st : σ} {a : α}
    (h : f rt.state = .ok (st, a)) : (transaction f rt).rt.state = st := by
  simp [transaction, h]

/-- A send changes only the balance and the record of sends. -/
theorem send_state {«to» : Address} {m : MethodNum} {v : Int} {rt : Runtime σ} :
    ((send «to» m v : RtM σ Unit) rt).rt.state = rt.state := by
  unfold send; split <;> rfl

end Lemmas

/-! ## What a method commits

`Stays x`: `x` commits nothing.  `Within P x`: `x` commits nothing, or a state
that `P` allows from the one it started in.  A method of `lib.rs` runs one
transaction among checks and sends, so its `Within` follows from these
combinators and the transaction's own spec. -/

section Within

variable {σ α β : Type} {P : σ → σ → Prop}

/-- The program leaves the committed state as it found it. -/
def Stays (x : RtM σ α) : Prop := ∀ rt, (x rt).rt.state = rt.state

/-- The program commits nothing, or a state `P` allows from the one it found. -/
def Within (P : σ → σ → Prop) (x : RtM σ α) : Prop :=
  ∀ rt, (x rt).rt.state = rt.state ∨ P rt.state (x rt).rt.state

theorem stays_pure (a : α) : Stays (pure a : RtM σ α) := fun _ => rfl

theorem stays_getState : Stays (getState : RtM σ σ) := fun _ => rfl

theorem stays_currentBalance : Stays (currentBalance : RtM σ Int) := fun _ => rfl

theorem stays_send («to» : Address) (m : MethodNum) (v : Int) :
    Stays (send «to» m v : RtM σ Unit) := fun _ => send_state

theorem Stays.bind {x : RtM σ α} {f : α → RtM σ β} (hx : Stays x) (hf : ∀ a, Stays (f a)) :
    Stays (x >>= f) := by
  intro rt
  rw [RtM.bind_apply]
  rcases h : x rt with ⟨a, rt'⟩ | ⟨e, rt'⟩
  · have := hx rt; rw [h] at this; simpa [← this] using hf a rt'
  · have := hx rt; rw [h] at this; exact this

/-- What follows a program that commits nothing more leaves its state as it was. -/
theorem Stays.bind_state {x : RtM σ α} {k : α → RtM σ β} (hk : ∀ a, Stays (k a))
    (rt : Runtime σ) : ((x >>= k) rt).rt.state = (x rt).rt.state := by
  rw [RtM.bind_apply]
  rcases x rt with ⟨a, rt'⟩ | ⟨e, rt'⟩
  · exact hk a rt'
  · rfl

theorem Stays.ite {c : Prop} [Decidable c] {x y : RtM σ α} (hx : Stays x) (hy : Stays y) :
    Stays (if c then x else y) := by
  split <;> assumption

theorem Stays.within {x : RtM σ α} (h : Stays x) : Within P x := fun rt => .inl (h rt)

theorem within_transaction {f : σ → Except ActorError (σ × α)}
    (h : ∀ st st' a, f st = .ok (st', a) → P st st') : Within P (transaction f) := by
  intro rt
  unfold transaction
  split
  · exact .inr (h _ _ _ ‹_›)
  · exact .inl rfl

theorem Within.bind_stays {x : RtM σ α} {f : α → RtM σ β} (hx : Within P x)
    (hf : ∀ a, Stays (f a)) : Within P (x >>= f) := by
  intro rt
  rw [RtM.bind_apply]
  rcases h : x rt with ⟨a, rt'⟩ | ⟨e, rt'⟩ <;> have := hx rt <;> rw [h] at this
  · simpa only [hf a rt'] using this
  · exact this

theorem Stays.bind_within {x : RtM σ α} {f : α → RtM σ β} (hx : Stays x)
    (hf : ∀ a, Within P (f a)) : Within P (x >>= f) := by
  intro rt
  rw [RtM.bind_apply]
  rcases h : x rt with ⟨a, rt'⟩ | ⟨e, rt'⟩ <;> have := hx rt <;> rw [h] at this
  · have e : rt'.state = rt.state := this
    rw [← e]; exact hf a rt'
  · exact .inl this

theorem Within.ite {c : Prop} [Decidable c] {x y : RtM σ α} (hx : Within P x)
    (hy : Within P y) : Within P (if c then x else y) := by
  split <;> assumption

/-- A program that reads the committed state first may use what it read. -/
theorem within_getState_bind {f : σ → RtM σ α}
    (h : ∀ st, Within (fun s s' => s = st → P s s') (f st)) : Within P (getState >>= f) :=
  fun rt => (h rt.state rt).imp_right fun hp => hp rfl

/-- A check that throws when `c` holds: what follows runs only when it does not. -/
theorem within_guard {c : Prop} [Decidable c] {e : ActorError} {k : PUnit → RtM σ α}
    (hk : ¬ c → Within P (k PUnit.unit)) :
    Within P (if c then throw e >>= k else pure PUnit.unit >>= k) := by
  split
  · exact Stays.within (x := throw e >>= k) fun _ => rfl
  · exact (stays_pure _).bind_within fun _ => hk ‹_›

theorem Within.mono {Q : σ → σ → Prop} {x : RtM σ α} (h : Within P x)
    (hPQ : ∀ s s', P s s' → Q s s') : Within Q x :=
  fun rt => (h rt).imp_right (hPQ _ _)

end Within

end IpcActors
