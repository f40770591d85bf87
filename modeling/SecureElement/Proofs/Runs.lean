import Mathlib
/-!
# How a fallible operation can end

`Runs rep op k ok fail` follows an operation on states that stand for abstract values: `rep k s` says that the
state `s` stands for `k`. Both ends are described, because what a failed operation leaves behind matters as much
as its result.
-/

namespace SecureElement

/-! ## Evaluation -/

section Evaluation

variable {σ ε α β : Type}

theorem bind_apply (op : EStateM ε σ α) (f : α → EStateM ε σ β) (s : σ) :
    (op >>= f) s = match op s with
      | .ok a s' => f a s'
      | .error e s' => .error e s' := by
  simp only [bind, EStateM.bind]
  cases op s <;> rfl

theorem throw_apply (e : ε) (s : σ) : (throw e : EStateM ε σ α) s = .error e s := rfl

theorem get_apply (s : σ) : (get : EStateM ε σ σ) s = .ok s s := rfl

theorem set_apply (s s' : σ) : (set s' : EStateM ε σ PUnit) s = .ok ⟨⟩ s' := rfl

theorem tryCatch_apply (op : EStateM ε σ α) (handler : ε → EStateM ε σ α) (s : σ) :
    MonadExcept.tryCatch op handler s = match op s with
      | .ok a s' => .ok a s'
      | .error e s' => handler e s' := by
  simp only [MonadExcept.tryCatch, tryCatchThe, MonadExceptOf.tryCatch, EStateM.tryCatch]
  cases op s <;> rfl

end Evaluation

/-! ## Both ends of an operation -/

/-- The state that an operation leaves, whether it ended well or badly. -/
def finalState {ε σ α : Type} : EStateM.Result ε σ α → σ
  | .ok _ s => s
  | .error _ s => s

def conclusion {ε σ α : Type} : EStateM.Result ε σ α → Except ε α
  | .ok a _ => .ok a
  | .error e _ => .error e

def viewed {ε σ τ α : Type} (view : σ → τ) : EStateM.Result ε σ α → EStateM.Result ε τ α
  | .ok a s => .ok a (view s)
  | .error e s => .error e (view s)

theorem conclusion_viewed {ε σ τ α : Type} (view : σ → τ) (result : EStateM.Result ε σ α) :
    conclusion (viewed view result) = conclusion result := by
  cases result <;> rfl

/-- From every state that stands for `k`, `op` ends in a state that stands for some `k'`, well as `ok` says
or badly as `fail` says. -/
def Runs {κ σ ε α : Type} (rep : κ → σ → Prop) (op : EStateM ε σ α) (k : κ)
    (ok : α → κ → Prop) (fail : ε → κ → Prop) : Prop :=
  ∀ s, rep k s →
    match op s with
    | .ok a s' => ∃ k', rep k' s' ∧ ok a k'
    | .error e s' => ∃ k', rep k' s' ∧ fail e k'

namespace Runs

variable {κ σ ε α β : Type} {rep : κ → σ → Prop} {k : κ}
variable {ok ok' : α → κ → Prop} {fail fail' : ε → κ → Prop}

theorem pure {a : α} (h : ok a k) : Runs rep (Pure.pure a : EStateM ε σ α) k ok fail :=
  fun _ hs => ⟨k, hs, h⟩

theorem throw {e : ε} (h : fail e k) : Runs rep (throw e : EStateM ε σ α) k ok fail :=
  fun _ hs => ⟨k, hs, h⟩

theorem mono {op : EStateM ε σ α} (h : Runs rep op k ok fail)
    (hok : ∀ a k', ok a k' → ok' a k') (hfail : ∀ e k', fail e k' → fail' e k') :
    Runs rep op k ok' fail' := by
  intro s hs
  have hop := h s hs
  cases hrun : op s with
  | ok a s' =>
    rw [hrun] at hop
    obtain ⟨k', hs', ha⟩ := hop
    exact ⟨k', hs', hok a k' ha⟩
  | error e s' =>
    rw [hrun] at hop
    obtain ⟨k', hs', he⟩ := hop
    exact ⟨k', hs', hfail e k' he⟩

theorem bind {op : EStateM ε σ α} {f : α → EStateM ε σ β} {mid : α → κ → Prop} {ok : β → κ → Prop}
    (hop : Runs rep op k mid fail) (hf : ∀ a k', mid a k' → Runs rep (f a) k' ok fail) :
    Runs rep (op >>= f) k ok fail := by
  intro s hs
  have hs₁ := hop s hs
  rw [bind_apply]
  cases hrun : op s with
  | ok a s' =>
    rw [hrun] at hs₁
    obtain ⟨k', hs', ha⟩ := hs₁
    exact hf a k' ha s' hs'
  | error e s' =>
    rw [hrun] at hs₁
    exact hs₁

theorem tryCatch {op : EStateM ε σ α} {handler : ε → EStateM ε σ α} {mid : ε → κ → Prop}
    (hop : Runs rep op k ok mid) (hhandler : ∀ e k', mid e k' → Runs rep (handler e) k' ok fail) :
    Runs rep (MonadExcept.tryCatch op handler) k ok fail := by
  intro s hs
  have hs₁ := hop s hs
  rw [tryCatch_apply]
  cases hrun : op s with
  | ok a s' =>
    rw [hrun] at hs₁
    exact hs₁
  | error e s' =>
    rw [hrun] at hs₁
    obtain ⟨k', hs', he⟩ := hs₁
    exact hhandler e k' he s' hs'

theorem bind_never {op : EStateM ε σ α} {f : α → EStateM ε σ β} {ok : β → κ → Prop}
    (hop : Runs rep op k (fun _ _ => False) fail) : Runs rep (op >>= f) k ok fail :=
  hop.bind fun _ _ h => h.elim

/-- A loop over a list keeps an invariant that is indexed by what is left to do. -/
theorem forM {τ : Type} {f : τ → EStateM ε σ PUnit} (inv : List τ → κ → Prop)
    (step : ∀ x xs k, inv (x :: xs) k → Runs rep (f x) k (fun _ k' => inv xs k') fail) :
    ∀ xs k, inv xs k → Runs rep (xs.forM f) k (fun _ k' => inv [] k') fail
  | [], _, h => Runs.pure h
  | x :: xs, k, h => Runs.bind (step x xs k h) fun _ k' hk' => forM inv step xs k' hk'

theorem mapM_each {τ : Type} {f : τ → EStateM ε σ α} {g : τ → α} (xs : List τ)
    (h : ∀ x ∈ xs, Runs rep (f x) k (fun b k' => b = g x ∧ k' = k) fail) :
    Runs rep (xs.mapM f) k (fun as k' => as = xs.map g ∧ k' = k) fail := by
  induction xs with
  | nil =>
    rw [List.mapM_nil]
    exact Runs.pure ⟨rfl, rfl⟩
  | cons x xs ih =>
    obtain ⟨hx, hxs⟩ := List.forall_mem_cons.1 h
    rw [List.mapM_cons]
    refine hx.bind ?_
    rintro _ _ ⟨rfl, rfl⟩
    refine (ih hxs).bind ?_
    rintro _ _ ⟨rfl, rfl⟩
    exact Runs.pure ⟨rfl, rfl⟩

theorem mapM {τ : Type} {f : τ → EStateM ε σ α} {a : α} (xs : List τ)
    (h : ∀ x ∈ xs, Runs rep (f x) k (fun b k' => b = a ∧ k' = k) fail) :
    Runs rep (xs.mapM f) k (fun as k' => as = List.replicate xs.length a ∧ k' = k) fail := by
  rw [← List.map_const']
  exact mapM_each xs h

theorem of_ok {op : EStateM ε σ α} {s s' : σ} {a : α} (h : Runs rep op k ok fail) (hs : rep k s)
    (hrun : op s = .ok a s') : ∃ k', rep k' s' ∧ ok a k' := by
  have hop := h s hs
  rwa [hrun] at hop

theorem finalState {op : EStateM ε σ α} {s : σ} {post : κ → Prop}
    (h : Runs rep op k (fun _ k' => post k') (fun _ k' => post k')) (hs : rep k s) :
    ∃ k', rep k' (finalState (op s)) ∧ post k' := by
  have hop := h s hs
  cases hrun : op s with
  | ok a s' =>
    rw [hrun] at hop
    exact hop
  | error e s' =>
    rw [hrun] at hop
    exact hop

theorem exists_ok {op : EStateM ε σ α} {s : σ} (h : Runs rep op k ok fail) (hs : rep k s)
    (hfail : ∀ e k', ¬ fail e k') : ∃ a s' k', op s = .ok a s' ∧ rep k' s' ∧ ok a k' := by
  have hop := h s hs
  cases hrun : op s with
  | ok a s' =>
    rw [hrun] at hop
    obtain ⟨k', hs', ha⟩ := hop
    exact ⟨a, s', k', rfl, hs', ha⟩
  | error e s' =>
    rw [hrun] at hop
    obtain ⟨k', _, he⟩ := hop
    exact absurd he (hfail e k')

theorem exists_error {op : EStateM ε σ α} {s : σ} (h : Runs rep op k (fun _ _ => False) fail) (hs : rep k s) :
    ∃ e s' k', op s = .error e s' ∧ rep k' s' ∧ fail e k' := by
  have hop := h s hs
  cases hrun : op s with
  | ok a s' =>
    rw [hrun] at hop
    obtain ⟨_, _, hfalse⟩ := hop
    exact hfalse.elim
  | error e s' =>
    rw [hrun] at hop
    obtain ⟨k', hs', he⟩ := hop
    exact ⟨e, s', k', rfl, hs', he⟩

end Runs

end SecureElement
