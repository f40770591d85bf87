import SecureElement.Proofs.Runs
/-!
# Operations that are alike

Two operations, perhaps on states of different kinds, that end the same way and in related states whenever they start
in related states. An operation that is like itself along equality and a property keeps the property.
-/

namespace SecureElement

inductive Agree {ε σ τ α : Type} (R : σ → τ → Prop) :
    EStateM.Result ε σ α → EStateM.Result ε τ α → Prop where
  | ok {a : α} {s : σ} {t : τ} (h : R s t) : Agree R (.ok a s) (.ok a t)
  | error {e : ε} {s : σ} {t : τ} (h : R s t) : Agree R (.error e s) (.error e t)

theorem agree_iff {ε σ τ α : Type} {R : σ → τ → Prop} {result : EStateM.Result ε σ α}
    {result' : EStateM.Result ε τ α} :
    Agree R result result' ↔ conclusion result = conclusion result' ∧ R (finalState result) (finalState result') := by
  constructor
  · rintro (h | h)
    · exact ⟨rfl, h⟩
    · exact ⟨rfl, h⟩
  · rintro ⟨hconclusion, hR⟩
    cases result <;> cases result' <;> cases hconclusion
    · exact .ok hR
    · exact .error hR

/-- From related states the two programs end the same way, in related states. -/
def Alike {ε σ τ α : Type} (R : σ → τ → Prop) (op : EStateM ε σ α) (op' : EStateM ε τ α) : Prop :=
  ∀ s t, R s t → Agree R (op s) (op' t)

namespace Alike

variable {ε σ τ α β : Type} {R : σ → τ → Prop}

theorem pure (a : α) : Alike R (Pure.pure a : EStateM ε σ α) (Pure.pure a) := fun _ _ h => .ok h

theorem throw (e : ε) : Alike R (throw e : EStateM ε σ α) (MonadExcept.throw e) := fun _ _ h => .error h

theorem modify {f : σ → σ} {g : τ → τ} (h : ∀ s t, R s t → R (f s) (g t)) :
    Alike R (modify f : EStateM ε σ PUnit) (MonadState.modifyGet fun t => (⟨⟩, g t)) :=
  fun s t hst => .ok (h s t hst)

theorem bind {op : EStateM ε σ α} {op' : EStateM ε τ α} {f : α → EStateM ε σ β} {f' : α → EStateM ε τ β}
    (hop : Alike R op op') (hf : ∀ a, Alike R (f a) (f' a)) : Alike R (op >>= f) (op' >>= f') := by
  intro s t h
  have hagree := hop s t h
  rw [bind_apply, bind_apply]
  generalize op s = result, op' t = result' at hagree ⊢
  cases hagree with
  | ok h' => exact hf _ _ _ h'
  | error h' => exact .error h'

theorem tryCatch {op : EStateM ε σ α} {op' : EStateM ε τ α} {f : ε → EStateM ε σ α} {f' : ε → EStateM ε τ α}
    (hop : Alike R op op') (hf : ∀ e, Alike R (f e) (f' e)) :
    Alike R (MonadExcept.tryCatch op f) (MonadExcept.tryCatch op' f') := by
  intro s t h
  have hagree := hop s t h
  rw [tryCatch_apply, tryCatch_apply]
  generalize op s = result, op' t = result' at hagree ⊢
  cases hagree with
  | ok h' => exact .ok h'
  | error h' => exact hf _ _ _ h'

theorem ite {c : Prop} [Decidable c] {op other : EStateM ε σ α} {op' other' : EStateM ε τ α}
    (h : Alike R op op') (hother : Alike R other other') :
    Alike R (if c then op else other) (if c then op' else other') := by
  split
  · exact h
  · exact hother

theorem guarded {c : Prop} [Decidable c] {e : ε} {f : PUnit → EStateM ε σ α} {f' : PUnit → EStateM ε τ α}
    (h : Alike R (f ⟨⟩) (f' ⟨⟩)) :
    Alike R (if c then MonadExcept.throw e >>= f else f ⟨⟩)
      (if c then MonadExcept.throw e >>= f' else f' ⟨⟩) :=
  ite (bind (throw e) fun _ => h) h

theorem forM {ι : Type} {f : ι → EStateM ε σ PUnit} {f' : ι → EStateM ε τ PUnit}
    (h : ∀ x, Alike R (f x) (f' x)) : ∀ xs : List ι, Alike R (xs.forM f) (xs.forM f')
  | [] => pure _
  | x :: xs => bind (h x) fun _ => forM h xs

theorem invariant {I : σ → Prop} {op : EStateM ε σ α} (h : ∀ s, I s → I (SecureElement.finalState (op s))) :
    Alike (fun s t => s = t ∧ I s) op op := by
  rintro s _ ⟨rfl, hI⟩
  have hfinal := h s hI
  cases hop : op s with
  | ok a s' =>
    rw [hop] at hfinal
    exact .ok ⟨rfl, hfinal⟩
  | error e s' =>
    rw [hop] at hfinal
    exact .error ⟨rfl, hfinal⟩

theorem finalState {I : σ → Prop} {op : EStateM ε σ α} (h : Alike (fun s t => s = t ∧ I s) op op) {s : σ}
    (hI : I s) : I (SecureElement.finalState (op s)) := by
  have hagree := h s s ⟨rfl, hI⟩
  cases hop : op s with
  | ok a s' =>
    rw [hop] at hagree
    cases hagree with
    | ok h' => exact h'.2
  | error e s' =>
    rw [hop] at hagree
    cases hagree with
    | error h' => exact h'.2

theorem viewed_eq {view : σ → τ} {op : EStateM ε σ α} {op' : EStateM ε τ α}
    (h : Alike (fun s t => view s = t) op op') (s : σ) : viewed view (op s) = op' (view s) := by
  have hagree := h s (view s) rfl
  generalize op s = result, op' (view s) = result' at hagree ⊢
  cases hagree with
  | ok h' => exact congrArg _ h'
  | error h' => exact congrArg _ h'

end Alike

end SecureElement
