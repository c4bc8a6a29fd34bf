import Passforge.Fault

/-!
# Running Step by Step

How a computation that may halt unfolds from a given state. A `Run` is a
monad transformer stack, and every proof about a program written in it needs
to know the same few things: what a bind does once its first half is known,
and what the primitive operations answer.

The equations are stated for a computation applied to its state. That is the
form in which a program's outcome is compared with anything, since the state
reached belongs to the outcome whether the computation answered or halted.

`bind_of_ok` and `bind_of_error` are the two halves of a bind, for use when
the outcome of the first part is at hand. `bind_apply` is the same as a single
equation, for use when it is not.

## Theorems

* `bind_of_ok`: A bind goes on with an answer.
* `bind_of_error`: A bind stops at a halt.
* `bind_apply`: Both, as a case distinction.
* `within_apply`: A computation on a part leaves the rest to the setter.
* `mapM_cons_of_ok`, `mapM_cons_of_error`, `mapM_cons_of_ok_error`: A
  traversal from the outcome of its first element and of the rest.
* `mapM_cons_eq_ok`: The same, read backwards for a traversal that answers.
* `bind_eq_ok_iff`, `map_eq_ok_iff`: When a check without a state succeeds.
-/

namespace Passforge

/-- A sequence of two steps succeeds if both do. -/
theorem bind_eq_ok_iff {ε α β : Type} (x : Except ε α) (f : α → Except ε β) (b : β) :
    (x >>= f) = .ok b ↔ ∃ a, x = .ok a ∧ f a = .ok b := by
  rcases x with e | a
  · constructor
    · intro h
      cases h
    · rintro ⟨a, h, -⟩
      cases h
  · constructor
    · intro h
      exact ⟨a, rfl, h⟩
    · rintro ⟨a', h, hf⟩
      cases h
      exact hf

theorem map_eq_ok_iff {ε α β : Type} (f : α → β) (x : Except ε α) (b : β) :
    f <$> x = .ok b ↔ ∃ a, x = .ok a ∧ f a = b := by
  rcases x with e | a
  · constructor
    · intro h
      cases h
    · rintro ⟨a, h, -⟩
      cases h
  · constructor
    · intro h
      cases h
      exact ⟨a, rfl, rfl⟩
    · rintro ⟨a', h, rfl⟩
      cases h
      rfl

namespace Run

variable {σ τ α β : Type}

theorem bind_of_ok {x : Run σ α} {f : α → Run σ β} {s s' : σ} {a : α}
    (h : x s = (.ok a, s')) : (x >>= f) s = f a s' := by
  simp only [bind, ExceptT.bind, ExceptT.mk, StateT.bind, h, ExceptT.bindCont]

theorem bind_of_error {x : Run σ α} {f : α → Run σ β} {s s' : σ} {e : Halt}
    (h : x s = (.error e, s')) : (x >>= f) s = (.error e, s') := by
  simp only [bind, ExceptT.bind, ExceptT.mk, StateT.bind, h, ExceptT.bindCont]
  rfl

theorem bind_apply (x : Run σ α) (f : α → Run σ β) (s : σ) :
    (x >>= f) s = match x s with
      | (.ok a, s') => f a s'
      | (.error e, s') => (.error e, s') := by
  rcases h : x s with ⟨_ | a, s'⟩
  · rw [bind_of_error h]
  · rw [bind_of_ok h]

@[simp] theorem pure_apply (a : α) (s : σ) : (pure a : Run σ α) s = (.ok a, s) := rfl

@[simp] theorem get_apply (s : σ) : (get : Run σ σ) s = (.ok s, s) := rfl

@[simp] theorem throw_apply (e : Halt) (s : σ) : (throw e : Run σ α) s = (.error e, s) := rfl

@[simp] theorem within_apply (get : σ → τ) (set : τ → σ → σ) (x : Run τ α) (s : σ) :
    Run.within get set x s = ((x (get s)).1, set (x (get s)).2 s) := rfl

theorem mapM_cons_of_ok {f : α → Run σ β} {a : α} {as : List α} {s s₁ s₂ : σ} {b : β}
    {bs : List β} (h : f a s = (.ok b, s₁)) (hs : as.mapM f s₁ = (.ok bs, s₂)) :
    (a :: as).mapM f s = (.ok (b :: bs), s₂) := by
  rw [List.mapM_cons, bind_of_ok h, bind_of_ok hs, pure_apply]

theorem mapM_cons_of_error {f : α → Run σ β} {a : α} {as : List α} {s s₁ : σ} {e : Halt}
    (h : f a s = (.error e, s₁)) : (a :: as).mapM f s = (.error e, s₁) := by
  rw [List.mapM_cons, bind_of_error h]

theorem mapM_cons_of_ok_error {f : α → Run σ β} {a : α} {as : List α} {s s₁ s₂ : σ} {b : β}
    {e : Halt} (h : f a s = (.ok b, s₁)) (hs : as.mapM f s₁ = (.error e, s₂)) :
    (a :: as).mapM f s = (.error e, s₂) := by
  rw [List.mapM_cons, bind_of_ok h, bind_of_error hs]

/-- A traversal that answers has an answer for its first element and answers
    the rest from there. -/
theorem mapM_cons_eq_ok {f : α → Run σ β} {a : α} {as : List α} {s s₂ : σ} {cs : List β}
    (h : (a :: as).mapM f s = (.ok cs, s₂)) :
    ∃ b bs s₁, f a s = (.ok b, s₁) ∧ as.mapM f s₁ = (.ok bs, s₂) ∧ cs = b :: bs := by
  rcases hf : f a s with ⟨e | b, s₁⟩
  · rw [mapM_cons_of_error hf] at h
    cases h
  · rcases hs : as.mapM f s₁ with ⟨e | bs, s₃⟩
    · rw [mapM_cons_of_ok_error hf hs] at h
      cases h
    · rw [mapM_cons_of_ok hf hs, Prod.mk.injEq, Except.ok.injEq] at h
      rcases h with ⟨rfl, rfl⟩
      exact ⟨b, bs, s₁, rfl, hs, rfl⟩

end Run

end Passforge
