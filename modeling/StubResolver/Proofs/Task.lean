import StubResolver.Environment

set_option autoImplicit false

namespace StubResolver.Task

variable {σ τ α β ε : Type}

theorem bind_apply (x : Task σ α) (f : α → Task σ β) (s : σ) :
    (x >>= f) s = match x s with
      | (.ok a, s) => f a s
      | (.error e, s) => (.error e, s) := by
  simp only [bind, ExceptT.bind, ExceptT.mk, StateT.bind, ExceptT.bindCont]
  rcases x s with ⟨_ | _, _⟩ <;> rfl

theorem bind_of_ok {x : Task σ α} {s t : σ} {a : α} (h : x s = (.ok a, t)) (f : α → Task σ β) :
    (x >>= f) s = f a t := by
  rw [bind_apply, h]

theorem exists_of_bind {x : Task σ α} {f : α → Task σ β} {s : σ} {b : β}
    (h : ((x >>= f) s).1 = .ok b) :
    ∃ a t, x s = (.ok a, t) ∧ (f a t).1 = .ok b := by
  rw [bind_apply] at h
  rcases hx : x s with ⟨e | a, t⟩
  · rw [hx] at h
    cases h
  · rw [hx] at h
    exact ⟨a, t, rfl, h⟩

@[simp] theorem pure_apply (a : α) (s : σ) : (pure a : Task σ α) s = (.ok a, s) := rfl

@[simp] theorem throw_apply (e : Error) (s : σ) : (throw e : Task σ α) s = (.error e, s) := rfl

@[simp] theorem get_apply (f : σ → α) (s : σ) : get f s = (.ok (f s), s) := rfl

@[simp] theorem run_apply (f : σ → α × σ) (s : σ) : run f s = (.ok (f s).1, (f s).2) := rfl

theorem ofExcept_apply (wrap : ε → Error) (r : Except ε α) (s : σ) :
    ofExcept wrap r s = (r.mapError wrap, s) := by
  cases r <;> rfl

theorem ofAction_apply (wrap : ε → Error) (act : Action σ ε α) (s : σ) :
    ofAction wrap act s = ((act s).1.mapError wrap, (act s).2) := by
  unfold ofAction
  rcases act s with ⟨_ | _, _⟩ <;> rfl

theorem io_apply (act : Action σ IoError α) (s : σ) :
    io act s = ((act s).1.mapError .io, (act s).2) := ofAction_apply _ _ _

/-- Through `view`, the task `fine` looks like the task `coarse`. -/
def Views (view : τ → σ) (fine : Task τ α) (coarse : Task σ α) : Prop :=
  ∀ s, coarse (view s) = (fine s).map id view

variable {view : τ → σ}

theorem Views.bind {fine : Task τ α} {coarse : Task σ α} {f : α → Task τ β} {g : α → Task σ β}
    (h : Views view fine coarse) (hf : ∀ a, Views view (f a) (g a)) :
    Views view (fine >>= f) (coarse >>= g) := by
  intro s
  rw [bind_apply, bind_apply, h s]
  rcases fine s with ⟨e | a, t⟩
  · rfl
  · exact hf a t

theorem Views.pure (a : α) : Views view (Pure.pure a : Task τ α) (Pure.pure a) := fun _ => rfl

theorem Views.throw (e : Error) : Views view (throw e : Task τ α) (throw e) := fun _ => rfl

theorem Views.ofExcept (wrap : ε → Error) (r : Except ε α) :
    Views view (ofExcept wrap r) (ofExcept wrap r) := by
  intro s
  rw [ofExcept_apply, ofExcept_apply]
  rfl

theorem Views.ofAction {wrap : ε → Error} {fine : Action τ ε α} {coarse : Action σ ε α}
    (h : ∀ s, coarse (view s) = (fine s).map id view) :
    Views view (ofAction wrap fine) (ofAction wrap coarse) := by
  intro s
  rw [ofAction_apply, ofAction_apply, h s]
  rfl

theorem Views.get {fine : τ → α} {coarse : σ → α} (h : ∀ s, coarse (view s) = fine s) :
    Views view (get fine) (get coarse) := by
  intro s
  rw [get_apply, get_apply, h s]
  rfl

theorem Views.run {fine : τ → α × τ} {coarse : σ → α × σ}
    (h : ∀ s, coarse (view s) = (fine s).map id view) : Views view (run fine) (run coarse) := by
  intro s
  rw [run_apply, run_apply, h s]
  rfl

theorem Views.ite {p : Prop} [Decidable p] {fine fine' : Task τ α} {coarse coarse' : Task σ α}
    (h : Views view fine coarse) (h' : Views view fine' coarse') :
    Views view (if p then fine else fine') (if p then coarse else coarse') := by
  split <;> assumption

def Ends (inv : σ → Prop) (fail : Error → σ → Prop) : Except Error α × σ → Prop
  | (.ok _, t) => inv t
  | (.error e, t) => fail e t

def Keeps (inv : σ → Prop) (fail : Error → σ → Prop) (task : Task σ α) : Prop :=
  ∀ s, inv s → Ends inv fail (task s)

def Gives (P : α → Prop) (task : Task σ α) : Prop := ∀ s, ∃ a, (task s).1 = .ok a ∧ P a

theorem Gives.bind {P : α → Prop} {Q : β → Prop} {x : Task σ α} {f : α → Task σ β} (hx : Gives P x)
    (hf : ∀ a, P a → Gives Q (f a)) : Gives Q (x >>= f) := by
  intro s
  obtain ⟨a, ha, hp⟩ := hx s
  rw [bind_apply]
  rcases hr : x s with ⟨r, t⟩
  rw [hr] at ha
  dsimp only at ha
  subst ha
  exact hf a hp t

theorem Gives.pure {P : α → Prop} {a : α} (h : P a) : Gives P (Pure.pure a : Task σ α) :=
  fun _ => ⟨a, rfl, h⟩

theorem Gives.ofExcept {P : α → Prop} {wrap : ε → Error} {r : Except ε α} {a : α} (hr : r = .ok a)
    (h : P a) : Gives (σ := σ) P (ofExcept wrap r) := by
  subst hr
  exact fun _ => ⟨a, rfl, h⟩

theorem Gives.ofAction {P : α → Prop} {wrap : ε → Error} {act : Action σ ε α}
    (h : ∀ s, ∃ a, (act s).1 = .ok a ∧ P a) : Gives P (ofAction wrap act) := by
  intro s
  obtain ⟨a, ha, hp⟩ := h s
  rw [ofAction_apply, ha]
  exact ⟨a, rfl, hp⟩

end StubResolver.Task
