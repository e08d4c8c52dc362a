import JpegLs.Proofs.Session.DecodeSteps

/-!
Two computations of which the second succeeds wherever the first does, with a value that depends on
the first one's only, and leaves the same behind.
-/

namespace JpegLs

section

variable {ε α β γ δ State : Type}

/-- Where the first computation succeeds, the second does so with the value changed by `f`. -/
def Refines (f : α → β) (first : ExceptT ε (StateM State) α)
    (second : ExceptT ε (StateM State) β) : Prop :=
  ∀ state value left, first state = (.ok value, left) → second state = (.ok (f value), left)

theorem refines_refl (computation : ExceptT ε (StateM State) α) :
    Refines id computation computation :=
  fun _ _ _ hrun => hrun

theorem refines_throw (f : α → β) (error : ε) (second : ExceptT ε (StateM State) β) :
    Refines f (throw error) second := by
  intro state value left hrun
  cases hrun

theorem refines_pure (f : α → β) (value : α) :
    Refines f (pure value : ExceptT ε (StateM State) α) (pure (f value)) := by
  intro state value left hrun
  cases hrun
  rfl

variable {f : α → β} {g : γ → δ} {first : ExceptT ε (StateM State) α}
  {second : ExceptT ε (StateM State) β}

theorem Refines.bind {next : α → ExceptT ε (StateM State) γ}
    {next' : β → ExceptT ε (StateM State) δ} (h : Refines f first second)
    (hnext : ∀ value, Refines g (next value) (next' (f value))) :
    Refines g (first >>= next) (second >>= next') := by
  intro state value left hrun
  obtain ⟨found, between, hfirst, hrest⟩ := of_run_bind hrun
  rw [run_bind, h state found between hfirst]
  exact hnext found between value left hrest

theorem refines_ite (condition : Prop) [Decidable condition]
    {first' : ExceptT ε (StateM State) α} {second' : ExceptT ε (StateM State) β}
    (hthen : Refines f first second) (helse : Refines f first' second') :
    Refines f (if condition then first else first') (if condition then second else second') := by
  split
  · exact hthen
  · exact helse

theorem refines_liftExcept {σ : Type} {found found' : Except ε α}
    (h : ∀ value, found = .ok value → found' = .ok value) :
    Refines id (liftM found : ExceptT ε (Run σ) α) (liftM found') := by
  intro world value left hrun
  rw [Task.liftExcept_apply] at hrun ⊢
  cases hrun
  rw [h value rfl]
  rfl

end

section

variable {σ α β Handle Handle' State State' : Type} {f : α → β} {op : Call σ α} {op' : Call σ β}

theorem Call.refines_storing {call call' : Call σ (Except Status α × List Patch)}
    (h : Refines id call call') : Refines id call.storing.toCall call'.storing.toCall := by
  intro state value left hrun
  rcases hcall : call state with ⟨_ | ⟨_ | found, patches⟩, after⟩
  · simp only [StoringCall.toCall, Call.storing, hcall] at hrun
    cases hrun
  · simp only [StoringCall.toCall, Call.storing, hcall] at hrun
    cases hrun
  · simp only [StoringCall.toCall, Call.storing, hcall] at hrun
    simp only [StoringCall.toCall, Call.storing, h _ _ _ hcall, id_eq]
    exact hrun

theorem Task.refines_call (h : Refines f op op') : Refines f (Task.call op) (Task.call op') := by
  intro world value left hcall
  rcases hop : op world.codec with ⟨_ | found, after⟩
  · simp only [Task.call, hop] at hcall
    cases hcall
  · simp only [Task.call, hop] at hcall
    simp only [Task.call, h _ _ _ hop]
    cases hcall
    rfl

namespace Session.Kind

variable (kind : Session.Kind σ Handle State) (kind' : Session.Kind σ Handle' State')
  (handle : Handle) (handle' : Handle')

theorem refines_attempt (h : Refines f op op') :
    Refines f (kind.attempt handle op) (kind'.attempt handle' op') := by
  intro world value left hcall
  rcases hop : op world.codec with ⟨_ | found, after⟩
  · simp only [attempt, hop] at hcall
    cases hcall
  · simp only [attempt, hop] at hcall
    simp only [attempt, h _ _ _ hop]
    cases hcall
    rfl

theorem refines_accept (found : Except Error α) :
    Refines id (kind.accept handle found) (kind'.accept handle' found) := by
  cases found with
  | ok value => exact refines_refl _
  | error error =>
      intro world value left hrun
      cases hrun

end Session.Kind

end

end JpegLs
