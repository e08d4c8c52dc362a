import JpegLs.Error

namespace JpegLs

variable {ε α β : Type} {result : Except ε α}

theorem map_eq_ok_iff {f : α → β} {value : β} :
    result.map f = .ok value ↔ ∃ found, result = .ok found ∧ f found = value := by
  cases result with
  | error fault => simp [Except.map]
  | ok found => simp [Except.map]

theorem map_eq_error_iff {f : α → β} {fault : ε} :
    result.map f = .error fault ↔ result = .error fault := by
  cases result with
  | error found => simp [Except.map]
  | ok value => simp [Except.map]

theorem bind_eq_ok_iff {next : α → Except ε β} {value : β} :
    result >>= next = .ok value ↔ ∃ found, result = .ok found ∧ next found = .ok value := by
  cases result with
  | error fault => simp [bind, Except.bind]
  | ok found => simp [bind, Except.bind]

/-- Of two steps over a state, the second is taken where the first has succeeded. -/
theorem run_bind {State : Type} (first : ExceptT ε (StateM State) α)
    (second : α → ExceptT ε (StateM State) β) (state : State) :
    (first >>= second) state =
      match first state with
      | (.ok value, state) => second value state
      | (.error error, state) => (.error error, state) := by
  simp only [bind, ExceptT.bind, ExceptT.mk, StateT.bind]
  rcases first state with ⟨_ | _, _⟩ <;> rfl

theorem of_run_bind {State : Type} {first : ExceptT ε (StateM State) α}
    {second : α → ExceptT ε (StateM State) β} {state left : State} {value : β}
    (h : (first >>= second) state = (.ok value, left)) :
    ∃ found between, first state = (.ok found, between) ∧
      second found between = (.ok value, left) := by
  rw [run_bind] at h
  rcases hfirst : first state with ⟨_ | found, between⟩
  · rw [hfirst] at h
    cases h
  · rw [hfirst] at h
    exact ⟨found, between, rfl, h⟩

end JpegLs
