import JpegLs.Native.Trace
import JpegLs.Proofs.Loopback.Calls
import JpegLs.Proofs.Session.Allocation

namespace JpegLs

variable {ε σ α β Handle State : Type}

def resultOf (answer : Int × α) : Except Stop α :=
  if answer.1 = 0 then .ok answer.2 else .error (.error (.codec (Status.fault ⟨answer.1⟩)))

theorem eq_of_resultOf {answer : Int × α} {value : α} (h : resultOf answer = .ok value) :
    answer.2 = value := by
  unfold resultOf at h
  split at h
  · exact Except.ok.inj h
  · cases h

def refusal? : Except ε α → Option ε
  | .ok _ => none
  | .error error => some error

theorem refusal?_eq_some_iff {result : Except ε α} {error : ε} :
    refusal? result = some error ↔ result = .error error := by
  cases result with
  | ok value => simp [refusal?]
  | error failure => simp [refusal?]

/-- Calls to be made in a row, each with what ends the row there. -/
abbrev CallRow := List (NativeCall × Option Stop)

namespace CallRow

def made : CallRow → List NativeCall
  | [] => []
  | (call, none) :: rest => call :: made rest
  | (call, some _) :: _ => [call]

def stop? (row : CallRow) : Option Stop :=
  row.findSome? Prod.snd

theorem made_single (call : NativeCall) (ending? : Option Stop) :
    made [(call, ending?)] = [call] := by
  cases ending? with
  | none => rfl
  | some stop => rfl

theorem stop?_single (call : NativeCall) (ending? : Option Stop) :
    stop? [(call, ending?)] = ending? := by
  cases ending? with
  | none => rfl
  | some stop => rfl

theorem made_isPrefix (row : CallRow) : row.made <+: row.map Prod.fst := by
  induction row with
  | nil => exact List.prefix_rfl
  | cons entry rest ih =>
      obtain ⟨call, ending?⟩ := entry
      cases ending? with
      | none => exact (List.prefix_cons_inj call).mpr ih
      | some stop => exact (List.prefix_cons_inj call).mpr List.nil_prefix

theorem made_ne_nil {row : CallRow} {first : NativeCall} {rest : List NativeCall}
    (hrow : row.map Prod.fst = first :: rest) : row.made ≠ [] := by
  cases row with
  | nil => cases hrow
  | cons entry others =>
      obtain ⟨call, ending?⟩ := entry
      cases ending? with
      | none => exact List.cons_ne_nil _ _
      | some stop => exact List.cons_ne_nil _ _

end CallRow

def callIf (wanted : Prop) [Decidable wanted] (call : NativeCall)
    (function : StateM σ (Int × α)) (skipped : α) : StateM σ (α × CallRow) :=
  if wanted then do
    let answer ← function
    return (answer.2, [(call, refusal? (resultOf answer))])
  else
    return (skipped, [])

namespace Task

open NativeLibrary
open Session (Kind)

/-- However the library behaves, the task makes the calls of `row` that stand behind those `passed`
already, up to the first that ends the row, and `last` behind them. -/
def Makes (last : NativeCall) (passed : CallRow)
    (task : StoppableTask (σ × List NativeCall) α) (row : StateM σ CallRow) : Prop :=
  ∀ state, ∃ rest : CallRow, (row state).1 = passed ++ rest ∧ ∀ calls warnings,
    let run := task ⟨(state, calls), warnings⟩
    run.2.codec.2 = calls ++ rest.made ++ [last] ∧ refusal? run.1 = rest.stop?

def Drives {γ : Type} (create last : NativeCall) (prepared : Except Error γ)
    (creation : StateM σ (Option Handle)) (row : γ → Handle → StateM σ CallRow)
    (task : StoppableTask (σ × List NativeCall) α) : Prop :=
  ∀ state calls warnings,
    let run := task ⟨(state, calls), warnings⟩
    match prepared, creation state with
    | .error error, _ => run.1 = .error (.error error) ∧ run.2.codec.2 = calls
    | .ok _, (none, _) =>
        run.1 = .error (.error (.codec .notEnoughMemory)) ∧ run.2.codec.2 = calls ++ [create]
    | .ok value, (some handle, left) =>
        let row := (row value handle left).1
        refusal? run.1 = row.stop? ∧ run.2.codec.2 = calls ++ [create] ++ row.made ++ [last]

def Ends (last : NativeCall) (kind : Kind (σ × List NativeCall) Handle State) : Prop :=
  ∀ handle state calls, (kind.release handle (state, calls)).2 = calls ++ [last]

theorem Ends.behind {last : NativeCall} {kind : Kind (σ × List NativeCall) Handle State}
    (hends : Ends last kind) (handle : Handle) (state : σ) (calls : List NativeCall)
    (call : NativeCall) :
    (kind.release handle (state, calls ++ [call])).2 = calls ++ [call, last] := by
  rw [hends, List.append_assoc]
  rfl

/-- The task makes one call and judges what comes of it; with a refusal the instance is
destroyed. -/
def Asks (last call : NativeCall) (function : StateM σ (Int × β))
    (judged : Int × β → Except Stop α) (task : StoppableTask (σ × List NativeCall) α) : Prop :=
  ∀ state calls warnings,
    let run := task ⟨(state, calls), warnings⟩
    match judged (function state).1 with
    | .ok value => run = (.ok value, ⟨((function state).2, calls ++ [call]), warnings⟩)
    | .error error => run.1 = .error error ∧ run.2.codec.2 = calls ++ [call, last]

section

variable {γ δ : Type} {last call : NativeCall} {passed : CallRow}
  {kind : Kind (σ × List NativeCall) Handle State} {handle : Handle}
  {function : StateM σ (Int × β)} {rowNext : Int × β → StateM σ CallRow}

theorem asks_attempt (hends : Ends last kind) {op : Call (σ × List NativeCall) β}
    (hop : op = checked (noted call function)) :
    Asks last call function resultOf ((kind.attempt handle op).adapt Stop.error) := by
  subst hop
  intro state calls warnings
  rcases hcall : function state with ⟨⟨status, out⟩, left⟩
  rw [adapt_apply]
  simp only [Kind.attempt, checked, noted, hcall, resultOf]
  by_cases hstatus : status = 0
  · simp only [if_pos hstatus]
    rfl
  · simp only [if_neg hstatus]
    exact ⟨rfl, hends.behind handle left calls call⟩

theorem asks_attempt_read (hends : Ends last kind) {read : β → Except Status γ}
    {meant : β → Except Stop γ}
    (hread : ∀ out, meant out = (read out).mapError fun status => .error (.codec status.fault)) :
    Asks last call function (fun answer => resultOf answer >>= meant)
      ((kind.attempt handle (checked (noted call function) >>= fun out =>
        liftM (read out))).adapt Stop.error) := by
  intro state calls warnings
  rcases hcall : function state with ⟨⟨status, out⟩, left⟩
  rw [adapt_apply]
  simp only [Kind.attempt, run_bind, checked, noted, hcall, resultOf]
  by_cases hstatus : status = 0
  · simp only [if_pos hstatus]
    rw [show (Except.ok out >>= meant) = meant out from rfl, hread]
    cases hvalue : read out with
    | ok value => rfl
    | error fault => exact ⟨rfl, hends.behind handle left calls call⟩
  · simp only [if_neg hstatus]
    exact ⟨rfl, hends.behind handle left calls call⟩

theorem Asks.accept (hends : Ends last kind) {first : StoppableTask (σ × List NativeCall) γ}
    {judged : Int × β → Except Stop γ} (h : Asks last call function judged first)
    (accepted : γ → Except Stop δ) :
    Asks last call function (fun answer => judged answer >>= accepted)
      (first >>= fun value => kind.accept handle (accepted value)) := by
  intro state calls warnings
  have hfirst := h state calls warnings
  rw [run_bind]
  cases hjudged : judged (function state).1 with
  | error error =>
      simp only [hjudged] at hfirst ⊢
      generalize first _ = run at hfirst ⊢
      obtain ⟨result, world⟩ := run
      obtain ⟨rfl, hcalls⟩ := hfirst
      exact ⟨rfl, hcalls⟩
  | ok value =>
      simp only [hjudged] at hfirst ⊢
      rw [hfirst]
      cases haccepted : accepted value with
      | ok done =>
          simp only [bind, Except.bind, haccepted]
          rfl
      | error error =>
          simp only [bind, Except.bind, haccepted]
          exact ⟨rfl, hends.behind handle _ calls call⟩

theorem Asks.makes {first : StoppableTask (σ × List NativeCall) δ}
    {judged : Int × β → Except Stop δ} {next : δ → StoppableTask (σ × List NativeCall) α}
    (h : Asks last call function judged first)
    (hpassed : ∀ answer left, ∃ rest, (rowNext answer left).1 =
      passed ++ [(call, refusal? (judged answer))] ++ rest)
    (hnext : ∀ answer value, judged answer = .ok value →
      Makes last (passed ++ [(call, refusal? (judged answer))]) (next value) (rowNext answer)) :
    Makes last passed (first >>= next) (function >>= rowNext) := by
  intro state
  have hfirst := h state
  rcases hcall : function state with ⟨answer, left⟩
  rw [hcall] at hfirst
  have hrow : ((function >>= rowNext) state).1 = (rowNext answer left).1 := by
    simp only [bind, StateT.bind, hcall]
  rw [hrow]
  cases hjudged : judged answer with
  | ok value =>
      obtain ⟨rest, hrest, hruns⟩ := hnext answer value hjudged left
      refine ⟨_ :: rest, hrest.trans (List.append_assoc _ _ _), fun calls warnings => ?_⟩
      have hrun := hfirst calls warnings
      simp only [hjudged] at hrun
      rw [run_bind, hrun, hjudged]
      obtain ⟨hcalls, hanswer⟩ := hruns (calls ++ [call]) warnings
      refine ⟨?_, hanswer⟩
      simpa [CallRow.made, refusal?] using hcalls
  | error error =>
      obtain ⟨rest, hrest⟩ := hpassed answer left
      refine ⟨_ :: rest, hrest.trans (List.append_assoc _ _ _), fun calls warnings => ?_⟩
      have hrun := hfirst calls warnings
      simp only [hjudged] at hrun
      rw [run_bind, hjudged]
      generalize first _ = run at hrun ⊢
      obtain ⟨result, world⟩ := run
      obtain ⟨rfl, hcalls⟩ := hrun
      exact ⟨by simpa [CallRow.made, refusal?] using hcalls, rfl⟩

theorem makes_attempt (hends : Ends last kind) {op : Call (σ × List NativeCall) β}
    (hop : op = checked (noted call function)) {next : β → StoppableTask (σ × List NativeCall) α}
    (hnext : ∀ answer,
      Makes last (passed ++ [(call, refusal? (resultOf answer))]) (next answer.2)
        (rowNext answer)) :
    Makes last passed ((kind.attempt handle op).adapt Stop.error >>= next)
      (function >>= rowNext) := by
  refine (asks_attempt hends hop).makes (fun answer left => ?_) fun answer value hvalue => ?_
  · obtain ⟨rest, hrest, -⟩ := hnext answer left
    exact ⟨rest, hrest⟩
  · obtain rfl := eq_of_resultOf hvalue
    exact hnext answer

theorem makes_allocate (hends : Ends last kind) {function : StateM σ (Int × Nat)}
    {rowNext : Int × Nat → StateM σ CallRow} {op : Call (σ × List NativeCall) Nat}
    (hop : op = checked (noted call function)) {next : Nat → StoppableTask (σ × List NativeCall) α}
    (hnext : ∀ answer,
      Makes last (passed ++ [(call, refusal? (resultOf answer >>= allocate))]) (next answer.2)
        (rowNext answer)) :
    Makes last passed
      ((kind.attempt handle op).adapt Stop.error >>= fun size =>
        kind.accept handle (allocate size) >>= fun _ => next size)
      (function >>= rowNext) := by
  let sized (size : Nat) : Except Stop Nat := (allocate size).map fun _ => size
  have htask (size : Nat) : (kind.accept handle (allocate size) >>= fun _ => next size) =
      kind.accept handle (sized size) >>= next := by
    simp only [sized]
    cases allocate size <;> rfl
  have hjudged (answer : Int × Nat) : refusal? (resultOf answer >>= allocate) =
      refusal? (resultOf answer >>= sized) := by
    cases resultOf answer with
    | error stop => rfl
    | ok size =>
        change refusal? (allocate size) = refusal? (sized size)
        simp only [sized]
        cases allocate size <;> rfl
  simp only [htask, hjudged, ← bind_assoc] at hnext ⊢
  refine ((asks_attempt hends hop).accept hends sized).makes (fun answer left => ?_)
    fun answer value hvalue => ?_
  · obtain ⟨rest, hrest, -⟩ := hnext answer left
    exact ⟨rest, hrest⟩
  · obtain ⟨size, hsize, hallocated⟩ := bind_eq_ok_iff.mp hvalue
    obtain ⟨-, -, rfl⟩ := map_eq_ok_iff.mp hallocated
    obtain rfl := eq_of_resultOf hsize
    exact hnext answer

theorem makes_attempt_if (hends : Ends last kind) {wanted : Prop} {_ : Decidable wanted}
    {skipped : β} {rowNext : β × CallRow → StateM σ CallRow}
    {op : Call (σ × List NativeCall) β} (hop : op = checked (noted call function))
    {next : β → StoppableTask (σ × List NativeCall) α}
    (hnext : ∀ answer : β × CallRow,
      Makes last (passed ++ answer.2) (next answer.1) (rowNext answer)) :
    Makes last passed
      (ExceptT.adapt Stop.error (if wanted then kind.attempt handle op else pure skipped) >>= next)
      (callIf wanted call function skipped >>= rowNext) := by
  by_cases hwanted : wanted
  · rw [callIf, if_pos hwanted, if_pos hwanted, bind_assoc]
    exact makes_attempt hends hop fun answer => hnext (answer.2, _)
  · rw [callIf, if_neg hwanted, if_neg hwanted, adapt_pure, pure_bind, pure_bind]
    simpa using hnext (skipped, [])

theorem makes_attempt_last (hends : Ends last kind) {op : Call (σ × List NativeCall) β}
    (hop : op = checked (noted call function)) (judged : β → Except Stop Unit)
    {next : β → StoppableTask (σ × List NativeCall) α}
    (hnext : ∀ value world, (next value world).2.codec = world.codec ∧
      refusal? (next value world).1 = refusal? (judged value))
    (hrow : ∀ answer,
      rowNext answer = pure (passed ++ [(call, refusal? (resultOf answer >>= judged))])) :
    Makes last passed
      ((kind.attempt handle op).adapt Stop.error >>= fun value =>
        kind.giveBack handle >>= fun _ => next value)
      (function >>= rowNext) := by
  subst hop
  intro state
  rcases hcall : function state with ⟨⟨status, value⟩, left⟩
  refine ⟨[(call, refusal? (resultOf (status, value) >>= judged))], ?_, fun calls warnings => ?_⟩
  · simp only [bind, StateT.bind, hcall, hrow]
    rfl
  simp only [run_bind, adapt_apply, Kind.attempt, Kind.giveBack, checked, noted, hcall, resultOf]
  by_cases hstatus : status = 0
  · simp only [if_pos hstatus, Except.mapError]
    obtain ⟨hcodec, hanswer⟩ := hnext value ⟨kind.release handle (left, calls ++ [call]), warnings⟩
    refine ⟨?_, ?_⟩
    · rw [hcodec, hends, CallRow.made_single]
    · rw [hanswer, CallRow.stop?_single]
      rfl
  · simp only [if_neg hstatus, Except.mapError]
    exact ⟨hends _ _ _, rfl⟩

theorem Makes.drives {create : NativeCall} {prepared : Except Error γ}
    {creation : StateM σ (Option Handle)} {row : γ → Handle → StateM σ CallRow}
    {next : γ → Handle → StoppableTask (σ × List NativeCall) α}
    (h : ∀ value handle, Makes last [] (next value handle) (row value handle)) :
    Drives create last prepared creation row
      (liftM (prepared.mapError Stop.error) >>= fun value =>
        (Task.call (created (noted create creation))).adapt Stop.error >>= next value) := by
  intro state calls warnings
  rw [run_bind, liftExcept_apply]
  cases prepared with
  | error error => exact ⟨rfl, rfl⟩
  | ok value =>
      simp only [Except.mapError, run_bind, adapt_apply, Task.call, created, noted]
      rcases hcreate : creation state with ⟨_ | handle, left⟩
      · exact ⟨rfl, rfl⟩
      · obtain ⟨rest, hrow, hruns⟩ := h value handle left
        obtain ⟨hcalls, hanswer⟩ := hruns (calls ++ [create]) warnings
        simp only [hrow, List.nil_append]
        exact ⟨hanswer, hcalls⟩

end

end Task

end JpegLs
