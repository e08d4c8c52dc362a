import JpegLs.Proofs.Session.Basic

/-!
Two runs side by side.  What holds between their sessions and worlds is kept by every step, and
the answers are the same.
-/

namespace JpegLs

variable {ε α β α' β' S T A B : Type}

/-- Values that stand for each other, or one and the same error. -/
inductive Agree (values : α → β → Prop) : Except ε α → Except ε β → Prop where
  | ok {first : α} {second : β} (h : values first second) : Agree values (.ok first) (.ok second)
  | error (error : ε) : Agree values (.error error) (.error error)

theorem Agree.eq {first second : Except ε α} (h : Agree Eq first second) : first = second := by
  cases h with
  | ok h => exact congrArg Except.ok h
  | error error => rfl

/-- What may come of two computations: values with the states they are found in, or one and the
same error. -/
inductive Outcome (failed : S → T → Prop) (after : α → S → β → T → Prop) :
    Except ε α × S → Except ε β × T → Prop where
  | ok {value : α} {state : S} {value' : β} {state' : T} (h : after value state value' state') :
      Outcome failed after (.ok value, state) (.ok value', state')
  | error {state : S} {state' : T} (error : ε) (h : failed state state') :
      Outcome failed after (.error error, state) (.error error, state')

def Simulates (before failed : S → T → Prop) (after : α → S → β → T → Prop)
    (first : ExceptT ε (StateM S) α) (second : ExceptT ε (StateM T) β) : Prop :=
  ∀ s t, before s t → Outcome failed after (first s) (second t)

abbrev Same (states : S → T → Prop) (value : α) (s : S) (value' : α) (t : T) : Prop :=
  value = value' ∧ states s t

section

variable {before failed : S → T → Prop} {middle : α → S → β → T → Prop}
  {after : α' → S → β' → T → Prop} {first : ExceptT ε (StateM S) α}
  {second : ExceptT ε (StateM T) β}

theorem simulates_pure (value : α) :
    Simulates before failed (Same before) (pure value : ExceptT ε (StateM S) α) (pure value) :=
  fun _ _ hbefore => .ok ⟨rfl, hbefore⟩

theorem simulates_throw (error : ε) :
    Simulates before before after (throw error : ExceptT ε (StateM S) α') (throw error) :=
  fun _ _ hbefore => .error error hbefore

theorem simulates_liftExcept (result : Except ε α) :
    Simulates before before (Same before) (liftM result : ExceptT ε (StateM S) α)
      (liftM result) := by
  cases result with
  | ok value => exact simulates_pure value
  | error error => exact simulates_throw error

theorem simulates_ite (condition : Prop) [Decidable condition]
    {first first' : ExceptT ε (StateM S) α'} {second second' : ExceptT ε (StateM T) β'}
    (hthen : Simulates before failed after first second)
    (helse : Simulates before failed after first' second') :
    Simulates before failed after (if condition then first else first')
      (if condition then second else second') := by
  split
  · exact hthen
  · exact helse

theorem Simulates.bind {next : α → ExceptT ε (StateM S) α'} {next' : β → ExceptT ε (StateM T) β'}
    (h : Simulates before failed middle first second)
    (hnext : ∀ value value', Simulates (fun s t => middle value s value' t) failed after
      (next value) (next' value')) :
    Simulates before failed after (first >>= next) (second >>= next') := by
  intro s t hbefore
  have hboth := h s t hbefore
  simp only [Bind.bind, ExceptT.bind, ExceptT.mk, StateT.bind]
  generalize first s = ran at hboth ⊢
  generalize second t = ran' at hboth ⊢
  cases hboth with
  | ok hmiddle => exact hnext _ _ _ _ hmiddle
  | error error hfailed => exact .error error hfailed

theorem Simulates.bindSame {states : S → T → Prop} {second : ExceptT ε (StateM T) α}
    {next : α → ExceptT ε (StateM S) α'} {next' : α → ExceptT ε (StateM T) β'}
    (h : Simulates before failed (Same states) first second)
    (hnext : ∀ value, Simulates states failed after (next value) (next' value)) :
    Simulates before failed after (first >>= next) (second >>= next') := by
  refine h.bind fun value value' s t hmiddle => ?_
  obtain ⟨rfl, hstates⟩ := hmiddle
  exact hnext value s t hstates

theorem Simulates.mapSame {states : S → T → Prop} {second : ExceptT ε (StateM T) α}
    (h : Simulates before failed (Same states) first second) (f : α → α') :
    Simulates before failed (Same states) (f <$> first) (f <$> second) := by
  rw [map_eq_pure_bind, map_eq_pure_bind]
  exact h.bindSame fun value => simulates_pure (f value)

end

def SimulatesOn (related : A → S → B → T → Prop) (values : α → β → Prop)
    (first : ExceptT ε (StateT A (StateM S)) α) (second : ExceptT ε (StateT B (StateM T)) β) :
    Prop :=
  ∀ a s b t, related a s b t →
    Agree values (first a s).1.1 (second b t).1.1 ∧
      related (first a s).1.2 (first a s).2 (second b t).1.2 (second b t).2

section

variable {related : A → S → B → T → Prop} {values : α → β → Prop} {values' : α' → β' → Prop}
  {first : ExceptT ε (StateT A (StateM S)) α} {second : ExceptT ε (StateT B (StateM T)) β}

theorem simulatesOn_pure (value : α) :
    SimulatesOn related Eq (pure value : ExceptT ε (StateT A (StateM S)) α) (pure value) :=
  fun _ _ _ _ hrelated => ⟨.ok rfl, hrelated⟩

theorem simulatesOn_throw (error : ε) :
    SimulatesOn related values (throw error : ExceptT ε (StateT A (StateM S)) α)
      (throw error) :=
  fun _ _ _ _ hrelated => ⟨.error error, hrelated⟩

theorem simulatesOn_liftExcept (result : Except ε α) :
    SimulatesOn related Eq (liftM result : ExceptT ε (StateT A (StateM S)) α)
      (liftM result) := by
  cases result with
  | ok value => exact simulatesOn_pure value
  | error error => exact simulatesOn_throw error

theorem simulatesOn_ite (condition : Prop) [Decidable condition]
    {first first' : ExceptT ε (StateT A (StateM S)) α}
    {second second' : ExceptT ε (StateT B (StateM T)) β}
    (hthen : SimulatesOn related values first second)
    (helse : SimulatesOn related values first' second') :
    SimulatesOn related values (if condition then first else first')
      (if condition then second else second') := by
  split
  · exact hthen
  · exact helse

theorem SimulatesOn.bind {next : α → ExceptT ε (StateT A (StateM S)) α'}
    {next' : β → ExceptT ε (StateT B (StateM T)) β'}
    (h : SimulatesOn related values first second)
    (hnext : ∀ value value', values value value' →
      SimulatesOn related values' (next value) (next' value')) :
    SimulatesOn related values' (first >>= next) (second >>= next') := by
  intro a s b t hrelated
  have hboth := h a s b t hrelated
  simp only [Bind.bind, ExceptT.bind, ExceptT.mk, StateT.bind]
  generalize first a s = ran at hboth ⊢
  generalize second b t = ran' at hboth ⊢
  obtain ⟨⟨answer, left⟩, shared⟩ := ran
  obtain ⟨⟨answer', left'⟩, shared'⟩ := ran'
  obtain ⟨hanswer, hleft⟩ := hboth
  cases hanswer with
  | ok hvalue => exact hnext _ _ hvalue left shared left' shared' hleft
  | error error => exact ⟨.error error, hleft⟩

theorem SimulatesOn.bindEq {second : ExceptT ε (StateT B (StateM T)) α}
    {next : α → ExceptT ε (StateT A (StateM S)) α'}
    {next' : α → ExceptT ε (StateT B (StateM T)) β'} (h : SimulatesOn related Eq first second)
    (hnext : ∀ value, SimulatesOn related values' (next value) (next' value)) :
    SimulatesOn related values' (first >>= next) (second >>= next') :=
  h.bind fun value _ hvalue => hvalue ▸ hnext value

theorem SimulatesOn.mapEq {second : ExceptT ε (StateT B (StateM T)) α} (f : α → α')
    (h : SimulatesOn related Eq first second) :
    SimulatesOn related Eq (f <$> first) (f <$> second) := by
  rw [map_eq_pure_bind, map_eq_pure_bind]
  exact h.bindEq fun value => simulatesOn_pure (f value)

end

variable {σ τ Handle Handle' State Data : Type}

namespace Calls

variable {shared : σ → τ → Prop}

theorem simulates_update {op : Handle → Call σ (Handle × α)} {op' : Handle → Call τ (Handle × α)}
    (h : ∀ handle, Simulates shared shared (Same shared) (op handle) (op' handle)) :
    SimulatesOn (Same shared) Eq (update op) (update op') := by
  rintro handle codec _ codec' ⟨rfl, hshared⟩
  have hboth := h handle codec codec' hshared
  simp only [update]
  generalize op handle codec = called at hboth ⊢
  generalize op' handle codec' = called' at hboth ⊢
  cases hboth with
  | @ok result left _ left' hafter =>
      obtain ⟨rfl, hleft⟩ := hafter
      exact ⟨.ok rfl, rfl, hleft⟩
  | error status hleft => exact ⟨.error status, rfl, hleft⟩

theorem simulates_change {op : Handle → Call σ Handle} {op' : Handle → Call τ Handle}
    (h : ∀ handle, Simulates shared shared (Same shared) (op handle) (op' handle)) :
    SimulatesOn (Same shared) Eq (change op) (change op') :=
  simulates_update fun handle => (h handle).mapSame _

theorem simulates_query {op : Handle → Call σ α} {op' : Handle → Call τ α}
    (h : ∀ handle, Simulates shared shared (Same shared) (op handle) (op' handle)) :
    SimulatesOn (Same shared) Eq (query op) (query op') :=
  simulates_update fun handle => (h handle).mapSame _

def Beside (linked : Handle → σ → Handle' → τ → Prop) (lent : Handle × Data) (codec : σ)
    (lent' : Handle' × Data) (codec' : τ) : Prop :=
  lent.2 = lent'.2 ∧ linked lent.1 codec lent'.1 codec'

theorem simulates_beside {linked : Handle → σ → Handle' → τ → Prop} {values : α → β → Prop}
    {calls : Calls Handle σ α} {calls' : Calls Handle' τ β}
    (h : SimulatesOn linked values calls calls') :
    SimulatesOn (Beside linked) values (calls.beside : Calls (Handle × Data) σ α)
      calls'.beside := by
  rintro ⟨handle, data⟩ codec ⟨handle', data'⟩ codec' ⟨hdata, hlinked⟩
  obtain ⟨hanswer, hleft⟩ := h handle codec handle' codec' hlinked
  exact ⟨hanswer, hdata, hleft⟩

theorem simulates_store {op : Handle → StoringCall σ Handle} {op' : Handle → StoringCall τ Handle}
    (h : ∀ handle codec codec', shared codec codec' →
      (op handle codec).1 = (op' handle codec').1 ∧
        shared (op handle codec).2 (op' handle codec').2) :
    SimulatesOn (Beside (Same shared)) Eq (store op) (store op') := by
  rintro ⟨handle, destination⟩ codec ⟨_, _⟩ codec' ⟨rfl, rfl, hshared⟩
  obtain ⟨hanswer, hleft⟩ := h handle codec codec' hshared
  simp only [store]
  generalize op handle codec = called at hanswer hleft ⊢
  generalize op' handle codec' = called' at hanswer hleft ⊢
  obtain ⟨⟨status | handle, patches⟩, left⟩ := called
  · obtain ⟨_, left'⟩ := called'
    cases hanswer
    exact ⟨.error status, rfl, rfl, hleft⟩
  · obtain ⟨_, left'⟩ := called'
    cases hanswer
    exact ⟨.ok rfl, rfl, rfl, hleft⟩

theorem simulates_storing {op : Handle → Call σ (Except Status Handle × List Patch)}
    {op' : Handle → Call τ (Except Status Handle × List Patch)}
    (h : ∀ handle, Simulates shared shared (Same shared) (op handle) (op' handle)) :
    SimulatesOn (Beside (Same shared)) Eq (store fun handle => (op handle).storing)
      (store fun handle => (op' handle).storing) := by
  refine simulates_store fun handle codec codec' hshared => ?_
  have hboth := h handle codec codec' hshared
  simp only [Call.storing]
  generalize op handle codec = called at hboth ⊢
  generalize op' handle codec' = called' at hboth ⊢
  cases hboth with
  | ok hafter => exact ⟨hafter.1, hafter.2⟩
  | error status hleft => exact ⟨rfl, hleft⟩

end Calls

/-- What holds between the worlds of two runs that have no instance at hand; a warning given in
both changes nothing. -/
structure Worlds (σ τ : Type) where
  shared : σ → τ → Prop
  warnings : List Warning → List Warning → Prop
  append : ∀ {given given'} (more : List Warning),
    warnings given given' → warnings (given ++ more) (given' ++ more)

structure Worlds.Related (worlds : Worlds σ τ) (world : World σ) (world' : World τ) : Prop where
  codec : worlds.shared world.codec world'.codec
  warnings : worlds.warnings world.warnings world'.warnings

theorem Worlds.simulates_warn (worlds : Worlds σ τ) (warning : Warning) :
    Simulates worlds.Related worlds.Related (Same worlds.Related)
      (Task.warn warning : Task σ Unit) (Task.warn warning) :=
  fun _ _ hworlds => .ok ⟨rfl, hworlds.codec, worlds.append [warning] hworlds.warnings⟩

namespace Session

inductive Held (shared : σ → τ → Prop) (linked : Handle → σ → Handle' → τ → Prop) :
    Option Handle → σ → Option Handle' → τ → Prop where
  | none {codec : σ} {codec' : τ} (h : shared codec codec') :
      Held shared linked none codec none codec'
  | some {handle : Handle} {codec : σ} {handle' : Handle'} {codec' : τ}
      (h : linked handle codec handle' codec') :
      Held shared linked (some handle) codec (some handle') codec'

structure Related (worlds : Worlds σ τ) (linked : Handle → σ → Handle' → τ → Prop)
    (session : Session Handle State Data) (world : World σ)
    (session' : Session Handle' State Data) (world' : World τ) : Prop where
  state : session.state = session'.state
  data : session.data = session'.data
  held : Held worlds.shared linked session.handle? world.codec session'.handle? world'.codec
  warnings : worlds.warnings world.warnings world'.warnings

theorem related_same_iff {worlds : Worlds σ τ} {states : σ → τ → Prop}
    {session session' : Session Handle State Data} {world : World σ} {world' : World τ} :
    Related worlds (Same states) session world session' world' ↔
      session' = session ∧
      (if session.handle?.isSome then states else worlds.shared) world.codec world'.codec ∧
      worlds.warnings world.warnings world'.warnings := by
  constructor
  · intro hrelated
    obtain ⟨handle?, state, data⟩ := session
    obtain ⟨handle'?, state', data'⟩ := session'
    obtain ⟨rfl, rfl, hheld, hwarnings⟩ := hrelated
    cases hheld with
    | none hshared => exact ⟨rfl, hshared, hwarnings⟩
    | some hlinked =>
        obtain ⟨rfl, hstates⟩ := hlinked
        exact ⟨rfl, hstates, hwarnings⟩
  · rintro ⟨rfl, hcodec, hwarnings⟩
    refine ⟨rfl, rfl, ?_, hwarnings⟩
    cases hhandle : session'.handle? with
    | none =>
        rw [hhandle] at hcodec
        exact .none hcodec
    | some handle =>
        rw [hhandle] at hcodec
        exact .some ⟨rfl, hcodec⟩

structure Kind.Simulates (kind : Kind σ Handle State) (kind' : Kind τ Handle' State)
    (worlds : Worlds σ τ) (linked : Handle → σ → Handle' → τ → Prop) : Prop where
  closed : kind.closed = kind'.closed
  release : ∀ handle codec handle' codec', linked handle codec handle' codec' →
    worlds.shared (kind.release handle codec) (kind'.release handle' codec')

variable {worlds : Worlds σ τ} {linked : Handle → σ → Handle' → τ → Prop}

theorem simulates_start (state : State) (data : Data) {create : Call σ Handle}
    {create' : Call τ Handle'}
    (h : JpegLs.Simulates worlds.shared worlds.shared linked create create') :
    JpegLs.Simulates worlds.Related worlds.Related (Related worlds linked)
      (start state data create) (start state data create') := by
  intro world world' hworlds
  have hboth := h world.codec world'.codec hworlds.codec
  simp only [start, Task.map_apply, Task.call]
  generalize create world.codec = called at hboth ⊢
  generalize create' world'.codec = called' at hboth ⊢
  cases hboth with
  | ok hlinked => exact .ok ⟨rfl, rfl, .some hlinked, hworlds.warnings⟩
  | error status hshared => exact .error _ ⟨hshared, worlds.append _ hworlds.warnings⟩

variable {values : α → β → Prop}

theorem simulates_get {next : Session Handle State Data → Method σ Handle State Data α}
    {next' : Session Handle' State Data → Method τ Handle' State Data β}
    (h : ∀ session session', session.state = session'.state → session.data = session'.data →
      SimulatesOn (Related worlds linked) values (next session) (next' session')) :
    SimulatesOn (Related worlds linked) values (get >>= next) (get >>= next') :=
  fun session world session' world' hrelated =>
    h session session' hrelated.state hrelated.data session world session' world' hrelated

theorem simulates_setData (f : Data → Data) :
    SimulatesOn (Related worlds linked) Eq
      (modify fun session => { session with data := f session.data } :
        Method σ Handle State Data PUnit)
      (modify fun session => { session with data := f session.data }) :=
  fun _ _ _ _ hrelated =>
    ⟨.ok rfl, hrelated.state, congrArg f hrelated.data, hrelated.held, hrelated.warnings⟩

variable {kind : Kind σ Handle State} {kind' : Kind τ Handle' State}
  {session : Session Handle State Data} {session' : Session Handle' State Data}
  {world : World σ} {world' : World τ}

theorem Kind.Simulates.drop (hkind : kind.Simulates kind' worlds linked)
    (hrelated : Related worlds linked session world session' world') :
    worlds.Related (Session.drop kind session world).2 (Session.drop kind' session' world').2 := by
  obtain ⟨handle?, state, data⟩ := session
  obtain ⟨handle'?, state', data'⟩ := session'
  obtain ⟨-, -, hheld, hwarnings⟩ := hrelated
  cases hheld with
  | none hshared => exact ⟨hshared, hwarnings⟩
  | some hlinked => exact ⟨hkind.release _ _ _ _ hlinked, hwarnings⟩

theorem Kind.Simulates.close (hkind : kind.Simulates kind' worlds linked) :
    SimulatesOn (Related worlds linked) Eq (Session.close kind : Method σ Handle State Data Unit)
      (Session.close kind') := by
  intro session world session' world' hrelated
  obtain ⟨hshared, hwarnings⟩ := hkind.drop hrelated
  exact ⟨.ok rfl, hkind.closed, hrelated.data, .none hshared, hwarnings⟩

theorem Kind.Simulates.fail (hkind : kind.Simulates kind' worlds linked) (status : Status) :
    SimulatesOn (Related worlds linked) values
      (Session.fail kind status : Method σ Handle State Data α) (Session.fail kind' status) := by
  intro session world session' world' hrelated
  obtain ⟨-, hclosed, hdata, hheld, hwarnings⟩ := hkind.close session world session' world' hrelated
  exact ⟨.error _, hclosed, hdata, hheld, worlds.append _ hwarnings⟩

theorem Kind.Simulates.stepWith [DecidableEq State]
    (hkind : kind.Simulates kind' worlds linked) (before : List State) (after : State)
    {calls : Calls (Handle × Data) σ α} {calls' : Calls (Handle' × Data) τ β}
    (hcalls : SimulatesOn (Calls.Beside linked) values calls calls') :
    SimulatesOn (Related worlds linked) values
      (Session.stepWith kind before after calls : Method σ Handle State Data α)
      (Session.stepWith kind' before after calls') := by
  rintro ⟨handle?, state, data⟩ ⟨codec, given⟩ ⟨handle'?, state', data'⟩ ⟨codec', given'⟩ hrelated
  obtain ⟨hstate, hdata, hheld, hwarnings⟩ := id hrelated
  obtain rfl : state = state' := hstate
  cases hheld with
  | none hshared => exact hkind.fail _ _ _ _ _ hrelated
  | some hlinked =>
      simp only [Session.stepWith]
      by_cases hbefore : state ∈ before
      · rw [if_pos hbefore, if_pos hbefore]
        have hboth := hcalls (_, data) _ (_, data') _ ⟨hdata, hlinked⟩
        generalize calls _ codec = called at hboth ⊢
        generalize calls' _ codec' = called' at hboth ⊢
        obtain ⟨⟨answer, handle, kept⟩, left⟩ := called
        obtain ⟨⟨answer', handle', kept'⟩, left'⟩ := called'
        obtain ⟨hanswer, hkept, hleft⟩ := hboth
        cases hanswer with
        | ok hvalue => exact ⟨.ok hvalue, rfl, hkept, .some hleft, hwarnings⟩
        | error status => exact hkind.fail status _ _ _ _ ⟨rfl, hkept, .some hleft, hwarnings⟩
      · rw [if_neg hbefore, if_neg hbefore]
        exact hkind.fail _ _ _ _ _ hrelated

theorem Kind.Simulates.step [DecidableEq State] (hkind : kind.Simulates kind' worlds linked)
    (before : List State) (after : State) {calls : Calls Handle σ α} {calls' : Calls Handle' τ β}
    (hcalls : SimulatesOn linked values calls calls') :
    SimulatesOn (Related worlds linked) values
      (Session.step kind before after calls : Method σ Handle State Data α)
      (Session.step kind' before after calls') :=
  hkind.stepWith before after (Calls.simulates_beside hcalls)

theorem Kind.Simulates.use (hkind : kind.Simulates kind' worlds linked)
    {method : Method σ Handle State Data α} {method' : Method τ Handle' State Data α}
    (hmethod : SimulatesOn (Related worlds linked) Eq method method')
    (session : Session Handle State Data) (session' : Session Handle' State Data) :
    JpegLs.Simulates (fun world world' => Related worlds linked session world session' world')
      worlds.Related (Same worlds.Related) (Session.use kind session method)
      (Session.use kind' session' method') := by
  intro world world' hrelated
  have hboth := hmethod session world session' world' hrelated
  simp only [Session.use]
  generalize method session world = ran at hboth ⊢
  generalize method' session' world' = ran' at hboth ⊢
  obtain ⟨⟨answer, left⟩, after⟩ := ran
  obtain ⟨⟨answer', left'⟩, after'⟩ := ran'
  obtain ⟨hanswer, hleft⟩ := hboth
  have hdropped := hkind.drop hleft
  cases hanswer with
  | ok hvalue => exact .ok ⟨hvalue, hdropped⟩
  | error error => exact .error error hdropped

end Session

end JpegLs
