import Mathlib.Computability.Language
import JpegLs.Proofs.Codec.Recorded
import JpegLs.Proofs.Session.Basic

/-!
Rules for a kind of session: which commands fit a state, the calls each command makes, and the
state it leads to.  Whatever the codec answers, a session that follows its rules makes calls in
their order, and gives its instance back with its first failure.
-/

namespace JpegLs

open Loopback (Step)

variable {σ α Handle State Data Command Reply : Type}

structure Rules (State Data Command Reply : Type) where
  closed : State
  fits : Command → List State
  steps : Command → List Step
  next : Command → State → State
  /-- What a command whose calls have succeeded makes of the record they left and of the data of
  the session: its answer, and the data it leaves. -/
  settles : Command → List Event → Data → Except Error Reply → Data → Prop
  /-- The calls that lead to a state; those that lead to the closed one are complete. -/
  words : State → Language Step

structure Rules.Lawful (rules : Rules State Data Command Reply) : Prop where
  closed_not_fits : ∀ command, rules.closed ∉ rules.fits command
  next_word : ∀ {command state word}, state ∈ rules.fits command → word ∈ rules.words state →
    word ++ rules.steps command ∈ rules.words (rules.next command state)
  completes : ∀ {state word}, word ∈ rules.words state →
    ∃ rest, word ++ rest ∈ rules.words rules.closed

def Calls.Keeps (calls : Calls (Handle × Data) σ α) (keeps : Data → Data → Prop) : Prop :=
  ∀ lent state, keeps lent.2 (calls lent state).1.2.2

theorem Calls.keeps_beside (calls : Calls Handle σ α) :
    (calls.beside : Calls (Handle × Data) σ α).Keeps Eq := fun _ _ => rfl

theorem Calls.keeps_store (op : Handle → StoringCall σ Handle) :
    (Calls.store op).Keeps
      fun before after => ∃ patches, after = Patch.applyAll patches before := by
  intro lent state
  simp only [Calls.store]
  rcases op lent.1 state with ⟨⟨_ | _, patches⟩, _⟩ <;> exact ⟨patches, rfl⟩

namespace Session

/-- Sessions whose record tells when they give their instance back. -/
def Kind.Notes (kind : Kind (Recorded σ) Handle State) : Prop :=
  ∀ handle codec, (kind.release handle codec).2 = codec.2 ++ [.released]

def closedAs (closed : State) (session : Session Handle State Data) :
    Session Handle State Data :=
  { session with handle? := none, state := closed }

/-- What a step answers, the session it leaves, and what it adds to the record.  Whatever it has
made of the data stays, also if it fails. -/
inductive Stepped (closed : State) (before : List State) (after : State)
    (steps : List Step) (log : α → List Event) (keeps : Data → Data → Prop)
    (session : Session Handle State Data) :
    Except Error α → Session Handle State Data → List Event → Prop where
  | idle (hhandle : session.handle? = none) :
      Stepped closed before after steps log keeps session
        (.error (.codec .invalidOperation)) (session.closedAs closed) []
  | refused (hhandle : session.handle?.isSome) (hbefore : session.state ∉ before) :
      Stepped closed before after steps log keeps session
        (.error (.codec .invalidOperation)) (session.closedAs closed) [.released]
  | failed (hhandle : session.handle?.isSome) (hbefore : session.state ∈ before)
      {made : List Event} {request : Request} (status : Status)
      (hmade : ∀ event ∈ made, event.Answered)
      (hsteps : Event.calls made ++ [request.step] <+: steps)
      {data : Data} (hdata : keeps session.data data) :
      Stepped closed before after steps log keeps session
        (.error (.codec status.fault)) ⟨none, closed, data⟩
        (made ++ [.failed request status, .released])
  | advanced (hhandle : session.handle?.isSome) (hbefore : session.state ∈ before)
      (handle : Handle) (value : α) {data : Data} (hdata : keeps session.data data) :
      Stepped closed before after steps log keeps session
        (.ok value) ⟨some handle, after, data⟩ (log value)

theorem fail_of_some {kind : Kind (Recorded σ) Handle State} (hnotes : kind.Notes)
    (session : Session Handle State Data) {handle : Handle}
    (hhandle : session.handle? = some handle) (status : Status) (world : World (Recorded σ)) :
    ∃ world', (fail kind status : Method _ _ _ _ α) session world =
        ((.error (.codec status.fault), session.closedAs kind.closed), world') ∧
      world'.codec.2 = world.codec.2 ++ [.released] := by
  simp only [fail, close_of_some hhandle]
  exact ⟨_, rfl, hnotes handle world.codec⟩

theorem stepWith_cases [DecidableEq State] {kind : Kind (Recorded σ) Handle State}
    (hnotes : kind.Notes) (before : List State) (after : State)
    {calls : Calls (Handle × Data) (Recorded σ) α} {steps : List Step} {log : α → List Event}
    {keeps : Data → Data → Prop} (hcalls : calls.Logged steps log) (hkeeps : calls.Keeps keeps)
    (session : Session Handle State Data) (world : World (Recorded σ)) :
    ∃ result left added world', stepWith kind before after calls session world =
        ((result, left), world') ∧
      world'.codec.2 = world.codec.2 ++ added ∧ (session.handle? = none → world' = world) ∧
      Stepped kind.closed before after steps log keeps session result left added := by
  unfold stepWith
  rcases hhandle : session.handle? with _ | handle
  · simp only [fail, close_of_none hhandle]
    refine ⟨_, _, [], world, ?_, (List.append_nil _).symm, fun _ => rfl, .idle hhandle⟩
    simp [closedAs, Status.warnings]
  · have hsome : session.handle?.isSome := by rw [hhandle]; rfl
    by_cases hbefore : session.state ∈ before
    · simp only [if_pos hbefore]
      obtain ⟨made, hmade, houtcome⟩ := hcalls.outcome (handle, session.data) world.codec
      have hdata := hkeeps (handle, session.data) world.codec
      generalize calls (handle, session.data) world.codec = answered at hmade houtcome hdata
      obtain ⟨⟨result, handle', data⟩, codec⟩ := answered
      simp only at hmade houtcome hdata
      cases houtcome with
      | succeeded value =>
          exact ⟨_, _, _, _, rfl, hmade, by simp, .advanced hsome hbefore handle' value hdata⟩
      | failed status hanswered hsteps =>
          obtain ⟨world', hfail, hreleased⟩ := fail_of_some (α := α) hnotes
            { session with handle? := some handle', data } rfl status { world with codec }
          refine ⟨_, _, _, world', hfail, ?_, by simp,
            .failed hsome hbefore status hanswered hsteps hdata⟩
          rw [hreleased, hmade]
          simp
    · simp only [if_neg hbefore]
      obtain ⟨world', hfail, hreleased⟩ := fail_of_some (α := α) hnotes session hhandle
        CodecFault.invalidOperation.status world
      exact ⟨_, _, _, world', hfail, hreleased, by simp, .refused hsome hbefore⟩

end Session

/-- The answer to a command, the session it leaves, and what it adds to the record. -/
inductive Turn (rules : Rules State Data Command Reply) (command : Command)
    (session : Session Handle State Data) :
    Except Error Reply → Session Handle State Data → List Event → Prop where
  | idle (hhandle : session.handle? = none) :
      Turn rules command session
        (.error (.codec .invalidOperation)) (session.closedAs rules.closed) []
  | refused (hhandle : session.handle?.isSome) (hfits : session.state ∉ rules.fits command) :
      Turn rules command session
        (.error (.codec .invalidOperation)) (session.closedAs rules.closed) [.released]
  | failed (hhandle : session.handle?.isSome) (hfits : session.state ∈ rules.fits command)
      {made : List Event} {request : Request} (status : Status)
      (hmade : ∀ event ∈ made, event.Answered)
      (hsteps : Event.calls made ++ [request.step] <+: rules.steps command) {data : Data} :
      Turn rules command session
        (.error (.codec status.fault)) ⟨none, rules.closed, data⟩
        (made ++ [.failed request status, .released])
  | ended (hhandle : session.handle?.isSome) (hfits : session.state ∈ rules.fits command)
      {made : List Event} (hmade : ∀ event ∈ made, event.Answered)
      (hsteps : Event.calls made = rules.steps command)
      {answer : Except Error Reply} {data : Data}
      (hsettles : rules.settles command made session.data answer data) :
      Turn rules command session answer ⟨none, rules.closed, data⟩ (made ++ [.released])
  | advanced (hhandle : session.handle?.isSome) (hfits : session.state ∈ rules.fits command)
      {made : List Event} (hmade : ∀ event ∈ made, event.Answered)
      (hsteps : Event.calls made = rules.steps command)
      (hopen : rules.next command session.state ≠ rules.closed)
      {reply : Reply} (handle : Handle) {data : Data}
      (hsettles : rules.settles command made session.data (.ok reply) data) :
      Turn rules command session
        (.ok reply) ⟨some handle, rules.next command session.state, data⟩ made

section

variable {rules : Rules State Data Command Reply} {command : Command}
  {session left : Session Handle State Data} {answer : Except Error Reply} {added : List Event}

theorem Turn.calls_among (hturn : Turn rules command session answer left added) :
    ∀ step ∈ Event.calls added, step ∈ rules.steps command := by
  intro step hstep
  cases hturn with
  | idle => simp [Event.calls] at hstep
  | refused => simp [Event.calls] at hstep
  | failed _ _ status _ hsteps =>
      apply hsteps.subset
      simpa [Event.calls] using hstep
  | ended _ _ _ hsteps =>
      rw [← hsteps]
      simpa [Event.calls] using hstep
  | advanced _ _ _ hsteps =>
      rwa [← hsteps]

theorem Turn.closed_iff (hturn : Turn rules command session answer left added) :
    left.state = rules.closed ↔ left.handle? = none := by
  cases hturn with
  | idle => simp [Session.closedAs]
  | refused => simp [Session.closedAs]
  | failed => simp
  | ended => simp
  | advanced _ _ _ _ hopen => simp [hopen]

theorem Turn.of_ok {reply : Reply} (hturn : Turn rules command session (.ok reply) left added) :
    session.handle?.isSome ∧ session.state ∈ rules.fits command := by
  cases hturn with
  | ended hhandle hfits => exact ⟨hhandle, hfits⟩
  | advanced hhandle hfits => exact ⟨hhandle, hfits⟩

end

def Obeys (rules : Rules State Data Command Reply) (command : Command)
    (method : Session.Method (Recorded σ) Handle State Data Reply)
    (session : Session Handle State Data) (world : World (Recorded σ)) : Prop :=
  ∃ answer left added world', method session world = ((answer, left), world') ∧
    world'.codec.2 = world.codec.2 ++ added ∧ (session.handle? = none → world' = world) ∧
    Turn rules command session answer left added

inductive Settles (rules : Rules State Data Command Reply) (command : Command)
    (session : Session Handle State Data) (made : List Event) (world : World (Recorded σ)) :
    (Except Error Reply × Session Handle State Data) × World (Recorded σ) → Prop where
  | stays (hopen : rules.next command session.state ≠ rules.closed)
      {reply : Reply} {handle : Handle} {data : Data}
      (hsettles : rules.settles command made session.data (.ok reply) data) :
      Settles rules command session made world
        ((.ok reply, ⟨some handle, rules.next command session.state, data⟩), world)
  | ends {world' : World (Recorded σ)} (hreleased : world'.codec.2 = world.codec.2 ++ [.released])
      {answer : Except Error Reply} {data : Data}
      (hsettles : rules.settles command made session.data answer data) :
      Settles rules command session made world ((answer, ⟨none, rules.closed, data⟩), world')

section

variable [DecidableEq State] {rules : Rules State Data Command Reply} {command : Command}
  {kind : Session.Kind (Recorded σ) Handle State}
  {method : Session.Method (Recorded σ) Handle State Data Reply}
  {session : Session Handle State Data} {world : World (Recorded σ)} {log : α → List Event}

theorem Obeys.of_stepWith {calls : Calls (Handle × Data) (Recorded σ) α}
    {keeps : Data → Data → Prop} (hnotes : kind.Notes) (hclosed : kind.closed = rules.closed)
    (hcalls : calls.Logged (rules.steps command) log) (hkeeps : calls.Keeps keeps)
    (after : State) (follow : α → Session.Method (Recorded σ) Handle State Data Reply)
    (hmethod : method session world =
      (Session.stepWith kind (rules.fits command) after calls >>= follow) session world)
    (hfollow : session.state ∈ rules.fits command → ∀ value handle data world,
      keeps session.data data → Settles rules command session (log value) world
        (follow value ⟨some handle, after, data⟩ world)) :
    Obeys rules command method session world := by
  obtain ⟨result, left, added, world', hstep, hadded, hidle, hstepped⟩ :=
    Session.stepWith_cases hnotes (rules.fits command) after hcalls hkeeps session world
  rw [Session.bind_apply, hstep] at hmethod
  rw [hclosed] at hstepped
  cases hstepped with
  | idle hhandle => exact ⟨_, _, _, _, hmethod, hadded, hidle, .idle hhandle⟩
  | refused hhandle hfits => exact ⟨_, _, _, _, hmethod, hadded, hidle, .refused hhandle hfits⟩
  | failed hhandle hfits status hmade hsteps =>
      exact ⟨_, _, _, _, hmethod, hadded, hidle, .failed hhandle hfits status hmade hsteps⟩
  | advanced hhandle hfits handle value hdata =>
      have hmade := hcalls.answered value
      have hsteps := hcalls.steps_eq value
      have hrest := hfollow hfits value handle _ world' hdata
      rw [← show method session world = follow value _ world' from hmethod] at hrest
      generalize houtcome : method session world = outcome at hrest
      cases hrest with
      | stays hopen hsettles =>
          exact ⟨_, _, _, _, houtcome, hadded, hidle,
            .advanced hhandle hfits hmade hsteps hopen _ hsettles⟩
      | ends hreleased hsettles =>
          refine ⟨_, _, _, _, houtcome, ?_, ?_, .ended hhandle hfits hmade hsteps hsettles⟩
          · rw [hreleased, hadded, List.append_assoc]
          · intro hnone
            simp [hnone] at hhandle

theorem Obeys.of_step {calls : Calls Handle (Recorded σ) α} (hnotes : kind.Notes)
    (hclosed : kind.closed = rules.closed) (hcalls : calls.Logged (rules.steps command) log)
    (after : State) (follow : α → Session.Method (Recorded σ) Handle State Data Reply)
    (hmethod : method session world =
      (Session.step kind (rules.fits command) after calls >>= follow) session world)
    (hfollow : session.state ∈ rules.fits command → ∀ value handle world,
      Settles rules command session (log value) world
        (follow value { session with handle? := some handle, state := after } world)) :
    Obeys rules command method session world := by
  refine .of_stepWith hnotes hclosed hcalls.beside calls.keeps_beside after follow hmethod ?_
  rintro hfits value handle data world rfl
  exact hfollow hfits value handle world

end

structure Kept (rules : Rules State Data Command Reply) (session : Session Handle State Data)
    (events : List Event) : Prop where
  completes : ∃ rest, Event.calls events ++ rest ∈ rules.words rules.closed
  word : session.handle?.isSome → Event.calls events ∈ rules.words session.state
  succeeded : ∀ outcome ∈ (Event.outcomes events).dropLast, outcome.2 = true
  answered : session.handle?.isSome → ∀ outcome ∈ Event.outcomes events, outcome.2 = true
  closed_iff : session.state = rules.closed ↔ session.handle? = none
  released : events.count .released = if session.handle?.isNone then 1 else 0

variable {rules : Rules State Data Command Reply} {session : Session Handle State Data}
  {events added : List Event}

theorem Kept.of_closed {data : Data}
    (hcompletes : ∃ rest, Event.calls events ++ rest ∈ rules.words rules.closed)
    (hsucceeded : ∀ outcome ∈ (Event.outcomes events).dropLast, outcome.2 = true)
    (hreleased : events.count .released = 1) :
    Kept rules (⟨none, rules.closed, data⟩ : Session Handle State Data) events where
  completes := hcompletes
  word := by simp
  succeeded := hsucceeded
  answered := by simp
  closed_iff := by simp
  released := hreleased

theorem Kept.answered_made {made : List Event} (hkept : Kept rules session events)
    (hhandle : session.handle?.isSome) (hmade : ∀ event ∈ made, event.Answered) :
    ∀ outcome ∈ Event.outcomes (events ++ made), outcome.2 = true := by
  intro outcome houtcome
  rw [Event.outcomes_append, List.mem_append] at houtcome
  rcases houtcome with hbefore | hnow
  · exact hkept.answered hhandle outcome hbefore
  · exact Event.outcome_of_answered hmade outcome hnow

theorem Kept.turn {command : Command} {answer : Except Error Reply}
    {left : Session Handle State Data} (hlawful : rules.Lawful)
    (hkept : Kept rules session events) (hturn : Turn rules command session answer left added) :
    Kept rules left (events ++ added) := by
  have hnone (hhandle : session.handle?.isSome) : events.count .released = 0 := by
    rw [hkept.released, if_neg (by simpa [Option.isSome_iff_ne_none] using hhandle)]
  cases hturn with
  | idle hhandle =>
      rw [List.append_nil]
      refine .of_closed hkept.completes hkept.succeeded ?_
      rw [hkept.released, if_pos (by simpa using hhandle)]
  | refused hhandle hfits =>
      refine .of_closed ?_ ?_ ?_
      · simpa [Event.calls] using hkept.completes
      · simpa using hkept.succeeded
      · simp [List.count_append, hnone hhandle]
  | @failed hhandle hfits made request status hmade hsteps =>
      have hlast : Event.outcomes (events ++ (made ++ [.failed request status, .released])) =
          Event.outcomes (events ++ made) ++ [(request.step, false)] := by
        simp
      refine .of_closed ?_ ?_ ?_
      · obtain ⟨others, hothers⟩ := hsteps
        obtain ⟨rest, hrest⟩ := hlawful.completes (hlawful.next_word hfits (hkept.word hhandle))
        refine ⟨others ++ rest, ?_⟩
        rw [← hothers] at hrest
        simpa [Event.calls] using hrest
      · intro outcome houtcome
        rw [hlast, List.dropLast_concat] at houtcome
        exact hkept.answered_made hhandle hmade outcome houtcome
      · simp [List.count_append, hnone hhandle,
          Event.count_of_answered hmade Event.not_answered_released]
  | @ended hhandle hfits made hmade hsteps answer data hsettles =>
      have hlast : Event.outcomes (events ++ (made ++ [.released])) =
          Event.outcomes (events ++ made) := by
        simp
      refine .of_closed ?_ ?_ ?_
      · obtain ⟨rest, hrest⟩ := hlawful.completes (hlawful.next_word hfits (hkept.word hhandle))
        refine ⟨rest, ?_⟩
        rw [← hsteps] at hrest
        simpa [Event.calls] using hrest
      · intro outcome houtcome
        rw [hlast] at houtcome
        exact hkept.answered_made hhandle hmade outcome (List.mem_of_mem_dropLast houtcome)
      · simp [List.count_append, hnone hhandle,
          Event.count_of_answered hmade Event.not_answered_released]
  | advanced hhandle hfits hmade hsteps hopen handle hsettles =>
      have hall := hkept.answered_made hhandle hmade
      have hreach : Event.calls (events ++ added) ∈
          rules.words (rules.next command session.state) := by
        rw [Event.calls_append, hsteps]
        exact hlawful.next_word hfits (hkept.word hhandle)
      exact {
        completes := hlawful.completes hreach
        word := fun _ => hreach
        succeeded := fun outcome h => hall outcome (List.mem_of_mem_dropLast h)
        answered := fun _ => hall
        closed_iff := by simp [hopen]
        released := by
          simp [List.count_append, hnone hhandle,
            Event.count_of_answered hmade Event.not_answered_released] }

theorem Session.start_eq {state : State} {data : Data} {create : Call σ Handle} {shared : σ}
    {warnings : List Warning} {world : World (Recorded σ)}
    (hstart : Session.start state data (Codec.noteCreation create) ⟨(shared, []), warnings⟩ =
      (.ok session, world)) :
    (∃ handle, session = ⟨some handle, state, data⟩) ∧ world.codec.2 = [.created] := by
  rw [Session.start, Task.map_apply] at hstart
  simp only [Task.call, Codec.noteCreation] at hstart
  rcases hcreate : create shared with ⟨status | handle, left⟩
  · rw [hcreate] at hstart
    cases hstart
  · rw [hcreate] at hstart
    cases hstart
    exact ⟨⟨handle, rfl⟩, rfl⟩

theorem Kept.of_created {state : State} (hlawful : rules.Lawful) (hopen : state ≠ rules.closed)
    (hempty : [] ∈ rules.words state) (handle : Handle) (data : Data) :
    Kept rules ⟨some handle, state, data⟩ [.created] where
  completes := hlawful.completes hempty
  word := fun _ => hempty
  succeeded outcome houtcome := by cases houtcome
  answered _ outcome houtcome := by cases houtcome
  closed_iff := by simp [hopen]
  released := rfl

/-- What holds of a session whatever commands it has had, and of any command that comes next. -/
structure Disciplined (rules : Rules State Data Command Reply)
    (perform : Command → Session.Method (Recorded σ) Handle State Data Reply)
    (session : Session Handle State Data) (world : World (Recorded σ)) : Prop where
  order : ∃ rest, Event.calls world.codec.2 ++ rest ∈ rules.words rules.closed
  succeeded : ∀ outcome ∈ (Event.outcomes world.codec.2).dropLast, outcome.2 = true
  closed_iff_given_back : session.state = rules.closed ↔ session.handle? = none
  closed_iff_released : session.state = rules.closed ↔ .released ∈ world.codec.2
  released_once : world.codec.2.count .released ≤ 1
  /-- A command out of turn is refused without a call. -/
  out_of_turn : ∀ command, session.state ∉ rules.fits command →
    (perform command session world).1.1 = .error (.codec .invalidOperation) ∧
      Event.calls (perform command session world).2.codec.2 = Event.calls world.codec.2
  /-- A command that fails leaves the session closed and its instance given back, and changes
  nothing for the commands after it: all of them are refused. -/
  failure : ∀ {command error left world'},
    perform command session world = ((.error error, left), world') →
    left.state = rules.closed ∧ world'.codec.2.count .released = 1 ∧
      ∀ later, Run.performAll perform later left world' =
        ((later.map fun _ => .error (.codec .invalidOperation), left), world')

variable {perform : Command → Session.Method (Recorded σ) Handle State Data Reply}
  {world : World (Recorded σ)}

theorem Obeys.preserves {command : Command} {motive : Session Handle State Data → List Event → Prop}
    (hobeys : Obeys rules command (perform command) session world)
    (hturn : ∀ {answer left added}, Turn rules command session answer left added →
      motive left (world.codec.2 ++ added)) :
    motive (perform command session world).1.2 (perform command session world).2.codec.2 := by
  obtain ⟨answer, left, added, world', hperform, hadded, -, hturned⟩ := hobeys
  rw [hperform]
  simp only
  rw [hadded]
  exact hturn hturned

theorem Obeys.out_of_turn {command : Command}
    (hobeys : Obeys rules command (perform command) session world)
    (hfits : session.state ∉ rules.fits command) :
    (perform command session world).1.1 = .error (.codec .invalidOperation) ∧
      Event.calls (perform command session world).2.codec.2 = Event.calls world.codec.2 := by
  obtain ⟨answer, left, added, world', hperform, hadded, -, hturn⟩ := hobeys
  rw [hperform]
  simp only
  rw [hadded]
  cases hturn with
  | idle => simp
  | refused => simp [Event.calls]
  | failed _ hin => exact absurd hin hfits
  | ended _ hin => exact absurd hin hfits
  | advanced _ hin => exact absurd hin hfits

theorem Obeys.closed_of_error {command : Command} {error : Error}
    {left : Session Handle State Data} {world' : World (Recorded σ)}
    (hobeys : Obeys rules command (perform command) session world)
    (herror : perform command session world = ((.error error, left), world')) :
    left.handle? = none := by
  obtain ⟨answer, left', added, after, hperform, -, -, hturn⟩ := hobeys
  rw [hperform] at herror
  cases herror
  cases hturn <;> rfl

theorem Obeys.idle {command : Command}
    (hobeys : Obeys rules command (perform command) session world)
    (hhandle : session.handle? = none) (hclosed : session.state = rules.closed) :
    perform command session world = ((.error (.codec .invalidOperation), session), world) := by
  obtain ⟨answer, left, added, world', hperform, -, hidle, hturn⟩ := hobeys
  rw [hperform, hidle hhandle]
  cases hturn with
  | idle => simp [Session.closedAs, ← hhandle, ← hclosed]
  | refused hsome => simp [hhandle] at hsome
  | failed hsome => simp [hhandle] at hsome
  | ended hsome => simp [hhandle] at hsome
  | advanced hsome => simp [hhandle] at hsome

def Follows (rules : Rules State Data Command Reply)
    (perform : Command → Session.Method (Recorded σ) Handle State Data Reply) : Prop :=
  ∀ command session world, Obeys rules command (perform command) session world

theorem Follows.preserves (hfollows : Follows rules perform)
    {motive : Session Handle State Data → List Event → Prop}
    (hturn : ∀ {command session answer left events added}, motive session events →
      Turn rules command session answer left added → motive left (events ++ added))
    (commands : List Command) (hstart : motive session world.codec.2) :
    motive (Run.performAll perform commands session world).1.2
      (Run.performAll perform commands session world).2.codec.2 :=
  Run.performAll_induction
    (motive := fun session (world : World (Recorded σ)) => motive session world.codec.2)
    (fun command session world hbefore =>
      (hfollows command session world).preserves fun hturned => hturn hbefore hturned)
    commands hstart

theorem Follows.disciplined (hfollows : Follows rules perform) (hlawful : rules.Lawful)
    (hkept : Kept rules session world.codec.2) : Disciplined rules perform session world where
  order := hkept.completes
  succeeded := hkept.succeeded
  closed_iff_given_back := hkept.closed_iff
  closed_iff_released := by
    rw [hkept.closed_iff, ← List.count_pos_iff, hkept.released]
    cases session.handle? <;> simp
  released_once := by
    rw [hkept.released]
    split <;> omega
  out_of_turn command hfits := (hfollows command session world).out_of_turn hfits
  failure := by
    intro command error left world' herror
    have hhandle := (hfollows command session world).closed_of_error herror
    have hleft := (hfollows command session world).preserves fun hturn => hkept.turn hlawful hturn
    rw [herror] at hleft
    have hclosed := hleft.closed_iff.mpr hhandle
    refine ⟨hclosed, ?_, ?_⟩
    · rw [hleft.released, hhandle]
      rfl
    · exact Run.performAll_of_idle fun command =>
        (hfollows command left world').idle hhandle hclosed

end JpegLs
