import Mathlib.Computability.RegularExpressions
import JpegLs.Proofs.Session.Erasure
import JpegLs.Proofs.Session.Rules

/-!
The order of calls in an encoding.  The frame comes first, then perhaps the scan order, with any
number of estimates behind each; then the destination, perhaps a header, the samples, and at last
the number of bytes written.
-/

namespace JpegLs

open Loopback (Step)
open RegularExpression (char star)

namespace Word

variable {α : Type} {P Q : RegularExpression α} {word : List α} {letter : α}

theorem mem_char (h : word ∈ P.matches') : word ++ [letter] ∈ (P * char letter).matches' :=
  Language.append_mem_mul h rfl

theorem mem_star (h : word ∈ P.matches') : word ∈ (P * star Q).matches' := by
  have hempty : word ++ [] ∈ (P * star Q).matches' :=
    Language.append_mem_mul h (Language.nil_mem_kstar _)
  simpa using hempty

theorem mem_star_char (h : word ∈ (P * star (char letter)).matches') :
    word ++ [letter] ∈ (P * star (char letter)).matches' := by
  obtain ⟨first, hfirst, second, hsecond, rfl⟩ := Language.mem_mul.mp h
  obtain ⟨letters, rfl, hletters⟩ := Language.mem_kstar.mp hsecond
  rw [List.append_assoc]
  refine Language.append_mem_mul hfirst (Language.mem_kstar.mpr ⟨letters ++ [[letter]], ?_, ?_⟩)
  · rw [List.flatten_append, List.flatten_singleton]
  · intro part hpart
    rcases List.mem_append.mp hpart with hbefore | hlast
    · exact hletters part hbefore
    · exact List.mem_singleton.mp hlast

theorem mem_option_of_left (h : word ∈ P.matches') : word ∈ (P * (1 + Q)).matches' := by
  have hempty : word ++ [] ∈ (P * (1 + Q)).matches' :=
    Language.append_mem_mul h (Or.inl Language.nil_mem_one)
  simpa using hempty

theorem mem_option_of_right (h : word ∈ (P * Q).matches') :
    word ∈ (P * (1 + Q)).matches' := by
  obtain ⟨first, hfirst, second, hsecond, rfl⟩ := Language.mem_mul.mp h
  exact Language.append_mem_mul hfirst (Or.inr hsecond)

theorem mem_assoc {R : RegularExpression α} :
    word ∈ (P * (Q * R)).matches' ↔ word ∈ (P * Q * R).matches' := by
  simp only [RegularExpression.matches'_mul, mul_assoc]

end Word

namespace EncodeSession

def framed : RegularExpression Step :=
  char .setFrameInfo * star (char .estimatedDestinationSize)

def arranged : RegularExpression Step :=
  char .setInterleaveMode * star (char .estimatedDestinationSize)

def path : EncodeState → RegularExpression Step
  | .created => 1
  | .frameSet => framed
  | .interleaveSet => framed * arranged
  | .destinationSet => framed * (1 + arranged) * char .setDestinationBuffer
  | .spiffWritten =>
      framed * (1 + arranged) * char .setDestinationBuffer * char .writeSpiffHeader
  | .encoded =>
      framed * (1 + arranged) * char .setDestinationBuffer * (1 + char .writeSpiffHeader) *
        char .encodeFromBuffer
  | .closed =>
      framed * (1 + arranged) * char .setDestinationBuffer * (1 + char .writeSpiffHeader) *
        char .encodeFromBuffer * char .bytesWritten

def rules : Rules EncodeState (List UInt8) EncodeCommand EncodeReply where
  closed := .closed
  fits
    | .setFrameInfo _ => [.created]
    | .setInterleave _ => [.frameSet]
    | .estimate | .setDestination _ => [.frameSet, .interleaveSet]
    | .writeSpiff .. => [.destinationSet]
    | .encodeFrom _ => [.destinationSet, .spiffWritten]
    | .finish => [.encoded]
  steps
    | .setFrameInfo _ => [.setFrameInfo]
    | .setInterleave _ => [.setInterleaveMode]
    | .estimate => [.estimatedDestinationSize]
    | .setDestination _ => [.setDestinationBuffer]
    | .writeSpiff .. => [.writeSpiffHeader]
    | .encodeFrom _ => [.encodeFromBuffer]
    | .finish => [.bytesWritten]
  next
    | .setFrameInfo _, _ => .frameSet
    | .setInterleave _, _ => .interleaveSet
    | .estimate, state => state
    | .setDestination _, _ => .destinationSet
    | .writeSpiff .., _ => .spiffWritten
    | .encodeFrom _, _ => .encoded
    | .finish, _ => .closed
  settles command made before answer after :=
    match command with
    | .setFrameInfo _ | .setInterleave _ => answer = .ok .done ∧ after = before
    | .estimate => ∃ size, made = [.answered .estimatedSize (.size size)] ∧
        answer = .ok (.size size) ∧ after = before
    | .setDestination destination =>
        made = [.answered (.setDestination destination.length) .done] ∧
          answer = .ok .done ∧ after = destination
    | .writeSpiff .. | .encodeFrom _ =>
        answer = .ok .done ∧ ∃ patches, after = Patch.applyAll patches before
    | .finish => ∃ written, made = [.answered .bytesWritten (.size written)] ∧
        after = before ∧
        answer = if before.length < written then .error (.codec .destinationBufferTooSmall)
          else .ok (.written written)
  words state := (path state).matches'

theorem path_next {command : EncodeCommand} {state : EncodeState} {word : List Step}
    (hfits : state ∈ rules.fits command) (hword : word ∈ (path state).matches') :
    word ++ rules.steps command ∈ (path (rules.next command state)).matches' := by
  cases command with
  | setFrameInfo frame =>
      obtain rfl := List.mem_singleton.mp hfits
      obtain rfl := (Language.mem_one word).mp hword
      exact Word.mem_star rfl
  | setInterleave mode =>
      obtain rfl := List.mem_singleton.mp hfits
      exact Word.mem_assoc.mpr (Word.mem_star (Word.mem_char hword))
  | estimate =>
      rcases List.mem_pair.mp hfits with rfl | rfl
      · exact Word.mem_star_char hword
      · exact Word.mem_assoc.mpr (Word.mem_star_char (Word.mem_assoc.mp hword))
  | setDestination destination =>
      rcases List.mem_pair.mp hfits with rfl | rfl
      · exact Word.mem_char (Word.mem_option_of_left hword)
      · exact Word.mem_char (Word.mem_option_of_right hword)
  | writeSpiff space units vertical horizontal =>
      obtain rfl := List.mem_singleton.mp hfits
      exact Word.mem_char hword
  | encodeFrom source =>
      rcases List.mem_pair.mp hfits with rfl | rfl
      · exact Word.mem_char (Word.mem_option_of_left hword)
      · exact Word.mem_char (Word.mem_option_of_right hword)
  | finish =>
      obtain rfl := List.mem_singleton.mp hfits
      exact Word.mem_char hword

/-- Whether calls that lead to a state can be made up to those of a complete encoding. -/
def Completes (state : EncodeState) : Prop :=
  ∀ word ∈ (path state).matches', ∃ rest, word ++ rest ∈ (path .closed).matches'

theorem Completes.before {state : EncodeState} (command : EncodeCommand)
    (hfits : state ∈ rules.fits command) (h : Completes (rules.next command state)) :
    Completes state := by
  intro word hword
  obtain ⟨rest, hrest⟩ := h _ (path_next hfits hword)
  exact ⟨rules.steps command ++ rest, by rwa [← List.append_assoc]⟩

theorem completes (state : EncodeState) : Completes state := by
  have hclosed : Completes .closed := fun word hword => ⟨[], by rwa [List.append_nil]⟩
  have hencoded : Completes .encoded := Completes.before .finish (by decide) hclosed
  have hplaced : Completes .destinationSet :=
    Completes.before (.encodeFrom []) (by decide) hencoded
  have hframed : Completes .frameSet := Completes.before (.setDestination []) (by decide) hplaced
  cases state with
  | created => exact Completes.before (.setFrameInfo ⟨0, 0, 0, 0⟩) (by decide) hframed
  | frameSet => exact hframed
  | interleaveSet => exact Completes.before (.setDestination []) (by decide) hplaced
  | destinationSet => exact hplaced
  | spiffWritten => exact Completes.before (.encodeFrom []) (by decide) hencoded
  | encoded => exact hencoded
  | closed => exact hclosed

theorem rules_lawful : rules.Lawful where
  closed_not_fits command := by cases command <;> simp [rules]
  next_word hfits hword := path_next hfits hword
  completes hword := completes _ _ hword

variable {σ : Type} (codec : Codec σ)

theorem kind_notes : (kind codec.recorded).Notes := fun _ _ => rfl

theorem follows : Follows rules (perform codec.recorded) := by
  intro command session world
  cases command with
  | setFrameInfo frame =>
      refine Obeys.of_step (kind_notes codec) rfl
        (Calls.logged_change (.setFrameInfo frame) (codec.setFrameInfo · frame))
        .frameSet (fun () => pure .done) ?_ ?_
      · simp only [perform, setFrameInfo, map_eq_pure_bind]
        rfl
      · intro hfits value handle world
        exact .stays (by simp [rules]) ⟨rfl, rfl⟩
  | setInterleave mode =>
      refine Obeys.of_step (kind_notes codec) rfl
        (Calls.logged_change (.setInterleave mode) (codec.setInterleave · mode))
        .interleaveSet (fun () => pure .done) ?_ ?_
      · simp only [perform, setInterleave, map_eq_pure_bind]
        rfl
      · intro hfits value handle world
        exact .stays (by simp [rules]) ⟨rfl, rfl⟩
  | estimate =>
      refine Obeys.of_step (kind_notes codec) rfl
        (Calls.logged_query .estimatedSize .size codec.estimatedSize)
        session.state (fun size => pure (.size size)) ?_ ?_
      · simp only [perform, estimate, map_eq_pure_bind, bind_assoc]
        rfl
      · intro hfits value handle world
        refine .stays ?_ ⟨value, rfl, rfl, rfl⟩
        intro (hclosed : session.state = .closed)
        rw [hclosed] at hfits
        exact rules_lawful.closed_not_fits .estimate hfits
  | setDestination destination =>
      refine Obeys.of_step (kind_notes codec) rfl
        (Calls.logged_change (.setDestination destination.length)
          (codec.setDestination · destination.length))
        .destinationSet (fun () => do
          modify fun session => { session with data := destination }
          return .done) ?_ ?_
      · simp only [perform, setDestination, map_eq_pure_bind, bind_assoc]
        rfl
      · intro hfits value handle world
        exact .stays (by simp [rules]) ⟨rfl, rfl, rfl⟩
  | writeSpiff space units vertical horizontal =>
      refine Obeys.of_stepWith (kind_notes codec) rfl
        (Calls.logged_store (.writeSpiff space units vertical horizontal)
          (codec.writeSpiff · space units vertical horizontal))
        (Calls.keeps_store _) .spiffWritten (fun () => pure .done) ?_ ?_
      · simp only [perform, writeSpiff, map_eq_pure_bind]
        rfl
      · intro hfits value handle data world hstored
        exact .stays (by simp [rules]) ⟨rfl, hstored⟩
  | encodeFrom source =>
      refine Obeys.of_stepWith (kind_notes codec) rfl
        (Calls.logged_store (.encodeFrom source) (codec.encodeFrom · source))
        (Calls.keeps_store _) .encoded (fun () => pure .done) ?_ ?_
      · simp only [perform, encodeFrom, map_eq_pure_bind]
        rfl
      · intro hfits value handle data world hstored
        exact .stays (by simp [rules]) ⟨rfl, hstored⟩
  | finish =>
      refine Obeys.of_step (kind_notes codec) rfl
        (Calls.logged_query .bytesWritten .size codec.bytesWritten) .closed
        (fun written => .written <$> do
          Session.close (kind codec.recorded)
          if (← get).data.length < written then throw (.codec .destinationBufferTooSmall)
          else return written) ?_ ?_
      · rw [perform, finish, map_bind]
        rfl
      · intro hfits written handle world
        rw [Session.map_apply, Session.bind_apply, Session.close_of_some rfl]
        simp only [Session.bind_apply, Session.get_apply]
        by_cases hsize : session.data.length < written
        · simp only [if_pos hsize, Session.throw_apply]
          exact .ends rfl ⟨written, rfl, rfl, (if_pos hsize).symm⟩
        · simp only [if_neg hsize, Session.pure_apply]
          exact .ends rfl ⟨written, rfl, rfl, (if_neg hsize).symm⟩

def Lent (session : EncodeSession codec.recorded) (events : List Event) : Prop :=
  session.state ∈ [EncodeState.destinationSet, .spiffWritten, .encoded] →
    .answered (.setDestination session.data.length) .done ∈ events

variable {codec} {session left : EncodeSession codec.recorded} {events added : List Event}

theorem Lent.turn {command : EncodeCommand} {answer : Except Error EncodeReply}
    (hlent : Lent codec session events) (hturn : Turn rules command session answer left added) :
    Lent codec left (events ++ added) := by
  cases hturn with
  | idle => exact fun hstate => by simp [Session.closedAs, rules] at hstate
  | refused => exact fun hstate => by simp [Session.closedAs, rules] at hstate
  | failed => exact fun hstate => by simp [rules] at hstate
  | ended => exact fun hstate => by simp [rules] at hstate
  | advanced hhandle hfits hmade hsteps hopen handle hsettles =>
      intro hstate
      cases command with
      | setFrameInfo frame => simp [rules] at hstate
      | setInterleave mode => simp [rules] at hstate
      | estimate =>
          rcases List.mem_pair.mp hfits with hbefore | hbefore <;> simp [rules, hbefore] at hstate
      | setDestination destination =>
          obtain ⟨rfl, -, rfl⟩ := hsettles
          simp
      | writeSpiff space units vertical horizontal =>
          obtain ⟨-, patches, rfl⟩ := hsettles
          have hbefore := hlent (by simp [List.mem_singleton.mp hfits])
          rw [Patch.length_applyAll]
          exact List.mem_append_left _ hbefore
      | encodeFrom source =>
          obtain ⟨-, patches, rfl⟩ := hsettles
          have hbefore := hlent (by rcases List.mem_pair.mp hfits with h | h <;> simp [h])
          rw [Patch.length_applyAll]
          exact List.mem_append_left _ hbefore
      | finish => exact absurd rfl hopen

theorem Lent.written_le {written : Nat} (hlent : Lent codec session events)
    (hturn : Turn rules .finish session (.ok (.written written)) left added) :
    ∃ length, .answered (.setDestination length) .done ∈ events ++ added ∧
      .answered .bytesWritten (.size written) ∈ events ++ added ∧ written ≤ length := by
  cases hturn with
  | ended hhandle hfits hmade hsteps hsettles =>
      obtain ⟨count, rfl, -, hanswer⟩ := hsettles
      have hlength := hlent (by simp [List.mem_singleton.mp hfits])
      by_cases hsize : session.data.length < count
      · simp [hsize] at hanswer
      · obtain rfl : written = count := by simpa [hsize] using hanswer
        exact ⟨session.data.length, by simp [hlength], by simp, Nat.le_of_not_lt hsize⟩
  | advanced _ _ _ _ hopen => exact absurd rfl hopen

/-- Any commands on a session that has just been started keep to the rules, whatever the codec
answers; and the last of them reports no more bytes than the destination it lent has. -/
theorem performAll_disciplined (codec : Codec σ) (shared : σ) (warnings : List Warning)
    (commands : List EncodeCommand) {session : EncodeSession codec.recorded}
    {world : World (Recorded σ)}
    (hstart : start codec.recorded ⟨(shared, []), warnings⟩ = (.ok session, world)) :
    let run := Run.performAll (perform codec.recorded) commands session world
    Run.performAll (perform codec) commands session world.erase = (run.1, run.2.erase) ∧
      Disciplined rules (perform codec.recorded) run.1.2 run.2 ∧
      ∀ {written left world'},
        perform codec.recorded .finish run.1.2 run.2 = ((.ok (.written written), left), world') →
        ∃ length, .answered (.setDestination length) .done ∈ world'.codec.2 ∧
          .answered .bytesWritten (.size written) ∈ world'.codec.2 ∧ written ≤ length := by
  intro run
  obtain ⟨⟨encoder, rfl⟩, hcreated⟩ := Session.start_eq hstart
  have hkept : Kept rules run.1.2 run.2.codec.2 := by
    apply (follows codec).preserves (fun hkept hturn => hkept.turn rules_lawful hturn)
    have hempty : [] ∈ rules.words .created := Language.nil_mem_one
    rw [hcreated]
    exact .of_created rules_lawful (by simp [rules]) hempty encoder []
  have hlent : Lent codec run.1.2 run.2.codec.2 := by
    apply (follows codec).preserves (fun hlent hturn => hlent.turn hturn)
    intro hstate
    simp at hstate
  refine ⟨Run.performAll_erase (erases_perform codec) commands _ world,
    (follows codec).disciplined rules_lawful hkept, ?_⟩
  intro written left world' hfinish
  obtain ⟨answer, last, added, after, hperform, hadded, -, hturn⟩ :=
    follows codec .finish run.1.2 run.2
  rw [hperform] at hfinish
  cases hfinish
  rw [hadded]
  exact hlent.written_le hturn

theorem performAll_disciplined_loopback :
    let perform := perform (Loopback.codec {}).recorded
    let session : EncodeSession (Loopback.codec {}).recorded := ⟨some {}, .created, []⟩
    let world : World (Recorded Loopback.Record) :=
      { codec := ({ calls := [.createEncoder], created := 1 }, [.created]) }
    let run := Run.performAll perform
      [.setFrameInfo ⟨1, 1, 8, 1⟩, .estimate, .setDestination (List.replicate 20 0),
        .encodeFrom [0]] session world
    start (Loopback.codec {}).recorded ⟨({}, []), []⟩ = (.ok session, world) ∧
      Disciplined rules perform run.1.2 run.2 ∧
      ∃ left world', perform .finish run.1.2 run.2 = ((.ok (.written 17), left), world') ∧
        ∃ length, .answered (.setDestination length) .done ∈ world'.codec.2 ∧ 17 ≤ length := by
  intro perform session world run
  have hstart : start (Loopback.codec {}).recorded ⟨({}, []), []⟩ = (.ok session, world) := rfl
  obtain ⟨-, hdisciplined, hwritten⟩ := performAll_disciplined (Loopback.codec {}) {} []
    [.setFrameInfo ⟨1, 1, 8, 1⟩, .estimate, .setDestination (List.replicate 20 0),
      .encodeFrom [0]] hstart
  have hfinish : (perform .finish run.1.2 run.2).1.1 = .ok (.written 17) := by decide +kernel
  have hlast := Prod.ext (Prod.ext hfinish rfl) rfl
  obtain ⟨length, hlength, -, hle⟩ := hwritten hlast
  exact ⟨hstart, hdisciplined, _, _, hlast, length, hlength, hle⟩

end EncodeSession

end JpegLs
