import JpegLs.Proofs.Loopback.Stream
import JpegLs.Proofs.Metadata
import JpegLs.Proofs.Pixels.Scan
import JpegLs.Proofs.Session.Erasure
import JpegLs.Proofs.Session.Rules

/-!
The order of calls in a decoding, and the frame it finds.  A frame that passes the reading of the
headers has everything the image needs, so that only a destination of another size can still
spoil the decoding.
-/

namespace JpegLs

open Loopback (Step)

theorem FrameInfo.Valid.components_ne {metadata : Metadata} (hframe : metadata.frame.Valid) :
    metadata.components.toNat ≠ 0 := by
  intro hzero
  have hcomponents := hframe.components
  simp [Metadata.frame, hzero] at hcomponents

theorem FrameInfo.components_dvd_samples (frame : FrameInfo) :
    frame.components.toNat ∣ frame.samples :=
  Nat.dvd_mul_left _ _

namespace DecodeSession

theorem image_of_valid {metadata : Metadata} (hframe : metadata.frame.Valid)
    (stored : List UInt8) :
    let samples := PixelBuffer.ofBytes stored (.ofBits metadata.bits.toNat)
    image metadata stored =
      if samples.length = metadata.frame.samples then
        .ok ⟨metadata, samples.pixelOrder metadata.components.toNat metadata.interleave⟩
      else
        .error (.bufferSize metadata.frame.samples samples.length) := by
  intro samples
  have hcount : metadata.sampleCount? = some metadata.frame.samples :=
    FrameInfo.sampleCount?_eq_some_iff.mpr ⟨rfl, hframe.samples_lt⟩
  simp only [image, hcount]
  by_cases hlength : samples.length = metadata.frame.samples
  · have hdvd : metadata.components.toNat ∣ samples.length := by
      rw [hlength]
      exact metadata.frame.components_dvd_samples
    rw [if_neg (not_not_intro hlength), if_pos hlength,
      PixelBuffer.ofScan_eq hframe.components_ne hdvd]
    rfl
  · rw [if_pos hlength, if_neg hlength]

def callOrder : List Step :=
  [.setSourceBuffer, .readHeader, .frameInfo, .interleaveMode, .destinationSize, .decodeToBuffer]

def reached : DecodeState → Nat
  | .created => 0
  | .sourceSet => 1
  | .headerRead => 4
  | .sizeQueried => 5
  | .decoded | .closed => 6

def rules : Rules DecodeState DecodeFindings DecodeCommand DecodeReply where
  closed := .closed
  fits
    | .setSource _ => [.created]
    | .readHeader => [.sourceSet]
    | .querySize => [.headerRead]
    | .finish => [.sizeQueried]
  steps
    | .setSource _ => [.setSourceBuffer]
    | .readHeader => [.readHeader, .frameInfo, .interleaveMode]
    | .querySize => [.destinationSize]
    | .finish => [.decodeToBuffer]
  next
    | .setSource _, _ => .sourceSet
    | .readHeader, _ => .headerRead
    | .querySize, _ => .sizeQueried
    | .finish, _ => .closed
  settles command made before answer after :=
    match command with
    | .setSource _ => answer = .ok .done ∧ after = before
    | .readHeader => ∃ frame interleave,
        made = [.answered .readHeader .done, .answered .frameInfo (.frame frame),
          .answered .interleave (.interleave interleave)] ∧
        match Metadata.ofFrame frame interleave with
        | .ok metadata => answer = .ok (.metadata metadata) ∧
            after = { before with metadata? := some metadata }
        | .error error => answer = .error error ∧ after = before
    | .querySize => ∃ size, made = [.answered .destinationSize (.size size)] ∧
        answer = .ok (.size size) ∧ after = { before with size }
    | .finish => made = [.answered (.decodeInto before.size) .done] ∧ after = before ∧
        ∃ stored : List UInt8, answer =
          match before.metadata? with
          | none => .error (.codec .invalidOperation)
          | some metadata => .image <$>
              image metadata (Patch.apply ⟨0, stored⟩ (List.replicate before.size 0))
  words state := {callOrder.take (reached state)}

theorem rules_lawful : rules.Lawful where
  closed_not_fits command := by cases command <;> simp [rules]
  next_word := by
    intro command state word hfits hword
    obtain rfl := hword
    cases command with
    | setSource source =>
        obtain rfl := List.mem_singleton.mp hfits
        rfl
    | readHeader =>
        obtain rfl := List.mem_singleton.mp hfits
        rfl
    | querySize =>
        obtain rfl := List.mem_singleton.mp hfits
        rfl
    | finish =>
        obtain rfl := List.mem_singleton.mp hfits
        rfl
  completes := by
    intro state word hword
    obtain rfl := hword
    exact ⟨callOrder.drop (reached state), List.take_append_drop _ _⟩

variable {σ : Type} (codec : Codec σ)

theorem kind_notes : (kind codec.recorded).Notes := fun _ _ => rfl

theorem logged_readHeader :
    Calls.Logged
      (do
        Calls.change codec.recorded.readHeader
        return (← Calls.query codec.recorded.frameInfo, ← Calls.query codec.recorded.interleave))
      [.readHeader, .frameInfo, .interleaveMode]
      fun (frame, interleave) =>
        [.answered .readHeader .done, .answered .frameInfo (.frame frame),
          .answered .interleave (.interleave interleave)] where
  answered value event hevent := by
    simp only [List.mem_cons, List.not_mem_nil, or_false] at hevent
    rcases hevent with rfl | rfl | rfl <;> exact ⟨_, _, rfl⟩
  steps_eq _ := rfl
  outcome handle recorded := by
    obtain ⟨state, events⟩ := recorded
    simp only [Calls.bind_apply, Calls.change_apply, Calls.query_apply, Calls.pure_apply,
      Codec.recorded, Codec.note]
    have hanswered {request response} : Event.Answered (.answered request response) :=
      ⟨request, response, rfl⟩
    rcases codec.readHeader handle state with ⟨status | handle, state⟩
    · exact ⟨_, rfl, @Calls.Outcome.failed _ _ _ [] .readHeader status (by simp) ⟨_, rfl⟩⟩
    simp only
    rcases codec.frameInfo handle state with ⟨status | frame, state⟩
    · refine ⟨[.answered .readHeader .done] ++ [.failed .frameInfo status], by simp, ?_⟩
      exact .failed status (by simp [hanswered]) ⟨_, rfl⟩
    simp only
    rcases codec.interleave handle state with ⟨status | interleave, state⟩
    · refine ⟨[.answered .readHeader .done, .answered .frameInfo (.frame frame)] ++
        [.failed .interleave status], by simp, ?_⟩
      exact .failed status (by simp [hanswered]) ⟨_, rfl⟩
    · exact ⟨_, by simp, .succeeded (frame, interleave)⟩

theorem follows : Follows rules (perform codec.recorded) := by
  intro command session world
  cases command with
  | setSource source =>
      refine Obeys.of_step (kind_notes codec) rfl
        (Calls.logged_change (.setSource source) (codec.setSource · source))
        .sourceSet (fun () => pure .done) ?_ ?_
      · simp only [perform, setSource, map_eq_pure_bind]
        rfl
      · intro hfits value handle world
        exact .stays (by simp [rules]) ⟨rfl, rfl⟩
  | readHeader =>
      refine Obeys.of_step (kind_notes codec) rfl (logged_readHeader codec) .headerRead
        (fun (frame, interleave) => .metadata <$>
          match Metadata.ofFrame frame interleave with
          | .ok metadata => do
              modify fun session => { session with data.metadata? := some metadata }
              return metadata
          | .error error => do
              Session.close (kind codec.recorded)
              throw error) ?_ ?_
      · rw [perform, readHeader, map_bind]
        rfl
      · rintro hfits ⟨frame, interleave⟩ handle world
        simp only [Session.map_apply]
        rcases hframe : Metadata.ofFrame frame interleave with error | metadata
        · refine .ends rfl ⟨frame, interleave, rfl, ?_⟩
          rw [hframe]
          exact ⟨rfl, rfl⟩
        · refine .stays (by simp [rules]) ⟨frame, interleave, rfl, ?_⟩
          rw [hframe]
          exact ⟨rfl, rfl⟩
  | querySize =>
      refine Obeys.of_step (kind_notes codec) rfl
        (Calls.logged_query .destinationSize .size codec.destinationSize) .sizeQueried
        (fun size => do
          modify fun session => { session with data.size := size }
          return .size size) ?_ ?_
      · simp only [perform, querySize, map_eq_pure_bind, bind_assoc]
        rfl
      · intro hfits value handle world
        exact .stays (by simp [rules]) ⟨value, rfl, rfl, rfl⟩
  | finish =>
      refine Obeys.of_step (kind_notes codec) rfl
        (Calls.logged_query (.decodeInto session.data.size) (fun _ => .done)
          (codec.decodeInto · session.data.size)) .decoded
        (fun stored => .image <$> do
          Session.close (kind codec.recorded)
          match session.data.metadata? with
          | none => throw (.codec .invalidOperation)
          | some metadata =>
              image metadata (Patch.apply ⟨0, stored⟩ (List.replicate session.data.size 0)))
        ?_ ?_
      · rw [perform, finish, map_bind, Session.bind_apply, Session.get_apply]
        simp only [map_bind]
        rfl
      · intro hfits stored handle world
        simp only [Session.map_apply, Session.bind_apply]
        rw [Session.close_of_some rfl]
        rcases hmetadata : session.data.metadata? with _ | metadata
        · refine .ends rfl ⟨rfl, rfl, stored, ?_⟩
          rw [hmetadata]
        · simp only [Session.liftExcept_apply]
          rcases himage : image metadata
            (Patch.apply ⟨0, stored⟩ (List.replicate session.data.size 0)) with error | decoded
          · refine .ends rfl ⟨rfl, rfl, stored, ?_⟩
            simp only [hmetadata, himage]
            rfl
          · refine .ends rfl ⟨rfl, rfl, stored, ?_⟩
            simp only [hmetadata, himage]
            rfl

def Found (session : DecodeSession codec.recorded) : Prop :=
  session.state ∈ [DecodeState.headerRead, .sizeQueried] →
    ∃ metadata, session.data.metadata? = some metadata ∧ metadata.frame.Valid

variable {codec} {session left : DecodeSession codec.recorded} {added : List Event}

theorem Found.turn {command : DecodeCommand} {answer : Except Error DecodeReply}
    (hfound : Found codec session) (hturn : Turn rules command session answer left added) :
    Found codec left := by
  cases hturn with
  | idle => exact fun hstate => by simp [Session.closedAs, rules] at hstate
  | refused => exact fun hstate => by simp [Session.closedAs, rules] at hstate
  | failed => exact fun hstate => by simp [rules] at hstate
  | ended => exact fun hstate => by simp [rules] at hstate
  | @advanced hhandle hfits made hmade hsteps hopen reply handle data hsettles =>
      intro hstate
      cases command with
      | setSource source => simp [rules] at hstate
      | readHeader =>
          obtain ⟨frame, interleave, -, hsettles⟩ := hsettles
          rcases hmetadata : Metadata.ofFrame frame interleave with error | metadata
          · rw [hmetadata] at hsettles
            cases hsettles.1
          · rw [hmetadata] at hsettles
            obtain ⟨-, rfl⟩ := hsettles
            obtain ⟨hframe, rfl⟩ := Metadata.valid_of_ofFrame hmetadata
            refine ⟨_, rfl, ?_⟩
            rwa [Metadata.frame_plain hframe]
      | querySize =>
          obtain ⟨size, -, -, rfl⟩ := hsettles
          exact hfound (by simp [List.mem_singleton.mp hfits])
      | finish => exact absurd rfl hopen

theorem Found.finish {answer : Except Error DecodeReply} (hfound : Found codec session)
    (hstate : session.state = .sizeQueried) (hhandle : session.handle?.isSome)
    (hturn : Turn rules .finish session answer left added) :
    ∃ metadata size, session.data = ⟨some metadata, size⟩ ∧ metadata.frame.Valid ∧
      ((∃ request status, .failed request status ∈ added ∧
          answer = .error (.codec status.fault)) ∨
        ∃ destination : List UInt8, destination.length = size ∧
          let samples := PixelBuffer.ofBytes destination (.ofBits metadata.bits.toNat)
          answer =
            if samples.length = metadata.frame.samples then
              .ok (.image ⟨metadata,
                samples.pixelOrder metadata.components.toNat metadata.interleave⟩)
            else
              .error (.bufferSize metadata.frame.samples samples.length)) := by
  obtain ⟨metadata, hmetadata, hframe⟩ := hfound (by simp [hstate])
  refine ⟨metadata, session.data.size, by rw [← hmetadata], hframe, ?_⟩
  cases hturn with
  | idle hnone => simp [hnone] at hhandle
  | refused _ hfits => simp [hstate, rules] at hfits
  | @failed _ _ made request status => exact .inl ⟨request, status, by simp, rfl⟩
  | ended hhandle hfits hmade hsteps hsettles =>
      obtain ⟨-, -, stored, rfl⟩ := hsettles
      refine .inr ⟨Patch.apply ⟨0, stored⟩ (List.replicate session.data.size 0), by simp, ?_⟩
      simp only [hmetadata, image_of_valid hframe]
      split <;> rfl
  | advanced _ _ _ _ hopen => exact absurd rfl hopen

/-- Any commands on a session that has just been started keep to the rules, whatever the codec
answers.  Once the headers have been read the session has a valid frame, and then the last command
fails only with the codec, or for a destination of the wrong size. -/
theorem performAll_finds_valid_frame (codec : Codec σ) (shared : σ) (warnings : List Warning)
    (commands : List DecodeCommand) {session : DecodeSession codec.recorded}
    {world : World (Recorded σ)}
    (hstart : start codec.recorded ⟨(shared, []), warnings⟩ = (.ok session, world)) :
    let run := Run.performAll (perform codec.recorded) commands session world
    Run.performAll (perform codec) commands session world.erase = (run.1, run.2.erase) ∧
      Disciplined rules (perform codec.recorded) run.1.2 run.2 ∧
      (run.1.2.state ∈ [DecodeState.headerRead, .sizeQueried] →
        ∃ metadata, run.1.2.data.metadata? = some metadata ∧ metadata.frame.Valid) ∧
      ∀ {answer left world'}, run.1.2.state = .sizeQueried →
        perform codec.recorded .finish run.1.2 run.2 = ((answer, left), world') →
        ∃ metadata size, run.1.2.data = ⟨some metadata, size⟩ ∧ metadata.frame.Valid ∧
          ((∃ request status, .failed request status ∈ world'.codec.2 ∧
              answer = .error (.codec status.fault)) ∨
            ∃ destination : List UInt8, destination.length = size ∧
              let samples := PixelBuffer.ofBytes destination (.ofBits metadata.bits.toNat)
              answer =
                if samples.length = metadata.frame.samples then
                  .ok (.image ⟨metadata,
                    samples.pixelOrder metadata.components.toNat metadata.interleave⟩)
                else
                  .error (.bufferSize metadata.frame.samples samples.length)) := by
  intro run
  obtain ⟨⟨decoder, rfl⟩, hcreated⟩ := Session.start_eq hstart
  have hkept : Kept rules run.1.2 run.2.codec.2 := by
    apply (follows codec).preserves (fun hkept hturn => hkept.turn rules_lawful hturn)
    have hempty : [] ∈ rules.words .created := rfl
    rw [hcreated]
    exact .of_created rules_lawful (by simp [rules]) hempty decoder {}
  have hfound : Found codec run.1.2 := by
    apply (follows codec).preserves (motive := fun session _ => Found codec session)
      (fun hfound hturn => hfound.turn hturn)
    intro hstate
    simp at hstate
  refine ⟨Run.performAll_erase (erases_perform codec) commands _ world,
    (follows codec).disciplined rules_lawful hkept, hfound, ?_⟩
  intro answer left world' hstate hfinish
  obtain ⟨answer', left', added, after, hperform, hadded, -, hturn⟩ :=
    follows codec .finish run.1.2 run.2
  rw [hperform] at hfinish
  cases hfinish
  have hopen : run.1.2.state ≠ rules.closed := by simp [hstate, rules]
  have hhandle := Option.isSome_iff_ne_none.mpr (mt hkept.closed_iff.mpr hopen)
  obtain ⟨metadata, size, hdata, hframe, hanswer⟩ := hfound.finish hstate hhandle hturn
  refine ⟨metadata, size, hdata, hframe, hanswer.imp_left ?_⟩
  rintro ⟨request, status, hfailed, rfl⟩
  exact ⟨request, status, by rw [hadded]; exact List.mem_append_right _ hfailed, rfl⟩

theorem performAll_finds_valid_frame_loopback :
    let perform := perform (Loopback.codec {}).recorded
    let session : DecodeSession (Loopback.codec {}).recorded := ⟨some {}, .created, {}⟩
    let world : World (Recorded Loopback.Record) :=
      { codec := ({ calls := [.createDecoder], created := 1 }, [.created]) }
    let source := Loopback.startOfImage ++ Loopback.frameBytes ⟨1, 1, 8, 1⟩ .planar [7]
    let run := Run.performAll perform [.setSource source, .readHeader, .querySize] session world
    start (Loopback.codec {}).recorded ⟨({}, []), []⟩ = (.ok session, world) ∧
      Disciplined rules perform run.1.2 run.2 ∧
      run.1.2.state = .sizeQueried ∧
      ∃ metadata, run.1.2.data.metadata? = some metadata ∧ metadata.frame.Valid := by
  intro perform session world source run
  have hstart : start (Loopback.codec {}).recorded ⟨({}, []), []⟩ = (.ok session, world) := rfl
  obtain ⟨-, hdisciplined, hfound, -⟩ := performAll_finds_valid_frame (Loopback.codec {}) {} []
    [.setSource source, .readHeader, .querySize] hstart
  have hstate : run.1.2.state = .sizeQueried := by decide +kernel
  exact ⟨hstart, hdisciplined, hstate,
    hfound (List.mem_cons_of_mem _ (List.mem_singleton.mpr hstate))⟩

end DecodeSession

end JpegLs
