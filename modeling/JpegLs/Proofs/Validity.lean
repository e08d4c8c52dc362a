import JpegLs.Proofs.Command.Output
import JpegLs.Proofs.Host.Reader
import JpegLs.Proofs.Session.Prepare

/-!
Metadata are valid wherever they come from.  All of them are made from a frame that has been looked
at, so that whoever is handed some can ask for their mode and their number of samples.
-/

namespace JpegLs

variable {σ α : Type}

namespace Metadata

structure Sound (metadata : Metadata) : Prop where
  valid : metadata.frame.Valid
  mode : ∃ mode, metadata.mode = .ok mode ∧ (mode.components : Int) = metadata.frame.components ∧
    mode.width = .ofBits metadata.frame.bits.toNat
  sampleCount : metadata.sampleCount? = some metadata.frame.samples

variable {metadata : Metadata}

theorem sound_iff_valid : metadata.Sound ↔ metadata.frame.Valid := by
  constructor
  · exact Sound.valid
  · intro hvalid
    obtain ⟨mode, hmode⟩ := hvalid.exists_mode
    obtain ⟨-, hcomponents, hwidth⟩ := PixelMode.ofComponents_eq_ok_iff.mp hmode
    exact {
      valid := hvalid
      mode := ⟨mode, hmode, congrArg Int.ofNat hcomponents, hwidth⟩
      sampleCount := FrameInfo.sampleCount?_eq_some_iff.mpr ⟨rfl, hvalid.samples_lt⟩ }

theorem sound_of_ofFrame {frame : FrameInfo} {interleave : Interleave}
    (h : ofFrame frame interleave = .ok metadata) :
    metadata.frame = frame ∧ metadata.interleave = interleave ∧ metadata.Sound := by
  obtain ⟨hvalid, rfl⟩ := valid_of_ofFrame h
  have hframe := frame_plain hvalid interleave
  refine ⟨hframe, rfl, sound_iff_valid.mpr ?_⟩
  rwa [hframe]

theorem exists_ofFrame_iff {frame : FrameInfo} {interleave : Interleave} :
    (∃ metadata, ofFrame frame interleave = .ok metadata) ↔ frame.Valid := by
  constructor
  · rintro ⟨metadata, h⟩
    exact (valid_of_ofFrame h).1
  · intro hvalid
    exact ⟨_, ofFrame_of_valid hvalid interleave⟩

theorem sound_of_ofSpiff {header : Spiff.Header} (h : ofSpiff header = .ok metadata) :
    metadata.Sound := by
  obtain ⟨read, hread, rfl⟩ := map_eq_ok_iff.mp h
  obtain ⟨-, -, hsound⟩ := sound_of_ofFrame hread
  -- Colors and resolution do not belong to the frame.
  exact ⟨hsound.valid, hsound.mode, hsound.sampleCount⟩

theorem sound_of_forEncode {width height : UInt32} {mode : PixelMode} {options : EncodeOptions}
    (h : forEncode width height mode options = .ok metadata) : metadata.Sound :=
  sound_iff_valid.mpr (frame_of_forEncode h).1

end Metadata

theorem Container.sound_of_metadata {bytes : List UInt8} {metadata : Metadata}
    (h : Container.metadata bytes = .ok metadata) : metadata.Sound := by
  unfold Container.metadata at h
  cases hheader : Spiff.Header.ofBytes? bytes with
  | some header =>
      rw [hheader] at h
      exact Metadata.sound_of_ofSpiff h
  | none =>
      rw [hheader] at h
      cases hframe : frame? bytes with
      | some frame =>
          rw [hframe] at h
          exact (Metadata.sound_of_ofFrame h).2.2
      | none =>
          rw [hframe] at h
          cases h

namespace Session

variable {β Handle State Data : Type} {inv : Data → Prop}

/-- What holds of the data of a session holds of them behind the method, however it ends. -/
def Holds (inv : Data → Prop) (method : Method σ Handle State Data α) : Prop :=
  ∀ session world, inv session.data → inv (method session world).1.2.data

theorem holds_pure (value : α) : Holds inv (pure value : Method σ Handle State Data α) :=
  fun _ _ hinv => hinv

theorem holds_throw (error : Error) : Holds inv (throw error : Method σ Handle State Data α) :=
  fun _ _ hinv => hinv

theorem holds_get : Holds inv (get : Method σ Handle State Data (Session Handle State Data)) :=
  fun _ _ hinv => hinv

theorem holds_liftExcept (result : Except Error α) :
    Holds inv (liftM result : Method σ Handle State Data α) := by
  intro session world hinv
  rwa [liftExcept_apply]

theorem holds_modify {f : Session Handle State Data → Session Handle State Data}
    (hf : ∀ session, inv session.data → inv (f session).data) :
    Holds inv (modify f : Method σ Handle State Data PUnit) :=
  fun session _ hinv => hf session hinv

theorem Holds.bind {method : Method σ Handle State Data α}
    {next : α → Method σ Handle State Data β} (hmethod : Holds inv method)
    (hnext : ∀ value, Holds inv (next value)) : Holds inv (method >>= next) := by
  intro session world hinv
  have hfirst := hmethod session world hinv
  rw [bind_apply]
  rcases hrun : method session world with ⟨⟨error | value, left⟩, world'⟩
  · rwa [hrun] at hfirst
  · rw [hrun] at hfirst
    exact hnext value left world' hfirst

theorem Holds.map {method : Method σ Handle State Data α} (hmethod : Holds inv method)
    (f : α → β) : Holds inv (f <$> method) := by
  rw [map_eq_pure_bind]
  exact hmethod.bind fun value => holds_pure _

variable {kind : Kind σ Handle State}

theorem close_apply (session : Session Handle State Data) (world : World σ) :
    close kind session world =
      ((.ok (), { session with handle? := none, state := kind.closed }),
        (drop kind session world).2) := rfl

theorem holds_close : Holds inv (close kind : Method σ Handle State Data Unit) :=
  fun _ _ hinv => hinv

theorem holds_step [DecidableEq State] (before : List State) (after : State)
    (calls : Calls Handle σ α) :
    Holds inv (step kind before after calls : Method σ Handle State Data α) := by
  intro session world hinv
  obtain ⟨left, world', hdata, ⟨fault, hstep⟩ | ⟨value, hstep⟩⟩ :=
    step_outcome before after calls session world
  · rwa [hstep, hdata]
  · rwa [hstep, hdata]

end Session

namespace DecodeSession

variable {codec : Codec σ} {session : DecodeSession codec} {world : World σ}

def Knows (findings : DecodeFindings) : Prop :=
  ∀ metadata, findings.metadata? = some metadata → metadata.Sound

theorem sound_of_readHeader {metadata : Metadata}
    (hread : (readHeader codec session world).1.1 = .ok metadata) : metadata.Sound := by
  rw [readHeader, Session.bind_apply] at hread
  generalize Session.step (kind codec) [.sourceSet] .headerRead _ session world = read at hread
  rcases read with ⟨⟨error | ⟨frame, interleave⟩, left⟩, world'⟩
  · cases hread
  · simp only at hread
    cases hmetadata : Metadata.ofFrame frame interleave with
    | error error =>
        rw [hmetadata] at hread
        cases hread
    | ok found =>
        rw [hmetadata] at hread
        cases hread
        exact (Metadata.sound_of_ofFrame hmetadata).2.2

theorem holds_readHeader : Session.Holds Knows (readHeader codec) := by
  unfold readHeader
  refine (Session.holds_step _ _ _).bind fun read => ?_
  cases hmetadata : Metadata.ofFrame read.1 read.2 with
  | error error =>
      simp only [hmetadata]
      exact Session.holds_close.bind fun _ => Session.holds_throw error
  | ok metadata =>
      simp only [hmetadata]
      refine (Session.holds_modify ?_).bind fun _ => Session.holds_pure metadata
      rintro session - found ⟨⟩
      exact (Metadata.sound_of_ofFrame hmetadata).2.2

theorem holds_finish : Session.Holds Knows (finish codec) := by
  unfold finish
  refine Session.holds_get.bind fun session => ?_
  refine (Session.holds_step _ _ _).bind fun stored => ?_
  refine Session.holds_close.bind fun closed => ?_
  cases session.data.metadata? with
  | none => exact Session.holds_throw _
  | some metadata => exact Session.holds_liftExcept _

theorem holds_perform (command : DecodeCommand) : Session.Holds Knows (perform codec command) := by
  cases command with
  | setSource source => exact (Session.holds_step _ _ _).map _
  | readHeader => exact holds_readHeader.map _
  | querySize =>
      refine Session.Holds.map ?_ _
      unfold querySize
      refine (Session.holds_step _ _ _).bind fun size => ?_
      exact (Session.holds_modify fun _ hknows => hknows).bind fun _ => Session.holds_pure size
  | finish => exact holds_finish.map _

theorem knows_of_start {world' : World σ}
    (hstart : start codec world = (.ok session, world')) (commands : List DecodeCommand) :
    Knows (Run.performAll (perform codec) commands session world').1.2.data := by
  refine Run.performAll_induction
    (motive := fun (session : DecodeSession codec) (_ : World σ) => Knows session.data)
    ?_ commands ?_
  · intro command session world hknows
    exact holds_perform command session world hknows
  · rw [start, Session.start, Task.map_apply] at hstart
    rcases hcreate : Task.call codec.createDecoder world with ⟨error | handle, called⟩
    · rw [hcreate] at hstart
      cases hstart
    · rw [hcreate] at hstart
      cases hstart
      rintro metadata ⟨⟩

theorem finish_cases (session : DecodeSession codec) (world : World σ) :
    (∃ fault, (finish codec session world).1.1 = .error (.codec fault)) ∨
      ∃ metadata stored, session.data.metadata? = some metadata ∧
        (finish codec session world).1.1 = image metadata stored := by
  rw [finish, Session.bind_apply, Session.get_apply]
  simp only [Session.bind_apply]
  obtain ⟨left, world', -, ⟨fault, hstep⟩ | ⟨stored, hstep⟩⟩ :=
    Session.step_outcome [.sizeQueried] .decoded
      (.query (codec.decodeInto · session.data.size)) session world
  · rw [hstep]
    exact .inl ⟨fault, rfl⟩
  · rw [hstep]
    simp only [Session.close_apply]
    cases session.data.metadata? with
    | none => exact .inl ⟨.invalidOperation, rfl⟩
    | some metadata =>
        simp only [Session.liftExcept_apply]
        exact .inr ⟨metadata, _, rfl, rfl⟩

/-- The metadata of a session can be counted on, so that what is wrong at its end is the codec or
the size of the destination. -/
theorem finish_ne_format (hknows : Knows session.data) (fault : FormatFault) :
    (finish codec session world).1.1 ≠ .error (.format fault) := by
  rcases finish_cases session world with ⟨codecFault, hfailed⟩ | ⟨metadata, stored, hdata, himage⟩
  · rw [hfailed]
    simp
  · rw [himage, image_of_valid (hknows metadata hdata).valid]
    split <;> simp

theorem sound_of_finish (hknows : Knows session.data) {decoded : DecodedImage}
    (hdecoded : (finish codec session world).1.1 = .ok decoded) : decoded.metadata.Sound := by
  rcases finish_cases session world with ⟨codecFault, hfailed⟩ | ⟨metadata, stored, hdata, himage⟩
  · rw [hfailed] at hdecoded
    cases hdecoded
  · rw [himage] at hdecoded
    have hsound := hknows metadata hdata
    obtain ⟨rfl, -⟩ := sound_of_image hsound.valid hdecoded
    exact hsound

end DecodeSession

section

variable {codec : Codec σ} {source : List UInt8} {world world' : World σ} {decoded : DecodedImage}

theorem sound_metadata_of_decode (hdecode : decode codec source world = (.ok decoded, world')) :
    decoded.metadata.Sound :=
  Metadata.sound_iff_valid.mpr (sound_of_decode hdecode).valid

namespace Host.Reader

theorem make_of_metadata {data : List UInt8} {metadata : Metadata}
    (hmetadata : Container.metadata data = .ok metadata) :
    ∃ mode, metadata.mode = .ok mode ∧ make data = .ok ⟨data, metadata, mode⟩ := by
  obtain ⟨mode, hmode, -⟩ := (Container.sound_of_metadata hmetadata).mode
  refine ⟨mode, hmode, ?_⟩
  simp only [make, hmetadata, hmode]

theorem checked_of_decode (hdecode : decode codec source world = (.ok decoded, world'))
    (reader : Reader) :
    reader.checked decoded = .ok decoded.pixels ∨
      reader.checked decoded = .error .frameMismatch := by
  by_cases hagrees : reader.Agrees decoded
  · exact .inl (checked_of_agrees hagrees)
  · exact .inr (checked_of_not_agrees (sound_of_decode hdecode) hagrees)

end Host.Reader

end

open Command.Action in
theorem Command.showFile_of_metadata {input : String} {console : Console σ} {data : List UInt8}
    {metadata : Metadata} (hread : console.files.read input = .ok data)
    (hmetadata : Container.metadata data = .ok metadata) :
    ∃ left, showFile input console = (.ok (), left) := by
  obtain ⟨mode, hmode, -⟩ := (Container.sound_of_metadata hmetadata).mode
  -- Behind the reading of the file there is nothing but lines to print.
  have hprints : ∀ {act : Action σ Unit}, Succeeds act → ∃ left, act console = (.ok (), left) := by
    intro act hact
    obtain ⟨⟨⟩, left, hrun⟩ := hact console
    exact ⟨left, hrun⟩
  rw [showFile, run_bind, readFile_of_read hread]
  dsimp only
  apply hprints
  refine (succeeds_say _).bind fun _ => (succeeds_say _).bind fun _ => (succeeds_say _).bind fun _ =>
    .bind_ofStream hmetadata ?_
  refine (succeeds_forM_say _).bind fun _ => (succeeds_say _).bind fun _ =>
    (succeeds_say _).bind fun _ => (succeeds_say _).bind fun _ => .bind_ofStream hmode ?_
  refine (succeeds_say _).bind fun _ => ?_
  split
  · exact succeeds_say _
  · exact succeeds_pure _

namespace Metadata

/-- A frame becomes metadata if and only if it is valid, and they say the same as it; all metadata
that are handed out are sound, and none who are handed some fail for want of their mode or of their
number of samples. -/
theorem sound_throughout (codec : Codec σ) :
    (∀ frame interleave,
      ((∃ metadata, ofFrame frame interleave = .ok metadata) ↔ frame.Valid) ∧
      (∀ metadata, ofFrame frame interleave = .ok metadata →
        metadata.frame = frame ∧ metadata.interleave = interleave ∧ metadata.Sound) ∧
      ofFrame frame interleave =
        if ¬((frame.components = 1 ∨ frame.components = 3) ∧
            1 ≤ frame.bits ∧ frame.bits ≤ 16) then
          .error (.unsupportedMode frame.components.toNat frame.bits.toNat)
        else if frame.width = 0 ∨ frame.height = 0 then .error (.format .zeroDimension)
        else if UInt64.size ≤ frame.samples then .error (.format .tooLarge)
        else .ok (plain frame interleave)) ∧
    (∀ width height mode options metadata,
      forEncode width height mode options = .ok metadata → metadata.Sound) ∧
    (∀ data metadata, Container.metadata data = .ok metadata → metadata.Sound ∧
      (∃ mode, metadata.mode = .ok mode ∧
        Host.Reader.make data = .ok ⟨data, metadata, mode⟩) ∧
      ∀ input (console : Command.Console σ), console.files.read input = .ok data →
        ∃ left, Command.showFile input console = (.ok (), left)) ∧
    (∀ session world metadata,
      (DecodeSession.readHeader codec session world).1.1 = .ok metadata → metadata.Sound) ∧
    (∀ {world session world'} commands,
      DecodeSession.start codec world = (.ok session, world') →
      let run := Run.performAll (DecodeSession.perform codec) commands session world'
      let answer := (DecodeSession.finish codec run.1.2 run.2).1.1
      (∀ decoded, answer = .ok decoded → decoded.metadata.Sound) ∧
        ∀ fault, answer ≠ .error (.format fault)) ∧
    ∀ {source world decoded world'}, decode codec source world = (.ok decoded, world') →
      decoded.metadata.Sound ∧ ∀ reader : Host.Reader,
        reader.checked decoded = .ok decoded.pixels ∨
          reader.checked decoded = .error .frameMismatch := by
  refine ⟨fun frame interleave => ⟨exists_ofFrame_iff, fun _ => sound_of_ofFrame,
    ofFrame_eq frame interleave⟩, fun _ _ _ _ _ => sound_of_forEncode, ?_,
    fun _ _ _ => DecodeSession.sound_of_readHeader, ?_, ?_⟩
  · intro data metadata hmetadata
    refine ⟨Container.sound_of_metadata hmetadata, Host.Reader.make_of_metadata hmetadata, ?_⟩
    intro input console hread
    exact Command.showFile_of_metadata hread hmetadata
  · intro world session world' commands hstart run answer
    have hknows := DecodeSession.knows_of_start hstart commands
    exact ⟨fun _ => DecodeSession.sound_of_finish hknows,
      DecodeSession.finish_ne_format hknows⟩
  · intro source world decoded world' hdecode
    exact ⟨sound_metadata_of_decode hdecode, Host.Reader.checked_of_decode hdecode⟩

theorem sound_throughout_one_pixel :
    let codec := Loopback.codec {}
    let frame : FrameInfo := ⟨1, 1, 16, 3⟩
    let data := Loopback.startOfImage ++ Loopback.frameBytes frame .line [1, 0, 2, 0, 3, 0]
    let world : World Loopback.Record := ⟨{}, []⟩
    let decoded : DecodedImage := ⟨.plain frame .line, .sixteen [1, 2, 3]⟩
    let reader : Host.Reader := ⟨data, .plain frame .planar, .rgb16⟩
    ofFrame frame .line = .ok (plain frame .line) ∧ (plain frame .line).Sound ∧
      Container.metadata data = .ok (plain frame .planar) ∧ (plain frame .planar).Sound ∧
      Host.Reader.make data = .ok reader ∧ (decode codec data world).1 = .ok decoded ∧
      decoded.metadata.Sound ∧ reader.checked decoded = .ok decoded.pixels := by
  intro codec frame data world decoded reader
  obtain ⟨hframe, -, hstream, -, -, hdecode⟩ := sound_throughout codec
  have hmade : ofFrame frame .line = .ok (plain frame .line) := by decide
  have hmetadata : Container.metadata data = .ok (plain frame .planar) := by decide +kernel
  have hdecoded : (decode codec data world).1 = .ok decoded := by decide +kernel
  have hpair : decode codec data world = (.ok decoded, (decode codec data world).2) :=
    Prod.ext hdecoded rfl
  exact ⟨hmade, ((hframe frame .line).2.1 _ hmade).2.2, hmetadata, (hstream data _ hmetadata).1,
    by decide +kernel, hdecoded, (hdecode hpair).1, by decide⟩

end Metadata

end JpegLs
