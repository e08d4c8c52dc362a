import Mathlib.Data.List.Basic
import JpegLs.Native.Export
import JpegLs.Proofs.Codec.Failures
import JpegLs.Proofs.Codec.Recorded
import JpegLs.Proofs.Codec.Simulation

/-!
Codecs offered as native libraries.  A library that reports the calls of a codec makes up a codec
again; decodings and encodings come out the same over both.
-/

namespace JpegLs.NativeLibrary

variable {σ τ α β Handle Handle' : Type}

/-- Zero and an answer for a call that succeeds; the status, with any answer, for one that fails. -/
inductive Reports (failed : τ → σ → Prop) (done : β → τ → α → σ → Prop) :
    (Int × β) × τ → Except Status α × σ → Prop where
  | ok {out : β} {left : τ} {value : α} {left' : σ} (h : done out left value left') :
      Reports failed done ((0, out), left) (.ok value, left')
  | error {out : β} {left : τ} {left' : σ} (status : Status) (h : failed left left') :
      Reports failed done ((status.code, out), left) (.error status, left')

inductive ReportsCreation (failed : τ → σ → Prop) (done : Handle → τ → Handle' → σ → Prop) :
    Option Handle × τ → Except Status Handle' × σ → Prop where
  | ok {handle : Handle} {left : τ} {handle' : Handle'} {left' : σ}
      (h : done handle left handle' left') :
      ReportsCreation failed done (some handle, left) (.ok handle', left')
  | error {left : τ} {left' : σ} (status : Status) (h : failed left left') :
      ReportsCreation failed done (none, left) (.error status, left')

inductive ReportsStoring (failed : τ → σ → Prop) (done : Handle → τ → Handle' → σ → Prop) :
    (Int × Handle × List Patch) × τ → (Except Status Handle' × List Patch) × σ → Prop where
  | ok {handle : Handle} {left : τ} {handle' : Handle'} {left' : σ} (patches : List Patch)
      (h : done handle left handle' left') :
      ReportsStoring failed done ((0, handle, patches), left) ((.ok handle', patches), left')
  | error {handle : Handle} {left : τ} {left' : σ} (status : Status) (patches : List Patch)
      (h : failed left left') :
      ReportsStoring failed done ((status.code, handle, patches), left)
        ((.error status, patches), left')

def Creates (shared : τ → σ → Prop) (linked : Handle → τ → Handle' → σ → Prop)
    (function : StateM τ (Option Handle)) (op : Call σ Handle') : Prop :=
  ∀ state state', shared state state' →
    ReportsCreation shared linked (function state) (op state')

section

variable (linked : Handle → τ → Handle' → σ → Prop)

def Changes (function : Handle → StateM τ (Int × Handle)) (op : Handle' → Call σ Handle') :
    Prop :=
  ∀ handle state handle' state', linked handle state handle' state' →
    Reports (linked handle · handle' ·) linked (function handle state) (op handle' state')

def Queries (code : α → β) (function : Handle → StateM τ (Int × β)) (op : Handle' → Call σ α) :
    Prop :=
  ∀ handle state handle' state', linked handle state handle' state' →
    Reports (linked handle · handle' ·)
      (fun out left value left' => out = code value ∧ linked handle left handle' left')
      (function handle state) (op handle' state')

def Stores (function : Handle → StateM τ (Int × Handle × List Patch))
    (op : Handle' → StoringCall σ Handle') : Prop :=
  ∀ handle state handle' state', linked handle state handle' state' →
    ReportsStoring (linked handle · handle' ·) linked (function handle state) (op handle' state')

end

/-- What holds between a library and the codec it offers: `decoders` and `encoders` while there is
an instance at hand on both sides, `shared` while there is none. -/
structure Exports (library : NativeLibrary τ) (codec : Codec σ) where
  shared : τ → σ → Prop
  decoders : library.Decoder → τ → codec.Decoder → σ → Prop
  encoders : library.Encoder → τ → codec.Encoder → σ → Prop
  decoderCreate : Creates shared decoders library.decoderCreate codec.createDecoder
  decoderDestroy : ∀ decoder state decoder' state', decoders decoder state decoder' state' →
    shared (library.decoderDestroy decoder state).2 (codec.releaseDecoder decoder' state')
  decoderSetSourceBuffer : ∀ source, Changes decoders
    (library.decoderSetSourceBuffer · source) (codec.setSource · source)
  decoderReadHeader : Changes decoders library.decoderReadHeader codec.readHeader
  decoderGetFrameInfo : Queries decoders id library.decoderGetFrameInfo codec.frameInfo
  decoderGetInterleaveMode : Queries decoders Interleave.code
    library.decoderGetInterleaveMode codec.interleave
  decoderGetDestinationSize : Queries decoders id
    (library.decoderGetDestinationSize · packedStride) codec.destinationSize
  decoderDecodeToBuffer : ∀ length, Queries decoders id
    (library.decoderDecodeToBuffer · length packedStride) (codec.decodeInto · length)
  encoderCreate : Creates shared encoders library.encoderCreate codec.createEncoder
  encoderDestroy : ∀ encoder state encoder' state', encoders encoder state encoder' state' →
    shared (library.encoderDestroy encoder state).2 (codec.releaseEncoder encoder' state')
  encoderSetFrameInfo : ∀ frame, Changes encoders
    (library.encoderSetFrameInfo · frame) (codec.setFrameInfo · frame)
  encoderSetInterleaveMode : ∀ mode, Changes encoders
    (library.encoderSetInterleaveMode · mode.code) (codec.setInterleave · mode)
  encoderGetEstimatedDestinationSize : Queries encoders id
    library.encoderGetEstimatedDestinationSize codec.estimatedSize
  encoderSetDestinationBuffer : ∀ length, Changes encoders
    (library.encoderSetDestinationBuffer · length) (codec.setDestination · length)
  encoderWriteStandardSpiffHeader : ∀ space units vertical horizontal, Stores encoders
    (library.encoderWriteStandardSpiffHeader · space.code.toNat units.code.toNat
      vertical horizontal)
    (codec.writeSpiff · space units vertical horizontal)
  encoderEncodeFromBuffer : ∀ source, Stores encoders
    (library.encoderEncodeFromBuffer · source packedStride) (codec.encodeFrom · source)
  encoderGetBytesWritten : Queries encoders id library.encoderGetBytesWritten codec.bytesWritten

theorem Creates.simulates {shared : τ → σ → Prop} {linked : Handle → τ → Handle' → σ → Prop}
    {function : StateM τ (Option Handle)} {op : Call σ Handle'}
    (h : Creates shared linked function op)
    (hfails : op.FailsOnly (· = CodecFault.notEnoughMemory.status)) :
    Simulates shared shared linked (created function) op := by
  intro state state' hshared
  have hreport := h state state' hshared
  have hfails := hfails state'
  simp only [created]
  generalize function state = reported at hreport ⊢
  generalize op state' = answered at hreport hfails ⊢
  cases hreport with
  | ok hlinked => exact .ok hlinked
  | error status hleft =>
      obtain rfl := hfails status rfl
      exact .error _ hleft

variable {linked : Handle → τ → Handle' → σ → Prop}

theorem Reports.outcome {failed : τ → σ → Prop} {done : β → τ → α → σ → Prop}
    {function : StateM τ (Int × β)} {op : Call σ α} {state : τ} {state' : σ}
    (h : Reports failed done (function state) (op state'))
    (hfails : op.FailsOnly Status.IsFailure) :
    Outcome failed done (checked function state) (op state') := by
  have hfails := hfails state'
  simp only [checked]
  generalize function state = reported at h ⊢
  generalize op state' = answered at h hfails ⊢
  cases h with
  | ok hdone =>
      simp only [if_true]
      exact .ok hdone
  | error status hleft =>
      simp only [if_neg (hfails status rfl)]
      exact .error status hleft

theorem Changes.simulates {function : Handle → StateM τ (Int × Handle)}
    {op : Handle' → Call σ Handle'} (h : Changes linked function op)
    (hfails : ∀ handle, (op handle).FailsOnly Status.IsFailure) :
    SimulatesOn linked Eq (Calls.change fun handle => checked (function handle))
      (Calls.change op) := by
  intro handle state handle' state' hlinked
  have hboth := (h handle state handle' state' hlinked).outcome (hfails handle')
  rw [Calls.change_apply, Calls.change_apply]
  generalize checked (function handle) state = called at hboth ⊢
  generalize op handle' state' = called' at hboth ⊢
  cases hboth with
  | ok hafter => exact ⟨.ok rfl, hafter⟩
  | error status hleft => exact ⟨.error status, hleft⟩

theorem Stores.simulates {function : Handle → StateM τ (Int × Handle × List Patch)}
    {op : Handle' → StoringCall σ Handle'} (h : Stores linked function op)
    (hfails : ∀ handle, (op handle).toCall.FailsOnly Status.IsFailure) :
    SimulatesOn (Calls.Beside linked) Eq
      (Calls.store fun handle => checkedStoring (function handle)) (Calls.store op) := by
  rintro ⟨handle, destination⟩ state ⟨handle', _⟩ state' ⟨rfl, hlinked⟩
  have hreport := h handle state handle' state' hlinked
  have hfails := hfails handle' state'
  simp only [Calls.store, checkedStoring, StoringCall.toCall] at hfails ⊢
  generalize function handle state = reported at hreport ⊢
  generalize op handle' state' = stored at hreport hfails ⊢
  cases hreport with
  | ok patches hleft =>
      simp only [if_true]
      exact ⟨.ok rfl, rfl, hleft⟩
  | error status patches hleft =>
      simp only [if_neg (hfails status rfl)]
      exact ⟨.error status, rfl, hleft⟩

theorem Queries.simulates_read {code : α → β} (read : β → Call τ α)
    (hread : ∀ value, read (code value) = pure value)
    {function : Handle → StateM τ (Int × β)} {op : Handle' → Call σ α}
    (h : Queries linked code function op)
    (hfails : ∀ handle, (op handle).FailsOnly Status.IsFailure) :
    SimulatesOn linked Eq (Calls.query fun handle => checked (function handle) >>= read)
      (Calls.query op) := by
  intro handle state handle' state' hlinked
  have hboth := (h handle state handle' state' hlinked).outcome (hfails handle')
  rw [Calls.query_apply, Calls.query_apply, run_bind]
  generalize checked (function handle) state = called at hboth ⊢
  generalize op handle' state' = called' at hboth ⊢
  cases hboth with
  | ok hafter =>
      obtain ⟨rfl, hleft⟩ := hafter
      simp only [hread]
      exact ⟨.ok rfl, hleft⟩
  | error status hleft => exact ⟨.error status, hleft⟩

theorem Queries.simulates {function : Handle → StateM τ (Int × α)} {op : Handle' → Call σ α}
    (h : Queries linked id function op)
    (hfails : ∀ handle, (op handle).FailsOnly Status.IsFailure) :
    SimulatesOn linked Eq (Calls.query fun handle => checked (function handle))
      (Calls.query op) := by
  have hboth := h.simulates_read pure (fun _ => rfl) hfails
  simpa only [bind_pure] using hboth

theorem interleaveOfCode_code (mode : Interleave) :
    (liftM (interleaveOfCode mode.code) : Call τ Interleave) = pure mode := by
  rw [interleaveOfCode, Interleave.ofCode?_code]
  rfl

variable {library : NativeLibrary τ} {codec : Codec σ}

theorem warnings_append {given given' : List Warning} (more : List Warning) (h : given = given') :
    given ++ more = given' ++ more := by
  rw [h]

def Exports.simulation (exports : library.Exports codec) (hcodec : codec.Exportable) :
    library.codec.Simulation codec where
  shared := exports.shared
  warnings := Eq
  append := @warnings_append
  decoders := exports.decoders
  encoders := exports.encoders
  createDecoder := exports.decoderCreate.simulates hcodec.createDecoder
  setSource source := (exports.decoderSetSourceBuffer source).simulates (hcodec.setSource · source)
  readHeader := exports.decoderReadHeader.simulates hcodec.readHeader
  frameInfo := exports.decoderGetFrameInfo.simulates hcodec.frameInfo
  interleave := exports.decoderGetInterleaveMode.simulates_read (fun code => interleaveOfCode code)
    interleaveOfCode_code hcodec.interleave
  destinationSize := exports.decoderGetDestinationSize.simulates hcodec.destinationSize
  decodeInto size := (exports.decoderDecodeToBuffer size).simulates (hcodec.decodeInto · size)
  releaseDecoder := exports.decoderDestroy
  createEncoder := exports.encoderCreate.simulates hcodec.createEncoder
  setFrameInfo frame := (exports.encoderSetFrameInfo frame).simulates (hcodec.setFrameInfo · frame)
  setInterleave mode :=
    (exports.encoderSetInterleaveMode mode).simulates (hcodec.setInterleave · mode)
  estimatedSize := exports.encoderGetEstimatedDestinationSize.simulates hcodec.estimatedSize
  setDestination length :=
    (exports.encoderSetDestinationBuffer length).simulates (hcodec.setDestination · length)
  writeSpiff space units vertical horizontal :=
    (exports.encoderWriteStandardSpiffHeader space units vertical horizontal).simulates
      (hcodec.writeSpiff · space units vertical horizontal)
  encodeFrom source :=
    (exports.encoderEncodeFromBuffer source).simulates (hcodec.encodeFrom · source)
  bytesWritten := exports.encoderGetBytesWritten.simulates hcodec.bytesWritten
  releaseEncoder := exports.encoderDestroy

/-- Runs from worlds that stand for each other: the same answer and the same warnings, in worlds
that stand for each other again. -/
def RunsAlike (shared : τ → σ → Prop) (first : Task τ α) (second : Task σ α) : Prop :=
  ∀ state state' warnings, shared state state' →
    let run := first ⟨state, warnings⟩
    let run' := second ⟨state', warnings⟩
    run.1 = run'.1 ∧ run.2.warnings = run'.2.warnings ∧ shared run.2.codec run'.2.codec

theorem Exports.runsAlike (exports : library.Exports codec) (hcodec : codec.Exportable)
    {first : Task τ α} {second : Task σ α}
    (h : Simulates (exports.simulation hcodec).toWorlds.Related
      (exports.simulation hcodec).toWorlds.Related
      (Same (exports.simulation hcodec).toWorlds.Related) first second) :
    RunsAlike exports.shared first second := by
  intro state state' warnings hshared
  have hboth := h ⟨state, warnings⟩ ⟨state', warnings⟩ ⟨hshared, rfl⟩
  generalize first ⟨state, warnings⟩ = run at hboth ⊢
  generalize second ⟨state', warnings⟩ = run' at hboth ⊢
  cases hboth with
  | ok hafter =>
      obtain ⟨hvalue, hworlds⟩ := hafter
      exact ⟨congrArg _ hvalue, hworlds.warnings, hworlds.codec⟩
  | error error hworlds => exact ⟨rfl, hworlds.warnings, hworlds.codec⟩

theorem Exports.runsAlike_decode (exports : library.Exports codec) (hcodec : codec.Exportable)
    (source : List UInt8) :
    RunsAlike exports.shared (decode library.codec source) (decode codec source) :=
  exports.runsAlike hcodec (simulates_decode (exports.simulation hcodec) source)

theorem Exports.runsAlike_encode (exports : library.Exports codec) (hcodec : codec.Exportable)
    (image : SourceImage) (options : EncodeOptions) :
    RunsAlike exports.shared (encode library.codec image options) (encode codec image options) :=
  exports.runsAlike hcodec (simulates_encode (exports.simulation hcodec) image options)

theorem RunsAlike.eq {first second : Task σ α} (h : RunsAlike Eq first second) :
    first = second := by
  funext world
  obtain ⟨hanswer, hwarnings, hcodec⟩ := h world.codec world.codec world.warnings rfl
  refine Prod.ext hanswer ?_
  generalize first world = run at hwarnings hcodec ⊢
  generalize second world = run' at hwarnings hcodec ⊢
  obtain ⟨_, _, _⟩ := run
  obtain ⟨_, _, _⟩ := run'
  obtain rfl : _ = _ := hwarnings
  obtain rfl : _ = _ := hcodec
  rfl

theorem creates_handle? (op : Call σ Handle) : Creates Eq (Same Eq) (handle? op) op := by
  rintro state _ rfl
  simp only [handle?]
  rcases op state with ⟨status | handle, left⟩
  · exact .error status rfl
  · exact .ok ⟨rfl, rfl⟩

theorem changes_answered (op : Handle → Call σ Handle) :
    Changes (Same Eq) (fun handle => answered handle (op handle)) op := by
  rintro handle state _ _ ⟨rfl, rfl⟩
  simp only [answered]
  rcases op handle state with ⟨status | changed, left⟩
  · exact .error status ⟨rfl, rfl⟩
  · exact .ok ⟨rfl, rfl⟩

theorem queries_answered (code : α → β) (zero : β) (op : Handle → Call σ α) :
    Queries (Same Eq) code (fun handle => answered zero (code <$> op handle)) op := by
  rintro handle state _ _ ⟨rfl, rfl⟩
  simp only [answered, map_eq_pure_bind, run_bind, Call.pure_apply]
  rcases op handle state with ⟨status | value, left⟩
  · exact .error status ⟨rfl, rfl⟩
  · exact .ok ⟨rfl, rfl, rfl⟩

theorem queries_answered_id (zero : α) (op : Handle → Call σ α) :
    Queries (Same Eq) id (fun handle => answered zero (op handle)) op := by
  simpa only [id_map] using queries_answered id zero op

theorem stores_answered (op : Handle → StoringCall σ Handle) :
    Stores (Same Eq) (fun handle => answeredStoring handle (op handle)) op := by
  rintro handle state _ _ ⟨rfl, rfl⟩
  simp only [answeredStoring]
  rcases op handle state with ⟨⟨status | changed, patches⟩, left⟩
  · exact .error status patches ⟨rfl, rfl⟩
  · exact .ok patches ⟨rfl, rfl⟩

theorem byte?_toNat (code : UInt8) : byte? code.toNat = some code := by
  have hcode := code.toNat_lt
  rw [byte?, if_pos (by omega)]
  simp

theorem decoded_some (fault : CodecFault) (value : β) (op : β → Call σ α) :
    decoded fault (some value) op = op value := rfl

def exportsOfCodec (codec : Codec σ) : (ofCodec codec).Exports codec where
  shared := Eq
  decoders := Same Eq
  encoders := Same Eq
  decoderCreate := creates_handle? _
  decoderDestroy _ _ _ _ := by
    rintro ⟨rfl, rfl⟩
    rfl
  decoderSetSourceBuffer _ := changes_answered _
  decoderReadHeader := changes_answered _
  decoderGetFrameInfo := queries_answered_id _ _
  decoderGetInterleaveMode := queries_answered Interleave.code 0 codec.interleave
  decoderGetDestinationSize := queries_answered_id _ _
  decoderDecodeToBuffer _ := queries_answered_id _ _
  encoderCreate := creates_handle? _
  encoderDestroy _ _ _ _ := by
    rintro ⟨rfl, rfl⟩
    rfl
  encoderSetFrameInfo _ := changes_answered _
  encoderSetInterleaveMode mode := by
    simp only [ofCodec, Interleave.ofCode?_code, decoded_some]
    exact changes_answered _
  encoderGetEstimatedDestinationSize := queries_answered_id _ _
  encoderSetDestinationBuffer _ := changes_answered _
  encoderWriteStandardSpiffHeader space units vertical horizontal := by
    simp only [ofCodec, byte?_toNat, Option.bind_some, Spiff.ColorSpace.ofCode?_code,
      Spiff.ResolutionUnits.ofCode?_code]
    exact stores_answered _
  encoderEncodeFromBuffer _ := stores_answered _
  encoderGetBytesWritten := queries_answered_id _ _

variable {config : Loopback.Config}

/-- Over a library that offers a codec, decodings and encodings are what they are over the codec:
the same answers and the same warnings.  The codec without compression, offered and made up again,
is as good as itself. -/
theorem runs_exported (hcodec : codec.Exportable) (exports : library.Exports codec)
    (hconfig : config.Exportable) :
    (∀ source, RunsAlike exports.shared (decode library.codec source) (decode codec source)) ∧
    (∀ image options, RunsAlike exports.shared (encode library.codec image options)
      (encode codec image options)) ∧
    (∀ source, decode (ofCodec (Loopback.codec config)).codec source =
      decode (Loopback.codec config) source) ∧
    ∀ image options, encode (ofCodec (Loopback.codec config)).codec image options =
      encode (Loopback.codec config) image options := by
  have hloopback := Loopback.exportable_codec hconfig
  refine ⟨exports.runsAlike_decode hcodec, exports.runsAlike_encode hcodec, ?_, ?_⟩
  · intro source
    exact ((exportsOfCodec _).runsAlike_decode hloopback source).eq
  · intro image options
    exact ((exportsOfCodec _).runsAlike_encode hloopback image options).eq

theorem runs_exported_one_pixel :
    let config : Loopback.Config := { failAt := some (.writeSpiffHeader, ⟨77⟩) }
    let codec := Loopback.codec config
    let image : SourceImage := ⟨1, 1, .rgb8, .eight [7, 8, 9]⟩
    let run := encode (ofCodec codec).codec image {} ⟨{}, []⟩
    codec.Exportable ∧ run.1 = .error (.codec .unexpectedFailure) ∧
      run.2.warnings = [.unknownStatus ⟨77⟩] ∧ run = encode codec image {} ⟨{}, []⟩ := by
  intro config codec image run
  have hconfig : config.Exportable := by
    refine ⟨?_, by simp [config], by simp [config]⟩
    rintro step status hfail
    cases hfail
    decide
  have hcodec : codec.Exportable := Loopback.exportable_codec hconfig
  obtain ⟨-, hencode, -, hloopback⟩ := runs_exported hcodec (exportsOfCodec codec) hconfig
  obtain ⟨hanswer, hwarnings, -⟩ := hencode image {} {} {} [] rfl
  refine ⟨hcodec, ?_, ?_, congrFun (hloopback image {}) _⟩
  · rw [hanswer]
    decide +kernel
  · rw [hwarnings]
    decide +kernel

end JpegLs.NativeLibrary
