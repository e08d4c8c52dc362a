import JpegLs.Proofs.Session.DecodeReference
import JpegLs.Proofs.Session.Use

namespace JpegLs

variable {σ α β γ Handle State Data : Type}

namespace Session

/-- Goes on with an accepted value; a refusal gives the instance back. -/
def Kind.accept {ε : Type} (kind : Kind σ Handle State) (handle : Handle) :
    Except ε α → ExceptT ε (Run σ) α
  | .ok value => pure value
  | .error error => do
      kind.giveBack handle
      throw error

variable {kind : Kind σ Handle State} [DecidableEq State] {before : List State}
  {state after : State} {handle : Handle} {data : Data}

theorem use_step_change (hbefore : state ∈ before) (op : Handle → Call σ Handle)
    (rest : Calls Handle σ β) (next : β → Method σ Handle State Data α) :
    use kind ⟨some handle, state, data⟩
        (step kind before after (Calls.change op >>= fun _ => rest) >>= next) =
      kind.attempt handle (op handle) >>= fun handle =>
        use kind ⟨some handle, state, data⟩ (step kind before after rest >>= next) := by
  funext world
  simp only [use, bind_apply, step_of_mem hbefore, Calls.bind_apply, Calls.change_apply,
    run_bind, Kind.attempt]
  rcases op handle world.codec with ⟨status | changed, codec⟩ <;> rfl

theorem use_step_query (hbefore : state ∈ before) (op : Handle → Call σ γ)
    (rest : γ → Calls Handle σ β) (next : β → Method σ Handle State Data α) :
    use kind ⟨some handle, state, data⟩
        (step kind before after (Calls.query op >>= rest) >>= next) =
      kind.attempt handle (op handle) >>= fun value =>
        use kind ⟨some handle, state, data⟩ (step kind before after (rest value) >>= next) := by
  funext world
  simp only [use, bind_apply, step_of_mem hbefore, Calls.bind_apply, Calls.query_apply,
    run_bind, Kind.attempt]
  rcases op handle world.codec with ⟨status | value, codec⟩ <;> rfl

theorem use_step_pure (hbefore : state ∈ before) (value : β)
    (next : β → Method σ Handle State Data α) :
    use kind ⟨some handle, state, data⟩ (step kind before after (pure value) >>= next) =
      use kind ⟨some handle, after, data⟩ (next value) := by
  funext world
  simp only [use, bind_apply, step_of_mem hbefore, Calls.pure_apply]

end Session

namespace DecodeSession

def measureSteps (codec : Codec σ) (source : List UInt8) (decoder : codec.Decoder) :
    Task σ (codec.Decoder × Metadata × Nat) := do
  let kind := kind codec
  let decoder ← kind.attempt decoder (codec.setSource decoder source)
  let decoder ← kind.attempt decoder (codec.readHeader decoder)
  let frame ← kind.attempt decoder (codec.frameInfo decoder)
  let interleave ← kind.attempt decoder (codec.interleave decoder)
  let metadata ← kind.accept decoder (Metadata.ofFrame frame interleave)
  let size ← kind.attempt decoder (codec.destinationSize decoder)
  return (decoder, metadata, size)

def fillSteps (codec : Codec σ) (decoder : codec.Decoder) (metadata : Metadata) (size : Nat) :
    Task σ DecodedImage := do
  let stored ← (kind codec).attempt decoder (codec.decodeInto decoder size)
  (kind codec).giveBack decoder
  image metadata (Patch.apply ⟨0, stored⟩ (List.replicate size 0))

end DecodeSession

/-- The container has the last word on colors and resolution. -/
def Metadata.complete (container : Metadata) (decoded : DecodedImage) : Task σ DecodedImage := do
  if !container.sameGeometry decoded.metadata then
    Task.warn (.frameMismatch container.frame decoded.metadata.frame)
  return { decoded with metadata := { decoded.metadata with
    colorSpace := container.colorSpace
    units := container.units
    verticalResolution := container.verticalResolution } }

def decodeSteps (codec : Codec σ) (source : List UInt8) : Task σ DecodedImage := do
  let container ← Container.metadata source
  let decoder ← Task.call codec.createDecoder
  let (decoder, metadata, size) ← DecodeSession.measureSteps codec source decoder
  let decoded ← DecodeSession.fillSteps codec decoder metadata size
  container.complete decoded

namespace DecodeSession

variable (codec : Codec σ) {decoder : codec.Decoder} {findings : DecodeFindings}

theorem use_readHeader (next : Metadata → Method codec α) :
    Session.use (kind codec) ⟨some decoder, .sourceSet, findings⟩ (readHeader codec >>= next) = (do
      let decoder ← (kind codec).attempt decoder (codec.readHeader decoder)
      let frame ← (kind codec).attempt decoder (codec.frameInfo decoder)
      let interleave ← (kind codec).attempt decoder (codec.interleave decoder)
      let metadata ← (kind codec).accept decoder (Metadata.ofFrame frame interleave)
      Session.use (kind codec)
        ⟨some decoder, .headerRead, { findings with metadata? := some metadata }⟩
        (next metadata)) := by
  rw [readHeader, bind_assoc, Session.use_step_change List.mem_cons_self]
  apply bind_congr
  intro decoder
  rw [Session.use_step_query List.mem_cons_self]
  apply bind_congr
  intro frame
  rw [Session.use_step_query List.mem_cons_self]
  apply bind_congr
  intro interleave
  rw [Session.use_step_pure List.mem_cons_self]
  cases hmetadata : Metadata.ofFrame frame interleave with
  | ok metadata =>
      simp only [hmetadata, bind_assoc]
      rw [Session.use_modify]
      rfl
  | error error =>
      simp only [hmetadata, bind_assoc]
      rw [Session.use_close]
      rfl

theorem use_measure (decoder : codec.Decoder) (findings : DecodeFindings) (source : List UInt8)
    (next : Nat → Method codec α) :
    Session.use (kind codec) ⟨some decoder, .created, findings⟩ (do
        setSource codec source
        let _ ← readHeader codec
        let size ← querySize codec
        next size) = (do
      let (decoder, metadata, size) ← measureSteps codec source decoder
      Session.use (kind codec) ⟨some decoder, .sizeQueried, ⟨some metadata, size⟩⟩
        (next size)) := by
  simp only [measureSteps, bind_assoc, pure_bind]
  rw [setSource, Session.use_change List.mem_cons_self]
  apply bind_congr
  intro decoder
  rw [use_readHeader]
  apply bind_congr
  intro decoder
  apply bind_congr
  intro frame
  apply bind_congr
  intro interleave
  apply bind_congr
  intro metadata
  rw [querySize, bind_assoc, Session.use_query List.mem_cons_self]
  apply bind_congr
  intro size
  rw [bind_assoc, Session.use_modify, pure_bind]

theorem use_finish (metadata : Metadata) (size : Nat) :
    Session.use (kind codec) ⟨some decoder, .sizeQueried, ⟨some metadata, size⟩⟩ (finish codec) =
      fillSteps codec decoder metadata size := by
  rw [finish, Session.use_get, fillSteps]
  simp only
  rw [Session.use_query List.mem_cons_self]
  apply bind_congr
  intro stored
  rw [Session.use_close]
  apply bind_congr
  intro done
  funext world
  simp only [Session.use, Session.liftExcept_apply, Task.liftExcept_apply]
  rfl

end DecodeSession

theorem decode_eq_steps (codec : Codec σ) (source : List UInt8) :
    decode codec source = decodeSteps codec source := by
  rw [decode, decodeSteps]
  apply bind_congr
  intro container
  rw [DecodeSession.start, Session.start, bind_map_left]
  apply bind_congr
  intro decoder
  rw [DecodeSession.use_measure, bind_assoc]
  apply bind_congr
  rintro ⟨decoder, metadata, size⟩
  simp only [DecodeSession.use_finish]
  rfl

end JpegLs
