import JpegLs.Proofs.Codec.Recorded
import JpegLs.Proofs.Codec.Simulation

namespace JpegLs

variable {σ α Handle State Data : Type}

def World.erase (world : World (Recorded σ)) : World σ where
  codec := world.codec.1
  warnings := world.warnings

namespace Codec

abbrev Erased (recorded : Recorded σ) (state : σ) : Prop := recorded.1 = state

theorem erases_noteCreation (create : Call σ Handle) :
    Simulates Erased Erased (Same Erased) (noteCreation create) create := by
  rintro ⟨state, events⟩ _ rfl
  simp only [noteCreation]
  rcases create state with ⟨status | handle, left⟩
  · exact .error status rfl
  · exact .ok ⟨rfl, rfl⟩

theorem erases_note (request : Request) (response : α → Response) (op : Call σ α) :
    Simulates Erased Erased (Same Erased) (note request response op) op := by
  rintro ⟨state, events⟩ _ rfl
  simp only [note]
  rcases op state with ⟨status | value, left⟩
  · exact .error status rfl
  · exact .ok ⟨rfl, rfl⟩

theorem erases_noteStoring (request : Request) (op : Handle → StoringCall σ Handle) :
    SimulatesOn (Calls.Beside (Same Erased)) Eq
      (Calls.store fun handle => noteStoring request (op handle)) (Calls.store op) := by
  refine Calls.simulates_store ?_
  rintro handle ⟨state, events⟩ _ rfl
  simp only [noteStoring]
  rcases op handle state with ⟨⟨_ | _, _⟩, _⟩ <;> exact ⟨rfl, rfl⟩

def erasure (codec : Codec σ) : codec.recorded.Simulation codec where
  shared := Erased
  warnings := Eq
  append more h := congrArg (· ++ more) h
  decoders := Same Erased
  encoders := Same Erased
  createDecoder := erases_noteCreation _
  setSource _ := Calls.simulates_change fun _ => erases_note _ _ _
  readHeader := Calls.simulates_change fun _ => erases_note _ _ _
  frameInfo := Calls.simulates_query fun _ => erases_note _ _ _
  interleave := Calls.simulates_query fun _ => erases_note _ _ _
  destinationSize := Calls.simulates_query fun _ => erases_note _ _ _
  decodeInto _ := Calls.simulates_query fun _ => erases_note _ _ _
  releaseDecoder _ _ _ _ := by
    rintro ⟨rfl, rfl⟩
    rfl
  createEncoder := erases_noteCreation _
  setFrameInfo _ := Calls.simulates_change fun _ => erases_note _ _ _
  setInterleave _ := Calls.simulates_change fun _ => erases_note _ _ _
  estimatedSize := Calls.simulates_query fun _ => erases_note _ _ _
  setDestination _ := Calls.simulates_change fun _ => erases_note _ _ _
  writeSpiff _ _ _ _ := erases_noteStoring _ _
  encodeFrom _ := erases_noteStoring _ _
  bytesWritten := Calls.simulates_query fun _ => erases_note _ _ _
  releaseEncoder _ _ _ _ := by
    rintro ⟨rfl, rfl⟩
    rfl

end Codec

theorem Worlds.Related.eq_erase {codec : Codec σ} {world : World (Recorded σ)}
    {world' : World σ} (h : codec.erasure.toWorlds.Related world world') :
    world' = world.erase := by
  obtain ⟨state, given⟩ := world'
  obtain ⟨rfl, rfl⟩ := h
  rfl

namespace Session

def Erases (noted : Method (Recorded σ) Handle State Data α)
    (method : Method σ Handle State Data α) : Prop :=
  ∀ session world, method session world.erase =
    ((noted session world).1, (noted session world).2.erase)

theorem erases_of_simulates {codec : Codec σ} {noted : Method (Recorded σ) Handle State Data α}
    {method : Method σ Handle State Data α}
    (h : SimulatesOn (Related codec.erasure.toWorlds (Same Codec.Erased)) Eq noted method) :
    Erases noted method := by
  intro session world
  have hstart : Related codec.erasure.toWorlds (Same Codec.Erased) session world session
      world.erase := by
    refine related_same_iff.mpr ⟨rfl, ?_, rfl⟩
    split <;> rfl
  obtain ⟨hanswer, hrelated⟩ := h session world session world.erase hstart
  obtain ⟨hsession, hcodec, hwarnings⟩ := related_same_iff.mp hrelated
  have hworld : codec.erasure.toWorlds.Related (noted session world).2
      (method session world.erase).2 := by
    refine ⟨?_, hwarnings⟩
    split at hcodec <;> exact hcodec
  exact Prod.ext (Prod.ext hanswer.eq.symm hsession) hworld.eq_erase

end Session

variable (codec : Codec σ)

theorem EncodeSession.erases_perform (command : EncodeCommand) :
    Session.Erases (perform codec.recorded command) (perform codec command) :=
  Session.erases_of_simulates (alike_perform codec.erasure command)

theorem DecodeSession.erases_perform (command : DecodeCommand) :
    Session.Erases (perform codec.recorded command) (perform codec command) :=
  Session.erases_of_simulates (alike_perform codec.erasure command)

variable {Command Reply : Type}

theorem Run.performAll_erase
    {noted : Command → Session.Method (Recorded σ) Handle State Data Reply}
    {perform : Command → Session.Method σ Handle State Data Reply}
    (hperform : ∀ command, Session.Erases (noted command) (perform command))
    (commands : List Command) (session : Session Handle State Data)
    (world : World (Recorded σ)) :
    performAll perform commands session world.erase =
      ((performAll noted commands session world).1,
        (performAll noted commands session world).2.erase) := by
  induction commands generalizing session world with
  | nil => rfl
  | cons command rest ih =>
      rw [performAll_cons, performAll_cons, hperform command session world]
      simp only [ih]

/-- A task that does on a recorded state what `task` does on the state itself. -/
def Task.Erases (noted : Task (Recorded σ) α) (task : Task σ α) : Prop :=
  ∀ world, task world.erase = ((noted world).1, (noted world).2.erase)

theorem Task.erases_of_simulates {codec : Codec σ} {noted : Task (Recorded σ) α}
    {task : Task σ α}
    (h : Simulates codec.erasure.toWorlds.Related codec.erasure.toWorlds.Related
      (Same codec.erasure.toWorlds.Related) noted task) : Erases noted task := by
  intro world
  have hboth := h world world.erase ⟨rfl, rfl⟩
  generalize noted world = ran at hboth ⊢
  generalize task world.erase = ran' at hboth ⊢
  cases hboth with
  | ok hafter =>
      obtain ⟨rfl, hworlds⟩ := hafter
      rw [hworlds.eq_erase]
  | error error hworlds => rw [hworlds.eq_erase]

theorem erases_decode (source : List UInt8) :
    Task.Erases (decode codec.recorded source) (decode codec source) :=
  Task.erases_of_simulates (simulates_decode codec.erasure source)

theorem erases_encode (image : SourceImage) (options : EncodeOptions) :
    Task.Erases (encode codec.recorded image options) (encode codec image options) :=
  Task.erases_of_simulates (simulates_encode codec.erasure image options)

end JpegLs
