import JpegLs.Proofs.Session.DecodeOrder
import JpegLs.Proofs.Session.EncodeOrder
import JpegLs.Proofs.Shared.Party

/-!
The instances of a codec that several parties share.  Those created and not given back are the
ones of the open sessions, whatever the parties do and whichever step the codec fails at.
-/

namespace JpegLs

open Loopback (Record Balance Unmoved)

variable {σ α Handle State Data Command Reply : Type}

theorem Follows.closed_iff {rules : Rules State Data Command Reply}
    {noted : Command → Session.Method (Recorded σ) Handle State Data Reply}
    {perform : Command → Session.Method σ Handle State Data Reply}
    (hfollows : Follows rules noted)
    (herases : ∀ command, Session.Erases (noted command) (perform command))
    (command : Command) (session : Session Handle State Data) (world : World σ) :
    let left := (perform command session world).1.2
    left.state = rules.closed ↔ left.handle? = none := by
  let unrecorded : World (Recorded σ) := ⟨(world.codec, []), world.warnings⟩
  obtain ⟨answer, left, added, after, hnoted, -, -, hturn⟩ := hfollows command session unrecorded
  have hperform : perform command session world = ((answer, left), after.erase) := by
    rw [show world = unrecorded.erase from rfl, herases command session unrecorded, hnoted]
  rw [hperform]
  exact hturn.closed_iff

namespace Party

section

variable {codec : Codec σ}

theorem isOpen_eq_isSome [DecidableEq State] {state closed : State} {handle? : Option Handle}
    (hclosed : state = closed ↔ handle? = none) :
    decide (state ≠ closed) = handle?.isSome := by
  cases handle? with
  | none => simp [hclosed.mpr rfl]
  | some handle => simpa using hclosed

theorem isOpen_of_start (state : State) (data : Data) (create : Call σ Handle)
    {hold : Session Handle State Data → Party codec} (world : World σ)
    (hhold : ∀ handle, let left := hold ⟨some handle, state, data⟩; left.isOpen = left.holds) :
    let left := (start codec (Session.start state data create) hold world).1.2
    left.isOpen = left.holds := by
  simp only [start, Session.start, Task.map_apply, Task.call]
  rcases create world.codec with ⟨status | handle, after⟩
  · rfl
  · exact hhold handle

theorem isOpen_of_command {kind : Session.Kind σ Handle State} (last : Bool)
    {method : Session.Method σ Handle State Data α}
    (reply : Except Error α → State → Data → MoveReply)
    {hold : Session Handle State Data → Party codec} {session : Session Handle State Data}
    {world : World σ}
    (hhold : let left := hold (method session world).1.2; left.isOpen = left.holds) :
    let left := (command codec kind last method reply hold session world).1.2
    left.isOpen = left.holds := by
  cases last with
  | false => exact hhold
  | true => rfl

theorem isOpen_of_perform (move : Move) {party : Party codec} (world : World σ)
    (hopen : party.isOpen = party.holds) :
    let left := (perform codec move party world).1.2
    left.isOpen = left.holds := by
  cases party with
  | idle =>
      cases move with
      | startDecoding => exact isOpen_of_start _ _ _ world fun _ => rfl
      | startEncoding => exact isOpen_of_start _ _ _ world fun _ => rfl
      | decode source => rfl
      | encode image options => rfl
      | decodeCommand asked => rfl
      | encodeCommand asked => rfl
      | drop => rfl
  | decoding session =>
      cases move with
      | decodeCommand asked =>
          have hclosed := (DecodeSession.follows codec).closed_iff
            (DecodeSession.erases_perform codec) asked session world
          exact isOpen_of_command _ _ (isOpen_eq_isSome hclosed)
      | drop => rfl
      | startDecoding => exact hopen
      | startEncoding => exact hopen
      | encodeCommand asked => exact hopen
      | decode source => exact hopen
      | encode image options => exact hopen
  | encoding session =>
      cases move with
      | encodeCommand asked =>
          have hclosed := (EncodeSession.follows codec).closed_iff
            (EncodeSession.erases_perform codec) asked session world
          exact isOpen_of_command _ _ (isOpen_eq_isSome hclosed)
      | drop => rfl
      | startDecoding => exact hopen
      | startEncoding => exact hopen
      | decodeCommand asked => exact hopen
      | decode source => exact hopen
      | encode image options => exact hopen

end

section

variable {config : Loopback.Config} {count : Nat} {world : World Record}

structure Balanced (parties : Vector (Party (Loopback.codec config)) count)
    (world : World Record) : Prop where
  opened : ∀ party ∈ parties, party.isOpen = party.holds
  held : Balance (parties.countP holds : Nat) world.codec.created world.codec.destroyed

theorem countP_holds_set (parties : Vector (Party (Loopback.codec config)) count)
    (index : Fin count) (party : Party (Loopback.codec config)) :
    (((parties.set index party index.isLt).countP holds : Nat) : Int) =
      (parties.countP holds - (parties.get index).holds.toNat : Int) + party.holds.toNat := by
  have hget : parties.get index = parties[index.val] := rfl
  have hle : (if parties[index.val].holds then 1 else 0) ≤ parties.countP holds :=
    Vector.boole_getElem_le_countP index.isLt
  rw [Vector.countP_set, hget]
  simp only [Bool.toNat, Bool.cond_eq_ite]
  omega

theorem Balanced.perform {parties : Vector (Party (Loopback.codec config)) count}
    (hbalanced : Balanced parties world) (index : Fin count) (move : Move) :
    let ran := perform (Loopback.codec config) move (parties.get index) world
    Balanced (parties.set index ran.1.2 index.isLt) ran.2 := by
  intro ran
  let others : Int := parties.countP holds - (parties.get index).holds.toNat
  have hheld : Balance (others + (parties.get index).holds.toNat) world.codec.created
      world.codec.destroyed := by
    rw [Int.sub_add_cancel]
    exact hbalanced.held
  obtain ⟨-, hafter, -⟩ := perform_alike move (parties.get index) hheld world
  constructor
  · intro party hparty
    rcases Vector.mem_or_eq_of_mem_set hparty with hbefore | rfl
    · exact hbalanced.opened party hbefore
    · exact isOpen_of_perform move world (hbalanced.opened _ (Vector.getElem_mem _))
  · rw [countP_holds_set]
    exact hafter

theorem Balanced.performAll {parties : Vector (Party (Loopback.codec config)) count}
    (hbalanced : Balanced parties world) (moves : List (Fin count × Move)) :
    let run := Run.performAll (turn (Loopback.codec config)) moves parties world
    Balanced run.1.2 run.2 := by
  refine Run.performAll_induction (fun next parties world hbalanced => ?_) moves hbalanced
  obtain ⟨index, move⟩ := next
  exact hbalanced.perform index move

theorem Balanced.start :
    Balanced (Vector.replicate count (idle : Party (Loopback.codec config))) ⟨{}, []⟩ where
  opened party hparty := by
    obtain ⟨-, rfl⟩ := Vector.mem_replicate.mp hparty
    rfl
  held := by simp [Balance, Vector.countP_replicate, holds]

theorem Balanced.created_eq {parties : Vector (Party (Loopback.codec config)) count}
    (hbalanced : Balanced parties world) :
    world.codec.created = world.codec.destroyed + parties.countP isOpen := by
  have hsame : parties.countP isOpen = parties.countP holds :=
    Vector.countP_congr fun party hparty => by rw [hbalanced.opened party hparty]
  have hheld := hbalanced.held
  unfold Balance at hheld
  omega

end

section

variable {config : Loopback.Config} {world after : World Record} {error : Error}

theorem unmoved_of_not_started {state : State} {data : Data} {create : Call Record Handle}
    (hcreate : ∀ {left status}, create world.codec = (.error status, left) →
      Unmoved world.codec left)
    (hstart : Session.start state data create world = (.error error, after)) :
    Unmoved world.codec after.codec := by
  rw [Session.start, Task.map_apply, Task.call] at hstart
  rcases hcreated : create world.codec with ⟨status | handle, left⟩
  · rw [hcreated] at hstart
    cases hstart
    exact hcreate hcreated
  · rw [hcreated] at hstart
    cases hstart

theorem unmoved_decode
    (hstart : DecodeSession.start (Loopback.codec config) world = (.error error, after))
    (hunmoved : Unmoved world.codec after.codec) (source : List UInt8) :
    Unmoved world.codec (decode (Loopback.codec config) source world).2.codec := by
  unfold decode
  rw [run_bind, Task.liftExcept_apply]
  rcases Container.metadata source with refused | container
  · exact ⟨rfl, rfl⟩
  · simp only
    rw [run_bind, hstart]
    exact hunmoved

theorem unmoved_encode
    (hstart : EncodeSession.start (Loopback.codec config) world = (.error error, after))
    (hunmoved : Unmoved world.codec after.codec) (image : SourceImage) (options : EncodeOptions) :
    Unmoved world.codec (encode (Loopback.codec config) image options world).2.codec := by
  unfold encode
  rw [run_bind, Task.liftExcept_apply]
  rcases image.prepare options with refused | prepared
  · exact ⟨rfl, rfl⟩
  · simp only
    rw [run_bind, hstart]
    exact hunmoved

end

section

variable {config : Loopback.Config} {count : Nat}

structure Accounted (parties : Vector (Party (Loopback.codec config)) count)
    (world : World Record) : Prop where
  open_iff_holds : ∀ party ∈ parties, party.isOpen = party.holds
  created_eq : world.codec.created = world.codec.destroyed + parties.countP isOpen
  destroyed_le : world.codec.destroyed ≤ world.codec.created
  equal_of_none_open : (∀ party ∈ parties, party.isOpen = false) →
    world.codec.created = world.codec.destroyed
  /-- A decoder that cannot be created moves neither counter, for a session or for a whole
  decoding. -/
  decoder_not_created : ∀ {error after},
    DecodeSession.start (Loopback.codec config) world = (.error error, after) →
    Unmoved world.codec after.codec ∧
      ∀ source, Unmoved world.codec (decode (Loopback.codec config) source world).2.codec
  encoder_not_created : ∀ {error after},
    EncodeSession.start (Loopback.codec config) world = (.error error, after) →
    Unmoved world.codec after.codec ∧
      ∀ image options,
        Unmoved world.codec (encode (Loopback.codec config) image options world).2.codec

theorem Balanced.accounted {parties : Vector (Party (Loopback.codec config)) count}
    {world : World Record} (hbalanced : Balanced parties world) : Accounted parties world where
  open_iff_holds := hbalanced.opened
  created_eq := hbalanced.created_eq
  destroyed_le := by
    rw [hbalanced.created_eq]
    exact Nat.le_add_right _ _
  equal_of_none_open hclosed := by
    have hnone : parties.countP isOpen = 0 :=
      Vector.countP_eq_zero.mpr fun party hparty => by simp [hclosed party hparty]
    rw [hbalanced.created_eq, hnone, Nat.add_zero]
  decoder_not_created hstart := by
    have hunmoved := unmoved_of_not_started Loopback.createDecoder_error hstart
    exact ⟨hunmoved, unmoved_decode hstart hunmoved⟩
  encoder_not_created hstart := by
    have hunmoved := unmoved_of_not_started Loopback.createEncoder_error hstart
    exact ⟨hunmoved, unmoved_encode hstart hunmoved⟩

/-- Parties that share a new codec move in any order, by any moves; the codec may fail at any
step. -/
theorem performAll_accounted (config : Loopback.Config) (count : Nat)
    (moves : List (Fin count × Move)) :
    let run := Run.performAll (turn (Loopback.codec config)) moves (Vector.replicate count .idle)
      ⟨{}, []⟩
    Accounted run.1.2 run.2 :=
  (Balanced.start.performAll moves).accounted

/-- The decoder is given back with the header it does not find, and not again when its session is
dropped; the encoder stays. -/
example :
    let config : Loopback.Config :=
      { failAt := some (.readHeader, CodecFault.invalidEncodedData.status) }
    let moves : List (Fin 2 × Move) :=
      [(0, .startDecoding), (1, .startEncoding), (0, .decodeCommand (.setSource [])),
        (0, .decodeCommand .readHeader), (0, .drop)]
    let run := Run.performAll (turn (Loopback.codec config)) moves (Vector.replicate 2 .idle)
      ⟨{}, []⟩
    run.2.codec.created = 2 ∧ run.2.codec.destroyed = 1 ∧ run.1.2.countP isOpen = 1 :=
  ⟨rfl, rfl, rfl⟩

end

end Party

end JpegLs
