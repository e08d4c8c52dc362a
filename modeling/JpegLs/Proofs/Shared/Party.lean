import JpegLs.Proofs.Codec.Simulation
import JpegLs.Proofs.Loopback.Accounts

/-!
Several parties at one codec, each with one session at most.  They move in any order, and a move
is the start of a session, one of its commands, its end, or a whole decoding or encoding.
-/

namespace JpegLs

variable {σ τ α Handle State Data : Type}

inductive Party (codec : Codec σ) where
  | idle
  | decoding (session : DecodeSession codec)
  | encoding (session : EncodeSession codec)

inductive Move where
  | startDecoding
  | startEncoding
  | decodeCommand (command : DecodeCommand)
  | encodeCommand (command : EncodeCommand)
  | drop
  | decode (source : List UInt8)
  | encode (image : SourceImage) (options : EncodeOptions)
deriving DecidableEq, Repr

/-- What a party is told of its move; the state and the destination are those of its session after
the command. -/
inductive MoveReply where
  | started
  | notStarted (error : Error)
  | toDecodeCommand (answer : Except Error DecodeReply) (state : DecodeState)
  | toEncodeCommand (answer : Except Error EncodeReply) (state : EncodeState)
      (destination : List UInt8)
  | dropped
  | decoded (answer : Except Error DecodedImage)
  | encoded (answer : Except Error (List UInt8))
  | impossible

namespace Party

variable (codec : Codec σ)

def start (task : Task σ α) (hold : α → Party codec) : Run σ (MoveReply × Party codec) :=
  fun world =>
    match task world with
    | (.ok session, world) => ((.started, hold session), world)
    | (.error error, world) => ((.notStarted error, idle), world)

def command (kind : Session.Kind σ Handle State) (last : Bool)
    (method : Session.Method σ Handle State Data α)
    (reply : Except Error α → State → Data → MoveReply)
    (hold : Session Handle State Data → Party codec) (session : Session Handle State Data) :
    Run σ (MoveReply × Party codec) := fun world =>
  let ((answer, session), world) := method session world
  let told := reply answer session.state session.data
  if last then ((told, idle), (Session.drop kind session world).2)
  else ((told, hold session), world)

def drop (kind : Session.Kind σ Handle State) (session : Session Handle State Data) :
    Run σ (MoveReply × Party codec) := fun world =>
  ((.dropped, idle), (Session.drop kind session world).2)

def whole (task : Task σ α) (reply : Except Error α → MoveReply) :
    Run σ (MoveReply × Party codec) := fun world =>
  let (answer, world) := task world
  ((reply answer, idle), world)

def perform : Move → Party codec → Run σ (MoveReply × Party codec)
  | .startDecoding, idle => start codec (DecodeSession.start codec) decoding
  | .startEncoding, idle => start codec (EncodeSession.start codec) encoding
  | .decodeCommand asked, decoding session =>
      command codec (DecodeSession.kind codec) (asked = .finish)
        (DecodeSession.perform codec asked) (fun answer state _ => .toDecodeCommand answer state)
        decoding session
  | .encodeCommand asked, encoding session =>
      command codec (EncodeSession.kind codec) (asked = .finish)
        (EncodeSession.perform codec asked) .toEncodeCommand encoding session
  | .drop, decoding session => drop codec (DecodeSession.kind codec) session
  | .drop, encoding session => drop codec (EncodeSession.kind codec) session
  | .decode source, idle => whole codec (JpegLs.decode codec source) .decoded
  | .encode image options, idle => whole codec (JpegLs.encode codec image options) .encoded
  | _, party => pure (.impossible, party)

/-- What a party sees of its move: the reply and the warnings given meanwhile. -/
structure Observation where
  reply : MoveReply
  warnings : List Warning

def observe (move : Move) (party : Party codec) : Run σ (Observation × Party codec) :=
  fun world =>
    let ((reply, party), after) := perform codec move party world
    ((⟨reply, after.warnings.drop world.warnings.length⟩, party), after)

def turn {count : Nat} (move : Fin count × Move) (parties : Vector (Party codec) count) :
    Run σ ((Fin count × Observation) × Vector (Party codec) count) := fun world =>
  let ((seen, party), world) := observe codec move.2 (parties.get move.1) world
  (((move.1, seen), parties.set move.1 party move.1.isLt), world)

theorem observe_apply (move : Move) (party : Party codec) (world : World σ) :
    observe codec move party world =
      let ran := perform codec move party world
      ((⟨ran.1.1, ran.2.warnings.drop world.warnings.length⟩, ran.1.2), ran.2) := rfl

theorem turn_apply {count : Nat} (index : Fin count) (move : Move)
    (parties : Vector (Party codec) count) (world : World σ) :
    turn codec (index, move) parties world =
      let seen := observe codec move (parties.get index) world
      (((index, seen.1.1), parties.set index seen.1.2 index.isLt), seen.2) := rfl

/-- What of a list concerns one of the parties. -/
def own {count : Nat} (index : Fin count) (entries : List (Fin count × α)) : List α :=
  entries.filterMap fun entry => if entry.1 = index then some entry.2 else none

variable {codec}

def holds : Party codec → Bool
  | idle => false
  | decoding session => session.handle?.isSome
  | encoding session => session.handle?.isSome

def isOpen : Party codec → Bool
  | idle => false
  | decoding session => session.state ≠ .closed
  | encoding session => session.state ≠ .closed

section

variable {first : Codec σ} {second : Codec τ} (sim : first.Simulation second)

inductive Related : Party first → World σ → Party second → World τ → Prop where
  | idle {world : World σ} {world' : World τ} (h : sim.toWorlds.Related world world') :
      Related idle world idle world'
  | decoding {session : DecodeSession first} {world : World σ} {session' : DecodeSession second}
      {world' : World τ}
      (h : Session.Related sim.toWorlds sim.decoders session world session' world') :
      Related (decoding session) world (decoding session') world'
  | encoding {session : EncodeSession first} {world : World σ} {session' : EncodeSession second}
      {world' : World τ}
      (h : Session.Related sim.toWorlds sim.encoders session world session' world') :
      Related (encoding session) world (encoding session') world'

abbrev Alike (first' : (MoveReply × Party first) × World σ)
    (second' : (MoveReply × Party second) × World τ) : Prop :=
  first'.1.1 = second'.1.1 ∧ Related sim first'.1.2 first'.2 second'.1.2 second'.2

variable {sim} {world : World σ} {world' : World τ}

theorem alike_start {β : Type} {task : Task σ α} {task' : Task τ β} {hold : α → Party first}
    {hold' : β → Party second} {opened : α → World σ → β → World τ → Prop}
    (h : Simulates sim.toWorlds.Related sim.toWorlds.Related opened task task')
    (hhold : ∀ session world session' world', opened session world session' world' →
      Related sim (hold session) world (hold' session') world')
    (hworlds : sim.toWorlds.Related world world') :
    Alike sim (start first task hold world) (start second task' hold' world') := by
  have hboth := h world world' hworlds
  unfold start
  generalize task world = ran at hboth ⊢
  generalize task' world' = ran' at hboth ⊢
  cases hboth with
  | ok hopened => exact ⟨rfl, hhold _ _ _ _ hopened⟩
  | error error hfailed => exact ⟨rfl, .idle hfailed⟩

theorem alike_whole {task : Task σ α} {task' : Task τ α}
    (h : Simulates sim.toWorlds.Related sim.toWorlds.Related (Same sim.toWorlds.Related) task task')
    (reply : Except Error α → MoveReply) (hworlds : sim.toWorlds.Related world world') :
    Alike sim (whole first task reply world) (whole second task' reply world') := by
  have hboth := h world world' hworlds
  unfold whole
  generalize task world = ran at hboth ⊢
  generalize task' world' = ran' at hboth ⊢
  cases hboth with
  | ok hafter =>
      obtain ⟨rfl, hafter⟩ := hafter
      exact ⟨rfl, .idle hafter⟩
  | error error hfailed => exact ⟨rfl, .idle hfailed⟩

section

variable {Handle' : Type} {kind : Session.Kind σ Handle State}
  {kind' : Session.Kind τ Handle' State}
  {linked : Handle → σ → Handle' → τ → Prop} (hkind : kind.Simulates kind' sim.toWorlds linked)
  {session : Session Handle State Data} {session' : Session Handle' State Data}
  (hrelated : Session.Related sim.toWorlds linked session world session' world')

include hkind hrelated

theorem alike_drop :
    Alike sim (drop first kind session world) (drop second kind' session' world') :=
  ⟨rfl, .idle (hkind.drop hrelated)⟩

theorem alike_command {method : Session.Method σ Handle State Data α}
    {method' : Session.Method τ Handle' State Data α}
    (hmethod : SimulatesOn (Session.Related sim.toWorlds linked) Eq method method')
    {hold : Session Handle State Data → Party first}
    {hold' : Session Handle' State Data → Party second}
    (hhold : ∀ session world session' world',
      Session.Related sim.toWorlds linked session world session' world' →
      Related sim (hold session) world (hold' session') world')
    (last : Bool) (reply : Except Error α → State → Data → MoveReply) :
    Alike sim (command first kind last method reply hold session world)
      (command second kind' last method' reply hold' session' world') := by
  have hboth := hmethod session world session' world' hrelated
  unfold command
  generalize method session world = ran at hboth ⊢
  generalize method' session' world' = ran' at hboth ⊢
  obtain ⟨⟨answer, left⟩, after⟩ := ran
  obtain ⟨⟨answer', left'⟩, after'⟩ := ran'
  obtain ⟨hanswer, hleft⟩ := hboth
  obtain rfl := hanswer.eq
  have htold : reply answer left.state left.data = reply answer left'.state left'.data := by
    rw [hleft.state, hleft.data]
  cases last with
  | true => exact ⟨htold, .idle (hkind.drop hleft)⟩
  | false => exact ⟨htold, hhold _ _ _ _ hleft⟩

end

theorem alike_perform (move : Move) {party : Party first} {party' : Party second}
    (h : Related sim party world party' world') :
    Alike sim (perform first move party world) (perform second move party' world') := by
  cases h with
  | idle hworlds =>
      cases move with
      | startDecoding =>
          exact alike_start (Session.simulates_start _ _ sim.createDecoder)
            (fun _ _ _ _ => .decoding) hworlds
      | startEncoding =>
          exact alike_start (Session.simulates_start _ _ sim.createEncoder)
            (fun _ _ _ _ => .encoding) hworlds
      | decode source => exact alike_whole (simulates_decode sim source) _ hworlds
      | encode image options => exact alike_whole (simulates_encode sim image options) _ hworlds
      | decodeCommand asked => exact ⟨rfl, .idle hworlds⟩
      | encodeCommand asked => exact ⟨rfl, .idle hworlds⟩
      | drop => exact ⟨rfl, .idle hworlds⟩
  | decoding hrelated =>
      have hkind := DecodeSession.alike_kind sim
      cases move with
      | decodeCommand asked =>
          exact alike_command hkind hrelated (DecodeSession.alike_perform sim asked)
            (fun _ _ _ _ => .decoding) _ _
      | drop => exact alike_drop hkind hrelated
      | startDecoding => exact ⟨rfl, .decoding hrelated⟩
      | startEncoding => exact ⟨rfl, .decoding hrelated⟩
      | encodeCommand asked => exact ⟨rfl, .decoding hrelated⟩
      | decode source => exact ⟨rfl, .decoding hrelated⟩
      | encode image options => exact ⟨rfl, .decoding hrelated⟩
  | encoding hrelated =>
      have hkind := EncodeSession.alike_kind sim
      cases move with
      | encodeCommand asked =>
          exact alike_command hkind hrelated (EncodeSession.alike_perform sim asked)
            (fun _ _ _ _ => .encoding) _ _
      | drop => exact alike_drop hkind hrelated
      | startDecoding => exact ⟨rfl, .encoding hrelated⟩
      | startEncoding => exact ⟨rfl, .encoding hrelated⟩
      | decodeCommand asked => exact ⟨rfl, .encoding hrelated⟩
      | decode source => exact ⟨rfl, .encoding hrelated⟩
      | encode image options => exact ⟨rfl, .encoding hrelated⟩

end

section

open Loopback (Record Balance)

variable {config : Loopback.Config} {others : Int} {given given' : List Warning}
  {world world' : World Record}

theorem balance_iff_counted (held : Bool) (record record' : Record) :
    (if held then Loopback.Counted (Balance (others + 1)) else Loopback.Counted (Balance others))
        record record' ↔ Balance (others + held.toNat) record.created record.destroyed := by
  cases held with
  | false => simp [Loopback.Counted]
  | true => simp [Loopback.Counted]

theorem related_itself_iff {party party' : Party (Loopback.codec config)} :
    Related (Loopback.besideItself config others given given') party world party' world' ↔
      party' = party ∧
      Balance (others + party.holds.toNat) world.codec.created world.codec.destroyed ∧
      ∃ added, world.warnings = given ++ added ∧ world'.warnings = given' ++ added := by
  constructor
  · intro hrelated
    cases hrelated with
    | idle hworlds =>
        have hcounted := (balance_iff_counted false world.codec world'.codec).mp hworlds.codec
        exact ⟨rfl, hcounted, hworlds.warnings⟩
    | decoding hsession =>
        obtain ⟨rfl, hcodec, hwarnings⟩ := Session.related_same_iff.mp hsession
        exact ⟨rfl, (balance_iff_counted _ _ _).mp hcodec, hwarnings⟩
    | encoding hsession =>
        obtain ⟨rfl, hcodec, hwarnings⟩ := Session.related_same_iff.mp hsession
        exact ⟨rfl, (balance_iff_counted _ _ _).mp hcodec, hwarnings⟩
  · rintro ⟨rfl, hbalance, hwarnings⟩
    have hcodec := (balance_iff_counted _ world.codec world'.codec).mpr hbalance
    cases party' with
    | idle => exact .idle ⟨hcodec, hwarnings⟩
    | decoding session =>
        exact .decoding (Session.related_same_iff.mpr ⟨rfl, hcodec, hwarnings⟩)
    | encoding session =>
        exact .encoding (Session.related_same_iff.mpr ⟨rfl, hcodec, hwarnings⟩)

/-- A move comes out the same on any record.  It adds the same warnings, and keeps the balance of
the counters on top of what the other parties hold. -/
theorem perform_alike (move : Move) (party : Party (Loopback.codec config))
    (hbalance : Balance (others + party.holds.toNat) world.codec.created world.codec.destroyed)
    (world' : World Record) :
    let ran := perform (Loopback.codec config) move party world
    let ran' := perform (Loopback.codec config) move party world'
    ran'.1 = ran.1 ∧
      Balance (others + ran.1.2.holds.toNat) ran.2.codec.created ran.2.codec.destroyed ∧
      ∃ added, ran.2.warnings = world.warnings ++ added ∧
        ran'.2.warnings = world'.warnings ++ added := by
  have hstart : Related
      (Loopback.besideItself config others world.warnings world'.warnings) party world party
      world' :=
    related_itself_iff.mpr ⟨rfl, hbalance, [], by simp, by simp⟩
  obtain ⟨hreply, hrelated⟩ := alike_perform move hstart
  obtain ⟨hparty, hafter⟩ := related_itself_iff.mp hrelated
  exact ⟨Prod.ext hreply.symm hparty, hafter⟩

end

end Party

end JpegLs
