import JpegLs.Proofs.Shared.Party

/-!
Parties that share a codec do not notice each other.  Of all that a party does, nothing but the
record of the codec depends on what the others have done meanwhile.
-/

namespace JpegLs

open Loopback (Record Balance)

namespace Party

section

variable {α : Type} {count : Nat} {index : Fin count}

theorem own_cons_self (entry : α) (rest : List (Fin count × α)) :
    own index ((index, entry) :: rest) = entry :: own index rest := by
  simp [own]

theorem own_cons_of_ne {other : Fin count} (hother : other ≠ index) (entry : α)
    (rest : List (Fin count × α)) : own index ((other, entry) :: rest) = own index rest := by
  simp [own, hother]

end

variable {config : Loopback.Config}

theorem observe_alike (move : Move) (party : Party (Loopback.codec config))
    (world world' : World Record) :
    (observe (Loopback.codec config) move party world').1 =
      (observe (Loopback.codec config) move party world).1 := by
  let others : Int := world.codec.created - world.codec.destroyed - party.holds.toNat
  have hbalance : Balance (others + party.holds.toNat) world.codec.created
      world.codec.destroyed := by
    unfold Balance
    omega
  obtain ⟨hran, -, added, hwarnings, hwarnings'⟩ := perform_alike move party hbalance world'
  simp only [observe_apply, hran, hwarnings, hwarnings', List.drop_left]

theorem own_performAll (config : Loopback.Config) {count : Nat} (moves : List (Fin count × Move))
    (parties : Vector (Party (Loopback.codec config)) count) (index : Fin count)
    (shared apart : World Record) :
    let run := Run.performAll (turn (Loopback.codec config)) moves parties shared
    let alone := Run.performAll (observe (Loopback.codec config)) (own index moves)
      (parties.get index) apart
    own index run.1.1 = alone.1.1 ∧ run.1.2.get index = alone.1.2 := by
  induction moves generalizing parties shared apart with
  | nil => exact ⟨rfl, rfl⟩
  | cons next rest ih =>
      obtain ⟨moving, move⟩ := next
      simp only [Run.performAll_cons, turn_apply]
      let seen := observe (Loopback.codec config) move (parties.get moving) shared
      by_cases hmoving : moving = index
      · subst hmoving
        let seen' := observe (Loopback.codec config) move (parties.get moving) apart
        have hsame : seen'.1 = seen.1 := observe_alike move _ shared apart
        obtain ⟨hothers, hleft⟩ := ih (parties.set moving seen.1.2 moving.isLt) seen.2 seen'.2
        have hset : (parties.set moving seen.1.2 moving.isLt).get moving = seen'.1.2 := by
          rw [hsame]
          exact Vector.getElem_set_self _
        rw [hset] at hothers hleft
        rw [own_cons_self, own_cons_self, Run.performAll_cons]
        exact ⟨List.cons_eq_cons.mpr ⟨congrArg Prod.fst hsame.symm, hothers⟩, hleft⟩
      · have hset : (parties.set moving seen.1.2 moving.isLt).get index = parties.get index :=
          Vector.getElem_set_ne _ _ fun hvalue => hmoving (Fin.ext hvalue)
        rw [own_cons_of_ne hmoving, own_cons_of_ne hmoving, ← hset]
        exact ih (parties.set moving seen.1.2 moving.isLt) seen.2 apart

/-- Each of the parties at one codec sees of its moves what it would see of them alone, at another
codec that fails at the same step, and is left with the same session.  So the order in which the
parties get to move makes a difference to the record of the codec, but to none of them. -/
theorem performAll_independent (config : Loopback.Config) {count : Nat}
    (moves : List (Fin count × Move)) (parties : Vector (Party (Loopback.codec config)) count)
    (shared : World Record) :
    let run := Run.performAll (turn (Loopback.codec config)) moves parties shared
    (∀ index apart,
      let alone := Run.performAll (observe (Loopback.codec config)) (own index moves)
        (parties.get index) apart
      own index run.1.1 = alone.1.1 ∧ run.1.2.get index = alone.1.2) ∧
      ∀ reordered shared', (∀ index, own index reordered = own index moves) →
        let run' := Run.performAll (turn (Loopback.codec config)) reordered parties shared'
        (∀ index, own index run'.1.1 = own index run.1.1) ∧ run'.1.2 = run.1.2 := by
  intro run
  refine ⟨fun index => own_performAll config moves parties index shared, ?_⟩
  intro reordered shared' hown run'
  have hsame (index : Fin count) :
      own index run'.1.1 = own index run.1.1 ∧ run'.1.2.get index = run.1.2.get index := by
    obtain ⟨hseen, hleft⟩ := own_performAll config moves parties index shared shared
    obtain ⟨hseen', hleft'⟩ := own_performAll config reordered parties index shared' shared
    rw [hown index] at hseen' hleft'
    exact ⟨hseen'.trans hseen.symm, hleft'.trans hleft.symm⟩
  refine ⟨fun index => (hsame index).1, ?_⟩
  exact Vector.ext fun index hindex => (hsame ⟨index, hindex⟩).2

/-- A destination with room for the start of image and no more, which the party sees in it. -/
example :
    let run := Run.performAll (observe (Loopback.codec {}))
      [.startEncoding, .encodeCommand (.setFrameInfo ⟨1, 1, 8, 1⟩),
        .encodeCommand (.setDestination [0, 0, 0]), .encodeCommand (.encodeFrom [7])]
      .idle ⟨{}, []⟩
    run.1.1.getLast?.map Observation.reply =
      some (.toEncodeCommand (.error (.codec .destinationBufferTooSmall)) .closed
        [0xFF, 0xD8, 0]) := by
  rfl

end Party

end JpegLs
