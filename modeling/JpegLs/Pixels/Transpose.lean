/-!
Transposition of a list of samples read as consecutive rows.  Sample `column * rows + row` of the
result is sample `row * rowLength + column` of the source.
-/

namespace JpegLs

theorem transposed_index_lt {count rowLength index : Nat} (hdvd : rowLength ∣ count)
    (hindex : index < count) :
    index % (count / rowLength) * rowLength + index / (count / rowLength) < count := by
  obtain ⟨rows, rfl⟩ := hdvd
  have hlength : 0 < rowLength := Nat.pos_of_ne_zero fun h => by simp [h] at hindex
  have hrows : 0 < rows := Nat.pos_of_ne_zero fun h => by simp [h] at hindex
  rw [Nat.mul_div_cancel_left rows hlength]
  have hrow : index % rows + 1 ≤ rows := Nat.mod_lt index hrows
  have hcolumn : index / rows < rowLength :=
    Nat.div_lt_of_lt_mul (by rwa [Nat.mul_comm] at hindex)
  calc index % rows * rowLength + index / rows
      < index % rows * rowLength + rowLength := Nat.add_lt_add_left hcolumn _
    _ = (index % rows + 1) * rowLength := (Nat.succ_mul _ _).symm
    _ ≤ rows * rowLength := Nat.mul_le_mul_right _ hrow
    _ = rowLength * rows := Nat.mul_comm _ _

def transpose {α : Type} (samples : List α) (rowLength : Nat)
    (h : rowLength ∣ samples.length) : List α :=
  let stored := samples.toArray
  List.ofFn fun index : Fin samples.length =>
    have : index.val % (samples.length / rowLength) * rowLength +
        index.val / (samples.length / rowLength) < stored.size := by
      simpa [stored] using transposed_index_lt h index.isLt
    stored[index.val % (samples.length / rowLength) * rowLength +
      index.val / (samples.length / rowLength)]

@[simp] theorem length_transpose {α : Type} (samples : List α) (rowLength : Nat)
    (h : rowLength ∣ samples.length) :
    (transpose samples rowLength h).length = samples.length := by
  simp [transpose]

structure RaggedRows where
  rowLength : Nat
  count : Nat
deriving DecidableEq, Repr

def RaggedRows.message (fault : RaggedRows) : String :=
  s!"row length {fault.rowLength} does not divide {fault.count} samples"

/-- Transposition of samples nobody has counted yet; rows are never empty. -/
def transposeChecked {α : Type} (samples : List α) (rowLength : Nat) :
    Except RaggedRows (List α) :=
  if h : rowLength ≠ 0 ∧ rowLength ∣ samples.length then
    .ok (transpose samples rowLength h.2)
  else
    .error ⟨rowLength, samples.length⟩

end JpegLs
