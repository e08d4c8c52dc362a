import JpegLs.Pixels.Scan

namespace JpegLs

variable {α : Type} {samples : List α} {rowLength : Nat}

theorem getElem?_transpose (h : rowLength ∣ samples.length) {index : Nat}
    (hindex : index < samples.length) :
    (transpose samples rowLength h)[index]? =
      samples[index % (samples.length / rowLength) * rowLength +
        index / (samples.length / rowLength)]? := by
  have hsource := transposed_index_lt h hindex
  rw [transpose, List.getElem?_ofFn, dif_pos hindex, List.getElem?_eq_getElem hsource]
  rfl

theorem transposed_index {rows row column : Nat} (hrow : row < rows) :
    (column * rows + row) % rows * rowLength + (column * rows + row) / rows =
      row * rowLength + column := by
  have hmod : (column * rows + row) % rows = row := by
    rw [Nat.mul_add_mod', Nat.mod_eq_of_lt hrow]
  have hdiv : (column * rows + row) / rows = column := by
    rw [Nat.mul_comm, Nat.mul_add_div (by omega), Nat.div_eq_of_lt hrow, Nat.add_zero]
  rw [hmod, hdiv]

theorem block_index_lt {block blocks place size : Nat} (hblock : block < blocks)
    (hplace : place < size) : block * size + place < blocks * size := by
  calc block * size + place < block * size + size := Nat.add_lt_add_left hplace _
    _ = (block + 1) * size := (Nat.succ_mul _ _).symm
    _ ≤ blocks * size := Nat.mul_le_mul_right _ hblock

/-! Where a sample of whole rows stands: in its row, and in its column once columns follow each
other. -/

theorem row_place_lt {count row column : Nat} (h : rowLength ∣ count)
    (hrow : row < count / rowLength) (hcolumn : column < rowLength) :
    row * rowLength + column < count := by
  have hlt := block_index_lt hrow hcolumn
  rwa [Nat.div_mul_cancel h] at hlt

theorem column_place_lt {count row column : Nat} (h : rowLength ∣ count)
    (hrow : row < count / rowLength) (hcolumn : column < rowLength) :
    column * (count / rowLength) + row < count := by
  have hlt := block_index_lt hcolumn hrow
  rwa [Nat.mul_div_cancel' h] at hlt

theorem getElem?_transpose_column (h : rowLength ∣ samples.length) {row column : Nat}
    (hrow : row < samples.length / rowLength) (hcolumn : column < rowLength) :
    (transpose samples rowLength h)[column * (samples.length / rowLength) + row]? =
      samples[row * rowLength + column]? := by
  rw [getElem?_transpose h (column_place_lt h hrow hcolumn), transposed_index hrow]

theorem transpose_map {β : Type} (f : α → β) (h : rowLength ∣ samples.length)
    (hmap : rowLength ∣ (samples.map f).length) :
    transpose (samples.map f) rowLength hmap = (transpose samples rowLength h).map f := by
  apply List.ext_getElem?
  intro index
  by_cases hindex : index < samples.length
  · rw [getElem?_transpose hmap (by rwa [List.length_map]), List.getElem?_map, List.getElem?_map,
      getElem?_transpose h hindex, List.length_map]
  · rw [List.getElem?_eq_none (by simpa using hindex), List.getElem?_eq_none (by simpa using hindex)]

theorem transpose_transpose (h : rowLength ∣ samples.length) {rows : Nat}
    (hrows : rows = samples.length / rowLength)
    (hback : rows ∣ (transpose samples rowLength h).length) :
    transpose (transpose samples rowLength h) rows hback = samples := by
  apply List.ext_getElem?
  intro index
  by_cases hindex : index < samples.length
  · have hpos : 0 < samples.length := by omega
    have hlength : 0 < rowLength := Nat.pos_of_dvd_of_pos h hpos
    have hcount : rows * rowLength = samples.length := by rw [hrows, Nat.div_mul_cancel h]
    have hrows_pos : 0 < rows := Nat.pos_of_ne_zero fun hzero => by simp [hzero] at hcount; omega
    have hback_rows : (transpose samples rowLength h).length / rows = rowLength := by
      rw [length_transpose, ← hcount, Nat.mul_div_cancel_left _ hrows_pos]
    have hrow : index / rowLength < rows :=
      Nat.div_lt_of_lt_mul (by rwa [Nat.mul_comm, hcount])
    have hplace : index % rowLength * rows + index / rowLength < samples.length := by
      have hdvd : rows ∣ samples.length := ⟨rowLength, hcount.symm⟩
      have hlt := transposed_index_lt hdvd hindex
      rwa [← hcount, Nat.mul_div_cancel_left _ hrows_pos, hcount] at hlt
    rw [getElem?_transpose hback (by rwa [length_transpose]), hback_rows,
      getElem?_transpose h hplace, ← hrows, transposed_index hrow, Nat.div_add_mod']
  · rw [List.getElem?_eq_none (by simpa using hindex), List.getElem?_eq_none (by omega)]

end JpegLs
