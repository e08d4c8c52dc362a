import Mathlib.Data.List.Perm.Basic
import JpegLs.Proofs.Pixels.Orders
import JpegLs.Proofs.Pixels.Planes

/-!
Transposition as two loops, one over the columns and in it one over the rows, that look samples up
one by one.  Whole rows keep the loops from looking behind the last sample, and they come to each
sample once.
-/

namespace JpegLs

variable {α : Type} {samples : List α} {rowLength rows : Nat}

def gatherSample (samples gathered : List α) (place : Nat) : Option (List α) := do
  return gathered ++ [← samples[place]?]

def gatherColumn (samples : List α) (rowLength rows : Nat) (gathered : List α) (column : Nat) :
    Option (List α) :=
  (List.range rows).foldlM
    (fun gathered row => gatherSample samples gathered (row * rowLength + column)) gathered

def gatherColumns (samples : List α) (rowLength rows : Nat) : Option (List α) :=
  (List.range rowLength).foldlM (gatherColumn samples rowLength rows) []

def transposeLookUp (samples : List α) (rowLength : Nat) : Option (Except RaggedRows (List α)) :=
  if rowLength ≠ 0 ∧ samples.length % rowLength = 0 then
    (gatherColumns samples rowLength (samples.length / rowLength)).map .ok
  else
    some (.error ⟨rowLength, samples.length⟩)

/-- The places the loops come to, in their order. -/
def columnPlaces (rowLength rows : Nat) : List Nat :=
  (List.range rowLength).flatMap fun column =>
    (List.range rows).map fun row => row * rowLength + column

theorem gatherColumns_places (samples : List α) (rowLength rows : Nat) :
    gatherColumns samples rowLength rows =
      (columnPlaces rowLength rows).foldlM (gatherSample samples) [] := by
  rw [gatherColumns, columnPlaces]
  generalize List.range rowLength = columns
  generalize ([] : List α) = gathered
  induction columns generalizing gathered with
  | nil => rfl
  | cons column rest ih =>
      rw [List.foldlM_cons, List.flatMap_cons, List.foldlM_append, List.foldlM_map]
      exact bind_congr ih

theorem flatMap_map_perm {β γ : Type} (f : α → β → γ) (outer : List α) (inner : List β) :
    (outer.flatMap fun first => inner.map (f first)).Perm
      (inner.flatMap fun second => outer.map (f · second)) := by
  induction outer with
  | nil => simp
  | cons first rest ih =>
      rw [List.flatMap_cons]
      exact (ih.append_left _).trans (List.map_append_flatMap_perm inner (f first) _)

theorem columnPlaces_perm (rowLength rows : Nat) :
    (columnPlaces rowLength rows).Perm (List.range (rows * rowLength)) := by
  rw [range_mul]
  exact flatMap_map_perm (fun column row => row * rowLength + column) _ _

theorem columnPlaces_of_dvd {count : Nat} (hdvd : rowLength ∣ count) :
    (columnPlaces rowLength (count / rowLength)).Perm (List.range count) := by
  have hplaces := columnPlaces_perm rowLength (count / rowLength)
  rwa [Nat.div_mul_cancel hdvd] at hplaces

theorem transpose_columnPlaces (hdvd : rowLength ∣ samples.length) :
    transpose samples rowLength hdvd =
      (columnPlaces rowLength (samples.length / rowLength)).filterMap fun place =>
        samples[place]? := by
  rw [transpose_pixels hdvd, columnPlaces, List.filterMap_flatMap, planes]
  apply List.flatMap_congr
  intro column _
  rw [List.filterMap_map]
  rfl

theorem transpose_perm (hdvd : rowLength ∣ samples.length) :
    (transpose samples rowLength hdvd).Perm samples := by
  have hgathered := (columnPlaces_of_dvd hdvd).filterMap fun place => samples[place]?
  rw [← transpose_columnPlaces hdvd] at hgathered
  exact hgathered.trans (.of_eq (gather_id samples))

theorem foldlM_gatherSample {places : List Nat} (hplaces : ∀ place ∈ places, place < samples.length)
    (gathered : List α) :
    places.foldlM (gatherSample samples) gathered =
      some (gathered ++ places.filterMap fun place => samples[place]?) := by
  induction places generalizing gathered with
  | nil => simp
  | cons place rest ih =>
      obtain ⟨hplace, hrest⟩ := List.forall_mem_cons.mp hplaces
      have hsample : samples[place]? = some samples[place] := List.getElem?_eq_getElem hplace
      have hstep : gatherSample samples gathered place = some (gathered ++ [samples[place]]) := by
        rw [gatherSample, hsample]
        rfl
      rw [List.foldlM_cons, hstep, List.filterMap_cons_some hsample]
      exact (ih hrest _).trans (by rw [List.append_assoc, List.singleton_append])

theorem gatherColumns_eq (hdvd : rowLength ∣ samples.length) :
    gatherColumns samples rowLength (samples.length / rowLength) =
      some (transpose samples rowLength hdvd) := by
  have hplaces : ∀ place ∈ columnPlaces rowLength (samples.length / rowLength),
      place < samples.length := by
    intro place hplace
    exact List.mem_range.mp ((columnPlaces_of_dvd hdvd).mem_iff.mp hplace)
  rw [gatherColumns_places, foldlM_gatherSample hplaces, transpose_columnPlaces hdvd]
  rfl

theorem transposeLookUp_eq (samples : List α) (rowLength : Nat) :
    transposeLookUp samples rowLength = some (transposeChecked samples rowLength) := by
  by_cases hwhole : rowLength ≠ 0 ∧ samples.length % rowLength = 0
  · have hdvd := Nat.dvd_of_mod_eq_zero hwhole.2
    rw [transposeLookUp, if_pos hwhole, gatherColumns_eq hdvd,
      transposeChecked_of_dvd hwhole.1 hdvd]
    rfl
  · have hragged : ¬(rowLength ≠ 0 ∧ rowLength ∣ samples.length) := by
      rwa [Nat.dvd_iff_mod_eq_zero]
    rw [transposeLookUp, if_neg hwhole, transposeChecked, dif_neg hragged]

/-- `columns` holds the samples of `samples` column by column, `rowLength` samples being a row. -/
structure Transposition (samples : List α) (rowLength : Nat) (columns : List α) : Prop where
  length : columns.length = samples.length
  perm : columns.Perm samples
  entry : ∀ column < rowLength, ∀ row < samples.length / rowLength, ∃ sample,
    columns[column * (samples.length / rowLength) + row]? = some sample ∧
      samples[row * rowLength + column]? = some sample
  back : samples ≠ [] → transposeChecked columns (samples.length / rowLength) = .ok samples
  same : rowLength = 1 ∨ rowLength = samples.length → columns = samples

theorem transpose_one (hdvd : 1 ∣ samples.length) : transpose samples 1 hdvd = samples := by
  rw [transpose_pixels hdvd, planes_one]

theorem transpose_length (hdvd : samples.length ∣ samples.length) :
    transpose samples samples.length hdvd = samples := by
  apply List.ext_getElem?
  intro index
  by_cases hindex : index < samples.length
  · have hone : samples.length / samples.length = 1 := Nat.div_self (by omega)
    rw [getElem?_transpose hdvd hindex, hone, Nat.mod_one, Nat.zero_mul, Nat.zero_add, Nat.div_one]
  · rw [List.getElem?_eq_none (by simpa using hindex), List.getElem?_eq_none (by omega)]

theorem transposition_of_dvd (hlength : rowLength ≠ 0) (hdvd : rowLength ∣ samples.length) :
    Transposition samples rowLength (transpose samples rowLength hdvd) where
  length := length_transpose samples rowLength hdvd
  perm := transpose_perm hdvd
  entry := by
    intro column hcolumn row hrow
    have hplace := row_place_lt hdvd hrow hcolumn
    have hsample : samples[row * rowLength + column]? = some samples[row * rowLength + column] :=
      List.getElem?_eq_getElem hplace
    exact ⟨_, (getElem?_transpose_column hdvd hrow hcolumn).trans hsample, hsample⟩
  back := by
    intro hsamples
    have hpos : 0 < samples.length := List.length_pos_iff.mpr hsamples
    have hrows : samples.length / rowLength ≠ 0 :=
      Nat.div_ne_zero_iff.mpr ⟨hlength, Nat.le_of_dvd hpos hdvd⟩
    have hback : samples.length / rowLength ∣ (transpose samples rowLength hdvd).length := by
      rw [length_transpose]
      exact Nat.div_dvd_of_dvd hdvd
    rw [transposeChecked_of_dvd hrows hback, transpose_transpose hdvd rfl hback]
  same := by
    rintro (rfl | rfl)
    · exact transpose_one hdvd
    · exact transpose_length hdvd

theorem transposeChecked_eq_error_iff {fault : RaggedRows} :
    transposeChecked samples rowLength = .error fault ↔
      fault = ⟨rowLength, samples.length⟩ ∧ (rowLength = 0 ∨ ¬rowLength ∣ samples.length) := by
  by_cases hwhole : rowLength ≠ 0 ∧ rowLength ∣ samples.length
  · rw [transposeChecked_of_dvd hwhole.1 hwhole.2]
    exact iff_of_false (by simp) fun h => h.2.elim hwhole.1 (absurd hwhole.2)
  · rw [transposeChecked, dif_neg hwhole, Except.error.injEq, eq_comm, iff_self_and]
    intro _
    rwa [← not_ne_iff, ← not_and_or]

/-- Rows of no sample and ragged rows are all that is refused.  Of any others every sample is looked
up once, and none behind the last one. -/
theorem transposed_in_columns (samples : List α) (rowLength : Nat) :
    transposeLookUp samples rowLength = some (transposeChecked samples rowLength) ∧
      (∀ fault, transposeChecked samples rowLength = .error fault ↔
        fault = ⟨rowLength, samples.length⟩ ∧ (rowLength = 0 ∨ ¬rowLength ∣ samples.length)) ∧
      (rowLength ≠ 0 → rowLength ∣ samples.length →
        gatherColumns samples rowLength (samples.length / rowLength) =
            (columnPlaces rowLength (samples.length / rowLength)).foldlM
              (gatherSample samples) [] ∧
          (columnPlaces rowLength (samples.length / rowLength)).Perm
            (List.range samples.length) ∧
          ∃ columns, transposeChecked samples rowLength = .ok columns ∧
            Transposition samples rowLength columns) := by
  refine ⟨transposeLookUp_eq samples rowLength, fun _ => transposeChecked_eq_error_iff, ?_⟩
  intro hlength hdvd
  exact ⟨gatherColumns_places samples rowLength _, columnPlaces_of_dvd hdvd,
    _, transposeChecked_of_dvd hlength hdvd, transposition_of_dvd hlength hdvd⟩

theorem transposed_in_columns_two_rows :
    (∃ columns, transposeChecked [1, 2, 3, 4, 5, 6] 3 = .ok columns ∧
      Transposition [1, 2, 3, 4, 5, 6] 3 columns) ∧
      columnPlaces 3 2 = [0, 3, 1, 4, 2, 5] ∧
      transposeLookUp [1, 2, 3, 4, 5, 6] 3 = some (.ok [1, 4, 2, 5, 3, 6]) :=
  ⟨((transposed_in_columns [1, 2, 3, 4, 5, 6] 3).2.2 (by decide) (by decide)).2.2,
    by decide, by decide⟩

end JpegLs
