import JpegLs.Command.FileStore
import JpegLs.Proofs.Text.Split

/-!
Writing to a tree of files.  Where a path leads to is told by the directories, and no write makes
or removes one, so that a place that has been written to can be written to again.
-/

namespace JpegLs.Command.FileStore

variable {store after : FileStore} {path : String} {bytes : List UInt8}

theorem isDirectory_insert {entry names : List String} :
    (store.insert entry bytes).IsDirectory names ↔ store.IsDirectory names :=
  Iff.rfl

theorem walk_insert {entry directory names : List String} {place : Place}
    (hwalk : store.walk directory names = .ok place) :
    (store.insert entry bytes).walk directory names = .ok place := by
  fun_induction store.walk directory names with
  | case1 => exact hwalk
  | case2 directory name rest hstay ih =>
      rw [walk, if_pos hstay]
      exact ih hwalk
  | case3 directory rest hstay ih =>
      rw [walk, if_neg hstay, if_pos rfl]
      exact ih hwalk
  | case4 directory name rest hstay hup _ hdown ih =>
      rw [walk, if_neg hstay, if_neg hup]
      exact (if_pos (isDirectory_insert.mpr hdown)).trans (ih hwalk)
  | case5 directory name rest hstay hup _ hdown hlast =>
      rw [walk, if_neg hstay, if_neg hup]
      exact (if_neg (mt isDirectory_insert.mp hdown)).trans ((if_pos hlast).trans hwalk)
  -- What is in the way of a path is a file or nothing, and either is a fault.
  | case6 => cases hwalk
  | case7 => cases hwalk

theorem place_insert {entry : List String} {place : Place} (hplace : store.place path = .ok place) :
    (store.insert entry bytes).place path = .ok place :=
  walk_insert hplace

theorem write_eq_ok_iff :
    store.write path bytes = .ok after ↔
      ∃ entry, store.place path = .ok (.entry entry false) ∧ store.insert entry bytes = after := by
  unfold write
  rcases store.place path with fault | (_ | ⟨entry, slash⟩)
  · simp
  · simp
  · cases slash with
    | false => simp
    | true => simp

theorem write_again (hwrite : store.write path bytes = .ok after) (later : List UInt8) :
    ∃ last, after.write path later = .ok last := by
  obtain ⟨entry, hplace, rfl⟩ := write_eq_ok_iff.mp hwrite
  exact ⟨_, write_eq_ok_iff.mpr ⟨entry, place_insert hplace, rfl⟩⟩

theorem read_of_place {entry : List String} (hplace : store.place path = .ok (.entry entry false))
    (hfound : store.find? entry = some bytes) : store.read path = .ok bytes := by
  have hopened : store.openPlace path = .ok (.entry entry false) := by
    simp [openPlace, hplace, hfound]
  simp only [read, hopened, hfound]

theorem read_of_write (hwrite : store.write path bytes = .ok after) :
    after.read path = .ok bytes := by
  obtain ⟨entry, hplace, rfl⟩ := write_eq_ok_iff.mp hwrite
  exact read_of_place (place_insert hplace) (store.find?_insert_self entry bytes)

def Writable (store : FileStore) (path : String) : Prop :=
  ∃ entry, store.place path = .ok (.entry entry false)

theorem start_of_name {name : String} (hname : '/' ∉ name.toList) : start name = ([], [name]) := by
  have hsplit : name.splitOn "/" = [name] := splitOn_of_not_mem hname
  simp [start, hsplit]

theorem place_of_name {name : String} (hname : '/' ∉ name.toList)
    (hplain : name ≠ "" ∧ name ≠ "." ∧ name ≠ "..") (hfile : [name] ∉ store.directories) :
    store.place name = .ok (.entry [name] false) := by
  have hdirectory : ¬store.IsDirectory [name] := by
    simp [IsDirectory, hplain.2.2, hfile]
  simp [place, start_of_name hname, walk, hplain, hdirectory]

theorem Writable.exists_write (hwritable : store.Writable path) (bytes : List UInt8) :
    ∃ after, store.write path bytes = .ok after := by
  obtain ⟨entry, hplace⟩ := hwritable
  exact ⟨_, write_eq_ok_iff.mpr ⟨entry, hplace, rfl⟩⟩

theorem Writable.of_write {other : String} (hwritable : store.Writable other)
    (hwrite : store.write path bytes = .ok after) : after.Writable other := by
  obtain ⟨entry, hplace⟩ := hwritable
  obtain ⟨written, -, rfl⟩ := write_eq_ok_iff.mp hwrite
  exact ⟨entry, place_insert hplace⟩

end JpegLs.Command.FileStore
