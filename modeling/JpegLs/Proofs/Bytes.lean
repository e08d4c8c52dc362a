import JpegLs.Bytes

namespace JpegLs

theorem getElem?_unpackWords (bytes : List UInt8) (index : Nat) :
    (unpackWords bytes)[index]? =
      if h : 2 * index + 1 < bytes.length then
        some (ofBigEndian16 bytes[2 * index + 1] bytes[2 * index])
      else none := by
  rw [unpackWords, List.getElem?_ofFn]
  by_cases h : 2 * index + 1 < bytes.length
  · rw [dif_pos h, dif_pos (by omega)]
    simp
  · rw [dif_neg h, dif_neg (by omega)]

theorem unpackWords_cons (low high : UInt8) (rest : List UInt8) :
    unpackWords (low :: high :: rest) = ofBigEndian16 high low :: unpackWords rest := by
  apply List.ext_getElem?
  intro index
  rw [getElem?_unpackWords]
  cases index with
  | zero => simp
  | succ index =>
      rw [List.getElem?_cons_succ, getElem?_unpackWords]
      by_cases h : 2 * index + 1 < rest.length
      · rw [dif_pos h, dif_pos (by simp only [List.length_cons]; omega)]
        rfl
      · rw [dif_neg h, dif_neg (by simp only [List.length_cons]; omega)]

theorem unpackWords_packWords (words : List UInt16) : unpackWords (packWords words) = words := by
  induction words with
  | nil => rfl
  | cons word rest ih =>
      have hpack : packWords (word :: rest) =
          UInt8.ofNat word.toNat :: UInt8.ofNat (word.toNat / 256) :: packWords rest := rfl
      rw [hpack, unpackWords_cons, ofBigEndian16_bytes, ih]

theorem drop_packWords (words : List UInt16) (count : Nat) :
    (packWords words).drop (2 * count) = packWords (words.drop count) := by
  induction count generalizing words with
  | zero => rfl
  | succ count ih =>
      cases words with
      | nil => rfl
      | cons word rest => exact ih rest

theorem take_packWords {words : List UInt16} {index : Nat} {word : UInt16}
    (hword : words[index]? = some word) :
    ((packWords words).drop (2 * index)).take 2 = littleEndian16 word := by
  obtain ⟨hindex, rfl⟩ := List.getElem?_eq_some_iff.mp hword
  rw [drop_packWords, List.drop_eq_getElem_cons hindex]
  rfl

theorem littleEndian16_ofBigEndian16 (high low : UInt8) :
    littleEndian16 (ofBigEndian16 high low) = [low, high] := by
  have hhigh := high.toNat_lt
  have hlow := low.toNat_lt
  simp only [littleEndian16, toNat_ofBigEndian16, List.cons.injEq, and_true,
    ← UInt8.toNat_inj, UInt8.toNat_ofNat']
  omega

theorem packWords_unpackWords : (bytes : List UInt8) → 2 ∣ bytes.length →
    packWords (unpackWords bytes) = bytes
  | [], _ => rfl
  | [_], heven => by
      rw [List.length_singleton] at heven
      omega
  | low :: high :: rest, heven => by
      have hrest : 2 ∣ rest.length := by
        simp only [List.length_cons] at heven
        omega
      have hpack : packWords (ofBigEndian16 high low :: unpackWords rest) =
          littleEndian16 (ofBigEndian16 high low) ++ packWords (unpackWords rest) := rfl
      rw [unpackWords_cons, hpack, littleEndian16_ofBigEndian16,
        packWords_unpackWords rest hrest]
      rfl

theorem unpackWords_take (bytes : List UInt8) :
    unpackWords (bytes.take (2 * (bytes.length / 2))) = unpackWords bytes := by
  apply List.ext_getElem?
  intro index
  rw [getElem?_unpackWords, getElem?_unpackWords]
  by_cases h : 2 * index + 1 < bytes.length
  · rw [dif_pos h, dif_pos (by rw [List.length_take]; omega)]
    simp
  · rw [dif_neg h, dif_neg (by rw [List.length_take]; omega)]

end JpegLs
