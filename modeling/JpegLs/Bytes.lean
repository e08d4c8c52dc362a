/-!
Fixed-width numbers as bytes.  Container fields carry their most significant byte first, samples
handed to a codec their least significant byte first.  Each reader undoes its writer.
-/

namespace JpegLs

def bigEndian16 (n : UInt16) : List UInt8 :=
  [UInt8.ofNat (n.toNat / 256), UInt8.ofNat n.toNat]

def bigEndian32 (n : UInt32) : List UInt8 :=
  [UInt8.ofNat (n.toNat / 16777216), UInt8.ofNat (n.toNat / 65536),
    UInt8.ofNat (n.toNat / 256), UInt8.ofNat n.toNat]

def ofBigEndian16 (high low : UInt8) : UInt16 :=
  UInt16.ofNat (high.toNat * 256 + low.toNat)

def ofBigEndian32 (first second third fourth : UInt8) : UInt32 :=
  UInt32.ofNat
    (((first.toNat * 256 + second.toNat) * 256 + third.toNat) * 256 + fourth.toNat)

@[simp] theorem length_bigEndian16 (n : UInt16) : (bigEndian16 n).length = 2 := rfl

@[simp] theorem length_bigEndian32 (n : UInt32) : (bigEndian32 n).length = 4 := rfl

@[simp] theorem toNat_ofBigEndian16 (high low : UInt8) :
    (ofBigEndian16 high low).toNat = high.toNat * 256 + low.toNat := by
  have hhigh := high.toNat_lt
  have hlow := low.toNat_lt
  simp only [ofBigEndian16, UInt16.toNat_ofNat']
  omega

@[simp] theorem toNat_ofBigEndian32 (first second third fourth : UInt8) :
    (ofBigEndian32 first second third fourth).toNat =
      ((first.toNat * 256 + second.toNat) * 256 + third.toNat) * 256 + fourth.toNat := by
  have hfirst := first.toNat_lt
  have hsecond := second.toNat_lt
  have hthird := third.toNat_lt
  have hfourth := fourth.toNat_lt
  simp only [ofBigEndian32, UInt32.toNat_ofNat']
  omega

theorem ofBigEndian16_bytes (n : UInt16) :
    ofBigEndian16 (UInt8.ofNat (n.toNat / 256)) (UInt8.ofNat n.toNat) = n := by
  apply UInt16.toNat.inj
  have hn := n.toNat_lt
  simp only [toNat_ofBigEndian16, UInt8.toNat_ofNat']
  omega

theorem ofBigEndian32_bytes (n : UInt32) :
    ofBigEndian32 (UInt8.ofNat (n.toNat / 16777216)) (UInt8.ofNat (n.toNat / 65536))
      (UInt8.ofNat (n.toNat / 256)) (UInt8.ofNat n.toNat) = n := by
  apply UInt32.toNat.inj
  have hn := n.toNat_lt
  simp only [toNat_ofBigEndian32, UInt8.toNat_ofNat']
  omega

theorem bigEndian16_ofBigEndian16 (high low : UInt8) :
    bigEndian16 (ofBigEndian16 high low) = [high, low] := by
  have hhigh := high.toNat_lt
  have hlow := low.toNat_lt
  simp only [bigEndian16, toNat_ofBigEndian16, List.cons.injEq, and_true,
    ← UInt8.toNat_inj, UInt8.toNat_ofNat']
  omega

theorem bigEndian32_ofBigEndian32 (first second third fourth : UInt8) :
    bigEndian32 (ofBigEndian32 first second third fourth) = [first, second, third, fourth] := by
  have hfirst := first.toNat_lt
  have hsecond := second.toNat_lt
  have hthird := third.toNat_lt
  have hfourth := fourth.toNat_lt
  simp only [bigEndian32, toNat_ofBigEndian32, List.cons.injEq, and_true,
    ← UInt8.toNat_inj, UInt8.toNat_ofNat']
  omega

def littleEndian16 (n : UInt16) : List UInt8 :=
  [UInt8.ofNat n.toNat, UInt8.ofNat (n.toNat / 256)]

def packWords (words : List UInt16) : List UInt8 :=
  words.flatMap littleEndian16

/-- Whole words only: an odd last byte belongs to none and is dropped. -/
def unpackWords (bytes : List UInt8) : List UInt16 :=
  let stored := bytes.toArray
  List.ofFn fun word : Fin (bytes.length / 2) =>
    have : 2 * word.val + 1 < stored.size := by
      simp only [stored, List.size_toArray]
      omega
    ofBigEndian16 stored[2 * word.val + 1] stored[2 * word.val]

@[simp] theorem length_packWords (words : List UInt16) :
    (packWords words).length = 2 * words.length := by
  induction words with
  | nil => rfl
  | cons word rest ih =>
      simp only [packWords, List.flatMap_cons, List.length_append, List.length_cons] at ih ⊢
      rw [ih]
      simp only [littleEndian16, List.length_cons, List.length_nil]
      omega

@[simp] theorem length_unpackWords (bytes : List UInt8) :
    (unpackWords bytes).length = bytes.length / 2 := by
  simp [unpackWords]

end JpegLs
