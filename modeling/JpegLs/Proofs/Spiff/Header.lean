import JpegLs.Spiff.Header

/-!
A SPIFF header is read where the magic number stands and JPEG-LS compression is declared.  A written
one is read back, whatever follows it, and one that has been read is written as it was, but for an
identifier that nobody has looked at.
-/

namespace JpegLs.Spiff.Header

variable {bytes : List UInt8} {header : Header}

theorem isSome_ofBytes?_iff :
    (ofBytes? bytes).isSome ↔
      prefixLength ≤ bytes.length ∧ magic <+: bytes ∧
        bytes[26]? = some Compression.jpegLs.code := by
  by_cases hlong : prefixLength ≤ bytes.length
  · have hend : 26 < bytes.length := Nat.lt_of_lt_of_le (by decide) hlong
    simp [ofBytes?, hlong, hend]
  · simp [ofBytes?, hlong]

theorem of_ofBytes? (h : ofBytes? bytes = some header) :
    ∃ _ : 32 ≤ bytes.length, ∃ horizontal, header = {
      segmentLength := ofBigEndian16 bytes[4] bytes[5]
      majorVersion := bytes[12]
      minorVersion := bytes[13]
      profile := bytes[14]
      components := bytes[15]
      height := ofBigEndian32 bytes[16] bytes[17] bytes[18] bytes[19]
      width := ofBigEndian32 bytes[20] bytes[21] bytes[22] bytes[23]
      colorSpace := bytes[24]
      bits := bytes[25]
      compression := bytes[26]
      units := bytes[27]
      verticalResolution := ofBigEndian32 bytes[28] bytes[29] bytes[30] bytes[31]
      horizontalResolution := horizontal } := by
  by_cases hlong : prefixLength ≤ bytes.length
  · have hend : 31 < bytes.length := hlong
    rw [ofBytes?, dif_pos hlong] at h
    by_cases hread : magic <+: bytes ∧ bytes[26] = Compression.jpegLs.code
    · simp only [if_pos hread] at h
      cases h
      exact ⟨hend, _, rfl⟩
    · simp only [if_neg hread] at h
      cases h
  · rw [ofBytes?, dif_neg hlong] at h
    cases h

theorem magic_isPrefix (header : Header) (rest : List UInt8) : magic <+: header.toBytes ++ rest :=
  ⟨_, rfl⟩

theorem ofBytes?_toBytes_append (rest : List UInt8)
    (hcompression : header.compression = Compression.jpegLs.code) :
    ofBytes? (header.toBytes ++ rest) =
      some { header with horizontalResolution := some header.horizontal } := by
  have hlength : headerLength ≤ (header.toBytes ++ rest).length := by
    rw [List.length_append, length_toBytes]
    exact Nat.le_add_right _ _
  have hread : prefixLength ≤ (header.toBytes ++ rest).length :=
    Nat.le_trans (by decide) hlength
  have hall : 36 ≤ (header.toBytes ++ rest).length := hlength
  rw [ofBytes?, dif_pos hread]
  simp only
  rw [if_pos ⟨magic_isPrefix header rest, hcompression⟩, dif_pos hall]
  simp only [toBytes, magic, identifier, bigEndian16, bigEndian32, List.cons_append,
    List.nil_append, List.getElem_cons_succ, List.getElem_cons_zero, ofBigEndian16_bytes,
    ofBigEndian32_bytes]

theorem take_drop_four {offset : Nat} (hone : offset < bytes.length)
    (htwo : offset + 1 < bytes.length) (hthree : offset + 2 < bytes.length)
    (hfour : offset + 3 < bytes.length) :
    (bytes.drop offset).take 4 =
      [bytes[offset], bytes[offset + 1], bytes[offset + 2], bytes[offset + 3]] := by
  rw [List.drop_eq_getElem_cons hone, List.drop_eq_getElem_cons htwo,
    List.drop_eq_getElem_cons hthree, List.drop_eq_getElem_cons hfour]
  rfl

theorem horizontal_of_ofBytes? (h : ofBytes? bytes = some header) :
    header.horizontalResolution.map bigEndian32 =
      if 36 ≤ bytes.length then some ((bytes.drop 32).take 4) else none := by
  obtain ⟨hlong, hmagic, hcompression⟩ :=
    isSome_ofBytes?_iff.mp (Option.isSome_of_eq_some h)
  have hend : 26 < bytes.length := Nat.lt_of_lt_of_le (by decide) hlong
  have hread : magic <+: bytes ∧ bytes[26] = Compression.jpegLs.code :=
    ⟨hmagic, (List.getElem_eq_iff hend).mpr hcompression⟩
  rw [ofBytes?, dif_pos hlong] at h
  simp only [if_pos hread] at h
  cases h
  by_cases hall : 36 ≤ bytes.length
  · simp only [dif_pos hall, if_pos hall, Option.map_some, bigEndian32_ofBigEndian32]
    rw [take_drop_four]
  · simp only [dif_neg hall, if_neg hall, Option.map_none]

theorem isSome_ofBytes?_take :
    (ofBytes? (bytes.take prefixLength)).isSome ↔ (ofBytes? bytes).isSome := by
  have hlength : prefixLength ≤ (bytes.take prefixLength).length ↔
      prefixLength ≤ bytes.length := by
    rw [List.length_take]
    omega
  have hmagic : magic <+: bytes.take prefixLength ↔ magic <+: bytes := by
    rw [List.prefix_take_iff]
    exact and_iff_left (by decide)
  have hcompression : (bytes.take prefixLength)[26]? = bytes[26]? :=
    List.getElem?_take_of_lt (by decide)
  rw [isSome_ofBytes?_iff, isSome_ofBytes?_iff, hlength, hmagic, hcompression]

/-- A header is known by its first bytes, but for the horizontal resolution. -/
theorem ofBytes?_take (h : ofBytes? bytes = some header) :
    ofBytes? (bytes.take prefixLength) = some { header with horizontalResolution := none } := by
  obtain ⟨first, hfirst⟩ := Option.isSome_iff_exists.mp
    (isSome_ofBytes?_take.mpr (Option.isSome_of_eq_some h))
  have hnone : first.horizontalResolution = none := by
    rw [← Option.map_eq_none_iff, horizontal_of_ofBytes? hfirst, if_neg]
    rw [List.length_take, prefixLength]
    omega
  obtain ⟨hlength, horizontal, rfl⟩ := of_ofBytes? h
  obtain ⟨hshort, absent, rfl⟩ := of_ofBytes? hfirst
  obtain rfl : absent = none := hnone
  rw [hfirst]
  simp only [List.getElem_take]

theorem ofBytes?_toBytes_of_ne (hcompression : header.compression ≠ Compression.jpegLs.code) :
    ofBytes? header.toBytes = none := by
  apply Option.not_isSome_iff_eq_none.mp
  intro hsome
  obtain ⟨-, -, hread⟩ := isSome_ofBytes?_iff.mp hsome
  exact hcompression (Option.some.inj hread)

def identified (bytes : List UInt8) : List UInt8 :=
  bytes.take 6 ++ identifier ++ bytes.drop 12

theorem length_identified (hlong : 12 ≤ bytes.length) :
    (identified bytes).length = bytes.length := by
  have hidentifier : identifier.length = 6 := rfl
  rw [identified, List.length_append, List.length_append, List.length_take, List.length_drop,
    hidentifier]
  omega

theorem take_identified (count : Nat) (hlong : 6 ≤ bytes.length) :
    (identified bytes).take (12 + count) =
      bytes.take 6 ++ identifier ++ (bytes.drop 12).take count := by
  have hlength : (bytes.take 6 ++ identifier).length = 12 := by
    rw [List.length_append, List.length_take, Nat.min_eq_left hlong]
    rfl
  rw [identified, ← hlength, List.take_length_add_append]

theorem take_identified_eq_iff (count : Nat) (hlong : 12 ≤ bytes.length) :
    (identified bytes).take (12 + count) = bytes.take (12 + count) ↔
      (bytes.drop 6).take 6 = identifier := by
  have hsplit : bytes.take (12 + count) =
      bytes.take 6 ++ (bytes.drop 6).take 6 ++ (bytes.drop 12).take count := by
    rw [List.take_add, show 12 = 6 + 6 from rfl, List.take_add]
  rw [take_identified count (Nat.le_trans (by decide) hlong), hsplit, List.append_left_inj,
    List.append_right_inj, eq_comm]

theorem toBytes_of_ofBytes? (h : ofBytes? bytes = some header) :
    header.toBytes = (identified bytes).take prefixLength ++ bigEndian32 header.horizontal := by
  obtain ⟨hlong, hmagic, -⟩ := isSome_ofBytes?_iff.mp (Option.isSome_of_eq_some h)
  obtain ⟨hlength, horizontal, rfl⟩ := of_ofBytes? h
  have hfront : bytes.take 6 = magic ++ [bytes[4], bytes[5]] := by
    have hfour : bytes.take 4 = magic := (List.prefix_iff_eq_take.mp hmagic).symm
    rw [show 6 = 4 + 2 from rfl, List.take_add, hfour, List.drop_eq_getElem_cons (by omega),
      List.drop_eq_getElem_cons (by omega)]
    rfl
  have hfields : (bytes.drop 12).take 20 =
      [bytes[12], bytes[13], bytes[14], bytes[15]] ++
        [bytes[16], bytes[17], bytes[18], bytes[19]] ++
        [bytes[20], bytes[21], bytes[22], bytes[23]] ++
        [bytes[24], bytes[25], bytes[26], bytes[27]] ++
        [bytes[28], bytes[29], bytes[30], bytes[31]] := by
    have hsplit : (bytes.drop 12).take 20 = (bytes.drop 12).take (4 + 4 + 4 + 4 + 4) := rfl
    rw [hsplit, List.take_add, List.take_add, List.take_add, List.take_add]
    simp only [List.drop_drop, Nat.reduceAdd]
    rw [take_drop_four, take_drop_four, take_drop_four, take_drop_four, take_drop_four]
  rw [show prefixLength = 12 + 20 from rfl, take_identified _ (by omega), hfront, hfields]
  simp only [toBytes, bigEndian16_ofBigEndian16, bigEndian32_ofBigEndian32, List.append_assoc]

theorem toBytes_of_long (h : ofBytes? bytes = some header) (hall : 36 ≤ bytes.length) :
    header.toBytes = (identified bytes).take headerLength := by
  have hlong : 6 ≤ bytes.length := Nat.le_trans (by decide) hall
  have hlast : bigEndian32 header.horizontal = (bytes.drop 32).take 4 := by
    have hread := horizontal_of_ofBytes? h
    rw [if_pos hall] at hread
    obtain ⟨resolution, hresolution, hbytes⟩ := Option.map_eq_some_iff.mp hread
    rw [horizontal, hresolution, Option.getD_some, hbytes]
  rw [toBytes_of_ofBytes? h, hlast, show prefixLength = 12 + 20 from rfl,
    show headerLength = 12 + (20 + 4) from rfl, take_identified _ hlong, take_identified _ hlong,
    List.take_add, List.drop_drop, List.append_assoc]

theorem toBytes_of_short (h : ofBytes? bytes = some header) (hshort : bytes.length < 36) :
    header.toBytes =
      (identified bytes).take prefixLength ++ bigEndian32 header.verticalResolution := by
  have hnone : header.horizontalResolution = none := by
    rw [← Option.map_eq_none_iff, horizontal_of_ofBytes? h, if_neg (Nat.not_le.mpr hshort)]
  rw [toBytes_of_ofBytes? h, horizontal, hnone, Option.getD_none]

/-- A header that declares JPEG-LS is read back from its bytes, and from the first of them but for
the horizontal resolution; one that does not is never read.  What has been read is written as the
bytes it was read from, with the identifier in its place; where they end before the horizontal
resolution, the vertical one stands in for it. -/
theorem toBytes_inverse :
    (∀ header : Header,
      (header.compression = 6 →
        ofBytes? header.toBytes = some { header with
          horizontalResolution :=
            some (header.horizontalResolution.getD header.verticalResolution) } ∧
        ofBytes? (header.toBytes.take 32) = some { header with horizontalResolution := none }) ∧
      (header.compression ≠ 6 →
        ofBytes? header.toBytes = none ∧ ofBytes? (header.toBytes.take 32) = none)) ∧
    ∀ (bytes : List UInt8) (header : Header), ofBytes? bytes = some header →
      (36 ≤ bytes.length →
        header.toBytes = (identified bytes).take 36 ∧
        (header.toBytes = bytes.take 36 ↔ (bytes.drop 6).take 6 = identifier)) ∧
      (bytes.length < 36 →
        32 ≤ bytes.length ∧
        header.toBytes = (identified bytes).take 32 ++ bigEndian32 header.verticalResolution ∧
        (header.toBytes.take 32 = bytes.take 32 ↔ (bytes.drop 6).take 6 = identifier)) := by
  constructor
  · intro header
    constructor
    · intro hcompression
      have hread := ofBytes?_toBytes_append [] hcompression
      rw [List.append_nil] at hread
      have hfirst := ofBytes?_take hread
      exact ⟨hread, hfirst⟩
    · intro hcompression
      have hnone := ofBytes?_toBytes_of_ne hcompression
      refine ⟨hnone, Option.not_isSome_iff_eq_none.mp ?_⟩
      rw [← prefixLength, isSome_ofBytes?_take, hnone]
      simp
  · intro bytes header h
    obtain ⟨hlong, -⟩ := isSome_ofBytes?_iff.mp (Option.isSome_of_eq_some h)
    have hfields : 12 ≤ bytes.length := Nat.le_trans (by decide) hlong
    constructor
    · intro hall
      have hbytes := toBytes_of_long h hall
      exact ⟨hbytes, hbytes ▸ take_identified_eq_iff 24 hfields⟩
    · intro hshort
      have hbytes : header.toBytes =
          (identified bytes).take 32 ++ bigEndian32 header.verticalResolution :=
        toBytes_of_short h hshort
      have hlength : ((identified bytes).take 32).length = 32 := by
        rw [List.length_take, length_identified hfields]
        exact Nat.min_eq_left hlong
      refine ⟨hlong, hbytes, ?_⟩
      rw [hbytes, List.take_left' hlength]
      exact take_identified_eq_iff 20 hfields

theorem toBytes_inverse_unidentified :
    let bytes : List UInt8 := [0xFF, 0xD8, 0xFF, 0xE8, 0, 32, 0, 0, 0, 0, 0, 0, 2, 0, 0, 1,
      0, 0, 0, 2, 0, 0, 0, 3, 8, 12, 6, 1, 0, 0, 0, 72, 9]
    let header : Header := ⟨32, 2, 0, 0, 1, 2, 3, 8, 12, 6, 1, 72, none⟩
    ofBytes? bytes = some header ∧ header.compression = 6 ∧
      header.toBytes = (identified bytes).take 32 ++ bigEndian32 header.verticalResolution ∧
      header.toBytes.take 32 ≠ bytes.take 32 ∧
      ofBytes? header.toBytes = some { header with horizontalResolution := some 72 } := by
  intro bytes header
  have hread : ofBytes? bytes = some header := by decide
  obtain ⟨hwritten, hreread⟩ := toBytes_inverse
  obtain ⟨-, hbytes, hidentified⟩ := (hreread bytes header hread).2 (by decide)
  exact ⟨hread, rfl, hbytes, mt hidentified.mp (by decide), ((hwritten header).1 rfl).1⟩

end JpegLs.Spiff.Header
