import Mathlib.Data.String.Basic

/-!
Splitting a text at a character.  The text is split by positions in it; what comes out is told by
its characters alone.
-/

open String

namespace JpegLs

/-- The rest of a text, behind the parts found and the one being read. -/
theorem splitOnAux_eq (c : Char) (before part rest : List Char) (parts : List String) :
    splitOnAux (ofList (before ++ part ++ rest)) (singleton c) ⟨utf8Len before⟩
        ⟨utf8Len before + utf8Len part⟩ 0 parts =
      parts.reverse ++ (List.splitOnPPrepend (· == c) rest part.reverse).map ofList := by
  have hfirst : Pos.Raw.get (singleton c) 0 = c := by
    simpa using get_of_valid [] [c]
  have hbehind : Pos.Raw.next (singleton c) 0 = ⟨c.utf8Size⟩ := by
    simpa using next_of_valid [] c []
  have hwhole : Pos.Raw.atEnd (singleton c) ⟨c.utf8Size⟩ = true := by
    rw [atEnd_iff, singleton_eq_ofList, rawEndPos_ofList]
    simp
  induction rest generalizing before part parts with
  | nil =>
      have hend : Pos.Raw.atEnd (ofList (before ++ part ++ [])) ⟨utf8Len before + utf8Len part⟩ =
          true := by
        rw [atEnd_iff, rawEndPos_ofList, List.append_nil, utf8Len_append]
        exact Nat.le_refl _
      rw [splitOnAux, if_pos hend]
      simpa using extract_of_valid before part []
  | cons d rest ih =>
      have hend : ¬Pos.Raw.atEnd (ofList (before ++ part ++ d :: rest))
          ⟨utf8Len before + utf8Len part⟩ = true := by
        have hpositive : 0 < d.utf8Size := d.utf8Size_pos
        rw [atEnd_iff, rawEndPos_ofList]
        simp only [utf8Len_append, utf8Len_cons, Pos.Raw.mk_le_mk]
        omega
      have hget := get_of_valid (before ++ part) (d :: rest)
      have hnext := next_of_valid (before ++ part) d rest
      rw [utf8Len_append] at hget hnext
      rw [splitOnAux, if_neg hend, hget, hfirst, List.headD_cons,
        List.splitOnPPrepend_cons_eq_if]
      cases hd : d == c with
      | true =>
          obtain rfl : d = c := by simpa using hd
          have hpart := extract_of_valid before part (d :: rest)
          have hback : Pos.Raw.unoffsetBy ⟨utf8Len before + utf8Len part + d.utf8Size⟩
              ⟨d.utf8Size⟩ = ⟨utf8Len before + utf8Len part⟩ :=
            congrArg Pos.Raw.mk (Nat.add_sub_cancel _ _)
          have hrest := ih (before ++ part ++ [d]) [] (ofList part :: parts)
          simp only [if_true, hnext, hbehind, hwhole, hback, hpart]
          simpa [Nat.add_assoc] using hrest
      | false =>
          have hback : Pos.Raw.unoffsetBy ⟨utf8Len before + utf8Len part⟩ 0 =
              ⟨utf8Len before + utf8Len part⟩ := rfl
          have hrest := ih before (part ++ [d]) parts
          simp only [Bool.false_eq_true, if_false, hback, hnext]
          simpa [Nat.add_assoc] using hrest

theorem splitOn_singleton (text : String) (c : Char) :
    text.splitOn (singleton c) = (text.toList.splitOnP (· == c)).map ofList := by
  have hsome : (singleton c == "") = false := by simp
  have hwhole := splitOnAux_eq c [] [] text.toList []
  simp only [List.nil_append, ofList_toList] at hwhole
  rw [splitOn, hsome]
  exact hwhole

theorem splitOn_of_not_mem {text : String} {c : Char} (hc : c ∉ text.toList) :
    text.splitOn (singleton c) = [text] := by
  have hwhole : text.toList.splitOnP (· == c) = [text.toList] := by
    apply List.splitOnP_eq_singleton
    intro d hd
    rw [beq_eq_false_iff_ne]
    rintro rfl
    exact hc hd
  rw [splitOn_singleton, hwhole, List.map_singleton, ofList_toList]

end JpegLs
