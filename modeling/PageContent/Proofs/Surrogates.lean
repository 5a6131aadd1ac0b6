import PageContent.Proofs.Spelling

namespace PageContent.Utf16

variable {units : List UInt16} {u v : UInt16}

/-- A high surrogate that no low one follows, or a low one that no high one precedes. -/
def isLone (units : List UInt16) (i : Nat) : Bool :=
  units[i]?.any isHigh && !units[i + 1]?.any isLow ||
    units[i]?.any isLow && !(0 < i && units[i - 1]?.any isHigh)

/-- The units with the replacement character in the place of each lone surrogate. -/
def mended (units : List UInt16) : List UInt16 := units.mapIdx fun i u => if isLone units i then 0xFFFD else u

theorem not_isHigh_of_isLow (low : isLow u) : ¬isHigh u := by
  rw [isLow_iff] at low
  rw [isHigh_iff]
  omega

theorem isLone_cons_add_two (i : Nat) : isLone (u :: units) (i + 2) = isLone units (i + 1) := by simp [isLone]

theorem isLone_cons_succ (apart : ¬(isHigh u ∧ units[0]?.any isLow)) (i : Nat) :
    isLone (u :: units) (i + 1) = isLone units i := by
  cases i with
  | succ i => exact isLone_cons_add_two i
  | zero =>
      by_cases low : units[0]?.any isLow = true
      · have notHigh : isHigh u = false := by simpa [low] using apart
        simp [isLone, notHigh]
      · simp [isLone, low]

theorem mended_cons (apart : ¬(isHigh u ∧ units[0]?.any isLow)) :
    mended (u :: units) = (if isLone (u :: units) 0 then 0xFFFD else u) :: mended units := by
  simp only [mended, List.mapIdx_cons, isLone_cons_succ apart]

theorem mended_pair (high : isHigh u) (low : isLow v) : mended (u :: v :: units) = u :: v :: mended units := by
  have notHigh : ¬isHigh v := not_isHigh_of_isLow low
  have notLow : ¬isLow u := fun low => not_isHigh_of_isLow low high
  have first : ¬isLone (u :: v :: units) 0 := by simp [isLone, low, notLow]
  have second : ¬isLone (u :: v :: units) (0 + 1) := by simp [isLone, high, notHigh]
  have rest : ∀ i, isLone (u :: v :: units) (i + 1 + 1) = isLone units i := by
    intro i
    rw [isLone_cons_add_two, isLone_cons_succ fun pair => notHigh pair.1]
  simp only [mended, List.mapIdx_cons, first, second, rest]
  rfl

theorem encode_replacement_cons (text : List Char) : encode (replacement :: text) = 0xFFFD :: encode text :=
  encode_cons ..

theorem encode_decode_eq_mended (units : List UInt16) : encode (decode units) = mended units := by
  fun_induction decode units with
  | case1 => rfl
  | case2 u high =>
      rw [encode_replacement_cons]
      simp [mended, isLone, high, encode]
  | case3 u high v units low ih =>
      rw [encode_cons, encodeChar_pair high low, ih, mended_pair high low]
      rfl
  | case4 u high v units notLow ih =>
      have apart : ¬(isHigh u ∧ (v :: units)[0]?.any isLow) := by simp [notLow]
      have lone : isLone (u :: v :: units) 0 := by simp [isLone, high, notLow]
      rw [encode_replacement_cons, ih, mended_cons apart, if_pos lone]
  | case5 u units notHigh low ih =>
      have lone : isLone (u :: units) 0 := by simp [isLone, low]
      rw [encode_replacement_cons, ih, mended_cons (by simp [notHigh]), if_pos lone]
  | case6 u units notHigh notLow ih =>
      have paired : ¬isLone (u :: units) 0 := by simp [isLone, notHigh, notLow]
      rw [encode_cons, encodeChar_ofNat notHigh notLow, ih, mended_cons (by simp [notHigh]), if_neg paired]
      rfl

theorem mended_eq_self_iff : mended units = units ↔ ∀ i, isLone units i = false := by
  rw [mended, List.mapIdx_eq_iff]
  refine forall_congr' fun i => ?_
  constructor
  · intro same
    by_contra lone
    rw [Bool.not_eq_false] at lone
    cases found : units[i]? with
    | none => simp [isLone, found] at lone
    | some u =>
        simp only [found, Option.map_some, lone, if_true, Option.some.injEq] at same
        have outside : isHigh u = false ∧ isLow u = false := by rw [same]; decide
        simp [isLone, found, outside] at lone
  · intro paired
    simp [paired]

theorem zero_mem_of_zero_mem_decode (zero : '\x00' ∈ decode units) : 0 ∈ units := by
  have encoded : 0 ∈ encode (decode units) := List.mem_flatMap.mpr ⟨'\x00', zero, by decide⟩
  rw [encode_decode_eq_mended, mended] at encoded
  obtain ⟨i, inside, same⟩ := List.mem_mapIdx.mp encoded
  split at same
  · cases same
  · exact same ▸ List.getElem_mem inside

theorem prefix_beforeZero_iff {text : String} {cs : List Char} :
    cs <+: (beforeZero text).toList ↔ cs <+: text.toList ∧ '\x00' ∉ cs := by
  rw [beforeZero, String.toList_ofList]
  constructor
  · intro before
    refine ⟨before.trans (List.takeWhile_prefix _), fun zero => ?_⟩
    simpa using List.mem_takeWhile_imp (before.mem zero)
  · rintro ⟨⟨rest, whole⟩, solid⟩
    have all : ∀ c ∈ cs, decide (c ≠ '\x00') = true := fun c mem => decide_eq_true fun zero => solid (zero ▸ mem)
    rw [← whole, List.takeWhile_append_of_pos all]
    exact List.prefix_append ..

/-- A text is read back up to its first zero from the units it is written with, and from what is stored of them. Of
any units only those before the first zero are read, and to write again what was read gives these units back, with
the replacement character in the place of each lone surrogate. -/
theorem texts_and_units_translate :
    (∀ text : String, (ofText text).getLast? = some 0 ∧
      (∀ cs, cs <+: (toText (ofText text)).toList ↔ cs <+: text.toList ∧ '\x00' ∉ cs) ∧
      toText (terminated (ofText text)) = toText (ofText text)) ∧
    ∀ units rest : List UInt16,
      toText (body units) = toText units ∧ toText (body units ++ 0 :: rest) = toText units ∧
      '\x00' ∉ (toText units).toList ∧
      (ofText (toText units) = body units ++ [0] ↔ ∀ i, isLone (body units) i = false) ∧
      ofText (toText units) = (body units).mapIdx (fun i u => if isLone (body units) i then 0xFFFD else u) ++ [0] := by
  refine ⟨fun text => ?_, fun units rest => ?_⟩
  · have read : toText (ofText text) = beforeZero text := by
      rw [toText, ofText, body_encode_append, decode_encode, beforeZero]
    refine ⟨by simp [ofText], fun cs => ?_, ?_⟩
    · rw [read, prefix_beforeZero_iff]
    · rw [read, toText_terminated_ofText]
  · have written : ofText (toText units) = mended (body units) ++ [0] := by
      rw [ofText, toText, String.toList_ofList, encode_decode_eq_mended]
    refine ⟨?_, ?_, fun zero => ?_, ?_, written⟩
    · rw [toText, body_body, toText]
    · rw [toText, body_append_zero, toText]
    · rw [toText, String.toList_ofList] at zero
      exact absurd (ne_zero_of_mem_body 0 (zero_mem_of_zero_mem_decode zero)) (by decide)
    · rw [written, List.append_left_inj, mended_eq_self_iff]

/-- A high surrogate loses its partner where the text is cut between them. -/
example : toText [0xD834, 0, 0xDD1E, 0] = "\uFFFD" := by decide

end PageContent.Utf16
