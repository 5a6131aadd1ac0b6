import Mathlib.Data.List.TakeWhile
import PageContent.Text.Font
import PageContent.Text.Utf16

namespace PageContent

namespace Utf16

variable {u : UInt16}

theorem isHigh_iff : isHigh u = true ↔ 0xD800 ≤ u.toNat ∧ u.toNat < 0xDC00 := by
  simp [isHigh, UInt16.le_iff_toNat_le, UInt16.lt_iff_toNat_lt]

theorem isLow_iff : isLow u = true ↔ 0xDC00 ≤ u.toNat ∧ u.toNat < 0xE000 := by
  simp [isLow, UInt16.le_iff_toNat_le, UInt16.lt_iff_toNat_lt]

theorem toNat_toUInt16 {n : Nat} (small : n < 0x10000) : n.toUInt16.toNat = n := by
  simpa using small

theorem decode_encodeChar_append (c : Char) (units : List UInt16) :
    decode (encodeChar c ++ units) = c :: decode units := by
  have valid : c.toNat < 0xD800 ∨ 0xDFFF < c.toNat ∧ c.toNat < 0x110000 := c.valid
  rw [encodeChar]
  split
  case isTrue small =>
    have unit := toNat_toUInt16 small
    have notHigh : ¬isHigh c.toNat.toUInt16 := by rw [isHigh_iff, unit]; omega
    have notLow : ¬isLow c.toNat.toUInt16 := by rw [isLow_iff, unit]; omega
    rw [List.singleton_append, decode.eq_def]
    simp only [notHigh, notLow, unit, Char.ofNat_toNat, Bool.false_eq_true, if_false]
  case isFalse large =>
    have high := toNat_toUInt16 (n := 0xD800 + (c.toNat - 0x10000) / 0x400) (by omega)
    have low := toNat_toUInt16 (n := 0xDC00 + (c.toNat - 0x10000) % 0x400) (by omega)
    have isHigh : isHigh (0xD800 + (c.toNat - 0x10000) / 0x400).toUInt16 := by rw [isHigh_iff, high]; omega
    have isLow : isLow (0xDC00 + (c.toNat - 0x10000) % 0x400).toUInt16 := by rw [isLow_iff, low]; omega
    have joined : 0x10000 + (0xD800 + (c.toNat - 0x10000) / 0x400 - 0xD800) * 0x400 +
        (0xDC00 + (c.toNat - 0x10000) % 0x400 - 0xDC00) = c.toNat := by omega
    rw [List.cons_append, List.singleton_append, decode.eq_def]
    simp only [isHigh, isLow, if_true, pair, high, low, joined, Char.ofNat_toNat]

theorem encode_cons (c : Char) (text : List Char) : encode (c :: text) = encodeChar c ++ encode text :=
  List.flatMap_cons

theorem decode_encode (text : List Char) : decode (encode text) = text := by
  induction text with
  | nil => rfl
  | cons c text ih => rw [encode_cons, decode_encodeChar_append, ih]

/-- Units in which every high surrogate is followed by a low one, and no low one stands alone. -/
inductive Paired : List UInt16 → Prop
  | nil : Paired []
  | unit {u units} (notHigh : ¬isHigh u) (notLow : ¬isLow u) (rest : Paired units) : Paired (u :: units)
  | pair {high low units} (isHigh : isHigh high) (isLow : isLow low) (rest : Paired units) :
      Paired (high :: low :: units)

theorem toNat_ofNat {n : Nat} (valid : n.isValidChar) : (Char.ofNat n).toNat = n := by
  rw [Char.ofNat, dif_pos valid]
  rfl

theorem encodeChar_ofNat (notHigh : ¬isHigh u) (notLow : ¬isLow u) : encodeChar (Char.ofNat u.toNat) = [u] := by
  rw [isHigh_iff] at notHigh
  rw [isLow_iff] at notLow
  have small : u.toNat < 0x10000 := u.toNat_lt
  have valid : u.toNat.isValidChar := by
    rw [Nat.isValidChar]
    omega
  have same : u.toNat.toUInt16 = u := UInt16.ofNat_toNat
  rw [encodeChar, toNat_ofNat valid, if_pos small, same]

theorem encodeChar_pair {high low : UInt16} (isHigh : isHigh high) (isLow : isLow low) :
    encodeChar (pair high low) = [high, low] := by
  rw [isHigh_iff] at isHigh
  rw [isLow_iff] at isLow
  let offset := (high.toNat - 0xD800) * 0x400 + (low.toNat - 0xDC00)
  have valid : (0x10000 + offset).isValidChar := by
    rw [Nat.isValidChar]
    omega
  have joined : (pair high low).toNat = 0x10000 + offset := by
    rw [pair, Nat.add_assoc, toNat_ofNat valid]
  have upper : 0xD800 + offset / 0x400 = high.toNat := by omega
  have lower : 0xDC00 + offset % 0x400 = low.toNat := by omega
  have large : ¬0x10000 + offset < 0x10000 := by omega
  simp only [encodeChar, joined, if_neg large, Nat.add_sub_cancel_left, upper, lower, UInt16.ofNat_toNat]

theorem encode_decode {units : List UInt16} (paired : Paired units) : encode (decode units) = units := by
  induction paired with
  | nil => rfl
  | @unit u units notHigh notLow rest ih =>
      have decoded : decode (u :: units) = Char.ofNat u.toNat :: decode units := by
        rw [decode.eq_def]
        simp only [notHigh, notLow, Bool.false_eq_true, if_false]
      rw [decoded, encode_cons, encodeChar_ofNat notHigh notLow]
      exact congrArg (u :: ·) ih
  | @pair high low units isHigh isLow rest ih =>
      have decoded : decode (high :: low :: units) = Utf16.pair high low :: decode units := by
        rw [decode.eq_def]
        simp only [isHigh, isLow, if_true]
      rw [decoded, encode_cons, encodeChar_pair isHigh isLow]
      exact congrArg ([high, low] ++ ·) ih

theorem encodeChar_ne_zero {c : Char} (solid : c ≠ '\x00') : ∀ u ∈ encodeChar c, u ≠ 0 := by
  have positive : c.toNat ≠ 0 := fun zero => solid (by rw [← Char.ofNat_toNat c, zero])
  have valid : c.toNat < 0xD800 ∨ 0xDFFF < c.toNat ∧ c.toNat < 0x110000 := c.valid
  have nonzero : ∀ n, n < 0x10000 → n ≠ 0 → n.toUInt16 ≠ 0 := by
    intro n small positive zero
    exact positive (by rw [← toNat_toUInt16 small, zero]; decide)
  rw [encodeChar]
  split
  case isTrue small =>
    intro u mem
    rw [List.mem_singleton.mp mem]
    exact nonzero _ small positive
  case isFalse large =>
    intro u mem
    rcases List.mem_cons.mp mem with rfl | mem
    · exact nonzero _ (by omega) (by omega)
    · rw [List.mem_singleton.mp mem]
      exact nonzero _ (by omega) (by omega)

theorem body_encode_append (text : List Char) :
    body (encode text ++ [0]) = encode (text.takeWhile (· ≠ '\x00')) := by
  induction text with
  | nil => rfl
  | cons c text ih =>
      rw [encode_cons, List.append_assoc]
      by_cases zero : c = '\x00'
      · subst zero
        rfl
      · have solid : ∀ u ∈ encodeChar c, (u != 0) = true := by
          intro u mem
          simpa using encodeChar_ne_zero zero u mem
        rw [body, List.takeWhile_append_of_pos solid, List.takeWhile_cons_of_pos (by simpa using zero)]
        exact congrArg (encodeChar c ++ ·) ih

theorem ne_zero_of_mem_body {units : List UInt16} : ∀ u ∈ body units, (u != 0) = true :=
  fun _ mem => List.mem_takeWhile_imp (p := (· != 0)) mem

theorem body_body (units : List UInt16) : body (body units) = body units :=
  List.takeWhile_eq_self_iff.mpr ne_zero_of_mem_body

theorem body_append_zero (units rest : List UInt16) : body (body units ++ 0 :: rest) = body units := by
  rw [body, List.takeWhile_append_of_pos ne_zero_of_mem_body]
  exact List.append_nil _

theorem body_terminated (units : List UInt16) : body (terminated units) = body units := body_append_zero units []

def beforeZero (text : String) : String := String.ofList (text.toList.takeWhile (· ≠ '\x00'))

theorem beforeZero_of_solid {text : String} (solid : '\x00' ∉ text.toList) : beforeZero text = text := by
  have all : ∀ c ∈ text.toList, decide (c ≠ '\x00') = true := by
    intro c mem
    exact decide_eq_true fun zero => solid (zero ▸ mem)
  rw [beforeZero, List.takeWhile_eq_self_iff.mpr all, String.ofList_toList]

theorem toText_terminated_ofText (text : String) : toText (terminated (ofText text)) = beforeZero text := by
  rw [toText, body_terminated, ofText, body_encode_append, decode_encode, beforeZero]

theorem terminated_ofText_toText {units : List UInt16} (paired : Paired (body units)) :
    terminated (ofText (toText units)) = terminated units := by
  have spelled : ofText (toText units) = terminated units := by
    rw [ofText, toText, String.toList_ofList, encode_decode paired, terminated]
  rw [spelled, terminated, body_terminated, ← terminated]

theorem decode_eq_nil_iff {units : List UInt16} : decode units = [] ↔ units = [] := by
  fun_cases decode units <;> simp_all

theorem toText_eq_empty_iff {units : List UInt16} : toText units = "" ↔ body units = [] := by
  rw [toText, ← String.toList_inj, String.toList_ofList]
  exact decode_eq_nil_iff

end Utf16

theorem Font.ofName_name (font : Font) :
    Font.ofName font.name = .ok (Font.styled font.family font.bold font.italic) := by
  obtain ⟨family, bold, italic⟩ := font
  cases family <;> cases bold <;> cases italic <;> rfl

theorem RenderMode.ofCode?_code (mode : RenderMode) : RenderMode.ofCode? mode.code = some mode := by
  cases mode <;> rfl

theorem RenderMode.code_of_ofCode? {code : Int} {mode : RenderMode} (coded : RenderMode.ofCode? code = some mode) :
    mode.code = code := by
  unfold RenderMode.ofCode? at coded
  split at coded <;> cases coded <;> rfl

end PageContent
