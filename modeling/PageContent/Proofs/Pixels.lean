import Mathlib.Data.List.Basic
import PageContent.Bitmap.Basic

namespace PageContent

theorem bind_eq_ok_iff {ε α β : Type} {result : Except ε β} {next : β → Except ε α} {a : α} :
    result >>= next = .ok a ↔ ∃ b, result = .ok b ∧ next b = .ok a := by
  cases result with
  | error e => exact ⟨nofun, fun ⟨b, ended, _⟩ => by cases ended⟩
  | ok b => exact ⟨fun ended => ⟨b, rfl, ended⟩, fun ⟨b', same, ended⟩ => by cases same; exact ended⟩

theorem PixelFormat.ofCode_code (format : PixelFormat) : PixelFormat.ofCode format.code = format := by
  cases format <;> rfl

theorem PixelFormat.code_ofCode {code : Int} (known : PixelFormat.ofCode code ≠ .unknown) :
    (PixelFormat.ofCode code).code = code := by
  revert known
  unfold PixelFormat.ofCode
  split
  case h_4 => exact fun known => absurd rfl known
  all_goals exact fun _ => rfl

theorem Layout.check_eq_ok_iff {buffer : Buffer} {length row stride height : Nat} :
    Layout.check buffer length row stride height = .ok () ↔
      row ≤ stride ∧ ∃ required, Layout.extent? row stride height = some required ∧ required ≤ length := by
  rw [Layout.check]
  by_cases short : stride < row
  · rw [if_pos short]
    exact ⟨nofun, fun fits => absurd fits.1 (Nat.not_le_of_lt short)⟩
  rw [if_neg short]
  cases extent : Layout.extent? row stride height with
  | none => exact ⟨nofun, fun fits => by obtain ⟨-, _, found, -⟩ := fits; cases found⟩
  | some required =>
      by_cases small : length < required
      · simp [small]
      · simp [small]
        omega

theorem Layout.check_ok_of_check {buffer buffer' : Buffer} {length row stride height : Nat}
    (checked : Layout.check buffer length row stride height = .ok ()) :
    Layout.check buffer' length row stride height = .ok () :=
  check_eq_ok_iff.mpr (check_eq_ok_iff.mp checked)

theorem Layout.extent?_succ {row stride height required : Nat}
    (extent : Layout.extent? row stride (height + 1) = some required) : required = height * stride + row := by
  rw [Layout.extent?] at extent
  split at extent
  case isTrue => exact (Option.some.inj extent).symm
  case isFalse => cases extent

section Paint

variable {paint : List UInt8 → List UInt8} {srcSize dstSize : Nat}

theorem length_paintRow (sized : ∀ pixel, (paint pixel).length = dstSize) {width : Nat} {src dst : List UInt8}
    (fits : width * dstSize ≤ dst.length) : (paintRow paint srcSize dstSize width src dst).length = dst.length := by
  induction width generalizing src dst with
  | zero => rfl
  | succ width ih =>
      have size : (width + 1) * dstSize = width * dstSize + dstSize := Nat.succ_mul ..
      have rest : width * dstSize ≤ (dst.drop dstSize).length := by rw [List.length_drop]; omega
      rw [paintRow, List.length_append, sized, ih rest, List.length_drop]
      omega

theorem length_paintRows {row : List UInt8 → List UInt8 → List UInt8} {rowSize srcStride dstStride : Nat}
    (sized : ∀ src dst, rowSize ≤ dst.length → (row src dst).length = dst.length) {height : Nat}
    {src dst : List UInt8} (fits : ∀ above, height = above + 1 → above * dstStride + rowSize ≤ dst.length) :
    (paintRows row srcStride dstStride height src dst).length = dst.length := by
  induction height generalizing src dst with
  | zero => rfl
  | succ height ih =>
      have whole := fits height rfl
      have painted : (row src dst).length = dst.length := sized src dst (by omega)
      have rest : ∀ above, height = above + 1 →
          above * dstStride + rowSize ≤ ((row src dst).drop dstStride).length := by
        rintro above rfl
        rw [Nat.succ_mul] at whole
        rw [List.length_drop, painted]
        omega
      rw [paintRows, List.length_append, ih rest, List.length_take, List.length_drop, painted]
      omega

end Paint

theorem length_convertFromRgba {width height : Nat} {src dst : Plane} {data : List UInt8}
    (converted : convertFromRgba width height src dst = .ok data) : data.length = dst.bytes.length := by
  obtain ⟨row, rows, converted⟩ := bind_eq_ok_iff.mp converted
  obtain ⟨_, -, converted⟩ := bind_eq_ok_iff.mp converted
  obtain ⟨_, checked, converted⟩ := bind_eq_ok_iff.mp converted
  obtain ⟨-, required, extent, enough⟩ := Layout.check_eq_ok_iff.mp checked
  have size : width * 4 = row := by
    rw [Layout.rowSize] at rows
    split at rows
    case isTrue => exact Except.ok.inj rows
    case isFalse => cases rows
  rw [← Except.ok.inj converted, paintPlane]
  split
  case isTrue => rfl
  case isFalse =>
    have sized : ∀ pixel, (Color.bgra (Color.ofRgba pixel)).length = 4 := fun _ => rfl
    refine length_paintRows (fun src dst => length_paintRow sized) ?_
    rintro above rfl
    have whole := Layout.extent?_succ extent
    omega

namespace Bitmap

def Fits (b : Bitmap) : Prop :=
  ∃ size row, b.format.pixelSize = some size ∧ Layout.rowSize b.width size = .ok row ∧
    Layout.check .bitmap b.data.length row b.stride b.height = .ok ()

theorem ofBytes_eq_ok_iff {width height stride : Nat} {format : PixelFormat} {data : List UInt8} {b : Bitmap} :
    ofBytes width height stride format data = .ok b ↔ b = ⟨width, height, stride, format, data⟩ ∧ b.Fits := by
  rw [ofBytes]
  constructor
  · intro made
    split at made
    · cases made
    · rename_i size known
      obtain ⟨row, rows, made⟩ := bind_eq_ok_iff.mp made
      obtain ⟨_, checked, made⟩ := bind_eq_ok_iff.mp made
      cases made
      exact ⟨rfl, size, row, known, rows, checked⟩
  · rintro ⟨rfl, size, row, known, rows, checked⟩
    simp only [known]
    exact bind_eq_ok_iff.mpr ⟨row, rows, bind_eq_ok_iff.mpr ⟨(), checked, rfl⟩⟩

/-- What a bitmap can come from: one of the ways to make one, and bytes written into it later. -/
inductive Made : Bitmap → Prop
  | blank {width height format b} (made : blank? width height format = some (.ok b)) : Made b
  | ofBytes {width height stride format data b} (made : ofBytes width height stride format data = .ok b) : Made b
  | ofRgba {width height rgba b} (made : ofRgba? width height rgba = some (.ok b)) : Made b
  | overwrite {b} (made : Made b) (start : Nat) (bytes : List UInt8) : Made (b.overwrite start bytes)

theorem Fits.resize {b : Bitmap} (fits : b.Fits) {data : List UInt8} (length : data.length = b.data.length) :
    Fits { b with data } := by
  obtain ⟨size, row, known, rows, checked⟩ := fits
  exact ⟨size, row, known, rows, length ▸ checked⟩

theorem packing_eq_ok_iff {width height stride length : Nat} {format : PixelFormat} :
    packing width height format = .ok (stride, length) ↔ ∃ size, format.pixelSize = some size ∧
      Layout.rowSize width size = .ok stride ∧ Layout.extent? stride stride height = some length := by
  rw [packing]
  cases known : format.pixelSize with
  | none => simp
  | some size =>
      simp only [bind_eq_ok_iff]
      constructor
      · rintro ⟨row, rows, made⟩
        cases extent : Layout.extent? row row height with
        | none =>
            rw [extent] at made
            cases made
        | some required =>
            rw [extent] at made
            cases made
            exact ⟨size, rfl, rows, extent⟩
      · rintro ⟨_, ⟨⟩, rows, extent⟩
        exact ⟨stride, rows, by rw [extent]; rfl⟩

theorem blank?_eq_some_ok_iff {width height : Nat} {format : PixelFormat} {b : Bitmap} :
    blank? width height format = some (.ok b) ↔ ∃ stride length, packing width height format = .ok (stride, length) ∧
      length < Layout.bufferLimit ∧ b = ⟨width, height, stride, format, List.replicate length 0⟩ := by
  rw [blank?]
  cases packed : packing width height format with
  | error e => simp
  | ok sizes =>
      obtain ⟨stride, length⟩ := sizes
      by_cases small : length < Layout.bufferLimit
      · simp [Layout.zeros?, small, eq_comm]
      · simp [Layout.zeros?, small]

theorem blank?_eq_none_iff {width height : Nat} {format : PixelFormat} : blank? width height format = none ↔
    ∃ stride length, packing width height format = .ok (stride, length) ∧ Layout.bufferLimit ≤ length := by
  rw [blank?]
  cases packed : packing width height format with
  | error e => simp
  | ok sizes =>
      obtain ⟨stride, length⟩ := sizes
      simp [Layout.zeros?]

theorem ofRgba?_eq_some_ok_iff {width height : Nat} {rgba : List UInt8} {b : Bitmap} :
    ofRgba? width height rgba = some (.ok b) ↔ ∃ start row data, blank? width height .bgra = some (.ok start) ∧
      Layout.rowSize width 4 = .ok row ∧
      convertFromRgba width height ⟨rgba, row⟩ ⟨start.data, start.stride⟩ = .ok data ∧ b = { start with data } := by
  simp only [ofRgba?, Option.map_eq_some_iff, bind_eq_ok_iff]
  constructor
  · rintro ⟨_, blank, start, rfl, row, rows, data, converted, made⟩
    cases made
    exact ⟨start, row, data, blank, rows, converted, rfl⟩
  · rintro ⟨start, row, data, blank, rows, converted, rfl⟩
    exact ⟨_, blank, start, rfl, row, rows, data, converted, rfl⟩

theorem fits_blank {width height : Nat} {format : PixelFormat} {b : Bitmap}
    (made : blank? width height format = some (.ok b)) : b.Fits := by
  obtain ⟨stride, length, packed, -, rfl⟩ := blank?_eq_some_ok_iff.mp made
  obtain ⟨size, known, rows, extent⟩ := packing_eq_ok_iff.mp packed
  refine ⟨size, stride, known, rows, Layout.check_eq_ok_iff.mpr ⟨Nat.le_refl _, length, extent, ?_⟩⟩
  exact Nat.le_of_eq List.length_replicate.symm

theorem length_overwrite (b : Bitmap) (start : Nat) (bytes : List UInt8) :
    (b.overwrite start bytes).data.length = b.data.length := by
  simp only [overwrite, List.length_append, List.length_take, List.length_drop]
  omega

theorem Made.fits {b : Bitmap} (made : Made b) : b.Fits := by
  induction made with
  | blank made => exact fits_blank made
  | ofBytes made => exact (ofBytes_eq_ok_iff.mp made).2
  | ofRgba made =>
      obtain ⟨start, row, data, blank, -, converted, rfl⟩ := ofRgba?_eq_some_ok_iff.mp made
      exact (fits_blank blank).resize (length_convertFromRgba converted)
  | overwrite made start bytes ih => exact ih.resize (length_overwrite _ start bytes)

theorem Made.ofBytes_eq {b : Bitmap} (made : Made b) :
    Bitmap.ofBytes b.width b.height b.stride b.format b.data = .ok b :=
  ofBytes_eq_ok_iff.mpr ⟨rfl, made.fits⟩

end Bitmap

end PageContent
