import PageContent.Proofs.Painting

namespace PageContent

/-! The conversions once more, as they are done in place: row after row is sliced out of both buffers, and each number
on the way is counted in 64 bits. -/

def Layout.word? (n : Nat) : Option Nat := if n < sizeLimit then some n else none

namespace Plane

/-- Where row `y` starts. There is no such row if a number takes more than 64 bits or the row leaves the buffer. -/
def rowStart? (p : Plane) (rowSize y : Nat) : Option Nat := do
  let start ← Layout.word? (y * p.stride)
  let stop ← Layout.word? (start + rowSize)
  if stop ≤ p.bytes.length then some start else none

def paintSlice? (paint : List UInt8 → List UInt8) (srcSize dstSize width : Nat) (src dst : Plane) (y : Nat) :
    Option Plane := do
  let srcStart ← src.rowStart? (width * srcSize) y
  let dstStart ← dst.rowStart? (width * dstSize) y
  let pixels := (src.bytes.drop srcStart).take (width * srcSize)
  let line := (dst.bytes.drop dstStart).take (width * dstSize)
  pure { dst with
    bytes := dst.bytes.take dstStart ++ paintRow paint srcSize dstSize width pixels line ++
      dst.bytes.drop (dstStart + width * dstSize) }

def paintSlices? (paint : List UInt8 → List UInt8) (srcSize dstSize width height : Nat) (src dst : Plane) :
    Option Plane :=
  (List.range height).foldlM (paintSlice? paint srcSize dstSize width src) dst

/-- The checks, and after them the rows: how the conversion ends, and what is in the destination then. There is no
answer if a row cannot be sliced. -/
def convertInPlace? (paint : List UInt8 → List UInt8) (srcSize dstSize width height : Nat) (src dst : Plane) :
    Option (Except Error Unit × List UInt8) :=
  match checkPlanes width srcSize dstSize height src dst with
  | .error e => some (.error e, dst.bytes)
  | .ok () => (paintSlices? paint srcSize dstSize width height src dst).map fun painted => (.ok (), painted.bytes)

def toRgbaInPlace? (format : PixelFormat) (alpha : AlphaMode) (width height : Nat) (src dst : Plane) :
    Option (Except Error Unit × List UInt8) :=
  match format.pixelSize with
  | none => some (.error (.unknownFormat format.code), dst.bytes)
  | some size => convertInPlace? (fun pixel => (format.decode alpha pixel).rgba) size 4 width height src dst

def fromRgbaInPlace? (width height : Nat) (src dst : Plane) : Option (Except Error Unit × List UInt8) :=
  convertInPlace? (fun pixel => (Color.ofRgba pixel).bgra) 4 4 width height src dst

end Plane

section Rows

variable {paint : List UInt8 → List UInt8} {srcSize dstSize width height : Nat} {src dst : List UInt8}

theorem paintRow_take : paintRow paint srcSize dstSize width (src.take (width * srcSize)) dst =
    paintRow paint srcSize dstSize width src dst := by
  induction width generalizing src dst with
  | zero => rfl
  | succ width ih =>
      have first : (src.take ((width + 1) * srcSize)).take srcSize = src.take srcSize := by
        rw [List.take_take, Nat.succ_mul]
        congr 1
        omega
      have rest : (src.take ((width + 1) * srcSize)).drop srcSize = (src.drop srcSize).take (width * srcSize) := by
        rw [List.drop_take, Nat.succ_mul, Nat.add_sub_cancel]
      rw [paintRow, paintRow, first, rest, ih]

theorem paintRow_append {line : List UInt8} (sized : line.length = width * dstSize) (more : List UInt8) :
    paintRow paint srcSize dstSize width src (line ++ more) =
      paintRow paint srcSize dstSize width src line ++ more := by
  induction width generalizing src line with
  | zero =>
      have empty : line = [] := List.eq_nil_of_length_eq_zero (by omega)
      rw [empty]
      rfl
  | succ width ih =>
      rw [Nat.succ_mul] at sized
      have rest : (line.drop dstSize).length = width * dstSize := by rw [List.length_drop]; omega
      rw [paintRow, paintRow, List.drop_append_of_le_length (by omega), ih rest, List.append_assoc]

theorem paintRows_of_width_eq_zero {srcStride dstStride : Nat} :
    paintRows (paintRow paint srcSize dstSize 0) srcStride dstStride height src dst = dst := by
  induction height generalizing src dst with
  | zero => rfl
  | succ height ih => rw [paintRows, paintRow, ih, List.take_append_drop]

variable {row : List UInt8 → List UInt8 → List UInt8} {rowSize srcStride dstStride : Nat}

theorem drop_paintRows (head : PaintsHead row rowSize) (fits : RowsFit dst.length rowSize dstStride height) :
    (paintRows row srcStride dstStride height src dst).drop (height * dstStride) = dst.drop (height * dstStride) := by
  apply List.ext_getElem?
  intro k
  rw [List.getElem?_drop, List.getElem?_drop]
  apply getElem?_paintRows_rest head fits
  intro y line j inside
  have stride := fits.1
  have above : (y + 1) * dstStride ≤ height * dstStride := Nat.mul_le_mul_right _ line
  rw [Nat.succ_mul] at above
  omega

theorem paintRows_last (head : PaintsHead row rowSize) (fits : RowsFit dst.length rowSize dstStride (height + 1)) :
    paintRows row srcStride dstStride (height + 1) src dst =
      (paintRows row srcStride dstStride height src dst).take (height * dstStride) ++
        row (src.drop (height * srcStride)) (dst.drop (height * dstStride)) := by
  induction height generalizing src dst with
  | zero => simp [paintRows]
  | succ height ih =>
      have first := fits.2 1 (by omega)
      have painted : (row src dst).length = dst.length := head.length src dst (by omega)
      have stretch : ((row src dst).take dstStride).length = dstStride := by rw [List.length_take]; omega
      have rest : RowsFit (dst.drop dstStride).length rowSize dstStride (height + 1) := by
        rw [List.length_drop]
        exact fits.tail
      have above : (height + 1) * dstStride = ((row src dst).take dstStride).length + height * dstStride := by
        rw [stretch, Nat.succ_mul, Nat.add_comm]
      rw [paintRows, head.drop fits.1, ih rest, paintRows, head.drop fits.1, above, List.take_length_add_append,
        stretch, List.drop_drop, List.drop_drop, List.append_assoc, Nat.succ_mul, Nat.add_comm srcStride]

theorem RowsFit.of_le {length height' : Nat} (fits : RowsFit length rowSize dstStride height) (le : height' ≤ height) :
    RowsFit length rowSize dstStride height' :=
  ⟨fits.1, fun y line => fits.2 y (by omega)⟩

end Rows

section Slices

variable {paint : List UInt8 → List UInt8} {srcSize dstSize width height : Nat} {src dst : Plane}

theorem Layout.extent?_succ_eq_some_iff {row stride above required : Nat} :
    Layout.extent? row stride (above + 1) = some required ↔
      above * stride + row < Layout.sizeLimit ∧ required = above * stride + row := by
  rw [Layout.extent?]
  split
  case isTrue small => simp [small, eq_comm]
  case isFalse large => simp [large]

theorem RowsFit.words_of_check {buffer : Buffer} {length rowSize stride : Nat}
    (checked : Layout.check buffer length rowSize stride height = .ok ()) :
    ∀ y < height, y * stride + rowSize < Layout.sizeLimit := by
  intro y line
  obtain ⟨-, required, extent, -⟩ := Layout.check_eq_ok_iff.mp checked
  obtain ⟨above, rfl⟩ := Nat.exists_eq_succ_of_ne_zero (Nat.ne_zero_of_lt line)
  obtain ⟨small, -⟩ := Layout.extent?_succ_eq_some_iff.mp extent
  have before : y * stride ≤ above * stride := Nat.mul_le_mul_right _ (by omega)
  omega

theorem Plane.rowStart?_eq {p : Plane} {buffer : Buffer} {rowSize y : Nat}
    (checked : Layout.check buffer p.bytes.length rowSize p.stride height = .ok ()) (line : y < height) :
    p.rowStart? rowSize y = some (y * p.stride) := by
  have word := RowsFit.words_of_check checked y line
  have inside := (RowsFit.of_check checked).2 y line
  have start : Layout.word? (y * p.stride) = some (y * p.stride) := if_pos (by omega)
  have stop : Layout.word? (y * p.stride + rowSize) = some (y * p.stride + rowSize) := if_pos word
  simp [rowStart?, start, stop, inside]

theorem Plane.paintSlice?_eq {y : Nat} (checked : checkPlanes width srcSize dstSize height src dst = .ok ())
    (line : y < height) {bytes : List UInt8} (length : bytes.length = dst.bytes.length) :
    src.paintSlice? paint srcSize dstSize width ⟨bytes, dst.stride⟩ y =
      some ⟨bytes.take (y * dst.stride) ++ paintRow paint srcSize dstSize width (src.bytes.drop (y * src.stride))
        (bytes.drop (y * dst.stride)), dst.stride⟩ := by
  obtain ⟨-, -, source, destination⟩ := checkPlanes_eq_ok_iff.mp checked
  have inside := (RowsFit.of_check destination).2 y line
  rw [← length] at destination inside
  have target : rowStart? ⟨bytes, dst.stride⟩ (width * dstSize) y = some (y * dst.stride) :=
    rowStart?_eq destination line
  have whole : ((bytes.drop (y * dst.stride)).take (width * dstSize)).length = width * dstSize := by
    rw [List.length_take, List.length_drop]
    omega
  have painted : paintRow paint srcSize dstSize width (src.bytes.drop (y * src.stride)) (bytes.drop (y * dst.stride)) =
      paintRow paint srcSize dstSize width ((src.bytes.drop (y * src.stride)).take (width * srcSize))
          ((bytes.drop (y * dst.stride)).take (width * dstSize)) ++
        bytes.drop (y * dst.stride + width * dstSize) := by
    rw [paintRow_take, ← paintRow_append whole, ← List.drop_drop, List.take_append_drop]
  rw [painted, ← List.append_assoc]
  simp [paintSlice?, rowStart?_eq source line, target]

/-- Row after row, every slice is there, and in the end the whole picture is painted. -/
theorem Plane.paintSlices?_eq (sized : ∀ pixel, (paint pixel).length = dstSize)
    (checked : checkPlanes width srcSize dstSize height src dst = .ok ()) :
    src.paintSlices? paint srcSize dstSize width height dst =
      some ⟨paintPlane paint srcSize dstSize width height src dst, dst.stride⟩ := by
  obtain ⟨-, -, -, destination⟩ := checkPlanes_eq_ok_iff.mp checked
  have fits := RowsFit.of_check destination
  have head : PaintsHead (paintRow paint srcSize dstSize width) _ := paintsHead_paintRow sized width
  have rows : ∀ n ≤ height, (List.range n).foldlM (src.paintSlice? paint srcSize dstSize width) dst =
      some ⟨paintRows (paintRow paint srcSize dstSize width) src.stride dst.stride n src.bytes dst.bytes,
        dst.stride⟩ := by
    intro n le
    induction n with
    | zero => rfl
    | succ n ih =>
        have upper := fits.of_le (Nat.le_of_succ_le le)
        generalize before : paintRows (paintRow paint srcSize dstSize width) src.stride dst.stride n src.bytes dst.bytes
          = painted at ih
        have length : painted.length = dst.bytes.length := by
          rw [← before]
          exact length_paintRows head.length fun above same => upper.2 above (by omega)
        have below : painted.drop (n * dst.stride) = dst.bytes.drop (n * dst.stride) := by
          rw [← before]
          exact drop_paintRows head upper
        rw [List.range_succ, List.foldlM_append, ih (by omega), paintRows_last head (fits.of_le le), before]
        simp [paintSlice?_eq checked le length, below]
  rw [paintSlices?, rows height (Nat.le_refl _), paintPlane]
  split
  case isTrue none => rw [none, paintRows_of_width_eq_zero]
  case isFalse => rfl

theorem Plane.convertInPlace?_eq (sized : ∀ pixel, (paint pixel).length = dstSize) :
    src.convertInPlace? paint srcSize dstSize width height dst =
      some (match checkPlanes width srcSize dstSize height src dst with
        | .ok () => (.ok (), paintPlane paint srcSize dstSize width height src dst)
        | .error e => (.error e, dst.bytes)) := by
  rw [convertInPlace?]
  cases checked : checkPlanes width srcSize dstSize height src dst with
  | error e => rfl
  | ok => simp [paintSlices?_eq sized checked]

/-- The buffer holds `height` rows of `rowSize` bytes. -/
def Plane.Holds (p : Plane) (rowSize height : Nat) : Prop :=
  rowSize ≤ p.stride ∧ (height = 0 ∨ (height - 1) * p.stride + rowSize ≤ p.bytes.length)

theorem Plane.check_eq_ok_iff {p : Plane} {buffer : Buffer} {rowSize : Nat}
    (sized : p.bytes.length < Layout.sizeLimit) :
    Layout.check buffer p.bytes.length rowSize p.stride height = .ok () ↔ p.Holds rowSize height := by
  rw [Layout.check_eq_ok_iff, Holds]
  cases height with
  | zero => simp [Layout.extent?]
  | succ above =>
      simp only [Layout.extent?_succ_eq_some_iff, Nat.add_sub_cancel]
      constructor
      · rintro ⟨wide, _, ⟨-, rfl⟩, enough⟩
        exact ⟨wide, .inr enough⟩
      · rintro ⟨wide, none | enough⟩
        · omega
        · exact ⟨wide, _, ⟨by omega, rfl⟩, enough⟩

/-- A plane whose length and stride are counted in 64 bits. -/
structure Plane.Sized (p : Plane) : Prop where
  length : p.bytes.length < Layout.sizeLimit
  stride : p.stride < Layout.sizeLimit

theorem Plane.Holds.rowSize_lt {p : Plane} {rowSize : Nat} (holds : p.Holds rowSize height) (sized : p.Sized) :
    rowSize < Layout.sizeLimit :=
  Nat.lt_of_le_of_lt holds.1 sized.stride

theorem checkPlanes_eq_ok_iff_holds (source : src.Sized) (destination : dst.Sized) :
    checkPlanes width srcSize dstSize height src dst = .ok () ↔
      src.Holds (width * srcSize) height ∧ dst.Holds (width * dstSize) height := by
  rw [checkPlanes_eq_ok_iff, Plane.check_eq_ok_iff source.length, Plane.check_eq_ok_iff destination.length]
  constructor
  · rintro ⟨-, -, holds⟩
    exact holds
  · rintro ⟨holds, holds'⟩
    exact ⟨holds.rowSize_lt source, holds'.rowSize_lt destination, holds, holds'⟩

theorem convertToRgba_ok_iff {format : PixelFormat} {alpha : AlphaMode} (source : src.Sized)
    (destination : dst.Sized) : (∃ out, convertToRgba format alpha width height src dst = .ok out) ↔
      ∃ size, format.pixelSize = some size ∧ src.Holds (width * size) height ∧ dst.Holds (width * 4) height := by
  simp [convertToRgba_eq_ok_iff, checkPlanes_eq_ok_iff_holds source destination]

theorem convertFromRgba_ok_iff (source : src.Sized) (destination : dst.Sized) :
    (∃ out, convertFromRgba width height src dst = .ok out) ↔
      src.Holds (width * 4) height ∧ dst.Holds (width * 4) height := by
  simp [convertFromRgba_eq_ok_iff, checkPlanes_eq_ok_iff_holds source destination]

theorem Bitmap.ofBytes_ok_iff {format : PixelFormat} {b : Bitmap} (source : src.Sized) :
    Bitmap.ofBytes width height src.stride format src.bytes = .ok b ↔
      b = ⟨width, height, src.stride, format, src.bytes⟩ ∧
        ∃ size, format.pixelSize = some size ∧ src.Holds (width * size) height := by
  rw [ofBytes_eq_ok_iff]
  refine and_congr_right fun same => ?_
  subst same
  simp only [Fits, Layout.rowSize_eq_ok_iff]
  constructor
  · rintro ⟨size, _, known, ⟨-, rfl⟩, checked⟩
    exact ⟨size, known, (Plane.check_eq_ok_iff source.length).mp checked⟩
  · rintro ⟨size, known, holds⟩
    exact ⟨size, _, known, ⟨holds.rowSize_lt source, rfl⟩, (Plane.check_eq_ok_iff source.length).mpr holds⟩

theorem Layout.extent?_packed (row height : Nat) : Layout.extent? row row height = Layout.word? (row * height) := by
  cases height with
  | zero => rfl
  | succ above => rw [extent?, word?, Nat.mul_succ, Nat.mul_comm]

theorem Bitmap.packing_eq_ok_iff_sized {format : PixelFormat} {stride length : Nat} :
    Bitmap.packing width height format = .ok (stride, length) ↔ ∃ size, format.pixelSize = some size ∧
      width * size < Layout.sizeLimit ∧ width * size * height < Layout.sizeLimit ∧
      stride = width * size ∧ length = width * size * height := by
  rw [packing_eq_ok_iff]
  refine exists_congr fun size => and_congr_right fun _ => ?_
  rw [Layout.rowSize_eq_ok_iff, Layout.extent?_packed, Layout.word?]
  constructor
  · rintro ⟨⟨narrow, rfl⟩, extent⟩
    obtain ⟨small, ⟨⟩⟩ := Option.ite_none_right_eq_some.mp extent
    exact ⟨narrow, small, rfl, rfl⟩
  · rintro ⟨narrow, small, rfl, rfl⟩
    exact ⟨⟨narrow, rfl⟩, if_pos small⟩

theorem Layout.bufferLimit_le_sizeLimit : bufferLimit ≤ sizeLimit := by decide

theorem Bitmap.blank?_ok_iff {format : PixelFormat} {b : Bitmap} :
    Bitmap.blank? width height format = some (.ok b) ↔
      ∃ size, format.pixelSize = some size ∧ width * size < Layout.sizeLimit ∧
        width * size * height < Layout.bufferLimit ∧
        b = ⟨width, height, width * size, format, List.replicate (width * size * height) 0⟩ := by
  simp only [blank?_eq_some_ok_iff, packing_eq_ok_iff_sized]
  constructor
  · rintro ⟨_, _, ⟨size, known, narrow, -, rfl, rfl⟩, short, rfl⟩
    exact ⟨size, known, narrow, short, rfl⟩
  · rintro ⟨size, known, narrow, short, rfl⟩
    have small := Nat.lt_of_lt_of_le short Layout.bufferLimit_le_sizeLimit
    exact ⟨_, _, ⟨size, known, narrow, small, rfl, rfl⟩, short, rfl⟩

theorem Bitmap.blank?_none_iff {format : PixelFormat} :
    Bitmap.blank? width height format = none ↔
      ∃ size, format.pixelSize = some size ∧ width * size < Layout.sizeLimit ∧
        Layout.bufferLimit ≤ width * size * height ∧ width * size * height < Layout.sizeLimit := by
  simp only [blank?_eq_none_iff, packing_eq_ok_iff_sized]
  constructor
  · rintro ⟨_, _, ⟨size, known, narrow, small, rfl, rfl⟩, long⟩
    exact ⟨size, known, narrow, long, small⟩
  · rintro ⟨size, known, narrow, long, small⟩
    exact ⟨_, _, ⟨size, known, narrow, small, rfl, rfl⟩, long⟩

theorem Plane.toRgbaInPlace?_eq (format : PixelFormat) (alpha : AlphaMode) :
    src.toRgbaInPlace? format alpha width height dst =
      some (match convertToRgba format alpha width height src dst with
        | .ok out => (.ok (), out)
        | .error e => (.error e, dst.bytes)) := by
  rw [toRgbaInPlace?]
  cases known : format.pixelSize with
  | none => simp [convertToRgba, known]
  | some size =>
      have sized : ∀ pixel, (format.decode alpha pixel).rgba.length = 4 := fun _ => rfl
      simp only
      rw [convertInPlace?_eq sized, convertToRgba_eq known]
      cases checkPlanes width size 4 height src dst <;> rfl

theorem Plane.fromRgbaInPlace?_eq : src.fromRgbaInPlace? width height dst =
    some (match convertFromRgba width height src dst with
      | .ok out => (.ok (), out)
      | .error e => (.error e, dst.bytes)) := by
  have sized : ∀ pixel, (Color.ofRgba pixel).bgra.length = 4 := fun _ => rfl
  rw [fromRgbaInPlace?, convertInPlace?_eq sized, convertFromRgba_eq]
  cases checkPlanes width 4 4 height src dst <;> rfl

/-- With sizes of 64 bits, a conversion is accepted exactly if the rows of both pictures lie in their buffers, and
bytes make a bitmap exactly if they hold its rows. What is accepted never meets a sum of more than 64 bits, nor a row
outside its buffer, and what is refused leaves the destination as it was. A new bitmap is made exactly if a buffer can
hold it; where its bytes can still be counted in 64 bits but no buffer can hold them, it is not refused but fails. -/
theorem conversions_accept_exactly {src dst : Plane} (source : src.Sized) (destination : dst.Sized)
    (width height : Nat) :
    (∀ format alpha, (∃ out, convertToRgba format alpha width height src dst = .ok out) ↔
      ∃ size, format.pixelSize = some size ∧ src.Holds (width * size) height ∧ dst.Holds (width * 4) height) ∧
    ((∃ out, convertFromRgba width height src dst = .ok out) ↔
      src.Holds (width * 4) height ∧ dst.Holds (width * 4) height) ∧
    (∀ format b, Bitmap.ofBytes width height src.stride format src.bytes = .ok b ↔
      b = ⟨width, height, src.stride, format, src.bytes⟩ ∧
        ∃ size, format.pixelSize = some size ∧ src.Holds (width * size) height) ∧
    (∀ format b, Bitmap.blank? width height format = some (.ok b) ↔
      ∃ size, format.pixelSize = some size ∧ width * size < Layout.sizeLimit ∧
        width * size * height < Layout.bufferLimit ∧
        b = ⟨width, height, width * size, format, List.replicate (width * size * height) 0⟩) ∧
    (∀ format, Bitmap.blank? width height format = none ↔
      ∃ size, format.pixelSize = some size ∧ width * size < Layout.sizeLimit ∧
        Layout.bufferLimit ≤ width * size * height ∧ width * size * height < Layout.sizeLimit) ∧
    (∀ format alpha, src.toRgbaInPlace? format alpha width height dst =
      some (match convertToRgba format alpha width height src dst with
        | .ok out => (.ok (), out)
        | .error e => (.error e, dst.bytes))) ∧
    src.fromRgbaInPlace? width height dst =
      some (match convertFromRgba width height src dst with
        | .ok out => (.ok (), out)
        | .error e => (.error e, dst.bytes)) :=
  ⟨fun _ _ => convertToRgba_ok_iff source destination, convertFromRgba_ok_iff source destination,
    fun _ _ => Bitmap.ofBytes_ok_iff source, fun _ _ => Bitmap.blank?_ok_iff, fun _ => Bitmap.blank?_none_iff,
    fun format alpha => Plane.toRgbaInPlace?_eq format alpha, Plane.fromRgbaInPlace?_eq⟩

theorem widest_stride_is_accepted_once :
    ∃ src dst : Plane, src.Sized ∧ dst.Sized ∧ src.stride + 1 = Layout.sizeLimit ∧
      (∃ out, convertToRgba .bgr .preserve 1 1 src dst = .ok out) ∧
      src.toRgbaInPlace? .bgr .preserve 1 1 dst = some (.ok (), [3, 2, 1, 255]) ∧
      ¬∃ out, convertToRgba .bgr .preserve 1 2 src dst = .ok out := by
  let src : Plane := ⟨[1, 2, 3], Layout.sizeLimit - 1⟩
  let dst : Plane := ⟨[0, 0, 0, 0], Layout.sizeLimit - 1⟩
  have source : src.Sized := ⟨by decide, by decide⟩
  have destination : dst.Sized := ⟨by decide, by decide⟩
  have one := conversions_accept_exactly source destination 1 1
  have two := conversions_accept_exactly source destination 1 2
  refine ⟨src, dst, source, destination, by decide, (one.1 .bgr .preserve).mpr ⟨3, rfl, ?_⟩,
    (one.2.2.2.2.2.1 .bgr .preserve).trans ?_, fun accepted => ?_⟩
  · exact ⟨⟨by decide, .inr (by decide)⟩, ⟨by decide, .inr (by decide)⟩⟩
  · decide +kernel
  · obtain ⟨_, ⟨⟩, ⟨-, none | enough⟩, -⟩ := (two.1 .bgr .preserve).mp accepted
    · cases none
    · exact absurd enough (by decide)

/-- One row of 2⁶¹ pixels passes the checks of a new bitmap, and no buffer can hold it. -/
theorem bitmap_longer_than_buffers_is_not_refused :
    PixelFormat.bgra.pixelSize = some 4 ∧ 2305843009213693952 * 4 < Layout.sizeLimit ∧
      2305843009213693952 * 4 * 1 < Layout.sizeLimit ∧ Bitmap.blank? 2305843009213693952 1 .bgra = none := by
  decide

end Slices

end PageContent
