import PageContent.Proofs.Rows

namespace PageContent

variable {width height size : Nat} {src mid dst : Plane} {order order' : Nat → Option Nat} {out packed : List UInt8}

theorem order_bind_rgbaOrder : ∀ c < 4, (PixelFormat.bgra.order .preserve c).bind rgbaOrder = some c := by decide

theorem rgbaOrder_bind_order : ∀ c < 4, (rgbaOrder c).bind (PixelFormat.bgra.order .preserve) = some c := by decide

theorem lt_of_order {format : PixelFormat} {alpha : AlphaMode} {c i : Nat} (source : format.order alpha c = some i) :
    i < 4 := by
  have telling := PixelFormat.lt_telling source
  rw [PixelFormat.telling] at telling
  split at telling <;> omega

theorem exists_pixel_of_lt {j : Nat} (inside : j < width * 4) : ∃ x < width, ∃ c < 4, j = 4 * x + c :=
  ⟨j / 4, by omega, j % 4, by omega, by omega⟩

theorem exists_row_of_lt {k row : Nat} (inside : k < row * height) : ∃ y < height, ∃ j < row, k = y * row + j := by
  have positive : 0 < row := Nat.pos_of_ne_zero fun none => by simp [none] at inside
  refine ⟨k / row, Nat.div_lt_of_lt_mul inside, k % row, Nat.mod_lt k positive, ?_⟩
  rw [Nat.mul_comm]
  exact (Nat.div_add_mod k row).symm

namespace Repaints

theorem congr (repaints : Repaints order size width height src dst out) (same : ∀ c < 4, order c = order' c) :
    Repaints order' size width height src dst out where
  length := repaints.length
  inside := repaints.inside
  pixels y line x column c byte := by rw [repaints.pixels y line x column c byte, same c byte]
  rest := repaints.rest

theorem trans (first : Repaints order size width height src mid packed)
    (second : Repaints order' 4 width height ⟨packed, mid.stride⟩ dst out)
    (pixel : ∀ c i, order' c = some i → i < 4) :
    Repaints (fun c => (order' c).bind order) size width height src dst out where
  length := second.length
  inside y line x column := ⟨(first.inside y line x column).1, (second.inside y line x column).2⟩
  pixels y line x column c byte := by
    rw [second.pixels y line x column c byte]
    cases source : order' c with
    | none => rfl
    | some i => exact first.pixels y line x column i (pixel c i source)
  rest := second.rest

theorem getElem?_row (repaints : Repaints some 4 width height src dst out) {y j : Nat} (line : y < height)
    (inside : j < width * 4) : out[y * dst.stride + j]? = src.bytes[y * src.stride + j]? := by
  obtain ⟨x, column, c, byte, rfl⟩ := exists_pixel_of_lt inside
  simpa [Plane.start, Nat.add_assoc] using repaints.pixels y line x column c byte

theorem eq_take {rgba blank : List UInt8}
    (repaints : Repaints some 4 width height ⟨rgba, width * 4⟩ ⟨blank, width * 4⟩ out)
    (whole : blank.length = width * 4 * height) : out = rgba.take (width * 4 * height) := by
  apply List.ext_getElem?
  intro k
  by_cases inside : k < width * 4 * height
  · obtain ⟨y, line, j, column, rfl⟩ := exists_row_of_lt inside
    rw [List.getElem?_take_of_lt inside]
    exact repaints.getElem?_row line column
  · have length : out.length = width * 4 * height := repaints.length.trans whole
    rw [List.getElem?_eq_none (by omega), List.getElem?_take_eq_none (by omega)]

end Repaints

theorem convertToRgba_convertFromRgba (first : convertFromRgba width height src mid = .ok packed)
    (second : convertToRgba .bgra .preserve width height ⟨packed, mid.stride⟩ dst = .ok out) :
    Repaints some 4 width height src dst out := by
  obtain ⟨_, ⟨⟩, back⟩ := convertToRgba_repaints second
  exact ((convertFromRgba_repaints first).trans back fun _ _ => lt_of_order).congr order_bind_rgbaOrder

theorem convertFromRgba_convertToRgba (first : convertToRgba .bgra .preserve width height src mid = .ok packed)
    (second : convertFromRgba width height ⟨packed, mid.stride⟩ dst = .ok out) :
    Repaints some 4 width height src dst out := by
  obtain ⟨_, ⟨⟩, there⟩ := convertToRgba_repaints first
  exact (there.trans (convertFromRgba_repaints second) fun _ _ => lt_of_rgbaOrder).congr rgbaOrder_bind_order

theorem Plane.Sized.refill (sized : mid.Sized) (length : packed.length = mid.bytes.length) :
    Plane.Sized ⟨packed, mid.stride⟩ :=
  ⟨length ▸ sized.length, sized.stride⟩

theorem Plane.Holds.refill {row : Nat} (holds : mid.Holds row height) (length : packed.length = mid.bytes.length) :
    Plane.Holds ⟨packed, mid.stride⟩ row height :=
  ⟨holds.1, length ▸ holds.2⟩

namespace Bitmap

variable {b b' : Bitmap} {rgba : List UInt8}

theorem ofRgba?_ok_iff : ofRgba? width height rgba = some (.ok b) ↔
    width * 4 < Layout.sizeLimit ∧ width * 4 * height < Layout.bufferLimit ∧ ∃ data,
      convertFromRgba width height ⟨rgba, width * 4⟩ ⟨List.replicate (width * 4 * height) 0, width * 4⟩ = .ok data ∧
      b = ⟨width, height, width * 4, .bgra, data⟩ := by
  simp only [ofRgba?_eq_some_ok_iff, blank?_ok_iff, Layout.rowSize_eq_ok_iff]
  constructor
  · rintro ⟨_, _, data, ⟨_, ⟨⟩, narrow, short, rfl⟩, ⟨-, rfl⟩, converted, rfl⟩
    exact ⟨narrow, short, data, converted, rfl⟩
  · rintro ⟨narrow, short, data, converted, rfl⟩
    exact ⟨_, _, data, ⟨4, rfl, narrow, short, rfl⟩, ⟨narrow, rfl⟩, converted, rfl⟩

theorem toRgba_eq_ok_iff {alpha : AlphaMode} : b.toRgba alpha = .ok rgba ↔
    b.width * 4 < Layout.sizeLimit ∧ b.width * 4 * b.height < Layout.sizeLimit ∧
      convertToRgba b.format alpha b.width b.height ⟨b.data, b.stride⟩
        ⟨List.replicate (b.width * 4 * b.height) 0, b.width * 4⟩ = .ok rgba := by
  rw [toRgba_eq_convert]
  split_ifs with wide large
  · simp [Nat.not_lt.mpr wide]
  · simp [Nat.not_lt.mpr large]
  · simp [Nat.not_le.mp wide, Nat.not_le.mp large]

theorem toRgba_of_ofRgba? (made : ofRgba? width height rgba = some (.ok b)) :
    b.toRgba .preserve = .ok (rgba.take (4 * width * height)) := by
  obtain ⟨size, laid⟩ := (Made.ofRgba made).fits.laid
  obtain ⟨narrow, short, data, there, rfl⟩ := ofRgba?_ok_iff.mp made
  have small := Nat.lt_of_lt_of_le short Layout.bufferLimit_le_sizeLimit
  have converts := laid.toRgba_eq .preserve
  rw [if_neg (Nat.not_le.mpr narrow), if_neg (Nat.not_le.mpr small)] at converts
  have back := (toRgba_eq_ok_iff.mp converts).2.2
  rw [converts, (convertToRgba_convertFromRgba there back).eq_take List.length_replicate, Nat.mul_comm 4]

theorem rowBytes_of_repaints {blank : List UInt8} (width : b'.width = b.width)
    (repaints : Repaints some 4 b.width b.height ⟨b.data, b.stride⟩ ⟨blank, b'.stride⟩ b'.data) {y : Nat}
    (line : y < b.height) : b'.rowBytes 4 y = b.rowBytes 4 y := by
  apply List.ext_getElem?
  intro j
  rw [rowBytes, rowBytes, width]
  by_cases inside : j < b.width * 4
  · rw [List.getElem?_take_of_lt inside, List.getElem?_take_of_lt inside, List.getElem?_drop, List.getElem?_drop]
    exact repaints.getElem?_row line inside
  · rw [List.getElem?_take_eq_none (by omega), List.getElem?_take_eq_none (by omega)]

theorem laid_of_toRgba {alpha : AlphaMode} (told : b.toRgba alpha = .ok rgba) : ∃ size, b.Laid size := by
  obtain ⟨-, -, converted⟩ := toRgba_eq_ok_iff.mp told
  obtain ⟨size, known, checked, -⟩ := convertToRgba_eq_ok_iff.mp converted
  obtain ⟨small, -, source, -⟩ := checkPlanes_eq_ok_iff.mp checked
  exact ⟨size, known, small, Layout.check_ok_of_check source⟩

theorem ofRgba?_of_toRgba (format : b.format = .bgra) (told : b.toRgba .preserve = .ok rgba)
    (short : rgba.length < Layout.bufferLimit) :
    ∃ b', ofRgba? b.width b.height rgba = some (.ok b') ∧ ∀ y, b'.row? y = b.row? y := by
  obtain ⟨size, laid⟩ := laid_of_toRgba told
  obtain ⟨narrow, small, there⟩ := toRgba_eq_ok_iff.mp told
  rw [format] at there
  obtain ⟨_, ⟨⟩, painted⟩ := convertToRgba_repaints there
  have length : rgba.length = b.width * 4 * b.height := painted.length.trans List.length_replicate
  have checked : checkPlanes b.width 4 4 b.height ⟨rgba, b.width * 4⟩
      ⟨List.replicate (b.width * 4 * b.height) 0, b.width * 4⟩ = .ok () := by
    refine checkPlanes_eq_ok_iff.mpr ⟨narrow, narrow, ?_, ?_⟩
    · exact Layout.check_packed small (Nat.le_of_eq length.symm)
    · exact Layout.check_packed small (Nat.le_of_eq List.length_replicate.symm)
  obtain ⟨data, back⟩ : ∃ data, convertFromRgba b.width b.height ⟨rgba, b.width * 4⟩
      ⟨List.replicate (b.width * 4 * b.height) 0, b.width * 4⟩ = .ok data :=
    ⟨_, convertFromRgba_eq_ok_iff.mpr ⟨checked, rfl⟩⟩
  let b' : Bitmap := ⟨b.width, b.height, b.width * 4, .bgra, data⟩
  have made : ofRgba? b.width b.height rgba = some (.ok b') :=
    ofRgba?_ok_iff.mpr ⟨narrow, length ▸ short, data, back, rfl⟩
  have sized : b.format.pixelSize = some 4 := by rw [format]; rfl
  cases laid.known.symm.trans sized
  obtain ⟨_, laid'⟩ := (Made.ofRgba made).fits.laid
  cases laid'.known
  have passed : Repaints some 4 b.width b.height ⟨b.data, b.stride⟩
      ⟨List.replicate (b.width * 4 * b.height) 0, b'.stride⟩ b'.data :=
    convertFromRgba_convertToRgba there back
  refine ⟨b', made, fun y => ?_⟩
  rw [laid'.row?_eq, laid.row?_eq]
  split
  case isTrue line =>
    have width : b'.width = b.width := rfl
    exact congrArg some (rowBytes_of_repaints width passed line)
  case isFalse => rfl

end Bitmap

/-- To convert pixels and to convert them back leaves them as they were, whatever the sizes and the strides of the
pictures are and whichever way is taken first. A bitmap gives back the pixels that it was made of, and one that is
made of the pixels which another gave, as many as a buffer can hold, has the rows of that one. -/
theorem conversions_undo_each_other :
    (∀ (width height : Nat) (src mid dst : Plane), src.Sized → mid.Sized → dst.Sized →
      src.Holds (width * 4) height → mid.Holds (width * 4) height → dst.Holds (width * 4) height →
      (∃ bgra out, convertFromRgba width height src mid = .ok bgra ∧
        convertToRgba .bgra .preserve width height ⟨bgra, mid.stride⟩ dst = .ok out ∧
        Repaints some 4 width height src dst out) ∧
      ∃ rgba out, convertToRgba .bgra .preserve width height src mid = .ok rgba ∧
        convertFromRgba width height ⟨rgba, mid.stride⟩ dst = .ok out ∧ Repaints some 4 width height src dst out) ∧
    (∀ width height rgba b, Bitmap.ofRgba? width height rgba = some (.ok b) →
      b.toRgba .preserve = .ok (rgba.take (4 * width * height))) ∧
    ∀ (b : Bitmap) rgba, b.format = .bgra → b.toRgba .preserve = .ok rgba →
      rgba.length < Layout.bufferLimit →
      ∃ b', Bitmap.ofRgba? b.width b.height rgba = some (.ok b') ∧ ∀ y, b'.row? y = b.row? y := by
  refine ⟨fun width height src mid dst source middle destination holds holds' holds'' => ⟨?_, ?_⟩,
    fun _ _ _ _ => Bitmap.toRgba_of_ofRgba?, fun _ _ => Bitmap.ofRgba?_of_toRgba⟩
  · obtain ⟨bgra, there⟩ := (convertFromRgba_ok_iff source middle).mpr ⟨holds, holds'⟩
    have length : bgra.length = mid.bytes.length := (convertFromRgba_repaints there).length
    obtain ⟨out, back⟩ : ∃ out, convertToRgba .bgra .preserve width height ⟨bgra, mid.stride⟩ dst = .ok out :=
      (convertToRgba_ok_iff (middle.refill length) destination).mpr ⟨4, rfl, holds'.refill length, holds''⟩
    exact ⟨bgra, out, there, back, convertToRgba_convertFromRgba there back⟩
  · obtain ⟨rgba, there⟩ : ∃ rgba, convertToRgba .bgra .preserve width height src mid = .ok rgba :=
      (convertToRgba_ok_iff source middle).mpr ⟨4, rfl, holds, holds'⟩
    obtain ⟨_, ⟨⟩, painted⟩ := convertToRgba_repaints there
    obtain ⟨out, back⟩ := (convertFromRgba_ok_iff (middle.refill painted.length) destination).mpr
      ⟨holds'.refill painted.length, holds''⟩
    exact ⟨rgba, out, there, back, convertFromRgba_convertToRgba there back⟩

theorem padded_pixels_come_back :
    ∃ (src mid dst : Plane) (bgra out : List UInt8) (b b' : Bitmap),
      convertFromRgba 1 2 src mid = .ok bgra ∧
      convertToRgba .bgra .preserve 1 2 ⟨bgra, mid.stride⟩ dst = .ok out ∧ out = [1, 2, 3, 4, 90, 5, 6, 7, 8] ∧
      b.stride = 6 ∧ b.toRgba .preserve = .ok [3, 2, 1, 4, 7, 6, 5, 8] ∧
      Bitmap.ofRgba? 1 2 [3, 2, 1, 4, 7, 6, 5, 8] = some (.ok b') ∧ b'.row? 1 = b.row? 1 ∧
      b'.toRgba .preserve = .ok [3, 2, 1, 4, 7, 6, 5, 8] := by
  let src : Plane := ⟨[1, 2, 3, 4, 50, 51, 5, 6, 7, 8], 6⟩
  let mid : Plane := ⟨[0, 0, 0, 0, 60, 61, 62, 0, 0, 0, 0, 63], 7⟩
  let dst : Plane := ⟨[0, 0, 0, 0, 90, 0, 0, 0, 0], 5⟩
  let b : Bitmap := ⟨1, 2, 6, .bgra, src.bytes⟩
  have told : b.toRgba .preserve = .ok [3, 2, 1, 4, 7, 6, 5, 8] := by decide +kernel
  obtain ⟨planes, ofPixels, ofBitmap⟩ := conversions_undo_each_other
  obtain ⟨⟨bgra, out, there, back, repaints⟩, -⟩ := planes 1 2 src mid dst ⟨by decide, by decide⟩
    ⟨by decide, by decide⟩ ⟨by decide, by decide⟩ ⟨by decide, .inr (by decide)⟩ ⟨by decide, .inr (by decide)⟩
    ⟨by decide, .inr (by decide)⟩
  have painted : convertFromRgba 1 2 src mid = .ok [3, 2, 1, 4, 60, 61, 62, 7, 6, 5, 8, 63] := by decide +kernel
  cases there.symm.trans painted
  have same : convertToRgba .bgra .preserve 1 2 ⟨[3, 2, 1, 4, 60, 61, 62, 7, 6, 5, 8, 63], mid.stride⟩ dst =
      .ok [1, 2, 3, 4, 90, 5, 6, 7, 8] := by decide +kernel
  cases back.symm.trans same
  obtain ⟨b', made, rows⟩ := ofBitmap b _ rfl told (by decide)
  exact ⟨src, mid, dst, _, _, b, b', there, back, rfl, rfl, told, made, rows 1, ofPixels 1 2 _ b' made⟩

end PageContent
