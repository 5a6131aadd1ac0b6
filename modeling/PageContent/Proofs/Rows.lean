import PageContent.Object.Read
import PageContent.Proofs.Ends
import PageContent.Proofs.Slices

namespace PageContent

def paintedPixels (paint : List UInt8 → List UInt8) (size width : Nat) (src : List UInt8) : List UInt8 :=
  (List.range width).flatMap fun x => paint ((src.drop (size * x)).take size)

section Paint

variable {paint : List UInt8 → List UInt8} {srcSize dstSize width height : Nat} {src dst : List UInt8}

theorem paintedPixels_succ : paintedPixels paint srcSize (width + 1) src =
    paint (src.take srcSize) ++ paintedPixels paint srcSize width (src.drop srcSize) := by
  simp [paintedPixels, List.range_succ_eq_map, List.flatMap_map, Nat.mul_succ, Nat.add_comm]

theorem paintRow_eq : paintRow paint srcSize dstSize width src dst =
    paintedPixels paint srcSize width src ++ dst.drop (width * dstSize) := by
  induction width generalizing src dst with
  | zero => simp [paintRow, paintedPixels]
  | succ width ih =>
      rw [paintRow, ih, paintedPixels_succ, List.append_assoc, List.drop_drop, Nat.succ_mul,
        Nat.add_comm dstSize]

theorem length_paintedPixels (sized : ∀ pixel, (paint pixel).length = dstSize) :
    (paintedPixels paint srcSize width src).length = width * dstSize := by
  simp [paintedPixels, List.length_flatMap, sized]

theorem paintedPixels_take :
    paintedPixels paint srcSize width (src.take (width * srcSize)) = paintedPixels paint srcSize width src := by
  have same : paintRow paint srcSize 0 width (src.take (width * srcSize)) [] = paintRow paint srcSize 0 width src [] :=
    paintRow_take
  rw [paintRow_eq, paintRow_eq] at same
  exact List.append_cancel_right same

theorem paintRows_packed (sized : ∀ pixel, (paint pixel).length = dstSize) {stride : Nat} :
    paintRows (paintRow paint srcSize dstSize width) stride (width * dstSize) height src dst =
      (List.range height).flatMap (fun y => paintedPixels paint srcSize width (src.drop (y * stride))) ++
        dst.drop (height * (width * dstSize)) := by
  induction height generalizing src dst with
  | zero => simp [paintRows]
  | succ height ih =>
      have length : (paintedPixels paint srcSize width src).length = width * dstSize := length_paintedPixels sized
      rw [paintRows, paintRow_eq]
      simp only [List.take_left' length, List.drop_left' length]
      rw [ih]
      simp [List.range_succ_eq_map, List.flatMap_map, Nat.succ_mul, Nat.add_comm]

theorem paintPlane_packed (sized : ∀ pixel, (paint pixel).length = dstSize) {source : Plane}
    (whole : dst.length = height * (width * dstSize)) :
    paintPlane paint srcSize dstSize width height source ⟨dst, width * dstSize⟩ =
      (List.range height).flatMap fun y => paintedPixels paint srcSize width (source.bytes.drop (y * source.stride)) := by
  rw [paintPlane]
  split
  case isTrue none =>
    subst none
    have empty : dst = [] := List.eq_nil_of_length_eq_zero (by simpa using whole)
    simp [empty, paintedPixels]
  case isFalse => rw [paintRows_packed sized, List.drop_eq_nil_of_le (Nat.le_of_eq whole), List.append_nil]

end Paint

theorem Layout.check_packed {buffer : Buffer} {length row height : Nat} (small : row * height < Layout.sizeLimit)
    (whole : row * height ≤ length) : Layout.check buffer length row row height = .ok () := by
  have word : Layout.word? (row * height) = some (row * height) := if_pos small
  exact Layout.check_eq_ok_iff.mpr ⟨Nat.le_refl row, _, (Layout.extent?_packed row height).trans word, whole⟩

def PixelFormat.rgbaRow (format : PixelFormat) (alpha : AlphaMode) (size width : Nat) (row : List UInt8) : List UInt8 :=
  paintedPixels (fun pixel => (format.decode alpha pixel).rgba) size width row

namespace Bitmap

variable {b : Bitmap} {size : Nat}

def rowBytes (b : Bitmap) (size y : Nat) : List UInt8 := (b.data.drop (y * b.stride)).take (b.width * size)

theorem toRgba_eq_convert (b : Bitmap) (alpha : AlphaMode) : b.toRgba alpha =
    if Layout.sizeLimit ≤ b.width * 4 then .error (.bitmap (.rowOverflows b.width))
    else if Layout.sizeLimit ≤ b.width * 4 * b.height then .error (.bitmap (.rgbaOverflows b.width b.height))
    else convertToRgba b.format alpha b.width b.height ⟨b.data, b.stride⟩
      ⟨List.replicate (b.width * 4 * b.height) 0, b.width * 4⟩ := by
  simp only [toRgba, Layout.rowSize, Layout.extent?_packed, Layout.word?, bind, Except.bind, ← Nat.not_lt]
  by_cases narrow : b.width * 4 < Layout.sizeLimit
  · by_cases small : b.width * 4 * b.height < Layout.sizeLimit <;> simp [narrow, small]
  · simp [narrow]

/-- The rows of a bitmap lie inside its data if a pixel has `size` bytes, and no number on the way to them takes
more than 64 bits. -/
structure Laid (b : Bitmap) (size : Nat) : Prop where
  known : b.format.pixelSize = some size
  small : b.width * size < Layout.sizeLimit
  checked : Layout.check .bitmap b.data.length (b.width * size) b.stride b.height = .ok ()

theorem Fits.laid (fits : b.Fits) : ∃ size, b.Laid size := by
  obtain ⟨size, row, known, rows, checked⟩ := fits
  obtain ⟨small, rfl⟩ := Layout.rowSize_eq_ok_iff.mp rows
  exact ⟨size, known, small, checked⟩

namespace Laid

theorem length_rowBytes (laid : b.Laid size) {y : Nat} (line : y < b.height) :
    (b.rowBytes size y).length = b.width * size := by
  have inside := (RowsFit.of_check laid.checked).2 y line
  rw [rowBytes, List.length_take, List.length_drop]
  omega

theorem holds (laid : b.Laid size) : Plane.Holds ⟨b.data, b.stride⟩ (b.width * size) b.height := by
  obtain ⟨wide, required, extent, enough⟩ := Layout.check_eq_ok_iff.mp laid.checked
  refine ⟨wide, ?_⟩
  cases height : b.height with
  | zero => exact .inl rfl
  | succ above =>
      rw [height] at extent
      have needed := Layout.extent?_succ extent
      exact .inr (needed ▸ enough)

theorem row?_eq (laid : b.Laid size) (y : Nat) :
    b.row? y = if y < b.height then some (b.rowBytes size y) else none := by
  rw [row?]
  split
  case isTrue line =>
    have inside := (RowsFit.of_check laid.checked).2 y line
    simp [laid.known, inside, rowBytes]
  case isFalse => rfl

theorem toRgba_eq (laid : b.Laid size) (alpha : AlphaMode) : b.toRgba alpha =
    if Layout.sizeLimit ≤ b.width * 4 then .error (.bitmap (.rowOverflows b.width))
    else if Layout.sizeLimit ≤ b.width * 4 * b.height then .error (.bitmap (.rgbaOverflows b.width b.height))
    else .ok ((List.range b.height).flatMap fun y => b.format.rgbaRow alpha size b.width (b.rowBytes size y)) := by
  rw [toRgba_eq_convert]
  split_ifs with wide large
  · rfl
  · rfl
  have whole : (List.replicate (b.width * 4 * b.height) (0 : UInt8)).length = b.height * (b.width * 4) := by
    rw [List.length_replicate, Nat.mul_comm]
  have checked : checkPlanes b.width size 4 b.height ⟨b.data, b.stride⟩
      ⟨List.replicate (b.width * 4 * b.height) 0, b.width * 4⟩ = .ok () := by
    refine checkPlanes_eq_ok_iff.mpr ⟨laid.small, Nat.not_le.mp wide, ?_, ?_⟩
    · exact Layout.check_ok_of_check laid.checked
    · exact Layout.check_packed (Nat.not_le.mp large) (Nat.le_of_eq List.length_replicate.symm)
  have painted : ∀ pixel, (b.format.decode alpha pixel).rgba.length = 4 := fun _ => rfl
  rw [convertToRgba_eq laid.known, checked, paintPlane_packed painted whole]
  simp only [Except.map, PixelFormat.rgbaRow, rowBytes, paintedPixels_take]

theorem length_toRgba (laid : b.Laid size) {alpha : AlphaMode} {rgba : List UInt8} (made : b.toRgba alpha = .ok rgba) :
    rgba.length = 4 * b.width * b.height := by
  rw [laid.toRgba_eq] at made
  split_ifs at made
  cases made
  have row : ∀ row, (b.format.rgbaRow alpha size b.width row).length = b.width * 4 :=
    fun row => length_paintedPixels fun _ => rfl
  simp [List.length_flatMap, row, Nat.mul_comm]

end Laid

end Bitmap

theorem PageObject.readAs_image_made {σ : Type} [Library σ] (object : ObjectId) (page : PageRef) (s : σ) :
    Ends (readAs .image object page) s (fun shown _ => ∃ bitmap, shown.content = .image bitmap ∧ bitmap.Made)
      fun _ _ => True := by
  have image : ∀ s : σ, Ends (Content.readImage object) s
      (fun content _ => ∃ bitmap, content = .image bitmap ∧ bitmap.Made) fun _ _ => True := by
    intro s
    apply ends_bind.mpr
    refine ends_demand.mpr ⟨fun raw _ => ?_, fun _ => trivial⟩
    split
    · exact ends_throw.mpr trivial
    · apply ends_bind.mpr
      refine ends_liftExcept.mpr ⟨fun bitmap made => ?_, fun _ _ => trivial⟩
      exact ends_pure.mpr ⟨bitmap, rfl, .ofBytes made⟩
  apply ends_bind.mpr
  refine (ends_run _ s).mono (fun _ s₁ _ => ?_) fun _ _ _ => trivial
  apply ends_bind.mpr
  refine (image s₁).mono (fun content s₂ made => ?_) fun _ _ _ => trivial
  apply ends_bind.mpr
  refine (ends_run _ s₂).mono (fun attributes s₃ _ => ?_) fun _ _ _ => trivial
  exact ends_pure.mpr made

/-- However a bitmap was made or read, and whatever was written into it later, its rows lie inside its data and can
be taken out of it. Its pixels are converted row after row, unless there are too many of them, and its bytes make the
same bitmap again. -/
theorem bitmaps_hold_their_rows :
    (∀ {σ : Type} [Library σ] (object : ObjectId) (page : PageRef) (s : σ),
      Ends (PageObject.readAs .image object page) s
        (fun shown _ => ∃ bitmap, shown.content = .image bitmap ∧ bitmap.Made) fun _ _ => True) ∧
    ∀ b : Bitmap, b.Made → ∃ size, b.format.pixelSize = some size ∧
      Plane.Holds ⟨b.data, b.stride⟩ (b.width * size) b.height ∧
      (∀ y, b.row? y = if y < b.height then some (b.rowBytes size y) else none) ∧
      (∀ y < b.height, (b.rowBytes size y).length = b.width * size ∧
        Plane.rowStart? ⟨b.data, b.stride⟩ (b.width * size) y = some (y * b.stride)) ∧
      (∀ alpha, b.toRgba alpha =
        if Layout.sizeLimit ≤ b.width * 4 then .error (.bitmap (.rowOverflows b.width))
        else if Layout.sizeLimit ≤ b.width * 4 * b.height then .error (.bitmap (.rgbaOverflows b.width b.height))
        else .ok ((List.range b.height).flatMap fun y => b.format.rgbaRow alpha size b.width (b.rowBytes size y))) ∧
      (∀ alpha rgba, b.toRgba alpha = .ok rgba → rgba.length = 4 * b.width * b.height) ∧
      Bitmap.ofBytes b.width b.height b.stride b.format b.data = .ok b := by
  refine ⟨PageObject.readAs_image_made, fun b made => ?_⟩
  obtain ⟨size, laid⟩ := made.fits.laid
  refine ⟨size, laid.known, laid.holds, laid.row?_eq, fun y line => ⟨laid.length_rowBytes line, ?_⟩, laid.toRgba_eq,
    fun alpha rgba => laid.length_toRgba, made.ofBytes_eq⟩
  exact Plane.rowStart?_eq laid.checked line

theorem overwritten_bitmap_holds_its_rows :
    ∃ b : Bitmap, b.Made ∧ b.data = [1, 2, 3, 4, 50, 60, 70, 7, 8, 9, 10, 11, 12, 80] ∧
      b.row? 0 = some [1, 2, 3, 4, 50, 60] ∧ b.row? 1 = some [7, 8, 9, 10, 11, 12] ∧ b.row? 2 = none ∧
      b.toRgba .preserve = .ok [3, 2, 1, 255, 60, 50, 4, 255, 9, 8, 7, 255, 12, 11, 10, 255] ∧
      Bitmap.ofBytes b.width b.height b.stride b.format b.data = .ok b := by
  let first : Bitmap := ⟨2, 2, 7, .bgr, [1, 2, 3, 4, 5, 6, 0, 7, 8, 9, 10, 11, 12, 80]⟩
  have ofBytes : Bitmap.ofBytes 2 2 7 .bgr first.data = .ok first := by decide +kernel
  have made := (Bitmap.Made.ofBytes ofBytes).overwrite 4 [50, 60, 70]
  obtain ⟨size, known, -, rows, -, rgba, -, again⟩ := bitmaps_hold_their_rows.2 _ made
  cases known
  refine ⟨_, made, rfl, ?_, ?_, ?_, ?_, again⟩
  · rw [rows]; rfl
  · rw [rows]; rfl
  · rw [rows]; rfl
  · rw [rgba]; decide +kernel

end PageContent
