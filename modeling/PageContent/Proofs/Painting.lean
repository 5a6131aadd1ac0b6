import PageContent.Proofs.Pixels

namespace PageContent

section Paint

variable {paint : List UInt8 → List UInt8} {srcSize dstSize width : Nat} {src dst : List UInt8}

theorem getElem?_paintRow_pixel (sized : ∀ pixel, (paint pixel).length = dstSize) {x c : Nat} (column : x < width)
    (byte : c < dstSize) : (paintRow paint srcSize dstSize width src dst)[dstSize * x + c]? =
      (paint ((src.drop (srcSize * x)).take srcSize))[c]? := by
  induction width generalizing src dst x with
  | zero => omega
  | succ width ih =>
      rw [paintRow]
      cases x with
      | zero =>
          rw [List.getElem?_append_left (by simp [sized, byte])]
          simp
      | succ x =>
          have place : dstSize * (x + 1) + c = dstSize + (dstSize * x + c) := by rw [Nat.mul_succ]; omega
          have later : (paint (src.take srcSize)).length ≤ dstSize * (x + 1) + c := by rw [sized]; omega
          rw [List.getElem?_append_right later, sized, place, Nat.add_sub_cancel_left, ih (by omega),
            List.drop_drop, Nat.mul_succ, Nat.add_comm srcSize]

theorem getElem?_paintRow_rest (sized : ∀ pixel, (paint pixel).length = dstSize) {k : Nat}
    (behind : width * dstSize ≤ k) : (paintRow paint srcSize dstSize width src dst)[k]? = dst[k]? := by
  induction width generalizing src dst k with
  | zero => rfl
  | succ width ih =>
      rw [Nat.succ_mul] at behind
      rw [paintRow, List.getElem?_append_right (by rw [sized]; omega), sized, ih (by omega),
        List.getElem?_drop]
      congr 1
      omega

/-- A row that leaves the bytes from `rowSize` on as they are. -/
structure PaintsHead (row : List UInt8 → List UInt8 → List UInt8) (rowSize : Nat) : Prop where
  length : ∀ src dst, rowSize ≤ dst.length → (row src dst).length = dst.length
  rest : ∀ src dst k, rowSize ≤ k → (row src dst)[k]? = dst[k]?

theorem paintsHead_paintRow (sized : ∀ pixel, (paint pixel).length = dstSize) (width : Nat) :
    PaintsHead (paintRow paint srcSize dstSize width) (width * dstSize) :=
  ⟨fun _ _ => length_paintRow sized, fun _ _ _ => getElem?_paintRow_rest sized⟩

variable {row : List UInt8 → List UInt8 → List UInt8} {rowSize srcStride dstStride height : Nat}

theorem PaintsHead.drop (head : PaintsHead row rowSize) (stride : rowSize ≤ dstStride) :
    (row src dst).drop dstStride = dst.drop dstStride := by
  apply List.ext_getElem?
  intro k
  rw [List.getElem?_drop, List.getElem?_drop, head.rest _ _ _ (by omega)]

/-- The rows of a buffer follow each other at the distance of a stride, and the last one ends inside. -/
def RowsFit (length rowSize stride height : Nat) : Prop :=
  rowSize ≤ stride ∧ ∀ y < height, y * stride + rowSize ≤ length

theorem RowsFit.tail {length : Nat} (fits : RowsFit length rowSize dstStride (height + 1)) :
    RowsFit (length - dstStride) rowSize dstStride height := by
  refine ⟨fits.1, fun y inside => ?_⟩
  have below := fits.2 (y + 1) (by omega)
  rw [Nat.succ_mul] at below
  omega

theorem getElem?_paintRows_row (head : PaintsHead row rowSize)
    (fits : RowsFit dst.length rowSize dstStride height) {y j : Nat} (line : y < height) (inside : j < rowSize) :
    (paintRows row srcStride dstStride height src dst)[y * dstStride + j]? =
      (row (src.drop (y * srcStride)) (dst.drop (y * dstStride)))[j]? := by
  induction height generalizing src dst y with
  | zero => omega
  | succ height ih =>
      have first := fits.2 0 (by omega)
      have stride := fits.1
      have painted : (row src dst).length = dst.length := head.length src dst (by omega)
      rw [paintRows]
      cases y with
      | zero =>
          rw [Nat.zero_mul, Nat.zero_add] at first ⊢
          rw [List.getElem?_append_left (by rw [List.length_take]; omega), List.getElem?_take_of_lt (by omega)]
          simp
      | succ y =>
          have whole := fits.2 (y + 1) line
          rw [Nat.succ_mul] at whole ⊢
          have taken : ((row src dst).take dstStride).length = dstStride := by
            rw [List.length_take]
            omega
          have place : y * dstStride + dstStride + j - dstStride = y * dstStride + j := by omega
          have rest : RowsFit (dst.drop dstStride).length rowSize dstStride height := by
            rw [List.length_drop]
            exact fits.tail
          rw [List.getElem?_append_right (by omega), taken, place, head.drop stride, ih rest (by omega),
            List.drop_drop, List.drop_drop, Nat.add_comm dstStride, Nat.succ_mul, Nat.add_comm srcStride]

theorem getElem?_paintRows_rest (head : PaintsHead row rowSize)
    (fits : RowsFit dst.length rowSize dstStride height) {k : Nat}
    (outside : ∀ y < height, ∀ j < rowSize, k ≠ y * dstStride + j) :
    (paintRows row srcStride dstStride height src dst)[k]? = dst[k]? := by
  induction height generalizing src dst k with
  | zero => rfl
  | succ height ih =>
      have stride := fits.1
      have first := fits.2 0 (by omega)
      have painted : (row src dst).length = dst.length := head.length src dst (by omega)
      have behind : rowSize ≤ k := by
        by_contra inside
        exact outside 0 (by omega) k (by omega) (by omega)
      have rest : RowsFit (dst.drop dstStride).length rowSize dstStride height := by
        rw [List.length_drop]
        exact fits.tail
      rw [paintRows, head.drop stride, List.getElem?_append, List.length_take, painted]
      by_cases early : k < min dstStride dst.length
      · rw [if_pos early, List.getElem?_take_of_lt (by omega), head.rest _ _ _ behind]
      · rw [if_neg early]
        by_cases short : dst.length ≤ k
        · have size : (paintRows row srcStride dstStride height (src.drop srcStride) (dst.drop dstStride)).length =
              (dst.drop dstStride).length :=
            length_paintRows head.length fun above same => rest.2 above (by omega)
          rw [List.getElem?_eq_none (by rw [size, List.length_drop]; omega), List.getElem?_eq_none short]
        · have place : k - min dstStride dst.length = k - dstStride := by omega
          rw [place, ih rest, List.getElem?_drop]
          · congr 1
            omega
          · intro y line j inside same
            have again := outside (y + 1) (by omega) j inside
            rw [Nat.succ_mul] at again
            omega

end Paint

namespace Plane

def start (p : Plane) (size x y : Nat) : Nat := y * p.stride + size * x

def Spares (p : Plane) (size width height k : Nat) : Prop :=
  ∀ y < height, ∀ x < width, ∀ c < size, k ≠ p.start size x y + c

end Plane

section Planes

variable {paint : List UInt8 → List UInt8} {srcSize dstSize width height : Nat} {src dst : Plane}

theorem length_paintPlane (sized : ∀ pixel, (paint pixel).length = dstSize)
    (fits : RowsFit dst.bytes.length (width * dstSize) dst.stride height) :
    (paintPlane paint srcSize dstSize width height src dst).length = dst.bytes.length := by
  rw [paintPlane]
  split
  case isTrue => rfl
  case isFalse =>
    have head : PaintsHead (paintRow paint srcSize dstSize width) _ := paintsHead_paintRow sized width
    exact length_paintRows head.length fun above same => fits.2 above (by omega)

theorem getElem?_paintPlane_pixel (sized : ∀ pixel, (paint pixel).length = dstSize)
    (fits : RowsFit dst.bytes.length (width * dstSize) dst.stride height) {x y c : Nat} (line : y < height)
    (column : x < width) (byte : c < dstSize) :
    (paintPlane paint srcSize dstSize width height src dst)[dst.start dstSize x y + c]? =
      (paint ((src.bytes.drop (src.start srcSize x y)).take srcSize))[c]? := by
  have inside : dstSize * x + c < width * dstSize := by
    have next : dstSize * (x + 1) ≤ dstSize * width := Nat.mul_le_mul_left _ column
    rw [Nat.mul_succ] at next
    rw [Nat.mul_comm width]
    omega
  rw [paintPlane, if_neg (by omega), Plane.start, Nat.add_assoc,
    getElem?_paintRows_row (paintsHead_paintRow sized width) fits line inside,
    getElem?_paintRow_pixel sized column byte, List.drop_drop, Plane.start]

theorem getElem?_paintPlane_rest (sized : ∀ pixel, (paint pixel).length = dstSize)
    (fits : RowsFit dst.bytes.length (width * dstSize) dst.stride height) {k : Nat}
    (spared : dst.Spares dstSize width height k) :
    (paintPlane paint srcSize dstSize width height src dst)[k]? = dst.bytes[k]? := by
  rw [paintPlane]
  split
  case isTrue => rfl
  case isFalse =>
    refine getElem?_paintRows_rest (paintsHead_paintRow sized width) fits fun y line j inside => ?_
    have positive : 0 < dstSize := Nat.pos_of_ne_zero fun none => by simp [none] at inside
    have column : j / dstSize < width := (Nat.div_lt_iff_lt_mul positive).mpr inside
    have other := spared y line (j / dstSize) column (j % dstSize) (Nat.mod_lt j positive)
    rwa [Plane.start, Nat.add_assoc, Nat.div_add_mod] at other

end Planes

theorem RowsFit.of_check {buffer : Buffer} {length rowSize stride height : Nat}
    (checked : Layout.check buffer length rowSize stride height = .ok ()) : RowsFit length rowSize stride height := by
  obtain ⟨wide, required, extent, enough⟩ := Layout.check_eq_ok_iff.mp checked
  refine ⟨wide, fun y line => ?_⟩
  obtain ⟨above, rfl⟩ := Nat.exists_eq_succ_of_ne_zero (Nat.ne_zero_of_lt line)
  have last := Layout.extent?_succ extent
  have before : y * stride ≤ above * stride := Nat.mul_le_mul_right _ (by omega)
  omega

theorem Layout.rowSize_eq_ok_iff {width size row : Nat} :
    Layout.rowSize width size = .ok row ↔ width * size < Layout.sizeLimit ∧ row = width * size := by
  rw [Layout.rowSize]
  split
  case isTrue small => simp [small, eq_comm]
  case isFalse large => simp [large]

/-- What is checked before the first byte is written: the rows of both pictures lie inside their buffers. -/
def checkPlanes (width srcSize dstSize height : Nat) (src dst : Plane) : Except Error Unit := do
  let srcRow ← Layout.rowSize width srcSize
  let dstRow ← Layout.rowSize width dstSize
  Layout.check .source src.bytes.length srcRow src.stride height
  Layout.check .destination dst.bytes.length dstRow dst.stride height

section Convert

variable {format : PixelFormat} {alpha : AlphaMode} {size width height : Nat} {src dst : Plane}

theorem checkPlanes_eq_ok_iff {srcSize dstSize : Nat} :
    checkPlanes width srcSize dstSize height src dst = .ok () ↔
      width * srcSize < Layout.sizeLimit ∧ width * dstSize < Layout.sizeLimit ∧
        Layout.check .source src.bytes.length (width * srcSize) src.stride height = .ok () ∧
        Layout.check .destination dst.bytes.length (width * dstSize) dst.stride height = .ok () := by
  simp only [checkPlanes, bind_eq_ok_iff, Layout.rowSize_eq_ok_iff]
  constructor
  · rintro ⟨_, ⟨small, rfl⟩, _, ⟨small', rfl⟩, _, checked, checked'⟩
    exact ⟨small, small', checked, checked'⟩
  · rintro ⟨small, small', checked, checked'⟩
    exact ⟨_, ⟨small, rfl⟩, _, ⟨small', rfl⟩, (), checked, checked'⟩

theorem checkPlanes_congr {src' : Plane} {srcSize dstSize : Nat} (stride : src'.stride = src.stride)
    (length : src'.bytes.length = src.bytes.length) :
    checkPlanes width srcSize dstSize height src' dst = checkPlanes width srcSize dstSize height src dst := by
  simp only [checkPlanes, stride, length]

theorem convertToRgba_eq (known : format.pixelSize = some size) :
    convertToRgba format alpha width height src dst = (checkPlanes width size 4 height src dst).map fun _ =>
      paintPlane (fun pixel => (format.decode alpha pixel).rgba) size 4 width height src dst := by
  simp only [convertToRgba, known, checkPlanes]
  cases Layout.rowSize width size with
  | error e => rfl
  | ok srcRow =>
      cases Layout.rowSize width 4 with
      | error e => rfl
      | ok dstRow =>
          simp only [bind, Except.bind]
          cases Layout.check .source src.bytes.length srcRow src.stride height with
          | error e => rfl
          | ok => cases Layout.check .destination dst.bytes.length dstRow dst.stride height <;> rfl

theorem convertFromRgba_eq : convertFromRgba width height src dst = (checkPlanes width 4 4 height src dst).map
    fun _ => paintPlane (fun pixel => (Color.ofRgba pixel).bgra) 4 4 width height src dst := by
  simp only [convertFromRgba, checkPlanes]
  cases Layout.rowSize width 4 with
  | error e => rfl
  | ok row =>
      simp only [bind, Except.bind]
      cases Layout.check .source src.bytes.length row src.stride height with
      | error e => rfl
      | ok => cases Layout.check .destination dst.bytes.length row dst.stride height <;> rfl

theorem convertToRgba_eq_ok_iff {out : List UInt8} : convertToRgba format alpha width height src dst = .ok out ↔
    ∃ size, format.pixelSize = some size ∧ checkPlanes width size 4 height src dst = .ok () ∧
      out = paintPlane (fun pixel => (format.decode alpha pixel).rgba) size 4 width height src dst := by
  cases known : format.pixelSize with
  | none => simp [convertToRgba, known]
  | some size =>
      rw [convertToRgba_eq known]
      cases checked : checkPlanes width size 4 height src dst <;> simp [Except.map, checked, eq_comm]

theorem convertFromRgba_eq_ok_iff {out : List UInt8} : convertFromRgba width height src dst = .ok out ↔
    checkPlanes width 4 4 height src dst = .ok () ∧
      out = paintPlane (fun pixel => (Color.ofRgba pixel).bgra) 4 4 width height src dst := by
  rw [convertFromRgba_eq]
  cases checkPlanes width 4 4 height src dst <;> simp [Except.map, eq_comm]

def PixelFormat.telling (format : PixelFormat) (alpha : AlphaMode) : Nat :=
  if format = .bgra ∧ alpha = .preserve then 4 else 3

/-- The bytes of a packed pixel that give red, green, blue and alpha. Where none gives it, alpha is full. -/
def PixelFormat.order (format : PixelFormat) (alpha : AlphaMode) : Nat → Option Nat
  | 0 => some 2
  | 1 => some 1
  | 2 => some 0
  | _ => if format = .bgra ∧ alpha = .preserve then some 3 else none

def rgbaOrder : Nat → Option Nat
  | 0 => some 2
  | 1 => some 1
  | 2 => some 0
  | _ => some 3

theorem PixelFormat.lt_telling {c i : Nat} (source : format.order alpha c = some i) : i < format.telling alpha := by
  rw [telling]
  unfold order at source
  split at source
  case h_4 =>
    split at source
    case isTrue preserved => cases source; simp [preserved]
    case isFalse => cases source
  all_goals cases source; split <;> omega

theorem PixelFormat.telling_le (known : format.pixelSize = some size) : format.telling alpha ≤ size := by
  rw [telling]
  cases format <;> cases known <;> simp
  split <;> omega

theorem lt_of_rgbaOrder {c i : Nat} (source : rgbaOrder c = some i) : i < 4 := by
  unfold rgbaOrder at source
  split at source <;> cases source <;> omega

theorem PixelFormat.getElem?_decode (known : format.pixelSize = some size) {pixel : List UInt8}
    (whole : pixel.length = size) {c : Nat} (byte : c < 4) :
    (format.decode alpha pixel).rgba[c]? = (format.order alpha c).elim (some 255) (pixel[·]?) := by
  match c, byte with
  | 0, _ | 1, _ | 2, _ | 3, _ =>
    cases format with
    | unknown => cases known
    | bgr =>
        cases known
        match pixel, whole with
        | [b, g, r], _ => simp [decode, Color.rgba, order]
    | bgrx | bgra =>
        cases known
        match pixel, whole with
        | [b, g, r, a], _ => cases alpha <;> simp [decode, Color.rgba, order]

theorem getElem?_ofRgba {pixel : List UInt8} (whole : pixel.length = 4) {c : Nat} (byte : c < 4) :
    (Color.ofRgba pixel).bgra[c]? = (rgbaOrder c).elim (some 255) (pixel[·]?) := by
  match pixel, whole with
  | [r, g, b, a], _ =>
    match c, byte with
    | 0, _ | 1, _ | 2, _ | 3, _ => rfl

/-- The buffer `dst` with the pixels of `src` in the place of its own, in which the bytes stand in another order. -/
structure Repaints (order : Nat → Option Nat) (size width height : Nat) (src dst : Plane) (out : List UInt8) :
    Prop where
  length : out.length = dst.bytes.length
  inside : ∀ y < height, ∀ x < width,
    src.start size x y + size ≤ src.bytes.length ∧ dst.start 4 x y + 4 ≤ dst.bytes.length
  pixels : ∀ y < height, ∀ x < width, ∀ c < 4, out[dst.start 4 x y + c]? =
    (order c).elim (some 255) fun i => src.bytes[src.start size x y + i]?
  rest : ∀ k, dst.Spares 4 width height k → out[k]? = dst.bytes[k]?

theorem RowsFit.start_le {p : Plane} {x y : Nat} (fits : RowsFit p.bytes.length (width * size) p.stride height)
    (line : y < height) (column : x < width) : p.start size x y + size ≤ p.bytes.length := by
  have row := fits.2 y line
  have next : size * (x + 1) ≤ size * width := Nat.mul_le_mul_left _ column
  rw [Nat.mul_succ] at next
  rw [Nat.mul_comm width] at row
  rw [Plane.start]
  omega

theorem repaints_paintPlane {paint : List UInt8 → List UInt8} {order : Nat → Option Nat}
    (sized : ∀ pixel, (paint pixel).length = 4) (ordered : ∀ c i, order c = some i → i < size)
    (painted : ∀ pixel : List UInt8, pixel.length = size → ∀ c < 4,
      (paint pixel)[c]? = (order c).elim (some 255) (pixel[·]?))
    (checked : checkPlanes width size 4 height src dst = .ok ()) :
    Repaints order size width height src dst (paintPlane paint size 4 width height src dst) := by
  obtain ⟨-, -, source, destination⟩ := checkPlanes_eq_ok_iff.mp checked
  have srcFits := RowsFit.of_check source
  have dstFits := RowsFit.of_check destination
  refine ⟨length_paintPlane sized dstFits, fun y line x column => ⟨srcFits.start_le line column,
    dstFits.start_le line column⟩, fun y line x column c byte => ?_,
    fun k spared => getElem?_paintPlane_rest sized dstFits spared⟩
  have whole : ((src.bytes.drop (src.start size x y)).take size).length = size := by
    have inside := srcFits.start_le line column
    rw [List.length_take, List.length_drop]
    omega
  rw [getElem?_paintPlane_pixel sized dstFits line column byte, painted _ whole c byte]
  cases source : order c with
  | none => rfl
  | some i =>
      simp only [Option.elim_some]
      rw [List.getElem?_take_of_lt (ordered c i source), List.getElem?_drop]

theorem repaints_rgba (known : format.pixelSize = some size)
    (checked : checkPlanes width size 4 height src dst = .ok ()) :
    Repaints (format.order alpha) size width height src dst
      (paintPlane (fun pixel => (format.decode alpha pixel).rgba) size 4 width height src dst) := by
  refine repaints_paintPlane (fun _ => rfl) (fun c i source => ?_) (fun pixel whole c byte => ?_) checked
  · exact Nat.lt_of_lt_of_le (PixelFormat.lt_telling source) (PixelFormat.telling_le known)
  · exact PixelFormat.getElem?_decode known whole byte

theorem repaints_bgra (checked : checkPlanes width 4 4 height src dst = .ok ()) :
    Repaints rgbaOrder 4 width height src dst
      (paintPlane (fun pixel => (Color.ofRgba pixel).bgra) 4 4 width height src dst) :=
  repaints_paintPlane (fun _ => rfl) (fun _ _ => lt_of_rgbaOrder) (fun _ whole _ => getElem?_ofRgba whole) checked

theorem Repaints.unique {order : Nat → Option Nat} {src' : Plane} {out out' : List UInt8}
    (repaints : Repaints order size width height src dst out)
    (repaints' : Repaints order size width height src' dst out')
    (agree : ∀ y < height, ∀ x < width, ∀ c < 4, ∀ i, order c = some i →
      src'.bytes[src'.start size x y + i]? = src.bytes[src.start size x y + i]?) : out' = out := by
  apply List.ext_getElem?
  intro k
  by_cases spared : dst.Spares 4 width height k
  · rw [repaints.rest k spared, repaints'.rest k spared]
  · simp only [Plane.Spares, not_forall, not_not] at spared
    obtain ⟨y, line, x, column, c, byte, rfl⟩ := spared
    rw [repaints.pixels y line x column c byte, repaints'.pixels y line x column c byte]
    cases source : order c with
    | none => rfl
    | some i => exact agree y line x column c byte i source

theorem convertToRgba_repaints {out : List UInt8}
    (converted : convertToRgba format alpha width height src dst = .ok out) :
    ∃ size, format.pixelSize = some size ∧ Repaints (format.order alpha) size width height src dst out := by
  obtain ⟨size, known, checked, rfl⟩ := convertToRgba_eq_ok_iff.mp converted
  exact ⟨size, known, repaints_rgba known checked⟩

theorem convertFromRgba_repaints {out : List UInt8} (converted : convertFromRgba width height src dst = .ok out) :
    Repaints rgbaOrder 4 width height src dst out := by
  obtain ⟨checked, rfl⟩ := convertFromRgba_eq_ok_iff.mp converted
  exact repaints_bgra checked

theorem convertToRgba_congr {src' : Plane} (stride : src'.stride = src.stride)
    (length : src'.bytes.length = src.bytes.length)
    (agree : ∀ size, format.pixelSize = some size → ∀ y < height, ∀ x < width, ∀ i < format.telling alpha,
      src'.bytes[src.start size x y + i]? = src.bytes[src.start size x y + i]?) :
    convertToRgba format alpha width height src' dst = convertToRgba format alpha width height src dst := by
  cases known : format.pixelSize with
  | none => simp only [convertToRgba, known]
  | some size =>
      rw [convertToRgba_eq known, convertToRgba_eq known, checkPlanes_congr stride length]
      cases checked : checkPlanes width size 4 height src dst with
      | error e => rfl
      | ok =>
          have checked' := (checkPlanes_congr stride length).trans checked
          have before : Repaints (format.order alpha) size width height src dst _ := repaints_rgba known checked
          have same := before.unique (repaints_rgba known checked')
            fun y line x column c byte i source => by
              rw [Plane.start, stride]
              exact agree size known y line x column i (PixelFormat.lt_telling source)
          exact congrArg Except.ok same

theorem convertFromRgba_congr {src' : Plane} (stride : src'.stride = src.stride)
    (length : src'.bytes.length = src.bytes.length)
    (agree : ∀ y < height, ∀ x < width, ∀ i < 4,
      src'.bytes[src.start 4 x y + i]? = src.bytes[src.start 4 x y + i]?) :
    convertFromRgba width height src' dst = convertFromRgba width height src dst := by
  rw [convertFromRgba_eq, convertFromRgba_eq, checkPlanes_congr stride length]
  cases checked : checkPlanes width 4 4 height src dst with
  | error e => rfl
  | ok =>
      have checked' := (checkPlanes_congr stride length).trans checked
      have same := (repaints_bgra checked).unique (repaints_bgra checked')
        fun y line x column c byte i source => by
          rw [Plane.start, stride]
          exact agree y line x column i (lt_of_rgbaOrder source)
      exact congrArg Except.ok same

/-- A conversion that succeeds gives each pixel of the destination the colour of the source pixel in the same row
and column, and keeps every byte that is part of no pixel. What stands in the source beside the bytes that tell
colours has no influence on how a conversion ends. -/
theorem conversions_repaint_pixels (width height : Nat) (src dst : Plane) :
    (∀ format alpha out, convertToRgba format alpha width height src dst = .ok out →
      ∃ size, format.pixelSize = some size ∧ Repaints (format.order alpha) size width height src dst out) ∧
    (∀ out, convertFromRgba width height src dst = .ok out → Repaints rgbaOrder 4 width height src dst out) ∧
    ∀ src' : Plane, src'.stride = src.stride → src'.bytes.length = src.bytes.length →
      (∀ (format : PixelFormat) (alpha : AlphaMode),
        (∀ size, format.pixelSize = some size → ∀ y < height, ∀ x < width, ∀ i < format.telling alpha,
          src'.bytes[src.start size x y + i]? = src.bytes[src.start size x y + i]?) →
        convertToRgba format alpha width height src' dst = convertToRgba format alpha width height src dst) ∧
      ((∀ y < height, ∀ x < width, ∀ i < 4,
          src'.bytes[src.start 4 x y + i]? = src.bytes[src.start 4 x y + i]?) →
        convertFromRgba width height src' dst = convertFromRgba width height src dst) :=
  ⟨fun _ _ _ => convertToRgba_repaints, fun _ => convertFromRgba_repaints, fun _ stride length =>
    ⟨fun _ _ => convertToRgba_congr stride length, convertFromRgba_congr stride length⟩⟩

theorem conversions_repaint_padded_rows :
    ∃ src src' dst : Plane, ∃ out,
      convertToRgba .bgra .preserve 1 2 src dst = .ok out ∧
      out = [3, 2, 1, 4, 90, 7, 6, 5, 8] ∧ Repaints (PixelFormat.bgra.order .preserve) 4 1 2 src dst out ∧
      src'.bytes ≠ src.bytes ∧
      convertToRgba .bgrx .preserve 1 2 src' dst = convertToRgba .bgrx .preserve 1 2 src dst := by
  let src : Plane := ⟨[1, 2, 3, 4, 50, 51, 5, 6, 7, 8], 6⟩
  let src' : Plane := ⟨[1, 2, 3, 0, 60, 61, 5, 6, 7, 0], 6⟩
  let dst : Plane := ⟨[0, 0, 0, 0, 90, 0, 0, 0, 0], 5⟩
  obtain ⟨repaints, -, keeps⟩ := conversions_repaint_pixels 1 2 src dst
  have converted : convertToRgba .bgra .preserve 1 2 src dst = .ok [3, 2, 1, 4, 90, 7, 6, 5, 8] := by decide +kernel
  obtain ⟨size, known, painted⟩ := repaints .bgra .preserve _ converted
  cases known
  have agree : ∀ y < 2, ∀ x < 1, ∀ i < 3, src'.bytes[src.start 4 x y + i]? = src.bytes[src.start 4 x y + i]? := by
    decide
  refine ⟨src, src', dst, _, converted, rfl, painted, by decide, (keeps src' rfl rfl).1 .bgrx .preserve ?_⟩
  rintro size ⟨⟩
  exact agree

end Convert

end PageContent
