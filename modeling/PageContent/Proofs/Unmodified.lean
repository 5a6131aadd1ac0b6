import PageContent.Proofs.Rewriting

namespace PageContent

def FillRule.wound : FillRule → FillRule
  | .none => .none
  | .evenOdd | .winding => .winding

theorem FillRule.wound_eq_self_iff {rule : FillRule} : rule.wound = rule ↔ rule ≠ .evenOdd := by
  cases rule <;> simp [wound]

theorem Content.drawMode_of_fill (mode : DrawMode) :
    drawMode (mode.fill ≠ .none) mode.stroke = { mode with fill := mode.fill.wound } := by
  obtain ⟨fill, stroke⟩ := mode
  cases fill <;> rfl

theorem Bitmap.toRaw_of_ofBytes {raw : RawBitmap} {bitmap : Bitmap}
    (valid : Bitmap.ofBytes raw.width raw.height raw.stride (.ofCode raw.code) raw.data = .ok bitmap) :
    bitmap.toRaw = raw := by
  obtain ⟨same, size, row, known, -⟩ := ofBytes_eq_ok_iff.mp valid
  have formatted : PixelFormat.ofCode raw.code ≠ .unknown := by
    intro unknown
    rw [same, unknown] at known
    cases known
  rw [same, toRaw, PixelFormat.code_ofCode formatted]

namespace StoredContent

def wound : StoredContent → StoredContent
  | .path segments mode => .path segments { mode with fill := mode.fill.wound }
  | content => content

/-- If this is a text, it is not empty and every surrogate in it has its partner. -/
def Spelled : StoredContent → Prop
  | .text _ _ units _ => Utf16.body units ≠ [] ∧ Utf16.Paired (Utf16.body units)
  | .path .. | .image _ | .shading => True

theorem wound_eq_self_iff {stored : StoredContent} :
    stored.wound = stored ↔ ∀ segments mode, stored = .path segments mode → mode.fill ≠ .evenOdd := by
  cases stored with
  | path segments mode =>
      constructor
      · rintro same _ _ ⟨⟩
        rw [wound, path.injEq] at same
        exact FillRule.wound_eq_self_iff.mp (congrArg DrawMode.fill same.2)
      · intro filled
        rw [wound, FillRule.wound_eq_self_iff.mpr (filled segments mode rfl)]
  | image | text | shading => exact ⟨fun _ => nofun, fun _ => rfl⟩

theorem localPoints_wound (stored : StoredContent) : stored.wound.localPoints = stored.localPoints := by
  cases stored <;> rfl

/-- What is shown of a content has all that is written again, but for the rule of a filling. -/
theorem Shows.written_eq {fonts : Table FontId String} {stored : StoredContent} {content : Content}
    (shows : stored.Shows fonts content) (sound : stored.Sound fonts) (spelled : stored.Spelled) :
    content.written stored = some stored.wound := by
  cases shows with
  | path => rw [Content.written, Content.drawMode_of_fill, wound]
  | image valid =>
      rw [Content.written, Bitmap.toRaw_of_ofBytes valid]
      rfl
  | @text id size units code name font mode named known nonempty coded =>
      have filled : ¬(Utf16.toText units).isEmpty = true := by
        rw [String.isEmpty_iff]
        exact fun empty => spelled.1 (Utf16.toText_eq_empty_iff.mp empty)
      rw [Content.written, if_neg filled, Utf16.terminated_ofText_toText spelled.2, sound.2.terminated_eq,
        RenderMode.code_of_ofCode? coded]
      rfl

end StoredContent

variable {d : Document} {object : ObjectId} {page : PageRef} {st : StoredObject} {o : PageObject}

theorem PageObject.update_of_shows (reachable : d.Reachable) (works : d.failing = [])
    (known : d.objects.get? object = some st) (spelled : st.content.Spelled) (shows : d.Shows object page.page o) :
    ∃ matrix, o.update object page d = (.ok (), d.put object { st with content := st.content.wound, matrix }) := by
  obtain ⟨st', p, bounds, placeable, content, attributes⟩ := shows
  cases known.symm.trans placeable.object
  have written := content.written_eq (reachable.sound.contents object st known) spelled
  have absent := Document.not_mem_failing works
  have width : o.attributes.strokeWidth = st.strokeWidth := by rw [attributes]
  have bounded : (StoredObject.new st.content.wound).localBounds? = some bounds := by
    rw [← placeable.bounds, StoredObject.localBounds?, StoredObject.localBounds?, StoredObject.bounds?,
      StoredObject.bounds?]
    simp only [StoredObject.new, StoredContent.localPoints_wound]
  have writable : d.Writable object page.page o st st.content.wound p bounds :=
    ⟨⟨known, written, fun _ => absent _⟩, ⟨width ▸ reachable.stroked object st known, absent _⟩, placeable.page,
      absent _, absent _, bounded⟩
  have same : o.onto st.content.wound bounds p.height = { st with
      content := st.content.wound
      matrix := (placement o.attributes.deviceMatrix bounds p.height).foldl Matrix.multiply .identity } := by
    rw [onto, attributes]
  exact ⟨_, update_eq_ok_iff.mpr ⟨st, _, p, bounds, writable, congrArg (d.put object) same.symm⟩⟩

/-- What was read is always written back, and no other object is touched. All that is stored stays as it was, apart
from the transform and from the rule of a filling: a path filled by the even-odd rule is filled by the winding rule
afterwards. -/
theorem unmodified_update_winds_paths (reachable : d.Reachable) (works : d.failing = [])
    (known : d.objects.get? object = some st) (spelled : st.content.Spelled)
    (read : (PageObject.read object page d).1 = .ok o) :
    (∃ matrix, o.update object page d = (.ok (), d.put object { st with content := st.content.wound, matrix })) ∧
    ((∃ matrix, o.update object page d = (.ok (), d.put object { st with matrix })) ↔
      ∀ segments mode, st.content = .path segments mode → mode.fill ≠ .evenOdd) := by
  obtain ⟨matrix, updated⟩ :=
    PageObject.update_of_shows reachable works known spelled (PageObject.read_eq_ok_iff.mp read)
  refine ⟨⟨matrix, updated⟩, ?_⟩
  rw [← StoredContent.wound_eq_self_iff]
  constructor
  · rintro ⟨matrix', updated'⟩
    rw [updated, Prod.mk.injEq] at updated'
    have same := congrArg (·.objects.get? object) updated'.2
    simp only [Document.get?_put_self, Option.some.injEq, StoredObject.mk.injEq] at same
    exact same.1
  · intro same
    rw [same] at updated
    exact ⟨matrix, updated⟩

theorem unmodified_update_keeps_text :
    ∃ (d : Document) (st : StoredObject) (o : PageObject) (matrix : Matrix Float32), d.Reachable ∧ d.failing = [] ∧
      d.objects.get? ⟨4⟩ = some st ∧ st.content = .text ⟨3⟩ 12 [0xD834, 0xDD1E, 0] 0 ∧ st.content.Spelled ∧
      o.content = .text "𝄞" ⟨.helvetica, false, false⟩ 12 .fill ∧
      (PageObject.read ⟨4⟩ ⟨⟨1⟩, ⟨2⟩⟩ d).1 = .ok o ∧
      o.update ⟨4⟩ ⟨⟨1⟩, ⟨2⟩⟩ d = (.ok (), d.put ⟨4⟩ { st with matrix }) := by
  have page := ((Document.reachable_empty false).step .createDocument).step (.addPage 792)
  have text := (page.step (.call (.loadFont ⟨1⟩ "Helvetica"))).step (.call (.createText ⟨1⟩ ⟨3⟩ 12))
  have reachable := text.step (.call (.setText ⟨4⟩ [0xD834, 0xDD1E]))
  let st : StoredObject := .new (.text ⟨3⟩ 12 [0xD834, 0xDD1E, 0] 0)
  let o : PageObject :=
    ⟨.text "𝄞" ⟨.helvetica, false, false⟩ 12 .fill, ⟨⟨1, 0, 0, 1, 0, 780⟩, .black, .black, 1⟩⟩
  generalize same : (Document.perform (.setText ⟨4⟩ [0xD834, 0xDD1E]) _).2 = d at reachable
  have works : d.failing = [] := by rw [← same]; rfl
  have known : d.objects.get? ⟨4⟩ = some st := by rw [← same]; rfl
  have spelled : st.content.Spelled := ⟨by decide, .pair (by decide) (by decide) .nil⟩
  have read : (PageObject.read ⟨4⟩ ⟨⟨1⟩, ⟨2⟩⟩ d).1 = .ok o := by rw [← same]; decide +kernel
  obtain ⟨matrix, updated⟩ := (unmodified_update_winds_paths reachable works known spelled read).2.mpr nofun
  exact ⟨d, st, o, matrix, reachable, works, known, rfl, spelled, rfl, read, updated⟩

/-- A path that was filled by the even-odd rule is read, written back as it was read, and filled by the winding
rule. -/
theorem unmodified_update_changes_even_odd :
    ∃ (d d' : Document) (o : PageObject), d.Reachable ∧ d.failing = [] ∧ (d.pages.get? ⟨2⟩).isSome = true ∧
      (d.content? ⟨3⟩).bind (·.drawMode?) = some ⟨.evenOdd, true⟩ ∧
      (PageObject.read ⟨3⟩ ⟨⟨1⟩, ⟨2⟩⟩ d).1 = .ok o ∧ o.update ⟨3⟩ ⟨⟨1⟩, ⟨2⟩⟩ d = (.ok (), d') ∧
      (d'.content? ⟨3⟩).bind (·.drawMode?) = some ⟨.winding, true⟩ := by
  have page := ((Document.reachable_empty false).step .createDocument).step (.addPage 792)
  have path := (page.step (.call (.createPath 0 0))).step (.call (.addSegment ⟨3⟩ .line 10 10))
  have reachable := path.step (.call (.setDrawMode ⟨3⟩ ⟨.evenOdd, true⟩))
  let o : PageObject :=
    ⟨.path [⟨.move, 0, 0, false⟩, ⟨.line, 10, 10, false⟩] true true, ⟨⟨1, 0, 0, 1, 0, 782⟩, .black, .black, 1⟩⟩
  generalize same : (Document.perform (.setDrawMode ⟨3⟩ ⟨.evenOdd, true⟩) _).2 = d at reachable
  refine ⟨d, (o.update ⟨3⟩ ⟨⟨1⟩, ⟨2⟩⟩ d).2, o, reachable, ?_, ?_, ?_, ?_, Prod.ext ?_ rfl, ?_⟩ <;>
    rw [← same] <;> decide +kernel

end PageContent
