import PageContent.Proofs.Pixels
import PageContent.Proofs.Showing
import PageContent.Proofs.Spelling

namespace PageContent

/-- What is stored after a content was written to a stored one, if it can be. The segments of a path and
the font of a text are not written. -/
def Content.written : Content → StoredContent → Option StoredContent
  | .path _ fill stroke, .path stored _ => some (.path stored (drawMode fill stroke))
  | .image bitmap, .image _ => some (.image (some bitmap.toRaw))
  | .text string _ _ mode, .text id size _ _ =>
    if string.isEmpty then none
    else some (.text id size (Utf16.terminated (Utf16.ofText string)) mode.code)
  | _, _ => none

theorem Content.kind_eq_of_written {content : Content} {before stored : StoredContent}
    (written : content.written before = some stored) : before.kind = content.kind := by
  cases content with
  | path =>
      cases before with
      | path => rfl
      | image | text | shading => cases written
  | image =>
      cases before with
      | image => rfl
      | path | text | shading => cases written
  | text =>
      cases before with
      | text => rfl
      | path | image | shading => cases written

/-- The parts of a content that are never written again are those of a stored one. -/
inductive Content.Suits (fonts : Table FontId String) : Content → StoredContent → Prop
  | path {segments fill stroke stored mode} (nonempty : segments ≠ []) (same : stored = segments.map Segment.stored) :
      Suits fonts (.path segments fill stroke) (.path stored mode)
  | image {bitmap raw} : Suits fonts (.image bitmap) (.image raw)
  | text {string font size mode id name units code} (named : fonts.get? id = some name)
      (known : Font.ofName name = .ok font) : Suits fonts (.text string font size mode) (.text id size units code)

/-- What is shown agrees with what was written, as far as that is written. -/
inductive Content.Echoes : Content → Content → Prop
  | path {segments segments' fill stroke} : Echoes (.path segments fill stroke) (.path segments' fill stroke)
  | image {bitmap} : Echoes (.image bitmap) (.image bitmap)
  | text {string font font' size size' mode} :
      Echoes (.text (Utf16.beforeZero string) font size mode) (.text string font' size' mode)

def Content.Made : Content → Prop
  | .image bitmap => bitmap.Made
  | .path .. | .text .. => True

theorem Content.drawMode_fill (fill stroke : Bool) : decide ((drawMode fill stroke).fill ≠ .none) = fill := by
  cases fill <;> rfl

theorem Content.shows_written_iff {content shown : Content} {before stored : StoredContent}
    {fonts : Table FontId String} (written : content.written before = some stored) (made : content.Made) :
    stored.Shows fonts shown ↔ shown.Suits fonts before ∧ shown.Echoes content := by
  cases content with
  | path segments fill stroke =>
      cases before with
      | path segments' mode =>
          cases written
          constructor
          · rintro (⟨nonempty, same⟩ | _ | _)
            rw [drawMode_fill]
            exact ⟨.path nonempty same, .path⟩
          · rintro ⟨suits, echoes⟩
            cases echoes
            cases suits with
            | path nonempty same =>
                have shows : (StoredContent.path segments' (drawMode fill stroke)).Shows fonts
                    (.path _ ((drawMode fill stroke).fill ≠ .none) (drawMode fill stroke).stroke) :=
                  .path nonempty same
                rw [drawMode_fill] at shows
                exact shows
      | image | text | shading => cases written
  | image bitmap =>
      cases before with
      | image raw =>
          cases written
          have same : Bitmap.ofBytes bitmap.toRaw.width bitmap.toRaw.height bitmap.toRaw.stride
              (.ofCode bitmap.toRaw.code) bitmap.toRaw.data = .ok bitmap := by
            rw [Bitmap.toRaw, PixelFormat.ofCode_code]
            exact made.ofBytes_eq
          constructor
          · intro shows
            cases shows with
            | image valid =>
                cases same.symm.trans valid
                exact ⟨.image, .image⟩
          · rintro ⟨-, echoes⟩
            cases echoes
            exact .image same
      | path | text | shading => cases written
  | text string font size mode =>
      cases before with
      | text id size' units code =>
          rw [Content.written] at written
          split at written
          · cases written
          cases written
          constructor
          · intro shows
            cases shows with
            | text named known nonempty coded =>
                cases (RenderMode.ofCode?_code mode).symm.trans coded
                rw [Utf16.toText_terminated_ofText]
                exact ⟨.text named known, .text⟩
          · rintro ⟨suits, echoes⟩
            cases echoes
            cases suits with
            | text named known =>
                rw [← Utf16.toText_terminated_ofText]
                exact .text named known (List.append_ne_nil_of_right_ne_nil _ nofun) (RenderMode.ofCode?_code mode)
      | path | image | shading => cases written

def PageObject.onto (o : PageObject) (content : StoredContent) (bounds : Rect .page Float32)
    (height : Float32) : StoredObject where
  content
  matrix := (placement o.attributes.deviceMatrix bounds height).foldl Matrix.multiply .identity
  fill := o.attributes.fillColor
  stroke := o.attributes.strokeColor
  strokeWidth := o.attributes.strokeWidth

namespace Document

structure Takes (d : Document) (object : ObjectId) (content : Content) (before : StoredObject)
    (stored : StoredContent) : Prop where
  object : d.objects.get? object = some before
  written : content.written before.content = some stored
  setBitmap : content.kind = .image → .setBitmap ∉ d.failing

def TakesWidth (d : Document) (width : Float32) : Prop := ¬width < 0 ∧ .setStrokeWidth ∉ d.failing

/-- All that it takes for `o` to be written to an object. -/
structure Writable (d : Document) (object : ObjectId) (page : PageId) (o : PageObject) (before : StoredObject)
    (stored : StoredContent) (p : Page) (bounds : Rect .page Float32) : Prop where
  takes : d.Takes object o.content before stored
  takesWidth : d.TakesWidth o.attributes.strokeWidth
  page : d.pages.get? page = some p
  setMatrix : .setMatrix ∉ d.failing
  getBounds : .getBounds ∉ d.failing
  bounds : (StoredObject.new stored).localBounds? = some bounds

/-- What a failure to write leaves behind: nothing if the content was not taken, the content if the width was not
taken, and all but the transform if the object could not be placed. -/
inductive HalfWritten (d : Document) (object : ObjectId) (page : PageId) (o : PageObject) : Document → Prop
  | nothing (refused : ∀ before stored, ¬d.Takes object o.content before stored) : HalfWritten d object page o d
  | content {before stored} (takes : d.Takes object o.content before stored)
      (refused : ¬d.TakesWidth o.attributes.strokeWidth) :
      HalfWritten d object page o (d.put object { before with content := stored })
  | style {before stored d'} (takes : d.Takes object o.content before stored)
      (takesWidth : d.TakesWidth o.attributes.strokeWidth)
      (same : d' = d.put object (⟨stored, before.matrix, o.attributes.fillColor, o.attributes.strokeColor,
        o.attributes.strokeWidth⟩))
      (refused : ∀ o p bounds, ¬d'.Placeable object page o p bounds) : HalfWritten d object page o d'

end Document

variable {d : Document} {object : ObjectId} {page : PageRef} {o : StoredObject}

theorem insist_change {operation : Operation} {call : Call Bool} {f : StoredObject → Option StoredObject}
    {o' : StoredObject} (performed : Library.perform call d = d.tell (d.changeObject object f))
    (known : d.objects.get? object = some o) (next : f o = some o') :
    insist operation call d = (.ok (), d.put object o') :=
  insist_ok (performed.trans (Document.tell_changeObject known next))

theorem Content.write_ends {content : Content} (known : d.objects.get? object = some o)
    (kind : o.content.kind = content.kind) :
    Ends (content.write object) d
      (fun _ d' => ∃ stored, d.Takes object content o stored ∧ d' = d.put object { o with content := stored })
      (fun _ d' => d' = d ∧ ∀ stored, ¬d.Takes object content o stored) := by
  cases content with
  | path segments fill stroke =>
      cases stored : o.content with
      | path segments' mode =>
          have drawn : insist .setDrawMode (.setDrawMode object (drawMode fill stroke)) d =
              (.ok (), d.put object { o with content := .path segments' (drawMode fill stroke) }) := by
            refine insist_change (Document.perform_unfailing rfl d) known ?_
            rw [stored]
            rfl
          apply (ends_of_eq_ok drawn).mpr
          exact ⟨_, ⟨known, by rw [stored]; rfl, fun image => by cases image⟩, rfl⟩
      | image | text | shading => rw [stored] at kind; cases kind
  | image bitmap =>
      cases stored : o.content with
      | image raw =>
          by_cases works : .setBitmap ∈ d.failing
          · apply (ends_of_eq_error (insist_refused (Document.perform_failing rfl works))).mpr
            exact ⟨rfl, fun stored takes => takes.setBitmap rfl works⟩
          have painted : insist .setBitmap (.setBitmap object bitmap) d =
              (.ok (), d.put object { o with content := .image (some bitmap.toRaw) }) := by
            refine insist_change (Document.perform_working rfl works) known ?_
            rw [stored]
            rfl
          apply (ends_of_eq_ok painted).mpr
          exact ⟨_, ⟨known, by rw [stored]; rfl, fun _ => works⟩, rfl⟩
      | path | text | shading => rw [stored] at kind; cases kind
  | text string font size mode =>
      cases stored : o.content with
      | text id size' units code =>
          rw [write]
          refine ends_guard.mpr ⟨fun empty => ⟨rfl, fun _ takes => ?_⟩, fun filled => ?_⟩
          · have refused : (Content.text string font size mode).written o.content = none := by
              rw [stored, Content.written, if_pos empty]
            cases refused.symm.trans takes.written
          let spelled : StoredObject :=
            { o with content := .text id size' (Utf16.terminated (Utf16.ofText string)) code }
          have set : insist .setText (.setText object (Utf16.ofText string)) d = (.ok (), d.put object spelled) := by
            refine insist_change (Document.perform_unfailing rfl d) known ?_
            rw [stored]
            rfl
          apply ends_bind.mpr
          apply (ends_of_eq_ok set).mpr
          have painted : insist .setRenderMode (.setRenderMode object mode.code) (d.put object spelled) =
              (.ok (), (d.put object spelled).put object
                { o with content := .text id size' (Utf16.terminated (Utf16.ofText string)) mode.code }) :=
            insist_change (Document.perform_unfailing rfl _) Document.get?_put_self rfl
          apply (ends_of_eq_ok painted).mpr
          exact ⟨_, ⟨known, by rw [stored]; exact if_neg filled, fun image => by cases image⟩, Document.put_put⟩
      | path | image | shading => rw [stored] at kind; cases kind

theorem Attributes.writeStyle_ends {a : Attributes} (known : d.objects.get? object = some o) :
    Ends (a.writeStyle object) d
      (fun _ d' => d.TakesWidth a.strokeWidth ∧ d' = d.put object
        { o with fill := a.fillColor, stroke := a.strokeColor, strokeWidth := a.strokeWidth })
      (fun _ d' => d' = d ∧ ¬d.TakesWidth a.strokeWidth) := by
  apply ends_bind.mpr
  by_cases works : .setStrokeWidth ∈ d.failing
  · apply (ends_of_eq_error (insist_refused (Document.perform_failing rfl works))).mpr
    exact ⟨rfl, fun takes => takes.2 works⟩
  have performed : Library.perform (.setStrokeWidth object a.strokeWidth) d =
      d.run (.setStrokeWidth object a.strokeWidth) :=
    Document.perform_working rfl works
  rw [Document.run] at performed
  by_cases negative : a.strokeWidth < 0
  · rw [if_pos negative] at performed
    apply (ends_of_eq_error (insist_refused performed)).mpr
    exact ⟨rfl, fun takes => takes.1 negative⟩
  rw [if_neg negative] at performed
  let wide : StoredObject := { o with strokeWidth := a.strokeWidth }
  let stroked : StoredObject := { wide with stroke := a.strokeColor }
  have strokes : insist .setStrokeColor (.setColor object .stroke a.strokeColor) (d.put object wide) =
      (.ok (), (d.put object wide).put object stroked) :=
    insist_change (Document.perform_unfailing rfl _) Document.get?_put_self rfl
  have fills : insist .setFillColor (.setColor object .fill a.fillColor) (d.put object stroked) =
      (.ok (), (d.put object stroked).put object { stroked with fill := a.fillColor }) :=
    insist_change (Document.perform_unfailing rfl _) Document.get?_put_self rfl
  rw [Document.put_put] at strokes fills
  apply (ends_of_eq_ok (insist_change performed known rfl)).mpr
  apply ends_bind.mpr
  apply (ends_of_eq_ok strokes).mpr
  apply (ends_of_eq_ok fills).mpr
  exact ⟨⟨negative, works⟩, rfl⟩

theorem expectKind_ends {expected : ObjectKind} :
    Ends (expectKind object expected) d
      (fun _ d' => d' = d ∧ (d.object? object).elim .unknown (·.content.kind) = expected)
      (fun _ d' => d' = d ∧ (d.object? object).elim .unknown (·.content.kind) ≠ expected) := by
  by_cases same : (d.object? object).elim .unknown (·.content.kind) = expected
  · exact (ends_of_eq_ok (expectKind_ok same)).mpr ⟨rfl, same⟩
  · exact (ends_of_eq_error (expectKind_error rfl same)).mpr ⟨rfl, same⟩

theorem Content.kind_ne_unknown (content : Content) : content.kind ≠ .unknown := by
  cases content <;> nofun

/-- Writing succeeds exactly where it can, and then the object is the one that shows as `o` and has
the content written. -/
theorem PageObject.update_ends {o : PageObject} :
    Ends (o.update object page) d
      (fun _ d' => ∃ before stored p bounds, d.Writable object page.page o before stored p bounds ∧
        d' = d.put object (o.onto stored bounds p.height))
      (fun _ d' => d.HalfWritten object page.page o d') := by
  apply ends_bind.mpr
  refine expectKind_ends.mono ?_ ?_
  swap
  · rintro e d' ⟨rfl, differ⟩
    refine .nothing fun before stored takes => ?_
    rw [Document.object?, takes.object] at differ
    exact differ (Content.kind_eq_of_written takes.written)
  rintro - _ ⟨rfl, kind⟩
  rename_i d
  cases known : d.objects.get? object with
  | none =>
      rw [Document.object?, known] at kind
      exact absurd kind.symm o.content.kind_ne_unknown
  | some before =>
      rw [Document.object?, known] at kind
      apply ends_bind.mpr
      refine (Content.write_ends known kind).mono ?_ ?_
      swap
      · rintro e d' ⟨rfl, refused⟩
        refine .nothing fun before' stored takes => ?_
        cases known.symm.trans takes.object
        exact refused stored takes
      rintro - d' ⟨stored, takes, rfl⟩
      apply ends_bind.mpr
      refine (Attributes.writeStyle_ends Document.get?_put_self).mono ?_ ?_
      swap
      · rintro e d' ⟨rfl, refused⟩
        exact .content takes refused
      rintro - d' ⟨takesWidth, rfl⟩
      refine writeDeviceMatrix_ends.mono ?_ ?_
      · rintro - d' ⟨o', p, bounds, placeable, rfl⟩
        cases Document.get?_put_self.symm.trans placeable.object
        refine ⟨before, stored, p, bounds, ⟨takes, takesWidth, placeable.page, placeable.setMatrix,
          placeable.getBounds, placeable.bounds⟩, ?_⟩
        rw [Document.put_put, Document.put_put]
        rfl
      · rintro e d' ⟨rfl, refused⟩
        exact .style takes takesWidth Document.put_put refused

namespace Document

variable {d' : Document}

theorem HalfWritten.not_writable {page : PageId} {o : PageObject} {before : StoredObject} {stored : StoredContent}
    {p : Page} {bounds : Rect .page Float32} (half : d.HalfWritten object page o d') :
    ¬d.Writable object page o before stored p bounds := by
  intro writable
  cases half with
  | nothing refused => exact refused before stored writable.takes
  | content takes refused => exact refused writable.takesWidth
  | style takes takesWidth same refused =>
      cases takes.object.symm.trans writable.takes.object
      cases takes.written.symm.trans writable.takes.written
      subst same
      exact refused _ p bounds ⟨get?_put_self, writable.page, writable.setMatrix, writable.getBounds,
        writable.bounds⟩

theorem Writable.unique {page : PageId} {o : PageObject} {before before' : StoredObject}
    {stored stored' : StoredContent} {p p' : Page} {bounds bounds' : Rect .page Float32}
    (writable : d.Writable object page o before stored p bounds)
    (writable' : d.Writable object page o before' stored' p' bounds') :
    before' = before ∧ stored' = stored ∧ p' = p ∧ bounds' = bounds := by
  cases writable.takes.object.symm.trans writable'.takes.object
  cases writable.takes.written.symm.trans writable'.takes.written
  cases writable.page.symm.trans writable'.page
  cases writable.bounds.symm.trans writable'.bounds
  exact ⟨rfl, rfl, rfl, rfl⟩

end Document

theorem PageObject.update_eq_ok_iff {d' : Document} {o : PageObject} :
    o.update object page d = (.ok (), d') ↔ ∃ before stored p bounds,
      d.Writable object page.page o before stored p bounds ∧ d' = d.put object (o.onto stored bounds p.height) := by
  constructor
  · intro updated
    exact (ends_of_eq_ok updated).mp o.update_ends
  · rintro ⟨before, stored, p, bounds, writable, rfl⟩
    apply Ends.eq_ok
    refine o.update_ends.mono ?_ fun _ _ half => half.not_writable writable
    rintro - d' ⟨before', stored', p', bounds', writable', rfl⟩
    obtain ⟨rfl, rfl, rfl, rfl⟩ := writable.unique writable'
    exact ⟨rfl, rfl⟩

end PageContent
