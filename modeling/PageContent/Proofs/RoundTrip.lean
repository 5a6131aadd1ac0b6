import PageContent.Proofs.Writing

namespace PageContent

/-- What a content becomes when an object is made of it: a path starts with a move, a text ends at its first
zero, and its font is the one found by its name. -/
def Content.settled : Content → Content
  | .path segments fill stroke => .path (segments.modifyHead fun s => { s with command := .move }) fill stroke
  | .image bitmap => .image bitmap
  | .text string font size mode =>
    .text (Utf16.beforeZero string) (Font.styled font.family font.bold font.italic) size mode

def Content.Substantial : Content → Prop
  | .path segments _ _ => segments ≠ []
  | .image _ => True
  | .text string _ _ _ => string ≠ ""

theorem Content.settled_echoes (content : Content) : content.settled.Echoes content := by
  cases content with
  | path => exact .path
  | image => exact .image
  | text => exact .text

section Ended

variable {σ α : Type} {s s' : σ}

theorem orUndo_ok {edit : Edit σ α} {undo : Edit σ Unit} {a : α} (ended : edit s = (.ok a, s')) :
    orUndo edit undo s = (.ok a, s') := by
  simp only [orUndo, tryCatch, tryCatchThe, MonadExceptOf.tryCatch, ExceptT.tryCatch, ExceptT.mk, StateT.bind,
    bind, ended]
  rfl

end Ended

variable {d : Document} {object : ObjectId} {o : StoredObject} {mode : DrawMode}

namespace Content

theorem closeIf_eq (init : List StoredSegment) {kind : SegmentKind} {s : Segment}
    (known : d.objects.get? object = some o) (path : o.content = .path (init ++ [⟨kind, s.x, s.y, false⟩]) mode) :
    closeIf object s d =
      (.ok (), d.put object { o with content := .path (init ++ [⟨kind, s.x, s.y, s.closed⟩]) mode }) := by
  rw [closeIf]
  cases s.closed with
  | false =>
      have same : d.put object { o with content := .path (init ++ [⟨kind, s.x, s.y, false⟩]) mode } = d := by
        rw [← path]
        exact Document.put_self known
      rw [same]
      rfl
  | true =>
      refine insist_change (Document.perform_unfailing rfl d) known ?_
      simp [path, StoredContent.segments?, StoredContent.setSegments?, Document.closeLast]

theorem addSegment_eq {stored : List StoredSegment} (s : Segment) (known : d.objects.get? object = some o)
    (path : o.content = .path stored mode) :
    addSegment object s d = (.ok (), d.put object { o with content := .path (stored ++ [s.stored]) mode }) := by
  have added : insist .addSegment (.addSegment object s.command s.x s.y) d = (.ok (), d.put object
      { o with content := .path (stored ++ [⟨s.command.segmentKind, s.x, s.y, false⟩]) mode }) := by
    refine insist_change (Document.perform_unfailing rfl d) known ?_
    simp [path, StoredContent.segments?, StoredContent.setSegments?]
  rw [addSegment, bind_ok added, closeIf_eq stored Document.get?_put_self rfl, Document.put_put]
  rfl

theorem addSegments_eq {stored : List StoredSegment} (segments : List Segment)
    (known : d.objects.get? object = some o) (path : o.content = .path stored mode) :
    segments.forM (addSegment object) d =
      (.ok (), d.put object { o with content := .path (stored ++ segments.map Segment.stored) mode }) := by
  induction segments generalizing d o stored with
  | nil =>
      rw [List.map_nil, List.append_nil, ← path, Document.put_self known]
      rfl
  | cons s segments ih =>
      refine (bind_ok (addSegment_eq s known path)).trans ?_
      rw [ih Document.get?_put_self rfl, Document.put_put, List.append_assoc]
      rfl

end Content

theorem Document.perform_unhindered {α : Type} (works : d.failing = []) (call : Call α) :
    Library.perform call d = d.run call := by
  cases named : call.failPoint? with
  | none => exact perform_unfailing named d
  | some point => exact perform_working named (not_mem_failing works point)

theorem Content.allocatePath_eq (works : .createPath ∉ d.failing) (first : Segment) (rest : List Segment) :
    allocatePath (first :: rest) d = (.ok ⟨d.issued + 1⟩, { d with issued := d.issued + 1 }.put ⟨d.issued + 1⟩ (.new
      (.path (⟨.moveTo, first.x, first.y, first.closed⟩ :: rest.map Segment.stored) ⟨.none, false⟩))) := by
  let object : ObjectId := ⟨d.issued + 1⟩
  let o : StoredObject := .new (.path [⟨.moveTo, first.x, first.y, false⟩] ⟨.none, false⟩)
  let d₁ : Document := (d.createObject o.content).2
  have created : demand .createPath (.createPath first.x first.y) d = (.ok object, d₁) :=
    demand_ok (Document.perform_working rfl works)
  have known : d₁.objects.get? object = some o := Table.get?_insert_self ..
  have replayed : (do closeIf object first; rest.forM (addSegment object)) d₁ = (.ok (), d₁.put object (.new
      (.path (⟨.moveTo, first.x, first.y, first.closed⟩ :: rest.map Segment.stored) ⟨.none, false⟩))) := by
    refine (bind_ok (closeIf_eq [] known rfl)).trans ?_
    rw [addSegments_eq rest Document.get?_put_self rfl, Document.put_put]
    rfl
  have same : d₁ = { d with issued := d.issued + 1 }.put object o := rfl
  rw [allocatePath, bind_ok created, bind_ok (orUndo_ok replayed), same, Document.put_put]
  rfl

theorem Content.allocateText_eq (loads : .loadFont ∉ d.failing) (creates : .createText ∉ d.failing)
    (target : DocumentId) (string : String) (font : Font) (size : Float32) (mode : RenderMode) :
    (text string font size mode).allocate target d = (.ok ⟨d.issued + 2⟩,
      { d with issued := d.issued + 2, fonts := d.fonts.insert ⟨d.issued + 1⟩ font.name }.put ⟨d.issued + 2⟩
        (.new (.text ⟨d.issued + 1⟩ size [0] 0))) := by
  let id : FontId := ⟨d.issued + 1⟩
  let d₁ : Document := { d with issued := d.issued + 1, fonts := d.fonts.insert id font.name }
  have loaded : demand .loadFont (.loadFont target font.name) d = (.ok id, d₁) :=
    demand_ok (Document.perform_working rfl loads)
  have creates₁ : .createText ∉ d₁.failing := creates
  have there : d₁.fonts.contains id = true := by
    rw [Table.contains, Table.get?_insert_self]
    rfl
  rw [allocate, bind_ok loaded]
  refine demand_ok ((Document.perform_working rfl creates₁).trans ?_)
  rw [Document.run, if_pos there]
  rfl

/-- Where nothing is made to fail, an object is allocated for all that is of substance, and it has from the start
what is never written later. -/
theorem Content.allocate_eq {content : Content} (works : d.failing = []) (target : DocumentId)
    (substantial : content.Substantial) :
    ∃ object d₁ before, content.allocate target d = (.ok object, d₁) ∧ d₁.pages = d.pages ∧ d₁.failing = [] ∧
      d₁.objects.get? object = some before ∧ content.settled.Suits d₁.fonts before.content := by
  cases content with
  | path segments fill stroke =>
      cases segments with
      | nil => exact absurd rfl substantial
      | cons first rest =>
          refine ⟨_, _, _, allocatePath_eq (Document.not_mem_failing works _) first rest, rfl, works,
            Document.get?_put_self, .path ?_ rfl⟩
          exact List.cons_ne_nil _ _
  | image bitmap =>
      refine ⟨⟨d.issued + 1⟩, (d.createObject (.image none)).2, .new (.image none), ?_, rfl, works,
        Table.get?_insert_self .., .image⟩
      exact demand_ok (Document.perform_unhindered works _)
  | text string font size mode =>
      refine ⟨_, _, _, allocateText_eq (Document.not_mem_failing works _) (Document.not_mem_failing works _) .., rfl,
        works, Document.get?_put_self, .text ?_ font.ofName_name⟩
      exact Table.get?_insert_self ..

namespace Content

variable {content : Content} {fonts : Table FontId String} {before stored : StoredContent}

theorem exists_written (suits : content.settled.Suits fonts before) (substantial : content.Substantial) :
    ∃ stored, content.written before = some stored := by
  cases content with
  | path | image => cases suits; exact ⟨_, rfl⟩
  | text string font size mode =>
      cases suits
      have filled : ¬string.isEmpty = true := fun empty => substantial (String.isEmpty_iff.mp empty)
      exact ⟨_, if_neg filled⟩

theorem written_eq_none {string : String} {font : Font} {size : Float32} {mode : RenderMode}
    (empty : string = "") (before : StoredContent) : (text string font size mode).written before = none := by
  subst empty
  cases before <;> rfl

theorem Suits.localPoints_ne_nil {shown : Content} (suits : shown.Suits fonts before)
    (written : content.written before = some stored) : stored.localPoints ≠ [] := by
  cases suits with
  | path nonempty same =>
      cases content with
      | path =>
          cases written
          simpa [StoredContent.localPoints, same] using nonempty
      | image | text => cases written
  | image =>
      cases content with
      | image => cases written; exact List.cons_ne_nil _ _
      | path | text => cases written
  | text =>
      cases content with
      | text string =>
          rw [Content.written] at written
          split at written
          · cases written
          · cases written; exact List.cons_ne_nil _ _
      | path | image => cases written

end Content

namespace PageObject

variable {o : PageObject} {page : PageRef} {p : Page}

/-- Where nothing is made to fail, an object is created of all that is of substance, unless its strokes were
to have a negative width. -/
theorem create_settled_ends (works : d.failing = []) (known : d.pages.get? page.page = some p) :
    Ends (o.create page) d
      (fun object d' => (¬o.attributes.strokeWidth < 0 ∧ o.content.Substantial) ∧
        ∃ (d₁ : Document) (before : StoredObject) (stored : StoredContent) (bounds : Rect .page Float32),
          d₁.Writable object page.page o before stored p bounds ∧ o.content.settled.Suits d₁.fonts before.content ∧
          d' = d₁.put object (o.onto stored bounds p.height))
      (fun _ _ => ¬(¬o.attributes.strokeWidth < 0 ∧ o.content.Substantial)) := by
  by_cases substantial : o.content.Substantial
  · obtain ⟨object, d₁, before, allocated, pages, works₁, found, suits⟩ :=
      Content.allocate_eq works page.document substantial
    have known₁ : d₁.pages.get? page.page = some p := pages ▸ known
    obtain ⟨stored, written⟩ := Content.exists_written suits substantial
    obtain ⟨bounds, bounded⟩ :=
      StoredObject.localBounds?_of_point (o := .new stored) (suits.localPoints_ne_nil written)
    have absent := Document.not_mem_failing works₁
    apply ends_bind.mpr
    apply (ends_of_eq_ok allocated).mpr
    apply ends_bind.mpr
    refine ends_orUndo.mpr (update_ends.mono ?_ ?_)
    · rintro - d' ⟨before', stored', p', bounds', writable, rfl⟩
      cases found.symm.trans writable.takes.object
      cases known₁.symm.trans writable.page
      exact ends_pure.mpr ⟨⟨writable.takesWidth.1, substantial⟩, d₁, before, stored', bounds', writable, suits, rfl⟩
    · intro e d' half
      refine ends_ask.mpr fun ⟨strokeWidth, _⟩ => ?_
      have writable : d₁.Writable object page.page o before stored p bounds :=
        ⟨⟨found, written, fun _ => absent _⟩, ⟨strokeWidth, absent _⟩, known₁, absent _, absent _, bounded⟩
      exact half.not_writable writable
  · have refused : ¬(¬o.attributes.strokeWidth < 0 ∧ o.content.Substantial) := fun both => substantial both.2
    apply ends_bind.mpr
    cases content : o.content with
    | path segments fill stroke =>
        have empty : segments = [] := by simpa [content, Content.Substantial] using substantial
        rw [content, empty] at refused
        rw [empty]
        exact ends_throw.mpr refused
    | image bitmap => exact absurd (by rw [content]; trivial) substantial
    | text string font size mode =>
        have empty : string = "" := by simpa [content, Content.Substantial] using substantial
        have any : Ends ((Content.text string font size mode).allocate page.document) d
            (fun _ _ => True) fun _ _ => True := by
          unfold Ends
          split <;> trivial
        rw [content] at refused
        refine any.mono (fun object d₁ _ => ?_) fun _ _ _ => refused
        apply ends_bind.mpr
        refine ends_orUndo.mpr (update_ends.mono ?_ fun _ _ _ => ends_ask.mpr refused)
        rintro - d' ⟨before, stored, p', bounds, writable, -⟩
        have written := writable.takes.written
        rw [content, Content.written_eq_none empty] at written
        cases written

end PageObject

/-- An object can be created of all that is of substance, unless its strokes were to have a negative width, and
what is read back is what was written, settled. -/
theorem created_object_is_read_back {d : Document} (works : d.failing = []) {page : PageRef} {p : Page}
    (known : d.pages.get? page.page = some p) (o : PageObject) :
    ((∃ object d', o.create page d = (.ok object, d')) ↔
      ¬o.attributes.strokeWidth < 0 ∧ o.content.Substantial) ∧
    ∀ object d', o.content.Made → o.create page d = (.ok object, d') →
      ∃ deviceMatrix, (PageObject.read object page d').1 =
        .ok ⟨o.content.settled, { o.attributes with deviceMatrix }⟩ := by
  have ends := o.create_settled_ends works known
  refine ⟨⟨?_, fun sayable => ?_⟩, fun object d' made created => ?_⟩
  · rintro ⟨object, d', created⟩
    exact ((ends_of_eq_ok created).mp ends).1
  · rcases created : o.create page d with ⟨error | object, d'⟩
    · exact absurd sayable ((ends_of_eq_error created).mp ends)
    · exact ⟨object, d', rfl⟩
  · obtain ⟨-, d₁, before, stored, bounds, writable, suits, rfl⟩ := (ends_of_eq_ok created).mp ends
    have shows : stored.Shows d₁.fonts o.content.settled :=
      (Content.shows_written_iff writable.takes.written made).mpr ⟨suits, o.content.settled_echoes⟩
    refine ⟨_, PageObject.read_eq_ok_iff.mpr ⟨o.onto stored bounds p.height, p, bounds, ?_, shows, rfl⟩⟩
    exact ⟨Document.get?_put_self, writable.page, writable.setMatrix, writable.getBounds, writable.bounds⟩

theorem cut_text_is_read_back :
    ∃ (d d' : Document) (o : PageObject) (object : ObjectId) (deviceMatrix : Matrix Float32), d.Reachable ∧
      o.content = .text "𝄞\x00B" ⟨.symbol, true, false⟩ 12 .stroke ∧ o.attributes.strokeWidth.isNaN = true ∧
      o.create ⟨⟨1⟩, ⟨2⟩⟩ d = (.ok object, d') ∧
      (PageObject.read object ⟨⟨1⟩, ⟨2⟩⟩ d').1 = .ok ⟨.text "𝄞" ⟨.symbol, false, false⟩ 12 .stroke,
        { o.attributes with deviceMatrix }⟩ := by
  let o : PageObject := ⟨.text "𝄞\x00B" ⟨.symbol, true, false⟩ 12 .stroke, ⟨.identity, .white, .black, 0 / 0⟩⟩
  let d : Document := ((Document.empty false).createDocument.2.addPage 792).2
  let page : PageRef := ⟨⟨1⟩, ⟨2⟩⟩
  have reachable : d.Reachable := ((Document.reachable_empty false).step .createDocument).step (.addPage 792)
  have known : d.pages.get? page.page = some ⟨792, [], [], 0⟩ := rfl
  obtain ⟨creates, reads⟩ := created_object_is_read_back rfl known o
  obtain ⟨object, d', created⟩ := creates.mpr ⟨by decide +kernel, by nofun⟩
  obtain ⟨deviceMatrix, read⟩ := reads object d' trivial created
  have settled : o.content.settled = .text "𝄞" ⟨.symbol, false, false⟩ 12 .stroke := by decide +kernel
  exact ⟨d, d', o, object, deviceMatrix, reachable, rfl, by decide +kernel, created, settled ▸ read⟩

end PageContent
