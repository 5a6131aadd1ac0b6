import PageContent.Proofs.Reading

namespace PageContent

def Segment.stored (s : Segment) : StoredSegment := ⟨s.command.segmentKind, s.x, s.y, s.closed⟩

theorem Segment.stored_injective : Function.Injective Segment.stored := by
  rintro ⟨c, x, y, closed⟩ ⟨c', x', y', closed'⟩ same
  cases c <;> cases c' <;> cases same <;> rfl

/-- What a stored content shows to a reader, given the names of the fonts. A shading shows nothing, nor does a
path with a curve, an image without a usable bitmap or a text whose font or mode has no name here. -/
inductive StoredContent.Shows (fonts : Table FontId String) : StoredContent → Content → Prop
  | path {stored segments mode} (nonempty : segments ≠ []) (same : stored = segments.map Segment.stored) :
      Shows fonts (.path stored mode) (.path segments (mode.fill ≠ .none) mode.stroke)
  | image {raw bitmap}
      (valid : Bitmap.ofBytes raw.width raw.height raw.stride (.ofCode raw.code) raw.data = .ok bitmap) :
      Shows fonts (.image (some raw)) (.image bitmap)
  | text {id size units code name font mode} (named : fonts.get? id = some name)
      (known : Font.ofName name = .ok font) (nonempty : units ≠ []) (coded : RenderMode.ofCode? code = some mode) :
      Shows fonts (.text id size units code) (.text (Utf16.toText units) font size mode)

namespace StoredContent.Shows

variable {fonts : Table FontId String} {stored : StoredContent} {content content' : Content}

theorem unique (shows : stored.Shows fonts content) (shows' : stored.Shows fonts content') :
    content' = content := by
  cases shows with
  | path nonempty same =>
      cases shows' with
      | path nonempty' same' =>
          have segments := List.map_injective_iff.mpr Segment.stored_injective (same'.symm.trans same)
          rw [segments]
  | image valid =>
      cases shows' with
      | image valid' =>
          cases valid.symm.trans valid'
          rfl
  | text named known nonempty coded =>
      cases shows' with
      | text named' known' nonempty' coded' =>
          cases named.symm.trans named'
          cases known.symm.trans known'
          cases coded.symm.trans coded'
          rfl

end StoredContent.Shows

namespace Document

variable {d : Document} {object : ObjectId} {page : PageId} {shown shown' : PageObject}

def Shows (d : Document) (object : ObjectId) (page : PageId) (shown : PageObject) : Prop :=
  ∃ o p bounds, d.Placeable object page o p bounds ∧ o.content.Shows d.fonts shown.content ∧
    shown.attributes = ⟨deviceMatrix o.matrix bounds p.height, o.fill, o.stroke, o.strokeWidth⟩

theorem Shows.unique (shows : d.Shows object page shown) (shows' : d.Shows object page shown') :
    shown' = shown := by
  obtain ⟨o, p, bounds, placeable, content, attributes⟩ := shows
  obtain ⟨o', p', bounds', placeable', content', attributes'⟩ := shows'
  obtain ⟨rfl, rfl, rfl⟩ := placeable.unique placeable'
  exact PageObject.ext (content.unique content') (attributes'.trans attributes.symm)

end Document

section Read

variable {d : Document} {object : ObjectId} {page : PageRef} {o : StoredObject}

namespace Segment

def told (s : StoredSegment) (index : Nat) : Except Error Segment :=
  match command? s.kind with
  | some command => .ok ⟨command, s.x, s.y, s.closed⟩
  | none => .error (.unsupportedSegment index)

theorem told_eq_ok_iff {s : StoredSegment} {index : Nat} {segment : Segment} :
    told s index = .ok segment ↔ s = segment.stored := by
  obtain ⟨kind, x, y, closed⟩ := s
  obtain ⟨command, x', y', closed'⟩ := segment
  cases kind <;> cases command <;> simp [told, command?, stored, PathCommand.segmentKind]

theorem mapM_told_eq_ok_iff {stored : List StoredSegment} {start : Nat} {segments : List Segment} :
    (stored.zipIdx start).mapM (fun s => told s.1 s.2) = .ok segments ↔ stored = segments.map Segment.stored := by
  induction stored generalizing start segments with
  | nil => cases segments <;> simp [pure, Except.pure]
  | cons s stored ih =>
      rw [List.zipIdx_cons, List.mapM_cons]
      constructor
      · intro read
        cases first : told s start with
        | error e => rw [first] at read; cases read
        | ok segment =>
            cases rest : (stored.zipIdx (start + 1)).mapM fun s => told s.1 s.2 with
            | error e => rw [first, rest] at read; cases read
            | ok segments' =>
                rw [first, rest] at read
                cases read
                rw [List.map_cons, ← told_eq_ok_iff.mp first, ← ih.mp rest]
      · intro same
        cases segments with
        | nil => cases same
        | cons segment segments' =>
            obtain ⟨head, tail⟩ := List.cons.inj same
            rw [told_eq_ok_iff.mpr head, ih.mpr tail]
            rfl

theorem read_eq {stored : List StoredSegment} {mode : DrawMode} (known : d.objects.get? object = some o)
    (path : o.content = .path stored mode) {s : StoredSegment} {index : Nat} (found : stored[index]? = some s) :
    read object index d = (told s index, d) := by
  have answered : d.run (.segmentAt object index) = (some s, d) := by
    simp [Document.run, Document.content?, Document.object?, known, path, StoredContent.segments?, found]
  rw [read, bind_ok (demand_eq rfl answered), told]
  cases command? s.kind <;> rfl

end Segment

theorem readUnits_ends {call : List UInt16 → Call (Nat × List UInt16)} {absent refused : Error}
    {units? : Option (List UInt16)} (never : ∀ buffer, (call buffer).failPoint? = none)
    (reads : ∀ buffer, d.run (call buffer) = (Document.copied units? buffer, d)) :
    Ends (readUnits call absent refused) d (fun units d' => d' = d ∧ units? = some units ∧ units ≠ [])
      (fun e d' => e = absent ∧ d' = d ∧ ∀ units, units? = some units → units = []) := by
  apply ends_bind.mpr
  apply (ends_of_eq_ok (ask_eq (never _) (reads _))).mpr
  cases units? with
  | none => exact ends_guard.mpr ⟨fun _ => ⟨rfl, rfl, nofun⟩, fun present => absurd rfl present⟩
  | some units =>
      refine ends_guard.mpr ⟨fun empty => ⟨rfl, rfl, fun units' same => ?_⟩, fun present => ?_⟩
      · cases same
        exact List.eq_nil_of_length_eq_zero empty
      have filled : d.run (call (List.replicate units.length 0)) = ((units.length, units), d) := by
        rw [reads]
        simp [Document.copied, Utf16.copyInto]
      apply ends_bind.mpr
      apply (ends_of_eq_ok (ask_eq (never _) filled)).mpr
      refine ends_guard.mpr ⟨fun differ => absurd rfl differ, fun _ => ends_pure.mpr ⟨rfl, rfl, ?_⟩⟩
      exact fun empty => present (by rw [empty]; rfl)

namespace Content

theorem readPath_ends {stored : List StoredSegment} {mode : DrawMode} (known : d.objects.get? object = some o)
    (path : o.content = .path stored mode) :
    Ends (readPath object) d (fun content d' => d' = d ∧ o.content.Shows d.fonts content)
      (fun _ _ => ∀ content, ¬o.content.Shows d.fonts content) := by
  rw [path]
  have counted : d.run (.segmentCount object) = (some stored.length, d) := by
    simp [Document.run, Document.content?, Document.object?, known, path, StoredContent.segments?]
  have drawn : d.run (.drawMode object) = (some mode, d) := by
    simp [Document.run, Document.content?, Document.object?, known, path, StoredContent.drawMode?]
  apply ends_bind.mpr
  apply (ends_of_eq_ok (demand_eq rfl counted)).mpr
  refine ends_guard.mpr ⟨fun empty content shows => ?_, fun filled => ?_⟩
  · cases shows with
    | path nonempty same =>
        rw [same, List.length_map] at empty
        exact nonempty (List.eq_nil_of_length_eq_zero empty)
  apply ends_bind.mpr
  have read : (List.range stored.length).mapM (Segment.read object) d =
      (stored.zipIdx.mapM fun s => Segment.told s.1 s.2, d) :=
    mapM_range_eq fun s index found => Segment.read_eq known path found
  cases answer : stored.zipIdx.mapM fun s => Segment.told s.1 s.2 with
  | error e =>
      apply (ends_of_eq_error (read.trans (by rw [answer]))).mpr
      intro content shows
      cases shows with
      | path nonempty same =>
          rw [Segment.mapM_told_eq_ok_iff.mpr same] at answer
          cases answer
  | ok segments =>
      have same := Segment.mapM_told_eq_ok_iff.mp answer
      have nonempty : segments ≠ [] := fun empty => filled (by simp [same, empty])
      apply (ends_of_eq_ok (read.trans (by rw [answer]))).mpr
      apply ends_bind.mpr
      apply (ends_of_eq_ok (demand_eq rfl drawn)).mpr
      exact ends_pure.mpr ⟨rfl, .path nonempty same⟩

theorem readImage_ends {raw : Option RawBitmap} (known : d.objects.get? object = some o)
    (image : o.content = .image raw) :
    Ends (readImage object) d (fun content d' => d' = d ∧ o.content.Shows d.fonts content)
      (fun _ _ => ∀ content, ¬o.content.Shows d.fonts content) := by
  rw [image]
  apply ends_bind.mpr
  apply (Document.ends_demand_reads rfl rfl).mpr
  simp only [Document.content?, Document.object?, known, image, Option.map_some, Option.bind_some,
    StoredContent.bitmap?]
  refine ⟨fun raw told => ?_, fun absent content shows => ?_⟩
  · subst told
    split
    · rename_i unknown
      refine ends_throw.mpr fun content shows => ?_
      cases shows with
      | image valid =>
          rw [unknown] at valid
          cases valid
    · apply ends_bind.mpr
      refine ends_liftExcept.mpr ⟨fun bitmap valid => ends_pure.mpr ⟨rfl, .image valid⟩, ?_⟩
      intro e invalid content shows
      cases shows with
      | image valid => cases valid.symm.trans invalid
  · cases shows
    cases absent

theorem readText_ends {id : FontId} {size : Float32} {units : List UInt16} {code : Int}
    (known : d.objects.get? object = some o) (text : o.content = .text id size units code) :
    Ends (readText object page) d (fun content d' => d' = d ∧ o.content.Shows d.fonts content)
      (fun _ _ => ∀ content p, d.pages.get? page.page = some p → ¬o.content.Shows d.fonts content) := by
  rw [text]
  have stored : d.content? object = some (.text id size units code) := by
    rw [Document.content?, Document.object?, known, Option.map_some, text]
  have loaded : d.run (.font object) = (some id, d) := by
    simp [Document.run, stored, StoredContent.font?]
  have sized : d.run (.fontSize object) = (some size, d) := by
    simp [Document.run, stored, StoredContent.fontSize?]
  have painted : d.run (.renderMode object) = (some code, d) := by
    simp [Document.run, stored, StoredContent.renderMode?]
  apply ends_bind.mpr
  apply (ends_of_eq_ok (demand_eq rfl loaded)).mpr
  apply ends_bind.mpr
  apply (Document.ends_demand_reads rfl rfl).mpr
  refine ⟨fun name named => ?_, fun unnamed content p _ shows => ?_⟩
  swap
  · cases shows with
    | text named => cases unnamed.symm.trans named
  apply ends_bind.mpr
  refine ends_liftExcept.mpr ⟨fun font styled => ?_, fun e unknown content p _ shows => ?_⟩
  swap
  · cases shows with
    | text named' styled =>
        cases named.symm.trans named'
        cases unknown.symm.trans styled
  apply ends_bind.mpr
  apply (ends_of_eq_ok (demand_eq rfl sized)).mpr
  apply ends_bind.mpr
  have kept : (d.pages.get? page.page).bind (fun _ => (d.content? object).bind (·.units?)) =
      (d.pages.get? page.page).bind fun _ => some units := by
    rw [stored]
    rfl
  refine (readUnits_ends (fun _ => rfl) fun _ => rfl).mono ?_ fun e d' unread content p page_known shows => ?_
  swap
  · cases shows with
    | text named' styled' nonempty => exact nonempty (unread.2.2 units (by rw [kept, page_known]; rfl))
  rintro read d' ⟨rfl, present, nonempty⟩
  have same : read = units := by
    rw [kept] at present
    obtain ⟨p, -, same⟩ := Option.bind_eq_some_iff.mp present
    cases same
    rfl
  subst same
  apply ends_bind.mpr
  apply (ends_of_eq_ok (demand_eq rfl painted)).mpr
  split
  · rename_i mode coded
    exact ends_pure.mpr ⟨rfl, .text named styled nonempty coded⟩
  · rename_i uncoded
    refine ends_throw.mpr fun content p _ shows => ?_
    cases shows with
    | text _ _ _ coded => cases uncoded.symm.trans coded

end Content

theorem Attributes.read_ends :
    Ends (Attributes.read object page) d
      (fun a d' => d' = d ∧ ∃ o p bounds, d.Placeable object page.page o p bounds ∧
        a = ⟨PageContent.deviceMatrix o.matrix bounds p.height, o.fill, o.stroke, o.strokeWidth⟩)
      (fun _ _ => ∀ o p bounds, ¬d.Placeable object page.page o p bounds) := by
  apply ends_bind.mpr
  refine readDeviceMatrix_ends.mono ?_ fun _ _ failed => failed.2
  rintro m d' ⟨rfl, o, p, bounds, placeable, rfl⟩
  have fill : d'.run (.color object .fill) = (some o.fill, d') := by
    simp [Document.run, Document.object?, placeable.object, StoredObject.color]
  have stroke : d'.run (.color object .stroke) = (some o.stroke, d') := by
    simp [Document.run, Document.object?, placeable.object, StoredObject.color]
  have strokeWidth : d'.run (.strokeWidth object) = (some o.strokeWidth, d') := by
    simp [Document.run, Document.object?, placeable.object]
  apply ends_bind.mpr
  apply (ends_of_eq_ok (demand_eq rfl fill)).mpr
  apply ends_bind.mpr
  apply (ends_of_eq_ok (demand_eq rfl stroke)).mpr
  apply ends_bind.mpr
  apply (ends_of_eq_ok (demand_eq rfl strokeWidth)).mpr
  exact ends_pure.mpr ⟨rfl, o, p, bounds, placeable, rfl⟩

namespace PageObject

theorem read_ends_of_content {edit : Edit Document Content} (known : d.objects.get? object = some o)
    (read : Ends edit d (fun content d' => d' = d ∧ o.content.Shows d.fonts content)
      (fun _ _ => ∀ content p, d.pages.get? page.page = some p → ¬o.content.Shows d.fonts content)) :
    Ends (do pure ⟨← edit, ← Attributes.read object page⟩) d (fun shown _ => d.Shows object page.page shown)
      (fun _ _ => ∀ shown, ¬d.Shows object page.page shown) := by
  apply ends_bind.mpr
  refine read.mono ?_ ?_
  · rintro content d' ⟨rfl, shows⟩
    apply ends_bind.mpr
    refine Attributes.read_ends.mono ?_ ?_
    · rintro a d' ⟨rfl, o', p, bounds, placeable, rfl⟩
      cases known.symm.trans placeable.object
      exact ends_pure.mpr ⟨o, p, bounds, placeable, shows, rfl⟩
    · rintro e d' unplaceable shown ⟨o', p, bounds, placeable, -⟩
      exact unplaceable o' p bounds placeable
  · rintro e d' unread shown ⟨o', p, bounds, placeable, shows, -⟩
    cases known.symm.trans placeable.object
    exact unread shown.content p placeable.page shows

/-- A reader is told what the object shows, or fails if it shows nothing. -/
theorem read_ends :
    Ends (read object page) d (fun shown _ => d.Shows object page.page shown)
      (fun _ _ => ∀ shown, ¬d.Shows object page.page shown) := by
  apply ends_bind.mpr
  apply (ends_of_eq_ok (ask_eq rfl rfl)).mpr
  cases known : d.objects.get? object with
  | none =>
      have unknown : (d.object? object).elim .unknown (·.content.kind) = ObjectKind.unknown := by
        rw [Document.object?, known]
        rfl
      rw [unknown]
      refine ends_throw.mpr ?_
      rintro shown ⟨o, p, bounds, placeable, -⟩
      cases known.symm.trans placeable.object
  | some o =>
      have kind : (d.object? object).elim .unknown (·.content.kind) = o.content.kind := objectKind_eq known
      rw [kind]
      have checked : expectKind object o.content.kind d = (.ok (), d) := expectKind_ok kind
      cases content : o.content with
      | path stored mode =>
          apply ends_bind.mpr
          apply (ends_of_eq_ok (content ▸ checked)).mpr
          refine read_ends_of_content known ((Content.readPath_ends known content).mono (fun _ _ => id) ?_)
          exact fun _ _ unread content _ _ => unread content
      | image raw =>
          apply ends_bind.mpr
          apply (ends_of_eq_ok (content ▸ checked)).mpr
          refine read_ends_of_content known ((Content.readImage_ends known content).mono (fun _ _ => id) ?_)
          exact fun _ _ unread content _ _ => unread content
      | text id size units code =>
          apply ends_bind.mpr
          apply (ends_of_eq_ok (content ▸ checked)).mpr
          exact read_ends_of_content known (Content.readText_ends known content)
      | shading =>
          refine ends_throw.mpr ?_
          rintro shown ⟨o', p, bounds, placeable, shows, -⟩
          cases known.symm.trans placeable.object
          rw [content] at shows
          cases shows

theorem read_eq_ok_iff {shown : PageObject} :
    (read object page d).1 = .ok shown ↔ d.Shows object page.page shown := by
  have ends : Ends (read object page) d (fun shown _ => d.Shows object page.page shown)
      (fun _ _ => ∀ shown, ¬d.Shows object page.page shown) :=
    read_ends
  constructor
  · intro read
    exact (ends_of_eq_ok (Prod.ext read rfl)).mp ends
  · intro shows
    cases answer : (read object page d).1 with
    | ok shown' => rw [((ends_of_eq_ok (Prod.ext answer rfl)).mp ends).unique shows]
    | error e => exact absurd shows ((ends_of_eq_error (Prod.ext answer rfl)).mp ends shown)

end PageObject

end Read

end PageContent
