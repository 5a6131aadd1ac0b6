import Mathlib.Data.List.TakeWhile
import PageContent.Document.Perform
import PageContent.Proofs.Table

namespace PageContent

/-- Units as they are stored: the only zero is the last one. -/
def Utf16.Terminated (units : List UInt16) : Prop := ∃ body, (∀ u ∈ body, u ≠ 0) ∧ units = body ++ [0]

theorem Utf16.terminated_terminated (units : List UInt16) : Terminated (terminated units) :=
  ⟨body units, fun _ hu => by simpa using List.mem_takeWhile_imp hu, rfl⟩

theorem Utf16.Terminated.terminated_eq {units : List UInt16} (terminated : Terminated units) :
    Utf16.terminated units = units := by
  obtain ⟨body, solid, rfl⟩ := terminated
  have solid' : ∀ u ∈ body, (u != 0) = true := by simpa using solid
  rw [Utf16.terminated, Utf16.body, List.takeWhile_append_of_pos solid']
  simp

theorem Utf16.Terminated.body_eq_nil_iff {units : List UInt16} (terminated : Terminated units) :
    body units = [] ↔ units = [0] := by
  constructor
  · intro empty
    rw [← terminated.terminated_eq, Utf16.terminated, empty]
    rfl
  · rintro rfl
    rfl

def StoredSegment.StartWithMove (segments : List StoredSegment) : Prop :=
  segments.head?.map (·.kind) = some .moveTo

/-- A path starts with a move, and a text has a font that was loaded and a terminator. -/
def StoredContent.Sound (fonts : Table FontId String) : StoredContent → Prop
  | .path segments _ => StoredSegment.StartWithMove segments
  | .text font _ units _ => font ∈ fonts.keys ∧ Utf16.Terminated units
  | .image _ | .shading => True

theorem StoredContent.Sound.mono {fonts fonts' : Table FontId String} {content : StoredContent}
    (sound : content.Sound fonts) (grow : ∀ font ∈ fonts.keys, font ∈ fonts'.keys) : content.Sound fonts' := by
  cases content with
  | path | image | shading => exact sound
  | text font size units mode => exact ⟨grow font sound.1, sound.2⟩

def StoredAnnot.Sound (a : StoredAnnot) : Prop :=
  ∀ key units, a.strings.get? key = some units → Utf16.Terminated units

inductive Effect
  | nothing
  | object (object : ObjectId)
  | annot (annot : AnnotId)
  | content (page : PageId)
  | newObject
  | newFont
  | newAnnot (page : PageId)
  | insert (page : PageId) (object : ObjectId)
  | detach (page : PageId) (object : ObjectId)
  | destroy (object : ObjectId)
  | removeAnnot (page : PageId) (index : Nat)
  | embed (annot : AnnotId) (object : ObjectId)
  | removeEmbedded (annot : AnnotId) (index : Nat)
  /-- What no call asks for: new pages and documents, and settings of the library. -/
  | setup
  deriving DecidableEq

def Call.effect : {α : Type} → Call α → Effect
  | _, .insertObject page object => .insert page object
  | _, .detachObject page object => .detach page object
  | _, .generateContent page => .content page
  | _, .destroyObject object => .destroy object
  | _, .setMatrix object _ | _, .transform object _ => .object object
  | _, .setColor object _ _ | _, .setStrokeWidth object _ => .object object
  | _, .addSegment object _ _ _ | _, .closePath object | _, .setDrawMode object _ => .object object
  | _, .setBitmap object _ | _, .setText object _ | _, .setRenderMode object _ => .object object
  | _, .createPath .. | _, .createImage .. | _, .createText .. => .newObject
  | _, .loadFont .. => .newFont
  | _, .createAnnot page _ => .newAnnot page
  | _, .removeAnnot page index => .removeAnnot page index
  | _, .setAnnotRect annot _ | _, .setAnnotString annot _ _ | _, .setAnnotColor annot _ _ => .annot annot
  | _, .setQuad annot _ _ | _, .appendQuad annot _ | _, .removeQuad annot _ => .annot annot
  | _, .embed annot object => .embed annot object
  | _, .removeEmbedded annot index => .removeEmbedded annot index
  | _, _ => .nothing

namespace Document

/-- All that one step can do to a document. A step that is refused changes nothing, whatever it is for. -/
inductive Change (d : Document) : Effect → Document → Prop
  | nothing (effect) : Change d effect d
  | object (object) (o o') (known : d.objects.get? object = some o) (kind : o'.content.kind = o.content.kind)
      (sound : ∀ fonts, o.content.Sound fonts → o'.content.Sound fonts) :
      Change d (.object object) { d with objects := d.objects.insert object o' }
  | annot (annot) (a a') (known : d.annots.get? annot = some a) (kind : a'.kind = a.kind)
      (objects : a'.objects = a.objects) (sound : a.Sound → a'.Sound) :
      Change d (.annot annot) { d with annots := d.annots.insert annot a' }
  | content (page) (p) (known : d.pages.get? page = some p) :
      Change d (.content page)
        { d with pages := d.pages.insert page { p with generations := p.generations + 1 } }
  | newObject (content) (sound : content.Sound d.fonts) : Change d .newObject (d.createObject content).2
  | newFont (name) :
      Change d .newFont { d with issued := d.issued + 1, fonts := d.fonts.insert ⟨d.issued + 1⟩ name }
  | newAnnot (page) (kind) (p) (known : d.pages.get? page = some p) :
      Change d (.newAnnot page)
        { d with
          issued := d.issued + 1
          pages := d.pages.insert page { p with annots := p.annots ++ [⟨d.issued + 1⟩] }
          annots := d.annots.insert ⟨d.issued + 1⟩ (.new kind) }
  | insert (page) (object) (p) (known : d.pages.get? page = some p) (live : d.isLive object = true)
      (free : d.isAttached object = false) :
      Change d (.insert page object)
        { d with pages := d.pages.insert page { p with objects := p.objects ++ [object] } }
  | detach (page) (object) (p) (known : d.pages.get? page = some p) (held : object ∈ p.objects) :
      Change d (.detach page object)
        { d with pages := d.pages.insert page { p with objects := p.objects.erase object } }
  | destroy (object) (free : d.isAttached object = false) :
      Change d (.destroy object) { d with objects := d.objects.erase object }
  | removeAnnot (page) (index) (p) (annot) (known : d.pages.get? page = some p)
      (listed : p.annots[index]? = some annot) :
      Change d (.removeAnnot page index)
        ({ d with
          pages := d.pages.insert page { p with annots := p.annots.eraseIdx index } }.releaseAnnot annot)
  | embed (annot) (object) (a) (known : d.annots.get? annot = some a) (live : d.isLive object = true)
      (free : d.isAttached object = false) :
      Change d (.embed annot object)
        { d with annots := d.annots.insert annot { a with objects := a.objects ++ [object] } }
  | removeEmbedded (annot) (index) (a) (object) (known : d.annots.get? annot = some a)
      (held : a.objects[index]? = some object) :
      Change d (.removeEmbedded annot index)
        { d with
          annots := d.annots.insert annot { a with objects := a.objects.eraseIdx index }
          objects := d.objects.erase object }
  | newDocument : Change d .setup d.createDocument.2
  | newPage (height) : Change d .setup (d.addPage height).2
  | settings (failing) (removesQuads) : Change d .setup { d with failing, removesQuads }

variable {d d' : Document}

theorem Change.eq_of_nothing (change : d.Change .nothing d') : d' = d := by
  cases change
  rfl

theorem changePage_eq_some {page : PageId} {f : Page → Option Page} :
    d.changePage page f = some d' ↔
      ∃ p p', d.pages.get? page = some p ∧ f p = some p' ∧ d' = { d with pages := d.pages.insert page p' } := by
  simp only [changePage, Option.bind_eq_bind, Option.bind_eq_some_iff, Option.pure_def, Option.some.injEq]
  constructor
  · rintro ⟨p, known, p', next, same⟩
    exact ⟨p, p', known, next, same.symm⟩
  · rintro ⟨p, p', known, next, same⟩
    exact ⟨p, known, p', next, same.symm⟩

theorem changeObject_eq_some {object : ObjectId} {f : StoredObject → Option StoredObject} :
    d.changeObject object f = some d' ↔
      ∃ o o', d.objects.get? object = some o ∧ f o = some o' ∧
        d' = { d with objects := d.objects.insert object o' } := by
  simp only [changeObject, Option.bind_eq_bind, Option.bind_eq_some_iff, Option.pure_def, Option.some.injEq]
  constructor
  · rintro ⟨o, known, o', next, same⟩
    exact ⟨o, o', known, next, same.symm⟩
  · rintro ⟨o, o', known, next, same⟩
    exact ⟨o, known, o', next, same.symm⟩

theorem changeAnnot_eq_some {annot : AnnotId} {f : StoredAnnot → Option StoredAnnot} :
    d.changeAnnot annot f = some d' ↔
      ∃ a a', d.annots.get? annot = some a ∧ f a = some a' ∧
        d' = { d with annots := d.annots.insert annot a' } := by
  simp only [changeAnnot, Option.bind_eq_bind, Option.bind_eq_some_iff, Option.pure_def, Option.some.injEq]
  constructor
  · rintro ⟨a, known, a', next, same⟩
    exact ⟨a, a', known, next, same.symm⟩
  · rintro ⟨a, a', known, next, same⟩
    exact ⟨a, known, a', next, same.symm⟩

theorem insertObject_eq_some {page : PageId} {object : ObjectId} :
    d.insertObject page object = some d' ↔ d.isLive object = true ∧ d.isAttached object = false ∧
      ∃ p, d.pages.get? page = some p ∧
        d' = { d with pages := d.pages.insert page { p with objects := p.objects ++ [object] } } := by
  rw [insertObject]
  split
  case isTrue free =>
    simp only [Bool.and_eq_true, Bool.not_eq_true'] at free
    rw [changePage_eq_some]
    constructor
    · rintro ⟨p, p', known, next, rfl⟩
      cases next
      exact ⟨free.1, free.2, p, known, rfl⟩
    · rintro ⟨-, -, p, known, rfl⟩
      exact ⟨p, _, known, rfl, rfl⟩
  case isFalse notFree =>
    constructor
    · intro inserted
      cases inserted
    · rintro ⟨live, free, -⟩
      refine absurd ?_ notFree
      rw [live, free]
      rfl

theorem embedObject_eq_some {annot : AnnotId} {object : ObjectId} :
    d.embedObject annot object = some d' ↔ d.isLive object = true ∧ d.isAttached object = false ∧
      ∃ a, d.annots.get? annot = some a ∧
        d' = { d with annots := d.annots.insert annot { a with objects := a.objects ++ [object] } } := by
  rw [embedObject]
  split
  case isTrue free =>
    simp only [Bool.and_eq_true, Bool.not_eq_true'] at free
    rw [changeAnnot_eq_some]
    constructor
    · rintro ⟨a, a', known, next, rfl⟩
      cases next
      exact ⟨free.1, free.2, a, known, rfl⟩
    · rintro ⟨-, -, a, known, rfl⟩
      exact ⟨a, _, known, rfl, rfl⟩
  case isFalse notFree =>
    constructor
    · intro embedded
      cases embedded
    · rintro ⟨live, free, -⟩
      refine absurd ?_ notFree
      rw [live, free]
      rfl

theorem detachObject_eq_some {page : PageId} {object : ObjectId} :
    d.detachObject page object = some d' ↔ ∃ p, d.pages.get? page = some p ∧ object ∈ p.objects ∧
      d' = { d with pages := d.pages.insert page { p with objects := p.objects.erase object } } := by
  rw [detachObject, changePage_eq_some]
  constructor
  · rintro ⟨p, p', known, next, rfl⟩
    split at next
    case isTrue held =>
      cases next
      exact ⟨p, known, held, rfl⟩
    case isFalse => cases next
  · rintro ⟨p, known, held, rfl⟩
    exact ⟨p, _, known, if_pos held, rfl⟩

theorem createAnnot_eq_some {page : PageId} {kind : AnnotKind} {annot : AnnotId} :
    d.createAnnot page kind = some (annot, d') ↔ annot = ⟨d.issued + 1⟩ ∧ ∃ p, d.pages.get? page = some p ∧
      d' = { d with
        issued := d.issued + 1
        pages := d.pages.insert page { p with annots := p.annots ++ [⟨d.issued + 1⟩] }
        annots := d.annots.insert ⟨d.issued + 1⟩ (.new kind) } := by
  simp only [createAnnot, Option.bind_eq_bind, Option.bind_eq_some_iff, Option.pure_def, Option.some.injEq,
    Prod.mk.injEq, changePage_eq_some]
  constructor
  · rintro ⟨middle, ⟨p, p', known, rfl, rfl⟩, rfl, rfl⟩
    exact ⟨rfl, p, known, rfl⟩
  · rintro ⟨rfl, p, known, rfl⟩
    exact ⟨_, ⟨p, _, known, rfl, rfl⟩, rfl, rfl⟩

theorem removeAnnot_eq_some {page : PageId} {index : Nat} :
    d.removeAnnot page index = some d' ↔ ∃ p annot, d.pages.get? page = some p ∧
      p.annots[index]? = some annot ∧
      d' = { d with
        pages := d.pages.insert page { p with annots := p.annots.eraseIdx index } }.releaseAnnot annot := by
  simp only [removeAnnot, Option.bind_eq_bind, Option.bind_eq_some_iff, Option.pure_def, Option.some.injEq,
    changePage_eq_some]
  constructor
  · rintro ⟨p, known, annot, listed, middle, ⟨p', _, known', rfl, rfl⟩, rfl⟩
    cases known.symm.trans known'
    exact ⟨p, annot, known, listed, rfl⟩
  · rintro ⟨p, annot, known, listed, rfl⟩
    exact ⟨p, known, annot, listed, _, ⟨p, _, known, rfl, rfl⟩, rfl⟩

theorem removeEmbedded_eq_some {annot : AnnotId} {index : Nat} :
    d.removeEmbedded annot index = some d' ↔ ∃ a object, d.annots.get? annot = some a ∧
      a.objects[index]? = some object ∧
      d' = { d with
        annots := d.annots.insert annot { a with objects := a.objects.eraseIdx index }
        objects := d.objects.erase object } := by
  simp only [removeEmbedded, Option.bind_eq_bind, Option.bind_eq_some_iff, Option.pure_def, Option.some.injEq,
    changeAnnot_eq_some]
  constructor
  · rintro ⟨a, known, object, held, middle, ⟨a', _, known', rfl, rfl⟩, rfl⟩
    cases known.symm.trans known'
    exact ⟨a, object, known, held, rfl⟩
  · rintro ⟨a, object, known, held, rfl⟩
    exact ⟨a, known, object, held, _, ⟨a, _, known, rfl, rfl⟩, rfl⟩

theorem change_tell {effect : Effect} {result : Option Document}
    (change : ∀ d', result = some d' → d.Change effect d') : d.Change effect (d.tell result).2 := by
  cases result with
  | none => exact .nothing effect
  | some d' => exact change d' rfl

theorem change_issue {ι : Type} {effect : Effect} {result : Option (ι × Document)}
    (change : ∀ id d', result = some (id, d') → d.Change effect d') : d.Change effect (d.issue result).2 := by
  cases result with
  | none => exact .nothing effect
  | some issued => exact change issued.1 issued.2 rfl

theorem change_object {object : ObjectId} {f : StoredObject → Option StoredObject}
    (shape : ∀ o o', f o = some o' → o'.content.kind = o.content.kind ∧
      ∀ fonts, o.content.Sound fonts → o'.content.Sound fonts) :
    d.Change (.object object) (d.tell (d.changeObject object f)).2 := by
  refine change_tell fun d' changed => ?_
  obtain ⟨o, o', known, next, rfl⟩ := changeObject_eq_some.mp changed
  exact .object object o o' known (shape o o' next).1 (shape o o' next).2

theorem change_content {object : ObjectId} {f : StoredContent → Option StoredContent}
    (shape : ∀ c c', f c = some c' → c'.kind = c.kind ∧ ∀ fonts, c.Sound fonts → c'.Sound fonts) :
    d.Change (.object object) (d.tell (d.changeContent object f)).2 := by
  refine change_object fun o o' next => ?_
  simp only [Option.bind_eq_bind, Option.bind_eq_some_iff, Option.pure_def, Option.some.injEq] at next
  obtain ⟨c, next, rfl⟩ := next
  exact shape o.content c next

theorem change_segments {object : ObjectId} {f : List StoredSegment → Option (List StoredSegment)}
    (start : ∀ segments segments', f segments = some segments' → StoredSegment.StartWithMove segments →
      StoredSegment.StartWithMove segments') :
    d.Change (.object object) (d.tell (d.changeSegments object f)).2 := by
  refine change_content fun c c' next => ?_
  cases c with
  | path segments mode =>
      simp only [StoredContent.segments?, StoredContent.setSegments?, Option.bind_eq_bind, Option.bind_some,
        Option.bind_eq_some_iff, Option.some.injEq] at next
      obtain ⟨segments', next, rfl⟩ := next
      exact ⟨rfl, fun _ => start segments segments' next⟩
  | image | text | shading => simp [StoredContent.segments?] at next

theorem change_annot {annot : AnnotId} {f : StoredAnnot → Option StoredAnnot}
    (shape : ∀ a a', f a = some a' → a'.kind = a.kind ∧ a'.objects = a.objects ∧ (a.Sound → a'.Sound)) :
    d.Change (.annot annot) (d.tell (d.changeAnnot annot f)).2 := by
  refine change_tell fun d' changed => ?_
  obtain ⟨a, a', known, next, rfl⟩ := changeAnnot_eq_some.mp changed
  obtain ⟨kind, objects, sound⟩ := shape a a' next
  exact .annot annot a a' known kind objects sound

theorem change_quads {annot : AnnotId} {f : List (Quad Float32) → Option (List (Quad Float32))} :
    d.Change (.annot annot) (d.tell (d.changeQuads annot f)).2 := by
  refine change_annot fun a a' next => ?_
  obtain ⟨quads, -, rfl⟩ := Option.map_eq_some_iff.mp next
  exact ⟨rfl, rfl, id⟩

end Document

theorem StoredSegment.StartWithMove.append {segments : List StoredSegment} (start : StartWithMove segments)
    (more : List StoredSegment) : StartWithMove (segments ++ more) := by
  cases segments with
  | nil => cases start
  | cons first rest => exact start

theorem StoredSegment.StartWithMove.closeLast {segments segments' : List StoredSegment}
    (start : StartWithMove segments) (closed : Document.closeLast segments = some segments') :
    StartWithMove segments' := by
  simp only [Document.closeLast, Option.map_eq_some_iff] at closed
  obtain ⟨last, isLast, rfl⟩ := closed
  cases segments with
  | nil => cases start
  | cons first rest =>
      cases rest with
      | nil =>
          cases isLast
          exact start
      | cons second rest => exact start

theorem StoredAnnot.Sound.setString {a : StoredAnnot} (sound : a.Sound) (key : String) (units : List UInt16) :
    StoredAnnot.Sound { a with strings := a.strings.insert key (Utf16.terminated units) } := by
  intro key' units' found
  rw [Table.get?_insert] at found
  split at found
  · cases found
    exact Utf16.terminated_terminated units
  · exact sound key' units' found

namespace Document

variable {d : Document}

theorem change_addBezier (d : Document) (object : ObjectId) (points : List (Float32 × Float32)) :
    d.Change (.object object) (d.tell (d.addBezier object points)).2 := by
  refine change_segments fun segments segments' next start => ?_
  cases next
  exact start.append _

theorem change_replaceBitmap (d : Document) (object : ObjectId) (bitmap : Option RawBitmap) :
    d.Change (.object object) (d.tell (d.replaceBitmap object bitmap)).2 := by
  refine change_content fun c c' next => ?_
  cases c <;> cases next
  exact ⟨rfl, fun _ => id⟩

theorem change_clearString (d : Document) (annot : AnnotId) (key : String) :
    d.Change (.annot annot) (d.tell (d.clearString annot key)).2 := by
  refine change_annot fun a a' next => ?_
  split at next
  case isTrue =>
    cases next
    exact ⟨rfl, rfl, fun sound key' units found => sound key' units (Table.get?_of_get?_erase found)⟩
  case isFalse => cases next

theorem run_change (d : Document) {α : Type} (call : Call α) : d.Change call.effect (d.run call).2 := by
  cases call with
  | insertObject page object =>
      refine change_tell fun d' inserted => ?_
      obtain ⟨live, free, p, known, rfl⟩ := insertObject_eq_some.mp inserted
      exact .insert page object p known live free
  | detachObject page object =>
      refine change_tell fun d' detached => ?_
      obtain ⟨p, known, held, rfl⟩ := detachObject_eq_some.mp detached
      exact .detach page object p known held
  | generateContent page =>
      refine change_tell fun d' generated => ?_
      obtain ⟨p, p', known, next, rfl⟩ := changePage_eq_some.mp generated
      cases next
      exact .content page p known
  | destroyObject object =>
      simp only [run, destroyObject]
      split
      case isTrue => exact .nothing _
      case isFalse free => exact .destroy object (by simpa using free)
  | setMatrix | transform =>
      refine change_object fun o o' next => ?_
      cases next
      exact ⟨rfl, fun _ => id⟩
  | setColor object paint color =>
      refine change_object fun o o' next => ?_
      cases paint <;> cases next <;> exact ⟨rfl, fun _ => id⟩
  | setStrokeWidth object width =>
      simp only [run]
      split
      case isTrue => exact .nothing _
      case isFalse =>
        refine change_object fun o o' next => ?_
        cases next
        exact ⟨rfl, fun _ => id⟩
  | createPath x y => exact .newObject _ rfl
  | createImage => exact .newObject _ trivial
  | createText document font size =>
      refine change_issue fun id d' created => ?_
      split at created
      case isTrue loaded =>
        cases created
        exact .newObject _ ⟨Table.contains_iff.mp loaded, [], by simp, rfl⟩
      case isFalse => cases created
  | loadFont document name => exact .newFont name
  | addSegment object command x y =>
      refine change_segments fun segments segments' next start => ?_
      cases next
      exact start.append _
  | closePath object => exact change_segments fun segments segments' next start => start.closeLast next
  | setDrawMode object mode =>
      refine change_content fun c c' next => ?_
      cases c <;> cases next
      exact ⟨rfl, fun _ => id⟩
  | setBitmap object bitmap => exact change_replaceBitmap d object _
  | setText object units =>
      refine change_content fun c c' next => ?_
      cases c <;> cases next
      exact ⟨rfl, fun _ sound => ⟨sound.1, Utf16.terminated_terminated units⟩⟩
  | setRenderMode object code =>
      refine change_content fun c c' next => ?_
      cases c <;> cases next
      exact ⟨rfl, fun _ => id⟩
  | createAnnot page kind =>
      refine change_issue fun annot d' created => ?_
      obtain ⟨-, p, known, rfl⟩ := createAnnot_eq_some.mp created
      exact .newAnnot page kind p known
  | removeAnnot page index =>
      refine change_tell fun d' removed => ?_
      obtain ⟨p, annot, known, listed, rfl⟩ := removeAnnot_eq_some.mp removed
      exact .removeAnnot page index p annot known listed
  | setAnnotRect annot rect =>
      refine change_annot fun a a' next => ?_
      cases next
      exact ⟨rfl, rfl, id⟩
  | setAnnotString annot key units =>
      refine change_annot fun a a' next => ?_
      cases next
      exact ⟨rfl, rfl, fun sound => sound.setString key units⟩
  | setAnnotColor annot role color =>
      refine change_annot fun a a' next => ?_
      cases role <;> cases next <;> exact ⟨rfl, rfl, id⟩
  | setQuad | appendQuad | removeQuad => exact change_quads
  | embed annot object =>
      refine change_tell fun d' embedded => ?_
      obtain ⟨live, free, a, known, rfl⟩ := embedObject_eq_some.mp embedded
      exact .embed annot object a known live free
  | removeEmbedded annot index =>
      refine change_tell fun d' removed => ?_
      obtain ⟨a, object, known, held, rfl⟩ := removeEmbedded_eq_some.mp removed
      exact .removeEmbedded annot index a object known held
  | pageHeight | objectCount | objectAt | objectKind | matrix | bounds | color | strokeWidth | segmentCount
  | segmentAt | drawMode | bitmap | font | fontName | fontSize | text | renderMode | annotCount | annotAt
  | annotIndex | annotKind | annotRect | embeddedCount | embeddedAt | quadCount | quadAt | removesQuads
  | annotString | annotColor => exact .nothing _

theorem perform_change (d : Document) {α : Type} (call : Call α) : d.Change call.effect (perform call d).2 := by
  rw [perform]
  split
  case isTrue => exact .nothing _
  case isFalse => exact run_change d call

end Document

end PageContent
