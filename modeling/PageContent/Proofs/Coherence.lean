import Mathlib.Data.List.Induction
import PageContent.Proofs.Writing

namespace PageContent

open Document (Same)

def PageObject.unplaced (o : PageObject) : PageObject :=
  { o with attributes := { o.attributes with deviceMatrix := .identity } }

def StoredObject.Appears (fonts : Table FontId String) (o : StoredObject) (shown : PageObject) : Prop :=
  o.content.Shows fonts shown.content ∧ shown.attributes = ⟨.identity, o.fill, o.stroke, o.strokeWidth⟩

theorem map_eq_set {α β : Type} {f g : β → α} {l : List β} {index : Nat} {x : β} (nodup : l.Nodup)
    (found : l[index]? = some x) (others : ∀ y ∈ l, y ≠ x → g y = f y) :
    l.map g = (l.map f).set index (g x) := by
  apply List.ext_getElem?
  intro place
  rw [List.getElem?_set, List.length_map]
  obtain ⟨inside, rfl⟩ := List.getElem?_eq_some_iff.mp found
  by_cases same : index = place
  · subst same
    rw [if_pos rfl, if_pos inside, List.getElem?_map, found]
    rfl
  · rw [if_neg same, List.getElem?_map, List.getElem?_map]
    cases there : l[place]? with
    | none => rfl
    | some y =>
        obtain ⟨inside', rfl⟩ := List.getElem?_eq_some_iff.mp there
        have different : l[place] ≠ l[index] := fun equal => same (nodup.getElem_inj_iff.mp equal).symm
        exact congrArg some (others _ (List.getElem_mem inside') different)

theorem StoredContent.Shows.congr {fonts fonts' : Table FontId String} {stored : StoredContent} {content : Content}
    (shows : stored.Shows fonts content)
    (same : ∀ id size units code, stored = .text id size units code → fonts'.get? id = fonts.get? id) :
    stored.Shows fonts' content := by
  cases shows with
  | path nonempty segments => exact .path nonempty segments
  | image valid => exact .image valid
  | text named known nonempty coded => exact .text ((same _ _ _ _ rfl).trans named) known nonempty coded

theorem StoredContent.Sound.shows_iff {fonts fonts' : Table FontId String} {stored : StoredContent}
    (sound : stored.Sound fonts) (grow : fonts.entries <+: fonts'.entries) {content : Content} :
    stored.Shows fonts' content ↔ stored.Shows fonts content := by
  have same : ∀ id size units code, stored = .text id size units code → fonts'.get? id = fonts.get? id := by
    rintro id size units code rfl
    exact Table.get?_of_grow grow sound.1
  exact ⟨fun shows => shows.congr fun id size units code text => (same id size units code text).symm,
    fun shows => shows.congr same⟩

/-- The text ends nowhere but at its end. -/
def Content.Solid : Content → Prop
  | .text string _ _ _ => '\x00' ∉ string.toList
  | .path .. | .image _ => True

theorem Content.Solid.echoes {content : Content} (solid : content.Solid) : content.Echoes content := by
  cases content with
  | path => exact .path
  | image => exact .image
  | text string font size mode =>
      have echoes : (Content.text (Utf16.beforeZero string) font size mode).Echoes (.text string font size mode) :=
        .text
      rwa [Utf16.beforeZero_of_solid solid] at echoes

namespace Document

variable {d d' : Document} {page : PageRef} {object : ObjectId} {p p' : Page}

def Measures (d : Document) : Prop := .setMatrix ∉ d.failing ∧ .getBounds ∉ d.failing

def look (d : Document) (page : PageRef) (object : ObjectId) : Option PageObject :=
  (PageObject.read object page d).1.toOption.map PageObject.unplaced

theorem look_eq_some_iff (sound : d.Sound) (known : d.pages.get? page.page = some p) {shown : PageObject} :
    d.look page object = some shown ↔
      d.Measures ∧ ∃ o, d.objects.get? object = some o ∧ o.Appears d.fonts shown := by
  have read : ∀ o, (PageObject.read object page d).1.toOption = some o ↔ d.Shows object page.page o := by
    intro o
    rw [← PageObject.read_eq_ok_iff]
    cases (PageObject.read object page d).1 <;> simp [Except.toOption]
  rw [look, Option.map_eq_some_iff]
  constructor
  · rintro ⟨o, shows, rfl⟩
    obtain ⟨stored, p', bounds, placeable, content, attributes⟩ := (read o).mp shows
    refine ⟨⟨placeable.setMatrix, placeable.getBounds⟩, stored, placeable.object, content, ?_⟩
    rw [PageObject.unplaced, attributes]
  · rintro ⟨measures, stored, found, content, attributes⟩
    obtain ⟨bounds, bounded⟩ := sound.bounded found
    refine ⟨⟨shown.content, ⟨deviceMatrix stored.matrix bounds p.height, stored.fill, stored.stroke,
      stored.strokeWidth⟩⟩, (read _).mpr ?_, PageObject.ext rfl attributes.symm⟩
    exact ⟨stored, p, bounds, ⟨found, known, measures.1, measures.2, bounded⟩, content, rfl⟩

theorem look_eq_some_iff_of_found {o : StoredObject} {shown : PageObject} (sound : d.Sound)
    (known : d.pages.get? page.page = some p) (found : d.objects.get? object = some o) :
    d.look page object = some shown ↔ d.Measures ∧ o.Appears d.fonts shown := by
  rw [look_eq_some_iff sound known]
  refine and_congr_right fun _ => ⟨?_, fun appears => ⟨o, found, appears⟩⟩
  rintro ⟨o', found', appears⟩
  cases found.symm.trans found'
  exact appears

theorem look_congr (sound : d.Sound) (sound' : d'.Sound) (known : d.pages.get? page.page = some p)
    (known' : d'.pages.get? page.page = some p') (failing : d'.failing = d.failing)
    (appears : ∀ shown, (∃ o, d'.objects.get? object = some o ∧ o.Appears d'.fonts shown) ↔
      ∃ o, d.objects.get? object = some o ∧ o.Appears d.fonts shown) :
    d'.look page object = d.look page object := by
  have measures : d'.Measures ↔ d.Measures := by rw [Measures, Measures, failing]
  ext shown
  rw [look_eq_some_iff sound known, look_eq_some_iff sound' known', appears, measures]

theorem look_eq_none (sound : d.Sound) (known : d.pages.get? page.page = some p) (blind : ¬d.Measures) :
    d.look page object = none := by
  refine Option.eq_none_iff_forall_ne_some.mpr fun shown same => ?_
  exact blind ((look_eq_some_iff sound known).mp same).1

/-- Of all that a reader is told, no more than one object was changed. -/
structure DiffersAt (object : ObjectId) (d d' : Document) : Prop where
  failing : d'.failing = d.failing
  fonts : d'.fonts = d.fonts
  others : ∀ other, other ≠ object → d'.objects.get? other = d.objects.get? other

theorem map_look_eq_set (sound : d.Sound) (sound' : d'.Sound) (known : d.pages.get? page.page = some p)
    (known' : d'.pages.get? page.page = some p') (differs : DiffersAt object d d') {index : Nat}
    (found : p.objects[index]? = some object) :
    p.objects.map (d'.look page) = (p.objects.map (d.look page)).set index (d'.look page object) := by
  refine map_eq_set (sound.page_nodup known) found fun other _ different => ?_
  refine look_congr sound sound' known known' differs.failing fun shown => ?_
  rw [differs.others other different, differs.fonts]

theorem HalfWritten.differsAt {o : PageObject} (half : d.HalfWritten object page.page o d') :
    d'.pages = d.pages ∧ DiffersAt object d d' := by
  cases half with
  | nothing => exact ⟨rfl, rfl, rfl, fun _ _ => rfl⟩
  | content => exact ⟨rfl, rfl, rfl, fun _ => get?_put_of_ne⟩
  | style _ _ same =>
      subst same
      exact ⟨rfl, rfl, rfl, fun _ => get?_put_of_ne⟩

theorem look_put_eq_iff {before : StoredObject} {stored : StoredContent} (sound : d.Sound)
    (sound' : (d.put object { before with content := stored }).Sound) (known : d.pages.get? page.page = some p)
    (found : d.objects.get? object = some before) :
    (d.put object { before with content := stored }).look page object = d.look page object ↔
      (d.Measures → ∀ content, stored.Shows d.fonts content ↔ before.content.Shows d.fonts content) := by
  rw [Option.ext_iff]
  simp only [look_eq_some_iff_of_found sound known found, look_eq_some_iff_of_found sound' known get?_put_self]
  constructor
  · intro same measures content
    have shown := same ⟨content, ⟨.identity, before.fill, before.stroke, before.strokeWidth⟩⟩
    exact ⟨fun shows => (shown.mp ⟨measures, shows, rfl⟩).2.1,
      fun shows => (shown.mpr ⟨measures, shows, rfl⟩).2.1⟩
  · intro same shown
    exact and_congr_right fun measures => and_congr_left' (same measures shown.content)

/-- Writing `o` to an object keeps what is remembered of it true. All of `o` is remembered, so it must have
the parts that are never written from before; where the width of its strokes is refused nothing is remembered,
so the content that was written already must not show. -/
structure Agrees (d : Document) (object : ObjectId) (o : PageObject) : Prop where
  whole : ∀ before stored, d.Takes object o.content before stored → d.TakesWidth o.attributes.strokeWidth →
    d.Measures → o.content.Suits d.fonts before.content
  half : ∀ before stored, d.Takes object o.content before stored → ¬d.TakesWidth o.attributes.strokeWidth →
    d.Measures → ∀ content, stored.Shows d.fonts content ↔ before.content.Shows d.fonts content

theorem Writable.agrees_iff_look {o : PageObject} {before : StoredObject} {stored : StoredContent}
    {bounds : Rect .page Float32} (writable : d.Writable object page.page o before stored p bounds)
    (sound' : d'.Sound) (known' : d'.pages.get? page.page = some p') (differs : DiffersAt object d d')
    (written : d'.objects.get? object = some (o.onto stored bounds p.height)) (made : o.content.Made)
    (solid : o.content.Solid) : d.Agrees object o ↔ some o.unplaced = d'.look page object := by
  have measures : d.Measures := ⟨writable.setMatrix, writable.getBounds⟩
  have measures' : d'.Measures := by rwa [Measures, differs.failing]
  have shows : stored.Shows d.fonts o.content ↔ o.content.Suits d.fonts before.content ∧ o.content.Echoes o.content :=
    Content.shows_written_iff writable.takes.written made
  rw [eq_comm, look_eq_some_iff_of_found sound' known' written, differs.fonts]
  constructor
  · intro agrees
    have suits := agrees.whole before stored writable.takes writable.takesWidth measures
    exact ⟨measures', shows.mpr ⟨suits, solid.echoes⟩, rfl⟩
  · rintro ⟨-, content, -⟩
    refine ⟨fun before' stored' takes _ _ => ?_, fun _ _ _ refused => absurd writable.takesWidth refused⟩
    cases writable.takes.object.symm.trans takes.object
    exact (shows.mp content).1

theorem HalfWritten.agrees_iff_look {o : PageObject} (half : d.HalfWritten object page.page o d') (sound : d.Sound)
    (sound' : d'.Sound) (known : d.pages.get? page.page = some p) :
    d.Agrees object o ↔ d.look page object = d'.look page object := by
  cases half with
  | nothing refused =>
      have never : ∀ before stored, d.Takes object o.content before stored → False := refused
      exact iff_of_true ⟨fun _ _ takes => (never _ _ takes).elim, fun _ _ takes => (never _ _ takes).elim⟩ rfl
  | @content before stored takes refused =>
      rw [eq_comm, look_put_eq_iff sound sound' known takes.object]
      refine ⟨fun agrees => agrees.half before stored takes refused, fun same => ?_⟩
      refine ⟨fun _ _ _ taken => absurd taken refused, fun before' stored' takes' _ measures => ?_⟩
      cases takes.object.symm.trans takes'.object
      cases takes.written.symm.trans takes'.written
      exact same measures
  | style takes takesWidth same refused =>
      subst same
      -- An object of a known page has bounds, so it can be placed unless no object can.
      have blind : ¬d.Measures := by
        intro measures
        obtain ⟨bounds, bounded⟩ := sound'.bounded get?_put_self
        exact refused _ p bounds ⟨get?_put_self, known, measures.1, measures.2, bounded⟩
      rw [look_eq_none sound known blind, look_eq_none sound' known blind]
      exact iff_of_true ⟨fun _ _ _ _ measures => absurd measures blind,
        fun _ _ _ refused => absurd takesWidth refused⟩ rfl

end Document

namespace Editor

variable {e : Editor} {d d' : Document} {p p' : Page}

/-- The answer when the objects are asked for, but for where they are placed. -/
def told (refetch : Bool) (s : Editor × Document) : Except Error (List (Option PageObject)) :=
  (objects refetch s).1.map (·.map (·.map PageObject.unplaced))

/-- What an editor remembers of its page is what it would read. -/
def Coherent (s : Editor × Document) : Prop := told false s = told true s

theorem told_anew {refetch : Bool} (known : d.pages.get? e.page.page = some p)
    (anew : refetch = true ∨ e.cache = none) : told refetch (e, d) = .ok (p.objects.map (d.look e.page)) := by
  rw [told, objects_eq known anew, Except.map, List.map_map]
  rfl

theorem coherent_of_forgotten (known : d.pages.get? e.page.page = some p) (forgotten : e.cache = none) :
    Coherent (e, d) := by
  rw [Coherent, told_anew known (.inl rfl), told_anew known (.inr forgotten)]

theorem coherent_iff {remembered : List (Option PageObject)} (known : d.pages.get? e.page.page = some p)
    (cache : e.cache = some remembered) :
    Coherent (e, d) ↔ remembered.map (·.map PageObject.unplaced) = p.objects.map (d.look e.page) := by
  rw [Coherent, told_anew known (.inl rfl), told, objects_eq_of_remembered cache]
  exact ⟨Except.ok.inj, congrArg Except.ok⟩

/-- An update writes all of `o` and remembers it, or remembers nothing new of an object left half-written. -/
theorem updateObject_writes {index : Nat} (o : PageObject) (known : d.pages.get? e.page.page = some p) :
    Ends (updateObject index o) (e, d)
      (fun _ s' => ∃ object before stored bounds, p.objects[index]? = some object ∧
        d.Writable object e.page.page o before stored p bounds ∧
        s' = ({ e with cache := e.cache.map (·.set index (some o)) },
          { d.put object (o.onto stored bounds p.height) with
            pages := d.pages.insert e.page.page (p.finished e.config) }))
      fun _ s' => (p.objects[index]? = none ∧ s' = (e, d)) ∨
        ∃ object d', p.objects[index]? = some object ∧ d.HalfWritten object e.page.page o d' ∧ s' = (e, d') := by
  apply ends_bind.mpr
  refine objectAt_ends known (fun object found => ?_) fun outside => .inl ⟨List.getElem?_eq_none outside, rfl⟩
  apply ends_bind.mpr
  apply ends_onLibrary.mpr
  refine PageObject.update_ends.mono ?_ fun _ d' half => .inr ⟨object, d', found, half, rfl⟩
  rintro - d' ⟨before, stored, p', bounds, writable, rfl⟩
  cases known.symm.trans writable.page
  apply ends_bind.mpr
  apply ends_cached.mpr
  apply ends_bind.mpr
  apply ends_setCache.mpr
  exact finish_ends known ⟨object, before, stored, bounds, found, writable, rfl⟩

theorem coherent_iff_slot {remembered : List (Option PageObject)} {index : Nat} {object : ObjectId}
    {slot : Option PageObject} (sound : d.Sound) (sound' : d'.Sound)
    (known : d.pages.get? e.page.page = some p) (known' : d'.pages.get? e.page.page = some p')
    (objects : p'.objects = p.objects) (differs : Document.DiffersAt object d d')
    (found : p.objects[index]? = some object) (cache : e.cache = some remembered) (coherent : Coherent (e, d)) :
    Coherent ({ e with cache := some (remembered.set index slot) }, d') ↔
      slot.map PageObject.unplaced = d'.look e.page object := by
  have before := (coherent_iff known cache).mp coherent
  have inside : index < (p.objects.map (d.look e.page)).length := by
    rw [List.length_map]
    exact (List.getElem?_eq_some_iff.mp found).1
  refine (coherent_iff (e := { e with cache := some (remembered.set index slot) }) known' rfl).trans ?_
  rw [List.map_set, before, objects, Document.map_look_eq_set sound sound' known known' differs found]
  constructor
  · intro same
    have place := congrArg (·[index]?) same
    simpa only [List.getElem?_set_self inside, Option.some.injEq] using place
  · intro same
    rw [same]

theorem Coherent.slot {remembered : List (Option PageObject)} {index : Nat} {object : ObjectId}
    (coherent : Coherent (e, d)) (known : d.pages.get? e.page.page = some p)
    (found : p.objects[index]? = some object) (cache : e.cache = some remembered) :
    ∃ slot, remembered.set index slot = remembered ∧ slot.map PageObject.unplaced = d.look e.page object := by
  have same := congrArg (·[index]?) ((coherent_iff known cache).mp coherent)
  simp only [List.getElem?_map, found, Option.map_some] at same
  obtain ⟨slot, there, looks⟩ := Option.map_eq_some_iff.mp same
  obtain ⟨inside, rfl⟩ := List.getElem?_eq_some_iff.mp there
  exact ⟨_, List.set_getElem_self inside, looks⟩

def Action.Apt : Action → Editor × Document → Prop
  | .updateObject index o, (e, d) => ∀ remembered p object, e.cache = some remembered →
    d.pages.get? e.page.page = some p → p.objects[index]? = some object → d.Agrees object o
  | _, _ => True

theorem Action.run_sound (action : Action) (sound : d.Sound) :
    Ends action.run (e, d) (fun _ s' => s'.2.Sound) fun _ s' => s'.2.Sound :=
  (action.run_keeps (e, d) ⟨sound, rfl⟩).mono (fun _ _ loose => loose.1) fun _ _ loose => loose.1

theorem apt_of_forgotten (action : Action) (forgotten : e.cache = none) : action.Apt (e, d) := by
  cases action with
  | updateObject index o =>
      intro remembered _ _ cache
      cases forgotten.symm.trans cache
  | height | objects | object | addObject | removeObject | annots | addAnnot | updateAnnot | removeAnnot => trivial

theorem apt_updateObject_iff {remembered : List (Option PageObject)} {index : Nat} {object : ObjectId}
    {o : PageObject} (cache : e.cache = some remembered) (known : d.pages.get? e.page.page = some p)
    (found : p.objects[index]? = some object) :
    (Action.updateObject index o).Apt (e, d) ↔ d.Agrees object o := by
  refine ⟨fun apt => apt remembered p object cache known found, fun agrees _ p' object' _ known' found' => ?_⟩
  cases known.symm.trans known'
  cases found.symm.trans found'
  exact agrees

theorem updateObject_coherent_iff {index : Nat} {o : PageObject} (made : o.content.Made) (solid : o.content.Solid)
    (sound : d.Sound) (known : d.pages.get? e.page.page = some p) (coherent : Coherent (e, d)) :
    Coherent (updateObject index o (e, d)).2 ↔ (Action.updateObject index o).Apt (e, d) := by
  have kept : Ends (updateObject index o) (e, d) (fun _ s' => s'.2.Sound) fun _ s' => s'.2.Sound :=
    (Action.updateObject index o).run_sound sound
  have ends : Ends (updateObject index o) (e, d)
      (fun _ s' => Coherent s' ↔ (Action.updateObject index o).Apt (e, d))
      fun _ s' => Coherent s' ↔ (Action.updateObject index o).Apt (e, d) := by
    refine ((updateObject_writes o known).and kept).mono ?_ ?_
    · rintro - s' ⟨⟨object, before, stored, bounds, found, writable, rfl⟩, sound'⟩
      have known' := Table.get?_insert_self d.pages e.page.page (p.finished e.config)
      cases cache : e.cache with
      | none => exact iff_of_true (coherent_of_forgotten known' rfl) (apt_of_forgotten _ cache)
      | some remembered =>
          have differs : Document.DiffersAt object d { d.put object (o.onto stored bounds p.height) with
              pages := d.pages.insert e.page.page (p.finished e.config) } :=
            ⟨rfl, rfl, fun _ => Document.get?_put_of_ne⟩
          rw [apt_updateObject_iff cache known found,
            writable.agrees_iff_look sound' known' differs Document.get?_put_self made solid]
          exact coherent_iff_slot sound sound' known known' rfl differs found cache coherent
    · rintro - s' ⟨⟨absent, rfl⟩ | ⟨object, d', found, half, rfl⟩, sound'⟩
      · refine iff_of_true coherent fun _ p' object _ known' found => ?_
        cases known.symm.trans known'
        cases absent.symm.trans found
      obtain ⟨pages, differs⟩ := half.differsAt
      have known' : d'.pages.get? e.page.page = some p := pages ▸ known
      cases cache : e.cache with
      | none => exact iff_of_true (coherent_of_forgotten known' cache) (apt_of_forgotten _ cache)
      | some remembered =>
          obtain ⟨slot, same, looks⟩ := coherent.slot known found cache
          have left : Coherent ({ e with cache := some (remembered.set index slot) }, d') ↔
              slot.map PageObject.unplaced = d'.look e.page object :=
            coherent_iff_slot sound sound' known known' rfl differs found cache coherent
          rw [same, ← cache] at left
          rw [apt_updateObject_iff cache known found, half.agrees_iff_look sound sound' known, ← looks]
          exact left
  exact ends.after

theorem coherent_of_read (known : d.pages.get? e.page.page = some p) :
    let slots := p.objects.map fun object => (PageObject.read object e.page d).1.toOption
    Coherent ({ e with cache := some slots }, d) := by
  refine (coherent_iff (e := { e with cache := some _ }) known rfl).mpr ?_
  rw [List.map_map]
  rfl

theorem objects_coherent {refetch : Bool} (known : d.pages.get? e.page.page = some p) (coherent : Coherent (e, d)) :
    Ends (objects refetch) (e, d) (fun _ => Coherent) fun _ => Coherent := by
  cases refetch with
  | true => exact (ends_of_eq_ok (objects_eq known (.inl rfl))).mpr (coherent_of_read known)
  | false =>
      cases cache : e.cache with
      | none => exact (ends_of_eq_ok (objects_eq known (.inr cache))).mpr (coherent_of_read known)
      | some remembered => exact (ends_of_eq_ok (objects_eq_of_remembered cache)).mpr coherent

theorem Coherent.same (sound : d.Sound) (sound' : d'.Sound) (known : d.pages.get? e.page.page = some p)
    (coherent : Coherent (e, d)) (same : Same d d') : Coherent (e, d') := by
  have known' : d'.pages.get? e.page.page = some p := same.pages ▸ known
  have looks : ∀ object, d'.look e.page object = d.look e.page object := by
    intro object
    refine Document.look_congr sound sound' known known' same.failing fun shown => ?_
    rw [same.objects]
    refine exists_congr fun o => and_congr_right fun found => and_congr_left' ?_
    exact (sound.contents object o found).shows_iff same.fonts
  cases cache : e.cache with
  | none => exact coherent_of_forgotten known' cache
  | some remembered =>
      rw [coherent_iff known' cache, (coherent_iff known cache).mp coherent]
      exact List.map_congr_left fun object _ => (looks object).symm

theorem coherent_of_leaves (leaves : e.Leaves p' d d') : Coherent ({ e with cache := none }, d') := by
  have pages : d'.pages = d.pages.insert e.page.page (p'.finished e.config) := leaves
  have known : d'.pages.get? e.page.page = some (p'.finished e.config) := by rw [pages, Table.get?_insert_self]
  exact coherent_of_forgotten known rfl

theorem addObject_coherent (o : PageObject) (sound : d.Sound) (known : d.pages.get? e.page.page = some p)
    (coherent : Coherent (e, d)) : Ends (addObject o) (e, d) (fun _ => Coherent) fun _ => Coherent := by
  have kept : Ends (addObject o) (e, d) (fun _ s' => s'.2.Sound) fun _ s' => s'.2.Sound :=
    ends_map.mp ((Action.addObject o).run_sound sound)
  refine ((addObject_ends o sound).and kept).mono ?_ ?_
  · rintro n ⟨e', d'⟩ ⟨⟨p', -, -, same, object, -, -, leaves⟩, -⟩
    cases same
    exact coherent_of_leaves leaves
  · rintro error ⟨e', d'⟩ ⟨⟨rfl, same⟩, sound'⟩
    exact coherent.same sound sound' known same

theorem removeObject_coherent (index : Nat) (sound : d.Sound) (known : d.pages.get? e.page.page = some p)
    (coherent : Coherent (e, d)) : Ends (removeObject index) (e, d) (fun _ => Coherent) fun _ => Coherent := by
  refine (removeObject_ends sound known).mono ?_ ?_
  · rintro - ⟨e', d'⟩ ⟨same, object, -, -, leaves⟩
    cases same
    exact coherent_of_leaves leaves
  · rintro error s' ⟨-, -, rfl⟩
    exact coherent

def Action.Plain : Action → Prop
  | .height | .objects _ | .object _ | .addObject _ | .removeObject _ => True
  | .updateObject _ o => o.content.Made ∧ o.content.Solid
  | .annots | .addAnnot _ | .updateAnnot .. | .removeAnnot _ => False

theorem Action.coherent_run_iff {action : Action} (plain : action.Plain) (sound : d.Sound)
    (known : d.pages.get? e.page.page = some p) (coherent : Coherent (e, d)) :
    Coherent (action.run (e, d)).2 ↔ action.Apt (e, d) := by
  have always : Ends action.run (e, d) (fun _ => Coherent) (fun _ => Coherent) → action.Apt (e, d) →
      (Coherent (action.run (e, d)).2 ↔ action.Apt (e, d)) :=
    fun ends apt => iff_of_true ends.after apt
  cases action with
  | updateObject index o => exact updateObject_coherent_iff plain.1 plain.2 sound known coherent
  | height =>
      refine always (ends_map.mpr (ends_onLibrary.mpr ?_)) trivial
      exact (readPageHeight_only e.page.page).keeps_still.ends_still (fun _ => coherent) fun _ => coherent
  | objects refetch => exact always (ends_map.mpr (objects_coherent known coherent)) trivial
  | object index => exact always (ends_map.mpr (ends_bind.mpr (objects_coherent known coherent))) trivial
  | addObject o => exact always (ends_map.mpr (addObject_coherent o sound known coherent)) trivial
  | removeObject index => exact always (removeObject_coherent index sound known coherent) trivial
  | annots | addAnnot | updateAnnot | removeAnnot => exact plain.elim

def runAll (actions : List Action) (s : Editor × Document) : Editor × Document :=
  actions.foldl (fun s action => (action.run s).2) s

theorem runAll_concat (past : List Action) (action : Action) (s : Editor × Document) :
    runAll (past ++ [action]) s = (action.run (runAll past s)).2 := by
  rw [runAll, List.foldl_append]
  rfl

theorem Session.runAll {page : PageRef} {config : EditConfig} (session : Session page config e d)
    (past : List Action) : Session page config (runAll past (e, d)).1 (runAll past (e, d)).2 := by
  induction past using List.reverseRecOn with
  | nil => exact session
  | append_singleton past action ih =>
      rw [runAll_concat]
      exact ih.act action

/-- What an editor remembers is what it would read again, at every moment of a run of edits of the objects of its
page, if and only if each update is apt where it is made. -/
theorem stays_coherent_iff {d : Document} {page : PageRef} {p : Page} (reachable : d.Reachable)
    (known : d.pages.get? page.page = some p) (config : EditConfig) {actions : List Action}
    (plain : ∀ action ∈ actions, action.Plain) :
    let after past := runAll past (openOn page config, d)
    (∀ past, past <+: actions → Coherent (after past)) ↔
      ∀ past action, past ++ [action] <+: actions → action.Apt (after past) := by
  intro after
  have step : ∀ past action, past ++ [action] <+: actions → Coherent (after past) →
      (Coherent (after (past ++ [action])) ↔ action.Apt (after past)) := by
    intro past action inside coherent
    have session : Session page config (openOn page config) d := .start reachable known
    obtain ⟨sound, -, p', known', -⟩ := (session.runAll past).fits
    have mem : action ∈ actions := inside.subset (List.mem_append_right _ (List.mem_singleton_self action))
    have next : after (past ++ [action]) = (action.run (after past)).2 := runAll_concat ..
    rw [next]
    exact Action.coherent_run_iff (plain action mem) sound known' coherent
  constructor
  · intro coherent past action inside
    have before : past <+: actions := (List.prefix_append past [action]).trans inside
    exact (step past action inside (coherent past before)).mp (coherent _ inside)
  · intro apt past
    induction past using List.reverseRecOn with
    | nil => exact fun _ => coherent_of_forgotten (e := openOn page config) known rfl
    | append_singleton past action ih =>
        intro inside
        have before : past <+: actions := (List.prefix_append past [action]).trans inside
        exact (step past action inside (ih before)).mpr (apt past action inside)

theorem bent_path_is_misremembered :
    ∃ (d : Document) (page : PageRef) (p : Page) (actions : List Action), d.Reachable ∧
      d.pages.get? page.page = some p ∧ (∀ action ∈ actions, action.Plain) ∧
      ¬Coherent (runAll actions (openOn page {}, d)) ∧
      ∃ past action, past ++ [action] <+: actions ∧ ¬action.Apt (runAll past (openOn page {}, d)) := by
  let line : PageObject := ⟨.path [⟨.move, 0, 0, false⟩, ⟨.line, 10, 10, false⟩] false true, .plain⟩
  let bent : PageObject :=
    ⟨.path [⟨.move, 0, 0, false⟩, ⟨.line, 3, 4, false⟩, ⟨.line, 5, 6, true⟩] false true, .plain⟩
  let actions : List Action := [.addObject line, .objects false, .updateObject 0 bent]
  let d : Document := ((Document.empty false).createDocument.2.addPage 792).2
  let page : PageRef := ⟨⟨1⟩, ⟨2⟩⟩
  have reachable : d.Reachable := ((Document.reachable_empty false).step .createDocument).step (.addPage 792)
  have known : d.pages.get? page.page = some ⟨792, [], [], 0⟩ := rfl
  have plain : ∀ action ∈ actions, action.Plain := by
    simp [actions, bent, Action.Plain, Content.Made, Content.Solid]
  have stale : ¬Coherent (runAll actions (openOn page {}, d)) := by
    unfold Coherent
    decide +kernel
  refine ⟨d, page, _, actions, reachable, known, plain, stale, ?_⟩
  by_contra none
  refine stale ((stays_coherent_iff reachable known {} plain).mpr (fun past action inside => ?_) actions
    List.prefix_rfl)
  by_contra inapt
  exact none ⟨past, action, inside, inapt⟩

/-- The first path is remembered with segments that were never written, and the second without the filling
that was written before the width of its strokes was refused. -/
theorem remembered_paths_are_not_read_again :
    ¬∀ (d : Document) (page : PageRef) (p : Page) (config : EditConfig) (actions : List Action), d.Reachable →
      d.pages.get? page.page = some p → (∀ action ∈ actions, action.Plain) →
      ∀ past, past <+: actions → Coherent (runAll past (openOn page config, d)) := by
  intro always
  let segments : List Segment := [⟨.move, 0, 0, false⟩, ⟨.line, 10, 10, false⟩]
  let line : PageObject := ⟨.path segments false true, .plain⟩
  let bent : PageObject :=
    ⟨.path [⟨.move, 1, 2, false⟩, ⟨.line, 3, 4, false⟩, ⟨.line, 5, 6, false⟩] false true, .plain⟩
  let filled : PageObject := ⟨.path segments true true, .plain⟩
  let refused : PageObject := ⟨.path segments true true, { Attributes.plain with strokeWidth := -1 }⟩
  let actions : List Action := [.addObject line, .addObject line, .objects false, .updateObject 0 bent,
    .updateObject 1 refused]
  let d : Document := ((Document.empty false).createDocument.2.addPage 792).2
  let page : PageRef := ⟨⟨1⟩, ⟨2⟩⟩
  have remembered : told false (runAll actions (openOn page {}, d)) = .ok [some bent, some line] := by decide +kernel
  have reread : told true (runAll actions (openOn page {}, d)) = .ok [some line, some filled] := by decide +kernel
  have reachable : d.Reachable := ((Document.reachable_empty false).step .createDocument).step (.addPage 792)
  have plain : ∀ action ∈ actions, action.Plain := by
    simp [actions, bent, refused, Action.Plain, Content.Made, Content.Solid]
  have same : told false (runAll actions (openOn page {}, d)) = told true (runAll actions (openOn page {}, d)) :=
    always d page ⟨792, [], [], 0⟩ {} actions reachable rfl plain actions List.prefix_rfl
  rw [remembered, reread] at same
  exact absurd same (by decide +kernel)

end Editor

end PageContent
