import PageContent.Proofs.Leaks
import PageContent.Proofs.Rollback

namespace PageContent

open Document (Change Same Adds Draft Loose)

def Effect.SparesPages : Effect → Prop
  | .nothing | .object _ | .annot _ | .newObject | .newFont | .destroy _ | .embed .. | .removeEmbedded .. => True
  | .content _ | .newAnnot _ | .insert .. | .detach .. | .removeAnnot .. | .setup => False

theorem Document.Change.pages_eq {d d' : Document} {effect : Effect} (change : d.Change effect d')
    (spares : effect.SparesPages) : d'.pages = d.pages := by
  cases change with
  | nothing | object | annot | newObject | newFont | destroy | embed | removeEmbedded => rfl
  | content | newAnnot | insert | detach | removeAnnot | newDocument | newPage | settings => exact spares.elim

theorem sparesPages_of_looks {effect : Effect} (looks : effect.Looks) : effect.SparesPages := by
  obtain ⟨object, rfl⟩ := looks
  trivial

theorem Only.keeps_pages {σ α : Type} [RefusingLibrary σ] {edit : Edit σ α}
    (only : Only Effect.SparesPages edit)
    (pages : Table PageId Page) : Keeps (fun d => d.pages = pages) edit :=
  only.keeps fun _ _ _ spares change same => (change.pages_eq spares).trans same

theorem Document.pages_steady (annot : AnnotId) (pages : Table PageId Page) :
    Steady annot fun d => d.Sound ∧ d.pages = pages where
  sound _ kept := kept.1
  edit effect d d' edits change kept := by
    refine ⟨kept.1.change change, ?_⟩
    rcases edits with rewrites | ⟨index, empties⟩
    · cases rewrites
      exact (change.pages_eq trivial).trans kept.2
    · cases empties
      exact (change.pages_eq trivial).trans kept.2
  same _ _ same sound kept := ⟨sound, same.pages.trans kept.2⟩
  embed d d' embeds sound kept := by
    refine ⟨sound, ?_⟩
    rcases embeds with same | ⟨object, middle, adds, embedded⟩
    · exact same.pages.trans kept.2
    · obtain ⟨-, -, a, known, rfl⟩ := embedObject_eq_some.mp embedded
      obtain ⟨o, same⟩ := adds.same
      have pages : middle.pages = d.pages := same.pages
      exact pages.trans kept.2

namespace Editor

variable {e : Editor} {d : Document} {p : Page} {index : Nat}

theorem objectAt_ends {ok : ObjectId → Editor × Document → Prop} {fail : Error → Editor × Document → Prop}
    (known : d.pages.get? e.page.page = some p)
    (inside : ∀ object, p.objects[index]? = some object → ok object (e, d))
    (outside : p.objects.length ≤ index → fail (.outOfRange index p.objects.length) (e, d)) :
    Ends (objectAt index) (e, d) ok fail := by
  apply ends_bind.mpr
  apply objectCount_ends known
  refine ends_guard.mpr ⟨outside, fun before => ?_⟩
  have found : p.objects[index]? = some p.objects[index] := List.getElem?_eq_getElem (Nat.lt_of_not_le before)
  apply ends_onLibrary.mpr
  apply ends_demand.mpr
  rw [Document.perform_unfailing rfl]
  simp only [Document.run, known, Option.bind_some, found]
  constructor
  · rintro object ⟨⟩
    exact inside _ found
  · intro absent
    cases absent

theorem checkAnnotIndex_ends {ok : Unit → Editor × Document → Prop} {fail : Error → Editor × Document → Prop}
    (known : d.pages.get? e.page.page = some p) (inside : index < p.annots.length → ok () (e, d))
    (outside : p.annots.length ≤ index → fail (.outOfRange index p.annots.length) (e, d)) :
    Ends (checkAnnotIndex index) (e, d) ok fail := by
  apply ends_bind.mpr
  apply annotCount_ends known
  split
  case isTrue after => exact ends_throw.mpr (outside after)
  case isFalse before => exact ends_pure.mpr (inside (Nat.lt_of_not_le before))

theorem updateObject_ends (o : PageObject) (known : d.pages.get? e.page.page = some p) :
    Ends (updateObject index o) (e, d)
      (fun _ s' => index < p.objects.length ∧ s'.1 = { e with cache := e.cache.map (·.set index (some o)) } ∧
        e.Leaves p d s'.2)
      fun error s' => s'.1 = e ∧ s'.2.pages = d.pages ∧
        (p.objects.length ≤ index → error = .outOfRange index p.objects.length ∧ s'.2 = d) := by
  apply ends_bind.mpr
  refine objectAt_ends known (fun object found => ?_) fun _ => ⟨rfl, rfl, fun _ => ⟨rfl, rfl⟩⟩
  have inside : index < p.objects.length := (List.getElem?_eq_some_iff.mp found).1
  have updated : Keeps (fun d' => d'.pages = d.pages) (o.update object e.page : Edit Document Unit) := by
    apply Only.keeps_pages
    exact (o.update_only object e.page).mono fun _ rewrites => sparesPages_of_looks ⟨object, rewrites⟩
  apply ends_bind.mpr
  apply ends_onLibrary.mpr
  refine (updated d rfl).mono (fun _ d' pages => ?_) fun _ d' pages => ?_
  · have known' : d'.pages.get? e.page.page = some p := by
      have pages : d'.pages = d.pages := pages
      rw [pages]
      exact known
    apply ends_bind.mpr
    apply ends_cached.mpr
    apply ends_bind.mpr
    apply ends_setCache.mpr
    refine finish_ends known' ⟨inside, rfl, ?_⟩
    exact congrArg (·.insert e.page.page (p.finished e.config)) pages
  · exact ⟨rfl, pages, fun outside => by omega⟩

theorem removeObject_ends (sound : d.Sound) (known : d.pages.get? e.page.page = some p) :
    Ends (removeObject index) (e, d)
      (fun _ s' => s'.1 = { e with cache := none } ∧ ∃ object, p.objects[index]? = some object ∧
        s'.2.isLive object = false ∧ e.Leaves { p with objects := p.objects.eraseIdx index } d s'.2)
      fun error s' => p.objects.length ≤ index ∧ error = .outOfRange index p.objects.length ∧ s' = (e, d) := by
  apply ends_bind.mpr
  refine objectAt_ends known (fun object found => ?_) fun outside => ⟨outside, rfl, rfl⟩
  obtain ⟨inside, rfl⟩ := List.getElem?_eq_some_iff.mp found
  let p' : Page := { p with objects := p.objects.eraseIdx index }
  -- The object is searched for, and found where it was asked for since no other entry is the same.
  have erased : p.objects.erase p.objects[index] = p'.objects :=
    (sound.page_nodup known).erase_getElem _ inside
  have detached : d.detachObject e.page.page p.objects[index] = some
    { d with pages := d.pages.insert e.page.page p' } := by
    refine Document.detachObject_eq_some.mpr ⟨p, known, List.getElem_mem inside, ?_⟩
    rw [erased]
  have performed : Library.perform (.detachObject e.page.page p.objects[index]) d =
      (true, { d with pages := d.pages.insert e.page.page p' }) := by
    rw [Document.perform_unfailing rfl]
    exact Document.tell_eq_true.mpr detached
  apply ends_bind.mpr
  apply ends_onLibrary.mpr
  apply ends_bind.mpr
  apply ends_insist.mpr
  rw [performed]
  refine ⟨fun _ => ends_ask.mpr ?_, fun refused => by cases refused⟩
  rw [Document.perform_unfailing rfl]
  simp only [Document.run, Document.destroyObject_eq (sound.not_mem_of_detachObject detached)]
  apply ends_bind.mpr
  apply ends_setCache.mpr
  refine finish_ends (Table.get?_insert_self ..) ⟨rfl, _, found, ?_, ?_⟩
  · refine Document.isLive_of_erased ?_ rfl
    exact fun mem => (Table.mem_keys_erase.mp mem).2 rfl
  · exact Table.insert_insert ..

theorem updateAnnot_ends (a : Annot) (sound : d.Sound) (known : d.pages.get? e.page.page = some p) :
    Ends (updateAnnot index a) (e, d)
      (fun _ s' => index < p.annots.length ∧ s'.1 = e ∧ e.Leaves p d s'.2)
      fun error s' => s'.1 = e ∧ s'.2.pages = d.pages ∧
        (p.annots.length ≤ index → error = .outOfRange index p.annots.length ∧ s'.2 = d) := by
  apply ends_bind.mpr
  refine checkAnnotIndex_ends known (fun inside => ?_) fun _ => ⟨rfl, rfl, fun _ => ⟨rfl, rfl⟩⟩
  have found : p.annots[index]? = some p.annots[index] := List.getElem?_eq_getElem inside
  have updated := a.update_keeps (σ := Document)
    (Document.pages_steady p.annots[index] d.pages) e.page e.config
  have performed : Library.perform (.annotAt e.page.page index) d = (some p.annots[index], d) := by
    rw [Document.perform_unfailing rfl]
    simp only [Document.run, known, Option.bind_some, found]
  apply ends_bind.mpr
  apply ends_onLibrary.mpr
  apply ends_bind.mpr
  apply ends_demand.mpr
  rw [performed]
  refine ⟨fun annot same => ?_, fun absent => by cases absent⟩
  cases same
  refine (updated d ⟨sound, rfl⟩).mono (fun _ d' kept => ?_) fun _ d' kept => ?_
  · have pages : d'.pages = d.pages := kept.2
    have known' : d'.pages.get? e.page.page = some p := by rw [pages, known]
    refine finish_ends known' ⟨inside, rfl, ?_⟩
    exact congrArg (·.insert e.page.page (p.finished e.config)) pages
  · exact ⟨rfl, kept.2, fun outside => by omega⟩

theorem removeAnnot_ends (sound : d.Sound) (known : d.pages.get? e.page.page = some p) :
    Ends (removeAnnot index) (e, d)
      (fun _ s' => s'.1 = e ∧ ∃ annot a, p.annots[index]? = some annot ∧ d.annots.get? annot = some a ∧
        annot ∉ s'.2.annots.keys ∧ (∀ object ∈ a.objects, s'.2.isLive object = false) ∧
        e.Leaves { p with annots := p.annots.eraseIdx index } d s'.2)
      fun error s' => p.annots.length ≤ index ∧ error = .outOfRange index p.annots.length ∧ s' = (e, d) := by
  apply ends_bind.mpr
  refine checkAnnotIndex_ends known (fun inside => ?_) fun outside => ⟨outside, rfl, rfl⟩
  have found : p.annots[index]? = some p.annots[index] := List.getElem?_eq_getElem inside
  obtain ⟨a, held⟩ := sound.get?_annot known (List.getElem_mem inside)
  let p' : Page := { p with annots := p.annots.eraseIdx index }
  let d' : Document := { d with
    pages := d.pages.insert e.page.page p'
    annots := d.annots.erase p.annots[index]
    objects := a.objects.foldl Table.erase d.objects }
  have removed : d.removeAnnot e.page.page index = some d' := by
    refine Document.removeAnnot_eq_some.mpr ⟨p, _, known, found, ?_⟩
    simp only [Document.releaseAnnot, held]
    rfl
  have performed : Library.perform (.removeAnnot e.page.page index) d = (true, d') := by
    rw [Document.perform_unfailing rfl]
    exact Document.tell_eq_true.mpr removed
  apply ends_bind.mpr
  apply ends_onLibrary.mpr
  apply ends_insist.mpr
  rw [performed]
  refine ⟨fun _ => ?_, fun refused => by cases refused⟩
  refine finish_ends (Table.get?_insert_self ..) ⟨rfl, _, a, found, held, ?_, fun object mem => ?_, ?_⟩
  · exact fun mem => (Table.mem_keys_erase.mp mem).2 rfl
  · refine Document.isLive_of_erased ?_ rfl
    exact fun live => (Table.mem_keys_foldl_erase.mp live).2 mem
  · exact Table.insert_insert ..

/-- What the edits of a page do to its list of objects, to its list of annotations and to the number of times
that its content was generated. The page is `p` before the edit. -/
structure EditsLists (e : Editor) (d : Document) (p : Page) : Prop where
  addObject : ∀ o, Ends (addObject o) (e, d)
    (fun n s' => n = p.objects.length ∧ ∃ object, d.issued < object.raw ∧ s'.2.isLive object = true ∧
      e.Leaves { p with objects := p.objects ++ [object] } d s'.2)
    fun _ s' => s'.2.pages = d.pages
  updateObject : ∀ index o, Ends (updateObject index o) (e, d)
    (fun _ s' => index < p.objects.length ∧ e.Leaves p d s'.2)
    fun _ s' => s'.2.pages = d.pages
  removeObject : ∀ index, Ends (removeObject index) (e, d)
    (fun _ s' => ∃ object, p.objects[index]? = some object ∧ s'.2.isLive object = false ∧
      e.Leaves { p with objects := p.objects.eraseIdx index } d s'.2)
    fun _ s' => s'.2.pages = d.pages
  objects_outOfRange : ∀ index, p.objects.length ≤ index →
    (∀ o, Editor.updateObject index o (e, d) = (.error (.outOfRange index p.objects.length), e, d)) ∧
      Editor.removeObject index (e, d) = (.error (.outOfRange index p.objects.length), e, d)
  addAnnot : ∀ a, Ends (addAnnot a) (e, d)
    (fun n s' => n = p.annots.length ∧ ∃ annot, d.issued < annot.raw ∧ annot ∈ s'.2.annots.keys ∧
      e.Leaves { p with annots := p.annots ++ [annot] } d s'.2)
    fun _ s' => s'.2.pages = d.pages
  updateAnnot : ∀ index a, Ends (updateAnnot index a) (e, d)
    (fun _ s' => index < p.annots.length ∧ e.Leaves p d s'.2)
    fun _ s' => s'.2.pages = d.pages
  removeAnnot : ∀ index, Ends (removeAnnot index) (e, d)
    (fun _ s' => ∃ annot a, p.annots[index]? = some annot ∧ d.annots.get? annot = some a ∧
      annot ∉ s'.2.annots.keys ∧ (∀ object ∈ a.objects, s'.2.isLive object = false) ∧
      e.Leaves { p with annots := p.annots.eraseIdx index } d s'.2)
    fun _ s' => s'.2.pages = d.pages
  annots_outOfRange : ∀ index, p.annots.length ≤ index →
    (∀ a, Editor.updateAnnot index a (e, d) = (.error (.outOfRange index p.annots.length), e, d)) ∧
      Editor.removeAnnot index (e, d) = (.error (.outOfRange index p.annots.length), e, d)

theorem editsLists (sound : d.Sound) (known : d.pages.get? e.page.page = some p) : EditsLists e d p where
  addObject o := by
    refine (addObject_ends o sound).mono (fun n s' => ?_) fun _ s' failed => failed.2.pages
    rintro ⟨p', known', count, -, added⟩
    cases known.symm.trans known'
    exact ⟨count, added⟩
  updateObject index o :=
    (updateObject_ends o known).mono (fun _ s' done => ⟨done.1, done.2.2⟩) fun _ s' failed => failed.2.1
  removeObject index := by
    refine (removeObject_ends sound known).mono (fun _ s' done => done.2) fun _ s' => ?_
    rintro ⟨-, -, rfl⟩
    rfl
  objects_outOfRange index outside := by
    constructor
    · intro o
      refine ((updateObject_ends o known).mono (fun _ s' done => ?_) fun _ s' failed => ?_).eq_error
      · exact absurd done.1 (Nat.not_lt.mpr outside)
      · obtain ⟨error, same⟩ := failed.2.2 outside
        exact ⟨error, Prod.ext failed.1 same⟩
    · refine ((removeObject_ends sound known).mono (fun _ s' => ?_) fun _ s' failed => failed.2).eq_error
      rintro ⟨-, object, found, -⟩
      exact absurd (List.getElem?_eq_some_iff.mp found).1 (Nat.not_lt.mpr outside)
  addAnnot a := by
    refine (addAnnot_ends a sound).mono (fun n s' => ?_) fun _ s' failed => failed.2.pages
    rintro ⟨p', known', count, -, added⟩
    cases known.symm.trans known'
    exact ⟨count, added⟩
  updateAnnot index a :=
    (updateAnnot_ends a sound known).mono (fun _ s' done => ⟨done.1, done.2.2⟩) fun _ s' failed => failed.2.1
  removeAnnot index := by
    refine (removeAnnot_ends sound known).mono (fun _ s' done => done.2) fun _ s' => ?_
    rintro ⟨-, -, rfl⟩
    rfl
  annots_outOfRange index outside := by
    constructor
    · intro a
      refine ((updateAnnot_ends a sound known).mono (fun _ s' done => ?_) fun _ s' failed => ?_).eq_error
      · exact absurd done.1 (Nat.not_lt.mpr outside)
      · obtain ⟨error, same⟩ := failed.2.2 outside
        exact ⟨error, Prod.ext failed.1 same⟩
    · refine ((removeAnnot_ends sound known).mono (fun _ s' => ?_) fun _ s' failed => failed.2).eq_error
      rintro ⟨-, annot, a, found, -⟩
      exact absurd (List.getElem?_eq_some_iff.mp found).1 (Nat.not_lt.mpr outside)

def Fits (e : Editor) (d : Document) : Prop :=
  ∃ p, d.pages.get? e.page.page = some p ∧ ∀ objects, e.cache = some objects →
    objects.length = p.objects.length

variable {d' : Document} {p' : Page}

theorem Fits.of_pages (fits : Fits e d) (pages : d'.pages = d.pages) : Fits e d' := by
  rw [Fits, pages]
  exact fits

theorem fits_leaves (leaves : e.Leaves p' d d') (cache : Option (List (Option PageObject)))
    (length : ∀ objects, cache = some objects → objects.length = p'.objects.length) :
    Fits { e with cache } d' := by
  refine ⟨p'.finished e.config, ?_, length⟩
  have pages : d'.pages = d.pages.insert e.page.page (p'.finished e.config) := leaves
  rw [pages, Table.get?_insert_self]

theorem objects_ends {refetch : Bool} (known : d.pages.get? e.page.page = some p) (fits : Fits e d) :
    Ends (objects refetch) (e, d) (fun _ s' => s'.1.page = e.page ∧ Fits s'.1 s'.2)
      fun _ s' => s'.1.page = e.page ∧ Fits s'.1 s'.2 := by
  apply ends_bind.mpr
  apply ends_cached.mpr
  split
  case h_1 => exact ends_pure.mpr ⟨rfl, fits⟩
  case h_2 =>
    have slots : ∀ index, Keeps (fun d' => d'.pages = d.pages) (readSlot e.page index : Edit Document _) :=
      fun index => ((readSlot_only e.page index).mono fun _ => sparesPages_of_looks).keeps_pages d.pages
    have read := ends_mapM (fun d' : Document => d'.pages = d.pages) (l := List.range p.objects.length) rfl
      fun index _ d' pages => slots index d' pages
    apply ends_bind.mpr
    apply ends_bind.mpr
    apply objectCount_ends known
    apply ends_onLibrary.mpr
    refine read.mono (fun objects d' => ?_) fun _ d' pages => ⟨rfl, fits.of_pages pages⟩
    rintro ⟨length, pages⟩
    apply ends_bind.mpr
    apply ends_setCache.mpr
    refine ends_pure.mpr ⟨rfl, p, ?_, ?_⟩
    · rw [pages, known]
    · intro objects' same
      cases same
      rw [length, List.length_range]

theorem Action.run_fits (action : Action) (sound : d.Sound) (fits : Fits e d) :
    Ends action.run (e, d) (fun _ s' => s'.1.page = e.page ∧ Fits s'.1 s'.2)
      fun _ s' => s'.1.page = e.page ∧ Fits s'.1 s'.2 := by
  obtain ⟨p, known, length⟩ := id fits
  have kept : ∀ s' : Editor × Document, s'.1 = e → s'.2.pages = d.pages → s'.1.page = e.page ∧
    Fits s'.1 s'.2 := by
    rintro ⟨e', d'⟩ rfl pages
    exact ⟨rfl, fits.of_pages pages⟩
  have left : ∀ (s' : Editor × Document) (p' : Page), s'.1 = e → e.Leaves p' d s'.2 →
    p'.objects.length = p.objects.length →
      s'.1.page = e.page ∧ Fits s'.1 s'.2 := by
    rintro ⟨e', d'⟩ p' rfl leaves same
    refine ⟨rfl, fits_leaves leaves _ fun objects cached => ?_⟩
    rw [length objects cached, same]
  cases action with
  | height =>
      have read := (Only.keeps_pages (readPageHeight_only (σ := Document) e.page.page) d.pages) d rfl
      exact ends_map.mpr (ends_onLibrary.mpr
        (read.mono (fun _ d' => kept (e, d') rfl) fun _ d' => kept (e, d') rfl))
  | objects refetch => exact ends_map.mpr (objects_ends known fits)
  | object index =>
      apply ends_map.mpr
      apply ends_bind.mpr
      refine (objects_ends known fits).mono (fun _ s' done => ?_) fun _ _ => id
      exact ends_pure.mpr done
  | addObject o =>
      refine ends_map.mpr ((addObject_ends o sound).mono (fun n s' => ?_)
        fun _ s' failed => kept s' failed.1 failed.2.pages)
      rintro ⟨p', known', count, same, object, -, -, leaves⟩
      obtain ⟨e', d'⟩ := s'
      cases same
      exact ⟨rfl, fits_leaves leaves none nofun⟩
  | updateObject index o =>
      refine (updateObject_ends o known).mono (fun _ s' => ?_) fun _ s' failed => kept s' failed.1 failed.2.1
      rintro ⟨-, same, leaves⟩
      obtain ⟨e', d'⟩ := s'
      cases same
      refine ⟨rfl, fits_leaves leaves _ fun objects cached => ?_⟩
      obtain ⟨objects', cached', rfl⟩ := Option.map_eq_some_iff.mp cached
      rw [List.length_set, length objects' cached']
  | removeObject index =>
      refine (removeObject_ends sound known).mono (fun _ s' => ?_) fun _ s' => ?_
      · rintro ⟨same, object, -, -, leaves⟩
        obtain ⟨e', d'⟩ := s'
        cases same
        exact ⟨rfl, fits_leaves leaves none nofun⟩
      · rintro ⟨-, -, rfl⟩
        exact ⟨rfl, fits⟩
  | annots =>
      have slots : ∀ index, Only Effect.SparesPages (readAnnotSlot e.page index : Edit Document _) :=
        fun index => (readAnnotSlot_only e.page index).mono fun _ => sparesPages_of_looks
      have read := (Only.keeps_pages (only_mapM (List.range p.annots.length) slots) d.pages) d rfl
      apply ends_map.mpr
      apply ends_bind.mpr
      apply annotCount_ends known
      apply ends_onLibrary.mpr
      exact read.mono (fun _ d' => kept (e, d') rfl) fun _ d' => kept (e, d') rfl
  | addAnnot a =>
      refine ends_map.mpr ((addAnnot_ends a sound).mono (fun n s' => ?_)
        fun _ s' failed => kept s' failed.1 failed.2.pages)
      rintro ⟨p', known', count, same, annot, -, -, leaves⟩
      cases known.symm.trans known'
      exact left s' _ same leaves rfl
  | updateAnnot index a =>
      refine (updateAnnot_ends a sound known).mono (fun _ s' => ?_)
        fun _ s' failed => kept s' failed.1 failed.2.1
      rintro ⟨-, same, leaves⟩
      exact left s' p same leaves rfl
  | removeAnnot index =>
      refine (removeAnnot_ends sound known).mono (fun _ s' => ?_) fun _ s' => ?_
      · rintro ⟨same, annot, a, -, -, -, -, leaves⟩
        exact left s' _ same leaves rfl
      · rintro ⟨-, -, rfl⟩
        exact ⟨rfl, fits⟩

/-- An editor at work on a page to which nothing else adds objects, and off which nothing else takes any. -/
inductive Session (page : PageRef) (config : EditConfig) : Editor → Document → Prop
  | start {d : Document} {p : Page} (reachable : d.Reachable) (known : d.pages.get? page.page = some p) :
      Session page config (openOn page config) d
  | act {e : Editor} {d : Document} (session : Session page config e d) (action : Action) :
      Session page config (action.run (e, d)).2.1 (action.run (e, d)).2.2
  | elsewhere {e : Editor} {d d' : Document} {ids : List Nat} (session : Session page config e d) (step : d.Step ids d')
      (same : (d'.pages.get? page.page).map (·.objects) = (d.pages.get? page.page).map (·.objects)) :
      Session page config e d'

theorem Session.fits {page : PageRef} {config : EditConfig} (session : Session page config e d) :
    d.Sound ∧ e.page = page ∧ Fits e d := by
  induction session with
  | start reachable known => exact ⟨reachable.sound, rfl, _, known, nofun⟩
  | @act e d session action ih =>
      obtain ⟨sound, rfl, fits⟩ := ih
      obtain ⟨same, fits'⟩ := (action.run_fits sound fits).after
      have loose : Loose d.detached (action.run (e, d)).2.2 := (action.run_keeps (e, d) ⟨sound, rfl⟩).after
      exact ⟨loose.1, same, fits'⟩
  | elsewhere session step same ih =>
      obtain ⟨sound, rfl, p, known, length⟩ := ih
      obtain ⟨effect, change⟩ := step.change
      rw [known] at same
      obtain ⟨p', known', objects⟩ := Option.map_eq_some_iff.mp same
      refine ⟨sound.change change, rfl, p', known', fun cached found => ?_⟩
      rw [objects]
      exact length cached found

/-- Every edit of a page acts on the lists of the page as an edit of a list does, and what an editor remembers
of its page has the length of the page's list, as long as nothing else changes that list. -/
theorem edits_act_on_lists :
    (∀ e d p, Document.Reachable d → d.pages.get? e.page.page = some p → EditsLists e d p) ∧
      ∀ page config e d, Session page config e d →
        ∀ objects, e.cache = some objects → ∃ p, d.pages.get? page.page = some p ∧
          objects.length = p.objects.length := by
  refine ⟨fun e d p reachable known => editsLists reachable.sound known,
    fun page config e d session objects cached => ?_⟩
  obtain ⟨-, rfl, p, known, length⟩ := session.fits
  exact ⟨p, known, length objects cached⟩

theorem edits_act_on_one_path :
    ∃ (e : Editor) (d : Document) (p : Page), d.Reachable ∧ d.pages.get? e.page.page = some p ∧
      p.objects = [⟨3⟩] ∧
      EditsLists e d p ∧ ∀ objects, ((Action.objects true).run (e, d)).2.1.cache = some objects →
        ∃ p', ((Action.objects true).run (e, d)).2.2.pages.get? e.page.page = some p' ∧
          objects.length = p'.objects.length := by
  have page := ((Document.reachable_empty false).step .createDocument).step (.addPage 792)
  have path := page.step (.call (.createPath 0 0))
  have reachable := path.step (.call (.insertObject ⟨2⟩ ⟨3⟩))
  let e : Editor := openOn ⟨⟨1⟩, ⟨2⟩⟩ {}
  let p : Page := ⟨792, [⟨3⟩], [], 0⟩
  have session : Session e.page {} _ _ := (Session.start (p := p) reachable rfl).act (.objects true)
  exact ⟨e, _, p, reachable, rfl, rfl, edits_act_on_lists.1 e _ p reachable rfl,
    edits_act_on_lists.2 _ _ _ _ session⟩

end Editor

end PageContent
