import Mathlib.Data.Set.Insert
import PageContent.Proofs.Reading

namespace PageContent

namespace Document

def embedded (d : Document) (annot : AnnotId) : Set ObjectId :=
  { object | ∃ a, d.annots.get? annot = some a ∧ object ∈ a.objects }

def annotsOn (d : Document) (page : PageId) : Set AnnotId :=
  { annot | ∃ p, d.pages.get? page = some p ∧ annot ∈ p.annots }

/-- The object is detached, or what holds it is not on this page. -/
inductive Elsewhere (d : Document) (page : PageId) (object : ObjectId) : Prop
  | detached (free : object ∉ d.held)
  | listed (other) (p) (differ : other ≠ page) (known : d.pages.get? other = some p) (mem : object ∈ p.objects)
  | embedded (annot) (off : annot ∉ d.annotsOn page) (mem : object ∈ d.embedded annot)

/-- Of all that there was, only the page, these annotations and these objects may have changed. -/
structure Confined (page : PageId) (annots : Set AnnotId) (objects : Set ObjectId) (d d' : Document) : Prop where
  pages : ∀ other ≠ page, d'.pages.get? other = d.pages.get? other
  annots : ∀ annot ∈ d.annots.keys, annot ∉ annots → d'.annots.get? annot = d.annots.get? annot
  objects : ∀ object ∈ d.objects.keys, object ∉ objects → d'.objects.get? object = d.objects.get? object

variable {d d' d'' : Document} {page : PageId} {annots : Set AnnotId} {objects : Set ObjectId} {annot : AnnotId}
  {object : ObjectId} {p : Page}

theorem mem_held_of_page (known : d.pages.get? page = some p) (mem : object ∈ p.objects) : object ∈ d.held :=
  List.mem_append_left _ (List.mem_flatMap.mpr ⟨p, Table.mem_values_iff.mpr ⟨page, known⟩, mem⟩)

theorem mem_held_of_embedded (mem : object ∈ d.embedded annot) : object ∈ d.held := by
  obtain ⟨a, known, mem⟩ := mem
  exact List.mem_append_right _ (List.mem_flatMap.mpr ⟨a, Table.mem_values_iff.mpr ⟨annot, known⟩, mem⟩)

theorem Owned.free_without_page (owned : d.Owned) (known : d.pages.get? page = some p) (mem : object ∈ p.objects) :
    object ∉ held { d with pages := d.pages.insert page { p with objects := [] } } := by
  obtain ⟨rest, before, after⟩ := held_setPage known
  have nodup := List.nodup_append.mp (before.nodup_iff.mp owned.held_nodup)
  intro held
  exact nodup.2.2 object mem object ((after _).mem_iff.mp held) rfl

theorem Owned.free_without_annot (owned : d.Owned) (mem : object ∈ d.embedded annot) :
    object ∉ held { d with annots := d.annots.erase annot } := by
  obtain ⟨a, known, mem⟩ := mem
  obtain ⟨rest, before, -, erased⟩ := held_setAnnot known
  have nodup := List.nodup_append.mp (before.nodup_iff.mp owned.held_nodup)
  intro held
  exact nodup.2.2 object mem object (erased.mem_iff.mp held) rfl

theorem Elsewhere.not_mem_page (elsewhere : d.Elsewhere page object) (owned : d.Owned)
    (known : d.pages.get? page = some p) : object ∉ p.objects := by
  intro mem
  have free := owned.free_without_page known mem
  cases elsewhere with
  | detached absent => exact absent (mem_held_of_page known mem)
  | listed other p' differ known' mem' =>
      have kept : (d.pages.insert page { p with objects := [] }).get? other = some p' := by
        rw [Table.get?_insert_of_ne _ differ, known']
      exact free (mem_held_of_page kept mem')
  | embedded annot off mem' =>
      obtain ⟨a, known', mem'⟩ := mem'
      exact free (mem_held_of_embedded ⟨a, known', mem'⟩)

theorem Elsewhere.not_mem_embedded (elsewhere : d.Elsewhere page object) (owned : d.Owned)
    (on : annot ∈ d.annotsOn page) : object ∉ d.embedded annot := by
  intro mem
  have free := owned.free_without_annot mem
  cases elsewhere with
  | detached absent => exact absent (mem_held_of_embedded mem)
  | listed other p differ known mem' => exact free (mem_held_of_page known mem')
  | embedded annot' off mem' =>
      obtain ⟨a, known, mem'⟩ := mem'
      have differ : annot' ≠ annot := by
        rintro rfl
        exact off on
      have kept : (d.annots.erase annot).get? annot' = some a := by
        rw [Table.get?_erase, if_neg differ, known]
      exact free (mem_held_of_embedded ⟨a, kept, mem'⟩)

theorem Confined.refl (d : Document) : Confined page annots objects d d :=
  ⟨fun _ _ => rfl, fun _ _ _ => rfl, fun _ _ _ => rfl⟩

theorem Confined.mono {annots' : Set AnnotId} {objects' : Set ObjectId} (confined : Confined page annots objects d d')
    (moreAnnots : annots ⊆ annots') (moreObjects : objects ⊆ objects') : Confined page annots' objects' d d' where
  pages := confined.pages
  annots annot mem kept := confined.annots annot mem fun named => kept (moreAnnots named)
  objects object mem kept := confined.objects object mem fun named => kept (moreObjects named)

theorem Confined.then_page (confined : Confined page annots objects d d') (p : Page) :
    Confined page annots objects d { d' with pages := d'.pages.insert page p } where
  pages other differ := (Table.get?_insert_of_ne p differ).trans (confined.pages other differ)
  annots := confined.annots
  objects := confined.objects

theorem Confined.then_annot (confined : Confined page annots objects d d')
    (named : annot ∈ d.annots.keys → annot ∈ annots) (a : StoredAnnot) :
    Confined page annots objects d { d' with annots := d'.annots.insert annot a } where
  pages := confined.pages
  annots other mem kept := by
    refine (Table.get?_insert_of_ne a ?_).trans (confined.annots other mem kept)
    rintro rfl
    exact kept (named mem)
  objects := confined.objects

theorem Confined.then_objects (confined : Confined page annots objects d d') {table : Table ObjectId StoredObject}
    (same : ∀ object ∈ d.objects.keys, object ∉ objects → table.get? object = d'.objects.get? object) :
    Confined page annots objects d { d' with objects := table } where
  pages := confined.pages
  annots := confined.annots
  objects object mem kept := (same object mem kept).trans (confined.objects object mem kept)

theorem Confined.then_same (confined : Confined page annots objects d d') (same : Same d' d'') :
    Confined page annots objects d d'' where
  pages other differ := (congrArg (·.get? other) same.pages).trans (confined.pages other differ)
  annots other mem kept := (congrArg (·.get? other) same.annots).trans (confined.annots other mem kept)
  objects other mem kept := (congrArg (·.get? other) same.objects).trans (confined.objects other mem kept)

theorem Confined.then_adds (confined : Confined page annots objects d d') (new : object ∉ d.objects.keys)
    (adds : Adds object d' d'') : Confined page annots objects d d'' := by
  obtain ⟨o, same⟩ := adds.same
  have added : Confined page annots objects d { d' with objects := d'.objects.insert object o } := by
    refine confined.then_objects fun other mem _ => Table.get?_insert_of_ne o ?_
    rintro rfl
    exact new mem
  exact added.then_same same

end Document

def Effect.Within (page : PageId) (objects : Set ObjectId) : Effect → Prop
  | .nothing => True
  | .object changed | .destroy changed => changed ∈ objects
  | .content other | .detach other _ => other = page
  | _ => False

namespace Document

variable {d d' d'' : Document} {page : PageId} {annots : Set AnnotId} {objects : Set ObjectId} {annot : AnnotId}
  {object : ObjectId}

theorem Confined.change {effect : Effect} (confined : Confined page annots objects d d')
    (change : d'.Change effect d'') (within : effect.Within page objects) : Confined page annots objects d d'' := by
  cases change with
  | nothing => exact confined
  | object object o o' =>
      refine confined.then_objects fun other mem kept => Table.get?_insert_of_ne o' ?_
      rintro rfl
      exact kept within
  | destroy object =>
      refine confined.then_objects fun other mem kept => ?_
      rw [Table.get?_erase, if_neg]
      rintro rfl
      exact kept within
  | content | detach =>
      cases within
      exact confined.then_page _
  | annot | newObject | newFont | newAnnot | insert | removeAnnot | embed | removeEmbedded | newDocument | newPage
  | settings => exact within.elim

theorem confined_removeAnnot {index : Nat} (change : d.Change (.removeAnnot page index) d') :
    let gone := { annot | ∃ p, d.pages.get? page = some p ∧ p.annots[index]? = some annot }
    Confined page gone { object | ∃ annot ∈ gone, object ∈ d.embedded annot } d d' := by
  intro gone
  cases change with
  | nothing => exact .refl d
  | removeAnnot _ _ p annot known listed =>
      have named : annot ∈ gone := ⟨p, known, listed⟩
      refine ⟨fun other differ => ?_, fun other _ kept => ?_, fun object _ kept => ?_⟩
      · rw [pages_releaseAnnot]
        exact Table.get?_insert_of_ne _ differ
      · rw [annots_releaseAnnot, Table.get?_erase, if_neg]
        rintro rfl
        exact kept named
      · rw [releaseAnnot]
        split
        case h_1 => rfl
        case h_2 a found =>
          have stays : object ∉ a.objects := fun mem => kept ⟨annot, named, a, found, mem⟩
          rw [Table.get?_foldl_erase, if_neg stays]

theorem Draft.confined (draft : Draft page annot d d') (sound : d.Sound) :
    Confined page annots objects d d' := by
  obtain ⟨later, p, a, known, same⟩ := draft
  have new : annot ∉ d.annots.keys := by
    intro mem
    have old := sound.annots_le annot mem
    omega
  have made : Confined page annots objects d { d' with objects := a.objects.foldl Table.erase d'.objects } :=
    (((Confined.refl d).then_page _).then_annot (fun mem => absurd mem new) a).then_same same
  refine ⟨made.pages, made.annots, fun object mem kept => ?_⟩
  -- What is left of the objects without those of the new annotation is all that there was before.
  obtain ⟨o, found⟩ := Table.mem_keys_iff.mp mem
  have left : (a.objects.foldl Table.erase d'.objects).get? object = some o :=
    (congrArg (·.get? object) same.objects).trans found
  exact (Table.get?_of_get?_foldl_erase left).trans found.symm

/-- As far as an update of the annotation has come, only the annotation and the objects in it may have changed, and
of what there was, it holds no object that it did not hold. -/
structure Refilled (d : Document) (page : PageId) (annot : AnnotId) (d' : Document) : Prop where
  sound : d'.Sound
  issued : d.issued ≤ d'.issued
  confined : Confined page {annot} (d.embedded annot) d d'
  held : ∀ object ∈ d'.embedded annot, object ∈ d.objects.keys → object ∈ d.embedded annot

theorem Refilled.start (sound : d.Sound) : d.Refilled page annot d :=
  ⟨sound, Nat.le_refl _, .refl d, fun _ mem _ => mem⟩

theorem Refilled.embed (refilled : d.Refilled page annot d') (sound : d.Sound) (sound' : d''.Sound)
    (embeds : Embeds annot d' d'') : d.Refilled page annot d'' := by
  rcases embeds with same | ⟨object, middle, adds, embedded⟩
  · refine ⟨sound', refilled.issued.trans same.issued, refilled.confined.then_same same, fun object mem => ?_⟩
    rw [Document.embedded, same.annots] at mem
    exact refilled.held object mem
  · obtain ⟨o, same⟩ := adds.same
    obtain ⟨-, -, a, known, rfl⟩ := embedObject_eq_some.mp embedded
    have known' : d'.annots.get? annot = some a := same.annots ▸ known
    have new : object ∉ d.objects.keys := sound.not_mem_of_later (refilled.issued.trans_lt adds.later)
    refine ⟨sound', refilled.issued.trans same.issued, ?_, ?_⟩
    · exact (refilled.confined.then_adds new adds).then_annot (fun _ => rfl) _
    · rintro other ⟨a', found, mem⟩ old
      cases (Table.get?_insert_self ..).symm.trans found
      rcases List.mem_append.mp mem with mem | mem
      · exact refilled.held other ⟨a, known', mem⟩ old
      · cases List.mem_singleton.mp mem
        exact absurd old new

theorem refilled_steady (page : PageId) (annot : AnnotId) (sound : d.Sound) :
    Steady annot (d.Refilled page annot) where
  sound _ refilled := refilled.sound
  edit effect d' d'' edits change refilled := by
    have sound' := refilled.sound.change change
    have issued := refilled.issued.trans change.issued_le
    rcases edits with rewrites | ⟨index, empties⟩
    · cases rewrites
      cases change with
      | nothing => exact refilled
      | annot _ a a' known kind same =>
          refine ⟨sound', issued, refilled.confined.then_annot (fun _ => rfl) a', ?_⟩
          rintro object ⟨b, found, mem⟩
          cases (Table.get?_insert_self ..).symm.trans found
          rw [same] at mem
          exact refilled.held object ⟨a, known, mem⟩
    · cases empties
      cases change with
      | nothing => exact refilled
      | removeEmbedded _ _ a object known found =>
          have mem : object ∈ d'.embedded annot := ⟨a, known, List.mem_of_getElem? found⟩
          refine ⟨sound', issued, ?_, ?_⟩
          · refine (refilled.confined.then_annot (fun _ => rfl) _).then_objects fun other old kept => ?_
            rw [Table.get?_erase, if_neg]
            rintro rfl
            exact kept (refilled.held other mem old)
          · rintro other ⟨b, found, left⟩
            cases (Table.get?_insert_self ..).symm.trans found
            exact refilled.held other ⟨a, known, List.mem_of_mem_eraseIdx left⟩
  same _ _ same sound' refilled := refilled.embed sound sound' (.inl same)
  embed _ _ embeds sound' refilled := refilled.embed sound sound' embeds

end Document

theorem Only.keeps_confined {α : Type} {edit : Edit Document α} {page : PageId} {annots : Set AnnotId}
    {objects : Set ObjectId} {d : Document} (only : Only (Effect.Within page objects) edit) :
    Keeps (d.Confined page annots objects) edit :=
  only.keeps fun _ _ _ within change confined => confined.change change within

namespace Editor

variable {e : Editor} {d d' : Document} {index : Nat} {annots : Set AnnotId} {objects : Set ObjectId}

def Action.namedAnnots (e : Editor) (d : Document) : Action → Set AnnotId
  | .updateAnnot index _ | .removeAnnot index =>
    { annot | ∃ p, d.pages.get? e.page.page = some p ∧ p.annots[index]? = some annot }
  | _ => ∅

def Action.namedObjects (e : Editor) (d : Document) : Action → Set ObjectId
  | .updateObject index _ | .removeObject index =>
    { object | ∃ p, d.pages.get? e.page.page = some p ∧ p.objects[index]? = some object }
  | action => { object | ∃ annot ∈ action.namedAnnots e d, object ∈ d.embedded annot }

/-- However the edit ends, of all that there was only these annotations and these objects may have changed, and the
page of the editor. -/
def Spares {α : Type} (edit : Editing Document α) (e : Editor) (annots : Set AnnotId) (objects : Set ObjectId)
    (d : Document) : Prop :=
  Ends edit (e, d) (fun _ s' => d.Confined e.page.page annots objects s'.2)
    fun _ s' => d.Confined e.page.page annots objects s'.2

theorem finish_spares (confined : d.Confined e.page.page annots objects d') :
    Ends finish (e, d') (fun _ s' => d.Confined e.page.page annots objects s'.2)
      fun _ s' => d.Confined e.page.page annots objects s'.2 := by
  apply ends_onLibrary.mpr
  split
  case isTrue =>
    have generated : Only (Effect.Within e.page.page objects)
        (insist .generateContent (.generateContent e.page.page) : Edit Document Unit) :=
      only_insist (.inr rfl)
    exact generated.keeps_confined d' confined
  case isFalse => exact ends_pure.mpr confined

theorem objectAt_finds : Ends (objectAt index) (e, d)
    (fun object s' => s' = (e, d) ∧ ∃ p, d.pages.get? e.page.page = some p ∧ p.objects[index]? = some object)
    fun _ s' => s' = (e, d) := by
  apply ends_bind.mpr
  apply ends_onLibrary.mpr
  refine (Document.ends_demand_reads rfl rfl).mpr ⟨fun length _ => ?_, fun _ => rfl⟩
  refine ends_guard.mpr ⟨fun _ => rfl, fun _ => ?_⟩
  apply ends_onLibrary.mpr
  refine (Document.ends_demand_reads rfl rfl).mpr ⟨fun object found => ⟨rfl, ?_⟩, fun _ => rfl⟩
  exact Option.bind_eq_some_iff.mp found

theorem checkAnnotIndex_still : Ends (checkAnnotIndex index) (e, d) (fun _ s' => s' = (e, d))
    fun _ s' => s' = (e, d) := by
  apply ends_bind.mpr
  apply ends_onLibrary.mpr
  refine (Document.ends_demand_reads rfl rfl).mpr ⟨fun length _ => ?_, fun _ => rfl⟩
  split
  case isTrue => exact ends_throw.mpr rfl
  case isFalse => exact ends_pure.mpr rfl

theorem addObject_spares (o : PageObject) (sound : d.Sound) : Spares (addObject o) e ∅ ∅ d := by
  have placed := ends_place (σ := Document) .insertObject (.insertObject e.page.page) o e.page sound
    (fun _ => rfl) nofun nofun
  have counted : Keeps (d.Confined e.page.page ∅ ∅) (do pure ((← objectCount) - 1) : Editing Document Nat) :=
    keeps_bind (keeps_onLibrary fun _ => (only_demand (.inl rfl)).keeps_still) fun _ => keeps_pure
  apply ends_bind.mpr
  apply ends_onLibrary.mpr
  refine placed.mono (fun _ d' => ?_) fun _ d' failed => (Document.Confined.refl d).then_same failed.2
  rintro ⟨-, object, middle, -, adds, inserted⟩
  obtain ⟨-, -, p, -, rfl⟩ := Document.insertObject_eq_some.mp (Document.tell_eq_true.mp inserted)
  have added : d.Confined e.page.page ∅ ∅ middle :=
    (Document.Confined.refl d).then_adds (sound.not_mem_of_later adds.later) adds
  apply ends_bind.mpr
  apply ends_setCache.mpr
  apply ends_bind.mpr
  have finished := finish_spares (e := { e with cache := none })
    (added.then_page { p with objects := p.objects ++ [object] })
  exact finished.mono (fun _ s' => counted s') fun _ _ => id

theorem updateObject_spares (o : PageObject) :
    Spares (updateObject index o) e ∅ ((Action.updateObject index o).namedObjects e d) d := by
  apply ends_bind.mpr
  refine objectAt_finds.mono ?_ ?_
  · rintro object - ⟨rfl, named⟩
    have updated : Only (Effect.Within e.page.page ((Action.updateObject index o).namedObjects e d))
        (o.update object e.page : Edit Document Unit) :=
      (o.update_only object e.page).mono fun _ rewrites => rewrites ▸ named
    apply ends_bind.mpr
    apply ends_onLibrary.mpr
    refine (updated.keeps_confined d (.refl d)).mono (fun _ d' confined => ?_) fun _ _ => id
    apply ends_bind.mpr
    apply ends_cached.mpr
    apply ends_bind.mpr
    apply ends_setCache.mpr
    exact finish_spares confined
  · rintro - - rfl
    exact .refl d

theorem removeObject_spares :
    Spares (removeObject index) e ∅ ((Action.removeObject index).namedObjects e d) d := by
  apply ends_bind.mpr
  refine objectAt_finds.mono ?_ ?_
  · rintro object - ⟨rfl, named⟩
    have removed : Only (Effect.Within e.page.page ((Action.removeObject index).namedObjects e d)) (do
        insist .removeObject (.detachObject e.page.page object)
        ask (.destroyObject object) : Edit Document Unit) :=
      only_bind (only_insist (.inr rfl)) fun _ => only_ask (.inr named)
    apply ends_bind.mpr
    apply ends_onLibrary.mpr
    refine (removed.keeps_confined d (.refl d)).mono (fun _ d' confined => ?_) fun _ _ => id
    apply ends_bind.mpr
    apply ends_setCache.mpr
    exact finish_spares confined
  · rintro - - rfl
    exact .refl d

theorem addAnnot_spares (a : Annot) (sound : d.Sound) : Spares (addAnnot a) e ∅ ∅ d := by
  apply ends_bind.mpr
  apply ends_onLibrary.mpr
  refine (a.create_ends e.page e.config sound).mono ?_ fun _ _ same => (Document.Confined.refl d).then_same same
  rintro annot d' ⟨-, draft⟩
  obtain ⟨p, -, found⟩ := draft.annotIndex sound
  apply ends_bind.mpr
  apply ends_onLibrary.mpr
  apply ends_ask.mpr
  rw [found]
  apply ends_bind.mpr
  apply ends_pure.mpr
  apply ends_bind.mpr
  exact (finish_spares (draft.confined sound)).mono (fun _ s' confined => ends_pure.mpr confined) fun _ _ => id

theorem updateAnnot_spares (a : Annot) (sound : d.Sound) :
    Spares (updateAnnot index a) e ((Action.updateAnnot index a).namedAnnots e d)
      ((Action.updateAnnot index a).namedObjects e d) d := by
  apply ends_bind.mpr
  refine checkAnnotIndex_still.mono ?_ ?_
  · rintro - - rfl
    apply ends_bind.mpr
    apply ends_onLibrary.mpr
    apply ends_bind.mpr
    refine (Document.ends_demand_reads rfl rfl).mpr ⟨fun annot found => ?_, fun _ => .refl d⟩
    have named : annot ∈ (Action.updateAnnot index a).namedAnnots e d := Option.bind_eq_some_iff.mp found
    have updated := a.update_keeps (σ := Document) (Document.refilled_steady e.page.page annot sound) e.page e.config
    have confined : ∀ d', d.Refilled e.page.page annot d' → d.Confined e.page.page
        ((Action.updateAnnot index a).namedAnnots e d) ((Action.updateAnnot index a).namedObjects e d) d' :=
      fun d' refilled => refilled.confined.mono (Set.singleton_subset_iff.mpr named)
        fun object mem => ⟨annot, named, mem⟩
    exact (updated d (.start sound)).mono (fun _ d' refilled => finish_spares (confined d' refilled))
      fun _ => confined
  · rintro - - rfl
    exact .refl d

theorem removeAnnot_spares :
    Spares (removeAnnot index) e ((Action.removeAnnot index).namedAnnots e d)
      ((Action.removeAnnot index).namedObjects e d) d := by
  apply ends_bind.mpr
  refine checkAnnotIndex_still.mono ?_ ?_
  · rintro - - rfl
    have confined := Document.confined_removeAnnot (RefusingLibrary.change (.removeAnnot e.page.page index) d)
    apply ends_bind.mpr
    apply ends_onLibrary.mpr
    exact ends_insist.mpr ⟨fun _ => finish_spares confined, fun _ => confined⟩
  · rintro - - rfl
    exact .refl d

theorem Action.run_spares (action : Action) (sound : d.Sound) :
    Spares action.run e (action.namedAnnots e d) (action.namedObjects e d) d := by
  have still : ∀ {edit : Editing Document Unit}, Keeps (· = d) edit →
      Spares edit e (action.namedAnnots e d) (action.namedObjects e d) d := by
    intro edit keeps
    have same : Ends edit (e, d) (fun _ s' => s'.2 = d) fun _ s' => s'.2 = d := keeps (e, d) rfl
    exact same.mono (fun _ s' same => same ▸ .refl _) fun _ s' same => same ▸ .refl _
  have adds : ∀ {edit : Editing Document Nat}, Spares edit e ∅ ∅ d →
      Spares ((fun _ => ()) <$> edit) e (action.namedAnnots e d) (action.namedObjects e d) d :=
    fun spares => ends_map.mpr (spares.mono
      (fun _ _ confined => confined.mono (Set.empty_subset _) (Set.empty_subset _))
      fun _ _ confined => confined.mono (Set.empty_subset _) (Set.empty_subset _))
  cases action with
  | height => exact still (keeps_map (keeps_onLibrary fun e => (readPageHeight_only e.page.page).keeps_still))
  | objects refetch => exact still (keeps_map (objects_still refetch))
  | object index => exact still (keeps_map (keeps_bind (objects_still false) fun _ => keeps_pure))
  | annots => exact still (keeps_map annots_still)
  | addObject o => exact adds (addObject_spares o sound)
  | updateObject index o => exact updateObject_spares o
  | removeObject index => exact removeObject_spares
  | addAnnot a => exact adds (addAnnot_spares a sound)
  | updateAnnot index a => exact updateAnnot_spares a sound
  | removeAnnot index => exact removeAnnot_spares

theorem Action.annotsOn_of_named {action : Action} {annot : AnnotId} (named : annot ∈ action.namedAnnots e d) :
    annot ∈ d.annotsOn e.page.page := by
  cases action with
  | updateAnnot | removeAnnot =>
      obtain ⟨p, known, found⟩ := named
      exact ⟨p, known, List.mem_of_getElem? found⟩
  | height | objects | object | addObject | updateObject | removeObject | annots | addAnnot => exact named.elim

theorem Action.not_elsewhere_of_named {action : Action} {object : ObjectId} (owned : d.Owned)
    (named : object ∈ action.namedObjects e d) : ¬d.Elsewhere e.page.page object := by
  intro elsewhere
  cases action with
  | updateObject | removeObject =>
      obtain ⟨p, known, found⟩ := named
      exact elsewhere.not_mem_page owned known (List.mem_of_getElem? found)
  | height | objects | object | addObject | annots | addAnnot | updateAnnot | removeAnnot =>
      obtain ⟨annot, named, mem⟩ := named
      exact elsewhere.not_mem_embedded owned (annotsOn_of_named named) mem

/-- Whether it fails or not, an action of an editor changes nothing outside the page of the editor, and on that page
no object and no annotation that was there but the one it names, with the objects in it. -/
theorem edits_stay_confined (reachable : d.Reachable) (e : Editor) (action : Action) :
    let d' := (action.run (e, d)).2.2
    (∀ other ≠ e.page.page, d'.pages.get? other = d.pages.get? other) ∧
    (∀ annot ∈ d.annots.keys, annot ∉ d.annotsOn e.page.page → d'.annots.get? annot = d.annots.get? annot) ∧
    (∀ object ∈ d.objects.keys, d.Elsewhere e.page.page object → d'.objects.get? object = d.objects.get? object) ∧
    (∀ annot ∈ d.annots.keys, annot ∉ action.namedAnnots e d → d'.annots.get? annot = d.annots.get? annot) ∧
    ∀ object ∈ d.objects.keys, object ∉ action.namedObjects e d →
      d'.objects.get? object = d.objects.get? object := by
  intro d'
  have spares : Spares action.run e (action.namedAnnots e d) (action.namedObjects e d) d :=
    action.run_spares reachable.sound
  have confined := Ends.after spares
  refine ⟨confined.pages, fun annot mem off => ?_, fun object mem elsewhere => ?_, confined.annots, confined.objects⟩
  · exact confined.annots annot mem fun named => off (Action.annotsOn_of_named named)
  · exact confined.objects object mem fun named =>
      Action.not_elsewhere_of_named reachable.sound.toOwned named elsewhere

/-- Path 4 is on another page, path 6 in a stamp of the editor's page and path 7 detached. -/
theorem edits_spare_what_they_do_not_name :
    ∃ (e : Editor) (d : Document), d.Reachable ∧ d.objects.keys = [⟨4⟩, ⟨6⟩, ⟨7⟩] ∧ d.annotsOn e.page.page = {⟨5⟩} ∧
      (∀ action : Action, (action.run (e, d)).2.2.pages.get? ⟨3⟩ = d.pages.get? ⟨3⟩ ∧
        (action.run (e, d)).2.2.objects.get? ⟨4⟩ = d.objects.get? ⟨4⟩ ∧
        (action.run (e, d)).2.2.objects.get? ⟨7⟩ = d.objects.get? ⟨7⟩) ∧
      ∀ a, ((Action.updateAnnot 1 a).run (e, d)).2.2.objects.get? ⟨6⟩ = d.objects.get? ⟨6⟩ ∧
        ((Action.addAnnot a).run (e, d)).2.2.objects.get? ⟨6⟩ = d.objects.get? ⟨6⟩ := by
  have pages := (((Document.reachable_empty false).step .createDocument).step (.addPage 792)).step (.addPage 792)
  have listed := (pages.step (.call (.createPath 0 0))).step (.call (.insertObject ⟨3⟩ ⟨4⟩))
  have stamp := (listed.step (.call (.createAnnot ⟨2⟩ .stamp))).step (.call (.createPath 0 0))
  have reachable := (stamp.step (.call (.embed ⟨5⟩ ⟨6⟩))).step (.call (.createPath 0 0))
  let e : Editor := openOn ⟨⟨1⟩, ⟨2⟩⟩ {}
  generalize same : (Library.perform (.createPath 0 0) _ : _ × Document).2 = d at reachable
  have page : d.pages.get? ⟨2⟩ = some ⟨792, [], [⟨5⟩], 0⟩ := by rw [← same]; rfl
  have other : d.pages.get? ⟨3⟩ = some ⟨792, [⟨4⟩], [], 0⟩ := by rw [← same]; rfl
  have keys : d.objects.keys = [⟨4⟩, ⟨6⟩, ⟨7⟩] := by rw [← same]; rfl
  have held : d.held = [⟨4⟩, ⟨6⟩] := by rw [← same]; rfl
  refine ⟨e, d, reachable, keys, ?_, fun action => ?_, fun a => ⟨?_, ?_⟩⟩
  · ext annot
    simp [Document.annotsOn, e, openOn, page]
  · obtain ⟨pages, -, elsewhere, -⟩ := edits_stay_confined reachable e action
    refine ⟨pages ⟨3⟩ (by decide), elsewhere ⟨4⟩ (by simp [keys]) (.listed ⟨3⟩ _ (by decide) other (by simp)),
      elsewhere ⟨7⟩ (by simp [keys]) (.detached (by simp [held]))⟩
  · refine (edits_stay_confined reachable e (.updateAnnot 1 a)).2.2.2.2 ⟨6⟩ (by simp [keys]) ?_
    simp [Action.namedObjects, Action.namedAnnots, e, openOn, page]
  · refine (edits_stay_confined reachable e (.addAnnot a)).2.2.2.2 ⟨6⟩ (by simp [keys]) ?_
    simp [Action.namedObjects, Action.namedAnnots]

end Editor

namespace Document

variable {d d' d'' : Document} {page other : PageId} {annot : AnnotId} {object : ObjectId}

def objectsOn (d : Document) (page : PageId) : Set ObjectId :=
  { object | (∃ p, d.pages.get? page = some p ∧ object ∈ p.objects) ∨
    ∃ annot ∈ d.annotsOn page, object ∈ d.embedded annot }

/-- The page is as it was, and so is all that it holds. -/
structure KeepsPage (d : Document) (page : PageId) (d' : Document) : Prop where
  same : d'.pages.get? page = d.pages.get? page
  annots : ∀ annot ∈ d.annotsOn page, d'.annots.get? annot = d.annots.get? annot
  objects : ∀ object ∈ d.objectsOn page, d'.objects.get? object = d.objects.get? object

theorem KeepsPage.annotsOn_eq (keeps : d.KeepsPage page d') : d'.annotsOn page = d.annotsOn page := by
  rw [annotsOn, keeps.same]
  rfl

theorem KeepsPage.mem_objectsOn (keeps : d.KeepsPage page d') (mem : object ∈ d.objectsOn page) :
    object ∈ d'.objectsOn page := by
  rcases mem with ⟨p, known, mem⟩ | ⟨annot, on, a, known, mem⟩
  · exact .inl ⟨p, keeps.same.trans known, mem⟩
  · exact .inr ⟨annot, keeps.annotsOn_eq ▸ on, a, (keeps.annots annot on).trans known, mem⟩

theorem KeepsPage.trans (first : d.KeepsPage page d') (second : d'.KeepsPage page d'') : d.KeepsPage page d'' where
  same := second.same.trans first.same
  annots annot on := (second.annots annot (first.annotsOn_eq ▸ on)).trans (first.annots annot on)
  objects object mem := (second.objects object (first.mem_objectsOn mem)).trans (first.objects object mem)

theorem Listed.eq_of_annotsOn (listed : d.Listed) (on : annot ∈ d.annotsOn page) (on' : annot ∈ d.annotsOn other) :
    other = page := by
  by_contra differ
  obtain ⟨p, known, mem⟩ := on
  obtain ⟨p', known', mem'⟩ := on'
  obtain ⟨rest, before, after⟩ := listed_setPage known
  have nodup := List.nodup_append.mp (before.nodup_iff.mp listed.listed_nodup)
  have kept : (d.pages.insert page { p with annots := [] }).get? other = some p' := by
    rw [Table.get?_insert_of_ne _ differ, known']
  have left : annot ∈ Document.listed { d with pages := d.pages.insert page { p with annots := [] } } :=
    mem_listed_of_mem_page kept mem'
  exact nodup.2.2 annot mem annot ((after _).mem_iff.mp left) rfl

end Document

namespace Editor

variable {d : Document} {page : PageId}

theorem Action.run_keepsPage (action : Action) (e : Editor) (sound : d.Sound) (off : page ≠ e.page.page) :
    d.KeepsPage page (action.run (e, d)).2.2 := by
  have spares : Spares action.run e (action.namedAnnots e d) (action.namedObjects e d) d := action.run_spares sound
  have confined := Ends.after spares
  have elsewhere : ∀ annot ∈ d.annotsOn page, annot ∉ d.annotsOn e.page.page :=
    fun annot on on' => off (sound.eq_of_annotsOn on' on)
  refine ⟨confined.pages page off, fun annot on => ?_, fun object mem => ?_⟩
  · obtain ⟨p, known, mem⟩ := on
    obtain ⟨a, stamp⟩ := sound.get?_annot known mem
    exact confined.annots annot (Table.mem_keys_of_get? stamp) fun named =>
      elsewhere annot ⟨p, known, mem⟩ (annotsOn_of_named named)
  · have free : d.Elsewhere e.page.page object ∧ object ∈ d.held := by
      rcases mem with ⟨p, known, mem⟩ | ⟨annot, on, mem⟩
      · exact ⟨.listed page p off known mem, Document.mem_held_of_page known mem⟩
      · exact ⟨.embedded annot (elsewhere annot on) mem, Document.mem_held_of_embedded mem⟩
    exact confined.objects object (sound.held_live object free.2) fun named =>
      not_elsewhere_of_named sound.toOwned named free.1

/-- What editors of other pages can make of a document. -/
inductive EditedOff (page : PageId) (d : Document) : Document → Prop
  | start : EditedOff page d d
  | act {d'} (edited : EditedOff page d d') (e : Editor) (off : page ≠ e.page.page) (action : Action) :
      EditedOff page d (action.run (e, d')).2.2

theorem EditedOff.keepsPage {d' : Document} (edited : EditedOff page d d') (sound : d.Sound) :
    d'.Sound ∧ d.KeepsPage page d' := by
  induction edited with
  | start => exact ⟨sound, rfl, fun _ _ => rfl, fun _ _ => rfl⟩
  | @act d' edited e off action ih =>
      have loose : Document.Loose d'.detached (action.run (e, d')).2.2 := (action.run_keeps (e, d') ⟨ih.1, rfl⟩).after
      exact ⟨loose.1, ih.2.trans (action.run_keepsPage e ih.1 off)⟩

end Editor

end PageContent
