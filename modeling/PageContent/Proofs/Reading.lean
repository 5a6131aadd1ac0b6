import PageContent.Proofs.Lists
import PageContent.Proofs.Placing

namespace PageContent

section Ended

variable {σ α β : Type} {s s' : σ}

theorem slot?_eq {edit : Edit σ α} {result : Except Error α} (ended : edit s = (result, s')) :
    slot? edit s = (.ok result.toOption, s') := by
  simp only [slot?, tryCatch, tryCatchThe, MonadExceptOf.tryCatch, ExceptT.tryCatch, ExceptT.mk, StateT.bind,
    bind, Functor.map, ExceptT.map, ended]
  cases result <;> rfl

theorem mapM_eq {f : β → Edit σ α} {result : β → Except Error α} {l : List β}
    (each : ∀ x ∈ l, f x s = (result x, s)) : l.mapM f s = (l.mapM result, s) := by
  induction l with
  | nil => rfl
  | cons x l ih =>
      have first := each x List.mem_cons_self
      have rest := ih fun y mem => each y (List.mem_cons_of_mem x mem)
      rw [List.mapM_cons, List.mapM_cons]
      cases answer : result x with
      | error error => exact bind_error (first.trans (by rw [answer]))
      | ok a =>
          rw [bind_ok (first.trans (by rw [answer]))]
          cases answers : l.mapM result with
          | error error => exact bind_error (rest.trans (by rw [answers]))
          | ok as => exact bind_ok (rest.trans (by rw [answers]))

theorem mapM_range_eq {l : List β} {f : Nat → Edit σ α} {result : β → Nat → Except Error α}
    (each : ∀ x index, l[index]? = some x → f index s = (result x index, s)) :
    (List.range l.length).mapM f s = (l.zipIdx.mapM fun x => result x.1 x.2, s) := by
  have places : List.range l.length = l.zipIdx.map (·.2) := by
    rw [List.zipIdx_map_snd, List.range_eq_range']
  rw [places, List.mapM_map]
  exact mapM_eq fun x mem => each x.1 x.2 (List.mem_zipIdx_iff_getElem?.mp mem)

theorem mapM_range_ok {l : List β} {f : Nat → Edit σ α} {g : β → α}
    (each : ∀ x index, l[index]? = some x → f index s = (.ok (g x), s)) :
    (List.range l.length).mapM f s = (.ok (l.map g), s) := by
  have answers : ∀ x index, l[index]? = some x → f index s = (pure (g x), s) := each
  rw [mapM_range_eq answers, List.mapM_pure]
  have all : l.zipIdx.map (fun x => g x.1) = l.map g :=
    calc l.zipIdx.map (fun x => g x.1)
      _ = (l.zipIdx.map (·.1)).map g := List.map_map.symm
      _ = l.map g := by rw [List.zipIdx_map_fst]
  rw [all]
  rfl

end Ended

section Still

variable {σ α : Type} [RefusingLibrary σ] {d : Document}

theorem Only.keeps_still {inv : Document → Prop} {edit : Edit σ α} (only : Only (fun _ => False) edit) :
    Keeps inv edit :=
  only.keeps fun _ _ _ impossible => impossible.elim

theorem Keeps.still_after {edit : Edit σ α} (keeps : Keeps (· = d) edit) {s : σ} (start : document s = d) :
    document (edit s).2 = d := by
  have still : Ends edit s (fun _ s' => document s' = d) fun _ s' => document s' = d := keeps s start
  exact still.after

theorem Keeps.run_eq {edit : Edit Document α} (keeps : Keeps (· = d) edit) : edit d = ((edit d).1, d) :=
  Prod.ext rfl (keeps.still_after rfl)

theorem Keeps.ends_still {edit : Edit Document α} {ok : α → Document → Prop} {fail : Error → Document → Prop}
    (keeps : Keeps (· = d) edit) (oks : ∀ a, ok a d) (fails : ∀ e, fail e d) : Ends edit d ok fail := by
  have left : Ends edit d (fun _ d' => d' = d) fun _ d' => d' = d := keeps d rfl
  exact left.mono (fun a d' same => by rw [same]; exact oks a) fun e d' same => by rw [same]; exact fails e

theorem readDeviceMatrix_still (object : ObjectId) (page : PageId) :
    Keeps (· = d) (readDeviceMatrix object page : Edit Document (Matrix Float32)) := by
  rintro _ rfl
  exact readDeviceMatrix_ends.mono (fun _ _ ended => ended.1) fun _ _ failed => failed.1

theorem Attributes.read_still (object : ObjectId) (page : PageRef) :
    Keeps (· = d) (Attributes.read object page : Edit Document Attributes) := by
  refine keeps_bind (readDeviceMatrix_still object page.page) fun _ => Only.keeps_still ?_
  exact only_bind (only_demand (.inl rfl)) fun _ => only_bind (only_demand (.inl rfl)) fun _ =>
    only_bind (only_demand (.inl rfl)) fun _ => only_pure

namespace PageObject

theorem readAs_still (kind : ObjectKind) (object : ObjectId) (page : PageRef) :
    Keeps (· = d) (readAs kind object page : Edit Document PageObject) := by
  have finish : ∀ content, Keeps (· = d)
      (do pure ⟨content, ← Attributes.read object page⟩ : Edit Document PageObject) :=
    fun content => keeps_bind (Attributes.read_still object page) fun _ => keeps_pure
  refine keeps_bind (expectKind_only object kind).keeps_still fun _ => ?_
  split
  · exact keeps_bind (Content.readPath_only object).keeps_still finish
  · exact keeps_bind (Content.readImage_only object).keeps_still finish
  · exact keeps_bind (Content.readText_only object page).keeps_still finish
  · exact keeps_bind keeps_throw finish

theorem read_still (object : ObjectId) (page : PageRef) :
    Keeps (· = d) (read object page : Edit Document PageObject) := by
  refine keeps_bind (only_ask (.inl rfl)).keeps_still fun kind => ?_
  split
  · exact readAs_still _ object page
  · exact readAs_still _ object page
  · exact readAs_still _ object page
  · exact keeps_throw

end PageObject

namespace Stamp

theorem readSlot_still (annot : AnnotId) (page : PageRef) (index : Nat) :
    Keeps (· = d) (readSlot annot page index : Edit Document (Option PageObject)) := by
  refine keeps_bind (only_ask (.inl rfl)).keeps_still fun found => ?_
  cases found with
  | none => exact keeps_pure
  | some object =>
      refine keeps_bind (only_ask (.inl rfl)).keeps_still fun kind => ?_
      split
      · exact keeps_slot? (PageObject.read_still object page)
      · exact keeps_pure

theorem read_still (annot : AnnotId) (page : PageRef) :
    Keeps (· = d) (read annot page : Edit Document Stamp) :=
  keeps_bind (expectAnnotKind_only annot .stamp).keeps_still fun _ =>
    keeps_bind (readAnnotRect_only annot).keeps_still fun _ =>
      keeps_bind (only_demand (.inl rfl)).keeps_still fun _ =>
        keeps_bind (keeps_mapM _ (readSlot_still annot page)) fun _ => keeps_pure

end Stamp

namespace Annot

theorem readAs_still (kind : AnnotKind) (annot : AnnotId) (page : PageRef) :
    Keeps (· = d) (readAs kind annot page : Edit Document Annot) := by
  unfold readAs
  split
  · exact keeps_map (Stamp.read_still annot page)
  · exact keeps_map (Highlight.read_only annot).keeps_still
  · exact keeps_map (FreeText.read_only annot).keeps_still
  · exact keeps_throw

theorem read_still (annot : AnnotId) (page : PageRef) :
    Keeps (· = d) (read annot page : Edit Document Annot) :=
  keeps_bind (only_ask (.inl rfl)).keeps_still fun kind => readAs_still kind annot page

end Annot

namespace Editor

theorem readSlot_still (page : PageRef) (index : Nat) :
    Keeps (· = d) (readSlot page index : Edit Document (Option PageObject)) := by
  refine keeps_bind (only_ask (.inl rfl)).keeps_still fun found => ?_
  cases found with
  | none => exact keeps_pure
  | some object => exact keeps_slot? (PageObject.read_still object page)

theorem readAnnotSlot_still (page : PageRef) (index : Nat) :
    Keeps (· = d) (readAnnotSlot page index : Edit Document (Option Annot)) := by
  refine keeps_bind (only_ask (.inl rfl)).keeps_still fun found => ?_
  cases found with
  | none => exact keeps_pure
  | some annot => exact keeps_slot? (Annot.read_still annot page)

theorem objects_still (refetch : Bool) :
    Keeps (· = d) (objects refetch : Editing Document (List (Option PageObject))) := by
  have read : Keeps (· = d) (do
      let objects ← readObjects
      setCache (some objects)
      pure objects : Editing Document (List (Option PageObject))) := by
    refine keeps_bind (keeps_bind (keeps_onLibrary fun _ => (only_demand (.inl rfl)).keeps_still) fun count => ?_)
      fun objects => keeps_bind (keeps_setCache _) fun _ => keeps_pure
    exact keeps_onLibrary fun e => keeps_mapM _ (readSlot_still e.page)
  apply keeps_bind keeps_cached
  intro cached
  split
  · exact keeps_pure
  · exact read

theorem annots_still : Keeps (· = d) (annots : Editing Document (List (Option Annot))) := by
  refine keeps_bind (keeps_onLibrary fun _ => (only_demand (.inl rfl)).keeps_still) fun count => ?_
  exact keeps_onLibrary fun e => keeps_mapM _ (readAnnotSlot_still e.page)

end Editor

end Still

section Slots

variable {d : Document} {page : PageRef} {p : Page}

theorem ask_eq {α : Type} {call : Call α} {answer : α} (never : call.failPoint? = none)
    (reads : d.run call = (answer, d)) : (ask call : Edit Document α) d = (.ok answer, d) :=
  ask_ok ((Document.perform_unfailing never d).trans reads)

theorem demand_eq {α : Type} {operation : Operation} {call : Call (Option α)} {answer : α}
    (never : call.failPoint? = none) (reads : d.run call = (some answer, d)) :
    (demand operation call : Edit Document α) d = (.ok answer, d) :=
  demand_ok ((Document.perform_unfailing never d).trans reads)

theorem objectKind_eq {object : ObjectId} {o : StoredObject} (known : d.objects.get? object = some o) :
    (d.object? object).elim .unknown (·.content.kind) = o.content.kind := by
  rw [Document.object?, known]
  rfl

theorem annotKind_eq {annot : AnnotId} {a : StoredAnnot} (known : d.annots.get? annot = some a) :
    (d.annot? annot).elim .unknown (·.kind) = a.kind := by
  rw [Document.annot?, known]
  rfl

theorem expectKind_ok {object : ObjectId} {kind : ObjectKind}
    (same : (d.object? object).elim .unknown (·.content.kind) = kind) :
    (expectKind object kind : Edit Document Unit) d = (.ok (), d) := by
  have told : d.run (.objectKind object) = (kind, d) := congrArg (·, d) same
  rw [expectKind, bind_ok (ask_eq rfl told), if_neg (not_not.mpr rfl)]
  rfl

theorem expectKind_error {object : ObjectId} {expected kind : ObjectKind}
    (known : (d.object? object).elim .unknown (·.content.kind) = kind) (differ : kind ≠ expected) :
    (expectKind object expected : Edit Document Unit) d = (.error (.kindMismatch expected kind), d) := by
  have told : d.run (.objectKind object) = (kind, d) := congrArg (·, d) known
  rw [expectKind, bind_ok (ask_eq rfl told), if_pos differ]
  rfl

theorem expectAnnotKind_ok {annot : AnnotId} {a : StoredAnnot} {kind : AnnotKind}
    (known : d.annots.get? annot = some a) (same : a.kind = kind) :
    (expectAnnotKind annot kind : Edit Document Unit) d = (.ok (), d) := by
  have told : d.run (.annotKind annot) = (kind, d) := congrArg (·, d) ((annotKind_eq known).trans same)
  rw [expectAnnotKind, bind_ok (ask_eq rfl told), if_neg (not_not.mpr rfl)]
  rfl

theorem expectAnnotKind_error {annot : AnnotId} {expected kind : AnnotKind}
    (known : (d.annot? annot).elim .unknown (·.kind) = kind) (differ : kind ≠ expected) :
    (expectAnnotKind annot expected : Edit Document Unit) d = (.error (.annotMismatch expected kind), d) := by
  have told : d.run (.annotKind annot) = (kind, d) := by
    rw [Document.run, known]
  rw [expectAnnotKind, bind_ok (ask_eq rfl told), if_pos differ]
  rfl

theorem Keeps.slot?_eq {α : Type} {edit : Edit Document α} (keeps : Keeps (· = d) edit) :
    slot? edit d = (.ok (edit d).1.toOption, d) :=
  PageContent.slot?_eq keeps.run_eq

def Stamp.shown (d : Document) (page : PageRef) (object : ObjectId) : Option PageObject :=
  if Stamp.admits ((d.object? object).elim .unknown (·.content.kind)) then (PageObject.read object page d).1.toOption
  else none

theorem Stamp.readSlot_eq {annot : AnnotId} {a : StoredAnnot} (known : d.annots.get? annot = some a) {index : Nat}
    {object : ObjectId} (found : a.objects[index]? = some object) :
    Stamp.readSlot annot page index d = (.ok (Stamp.shown d page object), d) := by
  have embedded : d.run (.embeddedAt annot index) = (some object, d) := by
    simp [Document.run, Document.annot?, known, found]
  rw [Stamp.readSlot, bind_ok (ask_eq rfl embedded)]
  refine (bind_ok (ask_eq rfl rfl)).trans ?_
  rw [Stamp.shown]
  split
  case isTrue => exact (PageObject.read_still object page).slot?_eq
  case isFalse => rfl

theorem Editor.readSlot_eq (known : d.pages.get? page.page = some p) {index : Nat} {object : ObjectId}
    (found : p.objects[index]? = some object) :
    Editor.readSlot page index d = (.ok (PageObject.read object page d).1.toOption, d) := by
  have placed : d.run (.objectAt page.page index) = (some object, d) := by
    simp [Document.run, known, found]
  rw [Editor.readSlot, bind_ok (ask_eq rfl placed)]
  exact (PageObject.read_still object page).slot?_eq

theorem Editor.readAnnotSlot_eq (known : d.pages.get? page.page = some p) {index : Nat} {annot : AnnotId}
    (found : p.annots[index]? = some annot) :
    Editor.readAnnotSlot page index d = (.ok (Annot.read annot page d).1.toOption, d) := by
  have placed : d.run (.annotAt page.page index) = (some annot, d) := by
    simp [Document.run, known, found]
  rw [Editor.readAnnotSlot, bind_ok (ask_eq rfl placed)]
  exact (Annot.read_still annot page).slot?_eq

theorem Stamp.read_ends (annot : AnnotId) (page : PageRef) :
    Ends (Stamp.read annot page) d
      (fun stamp _ => ∃ a, d.annots.get? annot = some a ∧ stamp.slots = a.objects.map (Stamp.shown d page))
      fun _ _ => True := by
  apply ends_bind.mpr
  refine (expectAnnotKind_only annot .stamp).keeps_still.ends_still (fun _ => ?_) fun _ => trivial
  apply ends_bind.mpr
  refine (readAnnotRect_only annot).keeps_still.ends_still (fun bounds => ?_) fun _ => trivial
  apply ends_bind.mpr
  apply (Document.ends_demand_reads rfl rfl).mpr
  refine ⟨fun count counted => ?_, fun _ => trivial⟩
  obtain ⟨a, known, rfl⟩ := Option.map_eq_some_iff.mp counted
  have slots : (List.range a.objects.length).mapM (Stamp.readSlot annot page) d =
      (.ok (a.objects.map (Stamp.shown d page)), d) :=
    mapM_range_ok fun object index found => Stamp.readSlot_eq known found
  apply ends_bind.mpr
  apply (ends_of_eq_ok slots).mpr
  exact ends_pure.mpr ⟨a, known, rfl⟩

theorem Annot.read_ends (annot : AnnotId) (page : PageRef) :
    Ends (Annot.read annot page) d
      (fun read _ => ∀ stamp, read = .stamp stamp →
        ∃ a, d.annots.get? annot = some a ∧ stamp.slots = a.objects.map (Stamp.shown d page))
      fun _ _ => True := by
  apply ends_bind.mpr
  refine Keeps.ends_still (only_ask (.inl rfl)).keeps_still (fun kind => ?_) fun _ => trivial
  unfold readAs
  split
  · refine ends_map.mpr ((Stamp.read_ends annot page).mono (fun stamp _ shown => ?_) fun _ _ => id)
    rintro _ ⟨⟩
    exact shown
  · apply ends_map.mpr
    refine (Highlight.read_only annot).keeps_still.ends_still (fun _ stamp same => ?_) fun _ => trivial
    cases same
  · apply ends_map.mpr
    refine (FreeText.read_only annot).keeps_still.ends_still (fun _ stamp same => ?_) fun _ => trivial
    cases same
  · exact ends_throw.mpr trivial

namespace Editor

variable {e : Editor}

theorem objects_eq {refetch : Bool} (known : d.pages.get? e.page.page = some p)
    (anew : refetch = true ∨ e.cache = none) :
    let slots := p.objects.map fun object => (PageObject.read object e.page d).1.toOption
    objects refetch (e, d) = (.ok slots, { e with cache := some slots }, d) := by
  intro slots
  have count : (objectCount : Editing Document Nat) (e, d) = (.ok p.objects.length, e, d) := by
    refine (objectCount_ends known ⟨rfl, rfl⟩).eq_ok
  have read : (readObjects : Editing Document _) (e, d) = (.ok slots, e, d) := by
    rw [readObjects, bind_ok count]
    have listed : (List.range p.objects.length).mapM (readSlot e.page) d = (.ok slots, d) :=
      mapM_range_ok fun object index found => readSlot_eq known found
    simp only [onLibrary, listed]
  have fresh : (do
      let objects ← readObjects
      setCache (some objects)
      pure objects : Editing Document (List (Option PageObject))) (e, d) =
      (.ok slots, { e with cache := some slots }, d) :=
    bind_ok read
  have remembered : (cached : Editing Document _) (e, d) = (.ok e.cache, e, d) := rfl
  rw [objects, bind_ok remembered]
  rcases anew with rfl | none
  · cases e.cache <;> exact fresh
  · rw [none]
    exact fresh

theorem objects_eq_of_remembered {remembered : List (Option PageObject)} (cache : e.cache = some remembered) :
    objects false (e, d) = (.ok remembered, e, d) := by
  have found : (cached : Editing Document _) (e, d) = (.ok (some remembered), e, d) := by rw [← cache]; rfl
  exact bind_ok found

theorem annots_eq (known : d.pages.get? e.page.page = some p) :
    annots (e, d) = (.ok (p.annots.map fun annot => (Annot.read annot e.page d).1.toOption), e, d) := by
  have count : (annotCount : Editing Document Nat) (e, d) = (.ok p.annots.length, e, d) := by
    refine (annotCount_ends known ⟨rfl, rfl⟩).eq_ok
  have listed : (List.range p.annots.length).mapM (readAnnotSlot e.page) d =
      (.ok (p.annots.map fun annot => (Annot.read annot e.page d).1.toOption), d) :=
    mapM_range_ok fun annot index found => readAnnotSlot_eq known found
  rw [annots, bind_ok count]
  simp only [onLibrary, listed]

end Editor

end Slots

/-- To read is to leave the document as it is, and each slot of a list that is read shows its own object, or
is empty if that cannot be read, whatever the others are. -/
theorem reading_changes_nothing (d : Document) :
    (∀ kind object page, (PageObject.readAs kind object page d).2 = d ∧ (PageObject.read object page d).2 = d) ∧
    (∀ kind annot page, (Annot.readAs kind annot page d).2 = d ∧ (Annot.read annot page d).2 = d) ∧
    (∀ e refetch, (Editor.objects refetch (e, d)).2.2 = d ∧ (Editor.annots (e, d)).2.2 = d) ∧
    (∀ e p, d.pages.get? e.page.page = some p →
      (Editor.objects true (e, d)).1 =
        .ok (p.objects.map fun object => (PageObject.read object e.page d).1.toOption) ∧
      (Editor.annots (e, d)).1 = .ok (p.annots.map fun annot => (Annot.read annot e.page d).1.toOption)) ∧
    ∀ annot page stamp, (Stamp.read annot page d).1 = .ok stamp ∨ (Annot.read annot page d).1 = .ok (.stamp stamp) →
      ∃ a, d.annots.get? annot = some a ∧ stamp.slots = a.objects.map fun object =>
        if Stamp.admits ((d.object? object).elim .unknown (·.content.kind)) then
          (PageObject.read object page d).1.toOption
        else none := by
  refine ⟨fun kind object page => ?_, fun kind annot page => ?_, fun e refetch => ?_, fun e p known => ?_,
    fun annot page stamp read => ?_⟩
  · exact ⟨(PageObject.readAs_still kind object page).still_after rfl,
      (PageObject.read_still object page).still_after rfl⟩
  · exact ⟨(Annot.readAs_still kind annot page).still_after rfl, (Annot.read_still annot page).still_after rfl⟩
  · exact ⟨(Editor.objects_still refetch).still_after rfl, Editor.annots_still.still_after rfl⟩
  · rw [Editor.objects_eq known (.inl rfl), Editor.annots_eq known]
    exact ⟨rfl, rfl⟩
  · rcases read with read | read
    · exact (ends_of_eq_ok (Prod.ext read rfl)).mp (Stamp.read_ends annot page)
    · exact (ends_of_eq_ok (Prod.ext read rfl)).mp (Annot.read_ends annot page) stamp rfl

theorem reading_skips_shadings :
    ∃ (e : Editor) (d : Document) (o : PageObject), d.Reachable ∧
      (Editor.objects true (e, d)).1 = .ok [none, some o] ∧ (Editor.objects true (e, d)).2.2 = d ∧
      (Annot.read ⟨7⟩ e.page d).1 = .ok (.stamp ⟨⟨0, 0, 10, 10⟩, [none, some o]⟩) ∧
      ∃ a, d.annots.get? ⟨7⟩ = some a ∧ [none, some o] = a.objects.map (Stamp.shown d e.page) := by
  let o : PageObject := ⟨.path [⟨.move, 1, 2, false⟩] false false, ⟨⟨1, 0, 0, 1, 0, 788⟩, .black, .black, 1⟩⟩
  let stamp : Stamp := ⟨⟨0, 0, 10, 10⟩, [none, some o]⟩
  let e : Editor := .openOn ⟨⟨1⟩, ⟨2⟩⟩ {}
  have page := ((Document.reachable_empty false).step .createDocument).step (.addPage 792)
  have shadings := (page.step .createShading).step .createShading
  have objects := (shadings.step (.call (.createPath 1 2))).step (.call (.createPath 1 2))
  have listed := (objects.step (.call (.insertObject ⟨2⟩ ⟨3⟩))).step (.call (.insertObject ⟨2⟩ ⟨5⟩))
  have annot := (listed.step (.call (.createAnnot ⟨2⟩ .stamp))).step (.call (.setAnnotRect ⟨7⟩ ⟨0, 0, 10, 10⟩))
  have reachable := (annot.step (.call (.embed ⟨7⟩ ⟨4⟩))).step (.call (.embed ⟨7⟩ ⟨6⟩))
  have stamped : ∀ d : Document, (Annot.read ⟨7⟩ e.page d).1 = .ok (.stamp stamp) →
      (Annot.read ⟨7⟩ e.page d).1 = .ok (.stamp stamp) ∧
        ∃ a, d.annots.get? ⟨7⟩ = some a ∧ stamp.slots = a.objects.map (Stamp.shown d e.page) :=
    fun d read => ⟨read, (reading_changes_nothing d).2.2.2.2 ⟨7⟩ e.page stamp (.inr read)⟩
  refine ⟨e, _, o, reachable, ?_, ((reading_changes_nothing _).2.2.1 e true).1, stamped _ (by decide +kernel)⟩
  exact ((reading_changes_nothing _).2.2.2.1 e ⟨792, [⟨3⟩, ⟨5⟩], [⟨7⟩], 0⟩ rfl).1.trans (by decide +kernel)

end PageContent
