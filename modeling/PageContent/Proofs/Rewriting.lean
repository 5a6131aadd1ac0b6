import PageContent.Proofs.Rebuilding
import PageContent.Proofs.Run

namespace PageContent

namespace Document

variable {d d' : Document} {effect : Effect} {object : ObjectId} {ids : List Nat}

def Stroked (d : Document) : Prop := ∀ object o, d.objects.get? object = some o → ¬o.strokeWidth < 0

theorem Stroked.insert (stroked : d.Stroked) {o : StoredObject} (width : ¬o.strokeWidth < 0)
    (same : d'.objects = d.objects.insert object o) : d'.Stroked := by
  intro other o' found
  rw [same, Table.get?_insert] at found
  split at found
  · cases found
    exact width
  · exact stroked other o' found

theorem Stroked.shrink (stroked : d.Stroked)
    (kept : ∀ object o, d'.objects.get? object = some o → d.objects.get? object = some o) : d'.Stroked :=
  fun object o found => stroked object o (kept object o found)

theorem Stroked.change (stroked : d.Stroked) (change : d.Change effect d') (other : ∀ object, effect ≠ .object object) :
    d'.Stroked := by
  cases change with
  | object object => exact absurd rfl (other object)
  | newObject content =>
      have width : ¬(StoredObject.new content).strokeWidth < 0 := by
        have one : ¬(1 : Float32) < 0 := by decide +kernel
        exact one
      exact stroked.insert width rfl
  | destroy | removeEmbedded => exact stroked.shrink fun _ _ => Table.get?_of_get?_erase
  | removeAnnot page index p annot =>
      refine stroked.shrink fun object o found => ?_
      rw [releaseAnnot] at found
      split at found
      case h_1 => exact found
      case h_2 => exact Table.get?_of_get?_foldl_erase found
  | nothing | annot | content | newFont | newAnnot | insert | detach | embed | newDocument | newPage | settings =>
      exact stroked

theorem Stroked.changeObject (stroked : d.Stroked) {f : StoredObject → Option StoredObject}
    (width : ∀ o o', f o = some o' → o'.strokeWidth = o.strokeWidth ∨ ¬o'.strokeWidth < 0) :
    (d.tell (d.changeObject object f)).2.Stroked := by
  cases changed : d.changeObject object f with
  | none => exact stroked
  | some d' =>
      obtain ⟨o, o', known, next, rfl⟩ := changeObject_eq_some.mp changed
      refine stroked.insert (o := o') ?_ rfl
      rcases width o o' next with same | fits
      · rw [same]
        exact stroked object o known
      · exact fits

theorem Stroked.changeContent (stroked : d.Stroked) {f : StoredContent → Option StoredContent} :
    (d.tell (d.changeContent object f)).2.Stroked := by
  refine stroked.changeObject fun o o' next => .inl ?_
  obtain ⟨content, -, same⟩ := Option.bind_eq_some_iff.mp next
  cases same
  rfl

theorem Stroked.run (stroked : d.Stroked) {α : Type} (call : Call α) : (d.run call).2.Stroked := by
  cases call with
  | setMatrix | transform =>
      refine stroked.changeObject fun o o' next => ?_
      cases next
      exact .inl rfl
  | setColor object paint =>
      refine stroked.changeObject fun o o' next => ?_
      cases next
      cases paint <;> exact .inl rfl
  | setStrokeWidth object width =>
      rw [Document.run]
      split
      case isTrue => exact stroked
      case isFalse fits =>
        refine stroked.changeObject fun o o' next => ?_
        cases next
        exact .inr fits
  | addSegment | closePath | setDrawMode | setBitmap | setText | setRenderMode => exact stroked.changeContent
  | _ => exact stroked.change (run_change d _) (by simp [Call.effect])

theorem Stroked.perform (stroked : d.Stroked) {α : Type} (call : Call α) : (perform call d).2.Stroked := by
  rw [Document.perform]
  split
  case isTrue => exact stroked
  case isFalse => exact stroked.run call

theorem Stroked.step (stroked : d.Stroked) (step : Step d ids d') : d'.Stroked := by
  cases step with
  | call call => exact stroked.perform call
  | replaceBitmap => exact stroked.changeContent
  | addBezier object points =>
      rw [addBezier, changeSegments]
      exact stroked.changeContent
  | createShading => exact stroked.change (.newObject .shading trivial) nofun
  | clearString annot key => exact stroked.change (change_clearString d annot key) nofun
  | createDocument | addPage | failOn | clearFailures | allowQuadRemoval => exact stroked

/-- A width below zero is never stored, whatever is done. -/
theorem Reachable.stroked (reachable : d.Reachable) : d.Stroked := by
  obtain ⟨removesQuads, ids, run⟩ := reachable
  induction run with
  | start => exact fun _ _ => nofun
  | step run step ih => exact ih.step step

end Document

open Document (Appends)

theorem StoredContent.Shows.substantial {fonts : Table FontId String} {stored : StoredContent} {content : Content}
    (shows : stored.Shows fonts content) (admitted : Stamp.admits content.kind = true) : content.Substantial := by
  cases shows with
  | path nonempty => exact nonempty
  | image => trivial
  | text => cases admitted

theorem StoredContent.Shows.kind_eq {fonts : Table FontId String} {stored : StoredContent} {content : Content}
    (shows : stored.Shows fonts content) : content.kind = stored.kind := by
  cases shows <;> rfl

namespace Stamp

variable {d d' : Document} {annot : AnnotId} {page : PageRef} {p : Page} {a : StoredAnnot} {object : ObjectId}
  {o : PageObject} {s : Stamp}

structure Fillable (annot : AnnotId) (page : PageRef) (d : Document) : Prop where
  sound : d.Sound
  works : d.failing = []
  page : ∃ p, d.pages.get? page.page = some p
  annot : ∃ a, d.annots.get? annot = some a

theorem Fillable.appends {made : List PageObject} {new : List ObjectId} (fillable : Fillable annot page d)
    (appends : Appends annot page d made new d') (sound : d'.Sound) : Fillable annot page d' := by
  obtain ⟨a, known⟩ := fillable.annot
  have known' : d'.annots.get? annot = some { a with objects := a.objects ++ new } := by
    rw [appends.annots a known, Table.get?_insert_self]
  refine ⟨sound, appends.failing.trans fillable.works, ?_, _, known'⟩
  rw [appends.pages]
  exact fillable.page

end Stamp

end PageContent
