import PageContent.Proofs.RoundTrip

namespace PageContent

/-- What a path or an image is before anything is written to it. -/
inductive Content.Begins (failing : List FailPoint) : Content → StoredContent → Prop
  | path {first rest fill stroke} (works : .createPath ∉ failing) :
      Begins failing (.path (first :: rest) fill stroke)
        (.path (⟨.moveTo, first.x, first.y, first.closed⟩ :: rest.map Segment.stored) ⟨.none, false⟩)
  | image {bitmap} (works : .createImage ∉ failing) : Begins failing (.image bitmap) (.image none)

theorem Content.Begins.unique {failing : List FailPoint} {content : Content} {before before' : StoredContent}
    (begins : content.Begins failing before) (begins' : content.Begins failing before') : before' = before := by
  cases begins <;> cases begins' <;> rfl

namespace Document

variable {d d' : Document} {object object' : ObjectId} {page : PageRef} {o : PageObject}
  {before st st' : StoredObject} {stored : StoredContent} {p : Page} {bounds : Rect .page Float32}

theorem Writable.elsewhere (writable : d.Writable object page.page o before stored p bounds)
    (known : d'.objects.get? object' = some before) (pages : d'.pages = d.pages)
    (failing : d'.failing = d.failing) : d'.Writable object' page.page o before stored p bounds where
  takes := ⟨known, writable.takes.written, by rw [failing]; exact writable.takes.setBitmap⟩
  takesWidth := by rw [TakesWidth, failing]; exact writable.takesWidth
  page := by rw [pages]; exact writable.page
  setMatrix := by rw [failing]; exact writable.setMatrix
  getBounds := by rw [failing]; exact writable.getBounds
  bounds := writable.bounds

/-- A creation of `o` succeeds and gives an object in the state `st`. -/
def Makes (d : Document) (page : PageRef) (o : PageObject) (st : StoredObject) : Prop :=
  ∃ object d', o.create page d = (.ok object, d') ∧ d'.objects.get? object = some st

def Foresees (d : Document) (page : PageRef) (o : PageObject) (st : StoredObject) : Prop :=
  ∃ object before stored p bounds, o.content.Begins d.failing before ∧
    (d.put object (.new before)).Writable object page.page o (.new before) stored p bounds ∧
      st = o.onto stored bounds p.height

theorem Foresees.unique (foresees : d.Foresees page o st) (foresees' : d.Foresees page o st') : st' = st := by
  obtain ⟨object, before, stored, p, bounds, begins, writable, rfl⟩ := foresees
  obtain ⟨object', before', stored', p', bounds', begins', writable', rfl⟩ := foresees'
  cases begins.unique begins'
  cases writable.takes.written.symm.trans writable'.takes.written
  cases writable.page.symm.trans writable'.page
  cases writable.bounds.symm.trans writable'.bounds
  rfl

theorem Foresees.elsewhere (foresees : d.Foresees page o st) (pages : d'.pages = d.pages)
    (failing : d'.failing = d.failing) : d'.Foresees page o st := by
  obtain ⟨object, before, stored, p, bounds, begins, writable, rfl⟩ := foresees
  exact ⟨object, before, stored, p, bounds, failing ▸ begins, writable.elsewhere get?_put_self pages failing, rfl⟩

end Document

open Document (Makes Foresees)

variable {d d' : Document} {page : PageRef} {o : PageObject} {st : StoredObject}

theorem Content.allocate_begins {content : Content} (target : DocumentId)
    (admitted : Stamp.admits content.kind = true) :
    Ends (content.allocate target) d
      (fun object d₁ => ∃ before, content.Begins d.failing before ∧ d₁.pages = d.pages ∧ d₁.failing = d.failing ∧
        d₁.objects.get? object = some (.new before))
      (fun _ _ => ∀ before, ¬content.Begins d.failing before) := by
  cases content with
  | path segments fill stroke =>
      cases segments with
      | nil => exact ends_throw.mpr nofun
      | cons first rest =>
          by_cases works : .createPath ∈ d.failing
          · have refused : demand .createPath (.createPath first.x first.y) d = (.error (.refused .createPath), d) :=
              demand_refused (Document.perform_failing rfl works)
            apply (ends_of_eq_error (bind_error refused)).mpr
            rintro _ ⟨allowed⟩
            exact allowed works
          · apply (ends_of_eq_ok (allocatePath_eq works first rest)).mpr
            exact ⟨_, .path works, rfl, rfl, Document.get?_put_self⟩
  | image bitmap =>
      by_cases works : .createImage ∈ d.failing
      · apply (ends_of_eq_error (demand_refused (Document.perform_failing rfl works))).mpr
        rintro _ (_ | allowed)
        exact allowed works
      · apply (ends_of_eq_ok (demand_ok (Document.perform_working rfl works))).mpr
        exact ⟨_, .image works, rfl, rfl, Table.get?_insert_self ..⟩
  | text => cases admitted

theorem PageObject.create_foreseen (d : Document) (page : PageRef) (admitted : Stamp.admits o.kind = true) :
    Ends (o.create page) d (fun object d' => ∃ st, d.Foresees page o st ∧ d'.objects.get? object = some st)
      (fun _ _ => ∀ st, ¬d.Foresees page o st) := by
  apply ends_bind.mpr
  refine (Content.allocate_begins page.document admitted).mono ?_ ?_
  · rintro object d₁ ⟨before, begins, pages, failing, known⟩
    apply ends_bind.mpr
    refine ends_orUndo.mpr (update_ends.mono ?_ ?_)
    · rintro - d' ⟨before', stored, p, bounds, writable, rfl⟩
      cases known.symm.trans writable.takes.object
      refine ends_pure.mpr ⟨_, ⟨object, before, stored, p, bounds, begins, ?_, rfl⟩, Document.get?_put_self⟩
      exact writable.elsewhere Document.get?_put_self pages.symm failing.symm
    · rintro error d' half
      refine ends_ask.mpr fun st foresees => ?_
      obtain ⟨object', before', stored, p, bounds, begins', writable, rfl⟩ := foresees
      cases begins.unique begins'
      exact half.not_writable (writable.elsewhere known pages failing)
  · rintro error d₁ refused st ⟨object, before, stored, p, bounds, begins, -⟩
    exact refused before begins

theorem Document.makes_iff_foresees (admitted : Stamp.admits o.kind = true) :
    d.Makes page o st ↔ d.Foresees page o st := by
  have ends := o.create_foreseen d page admitted
  constructor
  · rintro ⟨object, d', created, known⟩
    obtain ⟨st', foresees, known'⟩ := (ends_of_eq_ok created).mp ends
    cases known.symm.trans known'
    exact foresees
  · intro foresees
    rcases created : o.create page d with ⟨error | object, d'⟩
    · exact absurd foresees ((ends_of_eq_error created).mp ends st)
    · obtain ⟨st', foresees', known⟩ := (ends_of_eq_ok created).mp ends
      cases foresees.unique foresees'
      exact ⟨object, d', created, known⟩

theorem Document.Makes.elsewhere (makes : d.Makes page o st) (admitted : Stamp.admits o.kind = true)
    (pages : d'.pages = d.pages) (failing : d'.failing = d.failing) : d'.Makes page o st :=
  (makes_iff_foresees admitted).mpr (((makes_iff_foresees admitted).mp makes).elsewhere pages failing)

end PageContent
