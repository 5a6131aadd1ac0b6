import PageContent.Proofs.Rollback

namespace PageContent

/-- The answer says that the call was refused. Nothing is told of the destruction and the transform of an object. -/
def Call.denies : {α : Type} → Call α → α → Bool
  | _, .insertObject .., done | _, .detachObject .., done | _, .generateContent _, done => !done
  | _, .setMatrix .., done | _, .setColor .., done | _, .setStrokeWidth .., done => !done
  | _, .addSegment .., done | _, .closePath _, done | _, .setDrawMode .., done => !done
  | _, .setBitmap .., done | _, .setText .., done | _, .setRenderMode .., done => !done
  | _, .removeAnnot .., done | _, .embed .., done | _, .removeEmbedded .., done => !done
  | _, .setAnnotRect .., done | _, .setAnnotString .., done | _, .setAnnotColor .., done => !done
  | _, .setQuad .., done | _, .appendQuad .., done | _, .removeQuad .., done => !done
  | _, .createPath .., made | _, .createImage _, made | _, .createText .., made => made.isNone
  | _, .loadFont .., made => made.isNone
  | _, .createAnnot .., made => made.isNone
  | _, _, _ => false

inductive HandleList
  | objectsOn (page : PageId)
  | annotsOn (page : PageId)
  | objectsIn (annot : AnnotId)

namespace Effect

def list? : Effect → Option HandleList
  | .insert page _ | .detach page _ => some (.objectsOn page)
  | .newAnnot page | .removeAnnot page _ => some (.annotsOn page)
  | .embed holder _ | .removeEmbedded holder _ => some (.objectsIn holder)
  | _ => none

/-- One handle is appended, or one is taken out and the others close up; a new one is the next after those issued. -/
inductive Relists (issued : Nat) : Effect → List Nat → List Nat → Prop
  | insert (page) (object : ObjectId) (l) : Relists issued (.insert page object) l (l ++ [object.raw])
  | embed (holder) (object : ObjectId) (l) : Relists issued (.embed holder object) l (l ++ [object.raw])
  | newAnnot (page) (l) : Relists issued (.newAnnot page) l (l ++ [issued + 1])
  | detach (page) (object : ObjectId) (left right) (first : object.raw ∉ left) :
      Relists issued (.detach page object) (left ++ object.raw :: right) (left ++ right)
  | removeAnnot (page) (handle) (left right) :
      Relists issued (.removeAnnot page left.length) (left ++ handle :: right) (left ++ right)
  | removeEmbedded (holder) (handle) (left right) :
      Relists issued (.removeEmbedded holder left.length) (left ++ handle :: right) (left ++ right)

theorem Relists.ne {issued : Nat} {effect : Effect} {l l' : List Nat} (relists : Relists issued effect l l') :
    l ≠ l' := by
  intro same
  have lengths := congrArg List.length same
  cases relists <;> simp at lengths

end Effect

namespace Document

def handles (d : Document) : HandleList → List Nat
  | .objectsOn page => (d.pages.get? page).elim [] (·.objects.map (·.raw))
  | .annotsOn page => (d.pages.get? page).elim [] (·.annots.map (·.raw))
  | .objectsIn annot => (d.annots.get? annot).elim [] (·.objects.map (·.raw))

def released? (d : Document) : Effect → Option HandleList
  | .removeAnnot page index => ((d.pages.get? page).bind (·.annots[index]?)).map .objectsIn
  | _ => none

/-- What a document can be asked for: a call, or what no call of a library stands for. -/
inductive Request : Type 1
  | call {α : Type} (call : Call α)
  | createDocument
  | addPage (height : Float32)
  | createShading
  | addBezier (object : ObjectId) (points : List (Float32 × Float32))
  | replaceBitmap (object : ObjectId) (bitmap : Option RawBitmap)
  | clearString (annot : AnnotId) (key : String)
  | failOn (point : FailPoint)
  | clearFailures
  | allowQuadRemoval (removesQuads : Bool)

def Request.effect : Request → Effect
  | .call asked => asked.effect
  | .createShading => .newObject
  | .addBezier object _ | .replaceBitmap object _ => .object object
  | .clearString annot _ => .annot annot
  | .createDocument | .addPage _ | .failOn _ | .clearFailures | .allowQuadRemoval _ => .setup

def refuses (d : Document) : Request → Bool
  | .call call => call.denies (perform call d).1
  | .addBezier object points => !(d.tell (d.addBezier object points)).1
  | .replaceBitmap object bitmap => !(d.tell (d.replaceBitmap object bitmap)).1
  | .clearString annot key => !(d.tell (d.clearString annot key)).1
  | _ => false

def after (d : Document) : Request → Document
  | .call call => (perform call d).2
  | .createDocument => d.createDocument.2
  | .addPage height => (d.addPage height).2
  | .createShading => d.createShading.2
  | .addBezier object points => (d.tell (d.addBezier object points)).2
  | .replaceBitmap object bitmap => (d.tell (d.replaceBitmap object bitmap)).2
  | .clearString annot key => (d.tell (d.clearString annot key)).2
  | .failOn point => d.failOn point
  | .clearFailures => d.clearFailures
  | .allowQuadRemoval removesQuads => { d with removesQuads }

/-- What an object is changed to is of the same kind, and all else is as it was. -/
structure OnlyObject (object : ObjectId) (d d' : Document) : Prop where
  rest : d' = { d with objects := d'.objects }
  others : ∀ other ≠ object, d'.objects.get? other = d.objects.get? other
  kind : (d'.objects.get? object).map (·.content.kind) = (d.objects.get? object).map (·.content.kind)

structure OnlyAnnot (annot : AnnotId) (d d' : Document) : Prop where
  rest : d' = { d with annots := d'.annots }
  others : ∀ other ≠ annot, d'.annots.get? other = d.annots.get? other
  kind : (d'.annots.get? annot).map (·.kind) = (d.annots.get? annot).map (·.kind)

variable {d d' : Document} {effect : Effect}

theorem eq_refused_of_denies {α : Type} {call : Call α} {answer : α} (denied : call.denies answer = true) :
    answer = call.refused ∧ call.method ≠ .destroyObject ∧ call.method ≠ .transform := by
  cases call <;> simp_all [Call.denies, Call.refused, Call.method]

theorem perform_refused {α : Type} {call : Call α} (denied : call.denies (perform call d).1 = true) :
    (perform call d).2 = d := by
  rw [perform] at denied ⊢
  split
  case isTrue => rfl
  case isFalse works =>
    rw [if_neg works] at denied
    obtain ⟨answered, destroys, transforms⟩ := eq_refused_of_denies denied
    exact run_refused d call destroys transforms answered

theorem after_refused {request : Request} (refused : d.refuses request = true) : d.after request = d := by
  cases request with
  | call call => exact perform_refused refused
  | addBezier | replaceBitmap | clearString => exact tell_false (by simpa [refuses] using refused)
  | createDocument | addPage | createShading | failOn | clearFailures | allowQuadRemoval => cases refused

theorem after_step (d : Document) (request : Request) : ∃ ids, Step d ids (d.after request) := by
  cases request with
  | call call => exact ⟨_, .call call⟩
  | createDocument => exact ⟨_, .createDocument⟩
  | addPage height => exact ⟨_, .addPage height⟩
  | createShading => exact ⟨_, .createShading⟩
  | addBezier object points => exact ⟨_, .addBezier object points⟩
  | replaceBitmap object bitmap => exact ⟨_, .replaceBitmap object bitmap⟩
  | clearString annot key => exact ⟨_, .clearString annot key⟩
  | failOn point => exact ⟨_, .failOn point⟩
  | clearFailures => exact ⟨_, .clearFailures⟩
  | allowQuadRemoval removesQuads => exact ⟨_, .allowQuadRemoval removesQuads⟩

theorem after_change (d : Document) (request : Request) : d.Change request.effect (d.after request) := by
  cases request with
  | call call => exact perform_change d call
  | createDocument => exact .newDocument
  | addPage height => exact .newPage height
  | createShading => exact .newObject .shading trivial
  | addBezier object points => exact change_addBezier d object points
  | replaceBitmap object bitmap => exact change_replaceBitmap d object bitmap
  | clearString annot key => exact change_clearString d annot key
  | failOn | clearFailures | allowQuadRemoval => exact .settings _ _

theorem Change.onlyObject {object : ObjectId} (change : d.Change (.object object) d') : OnlyObject object d d' := by
  cases change with
  | nothing => exact ⟨rfl, fun _ _ => rfl, rfl⟩
  | object _ o o' known kind =>
      refine ⟨rfl, fun other differ => Table.get?_insert_of_ne o' differ, ?_⟩
      simp only [Table.get?_insert_self, known, Option.map_some, kind]

theorem Change.onlyAnnot {annot : AnnotId} (change : d.Change (.annot annot) d') : OnlyAnnot annot d d' := by
  cases change with
  | nothing => exact ⟨rfl, fun _ _ => rfl, rfl⟩
  | annot _ a a' known kind =>
      refine ⟨rfl, fun other differ => Table.get?_insert_of_ne a' differ, ?_⟩
      simp only [Table.get?_insert_self, known, Option.map_some, kind]

theorem handles_setPage {page : PageId} {p : Page} {list : HandleList} (known : d.pages.get? page = some p) (p' : Page)
    (objects : list = .objectsOn page → p'.objects = p.objects)
    (annots : list = .annotsOn page → p'.annots = p.annots) :
    handles { d with pages := d.pages.insert page p' } list = d.handles list := by
  cases list with
  | objectsIn => rfl
  | objectsOn other | annotsOn other =>
      by_cases same : other = page
      · subst same
        simp_all [handles]
      · simp [handles, Table.get?_insert_of_ne p' same]

theorem handles_setAnnot {annot : AnnotId} {a : StoredAnnot} {list : HandleList}
    (known : d.annots.get? annot = some a) (a' : StoredAnnot) (objects : list = .objectsIn annot → a'.objects = a.objects) :
    handles { d with annots := d.annots.insert annot a' } list = d.handles list := by
  cases list with
  | objectsOn | annotsOn => rfl
  | objectsIn other =>
      by_cases same : other = annot
      · subst same
        simp_all [handles]
      · simp [handles, Table.get?_insert_of_ne a' same]

theorem handles_releaseAnnot {annot : AnnotId} {list : HandleList} (kept : list ≠ .objectsIn annot) :
    (d.releaseAnnot annot).handles list = d.handles list := by
  cases list with
  | objectsOn | annotsOn => simp only [handles, pages_releaseAnnot]
  | objectsIn other =>
      have differ : other ≠ annot := fun same => kept (congrArg _ same)
      simp only [handles, annots_releaseAnnot, Table.get?_erase, if_neg differ]

theorem handles_newAnnot (numbered : d.Numbered) (kind : AnnotKind) (list : HandleList) :
    handles { d with
      issued := d.issued + 1
      annots := d.annots.insert ⟨d.issued + 1⟩ (.new kind) } list = d.handles list := by
  cases list with
  | objectsOn | annotsOn => rfl
  | objectsIn other =>
      -- The list of the new annotation is empty, and so was that of the number before it was issued.
      by_cases same : other = ⟨d.issued + 1⟩
      · subst same
        simp [handles, Table.get?_eq_none_iff.mpr numbered.annot_fresh, StoredAnnot.new]
      · simp [handles, Table.get?_insert_of_ne _ same]

theorem handles_addPage (numbered : d.Numbered) (height : Float32) (list : HandleList) :
    (d.addPage height).2.handles list = d.handles list := by
  cases list with
  | objectsIn => rfl
  | objectsOn other | annotsOn other =>
      by_cases same : other = ⟨d.issued + 1⟩
      · subst same
        simp [handles, addPage, Table.get?_eq_none_iff.mpr numbered.page_fresh]
      · simp [handles, addPage, Table.get?_insert_of_ne _ same]

theorem Change.handles_eq (change : d.Change effect d') (numbered : d.Numbered) {list : HandleList}
    (other : effect.list? ≠ some list) (kept : d.released? effect ≠ some list) : d'.handles list = d.handles list := by
  have differ : ∀ named, effect.list? = some named → list ≠ named := by
    rintro named found rfl
    exact other found
  cases change with
  | nothing | object | newObject | newFont | destroy | newDocument | settings => rfl
  | newPage height => exact handles_addPage numbered height list
  | annot annot a a' known kind objects => exact handles_setAnnot known a' fun _ => objects
  | content page p known => exact handles_setPage known _ (fun _ => rfl) fun _ => rfl
  | insert page object p known | detach page object p known =>
      exact handles_setPage known _ (fun same => absurd same (differ _ rfl)) fun _ => rfl
  | embed annot object a known => exact handles_setAnnot known _ fun same => absurd same (differ _ rfl)
  | removeEmbedded annot index a object known =>
      exact handles_setAnnot known { a with objects := a.objects.eraseIdx index }
        fun same => absurd same (differ _ rfl)
  | newAnnot page kind p known =>
      refine .trans ?_ (handles_newAnnot numbered kind list)
      exact handles_setPage (d := { d with
        issued := d.issued + 1
        annots := d.annots.insert ⟨d.issued + 1⟩ (.new kind) }) known
        { p with annots := p.annots ++ [⟨d.issued + 1⟩] } (fun _ => rfl) fun same => absurd same (differ _ rfl)
  | removeAnnot page index p annot known listed =>
      have released : d.released? (.removeAnnot page index) = some (.objectsIn annot) := by
        simp [released?, known, listed]
      rw [handles_releaseAnnot fun same => kept (released.trans (congrArg some same.symm))]
      exact handles_setPage known _ (fun _ => rfl) fun same => absurd same (differ _ rfl)

theorem handles_objectsOn {page : PageId} {p : Page} (known : d.pages.get? page = some p) :
    d.handles (.objectsOn page) = p.objects.map (·.raw) := by
  rw [handles, known]
  rfl

theorem handles_annotsOn {page : PageId} {p : Page} (known : d.pages.get? page = some p) :
    d.handles (.annotsOn page) = p.annots.map (·.raw) := by
  rw [handles, known]
  rfl

theorem handles_objectsIn {annot : AnnotId} {a : StoredAnnot} (known : d.annots.get? annot = some a) :
    d.handles (.objectsIn annot) = a.objects.map (·.raw) := by
  rw [handles, known]
  rfl

theorem exists_eraseIdx_eq {β : Type} {l : List β} {index : Nat} {x : β} (found : l[index]? = some x) :
    ∃ left right, left.length = index ∧ l = left ++ x :: right ∧ l.eraseIdx index = left ++ right := by
  obtain ⟨inside, rfl⟩ := List.getElem?_eq_some_iff.mp found
  refine ⟨l.take index, l.drop (index + 1), List.length_take_of_le inside.le, ?_,
    List.eraseIdx_eq_take_drop_succ l index⟩
  rw [← List.drop_eq_getElem_cons inside, List.take_append_drop]

theorem relists_insertObject {page : PageId} {object : ObjectId} (inserted : d.insertObject page object = some d') :
    Effect.Relists d.issued (.insert page object) (d.handles (.objectsOn page)) (d'.handles (.objectsOn page)) := by
  obtain ⟨-, -, p, known, rfl⟩ := insertObject_eq_some.mp inserted
  rw [handles_objectsOn known, handles_objectsOn (Table.get?_insert_self ..), List.map_append]
  exact .insert page object _

theorem relists_embedObject {annot : AnnotId} {object : ObjectId} (embedded : d.embedObject annot object = some d') :
    Effect.Relists d.issued (.embed annot object) (d.handles (.objectsIn annot)) (d'.handles (.objectsIn annot)) := by
  obtain ⟨-, -, a, known, rfl⟩ := embedObject_eq_some.mp embedded
  rw [handles_objectsIn known, handles_objectsIn (Table.get?_insert_self ..), List.map_append]
  exact .embed annot object _

theorem relists_createAnnot {page : PageId} {kind : AnnotKind} {annot : AnnotId}
    (created : d.createAnnot page kind = some (annot, d')) :
    Effect.Relists d.issued (.newAnnot page) (d.handles (.annotsOn page)) (d'.handles (.annotsOn page)) := by
  obtain ⟨-, p, known, rfl⟩ := createAnnot_eq_some.mp created
  rw [handles_annotsOn known, handles_annotsOn (Table.get?_insert_self ..), List.map_append]
  exact .newAnnot page _

theorem relists_detachObject {page : PageId} {object : ObjectId} (detached : d.detachObject page object = some d') :
    Effect.Relists d.issued (.detach page object) (d.handles (.objectsOn page)) (d'.handles (.objectsOn page)) := by
  obtain ⟨p, known, held, rfl⟩ := detachObject_eq_some.mp detached
  obtain ⟨left, right, absent, split, erased⟩ := List.exists_erase_eq held
  have injective : Function.Injective ObjectId.raw := fun ⟨_⟩ ⟨_⟩ same => congrArg ObjectId.mk same
  have first : object.raw ∉ left.map (·.raw) := by rwa [List.mem_map_of_injective injective]
  rw [handles_objectsOn known, handles_objectsOn (Table.get?_insert_self ..), erased, split, List.map_append,
    List.map_append]
  exact .detach page object _ _ first

theorem relists_removeAnnot {page : PageId} {index : Nat} (removed : d.removeAnnot page index = some d') :
    Effect.Relists d.issued (.removeAnnot page index) (d.handles (.annotsOn page)) (d'.handles (.annotsOn page)) := by
  obtain ⟨p, annot, known, listed, rfl⟩ := removeAnnot_eq_some.mp removed
  obtain ⟨left, right, length, split, erased⟩ := exists_eraseIdx_eq listed
  have kept : HandleList.annotsOn page ≠ .objectsIn annot := nofun
  rw [handles_releaseAnnot kept, handles_annotsOn known, handles_annotsOn (Table.get?_insert_self ..), erased, split,
    List.map_append, List.map_append, ← length, ← List.length_map]
  exact .removeAnnot page _ _ _

theorem relists_removeEmbedded {annot : AnnotId} {index : Nat} (removed : d.removeEmbedded annot index = some d') :
    Effect.Relists d.issued (.removeEmbedded annot index) (d.handles (.objectsIn annot))
      (d'.handles (.objectsIn annot)) := by
  obtain ⟨a, object, known, held, rfl⟩ := removeEmbedded_eq_some.mp removed
  obtain ⟨left, right, length, split, erased⟩ := exists_eraseIdx_eq held
  rw [handles_objectsIn known, handles_objectsIn (Table.get?_insert_self ..), erased, split, List.map_append,
    List.map_append, ← length, ← List.length_map]
  exact .removeEmbedded annot _ _ _

theorem eq_some_of_told {result : Option Document} (accepted : (!(d.tell result).1) = false) :
    result = some (d.tell result).2 := by
  cases result with
  | none => cases accepted
  | some d' => rfl

theorem run_relists {α : Type} {call : Call α} (accepted : call.denies (d.run call).1 = false) {list : HandleList}
    (named : call.effect.list? = some list) :
    call.effect.Relists d.issued (d.handles list) ((d.run call).2.handles list) := by
  cases call with
  | insertObject =>
      cases named
      exact relists_insertObject (eq_some_of_told accepted)
  | detachObject =>
      cases named
      exact relists_detachObject (eq_some_of_told accepted)
  | removeAnnot =>
      cases named
      exact relists_removeAnnot (eq_some_of_told accepted)
  | embed =>
      cases named
      exact relists_embedObject (eq_some_of_told accepted)
  | removeEmbedded =>
      cases named
      exact relists_removeEmbedded (eq_some_of_told accepted)
  | createAnnot page kind =>
      cases named
      cases created : d.createAnnot page kind with
      | none => simp [run, Call.denies, issue, created] at accepted
      | some made =>
          have after : (d.run (.createAnnot page kind)).2 = made.2 := by simp [run, issue, created]
          rw [after]
          exact relists_createAnnot created
  | _ => cases named

theorem denies_refused {α : Type} {call : Call α} {list : HandleList} (named : call.effect.list? = some list) :
    call.denies call.refused = true := by
  cases call <;> first | rfl | cases named

theorem after_relists {request : Request} (accepted : d.refuses request = false) {list : HandleList}
    (named : request.effect.list? = some list) :
    request.effect.Relists d.issued (d.handles list) ((d.after request).handles list) := by
  cases request with
  | call call =>
      change call.denies (perform call d).1 = false at accepted
      change call.effect.Relists d.issued (d.handles list) ((perform call d).2.handles list)
      rw [perform] at accepted ⊢
      split
      case isTrue fails =>
        rw [if_pos fails, denies_refused named] at accepted
        cases accepted
      case isFalse works =>
        rw [if_neg works] at accepted
        exact run_relists accepted named
  | _ => cases named

theorem Change.handles_released (change : d.Change effect d') (changed : d' ≠ d) {list : HandleList}
    (released : d.released? effect = some list) : d'.handles list = [] := by
  cases change with
  | nothing => exact absurd rfl changed
  | removeAnnot page index p annot known listed =>
      simp only [released?, known, listed, Option.bind_some, Option.map_some, Option.some.injEq] at released
      subst released
      simp [handles, annots_releaseAnnot, Table.get?_erase]
  | _ => cases released

theorem after_released {request : Request} (accepted : d.refuses request = false) {list : HandleList}
    (released : d.released? request.effect = some list) : (d.after request).handles list = [] := by
  refine (after_change d request).handles_released (fun same => ?_) released
  have named : ∃ page index, request.effect = .removeAnnot page index := by
    cases effect : request.effect <;> simp_all [released?]
  obtain ⟨page, index, named⟩ := named
  have moved := after_relists accepted (by rw [named]; rfl : request.effect.list? = some (.annotsOn page))
  rw [same] at moved
  exact moved.ne rfl

/-- A request that is refused changes nothing. One on an object or on an annotation changes no other, and not its
kind. Of the lists of handles one is changed by each request that is for it, by a single handle, and none by any
other, but that an annotation which is removed takes its own list along. -/
theorem requests_are_refused_or_local (reachable : d.Reachable) (request : Request) :
    (d.refuses request = true ∨ request.effect = .nothing → d.after request = d) ∧
    (∀ object, request.effect = .object object → OnlyObject object d (d.after request)) ∧
    (∀ annot, request.effect = .annot annot → OnlyAnnot annot d (d.after request)) ∧
    (∀ list, request.effect.list? ≠ some list → d.released? request.effect ≠ some list →
      (d.after request).handles list = d.handles list) ∧
    (d.refuses request = false →
      (∀ list, request.effect.list? = some list →
        request.effect.Relists d.issued (d.handles list) ((d.after request).handles list)) ∧
      ∀ list, d.released? request.effect = some list → (d.after request).handles list = []) := by
  have change := after_change d request
  refine ⟨?_, fun object named => ?_, fun annot named => ?_, fun list other kept => ?_, fun accepted => ?_⟩
  · rintro (refused | reads)
    · exact after_refused refused
    · rw [reads] at change
      exact change.eq_of_nothing
  · rw [named] at change
    exact change.onlyObject
  · rw [named] at change
    exact change.onlyAnnot
  · exact change.handles_eq reachable.sound.toNumbered other kept
  · exact ⟨fun list => after_relists accepted, fun list => after_released accepted⟩

theorem removed_annot_takes_its_list_along :
    ∃ d : Document, d.Reachable ∧ d.refuses (.call (.removeAnnot ⟨2⟩ 0)) = false ∧
      Effect.Relists d.issued (.removeAnnot ⟨2⟩ 0) [3, 5] [5] ∧ d.handles (.objectsIn ⟨3⟩) = [4] ∧
      (d.after (.call (.removeAnnot ⟨2⟩ 0))).handles (.objectsIn ⟨3⟩) = [] := by
  have page := ((reachable_empty false).step .createDocument).step (.addPage 792)
  have path := (page.step (.call (.createAnnot ⟨2⟩ .stamp))).step (.call (.createPath 0 0))
  have reachable := (path.step (.call (.embed ⟨3⟩ ⟨4⟩))).step (.call (.createAnnot ⟨2⟩ .ink))
  obtain ⟨-, -, -, -, accepted⟩ := requests_are_refused_or_local reachable (.call (.removeAnnot ⟨2⟩ 0))
  obtain ⟨moved, gone⟩ := accepted rfl
  exact ⟨_, reachable, rfl, moved (.annotsOn ⟨2⟩) rfl, rfl, gone (.objectsIn ⟨3⟩) rfl⟩

end Document

end PageContent
