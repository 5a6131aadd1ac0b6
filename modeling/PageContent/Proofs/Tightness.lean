import PageContent.Proofs.FloatOrder
import PageContent.Proofs.Locality
import PageContent.Proofs.Mirror
import PageContent.Proofs.Placing

namespace PageContent

def Point.IsNumber (p : Point .page Float32) : Prop := p.x.isNaN = false ∧ p.y.isNaN = false

instance (p : Point .page Float32) : Decidable p.IsNumber := instDecidableAnd

/-- A member of a list that comes before all of it in an order. -/
structure FirstBy (before : Float32 → Float32 → Prop) (e : Float32) (l : List Float32) : Prop where
  mem : e ∈ l
  before : ∀ x ∈ l, before e x

structure Chooses (before : Float32 → Float32 → Prop) (f : Float32 → Float32 → Float32) : Prop where
  trans : ∀ {x y z}, before x y → before y z → before x z
  antisymm : ∀ {x y}, before x y → before y x → (x == y) = true
  choice : ∀ {x y}, before x x → before y y → f x y = x ∧ before x y ∨ f x y = y ∧ before y x

theorem chooses_lesser : Chooses (· ≤ ·) lesser where
  trans := FloatOrder.le_trans
  antisymm := FloatOrder.beq_of_le_of_le
  choice := by
    intro x y left right
    rw [lesser, FloatOrder.bne_self_iff.mpr left, Bool.or_false]
    by_cases less : y < x
    · rw [if_pos (decide_eq_true less)]
      exact .inr ⟨rfl, FloatOrder.le_of_lt less⟩
    · rw [if_neg (by simpa using less)]
      exact .inl ⟨rfl, FloatOrder.le_of_not_lt left right less⟩

theorem chooses_greater : Chooses (· ≥ ·) greater where
  trans above below := FloatOrder.le_trans below above
  antisymm above below := FloatOrder.beq_of_le_of_le below above
  choice := by
    intro x y left right
    rw [greater, FloatOrder.bne_self_iff.mpr left, Bool.or_false]
    by_cases less : x < y
    · rw [if_pos (decide_eq_true less)]
      exact .inr ⟨rfl, FloatOrder.le_of_lt less⟩
    · rw [if_neg (by simpa using less)]
      exact .inl ⟨rfl, FloatOrder.le_of_not_lt right left less⟩

section FirstBy

variable {before : Float32 → Float32 → Prop} {f : Float32 → Float32 → Float32} {e e' x : Float32}
  {l l' : List Float32}

theorem firstBy_singleton (number : before x x) : FirstBy before x [x] :=
  ⟨List.mem_singleton_self x, fun _ member => List.mem_singleton.mp member ▸ number⟩

theorem FirstBy.append (chooses : Chooses before f) (first : FirstBy before e l) (first' : FirstBy before e' l') :
    FirstBy before (f e e') (l ++ l') := by
  obtain ⟨choice, less⟩ | ⟨choice, less⟩ :=
    chooses.choice (first.before e first.mem) (first'.before e' first'.mem) <;> rw [choice]
  · refine ⟨List.mem_append_left l' first.mem, fun x member => ?_⟩
    rcases List.mem_append.mp member with member | member
    · exact first.before x member
    · exact chooses.trans less (first'.before x member)
  · refine ⟨List.mem_append_right l first'.mem, fun x member => ?_⟩
    rcases List.mem_append.mp member with member | member
    · exact chooses.trans less (first.before x member)
    · exact first'.before x member

theorem FirstBy.foldl (chooses : Chooses before f) (first : FirstBy before e l) {xs : List Float32}
    (numbers : ∀ x ∈ xs, before x x) : FirstBy before (xs.foldl f e) (l ++ xs) := by
  induction xs generalizing e l with
  | nil => simpa using first
  | cons x xs ih =>
      have added := first.append chooses (firstBy_singleton (numbers x List.mem_cons_self))
      simpa using ih added fun y member => numbers y (List.mem_cons_of_mem x member)

/-- A fold may start from what comes before nothing but itself, such as an infinity. -/
theorem firstBy_foldl_of_last (chooses : Chooses before f) {last : Float32} (number : before last last)
    (least : ∀ x, before last x → x = last) (some_member : l ≠ []) (numbers : ∀ x ∈ l, before x x) :
    FirstBy before (l.foldl f last) l := by
  have first := (firstBy_singleton number).foldl chooses numbers
  refine ⟨?_, fun x member => first.before x (List.mem_append_right _ member)⟩
  rcases List.mem_append.mp first.mem with seed | member
  -- Where the start is left over, all of the list is equal to it.
  · obtain ⟨x, member⟩ := List.exists_mem_of_ne_nil l some_member
    have below := first.before x (List.mem_append_right _ member)
    rw [List.mem_singleton.mp seed] at below ⊢
    rwa [least x below] at member
  · exact member

theorem FirstBy.beq (chooses : Chooses before f) (first : FirstBy before e l) (first' : FirstBy before e' l')
    (same : ∀ x, x ∈ l ↔ x ∈ l') : (e == e') = true :=
  chooses.antisymm (first.before e' ((same e').mpr first'.mem)) (first'.before e ((same e).mp first.mem))

end FirstBy

namespace Rect

/-- The rectangle is around the points, and each of its edges goes through one of them. -/
structure Tight (r : Rect .page Float32) (points : List (Point .page Float32)) : Prop where
  left : FirstBy (· ≤ ·) r.left (points.map (·.x))
  top : FirstBy (· ≥ ·) r.top (points.map (·.y))
  right : FirstBy (· ≥ ·) r.right (points.map (·.x))
  bottom : FirstBy (· ≤ ·) r.bottom (points.map (·.y))

variable {r t : Rect .page Float32} {points points' : List (Point .page Float32)}

theorem tight_ofPoint {p : Point .page Float32} (number : p.IsNumber) : Tight (.ofPoint (p.x, p.y)) [p] := by
  have x := FloatOrder.le_self_iff.mpr number.1
  have y := FloatOrder.le_self_iff.mpr number.2
  exact ⟨firstBy_singleton x, firstBy_singleton y, firstBy_singleton x, firstBy_singleton y⟩

theorem Tight.union (tight : r.Tight points) (tight' : t.Tight points') : (r.union t).Tight (points ++ points') := by
  constructor <;> rw [List.map_append]
  · exact tight.left.append chooses_lesser tight'.left
  · exact tight.top.append chooses_greater tight'.top
  · exact tight.right.append chooses_greater tight'.right
  · exact tight.bottom.append chooses_lesser tight'.bottom

theorem Tight.foldl_union {β : Type} {f : β → Rect .page Float32} {g : β → List (Point .page Float32)}
    (tight : r.Tight points) {l : List β} (each : ∀ b ∈ l, (f b).Tight (g b)) :
    ((l.map f).foldl Rect.union r).Tight (points ++ l.flatMap g) := by
  induction l generalizing r points with
  | nil => simpa using tight
  | cons b l ih =>
      have joined := tight.union (each b List.mem_cons_self)
      simpa using ih joined fun c member => each c (List.mem_cons_of_mem b member)

theorem tight_hull {β : Type} {f : β → Rect .page Float32} {g : β → List (Point .page Float32)} {l : List β}
    (each : ∀ b ∈ l, (f b).Tight (g b)) (hull : hull? (l.map f) = some r) : r.Tight (l.flatMap g) := by
  cases l with
  | nil => cases hull
  | cons b l =>
      cases hull
      exact (each b List.mem_cons_self).foldl_union fun c member => each c (List.mem_cons_of_mem b member)

theorem hull?_eq_none_iff {l : List (Rect .page Float32)} : hull? l = none ↔ l = [] := by
  cases l <;> simp [hull?]

theorem Tight.beq (tight : r.Tight points) (tight' : t.Tight points') (same : ∀ p, p ∈ points ↔ p ∈ points') :
    (r == t) = true := by
  have coordinate : ∀ (f : Point .page Float32 → Float32) x, x ∈ points.map f ↔ x ∈ points'.map f := by
    simp [same]
  have left := tight.left.beq chooses_lesser tight'.left (coordinate _)
  have top := tight.top.beq chooses_greater tight'.top (coordinate _)
  have right := tight.right.beq chooses_greater tight'.right (coordinate _)
  have bottom := tight.bottom.beq chooses_lesser tight'.bottom (coordinate _)
  have edges : (r == t) = (r.left == t.left && (r.top == t.top && (r.right == t.right && r.bottom == t.bottom))) := rfl
  rw [edges, left, top, right, bottom]
  rfl

end Rect

namespace Quad

theorem tight_bounds {q : Quad Float32} (numbers : ∀ c ∈ q.corners, c.IsNumber) : q.bounds.Tight q.corners := by
  have xs : ∀ x ∈ q.corners.map (·.x), x ≤ x :=
    List.forall_mem_map.mpr fun c member => FloatOrder.le_self_iff.mpr (numbers c member).1
  have ys : ∀ y ∈ q.corners.map (·.y), y ≤ y :=
    List.forall_mem_map.mpr fun c member => FloatOrder.le_self_iff.mpr (numbers c member).2
  have above : infinity ≤ infinity := by decide +kernel
  have below : -infinity ≤ -infinity := by decide +kernel
  constructor
  · exact firstBy_foldl_of_last chooses_lesser above (fun _ => FloatOrder.eq_of_infinity_le) nofun xs
  · exact firstBy_foldl_of_last chooses_greater below (fun _ => FloatOrder.eq_of_le_neg_infinity) nofun ys
  · exact firstBy_foldl_of_last chooses_greater below (fun _ => FloatOrder.eq_of_le_neg_infinity) nofun xs
  · exact firstBy_foldl_of_last chooses_lesser above (fun _ => FloatOrder.eq_of_infinity_le) nofun ys

theorem isZero_iff {q : Quad Float32} :
    q.isZero = true ↔ ∀ c ∈ q.corners, (c.x == 0) = true ∧ (c.y == 0) = true := by
  have each : q.isZero = (q.upperLeft == ⟨0, 0⟩ && (q.upperRight == ⟨0, 0⟩ &&
      (q.lowerLeft == ⟨0, 0⟩ && q.lowerRight == ⟨0, 0⟩))) := rfl
  have both : ∀ c : Point .page Float32, (c == ⟨0, 0⟩) = (c.x == 0 && c.y == 0) := fun _ => rfl
  simp [each, both, corners]

end Quad

/-- The points of an object where its transform takes them. -/
def StoredObject.points (o : StoredObject) : List (Point .page Float32) :=
  o.content.localPoints.map fun p => .ofPair (o.matrix.apply p.1 p.2)

/-- The points that span an object before its transform: the ends of the segments of a path, and otherwise the corners
of a box. -/
def StoredContent.Spans : StoredContent → Float32 → Float32 → Prop
  | .path segments _, x, y => ∃ s ∈ segments, x = s.x ∧ y = s.y
  | .image _, x, y | .shading, x, y => (x = 0 ∨ x = 1) ∧ (y = 0 ∨ y = 1)
  | .text _ size units _, x, y =>
    (x = 0 ∨ x = Float32.ofNat (Utf16.body units).length * size * 0.5) ∧ (y = 0 ∨ y = size)

theorem StoredContent.mem_localPoints_iff {content : StoredContent} {x y : Float32} :
    (x, y) ∈ content.localPoints ↔ content.Spans x y := by
  have box : ∀ width height : Float32, (x, y) ∈ [(0, 0), (width, 0), (0, height), (width, height)] ↔
      (x = 0 ∨ x = width) ∧ (y = 0 ∨ y = height) := by
    intro width height
    simp only [List.mem_cons, List.not_mem_nil, Prod.mk.injEq]
    tauto
  cases content with
  | path segments mode => simp [localPoints, Spans, eq_comm]
  | image | shading => exact box 1 1
  | text font size units mode => exact box _ size

theorem StoredObject.mem_points_iff {o : StoredObject} {p : Point .page Float32} :
    p ∈ o.points ↔ ∃ x y, o.content.Spans x y ∧ p = .ofPair (o.matrix.apply x y) := by
  simp [points, StoredContent.mem_localPoints_iff, eq_comm]

theorem StoredObject.tight_bounds {o : StoredObject} (some_point : o.content.localPoints ≠ [])
    (numbers : ∀ p ∈ o.points, p.IsNumber) : ∃ r, o.bounds? = some r ∧ r.Tight o.points := by
  have bounds : o.bounds? = Rect.hull? (o.points.map fun p => .ofPoint (p.x, p.y)) := by
    rw [points, List.map_map]
    rfl
  cases hull : o.bounds? with
  | none =>
      have empty := Rect.hull?_eq_none_iff.mp (bounds.symm.trans hull)
      exact absurd (by simpa [points] using empty) some_point
  | some r =>
      have tight := Rect.tight_hull (fun p member => Rect.tight_ofPoint (numbers p member)) (bounds.symm.trans hull)
      exact ⟨r, rfl, by simpa using tight⟩

def StoredAnnot.FollowsQuads (a : StoredAnnot) : Prop := a.rect = (a.setQuads a.quads).rect

theorem StoredAnnot.followsQuads_of_setQuads {a a' : StoredAnnot} {quads? : Option (List (Quad Float32))}
    (requadded : quads?.map a.setQuads = some a') : a'.FollowsQuads := by
  obtain ⟨quads, -, rfl⟩ := Option.map_eq_some_iff.mp requadded
  rfl

namespace StoredAnnot.FollowsQuads

variable {a : StoredAnnot}

theorem rect_eq_none_iff (follows : a.FollowsQuads) : a.rect = none ↔ ∀ q ∈ a.quads, q.isZero = true := by
  rw [follows, setQuads, Rect.hull?_eq_none_iff, List.map_eq_nil_iff, List.filter_eq_nil_iff]
  simp

theorem tight (follows : a.FollowsQuads) (numbers : ∀ q ∈ a.quads, ∀ c ∈ q.corners, c.IsNumber)
    {r : Rect .page Float32} (known : a.rect = some r) :
    r.Tight ((a.quads.filter (!·.isZero)).flatMap Quad.corners) := by
  refine Rect.tight_hull (fun q member => ?_) (follows.symm.trans known)
  exact Quad.tight_bounds (numbers q (List.mem_of_mem_filter member))

theorem rect_beq (follows : a.FollowsQuads) {a' : StoredAnnot} (follows' : a'.FollowsQuads)
    (numbers : ∀ q ∈ a.quads, ∀ c ∈ q.corners, c.IsNumber) (same : a'.quads.Perm a.quads) :
    (a.rect == a'.rect) = true := by
  have numbers' : ∀ q ∈ a'.quads, ∀ c ∈ q.corners, c.IsNumber := fun q member => numbers q (same.mem_iff.mp member)
  have zeros : a.rect = none ↔ a'.rect = none := by
    simp only [follows.rect_eq_none_iff, follows'.rect_eq_none_iff, same.mem_iff]
  cases known : a.rect <;> cases known' : a'.rect
  case none.none => rfl
  case some.some =>
    exact (follows.tight numbers known).beq (follows'.tight numbers' known') fun p =>
      ((same.filter _).flatMap_right _).mem_iff.symm
  all_goals simp [known, known'] at zeros

end StoredAnnot.FollowsQuads

namespace Document

def Request.placed? : Request → Option AnnotId
  | .call (.setAnnotRect annot _) => some annot
  | _ => none

def Request.requadded? : Request → Option AnnotId
  | .call (.setQuad annot _ _) | .call (.appendQuad annot _) | .call (.removeQuad annot _) => some annot
  | _ => none

/-- Since the library was empty, or since a change of the quads of the annotation, its rectangle was not set. -/
inductive LeftToQuads (annot : AnnotId) : Document → Prop
  | empty (removesQuads) : LeftToQuads annot (.empty removesQuads)
  | requad {d : Document} (reachable : d.Reachable) (request : Request) (requads : request.requadded? = some annot)
      (accepted : d.refuses request = false) : LeftToQuads annot (d.after request)
  | step {d : Document} (left : LeftToQuads annot d) (request : Request) (other : request.placed? ≠ some annot) :
      LeftToQuads annot (d.after request)

def RectFollows (annot : AnnotId) (annots : Table AnnotId StoredAnnot) : Prop :=
  ∀ a, annots.get? annot = some a → a.FollowsQuads

variable {d d' : Document} {effect : Effect} {annot named : AnnotId} {annots : Table AnnotId StoredAnnot}

theorem RectFollows.insert {a' : StoredAnnot} (follows : RectFollows annot annots)
    (now : named = annot → a'.FollowsQuads) : RectFollows annot (annots.insert named a') := by
  intro a known
  rw [Table.get?_insert] at known
  split_ifs at known with same
  · cases known
    exact now same.symm
  · exact follows a known

theorem RectFollows.erase (follows : RectFollows annot annots) : RectFollows annot (annots.erase named) := by
  intro a known
  rw [Table.get?_erase] at known
  split_ifs at known
  exact follows a known

theorem Change.rectFollows (change : d.Change effect d') (other : ∀ named, effect ≠ .annot named)
    (follows : RectFollows annot d.annots) : RectFollows annot d'.annots := by
  cases change with
  | nothing | object | content | newObject | newFont | insert | detach | destroy => exact follows
  | newDocument | newPage | settings => exact follows
  | annot named => exact absurd rfl (other named)
  | newAnnot => exact follows.insert fun _ => rfl
  | removeAnnot =>
      rw [annots_releaseAnnot]
      exact follows.erase
  | embed _ _ a known | removeEmbedded _ _ a _ known =>
      refine follows.insert fun same => ?_
      subst same
      exact follows a known

theorem rectFollows_changeAnnot {f : StoredAnnot → Option StoredAnnot} (follows : RectFollows annot d.annots)
    (keeps : ∀ a a', f a = some a' → named = annot → a.FollowsQuads → a'.FollowsQuads) :
    RectFollows annot (d.tell (d.changeAnnot named f)).2.annots := by
  cases changed : d.changeAnnot named f with
  | none => exact follows
  | some d' =>
      obtain ⟨a, a', known, next, rfl⟩ := changeAnnot_eq_some.mp changed
      refine follows.insert fun same => keeps a a' next same ?_
      subst same
      exact follows a known

theorem rectFollows_of_changeQuads {f : List (Quad Float32) → Option (List (Quad Float32))}
    (changed : d.changeQuads annot f = some d') : RectFollows annot d'.annots := by
  obtain ⟨a, a', -, requadded, rfl⟩ := changeAnnot_eq_some.mp changed
  intro a'' known
  cases (Table.get?_insert_self ..).symm.trans known
  exact StoredAnnot.followsQuads_of_setQuads requadded

theorem run_rectFollows {α : Type} {call : Call α} (follows : RectFollows annot d.annots)
    (other : Request.placed? (.call call) ≠ some annot) : RectFollows annot (d.run call).2.annots := by
  cases call with
  | setAnnotRect named =>
      exact rectFollows_changeAnnot follows fun _ _ _ same => absurd (congrArg some same) other
  | setQuad | appendQuad | removeQuad =>
      exact rectFollows_changeAnnot follows fun _ _ next _ _ => StoredAnnot.followsQuads_of_setQuads next
  | setAnnotString =>
      refine rectFollows_changeAnnot follows fun a a' next _ follows => ?_
      cases next
      exact follows
  | setAnnotColor named role color =>
      refine rectFollows_changeAnnot follows fun a a' next _ follows => ?_
      cases role <;> cases next <;> exact follows
  | _ => exact (run_change d _).rectFollows (fun _ same => by cases same) follows

theorem after_rectFollows {request : Request} (follows : RectFollows annot d.annots)
    (other : request.placed? ≠ some annot) : RectFollows annot (d.after request).annots := by
  cases request with
  | call call =>
      change RectFollows annot (perform call d).2.annots
      rw [perform]
      split
      case isTrue => exact follows
      case isFalse => exact run_rectFollows follows other
  | clearString named key =>
      refine rectFollows_changeAnnot follows fun a a' next _ follows => ?_
      split_ifs at next
      cases next
      exact follows
  | _ => exact (after_change d _).rectFollows (fun _ same => by cases same) follows

theorem after_requad {request : Request} (requads : request.requadded? = some annot)
    (accepted : d.refuses request = false) : RectFollows annot (d.after request).annots := by
  unfold Request.requadded? at requads
  split at requads <;> cases requads <;> exact rectFollows_of_changeQuads (eq_some_of_told accepted)

theorem LeftToQuads.rectFollows (left : LeftToQuads annot d) : RectFollows annot d.annots := by
  induction left with
  | empty => exact nofun
  | requad _ request requads accepted => exact after_requad requads accepted
  | step left request other ih => exact after_rectFollows ih other

theorem Reachable.after (reachable : d.Reachable) (request : Request) : (d.after request).Reachable := by
  obtain ⟨ids, step⟩ := after_step d request
  exact reachable.step step

theorem perform_annotRect {a : StoredAnnot} (known : d.annots.get? annot = some a) :
    (Library.perform (.annotRect annot) d).1 = a.rect := by
  rw [perform_unfailing rfl, run, annot?, known, Option.bind_some]

/-- The bounds of an object are tight around the points that span it, where its transform takes them, if these are
numbers. The rectangle of an annotation, if it is left to the quads, is none when all of them are zero and else tight
around the corners of the others, in whatever order and by whatever steps they were written. -/
theorem bounds_are_tight :
    (∀ (o : StoredObject) p, p ∈ o.points ↔ ∃ x y, o.content.Spans x y ∧ p = .ofPair (o.matrix.apply x y)) ∧
    (∀ d : Document, d.Reachable → ∀ object o, d.objects.get? object = some o → .getBounds ∉ d.failing →
      (∀ p ∈ o.points, p.IsNumber) →
      ∃ r, (Library.perform (.bounds object) d).1 = some r ∧ r.Tight o.points) ∧
    ∀ (d : Document) annot a, LeftToQuads annot d → d.annots.get? annot = some a →
      ((Library.perform (.annotRect annot) d).1 = none ↔
        ∀ q ∈ a.quads, ∀ c ∈ q.corners, (c.x == 0) = true ∧ (c.y == 0) = true) ∧
      ((∀ q ∈ a.quads, ∀ c ∈ q.corners, c.IsNumber) →
        (∀ r, (Library.perform (.annotRect annot) d).1 = some r →
          r.Tight ((a.quads.filter (!·.isZero)).flatMap Quad.corners)) ∧
        ∀ (d' : Document) annot' a', LeftToQuads annot' d' → d'.annots.get? annot' = some a' →
          a'.quads.Perm a.quads →
          ((Library.perform (.annotRect annot) d).1 == (Library.perform (.annotRect annot') d').1) = true) := by
  refine ⟨fun _ _ => StoredObject.mem_points_iff, fun d reachable object o known measures numbers => ?_,
    fun d annot a left known => ?_⟩
  · rw [perform_working rfl measures, run, object?, known, Option.bind_some]
    exact StoredObject.tight_bounds (reachable.sound.contents object o known).localPoints_ne_nil numbers
  · have follows := left.rectFollows a known
    rw [perform_annotRect known]
    refine ⟨?_, fun numbers => ⟨fun r told => follows.tight numbers told, fun d' annot' a' left' known' same => ?_⟩⟩
    · simp only [follows.rect_eq_none_iff, Quad.isZero_iff]
    · rw [perform_annotRect known']
      exact follows.rect_beq (left'.rectFollows a' known') numbers same

theorem bounds_of_turned_path_and_of_quads :
    ∃ (d : Document) (o : StoredObject) (q z : Quad Float32) (r t : Rect .page Float32),
      d.Reachable ∧ d.objects.get? ⟨3⟩ = some o ∧ r.Tight o.points ∧
      (Library.perform (.bounds ⟨3⟩) d).1 = some r ∧
      LeftToQuads ⟨4⟩ d ∧ (d.annots.get? ⟨4⟩).map (·.quads) = some [q, z] ∧ z.isZero = true ∧ t.Tight q.corners ∧
      (Library.perform (.annotRect ⟨4⟩) d).1 = some t := by
  let q : Quad Float32 := ⟨⟨1, 5⟩, ⟨6, 7⟩, ⟨2, 0⟩, ⟨8, 3⟩⟩
  let z : Quad Float32 := ⟨⟨-0, 0⟩, ⟨0, -0⟩, ⟨0, 0⟩, ⟨-0, -0⟩⟩
  let o : StoredObject :=
    ⟨.path [⟨.moveTo, 1, 2, false⟩, ⟨.lineTo, 3, -4, false⟩] ⟨.none, false⟩, ⟨0, 1, -1, 0, 10, 20⟩, .black, .black, 1⟩
  have page := ((reachable_empty false).after .createDocument).after (.addPage 792)
  have path := (page.after (.call (.createPath 1 2))).after (.call (.addSegment ⟨3⟩ .line 3 (-4)))
  have turned := path.after (.call (.setMatrix ⟨3⟩ ⟨0, 1, -1, 0, 10, 20⟩))
  have placed := (turned.after (.call (.createAnnot ⟨2⟩ .highlight))).after (.call (.setAnnotRect ⟨4⟩ ⟨0, 9, 9, 0⟩))
  have covered := (placed.after (.call (.appendQuad ⟨4⟩ q))).after (.call (.appendQuad ⟨4⟩ q))
  have reachable := covered.after (.call (.setQuad ⟨4⟩ 1 z))
  have left : LeftToQuads ⟨4⟩ _ := .requad covered (.call (.setQuad ⟨4⟩ 1 z)) rfl rfl
  obtain ⟨r, measured, tight⟩ := bounds_are_tight.2.1 _ reachable ⟨3⟩ o rfl nofun (by decide +kernel)
  obtain ⟨-, enclosed⟩ := bounds_are_tight.2.2 _ ⟨4⟩ _ left rfl
  obtain ⟨enclosed, -⟩ := enclosed (by decide +kernel)
  have around : Rect.Tight ⟨1, 7, 8, 0⟩ (([q, z].filter (!·.isZero)).flatMap Quad.corners) :=
    enclosed _ (by decide +kernel)
  have kept : [q, z].filter (!·.isZero) = [q] := by decide +kernel
  rw [kept] at around
  exact ⟨_, o, q, z, r, ⟨1, 7, 8, 0⟩, reachable, rfl, tight, measured, left, rfl, by decide +kernel, around,
    by decide +kernel⟩

end Document

end PageContent
