import Mathlib.Data.List.Induction
import PageContent.Proofs.Reading

namespace PageContent

namespace Document

variable {d d' : Document} {annot : AnnotId} {a : StoredAnnot} {quads quads' kept old : List (Quad Float32)}

/-- The document after some work on the quads of an annotation, whose rectangle may have followed them. -/
def Requads (d : Document) (annot : AnnotId) (a : StoredAnnot) (quads : List (Quad Float32)) (d' : Document) :
    Prop :=
  ∃ rect, d' = d.putAnnot annot { a with quads, rect }

theorem Requads.start (known : d.annots.get? annot = some a) : d.Requads annot a a.quads d :=
  ⟨a.rect, (putAnnot_self known).symm⟩

theorem Requads.removesQuads (now : d.Requads annot a quads d') : d'.removesQuads = d.removesQuads := by
  obtain ⟨rect, rfl⟩ := now
  rfl

theorem Requads.step {operation : Operation} {call : Call Bool}
    {f : List (Quad Float32) → Option (List (Quad Float32))} (now : d.Requads annot a quads d')
    (never : call.failPoint? = none) (runs : d'.run call = d'.tell (d'.changeQuads annot f))
    (next : f quads = some quads') :
    Ends (insist operation call) d' (fun _ => d.Requads annot a quads') fun _ _ => False := by
  obtain ⟨rect, rfl⟩ := now
  have performed := (perform_unfailing never (d.putAnnot annot { a with quads, rect })).trans runs
  apply (ends_of_eq_ok (insist_changeAnnot performed get?_putAnnot_self (congrArg (Option.map _) next))).mpr
  exact ⟨_, putAnnot_putAnnot⟩

theorem Requads.overwrite {β : Type} {operation : Operation} (place : β → Nat) (quad : β → Quad Float32)
    {l : List β} (now : d.Requads annot a (kept ++ old) d') (room : l.length ≤ old.length)
    (places : l.map place = List.range' kept.length l.length) :
    Ends (l.forM fun x => insist operation (.setQuad annot (place x) (quad x))) d'
      (fun _ => d.Requads annot a (kept ++ l.map quad ++ old.drop l.length)) fun _ _ => False := by
  induction l generalizing kept old d' with
  | nil => exact ends_pure.mpr (by simpa using now)
  | cons x l ih =>
      cases old with
      | nil => simp at room
      | cons first old =>
          obtain ⟨here, after⟩ : place x = kept.length ∧ l.map place = List.range' (kept.length + 1) l.length := by
            simpa [List.range'_succ] using places
          have written : (kept ++ first :: old).set (place x) (quad x) = kept ++ [quad x] ++ old := by
            simp [here]
          apply ends_bind.mpr
          refine (now.step rfl rfl (if_pos (by simp [here]))).mono (fun _ d'' next => ?_) fun _ _ => id
          rw [written] at next
          simpa using ih next (by simpa using room) (by simpa using after)

theorem Requads.append {operation : Operation} {new : List (Quad Float32)} (now : d.Requads annot a quads d') :
    Ends (new.forM fun quad => insist operation (.appendQuad annot quad)) d'
      (fun _ => d.Requads annot a (quads ++ new)) fun _ _ => False := by
  induction new generalizing quads d' with
  | nil => exact ends_pure.mpr (by simpa using now)
  | cons quad new ih =>
      have appended : Ends (insist operation (.appendQuad annot quad)) d'
          (fun _ => d.Requads annot a (quads ++ [quad])) fun _ _ => False :=
        now.step rfl rfl rfl
      apply ends_bind.mpr
      refine appended.mono (fun _ d'' next => ?_) fun _ _ => id
      simpa using ih next

theorem Requads.removeLast {operation : Operation} (now : d.Requads annot a (kept ++ old) d')
    (removes : d.removesQuads = true) :
    Ends ((List.range' kept.length old.length).reverse.forM fun index =>
        insist operation (.removeQuad annot index)) d'
      (fun _ => d.Requads annot a kept) fun _ _ => False := by
  induction old using List.reverseRecOn generalizing d' with
  | nil => exact ends_pure.mpr (by simpa using now)
  | append_singleton rest last ih =>
      have places : (List.range' kept.length (rest ++ [last]).length).reverse =
          (kept.length + rest.length) :: (List.range' kept.length rest.length).reverse := by
        rw [List.length_append, List.length_singleton, List.range'_1_concat, List.reverse_append]
        rfl
      have left : (kept ++ (rest ++ [last])).eraseIdx (kept.length + rest.length) = kept ++ rest := by
        simp [List.eraseIdx_append]
      rw [places]
      apply ends_bind.mpr
      refine (now.step rfl rfl (if_pos ⟨now.removesQuads.trans removes, by simp⟩)).mono
        (fun _ d'' next => ?_) fun _ _ => id
      rw [left] at next
      exact ih next

end Document

namespace Highlight

open Document (Requads)

variable {d d' : Document} {annot : AnnotId} {a : StoredAnnot} {kept old : List (Quad Float32)}

theorem shrink_ends (now : d.Requads annot a (kept ++ old) d') (policy : QuadShrink) :
    Ends (shrink annot kept.length (kept ++ old).length policy) d'
      (fun _ => d.Requads annot a (kept ++ if policy = .removeWhenSupported ∧ d.removesQuads then []
        else List.replicate old.length .zero)) fun _ _ => False := by
  have excess : (List.range (kept ++ old).length).drop kept.length = List.range' kept.length old.length := by
    simp [List.range_eq_range', List.drop_range']
  have clear : Ends ((List.range' kept.length old.length).forM fun index =>
        insist .clearQuad (.setQuad annot index .zero)) d'
      (fun _ => d.Requads annot a (kept ++ List.replicate old.length .zero)) fun _ _ => False := by
    simpa [List.map_const'] using now.overwrite id (fun _ => .zero) (l := List.range' kept.length old.length)
      (by simp) (by simp)
  unfold shrink
  simp only [excess]
  cases policy with
  | zeroFill => simpa using ends_bind.mpr (ends_pure.mpr clear)
  | removeWhenSupported =>
      apply ends_bind.mpr
      apply ends_ask.mpr
      rw [Document.perform_unfailing rfl]
      simp only [Document.run, now.removesQuads]
      cases removes : d.removesQuads with
      | true => simpa using now.removeLast removes
      | false => simpa using clear

def countLeft (h : Highlight) (config : EditConfig) (removesQuads : Bool) (count : Nat) : Nat :=
  if config.quadShrink = .removeWhenSupported ∧ removesQuads then h.bounds.length else max count h.bounds.length

/-- One quad for each rectangle, and zeros in the place of those that are there beyond them. -/
def quadsOf (h : Highlight) (count : Nat) : List (Quad Float32) :=
  h.bounds.map .ofRect ++ List.replicate (count - h.bounds.length) .zero

def onto (h : Highlight) (a : StoredAnnot) (rect : Option (Rect .page Float32)) (count : Nat) : StoredAnnot :=
  { a with rect, quads := h.quadsOf count, color := some h.color }

theorem quadsOf_countLeft {h : Highlight} {config : EditConfig} {removesQuads : Bool} {count : Nat} :
    h.quadsOf (h.countLeft config removesQuads count) = h.bounds.map .ofRect ++
      if config.quadShrink = .removeWhenSupported ∧ removesQuads then []
        else List.replicate (count - h.bounds.length) .zero := by
  rw [quadsOf, countLeft]
  split
  case isTrue => simp
  case isFalse => rw [← Nat.sub_max_sub_right, Nat.sub_self, Nat.max_zero]

theorem color_ends {color : Color} {quads : List (Quad Float32)} (now : d.Requads annot a quads d')
    (works : .setAnnotColor ∉ d.failing) :
    Ends (insist .setAnnotColor (.setAnnotColor annot .color color)) d'
      (fun _ d'' => ∃ rect, d'' = d.putAnnot annot { a with rect, quads, color := some color })
      fun _ _ => False := by
  obtain ⟨rect, rfl⟩ := now
  have works : .setAnnotColor ∉ (d.putAnnot annot { a with quads, rect }).failing := works
  have colored : insist .setAnnotColor (.setAnnotColor annot .color color) (d.putAnnot annot { a with quads, rect }) =
      (.ok (), (d.putAnnot annot { a with quads, rect }).putAnnot annot { a with quads, rect, color := some color }) :=
    insist_changeAnnot (Document.perform_working rfl works) Document.get?_putAnnot_self rfl
  apply (ends_of_eq_ok colored).mpr
  exact ⟨rect, Document.putAnnot_putAnnot⟩

theorem take_append_drop_append {β : Type} (new old : List β) :
    new.take old.length ++ old.drop (new.take old.length).length ++ new.drop old.length =
      new ++ old.drop new.length := by
  by_cases shorter : new.length ≤ old.length
  · simp [List.take_of_length_le shorter, List.drop_of_length_le shorter]
  · have longer : old.length ≤ new.length := Nat.le_of_not_le shorter
    simp [List.length_take_of_le longer, List.drop_of_length_le longer]

theorem overwrite_ends (known : d.annots.get? annot = some a) (quads : List (Quad Float32)) :
    Ends ((quads.take a.quads.length).zipIdx.forM fun x => insist .setQuad (.setQuad annot x.2 x.1)) d
      (fun _ => d.Requads annot a
        (quads.take a.quads.length ++ a.quads.drop (quads.take a.quads.length).length)) fun _ _ => False := by
  have start : d.Requads annot a ([] ++ a.quads) d := .start known
  simpa using start.overwrite Prod.snd Prod.fst (l := (quads.take a.quads.length).zipIdx) (by simp) (by simp)

theorem update_ends {h : Highlight} {config : EditConfig} (known : d.annots.get? annot = some a)
    (kind : a.kind = .highlight) (works : .setAnnotColor ∉ d.failing) :
    Ends (h.update annot config) d (fun _ d' => ∃ rect,
      d' = d.putAnnot annot (h.onto a rect (h.countLeft config d.removesQuads a.quads.length)))
      fun _ _ => False := by
  have count : d.run (.quadCount annot) = (a.quads.length, d) := by
    simp [Document.run, Document.annot?, known]
  let quads : List (Quad Float32) := h.bounds.map .ofRect
  have length : quads.length = h.bounds.length := List.length_map _
  apply ends_bind.mpr
  apply (ends_of_eq_ok (expectAnnotKind_ok known kind)).mpr
  apply ends_bind.mpr
  apply (ends_of_eq_ok (ask_eq rfl count)).mpr
  apply ends_bind.mpr
  refine (overwrite_ends known quads).mono (fun _ d₁ now => ?_) fun _ _ => id
  apply ends_bind.mpr
  refine now.append.mono (fun _ d₂ now => ?_) fun _ _ => id
  rw [take_append_drop_append] at now
  simp only [onto, quadsOf_countLeft]
  split
  case isTrue shorter =>
    have all : (quads ++ a.quads.drop quads.length).length = a.quads.length := by
      rw [List.length_append, List.length_drop]
      exact Nat.add_sub_of_le shorter.le
    have excess : (a.quads.drop quads.length).length = a.quads.length - h.bounds.length := by
      rw [List.length_drop, length]
    have shrunk := shrink_ends now config.quadShrink
    rw [all, excess] at shrunk
    apply ends_bind.mpr
    exact shrunk.mono (fun _ d₃ left => color_ends left works) fun _ _ => id
  case isFalse longer =>
    have longer : a.quads.length ≤ h.bounds.length := by simpa using longer
    have rest : a.quads.length - h.bounds.length = 0 := Nat.sub_eq_zero_of_le longer
    rw [List.drop_of_length_le (length ▸ longer)] at now
    simpa [rest] using color_ends now works

theorem length_quadsOf {h : Highlight} {count : Nat} (fits : h.bounds.length ≤ count) :
    (h.quadsOf count).length = count := by
  simp [quadsOf, Nat.add_sub_of_le fits]

theorem le_countLeft {h : Highlight} {config : EditConfig} {removesQuads : Bool} {count : Nat} :
    h.bounds.length ≤ h.countLeft config removesQuads count := by
  rw [countLeft]
  split
  case isTrue => exact Nat.le_refl _
  case isFalse => exact Nat.le_max_right ..

def countAfter (removesQuads : Bool) (updates : List (Highlight × EditConfig)) (count : Nat) : Nat :=
  updates.foldl (fun count u => u.1.countLeft u.2 removesQuads count) count

theorem updates_ends {updates : List (Highlight × EditConfig)} (known : d.annots.get? annot = some a)
    (kind : a.kind = .highlight) (works : .setAnnotColor ∉ d.failing) :
    Ends (updates.forM fun u => u.1.update annot u.2) d (fun _ d' => ∃ rect quads color,
      quads.length = countAfter d.removesQuads updates a.quads.length ∧
        d' = d.putAnnot annot { a with rect, quads, color }) fun _ _ => False := by
  induction updates generalizing d a with
  | nil => exact ends_pure.mpr ⟨a.rect, a.quads, a.color, rfl, (Document.putAnnot_self known).symm⟩
  | cons u updates ih =>
      apply ends_bind.mpr
      refine (update_ends known kind works).mono (fun _ d₁ now => ?_) fun _ _ => id
      obtain ⟨rect, rfl⟩ := now
      refine (ih Document.get?_putAnnot_self ?_ works).mono (fun _ d₂ after => ?_) fun _ _ => id
      · exact kind
      obtain ⟨rect', quads, color, length, rfl⟩ := after
      refine ⟨rect', quads, color, ?_, Document.putAnnot_putAnnot⟩
      rw [length, onto, length_quadsOf le_countLeft]
      rfl

theorem read_eq {h : Highlight} {count : Nat} {rect : Option (Rect .page Float32)} (kind : a.kind = .highlight) :
    let d' := d.putAnnot annot (h.onto a rect count)
    read annot d' = (.ok ⟨h.bounds ++ List.replicate (count - h.bounds.length) ⟨0, 0, 0, 0⟩, h.color⟩, d') := by
  intro d'
  have known : d'.annots.get? annot = some (h.onto a rect count) := Document.get?_putAnnot_self
  have counted : d'.run (.quadCount annot) = ((h.quadsOf count).length, d') := by
    simp [Document.run, Document.annot?, known, onto]
  have bounds : (List.range (h.quadsOf count).length).mapM (readBounds annot) d' =
      (.ok ((h.quadsOf count).map Quad.toRect), d') := by
    refine mapM_range_ok fun quad index found => ?_
    have answer : d'.run (.quadAt annot index) = (some quad, d') := by
      simp [Document.run, Document.annot?, known, onto, found]
    exact (ends_map.mpr ((ends_of_eq_ok (demand_eq rfl answer)).mpr ⟨rfl, rfl⟩)).eq_ok
  have colored : d'.run (.annotColor annot .color) = (some h.color, d') := by
    simp [Document.run, Document.annot?, known, onto, StoredAnnot.colorOf]
  have shown : (h.quadsOf count).map Quad.toRect =
      h.bounds ++ List.replicate (count - h.bounds.length) ⟨0, 0, 0, 0⟩ := by
    rw [quadsOf, List.map_append, List.map_map, List.map_replicate]
    congr 1
    exact List.map_id h.bounds
  rw [← shown]
  apply (bind_ok (expectAnnotKind_ok known kind)).trans
  apply (bind_ok (ask_eq rfl counted)).trans
  apply (bind_ok bounds).trans
  exact bind_ok (demand_eq rfl colored)

/-- Any updates, one after the other, work and leave one quad for each rectangle of the last of them, followed by
zeros for those that were there before and could not go. Reading gives this back, and nothing else changes. -/
theorem updates_reconcile_quads (known : d.annots.get? annot = some a) (kind : a.kind = .highlight)
    (works : .setAnnotColor ∉ d.failing) (earlier : List (Highlight × EditConfig)) (h : Highlight)
    (config : EditConfig) :
    ∃ rect count d',
      count = h.countLeft config d.removesQuads (countAfter d.removesQuads earlier a.quads.length) ∧
      h.bounds.length ≤ count ∧
      d' = d.putAnnot annot
        { a with
          rect
          quads := h.bounds.map .ofRect ++ List.replicate (count - h.bounds.length) .zero
          color := some h.color } ∧
      (earlier ++ [(h, config)]).forM (fun u => u.1.update annot u.2) d = (.ok (), d') ∧
      read annot d' = (.ok ⟨h.bounds ++ List.replicate (count - h.bounds.length) ⟨0, 0, 0, 0⟩, h.color⟩, d') := by
  let count : Nat := h.countLeft config d.removesQuads (countAfter d.removesQuads earlier a.quads.length)
  have run : Ends ((earlier ++ [(h, config)]).forM fun u => u.1.update annot u.2) d
      (fun _ d' => ∃ rect, d' = d.putAnnot annot (h.onto a rect count)) fun _ _ => False := by
    rw [List.forM_eq_forM, List.forM_append, List.forM_cons, List.forM_nil]
    apply ends_bind.mpr
    refine (updates_ends known kind works).mono (fun _ d₁ now => ?_) fun _ _ => id
    obtain ⟨rect, quads, color, length, rfl⟩ := now
    apply ends_bind.mpr
    refine (update_ends Document.get?_putAnnot_self ?_ works).mono (fun _ d₂ last => ?_) fun _ _ => id
    · exact kind
    obtain ⟨rect', rfl⟩ := last
    rw [length]
    exact ends_pure.mpr ⟨rect', Document.putAnnot_putAnnot⟩
  obtain ⟨_, d', ended, rect, rfl⟩ := run.exists_eq_ok
  exact ⟨rect, count, _, rfl, le_countLeft, rfl, ended, read_eq kind⟩

theorem updates_reuse_zeroed_quads :
    let d := (((Document.empty true).addPage 792).2.run (.createAnnot ⟨1⟩ .highlight)).2
    let r : Rect .page Float32 := ⟨1, 2, 3, 0⟩
    let marks (n : Nat) (policy : QuadShrink) : Highlight × EditConfig :=
      (⟨List.replicate n r, .black⟩, { quadShrink := policy })
    let marked (updates : List (Highlight × EditConfig)) (quads : List (Rect .page Float32)) : Prop :=
      ∃ d', updates.forM (fun u => u.1.update ⟨2⟩ u.2) d = (.ok (), d') ∧ read ⟨2⟩ d' = (.ok ⟨quads, .black⟩, d')
    marked [marks 3 .zeroFill, marks 1 .zeroFill, marks 2 .zeroFill] [r, r, ⟨0, 0, 0, 0⟩] ∧
      marked [marks 3 .zeroFill, marks 1 .zeroFill, marks 2 .removeWhenSupported] [r, r] := by
  intro d r marks marked
  have known : d.annots.get? ⟨2⟩ = some (.new .highlight) := rfl
  have reconciled := updates_reconcile_quads known rfl (List.not_mem_nil : .setAnnotColor ∉ d.failing)
    [marks 3 .zeroFill, marks 1 .zeroFill]
  constructor
  · obtain ⟨-, count, d', rfl, -, -, ended, shown⟩ := reconciled (marks 2 .zeroFill).1 (marks 2 .zeroFill).2
    exact ⟨d', ended, shown⟩
  · obtain ⟨-, count, d', rfl, -, -, ended, shown⟩ :=
      reconciled (marks 2 .removeWhenSupported).1 (marks 2 .removeWhenSupported).2
    exact ⟨d', ended, shown⟩

end Highlight

end PageContent
