import Mathlib.Logic.Relation
import PageContent.Editor
import PageContent.Library.Faults
import PageContent.Proofs.Ends
import PageContent.Proofs.Sound

namespace PageContent

open Document (Change)

/-- A library which keeps what it has in a document. It may refuse any call but the destruction of an
object, by whatever rule, and a call that is refused changes nothing. -/
class RefusingLibrary (σ : Type) extends Library σ where
  document : σ → Document
  performs_or_refuses : ∀ {α : Type} (call : Call α) (s : σ),
    ((perform call s).1 = (Document.perform call (document s)).1 ∧
      document (perform call s).2 = (Document.perform call (document s)).2) ∨
    (call.method ≠ .destroyObject ∧ (perform call s).1 = call.refused ∧
      document (perform call s).2 = document s)

export RefusingLibrary (document)

instance : RefusingLibrary Document where
  document := id
  performs_or_refuses _ _ := .inl ⟨rfl, rfl⟩

def Changes (allowed : Effect → Prop) : Document → Document → Prop :=
  Relation.ReflTransGen fun d d' => ∃ effect, allowed effect ∧ d.Change effect d'

theorem Changes.keeps {allowed : Effect → Prop} {inv : Document → Prop} {d d' : Document}
    (changes : Changes allowed d d')
    (keep : ∀ effect d d', allowed effect → d.Change effect d' → inv d → inv d') (start : inv d) : inv d' := by
  induction changes with
  | refl => exact start
  | tail _ change ih =>
      obtain ⟨effect, isAllowed, change⟩ := change
      exact keep effect _ _ isAllowed change ih

theorem Changes.mono {allowed allowed' : Effect → Prop} {d d' : Document} (changes : Changes allowed d d')
    (more : ∀ effect, allowed effect → allowed' effect) : Changes allowed' d d' := by
  induction changes with
  | refl => exact .refl
  | tail _ change ih =>
      obtain ⟨effect, isAllowed, change⟩ := change
      exact ih.tail ⟨effect, more effect isAllowed, change⟩

variable {σ α β : Type} [RefusingLibrary σ] {allowed allowed' : Effect → Prop}

theorem RefusingLibrary.change (call : Call α) (s : σ) :
    (document s).Change call.effect (document (Library.perform call s).2) := by
  rcases performs_or_refuses call s with ⟨-, same⟩ | ⟨-, -, same⟩
  · rw [same]
    exact Document.perform_change _ call
  · rw [same]
    exact .nothing _

/-- Whether it fails or not, the edit does nothing to the library but what the allowed effects do. -/
def Only (allowed : Effect → Prop) (edit : Edit σ α) : Prop :=
  ∀ s, Ends edit s (fun _ s' => Changes allowed (document s) (document s')) fun _ s' =>
    Changes allowed (document s) (document s')

theorem Only.mono {edit : Edit σ α} (only : Only allowed edit)
    (more : ∀ effect, allowed effect → allowed' effect) : Only allowed' edit :=
  fun s => (only s).mono (fun _ _ changes => changes.mono more) fun _ _ changes => changes.mono more

theorem only_pure {a : α} : Only allowed (pure a : Edit σ α) := fun _ => ends_pure.mpr .refl

theorem only_throw {e : Error} : Only allowed (throw e : Edit σ α) := fun _ => ends_throw.mpr .refl

theorem only_bind {edit : Edit σ β} {next : β → Edit σ α} (first : Only allowed edit)
    (second : ∀ b, Only allowed (next b)) : Only allowed (edit >>= next) := by
  intro s
  apply ends_bind.mpr
  refine (first s).mono (fun b s' changes => ?_) fun _ _ => id
  exact (second b s').mono (fun _ _ => changes.trans) fun _ _ => changes.trans

theorem only_map {edit : Edit σ β} {f : β → α} (only : Only allowed edit) : Only allowed (f <$> edit) :=
  fun s => ends_map.mpr (only s)

theorem only_liftExcept {result : Except Error α} : Only allowed (liftExcept result : Edit σ α) :=
  fun _ => ends_liftExcept.mpr ⟨fun _ _ => .refl, fun _ _ => .refl⟩

theorem only_guard {c : Prop} [Decidable c] {e : Error} {next : Unit → Edit σ α}
    (only : Only allowed (next ())) :
    Only allowed (if c then throw e >>= next else next ()) := by
  split
  case isTrue => exact only_throw
  case isFalse => exact only

theorem only_tryCatch {edit : Edit σ α} {handle : Error → Edit σ α} (only : Only allowed edit)
    (handled : ∀ e, Only allowed (handle e)) : Only allowed (tryCatch edit handle) := by
  intro s
  apply ends_tryCatch.mpr
  refine (only s).mono (fun _ _ => id) fun e s' changes => ?_
  exact (handled e s').mono (fun _ _ => changes.trans) fun _ _ => changes.trans

theorem only_orUndo {edit : Edit σ α} {undo : Edit σ Unit} (only : Only allowed edit)
    (undone : Only allowed undo) : Only allowed (orUndo edit undo) :=
  only_tryCatch only fun _ => only_bind undone fun _ => only_throw

theorem only_slot? {edit : Edit σ α} (only : Only allowed edit) : Only allowed (slot? edit) :=
  only_tryCatch (only_map only) fun _ => only_pure

theorem only_forM {f : β → Edit σ Unit} (l : List β) (only : ∀ x, Only allowed (f x)) :
    Only allowed (l.forM f) := by
  induction l with
  | nil => exact only_pure
  | cons x l ih => exact only_bind (only x) fun _ => ih

theorem only_mapM {f : β → Edit σ α} (l : List β) (only : ∀ x, Only allowed (f x)) :
    Only allowed (l.mapM f) := by
  induction l with
  | nil => exact only_pure
  | cons x l ih =>
      rw [List.mapM_cons]
      exact only_bind (only x) fun _ => only_bind ih fun _ => only_pure

theorem only_ask {call : Call α} (effect : call.effect = .nothing ∨ allowed call.effect) :
    Only allowed (ask call : Edit σ α) := by
  intro s
  have change := RefusingLibrary.change call s
  apply ends_ask.mpr
  rcases effect with reads | isAllowed
  · rw [reads] at change
    rw [change.eq_of_nothing]
    exact .refl
  · exact .single ⟨_, isAllowed, change⟩

theorem only_demand {operation : Operation} {call : Call (Option α)}
    (effect : call.effect = .nothing ∨ allowed call.effect) :
    Only allowed (demand operation call : Edit σ α) := by
  refine only_bind (only_ask effect) fun answer => ?_
  cases answer with
  | none => exact only_throw
  | some a => exact only_pure

theorem only_insist {operation : Operation} {call : Call Bool}
    (effect : call.effect = .nothing ∨ allowed call.effect) :
    Only allowed (insist operation call : Edit σ Unit) := by
  refine only_bind (only_ask effect) fun answer => ?_
  cases answer with
  | false => exact only_throw
  | true => exact only_pure

def Keeps (inv : Document → Prop) (edit : Edit σ α) : Prop :=
  ∀ s, inv (document s) → Ends edit s (fun _ s' => inv (document s')) fun _ s' => inv (document s')

variable {inv : Document → Prop}

theorem Only.keeps {edit : Edit σ α} (only : Only allowed edit)
    (keep : ∀ effect d d', allowed effect → d.Change effect d' → inv d → inv d') : Keeps inv edit := by
  intro s start
  exact (only s).mono (fun _ _ changes => changes.keeps keep start)
    fun _ _ changes => changes.keeps keep start

theorem Only.sound {edit : Edit σ α} (only : Only allowed edit) : Keeps Document.Sound edit :=
  only.keeps fun _ _ _ _ change sound => sound.change change

theorem ask_sound (call : Call α) : Keeps Document.Sound (ask call : Edit σ α) :=
  fun s sound => ends_ask.mpr (sound.change (RefusingLibrary.change call s))

theorem keeps_pure {a : α} : Keeps inv (pure a : Edit σ α) := fun _ start => ends_pure.mpr start

theorem keeps_throw {e : Error} : Keeps inv (throw e : Edit σ α) := fun _ start => ends_throw.mpr start

theorem keeps_guard {c : Prop} [Decidable c] {e : Error} {next : Unit → Edit σ α}
    (keeps : Keeps inv (next ())) :
    Keeps inv (if c then throw e >>= next else next ()) := by
  split
  case isTrue => exact keeps_throw
  case isFalse => exact keeps

theorem keeps_map {edit : Edit σ β} {f : β → α} (keeps : Keeps inv edit) : Keeps inv (f <$> edit) :=
  fun s start => ends_map.mpr (keeps s start)

theorem keeps_orUndo {edit : Edit σ α} {undo : Edit σ Unit} (keeps : Keeps inv edit)
    (undone : Keeps inv undo) : Keeps inv (orUndo edit undo) := by
  intro s start
  exact ends_orUndo.mpr ((keeps s start).mono (fun _ _ => id) fun _ s' => undone s')

theorem keeps_bind {edit : Edit σ β} {next : β → Edit σ α} (first : Keeps inv edit)
    (second : ∀ b, Keeps inv (next b)) : Keeps inv (edit >>= next) := by
  intro s start
  exact ends_bind.mpr ((first s start).mono (fun b s' => second b s') fun _ _ => id)

theorem keeps_forM {f : β → Edit σ Unit} (l : List β) (step : ∀ x, Keeps inv (f x)) : Keeps inv (l.forM f) := by
  intro s start
  exact ends_forM (fun s => inv (document s)) start fun x _ s kept => step x s kept

theorem keeps_mapM {f : β → Edit σ α} (l : List β) (step : ∀ x, Keeps inv (f x)) : Keeps inv (l.mapM f) := by
  intro s start
  exact (ends_mapM (fun s => inv (document s)) start fun x _ s kept => step x s kept).mono
    (fun _ _ ended => ended.2) fun _ _ => id

theorem keeps_slot? {edit : Edit σ α} (keeps : Keeps inv edit) : Keeps inv (slot? edit) := by
  intro s start
  exact ends_tryCatch.mpr ((keeps_map keeps s start).mono (fun _ _ => id) fun _ _ kept => ends_pure.mpr kept)

end PageContent
