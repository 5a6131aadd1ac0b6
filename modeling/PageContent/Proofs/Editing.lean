import PageContent.Editor
import PageContent.Proofs.Footprint

namespace PageContent

variable {σ α : Type} {e : Editor} {s : σ} {fail : Error → Editor × σ → Prop}

theorem ends_guard {s : σ} {ok : α → σ → Prop} {fail : Error → σ → Prop} {c : Prop} [Decidable c]
    {error : Error}
    {next : Unit → Edit σ α} :
    Ends (if c then throw error >>= next else next ()) s ok fail ↔
      (c → fail error s) ∧ (¬c → Ends (next ()) s ok fail) := by
  split
  case isTrue holds =>
    exact ⟨fun h => ⟨fun _ => h, fun notHolds => absurd holds notHolds⟩, fun h => h.1 holds⟩
  case isFalse notHolds =>
    exact ⟨fun h => ⟨fun holds => absurd holds notHolds, fun _ => h⟩, fun h => h.2 notHolds⟩

theorem ends_onLibrary {edit : Editor → Edit σ α} {ok : α → Editor × σ → Prop} :
    Ends (Editor.onLibrary edit) (e, s) ok fail ↔
      Ends (edit e) s (fun a s' => ok a (e, s')) fun error s' => fail error (e, s') := by
  unfold Ends
  simp only [Editor.onLibrary]
  rcases edit e s with ⟨error | answer, s'⟩ <;> exact .rfl

theorem ends_setCache {cache : Option (List (Option PageObject))} {ok : Unit → Editor × σ → Prop} :
    Ends (Editor.setCache cache) (e, s) ok fail ↔ ok () ({ e with cache }, s) := .rfl

theorem ends_cached {ok : Option (List (Option PageObject)) → Editor × σ → Prop} :
    Ends Editor.cached (e, s) ok fail ↔ ok e.cache (e, s) := .rfl

section Keeps

variable [RefusingLibrary σ] {inv : Document → Prop}

instance : RefusingLibrary (Editor × σ) where
  perform call s := ((Library.perform call s.2).1, s.1, (Library.perform call s.2).2)
  document s := document s.2
  performs_or_refuses call s := RefusingLibrary.performs_or_refuses call s.2

theorem keeps_onLibrary {edit : Editor → Edit σ α} (keeps : ∀ e, Keeps inv (edit e)) :
    Keeps inv (Editor.onLibrary edit) := by
  intro s start
  exact ends_onLibrary.mpr (keeps s.1 s.2 start)

theorem keeps_setCache (cache : Option (List (Option PageObject))) :
    Keeps inv (Editor.setCache cache : Editing σ Unit) := by
  intro s start
  exact ends_setCache.mpr start

theorem keeps_cached : Keeps inv (Editor.cached : Editing σ (Option (List (Option PageObject)))) := by
  intro s start
  exact ends_cached.mpr start

end Keeps

namespace Editor

inductive Action
  | height
  | objects (refetch : Bool)
  | object (index : Nat)
  | addObject (o : PageObject)
  | updateObject (index : Nat) (o : PageObject)
  | removeObject (index : Nat)
  | annots
  | addAnnot (a : Annot)
  | updateAnnot (index : Nat) (a : Annot)
  | removeAnnot (index : Nat)

def Action.run [Library σ] : Action → Editing σ Unit
  | .height => (fun _ => ()) <$> Editor.height
  | .objects refetch => (fun _ => ()) <$> Editor.objects refetch
  | .object index => (fun _ => ()) <$> Editor.object? index
  | .addObject o => (fun _ => ()) <$> Editor.addObject o
  | .updateObject index o => Editor.updateObject index o
  | .removeObject index => Editor.removeObject index
  | .annots => (fun _ => ()) <$> Editor.annots
  | .addAnnot a => (fun _ => ()) <$> Editor.addAnnot a
  | .updateAnnot index a => Editor.updateAnnot index a
  | .removeAnnot index => Editor.removeAnnot index

end Editor

end PageContent
