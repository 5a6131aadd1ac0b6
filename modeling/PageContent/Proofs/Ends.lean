import PageContent.Library.Edit

namespace PageContent

variable {σ α β : Type}

/-- Begun in the state `s`, the edit ends either with an answer and in a state of which `ok` holds, or
with an error and in a state of which `fail` holds. -/
def Ends (edit : Edit σ α) (s : σ) (ok : α → σ → Prop) (fail : Error → σ → Prop) : Prop :=
  match edit s with
  | (.ok answer, s') => ok answer s'
  | (.error error, s') => fail error s'

variable {s : σ} {ok ok' : α → σ → Prop} {fail fail' : Error → σ → Prop}

theorem ends_of_eq_ok {edit : Edit σ α} {a : α} {s' : σ} (ended : edit s = (.ok a, s')) :
    Ends edit s ok fail ↔ ok a s' := by
  rw [Ends, ended]

theorem ends_of_eq_error {edit : Edit σ α} {e : Error} {s' : σ} (ended : edit s = (.error e, s')) :
    Ends edit s ok fail ↔ fail e s' := by
  rw [Ends, ended]

theorem ends_congr {edit edit' : Edit σ α} {s' : σ} (same : edit s = edit' s') :
    Ends edit s ok fail ↔ Ends edit' s' ok fail := by
  rw [Ends, Ends, same]

theorem Ends.of_error {edit : Edit σ α} {e : Error} {s' : σ} (ends : Ends edit s ok fail)
    (ended : edit s = (.error e, s')) : fail e s' := by
  rw [Ends, ended] at ends
  exact ends

theorem Ends.eq_error {edit : Edit σ α} {e : Error} {s'' : σ}
    (ends : Ends edit s (fun _ _ => False) fun error s' => error = e ∧ s' = s'') : edit s = (.error e, s'') := by
  unfold Ends at ends
  split at ends
  case h_1 => exact ends.elim
  case h_2 ended =>
    obtain ⟨rfl, rfl⟩ := ends
    exact ended

theorem Ends.eq_ok {edit : Edit σ α} {a : α} {s'' : σ}
    (ends : Ends edit s (fun answer s' => answer = a ∧ s' = s'') fun _ _ => False) : edit s = (.ok a, s'') := by
  unfold Ends at ends
  split at ends
  case h_1 ended =>
    obtain ⟨rfl, rfl⟩ := ends
    exact ended
  case h_2 => exact ends.elim

theorem Ends.exists_eq_ok {edit : Edit σ α} (ends : Ends edit s ok fun _ _ => False) :
    ∃ a s', edit s = (.ok a, s') ∧ ok a s' := by
  unfold Ends at ends
  split at ends
  case h_1 ended => exact ⟨_, _, ended, ends⟩
  case h_2 => exact ends.elim

theorem Ends.after {edit : Edit σ α} {inv : σ → Prop} (ends : Ends edit s (fun _ => inv) fun _ => inv) :
    inv (edit s).2 := by
  unfold Ends at ends
  split at ends
  case h_1 ended => rw [ended]; exact ends
  case h_2 ended => rw [ended]; exact ends

theorem Ends.mono {edit : Edit σ α} (ends : Ends edit s ok fail) (oks : ∀ a s', ok a s' → ok' a s')
    (fails : ∀ e s', fail e s' → fail' e s') : Ends edit s ok' fail' := by
  unfold Ends at ends ⊢
  split at ends
  case h_1 => exact oks _ _ ends
  case h_2 => exact fails _ _ ends

theorem Ends.and {edit : Edit σ α} (left : Ends edit s ok fail) (right : Ends edit s ok' fail') :
    Ends edit s (fun a s' => ok a s' ∧ ok' a s') (fun e s' => fail e s' ∧ fail' e s') := by
  unfold Ends at left right ⊢
  split at left
  case h_1 found => rw [found] at right; exact ⟨left, right⟩
  case h_2 found => rw [found] at right; exact ⟨left, right⟩

theorem ends_run (edit : Edit σ α) (s : σ) :
    Ends edit s (fun a s' => edit s = (.ok a, s')) fun e s' => edit s = (.error e, s') := by
  unfold Ends
  split
  case h_1 ended => exact ended
  case h_2 ended => exact ended

theorem ends_pure {a : α} : Ends (pure a) s ok fail ↔ ok a s := .rfl

theorem ends_throw {e : Error} : Ends (throw e : Edit σ α) s ok fail ↔ fail e s := .rfl

theorem ends_bind {edit : Edit σ β} {next : β → Edit σ α} :
    Ends (edit >>= next) s ok fail ↔ Ends edit s (fun b s' => Ends (next b) s' ok fail) fail := by
  unfold Ends
  simp only [bind, ExceptT.bind, ExceptT.mk, StateT.bind]
  rcases edit s with ⟨error | answer, s'⟩ <;> exact .rfl

theorem bind_ok {edit : Edit σ β} {next : β → Edit σ α} {b : β} {s' : σ} (ended : edit s = (.ok b, s')) :
    (edit >>= next) s = next b s' := by
  simp only [bind, ExceptT.bind, ExceptT.mk, StateT.bind, ended]
  rfl

theorem bind_error {edit : Edit σ β} {next : β → Edit σ α} {error : Error} {s' : σ}
    (ended : edit s = (.error error, s')) : (edit >>= next) s = (.error error, s') := by
  simp only [bind, ExceptT.bind, ExceptT.mk, StateT.bind, ended]
  rfl

theorem ends_map {edit : Edit σ β} {f : β → α} :
    Ends (f <$> edit) s ok fail ↔ Ends edit s (fun b s' => ok (f b) s') fail := by
  unfold Ends
  simp only [Functor.map, ExceptT.map, ExceptT.mk, StateT.bind, bind]
  rcases edit s with ⟨error | answer, s'⟩ <;> exact .rfl

theorem ends_tryCatch {edit : Edit σ α} {handle : Error → Edit σ α} :
    Ends (tryCatch edit handle) s ok fail ↔ Ends edit s ok fun e s' => Ends (handle e) s' ok fail := by
  unfold Ends
  simp only [tryCatch, tryCatchThe, MonadExceptOf.tryCatch, ExceptT.tryCatch, ExceptT.mk, StateT.bind, bind]
  rcases edit s with ⟨error | answer, s'⟩ <;> exact .rfl

theorem ends_orUndo {edit : Edit σ α} {undo : Edit σ Unit} :
    Ends (orUndo edit undo) s ok fail ↔
      Ends edit s ok fun e s' => Ends undo s' (fun _ s'' => fail e s'') fail :=
  ends_tryCatch.trans (iff_of_eq (by simp only [ends_bind, ends_throw]))

theorem ends_liftExcept {result : Except Error α} :
    Ends (liftExcept result : Edit σ α) s ok fail ↔ (∀ a, result = .ok a → ok a s) ∧ ∀ e, result = .error e →
      fail e s := by
  cases result with
  | ok a => exact ⟨fun h => ⟨fun _ same => by cases same; exact h, nofun⟩, fun h => h.1 a rfl⟩
  | error e => exact ⟨fun h => ⟨nofun, fun _ same => by cases same; exact h⟩, fun h => h.2 e rfl⟩

theorem ends_forM (inv : σ → Prop) {f : β → Edit σ Unit} {l : List β} (start : inv s)
    (step : ∀ x ∈ l, ∀ s, inv s → Ends (f x) s (fun _ => inv) fail) :
    Ends (l.forM f) s (fun _ => inv) fail := by
  induction l generalizing s with
  | nil => exact start
  | cons x l ih =>
      apply ends_bind.mpr
      refine (step x List.mem_cons_self s start).mono (fun _ s' kept => ?_) fun _ _ => id
      exact ih kept fun y mem => step y (List.mem_cons_of_mem x mem)

theorem ends_mapM (inv : σ → Prop) {f : β → Edit σ α} {l : List β} (start : inv s)
    (step : ∀ x ∈ l, ∀ s, inv s → Ends (f x) s (fun _ => inv) fail) :
    Ends (l.mapM f) s (fun answers s' => answers.length = l.length ∧ inv s') fail := by
  induction l generalizing s with
  | nil => exact ⟨rfl, start⟩
  | cons x l ih =>
      rw [List.mapM_cons]
      apply ends_bind.mpr
      refine (step x List.mem_cons_self s start).mono (fun _ s' kept => ?_) fun _ _ => id
      apply ends_bind.mpr
      refine (ih kept fun y mem => step y (List.mem_cons_of_mem x mem)).mono ?_ fun _ _ => id
      exact fun answers s' ⟨length, kept⟩ => ends_pure.mpr ⟨congrArg (· + 1) length, kept⟩

variable [Library σ]

theorem ask_ok {call : Call α} {answer : α} {s' : σ} (performed : Library.perform call s = (answer, s')) :
    (ask call : Edit σ α) s = (.ok answer, s') := by
  have asked : (ask call : Edit σ α) s = (.ok (Library.perform call s).1, (Library.perform call s).2) := rfl
  rw [asked, performed]

theorem demand_ok {operation : Operation} {call : Call (Option α)} {answer : α} {s' : σ}
    (performed : Library.perform call s = (some answer, s')) :
    (demand operation call : Edit σ α) s = (.ok answer, s') :=
  bind_ok (ask_ok performed)

theorem demand_refused {operation : Operation} {call : Call (Option α)} {s' : σ}
    (performed : Library.perform call s = (none, s')) :
    (demand operation call : Edit σ α) s = (.error (.refused operation), s') :=
  bind_ok (ask_ok performed)

theorem insist_ok {operation : Operation} {call : Call Bool} {s' : σ}
    (performed : Library.perform call s = (true, s')) : insist operation call s = (.ok (), s') :=
  bind_ok (ask_ok performed)

theorem insist_refused {operation : Operation} {call : Call Bool} {s' : σ}
    (performed : Library.perform call s = (false, s')) :
    insist operation call s = (.error (.refused operation), s') :=
  bind_ok (ask_ok performed)

theorem ends_ask {call : Call α} :
    Ends (ask call) s ok fail ↔ ok (Library.perform call s).1 (Library.perform call s).2 := .rfl

theorem ends_demand {operation : Operation} {call : Call (Option α)} :
    Ends (demand operation call) s ok fail ↔
      (∀ a, (Library.perform call s).1 = some a → ok a (Library.perform call s).2) ∧
        ((Library.perform call s).1 = none → fail (.refused operation) (Library.perform call s).2) := by
  rw [demand, ends_bind, ends_ask]
  cases (Library.perform call s).1 with
  | none => exact ⟨fun h => ⟨nofun, fun _ => h⟩, fun h => h.2 rfl⟩
  | some a => exact ⟨fun h => ⟨fun _ same => by cases same; exact h, nofun⟩, fun h => h.1 a rfl⟩

theorem ends_insist {operation : Operation} {call : Call Bool} {ok : Unit → σ → Prop} :
    Ends (insist operation call) s ok fail ↔
      ((Library.perform call s).1 = true → ok () (Library.perform call s).2) ∧
        ((Library.perform call s).1 = false → fail (.refused operation) (Library.perform call s).2) := by
  rw [insist, ends_bind, ends_ask]
  cases (Library.perform call s).1 with
  | false => exact ⟨fun h => ⟨nofun, fun _ => h⟩, fun h => h.2 rfl⟩
  | true => exact ⟨fun h => ⟨fun _ => h, nofun⟩, fun h => h.1 rfl⟩

end PageContent
