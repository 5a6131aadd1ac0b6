import PageContent.Library.Call
import PageContent.Error

namespace PageContent

/-- An object library in state `σ`. Every call may change the state, even one that only asks. -/
class Library (σ : Type) where
  perform : {α : Type} → Call α → σ → α × σ

/-- An edit that fails keeps what it did to the library until then. -/
abbrev Edit (σ : Type) := ExceptT Error (StateM σ)

variable {σ α : Type}

def ask [Library σ] (call : Call α) : Edit σ α :=
  ExceptT.lift (modifyGet (Library.perform call))

def demand [Library σ] (operation : Operation) (call : Call (Option α)) : Edit σ α := do
  match ← ask call with
  | some answer => pure answer
  | none => throw (.refused operation)

def insist [Library σ] (operation : Operation) (call : Call Bool) : Edit σ Unit := do
  unless ← ask call do throw (.refused operation)

def orUndo (edit : Edit σ α) (undo : Edit σ Unit) : Edit σ α :=
  tryCatch edit fun error => do
    undo
    throw error

def slot? (edit : Edit σ α) : Edit σ (Option α) :=
  tryCatch (some <$> edit) fun _ => pure none

end PageContent
