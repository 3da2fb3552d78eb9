import Catalog.Session

set_option autoImplicit false

namespace Catalog

section

variable {σ ε α β : Type}

def perform (act : ExceptT ε (StateM σ) α) (state : σ) : Except ε α × σ :=
  act.run state

theorem bind_apply (act : StateM σ α) (next : α → StateM σ β) (state : σ) :
    (act >>= next) state = next (act state).1 (act state).2 :=
  rfl

theorem pure_apply (x : α) (state : σ) : (pure x : StateM σ α) state = (x, state) :=
  rfl

theorem perform_pure (x : α) (state : σ) : perform (pure x : ExceptT ε (StateM σ) α) state = (.ok x, state) :=
  rfl

theorem perform_bind (act : ExceptT ε (StateM σ) α) (next : α → ExceptT ε (StateM σ) β) (state : σ) :
    perform (act >>= next) state =
      match perform act state with
      | (.ok x, after) => perform (next x) after
      | (.error error, after) => (.error error, after) := by
  unfold perform ExceptT.run
  simp only [bind, ExceptT.bind, ExceptT.mk, StateT.bind, ExceptT.bindCont]
  cases act state with
  | mk result after => cases result <;> rfl

theorem perform_lift (act : StateM σ α) (state : σ) :
    perform (ExceptT.lift act : ExceptT ε (StateM σ) α) state = (.ok (act state).1, (act state).2) :=
  rfl

theorem perform_adapt {δ : Type} (change : ε → δ) (act : ExceptT ε (StateM σ) α) (state : σ) :
    perform (act.adapt change) state = ((perform act state).1.mapError change, (perform act state).2) :=
  rfl

theorem perform_mapError {δ : Type} (call : StateM σ (Except δ α)) (change : δ → ε) (state : σ) :
    perform (ExceptT.mk do return (← call).mapError change) state =
      ((call state).1.mapError change, (call state).2) :=
  rfl

theorem perform_atStage (stage : Stage) (call : StateM σ (Except Error α)) (state : σ) :
    perform (atStage stage call) state = ((call state).1.mapError (.exchange stage), (call state).2) :=
  rfl

theorem perform_prompting (prompt : StateM σ (Except PromptFault α)) (state : σ) :
    perform (prompting prompt) state = ((prompt state).1.mapError .prompt, (prompt state).2) :=
  rfl

end

end Catalog
