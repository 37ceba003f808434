import TableTransfer.Error
import TableTransfer.Value.Sql

namespace TableTransfer

structure Param where
  index : Nat
  value : SqlValue
deriving DecidableEq

/-- Work on what parameters are bound to. A fault does not undo what was done before it. -/
abbrev ParamM (σ : Type) := ExceptT Error (StateM σ)

def ParamM.runOn {σ α : Type} (work : ParamM σ α) (s : σ) : Except Error α × σ := work.run.run s

namespace ParamM

variable {σ α β : Type}

@[simp] theorem runOn_pure (a : α) (s : σ) : (pure a : ParamM σ α).runOn s = (.ok a, s) := rfl

@[simp] theorem runOn_throw (e : Error) (s : σ) :
    (throw e : ParamM σ α).runOn s = (.error e, s) := rfl

@[simp] theorem runOn_get (s : σ) : (get : ParamM σ σ).runOn s = (.ok s, s) := rfl

@[simp] theorem runOn_lift (r : Except Error α) (s : σ) :
    (liftM r : ParamM σ α).runOn s = (r, s) := rfl

theorem runOn_bind (work : ParamM σ α) (next : α → ParamM σ β) (s : σ) :
    (work >>= next).runOn s =
      match work.runOn s with
      | (.ok a, s) => (next a).runOn s
      | (.error e, s) => (.error e, s) := by
  change ExceptT.bindCont next (work.runOn s).1 (work.runOn s).2 = _
  rcases work.runOn s with ⟨_ | a, s⟩ <;> rfl

end ParamM

class ParamTarget (σ : Type) where
  bind : Param → ParamM σ Unit

/-- Parameters that are collected before any of them is bound to a statement. -/
structure StagedParams where
  params : List Param := []

instance : ParamTarget StagedParams where
  bind p := modify fun s => { s with params := s.params ++ [p] }

@[simp] theorem StagedParams.runOn_bind (s : StagedParams) (p : Param) :
    (ParamTarget.bind p : ParamM StagedParams Unit).runOn s =
      (.ok (), { s with params := s.params ++ [p] }) := rfl

end TableTransfer
