import TableTransfer.Param

namespace TableTransfer

structure Statement where
  sql : String := ""
  params : List Param := []

namespace Statement

def bind (s : Statement) (p : Param) : Except Error Statement :=
  if p.index = 0 then .error (.resource .noParameter)
  else .ok { s with params := s.params ++ [p] }

instance : ParamTarget Statement where
  bind p := do
    let s ← get
    set (← s.bind p)

theorem runOn_bind (s : Statement) {p : Param} (h : p.index ≠ 0) :
    (ParamTarget.bind p : ParamM Statement Unit).runOn s =
      (.ok (), { s with params := s.params ++ [p] }) := by
  have hbind : s.bind p = .ok { s with params := s.params ++ [p] } := if_neg h
  change (get >>= fun t : Statement => liftM (t.bind p) >>= set : ParamM Statement Unit).runOn s = _
  rw [ParamM.runOn_bind, ParamM.runOn_get]
  dsimp only
  rw [hbind]
  rfl

/-- The parameters by their numbers; those of one number stay in the order of binding. -/
def executed (s : Statement) : List Param :=
  s.params.mergeSort fun p q => p.index ≤ q.index

def clear (s : Statement) : Statement := { s with params := [] }

end Statement

end TableTransfer
