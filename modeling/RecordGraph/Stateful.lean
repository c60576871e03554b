import RecordGraph.Fault

namespace RecordGraph

/-- A computation on a state that can be refused. The state that it has reached is there in either case, so that "a refused
computation changes nothing" is a statement and not a convention. -/
abbrev Stateful (σ : Type) := ExceptT Fault (StateM σ)

namespace Stateful

variable {σ α : Type}

def on (a : Stateful σ α) (s : σ) : Except Fault α × σ := StateT.run (ExceptT.run a) s

/-- Asks the state, and is refused if the answer is. -/
def ask (f : σ → Except Fault α) : Stateful σ α := ExceptT.mk do return f (← get)

end Stateful

end RecordGraph
