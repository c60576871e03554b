import RecordGraph.Proofs.Time.Padded

namespace RecordGraph

/-- The ids that insertions are given, by the number of the insertion. No two insertions share one. -/
class Ids where
  id : Nat → String
  injective : Function.Injective id

namespace Ids

scoped instance numbered : Ids where
  id n := "00000000-0000-7000-8000-" ++ Time.padded 12 n
  injective _ _ h := Time.padded_injective ((String.append_right_inj _).mp h)

end Ids

end RecordGraph
