import RecordGraph.Engine.Resolve
import RecordGraph.Query.Parser

namespace RecordGraph

open Operation

/-- Runs a query: the call is looked up, its parameters are processed, it is performed, and the selection is resolved
against the state after it. The result has one entry, under the name of the query or its alias. -/
def executeSelection [Ids] (limits : PageLimits) (query : Query.Selection) : Operation Json := do
  let call ← ask fun _ => Call.ofName query.name
  let request ← ask fun c => call.process c query.parameters
  let output ← call.perform limits request
  let db ← get
  let value ← ask fun _ => resolve db limits output query.children
  return .object [(query.outputName, value)]

def execute [Ids] (limits : PageLimits) (text : String) : Operation Json := do
  let query ← ask fun _ => (Query.parse text).mapError Fault.misread
  executeSelection limits query

end RecordGraph
