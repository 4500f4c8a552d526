import Counsel.Log.Level

/-!
Notes: what the program says of its work, before it becomes a line of a log.
-/

namespace Counsel.Log

/-- The part of the program a note comes from. -/
inductive Origin where
  | client
  | screen
  | command
  | flow
  | navigation
  | session
  | settings
  | controller
  | actor
  | service
  | serviceFlows
  | serviceSettings
  | serviceRoutes
  deriving DecidableEq, Repr

/-- The name of a part of the program in log lines. -/
def Origin.target : Origin → String
  | .client => "decision_maker::client::http"
  | .screen => "decision_maker::client::tui"
  | .command => "decision_maker::cli::handlers"
  | .flow => "decision_maker::core::flow"
  | .navigation => "decision_maker::core::navigation"
  | .session => "decision_maker::core::session"
  | .settings => "decision_maker::core::config"
  | .controller => "decision_maker::dialogue::controller"
  | .actor => "decision_maker::dialogue::manager"
  | .service => "decision_maker::server::web::dialogue"
  | .serviceFlows => "decision_maker::server::web::flows"
  | .serviceSettings => "decision_maker::server::web::types"
  | .serviceRoutes => "decision_maker::server::web::routes"

/-- Something the program says of its work. -/
structure Note where
  level : Level
  origin : Origin
  text : String
  deriving DecidableEq, Repr

/-- The notes that a threshold lets through; no threshold lets none. -/
def visible (threshold : Option Level) (notes : List Note) : List Note :=
  match threshold with
  | some level => notes.filter fun n => n.level.rank ≤ level.rank
  | none => []

end Counsel.Log
