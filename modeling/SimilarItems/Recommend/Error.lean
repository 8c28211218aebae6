/-!
# What goes wrong in a recommendation
-/

namespace SimilarItems.Recommend

/-- A failure of one of the services that a recommendation asks. -/
inductive ServiceError where
  /-- The service cannot be reached. -/
  | connection (text : String)
  /-- The service refused the question. -/
  | query (text : String)
  /-- The service does not know what was asked for. -/
  | notFound
deriving DecidableEq

/-- The wording of a service's failure. -/
def ServiceError.message : ServiceError → String
  | connection text => "connection error: " ++ text
  | query text => "query error: " ++ text
  | notFound => "entity not found"

/-- Why there are no candidates. -/
inductive Failure where
  /-- The user's feedback could not be loaded. -/
  | feedback (cause : ServiceError)
  /-- The request was cancelled. -/
  | cancelled
deriving DecidableEq

namespace Failure

/-- The wording of a failure. -/
def message : Failure → String
  | feedback cause => "failed to load user feedback: " ++ cause.message
  | cancelled => "recommendation cancelled"

/-- The service's failure behind it. -/
def cause? : Failure → Option ServiceError
  | feedback cause => some cause
  | cancelled => none

end Failure

end SimilarItems.Recommend
