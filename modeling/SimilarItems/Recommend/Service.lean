import SimilarItems.Feedback
import SimilarItems.Recommend.Error
import SimilarItems.Score

/-!
# The services behind a recommendation

A recommendation asks two services: one for the feedback of a user, and one for precomputed
neighbor lists. Here are their questions, and simple services that answer from given records.
-/

namespace SimilarItems.Recommend

/-- A question for the feedback of a user. -/
structure FeedbackQuery where
  /-- The user. -/
  user : String
  /-- Only feedback given before this instant counts. -/
  before : Instant
  /-- Only feedback of these types counts; all types if none is named. -/
  types : List String
deriving DecidableEq

/-- Whether a question asks for a feedback event. -/
def FeedbackQuery.covers (q : FeedbackQuery) (f : Feedback) : Bool :=
  f.user = q.user && f.given.before q.before && (q.types.isEmpty || q.types.contains f.type)

/-- A question for a stretch of an item's neighbor list. -/
structure ListQuery where
  /-- The family of lists. -/
  family : String
  /-- The item whose neighbors are asked for. -/
  item : String
  /-- The categories that neighbors are restricted to. -/
  categories : List String
  /-- The number of neighbors to pass over. -/
  offset : Nat
  /-- The most neighbors to answer. -/
  count : Nat
deriving DecidableEq

/-- What becomes of a question for a neighbor list. -/
inductive Reply where
  /-- Neighbors, the best first. -/
  | scores (scores : List Score)
  /-- The service fails. -/
  | failed (error : ServiceError)
  /-- The one who asks breaks down. -/
  | died
deriving DecidableEq

/-- A neighbor list that a service holds for an item, in one category or in all. -/
structure HeldList where
  item : String
  category : Option String
  scores : List Score
deriving DecidableEq

/-- A failure that a service has in store for an item, in one category or in all. -/
structure HeldFailure where
  item : String
  category : Option String
  error : ServiceError
deriving DecidableEq

/-- Whether something held for a category serves a question. -/
def serves (category : Option String) (q : ListQuery) : Bool :=
  match category with
  | none => true
  | some c => q.categories = [c]

/-- A service that answers from given lists. -/
structure Lists where
  /-- The lists; the first that serves a question is the answer. -/
  lists : List HeldList
  /-- The failures, which come before any list. -/
  failures : List HeldFailure
  /-- The items whose questions nobody survives. -/
  deadly : List String
deriving DecidableEq

/-- The answer to a question; an empty list if nothing is held for it. -/
def Lists.reply (l : Lists) (q : ListQuery) : Reply :=
  if l.deadly.contains q.item then .died
  else
    match l.failures.find? fun f => f.item = q.item && serves f.category q with
    | some f => .failed f.error
    | none =>
      match l.lists.find? fun h => h.item = q.item && serves h.category q with
      | some h => .scores ((h.scores.drop q.offset).take q.count)
      | none => .scores []

end SimilarItems.Recommend
