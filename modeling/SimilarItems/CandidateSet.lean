import SimilarItems.Json.Record
import SimilarItems.Keyed

/-!
# Candidate sets

A candidate set holds a ranked list of items for each of some categories.
-/

namespace SimilarItems

/-- Ranked items per category. -/
structure CandidateSet where
  /-- The list of each category. -/
  lists : Keyed (List String)
deriving DecidableEq, Inhabited

namespace CandidateSet

/-- The category that stands for all of them. -/
def allCategories : String := ""

/-- No lists. -/
def empty : CandidateSet := ⟨.empty⟩

/-- The set with the list of one category replaced or added. -/
def insert (s : CandidateSet) (category : String) (items : List String) : CandidateSet :=
  ⟨s.lists.insert category items⟩

/-- The set of the given lists; of several lists of one category the last counts. -/
def ofLists (ls : List (String × List String)) : CandidateSet := ⟨Keyed.ofList ls⟩

/-- The list of a category. -/
def get? (s : CandidateSet) (category : String) : Option (List String) := s.lists.get? category

/-- The list for all categories together. -/
def all? (s : CandidateSet) : Option (List String) := s.get? allCategories

/-- The number of categories. -/
def size (s : CandidateSet) : Nat := s.lists.size

/-- A set as a JSON value. -/
def toJson (s : CandidateSet) : Json := .fields (s.lists.entries.map fun l => (l.1, .texts l.2))

/-- Reads a set from a JSON value. -/
def ofJson? (j : Json) : Option CandidateSet := do
  let ms ← j.members?
  let ls ← ms.mapM fun m => (m.2.list? Json.text?).map fun items => (m.1, items)
  some (ofLists ls)

end CandidateSet

end SimilarItems
