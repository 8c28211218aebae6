import SimilarItems.Binary64.Arithmetic
import SimilarItems.CandidateSet
import SimilarItems.Score
import SimilarItems.TopK

/-!
# Tallies

The weighted scores that items gather over several neighbor lists, and the ranking by them.
-/

namespace SimilarItems.Recommend

/-- The labels of a request: the one for all categories, then the categories in the order in which
they are first named. -/
def labels (categories : List String) : List String :=
  (CandidateSet.allCategories :: categories).eraseDups

/-- The weighted scores that items have gathered. -/
abbrev Tally := Keyed Binary64

namespace Tally

/-- Adds a weighted score to what its item has gathered, if the item is admitted. -/
def add (admits : String → Bool) (weight : Binary64) (t : Tally) (s : Score) : Tally :=
  if admits s.item then
    t.alter s.item fun sum => sum.getD (.zero false) + s.value * weight
  else t

/-- Adds the scores of a list in their order. -/
def addList (admits : String → Bool) (weight : Binary64) (t : Tally) (scores : List Score) :
    Tally :=
  scores.foldl (add admits weight) t

/-- The tally of several lists, added one after another. -/
def ofLists (admits : String → Bool) (weight : Binary64) (lists : List (List Score)) : Tally :=
  lists.foldl (addList admits weight) .empty

/-- The best items by what they have gathered, at most `capacity` of them. -/
def best (capacity : Nat) (t : Tally) : List String :=
  ((TopK.empty capacity).pushAll (t.entries.map fun e => ⟨e.1, e.2⟩)).items

end Tally

end SimilarItems.Recommend
