import SimilarItems.Instant.Lenient
import SimilarItems.Json.Record

/-!
# Instants in JSON

An instant is written with the zone `Z` and read leniently.
-/

namespace SimilarItems.Instant

/-- An instant as a JSON value. -/
def toJson (t : Instant) : Json := .text t.zulu

/-- Reads an instant from a JSON value. -/
def ofJson? (j : Json) : Option Instant := j.text?.bind ofLenient?

end SimilarItems.Instant
