import BlogRouting.Calendar.Written
import BlogRouting.Content.Store
import BlogRouting.Datum

/-!
# Reading content

An item is read from a record with the fields below, or from a list of their values. No slug is
derived when an item is read, only when it is stored.
-/

namespace BlogRouting

def Content.fieldNames : List String :=
  ["id", "title", "permalink", "published", "published_at", "parent_id", "password"]

def Content.ofDatum? (d : Datum) : Option Content := do
  let [id, title, permalink, published, publishedAt, parent, password] ←
    d.fields? fieldNames | none
  return {
    id := ← Datum.required? Datum.identifier? id
    title := ← Datum.required? Datum.text? title
    permalink := ← Datum.defaulted? "" Datum.text? permalink
    published := ← Datum.defaulted? true Datum.boolean? published
    publishedAt := ← Datum.required? (fun d => d.text?.bind DateTime.parse?) publishedAt
    parent := ← Datum.defaulted? none (Datum.optional? Datum.identifier?) parent
    password := ← Datum.defaulted? none (Datum.optional? Datum.text?) password }

/-- The store of a list of items, inserted in order. -/
def ContentStore.ofDatum? (readings : Transliteration) (d : Datum) : Option ContentStore := do
  return ofList readings (← (← d.list?).mapM Content.ofDatum?)

end BlogRouting
