import BlogRouting.Content.Query

/-!
# Content stores

A store lists its items in the order in which they were inserted. An item without an id gets the
next one, an item without a slug gets the slug of its title.
-/

namespace BlogRouting

structure ContentStore where
  items : List Content := []
  deriving DecidableEq, Repr

namespace ContentStore

def empty : ContentStore := {}

def size (store : ContentStore) : Nat :=
  store.items.length

/-- One more than the greatest id, or one. -/
def nextId (store : ContentStore) : Nat :=
  (store.items.map (·.id)).foldl max 0 + 1

/-- The form in which the store keeps the content. -/
def settle (readings : Transliteration) (store : ContentStore) (content : Content) : Content :=
  { content with
    id := if content.id = 0 then store.nextId else content.id
    permalink :=
      if content.permalink = "" then slug readings content.title else content.permalink }

def insert (readings : Transliteration) (store : ContentStore) (content : Content) : ContentStore :=
  ⟨store.items ++ [store.settle readings content]⟩

def ofList (readings : Transliteration) (contents : List Content) : ContentStore :=
  contents.foldl (insert readings) empty

/-- The first item with the id. -/
def get? (store : ContentStore) (id : Nat) : Option Content :=
  store.items.find? (·.id = id)

/-- The items that the query accepts, in order. -/
def find (store : ContentStore) (query : Query) : List Content :=
  store.items.filter query.accepts

@[simp] theorem items_insert (readings : Transliteration) (store : ContentStore)
    (content : Content) :
    (store.insert readings content).items = store.items ++ [store.settle readings content] := rfl

end ContentStore

end BlogRouting
