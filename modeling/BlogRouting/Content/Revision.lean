import BlogRouting.Content.Basic

/-!
# Revisions

The served version of a post is found by walking from revision to revision. A revision with a
greater id is newer; of equal ids the later in the list counts. A chain that comes back to an id it
has passed, or that is longer than `depthLimit`, has no newest revision.
-/

namespace BlogRouting.Revision

/-- The most revisions in a chain that still has a newest one. -/
def depthLimit : Nat := 16

/-- The later of two contents with the greater id. -/
def newer (a b : Content) : Content :=
  if a.id ≤ b.id then b else a

/-- The newest of the candidates. -/
def newest? : List Content → Option Content
  | [] => none
  | c :: rest => some (rest.foldl newer c)

/-- The newest candidate that supersedes the item `id`. -/
def next? (candidates : List Content) (id : Nat) : Option Content :=
  newest? (candidates.filter (·.parent = some id))

/-- Walks on from `current` by at most `steps` revisions, none of which has an id in `visited`. -/
def walk (candidates : List Content) (visited : List Nat) (current : Content) :
    Nat → Option Content
  | 0 => if next? candidates current.id = none then some current else none
  | steps + 1 =>
    match next? candidates current.id with
    | none => some current
    | some next =>
      if next.id ∈ visited then none
      else walk candidates (next.id :: visited) next steps

/-- The newest revision of the item, or the item itself if it has none. -/
def latest? (item : Content) (candidates : List Content) : Option Content :=
  walk candidates [item.id] item depthLimit

end BlogRouting.Revision
