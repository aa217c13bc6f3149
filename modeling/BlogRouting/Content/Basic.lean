import BlogRouting.Calendar.DateTime
import BlogRouting.Template.Basic
import BlogRouting.Text.Slug

/-!
# Content

A post, or a revision of one. A revision is unpublished and names the post or revision that it
supersedes.
-/

namespace BlogRouting

structure Content where
  id : Nat
  title : String
  /-- The slug, decoded. Empty if it has still to be derived from the title. -/
  permalink : String := ""
  published : Bool := true
  publishedAt : DateTime
  /-- The item that a revision supersedes. -/
  parent : Option Nat := none
  /-- Left to whoever renders the content. -/
  password : Option String := none
  deriving DecidableEq, Repr

namespace Content

/-- A published item under the slug of its title. -/
def new (readings : Transliteration) (id : Nat) (title : String) (publishedAt : DateTime) :
    Content :=
  { id, title, permalink := slug readings title, publishedAt }

/-- An unpublished revision, to be found where the item itself is found. -/
def revise (content : Content) (id : Nat) : Content :=
  { content with id, published := false, parent := some content.id }

/-- What stands for a placeholder in the path of the content. Numbers are not padded. -/
def value (content : Content) : Placeholder → String
  | .year => toString content.publishedAt.year
  | .month => toString content.publishedAt.month
  | .day => toString content.publishedAt.day
  | .title => content.permalink

end Content

/-- The canonical path of the content, without a leading slash. -/
def Template.generate (t : Template) (content : Content) : String :=
  t.fill content.value

end BlogRouting
