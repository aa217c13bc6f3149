import BlogRouting.Content.Basic
import BlogRouting.Template.Match
import BlogRouting.Text.Numeral

/-!
# Queries

A query asks for content by its slug and by those parts of its date that a format mentions.
-/

namespace BlogRouting

structure Query where
  slug : String
  year : Option Int := none
  month : Option Nat := none
  day : Option Nat := none
  deriving DecidableEq, Repr

namespace Query

/-- Reads a year of thirty-two bits with a sign. -/
def year? (text : String) : Option Int := do
  let n ← Numeral.signed? text.toList
  guard (-2147483648 ≤ n ∧ n ≤ 2147483647)
  return n

/-- Reads a month or a day of thirty-two bits. -/
def count? (text : String) : Option Nat := do
  let n ← Numeral.unsigned? text.toList
  guard (n ≤ 4294967295)
  return n

/-- What `read` makes of a component that may be absent. Fails on one that cannot be read. -/
def component? {α : Type} (read : String → Option α) : Option String → Option (Option α)
  | none => some none
  | some text => (read text).map some

/-- The query for matched parameters. There is none if a date component is no number of its width,
since no content can have that date. -/
def ofParams? (params : Params) : Option Query := do
  let year ← component? year? params.year
  let month ← component? count? params.month
  let day ← component? count? params.day
  return { slug := params.slug, year, month, day }

/-- Whether the content has the slug and each given part of the date. -/
def accepts (query : Query) (content : Content) : Bool :=
  content.permalink = query.slug
    && query.year.all (· = content.publishedAt.year)
    && query.month.all (· = content.publishedAt.month)
    && query.day.all (· = content.publishedAt.day)

end Query

end BlogRouting
