/-!
# Slugs

The slug of a title consists of words of lower-case ASCII letters and digits with single hyphens
between them. Everything else in the title only separates words. Which ASCII text stands for a
character outside ASCII is for a transliteration to say.
-/

namespace BlogRouting

/-- The ASCII reading of a character outside ASCII, if it has one. -/
abbrev Transliteration := Char → Option String

/-- A letter or a digit in lower case, a hyphen for anything else. -/
def asciiReading (c : Char) : Char :=
  if c.isAlphanum then c.toLower else '-'

/-- What `c` contributes to a slug. A character without a reading contributes a hyphen. -/
def slugReading (readings : Transliteration) (c : Char) : List Char :=
  if c.toNat < 0x80 then [asciiReading c]
  else ((readings c).getD "-").toList.map asciiReading

/-- The words of a title, each without hyphens and not empty. -/
def slugWords (readings : Transliteration) (title : String) : List (List Char) :=
  ((title.toList.flatMap (slugReading readings)).splitOn '-').filter (· ≠ [])

/-- The slug of a title, empty if the title has no letters or digits. -/
def slug (readings : Transliteration) (title : String) : String :=
  .ofList (['-'].intercalate (slugWords readings title))

variable {readings others : Transliteration} {title : String}

/-- Only what is said about the characters of the title counts. -/
theorem slug_congr (h : ∀ c ∈ title.toList, 0x80 ≤ c.toNat → readings c = others c) :
    slug readings title = slug others title := by
  have hreading : title.toList.flatMap (slugReading readings)
      = title.toList.flatMap (slugReading others) := by
    rw [List.flatMap_def, List.flatMap_def]
    refine congrArg List.flatten (List.map_congr_left fun c hc => ?_)
    unfold slugReading
    split
    · rfl
    · rw [h c hc (by omega)]
  rw [slug, slug, slugWords, slugWords, hreading]

/-- The slug of a title in ASCII is the same by every transliteration. -/
theorem slug_of_ascii (h : title.toList.all (·.toNat < 0x80) = true) (readings : Transliteration) :
    slug readings title = slug (fun _ => none) title :=
  slug_congr fun c hc hge => absurd (of_decide_eq_true (List.all_eq_true.1 h c hc)) (by omega)

end BlogRouting
