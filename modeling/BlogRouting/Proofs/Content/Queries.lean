import BlogRouting.Content.Query
import BlogRouting.Proofs.Template.Rendering
import BlogRouting.Proofs.Text.Numerals

/-!
# Which parameters make a query

The dates that a path says are digits without bounds, those of a query are integers of 32 bits. So
the parameters of a path that matches make a query if and only if each part of the date is small
enough (`Query.isSome_ofParams?_iff`). A query has the numbers that its parameters denote, whatever
text they are (`Query.ofParams?_eq_some_iff`).
-/

namespace BlogRouting

/-- The date fits in the integers of a query, of 32 bits each, where the year has a sign. -/
structure Params.FitsQuery (params : Params) : Prop where
  year : ∀ text ∈ params.year, Numeral.value text.toList ≤ 2147483647
  month : ∀ text ∈ params.month, Numeral.value text.toList ≤ 4294967295
  day : ∀ text ∈ params.day, Numeral.value text.toList ≤ 4294967295

/-! ## Dates are digits -/

/-- The parts of the date are nothing but digits. -/
def Params.HasDigits (params : Params) : Prop :=
  ∀ p ≠ .title, ∀ text, params.get? p = some text → Numeral.IsDigits text.toList

/-- Whatever comes twice, each parameter has the value of one of the pairs. -/
theorem Params.mem_of_get?_foldl_insert {pairs : List (Placeholder × String)} {params : Params}
    {p : Placeholder} {value : String}
    (h : (pairs.foldl (fun params (q, value) => params.insert q value) params).get? p
      = some value) :
    (p, value) ∈ pairs ∨ params.get? p = some value := by
  induction pairs generalizing params with
  | nil => exact .inr h
  | cons pair pairs ih =>
    rcases ih h with hmem | hget
    · exact .inl (List.mem_cons_of_mem _ hmem)
    · rw [get?_insert] at hget
      split at hget
      · rename_i heq
        cases hget
        exact .inl (by rw [← heq]; exact List.mem_cons_self)
      · exact .inr hget

theorem Params.mem_of_get?_ofList {pairs : List (Placeholder × String)} {p : Placeholder}
    {value : String} (h : (ofList pairs).get? p = some value) : (p, value) ∈ pairs := by
  rcases mem_of_get?_foldl_insert h with hmem | hget
  · exact hmem
  · cases p <;> exact absurd hget (by simp [get?])

/-- What is captured for a part of the date are digits. -/
theorem Template.hasDigits_of_capture? {t : Template} {text : List Char} {params : Params}
    (h : t.capture? text = some params) : params.HasDigits := by
  intro p hp value hvalue
  rw [capture?_eq] at h
  obtain ⟨bindings, hbindings, rfl⟩ := Option.map_eq_some_iff.1 h
  obtain ⟨pieces, hbest, rfl⟩ := Segment.capture?_eq_some_iff.1 hbindings
  have hmem := Params.mem_of_get?_ofList hvalue
  obtain ⟨⟨q, piece⟩, hbound, hpair⟩ := List.mem_map.1 hmem
  cases hpair
  obtain ⟨i, hsegment, hpiece⟩ := (Segment.mem_bindings hbest.fits).1 hbound
  have hfits := hbest.fits.hasPiece hsegment hpiece
  rw [String.toList_ofList]
  exact ⟨(Segment.hasPiece_placeholder_iff.1 hfits).1, hfits.isDigit hp⟩

theorem Permalink.hasDigits_of_match? {permalink : Permalink} {path : String} {found : Match}
    (h : permalink.match? path = some found) : found.params.HasDigits := by
  obtain ⟨text, hcapture⟩ := (Template.match?_eq_some_iff.1 h).exists_capture?
  exact Template.hasDigits_of_capture? hcapture

/-! ## Digits that can be read -/

namespace Query

variable {text : String} {params : Params}

theorem guard_bind_eq_some_iff {α : Type} {p : Prop} [Decidable p] {a b : α} :
    ((guard p : Option Unit) >>= fun _ => some a) = some b ↔ p ∧ a = b := by
  by_cases h : p
  · have hguard : (guard p : Option Unit) = some () := if_pos h
    rw [hguard]
    simp [h]
  · have hguard : (guard p : Option Unit) = none := if_neg h
    rw [hguard]
    simp [h]

theorem isSome_guard_bind {α : Type} {p : Prop} [Decidable p] {a : α} :
    ((guard p : Option Unit) >>= fun _ => some a).isSome ↔ p := by
  simp only [Option.isSome_iff_exists, guard_bind_eq_some_iff, exists_and_left, exists_eq',
    and_true]

/-- Digits are a year if their value fits into thirty-two bits with a sign. -/
theorem isSome_year?_iff (h : Numeral.IsDigits text.toList) :
    (year? text).isSome ↔ Numeral.value text.toList ≤ 2147483647 := by
  unfold year?
  rw [h.signed?_eq]
  refine isSome_guard_bind.trans ?_
  omega

/-- Digits are a month or a day if their value fits into thirty-two bits. -/
theorem isSome_count?_iff (h : Numeral.IsDigits text.toList) :
    (count? text).isSome ↔ Numeral.value text.toList ≤ 4294967295 := by
  unfold count?
  rw [h.unsigned?_eq]
  exact isSome_guard_bind

theorem isSome_component?_iff {α : Type} {read : String → Option α} {text? : Option String} :
    (component? read text?).isSome ↔ ∀ text ∈ text?, (read text).isSome := by
  cases text? <;> simp [component?]

/-- There is a query if every part of the date can be read. -/
theorem isSome_ofParams?_iff_read :
    (ofParams? params).isSome ↔
      (∀ text ∈ params.year, (year? text).isSome) ∧
        (∀ text ∈ params.month, (count? text).isSome) ∧
          ∀ text ∈ params.day, (count? text).isSome := by
  rw [← isSome_component?_iff, ← isSome_component?_iff, ← isSome_component?_iff]
  unfold ofParams?
  cases component? year? params.year with
  | none => simp
  | some year =>
    cases component? count? params.month with
    | none => simp
    | some month => cases component? count? params.day <;> simp

/-- Matched parameters make a query if and only if their date fits in its integers. -/
theorem isSome_ofParams?_iff (h : params.HasDigits) :
    (ofParams? params).isSome ↔ params.FitsQuery := by
  have hyear : (∀ text ∈ params.year, (year? text).isSome) ↔
      ∀ text ∈ params.year, Numeral.value text.toList ≤ 2147483647 :=
    forall₂_congr fun text htext => isSome_year?_iff (h .year (by decide) text htext)
  have hmonth : (∀ text ∈ params.month, (count? text).isSome) ↔
      ∀ text ∈ params.month, Numeral.value text.toList ≤ 4294967295 :=
    forall₂_congr fun text htext => isSome_count?_iff (h .month (by decide) text htext)
  have hday : (∀ text ∈ params.day, (count? text).isSome) ↔
      ∀ text ∈ params.day, Numeral.value text.toList ≤ 4294967295 :=
    forall₂_congr fun text htext => isSome_count?_iff (h .day (by decide) text htext)
  rw [isSome_ofParams?_iff_read, hyear, hmonth, hday]
  exact ⟨fun h => ⟨h.1, h.2.1, h.2.2⟩, fun h => ⟨h.year, h.month, h.day⟩⟩

/-! ## The numbers of a query -/

/-- The text is a numeral for the year `n`, which is one of 32 bits with a sign. -/
def IsYear (text : String) (n : Int) : Prop :=
  Numeral.Denotes ['+', '-'] text.toList n ∧ -2 ^ 31 ≤ n ∧ n ≤ 2 ^ 31 - 1

/-- The text is a numeral for the month or the day `n`, which is one of 32 bits. -/
def IsCount (text : String) (n : Nat) : Prop :=
  Numeral.Denotes ['+'] text.toList n ∧ n ≤ 2 ^ 32 - 1

/-- Exactly the texts that are numerals of a year in range are read, as what they are worth. -/
theorem year?_eq_some_iff {n : Int} : year? text = some n ↔ IsYear text n := by
  unfold year? IsYear
  rw [← Numeral.signed?_eq_some_iff]
  cases Numeral.signed? text.toList with
  | none => simp
  | some m =>
    refine guard_bind_eq_some_iff.trans ?_
    rw [Option.some.injEq]
    omega

/-- Exactly the texts that are numerals of a count in range are read, as what they are worth. -/
theorem count?_eq_some_iff {n : Nat} : count? text = some n ↔ IsCount text n := by
  unfold count? IsCount
  rw [← Numeral.unsigned?_eq_some_iff]
  cases Numeral.unsigned? text.toList with
  | none => simp
  | some m =>
    refine guard_bind_eq_some_iff.trans ?_
    rw [Option.some.injEq]
    omega

/-- A component that is left out stays open, and any other is what its text is read as. -/
theorem component?_eq_some_iff {α : Type} {read : String → Option α} {reads : String → α → Prop}
    (hread : ∀ text a, read text = some a ↔ reads text a) {text? : Option String}
    {component : Option α} :
    component? read text? = some component ↔ Option.Rel reads text? component := by
  refine ⟨?_, ?_⟩
  · intro h
    cases text? with
    | none =>
      cases h
      exact .none
    | some text =>
      obtain ⟨a, ha, rfl⟩ := Option.map_eq_some_iff.1 h
      exact .some ((hread text a).1 ha)
  · intro h
    cases h with
    | none => rfl
    | some h => exact Option.map_eq_some_iff.2 ⟨_, (hread _ _).2 h, rfl⟩

/-- A query has the slug of the parameters and, of the date, exactly the parts that they give, each
as what its numeral is worth. -/
theorem ofParams?_eq_some_iff {query : Query} :
    ofParams? params = some query ↔ query.slug = params.slug ∧
      Option.Rel IsYear params.year query.year ∧ Option.Rel IsCount params.month query.month ∧
        Option.Rel IsCount params.day query.day := by
  have hyear (text : String) (n : Int) : year? text = some n ↔ IsYear text n := year?_eq_some_iff
  have hcount (text : String) (n : Nat) : count? text = some n ↔ IsCount text n :=
    count?_eq_some_iff
  rw [← component?_eq_some_iff hyear, ← component?_eq_some_iff hcount,
    ← component?_eq_some_iff hcount]
  refine ⟨?_, ?_⟩
  · intro h
    obtain ⟨year, hyear, h⟩ := Option.bind_eq_some_iff.1 h
    obtain ⟨month, hmonth, h⟩ := Option.bind_eq_some_iff.1 h
    obtain ⟨day, hday, h⟩ := Option.bind_eq_some_iff.1 h
    cases h
    exact ⟨rfl, hyear, hmonth, hday⟩
  · intro h
    obtain ⟨hslug, hyear, hmonth, hday⟩ := h
    unfold ofParams?
    rw [hyear, hmonth, hday, ← hslug]
    rfl

end Query

end BlogRouting
