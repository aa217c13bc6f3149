import BlogRouting.Content.Revision
import BlogRouting.Content.Store
import BlogRouting.Proofs.Text.Numerals

/-!
# Looking up content

A query accepts the items that its parameters describe (`Query.accepts_iff_describes`). The query
for the parameters of an item's own path accepts exactly the items that live at the same address
(`Query.exists_ofParams?`): its slug is the item's, and the parts of its date, written without
padding, are read back as they were. The newest revision of an item is the item itself or one of the
candidates (`Revision.mem_of_latest?`).
-/

namespace BlogRouting

/-- Whether `other` has the slug of the item, and its value of every part of the date that the
template mentions. -/
def Template.sameAddress (t : Template) (content other : Content) : Bool :=
  other.permalink = content.permalink
    && (!t.has .year || other.publishedAt.year = content.publishedAt.year)
    && (!t.has .month || other.publishedAt.month = content.publishedAt.month)
    && (!t.has .day || other.publishedAt.day = content.publishedAt.day)

@[simp] theorem Template.sameAddress_self (t : Template) (content : Content) :
    t.sameAddress content content = true := by
  simp [sameAddress]

/-- Items at the same address have the same slug, whatever else the format mentions. -/
theorem Template.permalink_of_sameAddress {t : Template} {content other : Content}
    (h : t.sameAddress content other = true) : other.permalink = content.permalink := by
  simp only [sameAddress, Bool.and_eq_true, decide_eq_true_eq] at h
  exact h.1.1.1

/-! ## Dates -/

/-- The parts of a date that exists fit into the widths that a query reads them with. -/
theorem DateTime.bounds_of_isValid {t : DateTime} (h : t.isValid = true) :
    t.year ≤ 262142 ∧ t.month ≤ 12 ∧ t.day ≤ 31 := by
  simp only [isValid, Bool.and_eq_true, decide_eq_true_eq] at h
  obtain ⟨⟨⟨⟨⟨⟨⟨-, hyear⟩, hfirst⟩, hday⟩, -⟩, -⟩, -⟩, -⟩ := h
  refine ⟨hyear, ?_⟩
  unfold daysInMonth at hday
  split at hday
  · split at hday <;> omega
  all_goals omega

namespace Query

/-- A year that a path can hold is read back from it. -/
theorem year?_toString {year : Int} (hlow : 0 ≤ year) (hhigh : year ≤ 262142) :
    year? (toString year) = some year := by
  obtain ⟨n, rfl⟩ := Int.eq_ofNat_of_zero_le hlow
  have htext : toString (n : Int) = toString n := rfl
  have hguard : (guard (-2147483648 ≤ (n : Int) ∧ (n : Int) ≤ 2147483647) : Option Unit)
      = some () := if_pos (by omega)
  unfold year?
  rw [htext, Numeral.signed?_toString]
  exact congrArg (Option.bind · fun _ => some (n : Int)) hguard

/-- A month or a day is read back from a path. -/
theorem count?_toString {n : Nat} (h : n ≤ 31) : count? (toString n) = some n := by
  have hguard : (guard (n ≤ 4294967295) : Option Unit) = some () := if_pos (by omega)
  unfold count?
  rw [Numeral.unsigned?_toString]
  exact congrArg (Option.bind · fun _ => some n) hguard

/-- The query for the parameters of an item's own path. -/
theorem exists_ofParams? {t : Template} {params : Params} {content : Content}
    (hdate : content.publishedAt.isValid = true) (hyear : 0 ≤ content.publishedAt.year)
    (htitle : t.has .title = true)
    (hparams : ∀ p, params.get? p = if t.has p then some (content.value p) else none) :
    ∃ query, ofParams? params = some query ∧
      ∀ other, query.accepts other = t.sameAddress content other := by
  obtain ⟨hyearMax, hmonthMax, hdayMax⟩ := DateTime.bounds_of_isValid hdate
  -- each component is read as the part of the date that was written, if it is mentioned at all
  have hcomponent {α : Type} {read : String → Option α} {p : Placeholder} {value : α}
      (hread : read (content.value p) = some value) :
      component? read (params.get? p) = some (if t.has p then some value else none) := by
    rw [hparams p]
    split <;> simp [component?, hread]
  have hy : component? year? params.year = _ :=
    hcomponent (p := .year) (year?_toString hyear hyearMax)
  have hm : component? count? params.month = _ :=
    hcomponent (p := .month) (count?_toString (show _ ≤ 31 by omega))
  have hd : component? count? params.day = _ := hcomponent (p := .day) (count?_toString hdayMax)
  have hslug : params.slug = content.permalink := by
    have htext : params.title = some content.permalink := by
      have := hparams .title
      rwa [if_pos htitle] at this
    simp [Params.slug, htext]
  refine ⟨⟨content.permalink, _, _, _⟩, by rw [ofParams?, hy, hm, hd, hslug]; rfl, fun other => ?_⟩
  -- a component that is not mentioned accepts every date
  have hpart {α : Type} [DecidableEq α] (p : Placeholder) (a b : α) :
      (if t.has p then some a else none).all (· = b) = (!t.has p || decide (b = a)) := by
    cases t.has p <;> simp [eq_comm]
  unfold accepts
  rw [hpart, hpart, hpart]
  rfl

end Query

/-! ## What a query accepts -/

/-- The content has the slug of the parameters and every part of the date that they give. -/
structure Params.Describes (params : Params) (content : Content) : Prop where
  slug : content.permalink = params.slug
  year : ∀ text ∈ params.year, Query.year? text = some content.publishedAt.year
  month : ∀ text ∈ params.month, Query.count? text = some content.publishedAt.month
  day : ∀ text ∈ params.day, Query.count? text = some content.publishedAt.day

namespace Query

/-- A query compares a part of the date exactly if the parameters give it, and then as a number. -/
theorem all_component? {α : Type} [DecidableEq α] {read : String → Option α}
    {text? : Option String} {component : Option α} {value : α}
    (h : component? read text? = some component) :
    component.all (· = value) = true ↔ ∀ text ∈ text?, read text = some value := by
  cases text? with
  | none =>
    cases h
    simp
  | some text =>
    obtain ⟨a, ha, rfl⟩ := Option.map_eq_some_iff.1 h
    simp [ha]

/-- What a query accepts is what its parameters describe. -/
theorem accepts_iff_describes {params : Params} {query : Query} {content : Content}
    (h : ofParams? params = some query) :
    query.accepts content = true ↔ params.Describes content := by
  obtain ⟨year, hyear, h⟩ := Option.bind_eq_some_iff.1 h
  obtain ⟨month, hmonth, h⟩ := Option.bind_eq_some_iff.1 h
  obtain ⟨day, hday, h⟩ := Option.bind_eq_some_iff.1 h
  cases h
  simp only [accepts, Bool.and_eq_true, decide_eq_true_eq, all_component? hyear,
    all_component? hmonth, all_component? hday]
  refine ⟨?_, ?_⟩
  · intro h
    obtain ⟨⟨⟨hslug, hyear⟩, hmonth⟩, hday⟩ := h
    exact ⟨hslug, hyear, hmonth, hday⟩
  · intro h
    exact ⟨⟨⟨h.slug, h.year⟩, h.month⟩, h.day⟩

end Query

/-! ## Revisions -/

namespace Revision

/-- The newest of some contents is one of them. -/
theorem foldl_newer_eq_or_mem (start : Content) (candidates : List Content) :
    candidates.foldl newer start = start ∨ candidates.foldl newer start ∈ candidates := by
  induction candidates generalizing start with
  | nil => exact .inl rfl
  | cons next rest ih =>
    rw [List.foldl_cons]
    rcases ih (newer start next) with hnext | hmem
    · rw [hnext, newer]
      split
      · exact .inr List.mem_cons_self
      · exact .inl rfl
    · exact .inr (List.mem_cons_of_mem _ hmem)

theorem mem_of_newest? {candidates : List Content} {c : Content}
    (h : newest? candidates = some c) : c ∈ candidates := by
  cases candidates with
  | nil => exact absurd h (by simp [newest?])
  | cons first rest =>
    cases h
    exact List.mem_cons.2 (foldl_newer_eq_or_mem first rest)

/-- A walk never leaves the candidates. -/
theorem mem_of_walk {candidates : List Content} {visited : List Nat} {current c : Content}
    {steps : Nat} (h : walk candidates visited current steps = some c) :
    c = current ∨ c ∈ candidates := by
  induction steps generalizing visited current with
  | zero =>
    unfold walk at h
    split at h
    · exact .inl (Option.some.inj h).symm
    · exact absurd h (by simp)
  | succ steps ih =>
    unfold walk at h
    split at h
    · exact .inl (Option.some.inj h).symm
    · rename_i next hnext
      split at h
      · exact absurd h (by simp)
      · rcases ih h with rfl | hmem
        · exact .inr (List.mem_filter.1 (mem_of_newest? hnext)).1
        · exact .inr hmem

theorem mem_of_latest? {candidates : List Content} {item c : Content}
    (h : latest? item candidates = some c) : c = item ∨ c ∈ candidates :=
  mem_of_walk h

end Revision

end BlogRouting
