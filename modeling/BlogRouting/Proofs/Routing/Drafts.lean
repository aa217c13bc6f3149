import BlogRouting.Proofs.Routing.Attempts
import BlogRouting.Proofs.Routing.Canonical

/-!
# Drafts that nobody sees

A lookup gives drafts only along with a published item that the same query accepts, and then all of
them have one slug. So a draft whose slug no published item has is in no lookup, and taking such
drafts away changes none (`lookup_withoutUnseen`). With the lookups the attempts at any request stay
the same, and with them every answer (`resolve_withoutUnseen`).
-/

namespace BlogRouting

namespace ContentStore

variable {store : ContentStore} {query : Query} {item : Content}

/-- Whether a published item of the store has the slug. -/
def publishes (store : ContentStore) (slug : String) : Bool :=
  store.items.any fun item => item.published && item.permalink = slug

/-- The store without the drafts whose slug no published item has. -/
def withoutUnseen (store : ContentStore) : ContentStore :=
  ⟨store.items.filter fun item => item.published || store.publishes item.permalink⟩

theorem publishes_iff {slug : String} :
    store.publishes slug = true ↔
      ∃ item ∈ store.items, item.published = true ∧ item.permalink = slug := by
  simp [publishes]

theorem permalink_of_accepts (h : query.accepts item = true) : item.permalink = query.slug := by
  simp only [Query.accepts, Bool.and_eq_true, decide_eq_true_eq] at h
  exact h.1.1.1

/-- What is published is there as before, in the same order. -/
theorem firstPublished?_withoutUnseen :
    store.withoutUnseen.firstPublished? query = store.firstPublished? query := by
  unfold firstPublished? withoutUnseen
  rw [List.find?_filter]
  congr 1
  funext item
  cases item.published <;> simp

/-- Where a published item is found, all drafts beside it have been kept. -/
theorem find_withoutUnseen {first : Content} (h : store.firstPublished? query = some first) :
    store.withoutUnseen.find query = store.find query := by
  obtain ⟨hstored, haccepts, hpublished⟩ := of_firstPublished? h
  have hslug : store.publishes query.slug = true :=
    publishes_iff.2 ⟨first, hstored, hpublished, permalink_of_accepts haccepts⟩
  unfold find withoutUnseen
  rw [List.filter_filter]
  refine List.filter_congr fun item _ => ?_
  cases hitem : query.accepts item with
  | false => rfl
  | true =>
    rw [permalink_of_accepts hitem, hslug]
    simp

end ContentStore

namespace Router

variable {store : ContentStore} {params : Params}

/-- What a lookup in memory gives, if the parameters make a query. -/
theorem lookup_withContent_answer (router : Router) (store : ContentStore) (params : Params) :
    (router.withContent store.answer).lookup params
      = .ok ((Query.ofParams? params).bind fun query =>
          (store.firstPublished? query).map (·, store.find query)) := by
  unfold lookup
  cases Query.ofParams? params with
  | none => rfl
  | some query =>
    rw [Option.bind_some, ← store.find?_published query]
    rfl

/-- No lookup sees the drafts that are left out, since all that it finds has one slug. -/
theorem lookup_withoutUnseen (router : Router) (store : ContentStore) (params : Params) :
    (router.withContent store.withoutUnseen.answer).lookup params
      = (router.withContent store.answer).lookup params := by
  rw [lookup_withContent_answer, lookup_withContent_answer]
  congr 2
  funext query
  rw [ContentStore.firstPublished?_withoutUnseen]
  cases hfirst : store.firstPublished? query with
  | none => rfl
  | some first => rw [ContentStore.find_withoutUnseen hfirst]

/-- Drafts whose slug no published item has make no difference to any request: neither to what is
served or in which mode, nor to where a redirect leads. -/
theorem resolve_withoutUnseen (router : Router) (store : ContentStore) (rawPath : String) :
    (router.withContent store.withoutUnseen.answer).resolve rawPath
      = (router.withContent store.answer).resolve rawPath := by
  rw [resolve_eq_firstAnswer, resolve_eq_firstAnswer]
  have hattempts (path : String) :
      (router.withContent store.withoutUnseen.answer).contentAttempts path
        = (router.withContent store.answer).contentAttempts path :=
    contentAttempts_withContent_congr (lookup_withoutUnseen router store)
  have hredirect (path : String) :
      (router.withContent store.withoutUnseen.answer).redirectStep path
        = (router.withContent store.answer).redirectStep path := rfl
  show settled (firstAnswer (_ ++ [_])) = settled (firstAnswer (_ ++ [_]))
  rw [hattempts, hredirect]
  rfl

end Router

end BlogRouting
