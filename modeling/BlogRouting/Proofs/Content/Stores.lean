import BlogRouting.Content.Store
import Mathlib.Data.List.Basic
import Mathlib.Data.List.FinRange
import Mathlib.Data.List.Induction

/-!
# What a store makes of an item

An item that comes without an id gets one above all others (`lt_nextId`, `exists_nextId_eq`), and
what is inserted stands behind what is there (`find_insert`). A revision that is stored keeps the
slug and the date of what it revises, so the same queries find both (`find_insert_revise`).

An item that has been stored has an id, and a slug unless its title yields none
(`Content.IsSettled`). To store it once more, as a revision of itself or otherwise, leaves its slug
alone, also if it is blank (`permalink_settle_revise`). Insertions one after another settle each
item by what was there before it (`getElem?_items_ofList`), and so a store is faithful to what was
inserted (`ofList_faithful`). All this holds by whatever transliteration slugs are made.
-/

namespace BlogRouting

variable {readings : Transliteration} {store : ContentStore} {contents : List Content}
  {content item : Content} {query : Query} {id i : Nat}

/-- What is known of an item that has been stored. -/
structure Content.IsSettled (readings : Transliteration) (item : Content) : Prop where
  id_ne_zero : item.id ≠ 0
  slug_eq_empty : item.permalink = "" → slug readings item.title = ""

theorem Query.accepts_congr {a b : Content} (hslug : a.permalink = b.permalink)
    (hdate : a.publishedAt = b.publishedAt) : query.accepts a = query.accepts b := by
  simp only [accepts, hslug, hdate]

namespace ContentStore

/-! ## Ids -/

/-- The fold over the ids finds the greatest of them. -/
theorem nextId_eq (store : ContentStore) :
    store.nextId = (store.items.map (·.id)).max?.getD 0 + 1 := by
  rw [nextId, List.foldl_max, Nat.zero_max]

/-- An id that the store gives out is above all that are there. -/
theorem lt_nextId (h : item ∈ store.items) : item.id < store.nextId := by
  have hmem : item.id ∈ store.items.map (·.id) := List.mem_map_of_mem h
  cases hmax : (store.items.map (·.id)).max? with
  | none => simp [List.max?_eq_none_iff.1 hmax] at hmem
  | some greatest =>
    have hle := (List.max?_eq_some_iff.1 hmax).2 _ hmem
    rw [nextId_eq, hmax, Option.getD_some]
    omega

/-- It is above the greatest of them by one. -/
theorem exists_nextId_eq (h : store.items ≠ []) :
    ∃ item ∈ store.items, store.nextId = item.id + 1 := by
  cases hmax : (store.items.map (·.id)).max? with
  | none => simp [h] at hmax
  | some greatest =>
    obtain ⟨item, hitem, rfl⟩ := List.mem_map.1 (List.max?_eq_some_iff.1 hmax).1
    exact ⟨item, hitem, by rw [nextId_eq, hmax, Option.getD_some]⟩

/-! ## What is found -/

/-- A query finds what it found before, and behind that the new item if it accepts it. -/
theorem find_insert : (store.insert readings content).find query =
    store.find query ++ [store.settle readings content].filter query.accepts := by
  rw [find, items_insert, List.filter_append, find]

theorem settle_revise (h : item.permalink ≠ "") :
    store.settle readings (item.revise 0) =
      { item with id := store.nextId, published := false, parent := some item.id } := by
  simp [settle, Content.revise, h]

/-- Whoever finds the item finds a stored revision of it, too. -/
theorem find_insert_revise (h : item.permalink ≠ "") (haccepts : query.accepts item = true) :
    (store.insert readings (item.revise 0)).find query =
      store.find query ++ [store.settle readings (item.revise 0)] := by
  have hrevision : query.accepts (store.settle readings (item.revise 0)) = true := by
    rw [settle_revise h, ← haccepts]
    exact Query.accepts_congr rfl rfl
  rw [find_insert, List.filter_cons_of_pos hrevision, List.filter_nil]

/-! ## What is settled -/

/-- Whatever is inserted is stored with an id and, where the title yields one, with a slug. -/
theorem isSettled_settle (readings : Transliteration) (store : ContentStore) (content : Content) :
    (store.settle readings content).IsSettled readings := by
  refine ⟨?_, ?_⟩
  · show (if content.id = 0 then store.nextId else content.id) ≠ 0
    split
    · exact Nat.succ_ne_zero _
    · assumption
  · show (if content.permalink = "" then slug readings content.title else content.permalink) = "" →
      slug readings content.title = ""
    split
    · exact id
    · intro hempty
      contradiction

/-- A slug that is still missing is derived from the same title once more, with the same result. -/
theorem permalink_settle_revise (h : item.IsSettled readings) (store : ContentStore) (id : Nat) :
    (store.settle readings (item.revise id)).permalink = item.permalink := by
  show (if item.permalink = "" then slug readings item.title else item.permalink) = item.permalink
  split
  · rename_i hempty
    rw [h.slug_eq_empty hempty, hempty]
  · rfl

/-- The same queries accept a stored item and what is stored of a revision of it. -/
theorem accepts_settle_revise (h : item.IsSettled readings) (store : ContentStore) (id : Nat) :
    query.accepts (store.settle readings (item.revise id)) = query.accepts item :=
  Query.accepts_congr (permalink_settle_revise h store id) rfl

/-! ## Runs of insertions -/

/-- The last item is inserted into what the items in front of it have made. -/
theorem ofList_concat (contents : List Content) (content : Content) :
    ofList readings (contents ++ [content])
      = (ofList readings contents).insert readings content := by
  rw [ofList, List.foldl_append]
  rfl

theorem length_items_ofList (contents : List Content) :
    (ofList readings contents).items.length = contents.length := by
  induction contents using List.reverseRecOn with
  | nil => rfl
  | append_singleton contents content ih =>
    rw [ofList_concat, items_insert, List.length_append, List.length_append, ih]
    rfl

/-- Everything in a store has been settled when it was inserted. -/
theorem isSettled_of_mem_ofList (h : item ∈ (ofList readings contents).items) :
    item.IsSettled readings := by
  induction contents using List.reverseRecOn with
  | nil => exact absurd h (by simp [ofList, empty])
  | append_singleton contents content ih =>
    rw [ofList_concat, items_insert, List.mem_append, List.mem_singleton] at h
    rcases h with h | rfl
    · exact ih h
    · exact isSettled_settle _ _ _

/-- Later insertions leave alone what is there. -/
theorem take_items_ofList (h : i ≤ contents.length) :
    (ofList readings contents).items.take i = (ofList readings (contents.take i)).items := by
  induction contents using List.reverseRecOn with
  | nil => simp [ofList, empty]
  | append_singleton contents content ih =>
    by_cases hi : i ≤ contents.length
    · rw [ofList_concat, items_insert, List.take_append_of_le_length hi,
        List.take_append_of_le_length (by rwa [length_items_ofList]), ih hi]
    · -- all of it is taken
      have hlength : (contents ++ [content]).length ≤ i := by
        rw [List.length_append, List.length_singleton]
        omega
      rw [List.take_of_length_le hlength,
        List.take_of_length_le (by rwa [length_items_ofList])]

/-- Each item is settled by the items in front of it. -/
theorem getElem?_items_ofList (h : contents[i]? = some content) :
    (ofList readings contents).items[i]?
      = some ((ofList readings (contents.take i)).settle readings content) := by
  obtain ⟨hi, rfl⟩ := List.getElem?_eq_some_iff.1 h
  have htake : contents.take (i + 1) = contents.take i ++ [contents[i]] :=
    (List.take_append_getElem hi).symm
  have hitems : (ofList readings contents).items.take (i + 1)
      = (ofList readings (contents.take i)).items
        ++ [(ofList readings (contents.take i)).settle readings contents[i]] := by
    rw [take_items_ofList hi, htake, ofList_concat, items_insert]
  have hlength : (ofList readings (contents.take i)).items.length = i := by
    rw [length_items_ofList, List.length_take]
    omega
  -- later insertions leave the first `i + 1` items alone
  rw [← List.getElem?_take_of_lt (Nat.lt_succ_self i), hitems,
    List.getElem?_append_right hlength.le, hlength, Nat.sub_self]
  rfl

/-- What is found stands at the places whose items the query accepts, from the first place on. -/
theorem exists_places_find (store : ContentStore) (query : Query) :
    ∃ places : List (Fin store.items.length), places.Pairwise (· < ·) ∧
      (∀ place, place ∈ places ↔ query.accepts (store.items.get place) = true) ∧
      store.find query = places.map store.items.get := by
  refine ⟨(List.finRange _).filter (query.accepts <| store.items.get ·), ?_, ?_, ?_⟩
  · exact List.Pairwise.filter _ (List.pairwise_lt_finRange _)
  · intro place
    rw [List.mem_filter, and_iff_right (List.mem_finRange place)]
  · conv_lhs => rw [find, ← List.map_get_finRange store.items]
    exact List.filter_map ..

/-- What insertions one after another make of an empty store, by any transliteration: the items in
order, each with an id above those in front of it if it had none and with the slug of its title if
it had none, and else as it was. A query finds exactly the items that it accepts, in order, and it
accepts an item exactly if it accepts what any store makes of a revision of it. -/
theorem ofList_faithful (readings : Transliteration) (contents : List Content) :
    let store := ofList readings contents
    (store.items.length = contents.length ∧
      ∀ i content, contents[i]? = some content →
        let front := (store.items.take i).map (·.id)
        (store.items[i]? = some { content with
          id := if content.id = 0 then front.max?.getD 0 + 1 else content.id
          permalink :=
            if content.permalink = "" then slug readings content.title else content.permalink }) ∧
        ∀ stored, store.items[i]? = some stored → content.id = 0 →
          ∀ before ∈ front, before < stored.id) ∧
    (∀ item ∈ store.items, item.id ≠ 0) ∧
    (∀ query : Query, ∃ places : List (Fin store.items.length), places.Pairwise (· < ·) ∧
      (∀ place, place ∈ places ↔ query.accepts (store.items.get place) = true) ∧
      store.find query = places.map store.items.get) ∧
    ∀ item ∈ store.items, ∀ (later : ContentStore) (id : Nat), ∃ revision,
      (later.insert readings (item.revise id)).items = later.items ++ [revision] ∧
      ∀ query : Query, query.accepts revision = query.accepts item := by
  intro store
  refine ⟨⟨length_items_ofList contents, fun i content hcontent => ?_⟩,
    fun item hitem => (isSettled_of_mem_ofList hitem).id_ne_zero, exists_places_find store, ?_⟩
  · intro front
    -- what is in front of the item is what the store held when the item came
    have hfront : front = (ofList readings (contents.take i)).items.map (·.id) := by
      have hi : i < contents.length := (List.getElem?_eq_some_iff.1 hcontent).1
      rw [← take_items_ofList hi.le]
    have hstored : store.items[i]? = _ := getElem?_items_ofList hcontent
    refine ⟨?_, ?_⟩
    · rw [hstored, settle, nextId_eq, ← hfront]
    · intro stored hsome hid before hbefore
      rw [hfront] at hbefore
      obtain ⟨item, hitem, rfl⟩ := List.mem_map.1 hbefore
      obtain rfl := Option.some.inj (hstored.symm.trans hsome)
      show item.id < if content.id = 0 then _ else _
      rw [if_pos hid]
      exact lt_nextId hitem
  · intro item hitem later id
    exact ⟨later.settle readings (item.revise id), items_insert _ _ _, fun query =>
      accepts_settle_revise (isSettled_of_mem_ofList hitem) later id⟩

/-- A letter with an accent is read without it. A title without letters yields no slug, and the
revisions of such an item are found where it is found all the same. -/
theorem ofList_faithful_blank :
    let readings : Transliteration := fun c => if c = 'é' then some "e" else none
    let date : DateTime := ⟨2004, 4, 1, 9, 0, 0, 0⟩
    let coffee : Content := { id := 4, title := "Café", publishedAt := date }
    let blank : Content := { id := 5, title := "!", publishedAt := date }
    let store := ofList readings [coffee, { blank with id := 0 }]
    store.items[0]? = some { coffee with permalink := "cafe" } ∧
      store.items[1]? = some blank ∧ blank ∈ store.items ∧ (∀ before ∈ [4], before < blank.id) ∧
      ∀ (later : ContentStore) (id : Nat), ∃ revision,
        (later.insert readings (blank.revise id)).items = later.items ++ [revision] ∧
        ∀ query : Query, query.accepts revision = query.accepts blank := by
  intro readings date coffee blank store
  obtain ⟨⟨-, hitems⟩, -, -, hrevise⟩ := ofList_faithful readings [coffee, { blank with id := 0 }]
  obtain ⟨hcoffee, -⟩ := hitems 0 coffee rfl
  obtain ⟨hstored, hbefore⟩ := hitems 1 { blank with id := 0 } rfl
  have hblank : store.items[1]? = some blank := by
    rw [hstored]
    decide +kernel
  have hfront : (store.items.take 1).map (·.id) = [4] := by decide +kernel
  have hmem : blank ∈ store.items := List.mem_of_getElem? hblank
  rw [hfront] at hbefore
  refine ⟨?_, hblank, hmem, hbefore blank hblank rfl, hrevise blank hmem⟩
  rw [hcoffee]
  decide +kernel

end ContentStore

end BlogRouting
