import BlogRouting.Proofs.Content.Lookups
import Mathlib.Data.List.Chain
import Mathlib.Data.List.Induction

/-!
# Chains of revisions

A walk goes from an item to the newest of the candidates that supersede it, and on from there.
Where it goes next depends on nothing but an id, so a walk that meets an id again goes round for
ever: there is always a next revision, and the limit stops it. That is why the record of visited
ids, which stops it earlier, never changes an answer.

* **`next?_eq_some_iff`**: the next revision is the last candidate with the greatest id among those
  that supersede the item.
* **`Reaches.endless`**: from an item whose id comes back, any number of steps can be taken.
* **`walk_eq_plainWalk`**: the walk with its record is the walk without it.
* **`plainWalk_eq_some_iff`**, **`plainWalk_eq_none_iff`**: what the walk finds is the end of the
  chain, if the limit lets it get there.
-/

namespace BlogRouting.Revision

variable {candidates : List Content} {current next a b c : Content} {id k n steps : Nat}

/-! ## The next revision -/

/-- `next` supersedes the item `id`, and so does no candidate that is newer. Of equal ids the last
in the list counts. -/
def IsNext (candidates : List Content) (id : Nat) (next : Content) : Prop :=
  ∃ before after, candidates = before ++ next :: after ∧ next.parent = some id ∧
    (∀ c ∈ before, c.parent = some id → c.id ≤ next.id) ∧
    ∀ c ∈ after, c.parent = some id → c.id < next.id

theorem newest?_eq_none_iff : newest? candidates = none ↔ candidates = [] := by
  cases candidates <;> simp [newest?]

/-- The newest of more candidates is found by going on from the newest so far. -/
theorem newest?_append {front back : List Content} (h : newest? front = some c) :
    newest? (front ++ back) = some (back.foldl newer c) := by
  cases front with
  | nil => exact absurd h (by simp [newest?])
  | cons first front =>
    cases h
    rw [List.cons_append, newest?, List.foldl_append]

/-- Candidates with smaller ids do not take the place of the newest so far. -/
theorem foldl_newer_of_lt (h : ∀ other ∈ candidates, other.id < c.id) :
    candidates.foldl newer c = c := by
  induction candidates with
  | nil => rfl
  | cons first rest ih =>
    have hfirst : newer c first = c := by
      have := h first List.mem_cons_self
      rw [newer, if_neg (by omega)]
    rw [List.foldl_cons, hfirst]
    exact ih fun other hother => h other (List.mem_cons_of_mem _ hother)

/-- The newest candidate has the greatest id, and of those with that id it is the last one. -/
theorem newest?_eq_some_iff :
    newest? candidates = some c ↔ ∃ before after, candidates = before ++ c :: after ∧
      (∀ other ∈ before, other.id ≤ c.id) ∧ ∀ other ∈ after, other.id < c.id := by
  refine ⟨?_, ?_⟩
  · intro h
    -- the list is read from its end, where a candidate with an equal id comes in
    induction candidates using List.reverseRecOn generalizing c with
    | nil => exact absurd h (by simp [newest?])
    | append_singleton rest last ih =>
      cases hrest : newest? rest with
      | none =>
        rw [newest?_eq_none_iff.1 hrest] at h ⊢
        cases h
        exact ⟨[], [], rfl, by simp, by simp⟩
      | some prior =>
        obtain ⟨before, after, rfl, hbefore, hafter⟩ := ih hrest
        rw [newest?_append hrest, List.foldl_cons, List.foldl_nil, newer] at h
        split at h
        · rename_i hle
          cases h
          refine ⟨before ++ prior :: after, [], rfl, fun other hother => ?_, by simp⟩
          have hprior : other.id ≤ prior.id := by
            rcases List.mem_append.1 hother with hother | hother
            · exact hbefore other hother
            · rcases List.mem_cons.1 hother with rfl | hother
              · exact Nat.le_refl _
              · exact Nat.le_of_lt (hafter other hother)
          exact Nat.le_trans hprior hle
        · rename_i hlt
          cases h
          refine ⟨before, after ++ [last], by simp, hbefore, fun other hother => ?_⟩
          rcases List.mem_append.1 hother with hother | hother
          · exact hafter other hother
          · rw [List.mem_singleton.1 hother]
            omega
  · intro h
    obtain ⟨before, after, rfl, hbefore, hafter⟩ := h
    have hfront : newest? (before ++ [c]) = some c := by
      cases hbest : newest? before with
      | none =>
        rw [newest?_eq_none_iff.1 hbest]
        rfl
      | some best =>
        have hle := hbefore best (mem_of_newest? hbest)
        rw [newest?_append hbest, List.foldl_cons, List.foldl_nil, newer, if_pos hle]
    rw [← List.singleton_append, ← List.append_assoc, newest?_append hfront,
      foldl_newer_of_lt hafter]

theorem next?_eq_none_iff :
    next? candidates id = none ↔ ∀ c ∈ candidates, c.parent ≠ some id := by
  simp [next?, newest?_eq_none_iff, List.filter_eq_nil_iff]

/-- The candidate that the walk goes on to is the newest one that supersedes the item. -/
theorem next?_eq_some_iff : next? candidates id = some next ↔ IsNext candidates id next := by
  rw [next?, newest?_eq_some_iff]
  refine ⟨?_, ?_⟩
  · intro h
    obtain ⟨before, after, hfilter, hbefore, hafter⟩ := h
    obtain ⟨front, rest, rfl, rfl, hrest⟩ := List.filter_eq_append_iff.1 hfilter
    obtain ⟨skipped, back, rfl, hskipped, hnext, rfl⟩ := List.filter_eq_cons_iff.1 hrest
    refine ⟨front ++ skipped, back, by simp, by simpa using hnext, fun c hc hparent => ?_,
      fun c hc hparent => hafter c (List.mem_filter.2 ⟨hc, by simpa using hparent⟩)⟩
    rcases List.mem_append.1 hc with hc | hc
    · exact hbefore c (List.mem_filter.2 ⟨hc, by simpa using hparent⟩)
    · exact absurd hparent (by simpa using hskipped c hc)
  · intro h
    obtain ⟨before, after, rfl, hnext, hbefore, hafter⟩ := h
    refine ⟨before.filter (·.parent = some id), after.filter (·.parent = some id),
      by simp [List.filter_append, hnext], fun c hc => ?_, fun c hc => ?_⟩
    · obtain ⟨hmem, hparent⟩ := List.mem_filter.1 hc
      exact hbefore c hmem (by simpa using hparent)
    · obtain ⟨hmem, hparent⟩ := List.mem_filter.1 hc
      exact hafter c hmem (by simpa using hparent)

theorem IsNext.unique (ha : IsNext candidates id a) (hb : IsNext candidates id b) : a = b :=
  Option.some.inj ((next?_eq_some_iff.2 ha).symm.trans (next?_eq_some_iff.2 hb))

theorem IsNext.mem (h : IsNext candidates id next) : next ∈ candidates := by
  obtain ⟨before, after, rfl, -⟩ := h
  simp

/-- No candidate supersedes the content. -/
def IsLast (candidates : List Content) (c : Content) : Prop :=
  ∀ other ∈ candidates, other.parent ≠ some c.id

/-- An item that a candidate supersedes does not end the chain. -/
theorem IsNext.not_isLast (h : IsNext candidates c.id next) : ¬ IsLast candidates c := by
  intro hlast
  rw [IsLast, ← next?_eq_none_iff, next?_eq_some_iff.2 h] at hlast
  exact absurd hlast (by simp)

/-! ## Steps -/

/-- The third content is reached from the first by a number of steps to the next revision. -/
inductive Reaches (candidates : List Content) : Content → Nat → Content → Prop where
  | refl (c : Content) : Reaches candidates c 0 c
  | step {current next c : Content} {k : Nat} (head : IsNext candidates current.id next)
      (tail : Reaches candidates next k c) : Reaches candidates current (k + 1) c

/-- Two walks make one, with as many steps as both have. -/
theorem Reaches.trans (hab : Reaches candidates a k b) (hbc : Reaches candidates b n c) :
    Reaches candidates a (k + n) c := by
  induction hab with
  | refl _ => simpa using hbc
  | step head _ ih =>
    rw [Nat.add_right_comm]
    exact .step head (ih hbc)

/-- Whoever gets so many steps far gets any smaller number of steps far. -/
theorem Reaches.exists_of_le (h : Reaches candidates a k c) (hle : n ≤ k) :
    ∃ b, Reaches candidates a n b := by
  induction h generalizing n with
  | refl c =>
    obtain rfl : n = 0 := by omega
    exact ⟨c, .refl c⟩
  | step head _ ih =>
    cases n with
    | zero => exact ⟨_, .refl _⟩
    | succ n =>
      obtain ⟨b, hb⟩ := ih (Nat.le_of_succ_le_succ hle)
      exact ⟨b, .step head hb⟩

/-- No step leads beyond the end of a chain. -/
theorem Reaches.le_of_isLast (h : Reaches candidates a k c) (hlast : IsLast candidates c)
    (hb : Reaches candidates a n b) : n ≤ k := by
  induction h generalizing n with
  | refl c =>
    cases hb with
    | refl _ => exact Nat.le_refl _
    | step head _ => exact absurd hlast head.not_isLast
  | step head _ ih =>
    cases hb with
    | refl _ => exact Nat.zero_le _
    | step head' tail =>
      rw [← head.unique head'] at tail
      exact Nat.succ_le_succ (ih hlast tail)

/-- Contents with the same id have the same chain behind them. -/
theorem Reaches.of_id_eq (h : Reaches candidates a (k + 1) c) (hid : a.id = b.id) :
    Reaches candidates b (k + 1) c := by
  cases h with
  | step head tail => exact .step (hid ▸ head) tail

/-- Where an id comes back, the chain has no end: going round often enough makes it as long as one
likes. -/
theorem Reaches.endless (h : Reaches candidates a (k + 1) b) (hid : a.id = b.id) (n : Nat) :
    ∃ c, Reaches candidates a n c := by
  have hround : ∃ c, a.id = c.id ∧ Reaches candidates a (n * (k + 1)) c := by
    induction n with
    | zero => exact ⟨a, rfl, by simpa using Reaches.refl a⟩
    | succ n ih =>
      obtain ⟨c, hc, hreaches⟩ := ih
      rw [Nat.succ_mul]
      exact ⟨b, hid, hreaches.trans (h.of_id_eq hc)⟩
  obtain ⟨c, -, hreaches⟩ := hround
  exact hreaches.exists_of_le (Nat.le_mul_of_pos_right n k.succ_pos)

/-! ## Trails -/

theorem IsNext.parent_eq (h : IsNext candidates id next) : next.parent = some id := by
  obtain ⟨before, after, -, hparent, -⟩ := h
  exact hparent

/-- A walk ends at the item that it began at, or at a candidate. -/
theorem Reaches.eq_or_mem (h : Reaches candidates a k c) : c = a ∨ c ∈ candidates := by
  induction h with
  | refl _ => exact .inl rfl
  | step head _ ih =>
    rcases ih with rfl | hmem
    · exact .inr head.mem
    · exact .inr hmem

/-- The contents passed on the way from the first to the last: each supersedes the one before, and
no id comes twice. -/
structure IsTrail (trail : List Content) (a c : Content) : Prop where
  head_eq : trail.head? = some a
  getLast_eq : trail.getLast? = some c
  linked : trail.IsChain fun prior next => next.parent = some prior.id
  nodup : (trail.map (·.id)).Nodup

/-- A chain that ends leaves a trail. An id that came twice would have let it go round for ever. -/
theorem Reaches.exists_isTrail (h : Reaches candidates a k c) (hlast : IsLast candidates c) :
    ∃ trail, IsTrail trail a c ∧ trail.length = k + 1 ∧
      ∀ b ∈ trail, ∃ n, Reaches candidates a n b := by
  induction h with
  | refl c => exact ⟨[c], ⟨rfl, rfl, .singleton c, by simp⟩, rfl, by simpa using ⟨0, .refl c⟩⟩
  | @step current next c k head tail ih =>
    obtain ⟨trail, htrail, hlength, hpassed⟩ := ih hlast
    have hne : trail ≠ [] := by
      rintro rfl
      simp at hlength
    have hpassed' (b : Content) (hb : b ∈ trail) : ∃ n, Reaches candidates current (n + 1) b := by
      obtain ⟨n, hn⟩ := hpassed b hb
      exact ⟨n, .step head hn⟩
    -- an item that came again would come again for ever, but the chain ends
    have hfresh : current.id ∉ trail.map (·.id) := by
      intro hmem
      obtain ⟨b, hb, hid⟩ := List.mem_map.1 hmem
      obtain ⟨n, hn⟩ := hpassed' b hb
      obtain ⟨d, hd⟩ := hn.endless hid.symm (k + 2)
      have hle := (Reaches.step head tail).le_of_isLast hlast hd
      omega
    refine ⟨current :: trail, ⟨rfl, ?_, ?_, ?_⟩, by simp [hlength], fun b hb => ?_⟩
    · rw [List.getLast?_cons_of_ne_nil hne]
      exact htrail.getLast_eq
    · refine List.isChain_cons.2 ⟨fun first hfirst => ?_, htrail.linked⟩
      rw [htrail.head_eq, Option.mem_some] at hfirst
      rw [← hfirst]
      exact head.parent_eq
    · exact List.nodup_cons.2 ⟨hfresh, htrail.nodup⟩
    · rcases List.mem_cons.1 hb with rfl | hb
      · exact ⟨0, .refl b⟩
      · obtain ⟨n, hn⟩ := hpassed' b hb
        exact ⟨n + 1, hn⟩

/-! ## Walks -/

/-- The walk without a record of where it has been. -/
def plainWalk (candidates : List Content) (current : Content) : Nat → Option Content
  | 0 => if next? candidates current.id = none then some current else none
  | steps + 1 =>
    match next? candidates current.id with
    | none => some current
    | some next => plainWalk candidates next steps

/-- The plain walk gives the end of the chain if it can be reached in the steps that are left. -/
theorem plainWalk_eq_some_iff :
    plainWalk candidates current steps = some c ↔
      ∃ k ≤ steps, Reaches candidates current k c ∧ IsLast candidates c := by
  induction steps generalizing current with
  | zero =>
    rw [plainWalk]
    refine ⟨?_, ?_⟩
    · intro h
      split at h
      · rename_i hnone
        cases h
        exact ⟨0, Nat.le_refl _, .refl _, next?_eq_none_iff.1 hnone⟩
      · exact absurd h (by simp)
    · intro h
      obtain ⟨k, hk, hreaches, hlast⟩ := h
      obtain rfl : k = 0 := by omega
      cases hreaches
      exact if_pos (next?_eq_none_iff.2 hlast)
  | succ steps ih =>
    rw [plainWalk]
    cases hnext : next? candidates current.id with
    | none =>
      refine ⟨?_, ?_⟩
      · intro h
        cases h
        exact ⟨0, Nat.zero_le _, .refl _, next?_eq_none_iff.1 hnext⟩
      · intro h
        obtain ⟨k, -, hreaches, -⟩ := h
        cases hreaches with
        | refl _ => rfl
        | step head _ => exact absurd (next?_eq_none_iff.1 hnext) head.not_isLast
    | some next =>
      have hhead := next?_eq_some_iff.1 hnext
      refine ih.trans ⟨?_, ?_⟩
      · intro h
        obtain ⟨k, hk, hreaches, hlast⟩ := h
        exact ⟨k + 1, Nat.succ_le_succ hk, .step hhead hreaches, hlast⟩
      · intro h
        obtain ⟨k, hk, hreaches, hlast⟩ := h
        cases hreaches with
        -- a chain that ends somewhere takes the step to `next`, the only one there is
        | refl _ => exact absurd hlast hhead.not_isLast
        | step head tail =>
          rw [← hhead.unique head] at tail
          exact ⟨_, Nat.le_of_succ_le_succ hk, tail, hlast⟩

/-- The plain walk gives nothing if the chain goes on after the steps that are left. -/
theorem plainWalk_eq_none_iff :
    plainWalk candidates current steps = none ↔
      ∃ c, Reaches candidates current (steps + 1) c := by
  induction steps generalizing current with
  | zero =>
    rw [plainWalk]
    refine ⟨?_, ?_⟩
    · intro h
      cases hnext : next? candidates current.id with
      | none => exact absurd h (by simp [hnext])
      | some next => exact ⟨next, .step (next?_eq_some_iff.1 hnext) (.refl next)⟩
    · intro h
      obtain ⟨c, hreaches⟩ := h
      cases hreaches with
      | step head _ => simp [next?_eq_some_iff.2 head]
  | succ steps ih =>
    rw [plainWalk]
    refine ⟨?_, ?_⟩
    · intro h
      split at h
      · exact absurd h (by simp)
      · rename_i next hnext
        obtain ⟨c, hreaches⟩ := ih.1 h
        exact ⟨c, .step (next?_eq_some_iff.1 hnext) hreaches⟩
    · intro h
      obtain ⟨c, hreaches⟩ := h
      cases hreaches with
      | step head tail =>
        rw [next?_eq_some_iff.2 head]
        exact ih.2 ⟨c, tail⟩

/-- The record holds only ids that the walk has come from, so the id of the next revision is in it
only if the chain goes round. Then the walk without the record does not end either. -/
theorem walk_eq_plainWalk {visited : List Nat}
    (hvisited : ∀ id ∈ visited, ∃ a k, a.id = id ∧ Reaches candidates a k current) :
    walk candidates visited current steps = plainWalk candidates current steps := by
  induction steps generalizing visited current with
  | zero => rfl
  | succ steps ih =>
    rw [walk, plainWalk]
    cases hnext : next? candidates current.id with
    | none => rfl
    | some next =>
      have hhead := next?_eq_some_iff.1 hnext
      have hstep {a : Content} {k : Nat} (h : Reaches candidates a k current) :
          Reaches candidates a (k + 1) next := h.trans (.step hhead (.refl next))
      by_cases hmem : next.id ∈ visited
      · -- the next item has been passed before, so the chain behind it is a cycle
        obtain ⟨a, k, hid, hreaches⟩ := hvisited _ hmem
        have hcycle : Reaches candidates next (k + 1) next := (hstep hreaches).of_id_eq hid
        simp only [hmem, if_true]
        exact (plainWalk_eq_none_iff.2 (hcycle.endless rfl _)).symm
      · simp only [hmem, if_false]
        refine ih fun id hid => ?_
        rcases List.mem_cons.1 hid with rfl | hid
        · exact ⟨next, 0, rfl, .refl next⟩
        · obtain ⟨a, k, ha, hreaches⟩ := hvisited id hid
          exact ⟨a, k + 1, ha, hstep hreaches⟩

/-- An id that comes back would come back again and again, until no step is left. So it makes no
difference that the walk remembers where it has been. -/
theorem latest?_eq_plainWalk (item : Content) (candidates : List Content) :
    latest? item candidates = plainWalk candidates item depthLimit := by
  refine walk_eq_plainWalk fun id hid => ?_
  rw [List.mem_singleton.1 hid]
  exact ⟨item, 0, rfl, .refl item⟩

/-- The served version is the end of the chain, if it is no more than the allowed number of
revisions away. -/
theorem latest?_eq_some_iff {item : Content} :
    latest? item candidates = some c ↔
      ∃ k ≤ depthLimit, Reaches candidates item k c ∧ IsLast candidates c := by
  rw [latest?_eq_plainWalk, plainWalk_eq_some_iff]

/-- The newest revision is the end of the chain of next revisions, if sixteen steps lead there. If
seventeen steps can be taken there is none, so there is none where a chain goes round. The record
of visited ids makes no difference, and nothing is found but the item and the candidates. -/
theorem latest?_eq_end_of_chain (item : Content) (candidates : List Content) :
    (∀ c, latest? item candidates = some c ↔
      ∃ k ≤ 16, Reaches candidates item k c ∧ IsLast candidates c) ∧
    (latest? item candidates = none ↔ ∃ c, Reaches candidates item 17 c) ∧
    latest? item candidates = plainWalk candidates item 16 ∧
    (∀ a b j k, Reaches candidates item j a → Reaches candidates a (k + 1) b → a.id = b.id →
      latest? item candidates = none) ∧
    ∀ c, latest? item candidates = some c → c = item ∨ c ∈ candidates := by
  have hplain := latest?_eq_plainWalk item candidates
  have hnone : latest? item candidates = none ↔ ∃ c, Reaches candidates item 17 c := by
    rw [hplain]
    exact plainWalk_eq_none_iff
  refine ⟨fun c => latest?_eq_some_iff, hnone, hplain, fun a b j k hj hround hid => ?_,
    fun c => mem_of_latest?⟩
  -- the item reaches the cycle, and from there on there is always a next revision
  obtain ⟨c, hc⟩ := hround.endless hid 17
  obtain ⟨d, hd⟩ := (hj.trans hc).exists_of_le (Nat.le_add_left 17 j)
  exact hnone.2 ⟨d, hd⟩

/-- Two items that supersede each other have no newest revision, and a third one that supersedes
itself does not help: it is never the next. -/
theorem latest?_eq_end_of_chain_cycle :
    let first : Content :=
      { id := 1, title := "Hello", publishedAt := ⟨2004, 4, 1, 0, 0, 0, 0⟩, parent := some 2 }
    let candidates := [first, { first with parent := some 1 }, first.revise 2]
    Reaches candidates first 2 first ∧ latest? first candidates = none := by
  intro first candidates
  have hthere : IsNext candidates first.id (first.revise 2) :=
    next?_eq_some_iff.1 (by decide +kernel)
  have hback : IsNext candidates (first.revise 2).id first :=
    next?_eq_some_iff.1 (by decide +kernel)
  have hround : Reaches candidates first 2 first := .step hthere (.step hback (.refl first))
  obtain ⟨-, -, -, hcycle, -⟩ := latest?_eq_end_of_chain first candidates
  exact ⟨hround, hcycle first first 0 1 (.refl first) hround rfl⟩

end BlogRouting.Revision
