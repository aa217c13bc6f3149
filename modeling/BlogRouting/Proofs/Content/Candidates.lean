import BlogRouting.Proofs.Content.Revisions

/-!
# Which candidates count

A store lists the candidates for a revision in the order in which they were inserted, among other
content with the same address. Neither the order nor the other content decides which revision is
served (`latest?_eq_of_perm_append`).

The crux is `isNext_iff_of_nodup`. The place of a candidate in the list matters only among equal
ids, so where ids are distinct the next revision is the greatest candidate that supersedes the item,
and that can be said without a list. A candidate that supersedes nothing on the chain is then never
compared with another one.
-/

namespace BlogRouting.Revision

variable {candidates others extra : List Content} {current item next c : Content} {id steps : Nat}

/-- Where no two candidates share an id, their order says nothing about which one is the next. -/
theorem isNext_iff_of_nodup (hids : (candidates.map (·.id)).Nodup) :
    IsNext candidates id next ↔ next ∈ candidates ∧ next.parent = some id ∧
      ∀ c ∈ candidates, c.parent = some id → c.id ≤ next.id := by
  refine ⟨?_, ?_⟩
  · intro h
    refine ⟨h.mem, h.parent_eq, ?_⟩
    obtain ⟨before, after, rfl, -, hbefore, hafter⟩ := h
    intro c hc hparent
    rcases List.mem_append.1 hc with hc | hc
    · exact hbefore c hc hparent
    · rcases List.mem_cons.1 hc with rfl | hc
      · exact Nat.le_refl _
      · exact Nat.le_of_lt (hafter c hc hparent)
  · intro h
    obtain ⟨hmem, hparent, hgreatest⟩ := h
    obtain ⟨before, after, rfl⟩ := List.append_of_mem hmem
    refine ⟨before, after, rfl, hparent, fun c hc hc' => hgreatest c (by simp [hc]) hc',
      fun c hc hc' => ?_⟩
    -- behind it an equal id would win, but there is none
    have hne : next.id ≠ c.id := by
      rw [List.map_append, List.map_cons, List.nodup_append, List.nodup_cons] at hids
      obtain ⟨-, ⟨hfresh, -⟩, -⟩ := hids
      exact fun heq => hfresh (heq ▸ List.mem_map_of_mem hc)
    have hle : c.id ≤ next.id := hgreatest c (by simp [hc]) hc'
    show c.id < next.id
    omega

/-- Candidates that supersede something else can be added anywhere. -/
theorem isNext_of_perm_append (hperm : others.Perm (candidates ++ extra))
    (hids : (others.map (·.id)).Nodup) (hextra : ∀ c ∈ extra, c.parent ≠ some id) :
    IsNext others id next ↔ IsNext candidates id next := by
  have hids' : (candidates.map (·.id)).Nodup := by
    have happend := (hperm.map (·.id)).nodup_iff.1 hids
    rw [List.map_append] at happend
    exact (List.nodup_append.1 happend).1
  rw [isNext_iff_of_nodup hids, isNext_iff_of_nodup hids']
  -- only items that supersede the same one count, and no extra does
  have hmem (c : Content) (hparent : c.parent = some id) : c ∈ others ↔ c ∈ candidates := by
    rw [hperm.mem_iff, List.mem_append]
    exact or_iff_left fun hc => hextra c hc hparent
  refine ⟨?_, ?_⟩
  · intro h
    obtain ⟨hnext, hparent, hgreatest⟩ := h
    exact ⟨(hmem next hparent).1 hnext, hparent,
      fun c hc hc' => hgreatest c ((hmem c hc').2 hc) hc'⟩
  · intro h
    obtain ⟨hnext, hparent, hgreatest⟩ := h
    exact ⟨(hmem next hparent).2 hnext, hparent,
      fun c hc hc' => hgreatest c ((hmem c hc').1 hc) hc'⟩

/-- Neither the order of the candidates nor those that supersede something else make a difference to
which one is next. -/
theorem next?_eq_of_perm_append (hperm : others.Perm (candidates ++ extra))
    (hids : (others.map (·.id)).Nodup) (hextra : ∀ c ∈ extra, c.parent ≠ some id) :
    next? others id = next? candidates id := by
  ext next
  rw [next?_eq_some_iff, next?_eq_some_iff]
  exact isNext_of_perm_append hperm hids hextra

/-- Each step of the walk asks for the next revision of a content that the walk has reached, so only
what supersedes one of those can change it. -/
theorem plainWalk_eq_of_perm_append (hperm : others.Perm (candidates ++ extra))
    (hids : (others.map (·.id)).Nodup)
    (hextra : ∀ c ∈ extra, ∀ k ≤ steps, ∀ b, Reaches candidates current k b →
      c.parent ≠ some b.id) :
    plainWalk others current steps = plainWalk candidates current steps := by
  have hnext : next? others current.id = next? candidates current.id :=
    next?_eq_of_perm_append hperm hids fun c hc => hextra c hc 0 (Nat.zero_le _) current (.refl _)
  induction steps generalizing current with
  | zero => rw [plainWalk, plainWalk, hnext]
  | succ steps ih =>
    rw [plainWalk, plainWalk, hnext]
    cases hcurrent : next? candidates current.id with
    | none => rfl
    | some next =>
      -- what is reached from the next revision is reached one step later from here
      have htail : ∀ c ∈ extra, ∀ k ≤ steps, ∀ b, Reaches candidates next k b →
          c.parent ≠ some b.id := fun c hc k hk b hb =>
        hextra c hc (k + 1) (Nat.succ_le_succ hk) b (.step (next?_eq_some_iff.1 hcurrent) hb)
      exact ih htail (next?_eq_of_perm_append hperm hids fun c hc =>
        htail c hc 0 (Nat.zero_le _) next (.refl _))

/-- The newest revision is the same however the candidates are listed, and whatever else is listed
with them that supersedes no content on the way. The chain that counts is that of sixteen steps
from the item: what supersedes the content behind it comes too late to matter. -/
theorem latest?_eq_of_perm_append (item : Content) {candidates extra others : List Content}
    (hperm : others.Perm (candidates ++ extra)) (hids : (others.map (·.id)).Nodup)
    (hextra : ∀ c ∈ extra, ∀ k ≤ 16, ∀ b, Reaches candidates item k b → c.parent ≠ some b.id) :
    latest? item others = latest? item candidates := by
  rw [latest?_eq_plainWalk, latest?_eq_plainWalk]
  exact plainWalk_eq_of_perm_append hperm hids hextra

/-- The stranger supersedes a revision that the walk passes by, and stands in front
of the others. -/
theorem latest?_eq_of_perm_append_passedBy :
    let item : Content := { id := 1, title := "Hello", publishedAt := ⟨2004, 4, 1, 0, 0, 0, 0⟩ }
    let older := item.revise 2
    let newer := item.revise 3
    let stranger := older.revise 4
    latest? item [item, older, newer] = some newer ∧
      latest? item [stranger, newer, item, older] = some newer := by
  intro item older newer stranger
  have hfound : latest? item [item, older, newer] = some newer := by decide +kernel
  refine ⟨hfound, ?_⟩
  have hperm : [stranger, newer, item, older].Perm ([item, older, newer] ++ [stranger]) := by
    decide +kernel
  have hids : ([stranger, newer, item, older].map (·.id)).Nodup := by decide +kernel
  rw [latest?_eq_of_perm_append item hperm hids, hfound]
  intro c hc k _ b hb
  obtain rfl : c = stranger := List.mem_singleton.1 hc
  -- only the item and its newer revision are on the way
  have hstep : IsNext [item, older, newer] item.id newer := next?_eq_some_iff.1 (by decide +kernel)
  have hend : IsLast [item, older, newer] newer := next?_eq_none_iff.1 (by decide +kernel)
  cases hb with
  | refl _ => decide +kernel
  | step head tail =>
    obtain rfl := head.unique hstep
    cases tail with
    | refl _ => decide +kernel
    | step head _ => exact absurd hend head.not_isLast

end BlogRouting.Revision
