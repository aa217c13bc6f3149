import BlogRouting.Proofs.Content.Lookups
import BlogRouting.Proofs.Template.Rendering

/-!
# Posts that share a path

The parts of a date are written without padding, so where one ends can be seen from its length or
from what follows. In front of the title a path is read from left to right and behind it from right
to left; read so, a part of the date ends at once where a literal with something else than digits
comes next (`Template.Separated`).

* **`Template.IsCompiled.eq_of_fill_eq`**: if every part of the date is as long in both paths or
  ends at such a literal, then equal paths were made from equal values. Both directions of reading
  are the one induction of `Segment.eq_of_flatMap_eq`, over the segments or over their reverse.
* **`Template.exists_shared_path`**: two placeholders with nothing between them are enough for two
  posts to share a path.
-/

namespace BlogRouting

/-! ## Where digits end

Digits in front of the same text are the same, if the text is not all digits. -/

/-- A text that is not all digits can be cut behind the digits that it begins with. -/
theorem exists_startsOffDigits {text : List Char} (h : ∃ c ∈ text, c.isDigit = false) :
    ∃ digits rest, text = digits ++ rest ∧ (∀ c ∈ digits, c.isDigit) ∧ StartsOffDigits rest := by
  induction text with
  | nil => simp at h
  | cons c text ih =>
    cases hc : c.isDigit with
    | false => exact ⟨[], c :: text, rfl, by simp, c, rfl, hc⟩
    | true =>
      obtain ⟨digits, rest, rfl, hdigits, hrest⟩ := ih (by simpa [hc] using h)
      exact ⟨c :: digits, rest, rfl, List.forall_mem_cons.2 ⟨hc, hdigits⟩, hrest⟩

/-- Digits in front of a text that is not all digits are read off, since they end in it at the same
place. -/
theorem eq_of_digits_append {v w text x y : List Char} (hv : ∀ c ∈ v, c.isDigit)
    (hw : ∀ c ∈ w, c.isDigit) (htext : ∃ c ∈ text, c.isDigit = false)
    (h : v ++ (text ++ x) = w ++ (text ++ y)) : v = w := by
  obtain ⟨digits, rest, rfl, hdigits, hrest⟩ := exists_startsOffDigits htext
  have hrest' (after : List Char) : StartsOffDigits (rest ++ after) := by
    obtain ⟨c, hc, hdigit⟩ := hrest
    exact ⟨c, by simp [hc], hdigit⟩
  have hall {u : List Char} (hu : ∀ c ∈ u, c.isDigit) : ∀ c ∈ u ++ digits, c.isDigit :=
    List.forall_mem_append.2 ⟨hu, hdigits⟩
  have h' : (v ++ digits) ++ (rest ++ x) = (w ++ digits) ++ (rest ++ y) := by
    simpa using h
  -- the digits of the text belong to both numbers, and what is behind them to neither
  have hle := length_le_of_startsOffDigits (hall hv) (hrest' y) h'
  have hge := length_le_of_startsOffDigits (hall hw) (hrest' x) h'.symm
  exact List.append_cancel_right (List.append_inj_left h' (Nat.le_antisymm hle hge))

/-! ## Reading in one direction -/

namespace Segment

variable {f g : Segment → List Char} {segments : List Segment} {p : Placeholder}

/-- The text of the segment as characters. -/
def piece (values : Placeholder → String) (segment : Segment) : List Char :=
  (segment.fill values).toList

/-- Of two ways to write a placeholder it can be seen in the text where it ends: it is as long in
both, or digits in both, with a literal next that ends them. -/
def HasEnd (f g : Segment → List Char) (segments : List Segment) (p : Placeholder) : Prop :=
  (f (.placeholder p)).length = (g (.placeholder p)).length ∨
    ((∀ c ∈ f (.placeholder p), c.isDigit) ∧ ∀ c ∈ g (.placeholder p), c.isDigit) ∧
      ∃ text, [.placeholder p, .literal text] <:+: segments ∧
        ∃ c ∈ f (.literal text), c.isDigit = false

/-- Read backwards, the literal that ends the digits comes before them. -/
theorem hasEnd_reverse : HasEnd (List.reverse ∘ f) (List.reverse ∘ g) segments.reverse p ↔
    (f (.placeholder p)).length = (g (.placeholder p)).length ∨
      ((∀ c ∈ f (.placeholder p), c.isDigit) ∧ ∀ c ∈ g (.placeholder p), c.isDigit) ∧
        ∃ text, [.literal text, .placeholder p] <:+: segments ∧
          ∃ c ∈ f (.literal text), c.isDigit = false := by
  have hnext (text : String) : [.placeholder p, .literal text] <:+: segments.reverse ↔
      [.literal text, .placeholder p] <:+: segments := by
    rw [← List.reverse_infix, List.reverse_reverse]
    rfl
  simp [HasEnd, hnext]

/-- What ends the placeholder stands behind it, so segments in front of it do not matter. -/
theorem HasEnd.of_cons {segment : Segment} (h : HasEnd f g (segment :: segments) p)
    (hne : segment ≠ .placeholder p) : HasEnd f g segments p := by
  rcases h with hlength | ⟨hdigits, text, hnext, htext⟩
  · exact .inl hlength
  · rcases List.infix_cons_iff.1 hnext with hprefix | hnext
    · exact absurd (List.cons_prefix_cons.1 hprefix).1.symm hne
    · exact .inr ⟨hdigits, text, hnext, htext⟩

/-- A placeholder whose end is known can be read off the front of a path. -/
theorem HasEnd.eq_of_cons (h : HasEnd f g (.placeholder p :: segments) p)
    (hp : .placeholder p ∉ segments) (hliteral : ∀ text, f (.literal text) = g (.literal text))
    {x y : List Char} (heq : f (.placeholder p) ++ (segments.flatMap f ++ x)
      = g (.placeholder p) ++ (segments.flatMap g ++ y)) :
    f (.placeholder p) = g (.placeholder p) := by
  rcases h with hlength | ⟨⟨hf, hg⟩, text, hnext, htext⟩
  · exact List.append_inj_left heq hlength
  · -- the placeholder does not come again, so the literal is the next segment
    rcases List.infix_cons_iff.1 hnext with hprefix | hnext
    · obtain ⟨after, hafter⟩ := (List.cons_prefix_cons.1 hprefix).2
      subst hafter
      rw [List.singleton_append, List.flatMap_cons, List.flatMap_cons, ← hliteral,
        List.append_assoc, List.append_assoc] at heq
      exact eq_of_digits_append hf hg htext heq
    · exact absurd (hnext.subset List.mem_cons_self) hp

/-- Two texts that are written in different ways and are the same agree in every segment. -/
theorem eq_of_flatMap_eq (hnodup : (segments.filterMap placeholder?).Nodup)
    (hliteral : ∀ text, f (.literal text) = g (.literal text))
    (hend : ∀ p, .placeholder p ∈ segments → HasEnd f g segments p) {x y : List Char}
    (h : segments.flatMap f ++ x = segments.flatMap g ++ y) :
    (∀ segment ∈ segments, f segment = g segment) ∧ x = y := by
  induction segments with
  | nil => exact ⟨by simp, h⟩
  | cons segment next ih =>
    rw [List.flatMap_cons, List.flatMap_cons, List.append_assoc, List.append_assoc] at h
    have hfirst : f segment = g segment ∧ (next.filterMap placeholder?).Nodup ∧
        ∀ p, .placeholder p ∈ next → segment ≠ .placeholder p := by
      cases segment with
      | literal text =>
        rw [List.filterMap_cons_none (f := placeholder?) rfl] at hnodup
        exact ⟨hliteral text, hnodup, by simp⟩
      | placeholder p =>
        rw [List.filterMap_cons_some (f := placeholder?) rfl, List.nodup_cons,
          mem_filterMap_placeholder?] at hnodup
        obtain ⟨hp, hnodup⟩ := hnodup
        refine ⟨(hend p List.mem_cons_self).eq_of_cons hp hliteral h, hnodup, fun q hq he => ?_⟩
        cases he
        exact hp hq
    obtain ⟨heq, hnodup, hne⟩ := hfirst
    rw [heq] at h
    -- with the equal first parts cancelled, the others still have their ends
    obtain ⟨hnext, hrest⟩ := ih hnodup
      (fun p hp => (hend p (List.mem_cons_of_mem _ hp)).of_cons (hne p hp))
      (List.append_cancel_left h)
    exact ⟨List.forall_mem_cons.2 ⟨heq, hnext⟩, hrest⟩

end Segment

/-! ## Both sides of the title -/

/-- The text on one side of the title is read towards the title, so behind it backwards. -/
theorem Segment.eq_of_sides_eq {f g : Segment → List Char} {front back : List Segment}
    {x y : List Char} (hfront : (front.filterMap placeholder?).Nodup)
    (hback : (back.filterMap placeholder?).Nodup)
    (hliteral : ∀ text, f (.literal text) = g (.literal text))
    (hfrontEnd : ∀ p, .placeholder p ∈ front → HasEnd f g front p)
    (hbackEnd : ∀ p, .placeholder p ∈ back →
      HasEnd (List.reverse ∘ f) (List.reverse ∘ g) back.reverse p)
    (h : front.flatMap f ++ (x ++ back.flatMap f) = front.flatMap g ++ (y ++ back.flatMap g)) :
    (∀ segment ∈ front, f segment = g segment) ∧ x = y ∧
      ∀ segment ∈ back, f segment = g segment := by
  obtain ⟨hfrontEq, hrest⟩ := eq_of_flatMap_eq hfront hliteral hfrontEnd h
  -- what is left is compared from its end, where the same lemma applies
  have hmirror := congrArg List.reverse hrest
  rw [List.reverse_append, List.reverse_append, List.reverse_flatMap, List.reverse_flatMap]
    at hmirror
  have hback' : (back.reverse.filterMap placeholder?).Nodup := by
    rwa [List.filterMap_reverse, List.nodup_reverse]
  obtain ⟨hbackEq, htitle⟩ := eq_of_flatMap_eq hback'
    (fun text => congrArg List.reverse (hliteral text))
    (fun p hp => hbackEnd p (List.mem_reverse.1 hp)) hmirror
  refine ⟨hfrontEq, List.reverse_injective htitle, fun segment hsegment => ?_⟩
  exact List.reverse_injective (hbackEq segment (List.mem_reverse.2 hsegment))

/-- Only the values of the placeholders that occur count. -/
theorem Segment.filled_congr {segments : List Segment} {values others : Placeholder → String}
    (h : ∀ p, .placeholder p ∈ segments → values p = others p) :
    filled values segments = filled others segments := by
  unfold filled
  refine List.flatMap_congr fun segment hsegment => ?_
  cases segment with
  | literal text => rfl
  | placeholder p => exact congrArg String.toList (h p hsegment)

namespace Template

variable {format : String} {t : Template} {values others : Placeholder → String}

/-- Between `p` and whatever comes next on the way to the title there is a literal that does not
consist of digits. -/
def Separated (t : Template) (p : Placeholder) : Prop :=
  ∃ front text back, t.segments = front ++ .placeholder .title :: back ∧
    (∃ c ∈ text.toList, c.isDigit = false) ∧
    ([.placeholder p, .literal text] <:+: front ∨ [.literal text, .placeholder p] <:+: back)

/-- Only the values of the placeholders that the format mentions count. -/
theorem fill_congr (h : ∀ p, t.has p = true → values p = others p) :
    t.fill values = t.fill others := by
  rw [← String.toList_inj, toList_fill, toList_fill]
  exact Segment.filled_congr fun p hp => h p (has_iff.2 hp)

/-- No placeholder occurs twice on one side of another one, or on both sides of it. -/
theorem IsCompiled.nodup_sides (h : IsCompiled format t) {front back : List Segment}
    {p : Placeholder} (hsegments : t.segments = front ++ .placeholder p :: back) :
    (front.filterMap Segment.placeholder?).Nodup ∧ (back.filterMap Segment.placeholder?).Nodup ∧
      ∀ q, .placeholder q ∈ front → .placeholder q ∉ back := by
  have hnodup := h.nodup
  rw [placeholders, hsegments, List.filterMap_append,
    List.filterMap_cons_some (f := Segment.placeholder?) rfl, List.nodup_append] at hnodup
  obtain ⟨hfront, hback, hdisjoint⟩ := hnodup
  refine ⟨hfront, (List.nodup_cons.1 hback).2, fun q hq hq' => ?_⟩
  rw [← Segment.mem_filterMap_placeholder?] at hq hq'
  exact hdisjoint q hq q (List.mem_cons_of_mem _ hq') rfl

/-- On the way to the title, the literal that separates a placeholder comes right after it. -/
theorem Separated.exists_next {front back : List Segment} {p : Placeholder} (h : t.Separated p)
    (hsegments : t.segments = front ++ .placeholder .title :: back)
    (hfront : .placeholder .title ∉ front) (hback : .placeholder .title ∉ back) :
    ∃ text, (∃ c ∈ text.toList, c.isDigit = false) ∧
      ([.placeholder p, .literal text] <:+: front ∨ [.literal text, .placeholder p] <:+: back) := by
  obtain ⟨front', text, back', hsegments', htext, hnext⟩ := h
  rw [hsegments, List.append_cons_inj_of_notMem hfront hback] at hsegments'
  obtain ⟨rfl, -, rfl⟩ := hsegments'
  exact ⟨text, htext, hnext⟩

/-- On whichever side of the title a part of the date is, it has its end towards the title. -/
theorem IsCompiled.hasEnd (h : IsCompiled format t) {front back : List Segment} {p : Placeholder}
    (hsegments : t.segments = front ++ .placeholder .title :: back)
    (hdigits : (∀ c ∈ (values p).toList, c.isDigit) ∧ ∀ c ∈ (others p).toList, c.isDigit)
    (hseparated : (values p).length = (others p).length ∨ t.Separated p) :
    (.placeholder p ∈ front →
      Segment.HasEnd (Segment.piece values) (Segment.piece others) front p) ∧
    (.placeholder p ∈ back →
      Segment.HasEnd (List.reverse ∘ Segment.piece values) (List.reverse ∘ Segment.piece others)
        back.reverse p) := by
  obtain ⟨htitleFront, htitleBack⟩ := h.notMem_sides hsegments
  obtain ⟨-, -, hdisjoint⟩ := h.nodup_sides hsegments
  rw [Segment.hasEnd_reverse]
  rcases hseparated with hlength | hseparated
  · rw [← String.length_toList, ← String.length_toList] at hlength
    exact ⟨fun _ => .inl hlength, fun _ => .inl hlength⟩
  · obtain ⟨text, htext, hnext⟩ := hseparated.exists_next hsegments htitleFront htitleBack
    refine ⟨fun hp => .inr ⟨hdigits, text, ?_, htext⟩, fun hp => .inr ⟨hdigits, text, ?_, htext⟩⟩
    · exact hnext.resolve_right fun hnext => hdisjoint p hp (hnext.subset (by simp))
    · exact hnext.resolve_left fun hnext => hdisjoint p (hnext.subset (by simp)) hp

/-- The values can be read off a path, from both ends towards the title, when each is as long in
both paths or separated from what comes next. -/
theorem IsCompiled.eq_of_fill_eq (h : IsCompiled format t)
    (hdigits : ∀ p ≠ .title,
      (∀ c ∈ (values p).toList, c.isDigit) ∧ ∀ c ∈ (others p).toList, c.isDigit)
    (hseparated : ∀ p ≠ .title, t.has p = true →
      (values p).length = (others p).length ∨ t.Separated p)
    (hfill : t.fill values = t.fill others) (p : Placeholder) (hp : t.has p = true) :
    values p = others p := by
  obtain ⟨front, back, hsegments, htitleFront, htitleBack⟩ := h.exists_title
  obtain ⟨hfront, hback, -⟩ := h.nodup_sides hsegments
  have hdate {q : Placeholder} (hq : .placeholder q ∈ front ∨ .placeholder q ∈ back) :
      q ≠ .title ∧ t.has q = true := by
    refine ⟨?_, ?_⟩
    · rintro rfl
      exact hq.elim htitleFront htitleBack
    · rw [has_iff, hsegments, List.mem_append, List.mem_cons]
      exact hq.imp_right .inr
  have hfrontEnd (q : Placeholder) (hq : .placeholder q ∈ front) :
      Segment.HasEnd (Segment.piece values) (Segment.piece others) front q := by
    obtain ⟨hne, hhas⟩ := hdate (.inl hq)
    exact (h.hasEnd hsegments (hdigits q hne) (hseparated q hne hhas)).1 hq
  have hbackEnd (q : Placeholder) (hq : .placeholder q ∈ back) :
      Segment.HasEnd (List.reverse ∘ Segment.piece values) (List.reverse ∘ Segment.piece others)
        back.reverse q := by
    obtain ⟨hne, hhas⟩ := hdate (.inr hq)
    exact (h.hasEnd hsegments (hdigits q hne) (hseparated q hne hhas)).2 hq
  -- both paths, cut at the title
  have hpath := congrArg String.toList hfill
  rw [toList_fill, toList_fill, hsegments, Segment.filled, Segment.filled, List.flatMap_append,
    List.flatMap_append, List.flatMap_cons, List.flatMap_cons] at hpath
  obtain ⟨hfrontEq, htitle, hbackEq⟩ := Segment.eq_of_sides_eq (f := Segment.piece values)
    (g := Segment.piece others) hfront hback (fun _ => rfl) hfrontEnd hbackEnd hpath
  have hmem := has_iff.1 hp
  rw [hsegments, List.mem_append, List.mem_cons] at hmem
  rw [← String.toList_inj]
  rcases hmem with hmem | hmem | hmem
  · exact hfrontEq _ hmem
  · cases hmem
    exact htitle
  · exact hbackEq _ hmem

end Template

/-! ## Posts -/

/-- A post under the slug of a title, with a date whose year is written without a sign. -/
structure Content.IsPost (readings : Transliteration) (content : Content) : Prop where
  date : content.publishedAt.isValid = true
  year : 0 ≤ content.publishedAt.year
  slug : ∃ title, content.permalink = slug readings title ∧ slug readings title ≠ ""

/-- A post with `11` for one placeholder and `1` for every other. -/
def Content.ones (wide : Placeholder) : Content :=
  let part (p : Placeholder) : Nat := if p = wide then 11 else 1
  let title := if wide = .title then "11" else "1"
  { id := 1, title, permalink := title
    publishedAt := ⟨part .year, part .month, part .day, 0, 0, 0, 0⟩ }

theorem Content.value_ones (wide p : Placeholder) :
    (ones wide).value p = if p = wide then "11" else "1" := by
  cases wide <;> cases p <;> rfl

/-- Its title is its own slug, by any transliteration, since no reading is asked for. -/
theorem Content.isPost_ones (readings : Transliteration) (wide : Placeholder) :
    (ones wide).IsPost readings := by
  have hslug : slug readings (ones wide).title = (ones wide).permalink := by
    refine (slug_of_ascii ?_ readings).trans ?_
    · cases wide <;> decide
    · cases wide <;> decide +kernel
  refine ⟨?_, Int.natCast_nonneg _, (ones wide).title, hslug.symm, ?_⟩
  · cases wide <;> rfl
  · rw [hslug]
    cases wide <;> decide

namespace Template

variable {format : String} {t : Template} {content other : Content}

/-- Two items share an address if they have the same value for every placeholder that the format
mentions. -/
theorem sameAddress_iff_value_eq (htitle : t.has .title = true)
    (hyear : 0 ≤ content.publishedAt.year) (hyear' : 0 ≤ other.publishedAt.year) :
    t.sameAddress content other = true ↔
      ∀ p, t.has p = true → content.value p = other.value p := by
  have hyear : content.value .year = other.value .year ↔
      other.publishedAt.year = content.publishedAt.year := by
    obtain ⟨m, hm⟩ := Int.eq_ofNat_of_zero_le hyear
    obtain ⟨n, hn⟩ := Int.eq_ofNat_of_zero_le hyear'
    rw [Content.value, Content.value, hm, hn, Int.natCast_inj]
    exact Numeral.toString_inj.trans eq_comm
  have hmonth : content.value .month = other.value .month ↔
      other.publishedAt.month = content.publishedAt.month := Numeral.toString_inj.trans eq_comm
  have hday : content.value .day = other.value .day ↔
      other.publishedAt.day = content.publishedAt.day := Numeral.toString_inj.trans eq_comm
  simp only [sameAddress, Bool.and_eq_true, Bool.or_eq_true, Bool.not_eq_true', decide_eq_true_eq,
    ← hyear, ← hmonth, ← hday]
  refine ⟨?_, ?_⟩
  · rintro ⟨⟨⟨hslug, hyear⟩, hmonth⟩, hday⟩ p hp
    cases p with
    | year => exact hyear.resolve_left (by simp [hp])
    | month => exact hmonth.resolve_left (by simp [hp])
    | day => exact hday.resolve_left (by simp [hp])
    | title => exact hslug.symm
  · intro h
    have hpart (p : Placeholder) : t.has p = false ∨ content.value p = other.value p := by
      cases hp : t.has p with
      | false => exact .inl rfl
      | true => exact .inr (h p hp)
    exact ⟨⟨⟨(h .title htitle).symm, hpart .year⟩, hpart .month⟩, hpart .day⟩

/-- `11` and `1` next to each other may be swapped. -/
theorem exists_shared_path (h : IsCompiled format t) (readings : Transliteration)
    {front back : List Segment} {p q : Placeholder}
    (hsegments : t.segments = front ++ .placeholder p :: .placeholder q :: back) :
    ∃ content other : Content, content.IsPost readings ∧ other.IsPost readings ∧
      t.sameAddress content other = false ∧ t.generate content = t.generate other := by
  have hsegments' : t.segments = (front ++ [.placeholder p]) ++ .placeholder q :: back := by
    simpa using hsegments
  have htitle : t.has .title = true := by simpa [has] using h.title_mem
  have hp : t.has p = true := by simp [has_iff, hsegments]
  obtain ⟨hpFront, hpBack⟩ := h.notMem_sides hsegments
  obtain ⟨hqFront, hqBack⟩ := h.notMem_sides hsegments'
  rw [List.mem_cons, not_or] at hpBack
  rw [List.mem_append, not_or] at hqFront
  have hne : p ≠ q := fun he => hpBack.1 (congrArg _ he)
  refine ⟨.ones p, .ones q, Content.isPost_ones readings p,
    Content.isPost_ones readings q, ?_, ?_⟩
  · rw [← Bool.not_eq_true, sameAddress_iff_value_eq htitle
      (Content.isPost_ones readings p).year (Content.isPost_ones readings q).year]
    intro hvalues
    have := hvalues p hp
    rw [Content.value_ones, Content.value_ones, if_pos rfl, if_neg hne] at this
    exact absurd this (by decide)
  · -- the two placeholders alone tell the items apart, so what is beside them is filled alike
    have hside {segments : List Segment} (hp : .placeholder p ∉ segments)
        (hq : .placeholder q ∉ segments) :
        Segment.filled (Content.ones p).value segments
          = Segment.filled (Content.ones q).value segments := by
      refine Segment.filled_congr fun r hr => ?_
      rw [Content.value_ones, Content.value_ones, if_neg, if_neg]
      · rintro rfl
        exact hq hr
      · rintro rfl
        exact hp hr
    have hpair : Segment.filled (Content.ones p).value [.placeholder p, .placeholder q]
        = Segment.filled (Content.ones q).value [.placeholder p, .placeholder q] := by
      simp [Segment.filled, Segment.fill, Content.value_ones, hne, hne.symm]
    have hsplit (values : Placeholder → String) : (t.fill values).toList
        = Segment.filled values front ++
          (Segment.filled values [.placeholder p, .placeholder q] ++
            Segment.filled values back) := by
      simp [toList_fill, hsegments, Segment.filled]
    rw [generate, generate, ← String.toList_inj, hsplit, hsplit, hside hpFront hqFront.1, hpair,
      hside hpBack.2 hqBack]

/-- Two items have the same path exactly if they live at the same address, when each part of the
date that the format mentions is as long for both, or has a literal between itself and whatever
comes next on the way to the title that does not consist of digits. Two placeholders that stand
next to each other are enough for two posts with different addresses to have the same path. -/
theorem generate_eq_iff_of_separated (h : compile format = .ok t) :
    (∀ content other : Content, 0 ≤ content.publishedAt.year → 0 ≤ other.publishedAt.year →
      (∀ p ≠ .title, t.has p = true →
        (content.value p).length = (other.value p).length ∨ t.Separated p) →
      (t.generate content = t.generate other ↔ t.sameAddress content other = true)) ∧
    ∀ (readings : Transliteration) front back p q,
      t.segments = front ++ .placeholder p :: .placeholder q :: back →
        ∃ content other : Content, content.IsPost readings ∧ other.IsPost readings ∧
          t.sameAddress content other = false ∧ t.generate content = t.generate other := by
  have hcompiled := compile_eq_ok_iff.1 h
  have htitle : t.has .title = true := by simpa [has] using hcompiled.title_mem
  refine ⟨fun content other hyear hyear' hseparated => ?_,
    fun readings _ _ _ _ => exists_shared_path hcompiled readings⟩
  rw [sameAddress_iff_value_eq htitle hyear hyear']
  refine ⟨fun hpath => hcompiled.eq_of_fill_eq (fun p hp => ?_) hseparated hpath, fill_congr⟩
  exact ⟨(Content.isValue_of_ne_title hyear hp).isDigit hp,
    (Content.isValue_of_ne_title hyear' hp).isDigit hp⟩

/-- The day is told from the title by the dot between them, and the year from the month by its four
digits. -/
theorem generate_eq_iff_of_separated_dot :
    ∃ t, compile "/%year%%month%/%title%.%day%" = .ok t ∧
      (∀ content other : Content, content.publishedAt = ⟨2004, 11, 1, 0, 0, 0, 0⟩ →
        other.publishedAt = ⟨2004, 12, 21, 0, 0, 0, 0⟩ →
        t.generate content ≠ t.generate other) ∧
      ∀ readings : Transliteration, ∃ content other : Content,
        content.IsPost readings ∧ other.IsPost readings ∧
          t.sameAddress content other = false ∧ t.generate content = t.generate other := by
  let t : Template := ⟨"/%year%%month%/%title%.%day%", [.placeholder .year, .placeholder .month,
    .literal "/", .placeholder .title, .literal ".", .placeholder .day]⟩
  have hcompile : compile "/%year%%month%/%title%.%day%" = .ok t :=
    eq_ok_of_toOption (by decide +kernel)
  obtain ⟨hsame, hshared⟩ := generate_eq_iff_of_separated hcompile
  refine ⟨t, hcompile, fun content other hcontent hother hpath => ?_,
    fun readings => hshared readings [] _ .year .month rfl⟩
  have hmonth : (content.value .month).length = (other.value .month).length := by
    rw [Content.value, Content.value, hcontent, hother]
    decide +kernel
  have hday : t.Separated .day :=
    ⟨[.placeholder .year, .placeholder .month, .literal "/"], ".",
      [.literal ".", .placeholder .day],
      rfl, ⟨'.', by simp, rfl⟩, .inr (List.infix_refl _)⟩
  have haddress := (hsame content other (by simp [hcontent]) (by simp [hother]) fun p hp _ => by
    cases p with
    | year => exact .inl (by rw [Content.value, Content.value, hcontent, hother])
    | month => exact .inl hmonth
    | day => exact .inr hday
    | title => exact absurd rfl hp).1 hpath
  simp [sameAddress, hcontent, hother, t, has, placeholders, Segment.placeholder?] at haddress

/-- Where the month stands next to the day, the 11th of January is the 1st of November. -/
theorem generate_shared_january_november :
    ¬ ∃ readings : Transliteration, ∀ (format : String) (t : Template) (content other : Content),
      compile format = .ok t → content.IsPost readings → other.IsPost readings →
        t.sameAddress content other = false → t.generate content ≠ t.generate other := by
  rintro ⟨readings, hdistinct⟩
  let t : Template := ⟨"/%month%%day%/%title%",
    [.placeholder .month, .placeholder .day, .literal "/", .placeholder .title]⟩
  have hcompile : compile "/%month%%day%/%title%" = .ok t := eq_ok_of_toOption (by decide +kernel)
  -- such a title needs no readings
  have hslug : slug readings "Hello" = "hello" :=
    (slug_of_ascii (by decide) readings).trans (by decide +kernel)
  let january : Content := {
    id := 1, title := "Hello", permalink := "hello"
    publishedAt := ⟨2004, 1, 11, 10, 0, 0, 0⟩ }
  let november : Content := { january with id := 2, publishedAt := ⟨2004, 11, 1, 10, 0, 0, 0⟩ }
  refine hdistinct _ t january november hcompile
    ⟨by decide, by decide, "Hello", hslug.symm, by simp [hslug]⟩
    ⟨by decide, by decide, "Hello", hslug.symm, by simp [hslug]⟩ ?_ ?_
  · decide +kernel
  · decide +kernel

end Template

end BlogRouting
