import BlogRouting.Template.Segmentation
import Mathlib.Data.List.Chain
import Mathlib.Data.List.Infix

/-!
# The segments of a format

Cutting a text takes the leftmost token again and again. This is the only way to cut it into tokens
and literals in which no token is left (`isSegmentation_iff_eq_cut`), although tokens can overlap
with the percent signs around them: `%year%title%` holds the tokens of the year and of the title,
but only one of them can be taken.

* **`Cuts`**: the leftmost token is taken. A text can be cut in one way at most (`Cuts.unique`),
  since a token that begins earlier would have been taken. The loop goes from one percent sign to
  the next and cuts it that way (`cuts_cut`): with an unknown name behind a sign, no token begins
  there.
* **`IsSegmentation`**: what a segmentation looks like, whatever found it. A percent sign stands
  only at the ends of a token (`Placeholder.eq_nil_of_token_eq`), so a token that begins in a
  literal lies in it, but for the sign that it may share with the next token. That is why the two
  agree (`IsSegmentation.cuts`).
-/

namespace BlogRouting

/-! ## Tokens -/

namespace Placeholder

variable {p : Placeholder} {rest : List Char}

theorem toList_token (p : Placeholder) : p.token.toList = '%' :: (p.name.toList ++ ['%']) := by
  simp [token]

theorem not_mem_name (p : Placeholder) : '%' ∉ p.name.toList := by
  cases p <;> decide

/-- Where one token stands, no other one does. -/
theorem token_append_inj {q : Placeholder} {rest' : List Char}
    (h : p.token.toList ++ rest = q.token.toList ++ rest') : p = q ∧ rest = rest' := by
  rw [toList_token, toList_token, List.cons_append, List.cons_append, List.append_assoc,
    List.append_assoc, List.cons.injEq] at h
  -- both names end at the first percent sign
  have hsplit := congrArg Segment.splitSign? h.2
  rw [List.singleton_append, List.singleton_append, Segment.splitSign?_append p.not_mem_name,
    Segment.splitSign?_append q.not_mem_name] at hsplit
  obtain ⟨hname, hrest⟩ := Prod.mk.inj (Option.some.inj hsplit)
  have hp := ofName?_eq_some_iff.2 (String.toList_inj.1 hname)
  rw [ofName?_eq_some_iff.2 rfl] at hp
  exact ⟨(Option.some.inj hp).symm, hrest⟩

/-- A percent sign in a token is the first or the last character. -/
theorem eq_nil_of_token_eq {before behind : List Char}
    (h : p.token.toList = before ++ '%' :: behind) (hbefore : before ≠ []) : behind = [] := by
  obtain ⟨c, before, rfl⟩ := List.exists_cons_of_ne_nil hbefore
  rw [toList_token, List.cons_append, List.cons.injEq] at h
  -- the sign stands in the name or ends the token
  rcases List.append_eq_append_iff.1 h.2 with ⟨middle, -, hend⟩ | ⟨middle, hname, hend⟩
  · cases middle with
    | nil => exact (List.cons.inj hend).2.symm
    | cons d middle => simp at hend
  · cases middle with
    | nil => exact (List.cons.inj hend).2
    | cons d middle =>
      obtain ⟨rfl, -⟩ := List.cons.inj hend
      exact absurd (by simp [hname]) p.not_mem_name

end Placeholder

namespace Segment

variable {p : Placeholder} {text front rest : List Char} {segments segments' : List Segment}

/-! ## Taking the leftmost token -/

/-- No token begins in `front` when `rest` stands behind it. -/
def IsTokenFree (front rest : List Char) : Prop :=
  ∀ behind, behind <:+ front → behind ≠ [] → ∀ p : Placeholder,
    ¬ p.token.toList <+: behind ++ rest

/-- The literal of some characters, unless there are none. -/
def literalOf (text : List Char) : List Segment :=
  if text = [] then [] else [literal (.ofList text)]

/-- A text is cut at its leftmost token, and what is behind that is cut in turn. -/
inductive Cuts : List Char → List Segment → Prop where
  | last {front : List Char} (hfront : IsTokenFree front []) : Cuts front (literalOf front)
  | token {front rest : List Char} {p : Placeholder} {segments : List Segment}
      (hfront : IsTokenFree front (p.token.toList ++ rest)) (hrest : Cuts rest segments) :
      Cuts (front ++ (p.token.toList ++ rest)) (literalOf front ++ placeholder p :: segments)

theorem isTokenFree_nil (rest : List Char) : IsTokenFree [] rest := by
  intro behind hbehind hne
  exact absurd (List.suffix_nil.1 hbehind) hne

/-- A token begins with a percent sign. -/
theorem isTokenFree_of_not_mem (h : '%' ∉ front) (rest : List Char) : IsTokenFree front rest := by
  intro behind hbehind hne p hstarts
  obtain ⟨c, behind, rfl⟩ := List.exists_cons_of_ne_nil hne
  rw [Placeholder.toList_token, List.cons_append, List.cons_prefix_cons] at hstarts
  obtain ⟨rfl, -⟩ := hstarts
  exact h (hbehind.subset List.mem_cons_self)

/-- Texts in which no token begins can be put together. -/
theorem IsTokenFree.append {middle : List Char} (h : IsTokenFree front (middle ++ rest))
    (hmiddle : IsTokenFree middle rest) : IsTokenFree (front ++ middle) rest := by
  intro behind hbehind hne p
  -- what is behind begins in the middle, or in front of all of it
  rcases List.suffix_or_suffix_of_suffix hbehind (List.suffix_append front middle) with
    hshort | ⟨before, rfl⟩
  · exact hmiddle behind hshort hne p
  · by_cases hnil : before = []
    · subst hnil
      exact hmiddle _ List.suffix_rfl hne p
    · obtain ⟨start, hstart⟩ := hbehind
      rw [← List.append_assoc, List.append_cancel_right_eq] at hstart
      rw [List.append_assoc]
      exact h before ⟨start, hstart⟩ hnil p

/-- Behind a percent sign that begins no token, none begins up to the next percent sign. -/
theorem isTokenFree_sign {name : List Char} (hname : '%' ∉ name)
    (htoken : ∀ p : Placeholder, ¬ p.token.toList <+: '%' :: (name ++ rest)) :
    IsTokenFree ('%' :: name) rest := by
  intro behind hbehind hne p
  rcases List.suffix_cons_iff.1 hbehind with rfl | hbehind
  · exact htoken p
  · exact isTokenFree_of_not_mem hname rest behind hbehind hne p

/-- A token ends with a percent sign. -/
theorem not_token_prefix_of_not_mem (h : '%' ∉ text) (p : Placeholder) :
    ¬ p.token.toList <+: '%' :: text := by
  rw [Placeholder.toList_token, List.cons_prefix_cons]
  rintro ⟨-, hstarts⟩
  exact h (hstarts.subset (by simp))

/-- The text between two percent signs is the name of the token that begins with the first. -/
theorem not_token_prefix_of_unknown {name : List Char} (hname : '%' ∉ name)
    (hunknown : Placeholder.ofName? (.ofList name) = none) (p : Placeholder) (after : List Char) :
    ¬ p.token.toList <+: '%' :: (name ++ '%' :: after) := by
  rw [Placeholder.toList_token, List.cons_prefix_cons]
  rintro ⟨-, rest, hrest⟩
  have hsplit := congrArg splitSign? hrest
  rw [List.append_assoc, List.singleton_append, splitSign?_append p.not_mem_name,
    splitSign?_append hname] at hsplit
  obtain ⟨rfl, -⟩ := Prod.mk.inj (Option.some.inj hsplit)
  rw [String.ofList_toList, Placeholder.ofName?_eq_some_iff.2 rfl] at hunknown
  exact absurd hunknown (by simp)

/-- Where a token begins, a text without one has ended. -/
theorem IsTokenFree.eq_nil {behind : List Char} (h : IsTokenFree front rest)
    (hbehind : behind <:+ front) {after : List Char}
    (htoken : behind ++ rest = p.token.toList ++ after) : behind = [] := by
  by_contra hne
  exact h behind hbehind hne p ⟨after, htoken.symm⟩

/-- Two texts that end where the leftmost token begins are the same. -/
theorem IsTokenFree.eq_of_append_eq {front' rest' : List Char} {q : Placeholder}
    (h : IsTokenFree front (p.token.toList ++ rest))
    (h' : IsTokenFree front' (q.token.toList ++ rest'))
    (heq : front ++ (p.token.toList ++ rest) = front' ++ (q.token.toList ++ rest')) :
    front = front' := by
  rcases List.append_eq_append_iff.1 heq with ⟨behind, rfl, htoken⟩ | ⟨behind, rfl, htoken⟩
  · rw [h'.eq_nil (List.suffix_append _ _) htoken.symm, List.append_nil]
  · rw [h.eq_nil (List.suffix_append _ _) htoken.symm, List.append_nil]

/-- A text without tokens has none in it. -/
theorem IsTokenFree.ne_append (h : IsTokenFree front []) (before after : List Char) :
    front ≠ before ++ (p.token.toList ++ after) := by
  rintro rfl
  have hnil := h.eq_nil (List.suffix_append _ _) (List.append_nil _)
  simp [Placeholder.toList_token] at hnil

/-- There is one way to cut a text at its leftmost tokens. -/
theorem Cuts.unique (h : Cuts text segments) {text' : List Char} (h' : Cuts text' segments')
    (htext : text = text') : segments = segments' := by
  induction h generalizing text' segments' with
  | @last front hfront =>
    cases h' with
    | last _ => rw [htext]
    | token _ _ => exact absurd htext (hfront.ne_append _ _)
  | @token front rest p segments hfront hrest ih =>
    cases h' with
    | last hfront' => exact absurd htext.symm (hfront'.ne_append _ _)
    | token hfront' hrest' =>
      obtain rfl := hfront.eq_of_append_eq hfront' htext
      -- the same token stands there, with the same text behind it
      obtain ⟨rfl, hbehind⟩ := Placeholder.token_append_inj (List.append_cancel_left htext)
      rw [ih hrest' hbehind]

/-- What has been read becomes the next literal, unless nothing has. -/
theorem reverse_pushLiteral (reversed : List Char) (done : List Segment) :
    (pushLiteral reversed done).reverse = done.reverse ++ literalOf reversed.reverse := by
  by_cases h : reversed = [] <;> simp [pushLiteral, literalOf, h]

/-- What has been read is kept the last character first. -/
theorem IsTokenFree.read {reversed : List Char} (h : IsTokenFree reversed.reverse (front ++ rest))
    (hfront : IsTokenFree front rest) : IsTokenFree (front.reverse ++ reversed).reverse rest := by
  rw [List.reverse_append, List.reverse_reverse]
  exact h.append hfront

/-- The loop goes on from where no token has begun yet. -/
theorem cuts_cutOnto {done : List Segment} {reversed : List Char}
    (hpending : IsTokenFree reversed.reverse text) :
    ∃ segments, (cutOnto done reversed text).reverse = done.reverse ++ segments ∧
      Cuts (reversed.reverse ++ text) segments := by
  fun_induction cutOnto done reversed text with
  | case1 done reversed text hopen =>
    -- no sign is left
    rw [← List.append_nil text] at hpending
    have hfree := hpending.read (isTokenFree_of_not_mem (splitSign?_eq_none_iff.1 hopen) [])
    exact ⟨_, reverse_pushLiteral _ done, by simpa using Cuts.last hfree⟩
  | case2 done reversed text front behind hopen before hclose =>
    -- the last sign has none behind it
    obtain ⟨rfl, hfront⟩ := splitSign?_eq_some_iff.1 hopen
    have hbehind := splitSign?_eq_none_iff.1 hclose
    have hlone : IsTokenFree ('%' :: behind) [] := by
      refine isTokenFree_sign hbehind fun p => ?_
      rw [List.append_nil]
      exact not_token_prefix_of_not_mem hbehind p
    have hstart := hpending.read (isTokenFree_of_not_mem hfront ('%' :: behind))
    rw [← List.append_nil ('%' :: behind)] at hstart
    exact ⟨_, reverse_pushLiteral _ done, by simpa [before] using Cuts.last (hstart.read hlone)⟩
  | case3 done reversed text front behind hopen before name after hclose p hname ih =>
    obtain ⟨rfl, hfront⟩ := splitSign?_eq_some_iff.1 hopen
    obtain ⟨rfl, -⟩ := splitSign?_eq_some_iff.1 hclose
    have htoken : '%' :: (name ++ '%' :: after) = p.token.toList ++ after := by
      rw [Placeholder.toList_token, Placeholder.ofName?_eq_some_iff.1 hname]
      simp
    rw [htoken] at hpending ⊢
    have hstart := hpending.append (isTokenFree_of_not_mem hfront (p.token.toList ++ after))
    obtain ⟨segments, hcut, hcuts⟩ := ih (isTokenFree_nil after)
    refine ⟨literalOf (reversed.reverse ++ front) ++ placeholder p :: segments, ?_, ?_⟩
    · rw [hcut, List.reverse_cons, reverse_pushLiteral]
      simp [before]
    · rw [← List.append_assoc]
      exact .token hstart hcuts
  | case4 done reversed text front behind hopen before name after hclose hname ih =>
    -- an unknown name is literal, and the sign behind it is read again
    obtain ⟨rfl, hfront⟩ := splitSign?_eq_some_iff.1 hopen
    obtain ⟨rfl, hsign⟩ := splitSign?_eq_some_iff.1 hclose
    have hunknown : IsTokenFree ('%' :: name) ('%' :: after) :=
      isTokenFree_sign hsign fun p => not_token_prefix_of_unknown hsign hname p after
    have hstart := hpending.read (isTokenFree_of_not_mem hfront ('%' :: (name ++ '%' :: after)))
    obtain ⟨segments, hcut, hcuts⟩ := ih (hstart.read hunknown)
    exact ⟨segments, hcut, by simpa [before] using hcuts⟩

/-- The loop cuts a text at its leftmost tokens. -/
theorem cuts_cut (text : List Char) : Cuts text (cut text) := by
  obtain ⟨segments, hcut, hcuts⟩ := @cuts_cutOnto text [] [] (isTokenFree_nil text)
  rwa [cut, hcut]

/-- So whatever cuts it there cuts it as the loop does. -/
theorem Cuts.eq_cut (h : Cuts text segments) : segments = cut text :=
  h.unique (cuts_cut text) rfl

/-! ## Literals without tokens -/

/-- At the end of a text, none begins if none is in it. -/
theorem isTokenFree_nil_iff :
    IsTokenFree front [] ↔ ∀ q : Placeholder, ¬ q.token.toList <:+: front := by
  refine ⟨?_, ?_⟩
  · rintro h q ⟨before, after, hfront⟩
    exact h.ne_append before after (by rw [← hfront, List.append_assoc])
  · intro h behind hbehind _ q hstarts
    rw [List.append_nil] at hstarts
    exact h q (List.infix_iff_prefix_suffix.2 ⟨behind, hstarts, hbehind⟩)

/-- In front of another token, a token could share the percent sign between them. -/
theorem isTokenFree_cons_iff (rest : List Char) :
    IsTokenFree front ('%' :: rest) ↔
      ∀ q : Placeholder, ¬ q.token.toList <:+: front ++ ['%'] := by
  refine ⟨?_, ?_⟩
  · rintro h q ⟨before, after, htoken⟩
    rw [List.append_assoc] at htoken
    rcases List.append_eq_append_iff.1 htoken with ⟨behind, rfl, hbehind⟩ | ⟨_, -, hsign⟩
    · have hlead : behind ++ '%' :: rest = q.token.toList ++ (after ++ rest) := by
        rw [← List.append_assoc, hbehind]
        simp
      rw [h.eq_nil (List.suffix_append _ _) hlead, Placeholder.toList_token] at hbehind
      simp at hbehind
    · rw [Placeholder.toList_token] at hsign
      have hlength := congrArg List.length hsign
      simp only [List.length_append, List.length_cons, List.length_nil] at hlength
      omega
  · rintro h behind ⟨before, rfl⟩ hne q ⟨after, hlead⟩
    have htoken : q.token.toList <+: behind ++ ['%'] := by
      rw [← List.singleton_append, ← List.append_assoc] at hlead
      rcases List.append_eq_append_iff.1 hlead.symm with ⟨inner, htoken, -⟩ | ⟨inner, htoken, -⟩
      · -- the sign cannot stand inside of the token
        rw [List.append_assoc, List.singleton_append] at htoken
        rw [htoken, Placeholder.eq_nil_of_token_eq htoken hne]
      · exact ⟨inner, htoken.symm⟩
    refine h q (htoken.isInfix.trans ?_)
    rw [List.append_assoc]
    exact (List.suffix_append before _).isInfix

/-! ## Segmentations -/

/-- The segments of a text, as they are written in a format, in a row. -/
def written (segments : List Segment) : List Char :=
  segments.flatMap (·.source.toList)

theorem written_cons (segment : Segment) (next : List Segment) :
    written (segment :: next) = segment.source.toList ++ written next :=
  List.flatMap_cons

/-- No literal follows another one. -/
def Alternates (segments : List Segment) : Prop :=
  segments.IsChain fun a b => ¬ (a.placeholder? = none ∧ b.placeholder? = none)

/-- A segment can be put in front unless two literals would meet. -/
theorem alternates_cons {segment : Segment} {segments : List Segment}
    (h : Alternates segments)
    (hborder : segment.placeholder? = none → ∀ next ∈ segments.head?, next.placeholder? ≠ none) :
    Alternates (segment :: segments) :=
  List.isChain_cons.2 ⟨fun _ hnext hboth => hborder hboth.1 _ hnext hboth.2, h⟩

/-- The percent sign that a placeholder begins with. -/
def opening : List Segment → List Char
  | placeholder _ :: _ => ['%']
  | _ => []

/-- The segments spell the text, literals are as long as they can be, and no token stands in one,
also not with the percent sign of a placeholder behind it. -/
structure IsSegmentation (text : List Char) (segments : List Segment) : Prop where
  written_eq : written segments = text
  ne_empty : ∀ content, .literal content ∈ segments → content ≠ ""
  alternates : Alternates segments
  token_free : ∀ content behind, .literal content :: behind <:+ segments →
    ∀ p : Placeholder, ¬ p.token.toList <:+: content.toList ++ opening behind

/-- Without its first segment, a segmentation is one of the rest of the text. -/
theorem IsSegmentation.tail {segment : Segment}
    (h : IsSegmentation text (segment :: segments)) : IsSegmentation (written segments) segments :=
  ⟨rfl, fun content hcontent => h.ne_empty content (List.mem_cons_of_mem _ hcontent),
    h.alternates.tail,
    fun content behind hbehind =>
      h.token_free content behind (hbehind.trans (List.suffix_cons _ _))⟩

theorem literalOf_toList {content : String} (h : content ≠ "") :
    literalOf content.toList = [.literal content] := by
  rw [literalOf, if_neg (by simpa using h), String.ofList_toList]

/-- In a segmentation, the leftmost token is the first placeholder: one that began earlier would lie
in the literal, but for the percent sign that it may share with the placeholder. -/
theorem IsSegmentation.cuts : ∀ {text : List Char} {segments : List Segment},
    IsSegmentation text segments → Cuts text segments
  | _, [], h => by
    obtain rfl := h.written_eq
    exact .last (isTokenFree_nil [])
  | _, .placeholder p :: segments, h => by
    obtain rfl := h.written_eq
    exact .token (isTokenFree_nil _) h.tail.cuts
  | _, [.literal content], h => by
    obtain rfl := h.written_eq
    have hfree := h.token_free content [] (List.suffix_refl _)
    rw [written_cons, source, ← literalOf_toList (h.ne_empty content List.mem_cons_self)]
    simp only [opening, List.append_nil] at hfree
    simpa [written] using Cuts.last (isTokenFree_nil_iff.2 hfree)
  | _, .literal a :: .literal b :: segments, h => by
    exact absurd ⟨rfl, rfl⟩ (List.isChain_cons_cons.1 h.alternates).1
  | _, .literal content :: .placeholder p :: segments, h => by
    obtain rfl := h.written_eq
    have hfree := h.token_free content _ (List.suffix_refl _)
    -- the sign that opens the token is also part of what must be free of tokens
    have hfront := (isTokenFree_cons_iff (p.name.toList ++ ['%'] ++ written segments)).2 hfree
    rw [← List.cons_append, ← Placeholder.toList_token] at hfront
    have hcuts := Cuts.token hfront h.tail.tail.cuts
    rw [literalOf_toList (h.ne_empty content List.mem_cons_self)] at hcuts
    exact hcuts

theorem isSegmentation_nil : IsSegmentation [] [] :=
  ⟨rfl, by simp, .nil, by simp⟩

/-- A placeholder can be put in front of any segmentation. -/
theorem IsSegmentation.cons_placeholder (h : IsSegmentation text segments) (p : Placeholder) :
    IsSegmentation (p.token.toList ++ text) (.placeholder p :: segments) := by
  refine ⟨?_, ?_, alternates_cons h.alternates (by simp [placeholder?]), ?_⟩
  · rw [written_cons, h.written_eq, source]
  · intro content hcontent
    exact h.ne_empty content (by simpa using hcontent)
  · intro content behind hbehind
    rcases List.suffix_cons_iff.1 hbehind with heq | hbehind
    · simp at heq
    · exact h.token_free content behind hbehind

/-- A literal can stand in front of a placeholder or at the end. -/
theorem IsSegmentation.literalOf_append (h : IsSegmentation text segments)
    (hnext : ∀ next ∈ segments.head?, next.placeholder? ≠ none)
    (hfree : ∀ q : Placeholder, ¬ q.token.toList <:+: front ++ opening segments) :
    IsSegmentation (front ++ text) (literalOf front ++ segments) := by
  by_cases hnil : front = []
  · simpa [hnil, literalOf] using h
  · rw [literalOf, if_neg hnil, List.singleton_append]
    refine ⟨?_, ?_, alternates_cons h.alternates fun _ => hnext, ?_⟩
    · rw [written_cons, h.written_eq, source, String.toList_ofList]
    · intro content hcontent
      rcases List.mem_cons.1 hcontent with heq | hcontent
      · obtain rfl := literal.inj heq
        simpa using hnil
      · exact h.ne_empty content hcontent
    · intro content behind hbehind
      rcases List.suffix_cons_iff.1 hbehind with heq | hbehind
      · obtain ⟨hcontent, rfl⟩ := List.cons.inj heq
        obtain rfl := literal.inj hcontent
        simpa using hfree
      · exact h.token_free content behind hbehind

/-- Cutting at the leftmost tokens leaves none in a literal. -/
theorem Cuts.isSegmentation (h : Cuts text segments) : IsSegmentation text segments := by
  induction h with
  | @last front hfront =>
    have hlast : IsSegmentation (front ++ []) (literalOf front ++ []) :=
      isSegmentation_nil.literalOf_append (by simp)
        (by simpa [opening] using isTokenFree_nil_iff.1 hfront)
    simpa using hlast
  | @token front rest p segments hfront hrest ih =>
    rw [Placeholder.toList_token, List.cons_append, isTokenFree_cons_iff] at hfront
    exact (ih.cons_placeholder p).literalOf_append (by simp [placeholder?]) hfront

/-- Every text has a segmentation, the one that the loop gives. -/
theorem isSegmentation_cut (text : List Char) : IsSegmentation text (cut text) :=
  (cuts_cut text).isSegmentation

/-- Cutting finds the only segmentation there is. -/
theorem isSegmentation_iff_eq_cut : IsSegmentation text segments ↔ segments = cut text :=
  ⟨fun h => h.cuts.eq_cut, fun h => h ▸ isSegmentation_cut text⟩

end Segment

end BlogRouting
