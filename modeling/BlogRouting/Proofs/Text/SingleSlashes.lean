import BlogRouting.Text.Slashes
import Mathlib.Data.List.Chain
import Mathlib.Data.List.TakeWhile

/-!
# Texts with single slashes

Formats and paths are compared once every run of slashes is cut down to one slash and the leading
slash is gone. `AreSingle` says of a text that there is nothing left to cut down, and `Repeats` says
of two texts that the one is cut down further than the other.
-/

namespace BlogRouting.Slashes

/-- No slash stands next to another one. -/
def AreSingle (text : List Char) : Prop :=
  text.IsChain fun a b => ¬ (a = '/' ∧ b = '/')

/-- A text has single slashes exactly if two in a row occur nowhere in it. -/
theorem areSingle_iff {text : List Char} : AreSingle text ↔ ¬ ['/', '/'] <:+: text := by
  unfold AreSingle
  rw [List.isChain_iff_forall_rel_of_append_cons_cons]
  refine ⟨?_, ?_⟩
  · rintro h ⟨before, after, htext⟩
    have hsplit : text = before ++ '/' :: '/' :: after := by simp [← htext]
    exact h hsplit ⟨rfl, rfl⟩
  · rintro h a b before after htext ⟨rfl, rfl⟩
    exact h ⟨before, after, by simp [htext]⟩

/-- Two texts in a row have single slashes if both do and not both have one at the border. -/
theorem areSingle_append {a b : List Char} :
    AreSingle (a ++ b) ↔ AreSingle a ∧ AreSingle b ∧
      ¬ (a.getLast? = some '/' ∧ b.head? = some '/') := by
  simp only [AreSingle, List.isChain_append]
  refine and_congr_right fun _ => and_congr_right fun _ => ⟨?_, ?_⟩
  · rintro h ⟨ha, hb⟩
    exact h '/' (by simp [ha]) '/' (by simp [hb]) ⟨rfl, rfl⟩
  · rintro h x hx y hy ⟨rfl, rfl⟩
    exact h ⟨by simpa using hx, by simpa using hy⟩

theorem areSingle_cons {c : Char} {text : List Char} :
    AreSingle (c :: text) ↔ ¬ (c = '/' ∧ text.head? = some '/') ∧ AreSingle text := by
  rw [← List.singleton_append, areSingle_append]
  simp [AreSingle, and_comm]

theorem areSingle_of_not_mem {text : List Char} (h : '/' ∉ text) : AreSingle text :=
  areSingle_iff.2 fun hin => h (hin.subset (by simp))

/-- Collapsing leaves no two slashes in a row. -/
theorem areSingle_collapse (text : List Char) : AreSingle (collapse text) := by
  induction text with
  | nil => exact .nil
  | cons c text ih =>
    rw [collapse_cons]
    split
    · exact ih
    · rename_i h
      exact areSingle_cons.2 ⟨h, ih⟩

theorem collapse_eq_self {text : List Char} (h : AreSingle text) : collapse text = text := by
  induction text with
  | nil => rfl
  | cons c text ih =>
    obtain ⟨hc, htext⟩ := areSingle_cons.1 h
    rw [collapse_cons, ih htext, if_neg hc]

theorem areSingle_trimLeading {text : List Char} (h : AreSingle text) :
    AreSingle (trimLeading text) :=
  List.IsChain.suffix h (List.dropWhile_suffix _)

theorem head?_trimLeading (text : List Char) : (trimLeading text).head? ≠ some '/' := by
  intro h
  have := List.head?_dropWhile_not (fun c => decide (c = '/')) text
  simp only [trimLeading] at h
  simp [h] at this

theorem trimLeading_eq_self {text : List Char} (h : text.head? ≠ some '/') :
    trimLeading text = text := by
  cases text with
  | nil => rfl
  | cons c text => simp_all [trimLeading]

/-! ## Collapsing part by part -/

/-- A slash in front takes the place of those behind it. -/
theorem collapse_slash_cons (text : List Char) :
    collapse ('/' :: text) = '/' :: trimLeading (collapse text) := by
  rw [collapse_cons]
  by_cases hhead : (collapse text).head? = some '/'
  · obtain ⟨rest, hrest⟩ := List.head?_eq_some_iff.1 hhead
    have hsingle := areSingle_collapse text
    rw [if_pos ⟨rfl, hhead⟩, hrest, trimLeading_slash]
    rw [hrest, areSingle_cons] at hsingle
    rw [trimLeading_eq_self fun hslash => hsingle.1 ⟨rfl, hslash⟩]
  · rw [if_neg fun hboth => hhead hboth.2, trimLeading_eq_self hhead]

/-- It does not matter whether slashes are collapsed or trimmed first. -/
theorem trimLeading_collapse (text : List Char) :
    trimLeading (collapse text) = collapse (trimLeading text) := by
  induction text with
  | nil => rfl
  | cons c text ih =>
    by_cases hc : c = '/'
    · subst hc
      rw [collapse_slash_cons, trimLeading_slash, trimLeading_slash,
        trimLeading_eq_self (head?_trimLeading _), ih]
    · have hself (rest : List Char) : trimLeading (c :: rest) = c :: rest :=
        trimLeading_eq_self (by simpa using hc)
      rw [collapse_cons_of_ne hc, hself, hself, collapse_cons_of_ne hc]

/-- Text in order stays as it is if it does not end in a slash, whatever is behind it. -/
theorem collapse_append {a : List Char} (h : AreSingle a) (hlast : a.getLast? ≠ some '/')
    (b : List Char) : collapse (a ++ b) = a ++ collapse b := by
  induction a with
  | nil => rfl
  | cons c a ih =>
    obtain ⟨hborder, hsingle⟩ := areSingle_cons.1 h
    by_cases hnil : a = []
    · subst hnil
      exact collapse_cons_of_ne (fun hc => hlast (by rw [hc]; rfl)) b
    · have htail : a.getLast? ≠ some '/' := by
        rwa [List.getLast?_cons_of_ne_nil hnil] at hlast
      rw [List.cons_append, collapse_cons, ih hsingle htail, if_neg]
      · rfl
      · rwa [List.head?_append_of_ne_nil _ hnil]

/-- Collapsing only leaves characters out. -/
theorem collapse_sublist (text : List Char) : (collapse text).Sublist text := by
  induction text with
  | nil => exact .slnil
  | cons c text ih =>
    rw [collapse_cons]
    split
    · exact ih.cons c
    · exact ih.cons_cons c

theorem collapse_eq_nil_iff {text : List Char} : collapse text = [] ↔ text = [] := by
  rw [← List.head?_eq_none_iff, head?_collapse, List.head?_eq_none_iff]

/-! ## Slashes at the ends -/

/-- What is trimmed off is slashes. -/
theorem exists_replicate_trimLeading (text : List Char) :
    ∃ n, text = List.replicate n '/' ++ trimLeading text := by
  have hslashes : text.takeWhile (· = '/')
      = List.replicate (text.takeWhile (· = '/')).length '/' := by
    refine List.eq_replicate_of_mem fun c hc => ?_
    simpa using List.mem_takeWhile_imp hc
  refine ⟨(text.takeWhile (· = '/')).length, ?_⟩
  rw [← hslashes]
  exact List.takeWhile_append_dropWhile.symm

/-- What is trimmed off at both ends is slashes. -/
theorem exists_replicate_trim (text : List Char) :
    ∃ m n, text = List.replicate m '/' ++ (trim text ++ List.replicate n '/') := by
  obtain ⟨m, hm⟩ := exists_replicate_trimLeading text
  obtain ⟨n, hn⟩ := exists_replicate_trimLeading (trimLeading text).reverse
  refine ⟨m, n, ?_⟩
  have hbehind : trimLeading text = trim text ++ List.replicate n '/' := by
    have hreverse := congrArg List.reverse hn
    rwa [List.reverse_reverse, List.reverse_append, List.reverse_replicate] at hreverse
  rw [← hbehind]
  exact hm

/-- However many slashes stand in front, all go. -/
theorem trimLeading_replicate_append (n : Nat) (text : List Char) :
    trimLeading (List.replicate n '/' ++ text) = trimLeading text := by
  induction n with
  | zero => rfl
  | succ n ih => rw [List.replicate_succ, List.cons_append, trimLeading_slash, ih]

/-- A trimmed text begins with no slash. -/
theorem head?_trim (text : List Char) : (trim text).head? ≠ some '/' := by
  intro h
  obtain ⟨rest, hrest⟩ := List.head?_eq_some_iff.1 h
  -- what is left begins the text behind its leading slashes
  have hprefix : trim text <+: trimLeading text := by
    have hsuffix : trimLeading (trimLeading text).reverse <:+ (trimLeading text).reverse :=
      List.dropWhile_suffix _
    have := List.reverse_prefix.2 hsuffix
    rwa [List.reverse_reverse] at this
  rw [hrest] at hprefix
  obtain ⟨behind, hbehind⟩ := hprefix
  exact head?_trimLeading text (by rw [← hbehind]; rfl)

theorem getLast?_trim (text : List Char) : (trim text).getLast? ≠ some '/' := by
  rw [trim, List.getLast?_reverse]
  exact head?_trimLeading _

theorem mem_of_mem_trim {text : List Char} {c : Char} (h : c ∈ trim text) : c ∈ text := by
  have hrev : c ∈ (trimLeading text).reverse :=
    (List.dropWhile_sublist _).subset (List.mem_reverse.1 h)
  exact (List.dropWhile_sublist _).subset (List.mem_reverse.1 hrev)

/-- One slash put in front of a trimmed text is trimmed off again. -/
theorem trim_slash_cons {text : List Char} (hhead : text.head? ≠ some '/')
    (hlast : text.getLast? ≠ some '/') : trim ('/' :: text) = text := by
  have hreverse : text.reverse.head? ≠ some '/' := by rwa [List.head?_reverse]
  rw [trim, trimLeading_slash, trimLeading_eq_self hhead, trimLeading_eq_self hreverse,
    List.reverse_reverse]

/-- One slash more at the end goes like the others. -/
theorem trim_append_slash (text : List Char) : trim (text ++ ['/']) = trim text := by
  have hslash : trimLeading ['/'] = [] := rfl
  have happend : trimLeading (text ++ ['/'])
      = if (trimLeading text).isEmpty then [] else trimLeading text ++ ['/'] := by
    rw [← hslash]
    exact List.dropWhile_append
  unfold trim
  rw [happend]
  split
  · rename_i hempty
    rw [List.isEmpty_iff.1 hempty]
  · rw [List.reverse_append, List.reverse_singleton, List.singleton_append, trimLeading_slash]

/-! ## Slashes written more than once -/

/-- The second text is the first one with any slash of it written any number of times. -/
inductive Repeats : List Char → List Char → Prop where
  | nil : Repeats [] []
  | keep {text repeated : List Char} (c : Char) (h : Repeats text repeated) :
      Repeats (c :: text) (c :: repeated)
  | again {text repeated : List Char} (h : Repeats ('/' :: text) repeated) :
      Repeats ('/' :: text) ('/' :: repeated)

variable {text repeated : List Char}

theorem Repeats.refl (text : List Char) : Repeats text text := by
  induction text with
  | nil => exact .nil
  | cons c text ih => exact .keep c ih

/-- Slashes can be repeated part by part. -/
theorem Repeats.append {a b c d : List Char} (hab : Repeats a b) (hcd : Repeats c d) :
    Repeats (a ++ c) (b ++ d) := by
  induction hab with
  | nil => exact hcd
  | keep e _ ih => exact .keep e ih
  | again _ ih => exact .again ih

/-- One slash can be written as any number of them, though not as none. -/
theorem repeats_replicate (n : Nat) : Repeats ['/'] (List.replicate (n + 1) '/') := by
  induction n with
  | zero => exact .refl _
  | succ n ih => exact .again ih

/-- Repeated slashes make no difference once they are collapsed. -/
theorem Repeats.collapse_eq (h : Repeats text repeated) : collapse repeated = collapse text := by
  induction h with
  | nil => rfl
  | keep c _ ih => rw [collapse_cons, ih, collapse_cons]
  | again _ ih => rw [collapse_cons, ih, if_pos ⟨rfl, head?_collapse _⟩]

/-- Repeating slashes adds no other characters. -/
theorem Repeats.mem {c : Char} (h : Repeats text repeated) (hc : c ∈ repeated) : c ∈ text := by
  induction h with
  | nil => exact hc
  | keep d _ ih =>
    rcases List.mem_cons.1 hc with rfl | hc
    · exact List.mem_cons_self
    · exact List.mem_cons_of_mem _ (ih hc)
  | again _ ih =>
    rcases List.mem_cons.1 hc with rfl | hc
    · exact List.mem_cons_self
    · exact ih hc

/-- Collapsing takes nothing from a text but slashes that stand behind others. -/
theorem repeats_collapse (text : List Char) : Repeats (collapse text) text := by
  induction text with
  | nil => exact .nil
  | cons c text ih =>
    rw [collapse_cons]
    split
    · rename_i hslash
      obtain ⟨kept, hkept⟩ := List.head?_eq_some_iff.1 hslash.2
      rw [hkept] at ih ⊢
      rw [hslash.1]
      exact ih.again
    · exact ih.keep c

theorem mem_collapse {text : List Char} {c : Char} : c ∈ collapse text ↔ c ∈ text :=
  ⟨(collapse_sublist text).mem, (repeats_collapse text).mem⟩

/-! ## Endings without a slash -/

variable {ending : List Char}

/-- A slash in front is not part of an ending without slashes. -/
theorem suffix_slash_cons_iff (h : '/' ∉ ending) (text : List Char) :
    ending <:+ '/' :: text ↔ ending <:+ text := by
  rw [List.suffix_cons_iff, or_iff_right]
  rintro rfl
  exact h List.mem_cons_self

/-- A text ends the same without the slashes in front, if the ending has none. -/
theorem suffix_trimLeading_iff (h : '/' ∉ ending) (text : List Char) :
    ending <:+ trimLeading text ↔ ending <:+ text := by
  obtain ⟨n, hn⟩ := exists_replicate_trimLeading text
  have hslashes (k : Nat) (rest : List Char) :
      ending <:+ List.replicate k '/' ++ rest ↔ ending <:+ rest := by
    induction k with
    | zero => rfl
    | succ k ih => rw [List.replicate_succ, List.cons_append, suffix_slash_cons_iff h, ih]
  conv_rhs => rw [hn, hslashes]

/-- A text ends the same once it is collapsed, if the ending has no slashes. -/
theorem suffix_collapse_iff (h : '/' ∉ ending) (text : List Char) :
    ending <:+ collapse text ↔ ending <:+ text := by
  induction text with
  | nil => rfl
  | cons c text ih =>
    rw [collapse_cons]
    split
    · rename_i hslash
      rw [hslash.1, suffix_slash_cons_iff h, ih]
    · -- the ending is the whole text only if there is nothing to collapse in it
      rw [List.suffix_cons_iff, List.suffix_cons_iff, ih]
      refine or_congr_left ⟨?_, ?_⟩
      · rintro rfl
        have htext : '/' ∉ text := fun hmem => h (List.mem_cons_of_mem _ (mem_collapse.2 hmem))
        rw [collapse_eq_self (areSingle_of_not_mem htext)]
      · rintro rfl
        have htext : '/' ∉ text := fun hmem => h (List.mem_cons_of_mem _ hmem)
        rw [collapse_eq_self (areSingle_of_not_mem htext)]

end BlogRouting.Slashes
