import BlogRouting.Files.Path
import Mathlib.Data.List.Chain
import Mathlib.Data.List.Infix
import Mathlib.Data.List.TakeWhile
import Mathlib.Data.String.Basic

/-!
# Climbing from a path

Climbing takes the last name off a path, with everything that names nothing around it
(`names_of_parent?`), until no name is left (`parent?_eq_none_iff`). So the paths above a path have
the beginnings of its names (`map_names_selfAndAbove`), and there are as many of them as there are
names. From a relative path, climbing ends at the empty path (`IsRelative.toString_eq_empty`): a
lead or an empty piece in front would be left over otherwise.
-/

namespace BlogRouting.FilePath

variable {path above : FilePath} {pieces rest : List String} {piece : String}

/-- The names in a path. A dot is a name only in front. -/
def names (path : FilePath) : List String :=
  (if path.lead = .dot then ["."] else []) ++ (path.pieces.filter (!isEmptyPiece ·)).reverse

/-! ## One step up -/

theorem trimPieces_eq_nil_iff :
    trimPieces pieces = [] ↔ pieces.filter (!isEmptyPiece ·) = [] := by
  rw [trimPieces, List.dropWhile_eq_nil_iff, List.filter_eq_nil_iff]
  simp

/-- Pieces that name nothing are no names, so it makes no difference to drop them. -/
theorem filter_trimPieces (pieces : List String) :
    (trimPieces pieces).filter (!isEmptyPiece ·) = pieces.filter (!isEmptyPiece ·) := by
  induction pieces with
  | nil => rfl
  | cons piece pieces ih =>
    cases hpiece : isEmptyPiece piece with
    | true => simpa [trimPieces, hpiece] using ih
    | false => simp [trimPieces, hpiece]

/-- The first piece that is left names something, and so it is a name. -/
theorem filter_of_trimPieces (h : trimPieces pieces = piece :: rest) :
    pieces.filter (!isEmptyPiece ·) = piece :: rest.filter (!isEmptyPiece ·) := by
  have hpiece : isEmptyPiece piece = false := by
    have hhead := List.head?_dropWhile_not isEmptyPiece pieces
    rw [← trimPieces, h] at hhead
    simpa using hhead
  rw [← filter_trimPieces, h, List.filter_cons_of_pos (by simp [hpiece])]

/-- A step up takes off the last name, or else the dot that a path begins with. -/
theorem parent?_eq_some_iff : path.parent? = some above ↔
    (∃ piece rest, trimPieces path.pieces = piece :: rest ∧ above = ⟨path.lead, trimPieces rest⟩) ∨
      trimPieces path.pieces = [] ∧ path.lead = .dot ∧ above = ⟨.none, []⟩ := by
  unfold parent?
  cases htrim : trimPieces path.pieces with
  | nil => cases hlead : path.lead <;> simp [eq_comm]
  | cons piece rest => simp [eq_comm]

/-- There is nothing above a path without names. -/
theorem parent?_eq_none_iff : path.parent? = none ↔ path.names = [] := by
  unfold parent? names
  split
  · rename_i piece rest lead heq
    simp [filter_of_trimPieces heq]
  · rename_i heq hlead
    simp [hlead]
  · rename_i heq hlead
    simpa [trimPieces_eq_nil_iff.1 heq] using hlead

/-- One step up takes off the last name. -/
theorem names_of_parent? (h : path.parent? = some above) :
    path.names ≠ [] ∧ above.names = path.names.dropLast := by
  refine ⟨fun hnil => ?_, ?_⟩
  · rw [parent?_eq_none_iff.2 hnil] at h
    exact absurd h (by simp)
  · rcases parent?_eq_some_iff.1 h with ⟨piece, rest, htrim, rfl⟩ | ⟨htrim, hlead, rfl⟩
    · rw [names, names, filter_of_trimPieces htrim, filter_trimPieces, List.reverse_cons,
        ← List.append_assoc, List.dropLast_concat]
    · rw [names, names, trimPieces_eq_nil_iff.1 htrim, if_pos hlead]
      rfl

/-! ## All the way up -/

theorem selfAndAbove_of_none (h : path.parent? = none) : path.selfAndAbove = [path] := by
  rw [selfAndAbove]
  split
  · rfl
  · rename_i heq
    rw [h] at heq
    exact absurd heq (by simp)

/-- Above a path comes what is above its parent. -/
theorem selfAndAbove_of_some (h : path.parent? = some above) :
    path.selfAndAbove = path :: above.selfAndAbove := by
  rw [selfAndAbove]
  split
  · rename_i heq
    rw [h] at heq
    exact absurd heq (by simp)
  · rename_i heq
    rw [h, Option.some.injEq] at heq
    rw [heq]

theorem head?_selfAndAbove (path : FilePath) : path.selfAndAbove.head? = some path := by
  cases h : path.parent? with
  | none => rw [selfAndAbove_of_none h, List.head?_cons]
  | some above => rw [selfAndAbove_of_some h, List.head?_cons]

/-- Every step of the climb leads to the parent. -/
theorem isChain_selfAndAbove (path : FilePath) :
    path.selfAndAbove.IsChain fun path above => path.parent? = some above := by
  fun_induction selfAndAbove path with
  | case1 path h => exact List.isChain_singleton path
  | case2 path above h ih =>
    rw [List.isChain_cons]
    refine ⟨fun next hnext => ?_, ih⟩
    rw [head?_selfAndAbove, Option.mem_some_iff] at hnext
    rw [h, hnext]

/-- The names of the paths are the beginnings of the names of the first one, from the longest on. -/
theorem map_names_selfAndAbove (path : FilePath) :
    path.selfAndAbove.map names = path.names.inits.reverse := by
  fun_induction selfAndAbove path with
  | case1 path h => rw [List.map_singleton, parent?_eq_none_iff.1 h]; rfl
  | case2 path above h ih =>
    obtain ⟨hne, hnames⟩ := names_of_parent? h
    have hinits : path.names.inits = path.names.dropLast.inits ++ [path.names] := by
      conv_lhs => rw [← List.dropLast_concat_getLast hne]
      rw [List.inits_append]
      simp [List.dropLast_concat_getLast hne]
    rw [List.map_cons, ih, hnames, hinits, List.reverse_append, List.reverse_singleton,
      List.singleton_append]

/-! ## Relative paths -/

theorem toList_intercalate_piecesOf (text : List Char) :
    ("/".intercalate (piecesOf text).reverse).toList = text := by
  rw [piecesOf, List.reverse_reverse, String.toList_intercalate, List.map_map]
  simp [Function.comp_def, List.intercalate_splitOn]

/-- A path is kept as it was written. -/
theorem toString_ofString (text : String) : (ofString text).toString = text := by
  rw [← String.toList_inj]
  unfold ofString toString
  split
  · rename_i rest heq
    rw [String.toList_append, toList_intercalate_piecesOf, heq]
    simp [Lead.text]
  · rename_i heq
    rw [String.toList_append, toList_intercalate_piecesOf, heq]
    rfl
  · rename_i rest heq
    rw [String.toList_append, toList_intercalate_piecesOf, heq]
    simp [Lead.text]
  · rw [String.toList_append, toList_intercalate_piecesOf]
    simp [Lead.text]

/-- The path does not begin at the root. If it does not begin with a dot either, its first piece
names something, unless the path is empty. -/
structure IsRelative (path : FilePath) : Prop where
  lead_ne : path.lead ≠ .root
  first : path.lead = .none → ∀ piece, path.pieces.getLast? = some piece →
    isEmptyPiece piece = true → path.pieces = [""]

/-- The first piece of a text that does not begin with a slash names something, unless it is a dot
in front of a slash or of the end. -/
theorem pieces_eq_of_isEmptyPiece {text : List Char} (hslash : text.head? ≠ some '/')
    (hdot : text ≠ ['.']) (hdots : ∀ rest, text ≠ '.' :: '/' :: rest)
    (hlast : (piecesOf text).getLast? = some piece) (hpiece : isEmptyPiece piece = true) :
    piecesOf text = [""] := by
  rw [piecesOf, List.getLast?_reverse] at hlast
  cases text with
  | nil => rfl
  | cons c text =>
    exfalso
    have hc : c ≠ '/' := fun hc => hslash (by rw [hc]; rfl)
    obtain ⟨first, others, hsplit⟩ := List.exists_cons_of_ne_nil (List.splitOn_ne_nil '/' text)
    rw [List.splitOn_cons_eq_if_modifyHead, if_neg (by simpa using hc), hsplit] at hlast
    obtain rfl : String.ofList (c :: first) = piece := by simpa using hlast
    obtain ⟨rfl, rfl⟩ : c = '.' ∧ first = [] := by
      simpa [isEmptyPiece, ← String.toList_inj] using hpiece
    -- the first piece is a dot, so what follows it is a slash or nothing
    cases text with
    | nil => exact hdot rfl
    | cons d text =>
      by_cases hd : d = '/'
      · exact hdots text (by rw [hd])
      · obtain ⟨second, rest, hrest⟩ := List.exists_cons_of_ne_nil (List.splitOn_ne_nil '/' text)
        rw [List.splitOn_cons_eq_if_modifyHead, if_neg (by simpa using hd), hrest] at hsplit
        simp at hsplit

/-- A text that does not begin with a slash is a relative path. -/
theorem isRelative_ofString {text : String} (h : text.toList.head? ≠ some '/') :
    (ofString text).IsRelative := by
  unfold ofString
  split
  · rename_i heq
    exact absurd (by rw [heq]; rfl) h
  · exact ⟨by simp, by simp⟩
  · exact ⟨by simp, by simp⟩
  · rename_i hroot hdot hdots
    exact ⟨by simp, fun _ piece => pieces_eq_of_isEmptyPiece h hdot hdots⟩

/-- Climbing does not make a path absolute. -/
theorem IsRelative.parent (h : path.IsRelative) (hparent : path.parent? = some above) :
    above.IsRelative := by
  rcases parent?_eq_some_iff.1 hparent with ⟨piece, rest, htrim, rfl⟩ | ⟨-, -, rfl⟩
  · refine ⟨h.lead_ne, fun hlead first hfirst hempty => ?_⟩
    -- what is left begins as the path did
    have hsuffix : trimPieces rest <:+ path.pieces :=
      (List.dropWhile_suffix _).trans
        ((htrim ▸ List.suffix_cons piece rest).trans (List.dropWhile_suffix _))
    obtain ⟨front, hfront⟩ := hsuffix
    have hwhole : path.pieces.getLast? = some first := by
      rw [← hfront, List.getLast?_append, hfirst]
      rfl
    have hnone : trimPieces [""] = [] := by decide
    rw [h.first hlead first hwhole hempty, hnone] at htrim
    exact absurd htrim (by simp)
  · exact ⟨by simp, by simp⟩

/-- Where there is nowhere to climb, nothing is left of the path. -/
theorem IsRelative.toString_eq_empty (h : path.IsRelative) (hparent : path.parent? = none) :
    path.toString = "" := by
  have hnames := parent?_eq_none_iff.1 hparent
  rw [names, List.append_eq_nil_iff, List.reverse_eq_nil_iff, List.filter_eq_nil_iff] at hnames
  have hlead : path.lead = .none := by
    cases hlead : path.lead with
    | none => rfl
    | dot => simp [hlead] at hnames
    | root => exact absurd hlead h.lead_ne
  -- a piece that names nothing is left only where the path is one such piece
  have hpieces : path.pieces = [] ∨ path.pieces = [""] := by
    cases hlast : path.pieces.getLast? with
    | none => exact .inl (List.getLast?_eq_none_iff.1 hlast)
    | some piece =>
      have hempty := hnames.2 piece (List.mem_of_getLast? hlast)
      exact .inr (h.first hlead piece hlast (by simpa using hempty))
  rcases hpieces with hpieces | hpieces <;> rw [toString, hlead, hpieces] <;> rfl

/-- All paths on the way up from a relative path are relative. -/
theorem IsRelative.mem_selfAndAbove (h : path.IsRelative) (hmem : above ∈ path.selfAndAbove) :
    above.IsRelative := by
  fun_induction selfAndAbove path with
  | case1 path _ => rwa [List.mem_singleton.1 hmem]
  | case2 path next hparent ih =>
    rcases List.mem_cons.1 hmem with rfl | hmem
    · exact h
    · exact ih (h.parent hparent) hmem

/-- The climb ends, at a path with nothing above it. -/
theorem exists_getLast?_selfAndAbove (path : FilePath) :
    ∃ last, path.selfAndAbove.getLast? = some last ∧ last.parent? = none := by
  fun_induction selfAndAbove path with
  | case1 path h => exact ⟨path, rfl, h⟩
  | case2 path above h ih =>
    obtain ⟨last, hlast, hnone⟩ := ih
    exact ⟨last, by rw [List.getLast?_cons, hlast]; rfl, hnone⟩

end BlogRouting.FilePath
