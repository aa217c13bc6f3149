import BlogRouting.Proofs.Text.Escapes
import BlogRouting.Url.Parse
import Mathlib.Tactic.Common

/-!
# Segments of a path

A path is read piece by piece, and every piece is spelled on its own. Spelling makes no dots of a
piece (`isDot_spelled`), because a dot is never escaped. So the segments of a path are spelled out
and none of them is dots (`areRead_segmentsOf`), except that dots may stand behind the drive that a
file path begins with, if tabs kept them from being read as dots.
-/

namespace BlogRouting.Url

variable {scheme : String} {special file : Bool} {before segments : List String}
  {piece : List Char} {segment drive : String}

/-! ## Spelling a piece -/

/-- How a piece of a path is spelled. -/
abbrev spelled (piece : List Char) : List Char :=
  Percent.encode escapedInPath piece

theorem spelled_append (a b : List Char) : spelled (a ++ b) = spelled a ++ spelled b :=
  List.flatMap_append

theorem spelled_cons_of_not_escaped {c : Char} (hc : escapedInPath c = false) (piece : List Char) :
    spelled (c :: piece) = c :: spelled piece := by
  simp [Percent.encode, Percent.encodeChar, hc]

theorem spelled_eq_self {piece : List Char} (h : ∀ c ∈ piece, escapedInPath c = false) :
    spelled piece = piece :=
  Percent.encode_eq_self h

/-- No character of an escape is escaped again, and none is a slash. -/
theorem escapedInPath_encodeByte {b : UInt8} {c : Char} (h : c ∈ Percent.encodeByte b) :
    escapedInPath c = false ∧ c ≠ '\\' ∧ c ≠ '/' := by
  have hDigit : ∀ n < 16,
      escapedInPath (hexDigit n) = false ∧ hexDigit n ≠ '\\' ∧ hexDigit n ≠ '/' := by
    decide
  have hb := b.toNat_lt
  simp only [Percent.encodeByte, List.mem_cons, List.not_mem_nil, or_false] at h
  rcases h with rfl | rfl | rfl
  · decide
  · exact hDigit _ (by omega)
  · exact hDigit _ (by omega)

/-- Spelling leaves nothing to escape. -/
theorem escapedInPath_of_mem_spelled {piece : List Char} {c : Char} (h : c ∈ spelled piece) :
    escapedInPath c = false := by
  rcases Percent.mem_encode h with ⟨-, hc⟩ | ⟨b, hb⟩
  · exact hc
  · exact (escapedInPath_encodeByte hb).1

/-- What vanishes from a URL is a control character, which would be escaped. -/
theorem isIgnored_of_not_escapedAnywhere {c : Char} (h : escapedAnywhere c = false) :
    isIgnored c = false := by
  by_contra hignored
  simp only [isIgnored, Bool.not_eq_false, Bool.or_eq_true, decide_eq_true_eq] at hignored
  rcases hignored with (rfl | rfl) | rfl <;> exact absurd h (by decide)

theorem escapedAnywhere_of_not_escaped {c : Char} (h : escapedInPath c = false) :
    escapedAnywhere c = false := by
  simp only [escapedInPath, escapedInFragment, Bool.or_eq_false_iff] at h
  exact h.1.1

/-- What need not be escaped in a path does not vanish from it. -/
theorem isIgnored_of_not_escaped {c : Char} (h : escapedInPath c = false) :
    isIgnored c = false :=
  isIgnored_of_not_escapedAnywhere (escapedAnywhere_of_not_escaped h)

/-! ## Dots -/

/-- How one dot and two dots can be written. -/
def dotWords : List (List Char) :=
  [".", "%2e", "..", "%2e.", ".%2e", "%2e%2e"].map String.toList

/-- In what is written for dots, every escape is that of a dot. -/
theorem escape_of_mem_dotWords {word : List Char} (hword : word ∈ dotWords) {i : Nat}
    (hi : word[i]? = some '%') : word[i + 1]? = some '2' ∧ word[i + 2]? = some 'e' := by
  have hAll : ∀ word ∈ dotWords, word.length ≤ 6 ∧ ∀ i < 6, word[i]? = some '%' →
      word[i + 1]? = some '2' ∧ word[i + 2]? = some 'e' := by
    decide
  obtain ⟨hlen, hEscape⟩ := hAll word hword
  have := (List.getElem?_eq_some_iff.1 hi).1
  exact hEscape i (by omega) hi

/-- A piece that is spelled as dots is written that way, since no dot is ever escaped. -/
theorem spelled_eq_of_dots {piece : List Char} (h : (spelled piece).map Char.toLower ∈ dotWords) :
    spelled piece = piece := by
  refine spelled_eq_self fun c hc => ?_
  by_contra hnot
  have hescaped : escapedInPath c = true := by simpa using hnot
  -- the escape of `c` begins the text behind `front`, and it has to be that of a dot
  obtain ⟨front, back, rfl⟩ := List.append_of_mem hc
  obtain ⟨b, bytes, hbytes⟩ := List.exists_cons_of_ne_nil (String.utf8EncodeChar_ne_nil (c := c))
  have hspelled : spelled (front ++ c :: back) = spelled front ++ '%' :: hexDigit (b.toNat / 16) ::
      hexDigit (b.toNat % 16) :: (bytes.flatMap Percent.encodeByte ++ spelled back) := by
    rw [spelled_append]
    simp [Percent.encode, Percent.encodeChar, hescaped, hbytes, Percent.encodeByte]
  rw [hspelled, List.map_append] at h
  obtain ⟨hhigh, hlow⟩ := escape_of_mem_dotWords h (i := (spelled front).length) (by simp)
  have hHigh : ∀ n < 16, (hexDigit n).toLower = '2' → n = 2 := by decide
  have hLow : ∀ n < 16, (hexDigit n).toLower = 'e' → n = 14 := by decide
  have hb := b.toNat_lt
  have h₁ := hHigh (b.toNat / 16) (by omega) (by simpa using hhigh)
  have h₂ := hLow (b.toNat % 16) (by omega) (by simpa using hlow)
  -- but a dot is not escaped
  have hdot : c = '.' := by
    have := Percent.toNat_of_utf8EncodeChar hbytes (by omega)
    rw [← Char.toNat_inj]
    show c.toNat = 46
    omega
  exact hnot (hdot ▸ by decide)

/-- Only what was dots before is dots once it is spelled. -/
theorem mem_of_spelled_mem {words : List (List Char)} {piece : List Char}
    (hwords : words ⊆ dotWords)
    (h : (spelled piece).map Char.toLower ∈ words) : piece.map Char.toLower ∈ words := by
  rwa [spelled_eq_of_dots (hwords h)] at h

/-- Spelling makes no dot of a piece that was none. -/
theorem isDot_spelled {piece : List Char} (h : isDot piece = false) :
    isDot (spelled piece) = false :=
  decide_eq_false fun hmem => of_decide_eq_false h (mem_of_spelled_mem (by simp [dotWords]) hmem)

/-- Spelling makes no two dots of a piece that was not two. -/
theorem isDoubleDot_spelled {piece : List Char} (h : isDoubleDot piece = false) :
    isDoubleDot (spelled piece) = false :=
  decide_eq_false fun hmem => of_decide_eq_false h (mem_of_spelled_mem (by simp [dotWords]) hmem)

/-! ## Pieces -/

/-- A character other than the slash becomes part of the first piece. -/
theorem splitOn_cons_of_ne {c : Char} (hc : c ≠ '/') (text : List Char) :
    ∃ piece pieces, text.splitOn '/' = piece :: pieces ∧
      (c :: text).splitOn '/' = (c :: piece) :: pieces := by
  obtain ⟨piece, pieces, h⟩ := List.exists_cons_of_ne_nil (List.splitOn_ne_nil '/' text)
  refine ⟨piece, pieces, h, ?_⟩
  rw [List.splitOn_cons_eq_if_modifyHead, if_neg (by simpa using hc), h, List.modifyHead_cons]

theorem splitOn_slash_cons (text : List Char) :
    ('/' :: text).splitOn '/' = [] :: text.splitOn '/' := by
  rw [List.splitOn_cons_eq_if_modifyHead, if_pos (by decide)]

/-- A piece has the characters of the text but for the slashes. -/
theorem mem_of_mem_splitOn {text piece : List Char} {c : Char} (hpiece : piece ∈ text.splitOn '/')
    (hc : c ∈ piece) : c ∈ text ∧ c ≠ '/' := by
  induction text generalizing piece with
  | nil =>
    rw [List.splitOn_nil, List.mem_singleton] at hpiece
    exact absurd hc (by simp [hpiece])
  | cons d text ih =>
    have htail {piece : List Char} (hpiece : piece ∈ text.splitOn '/') (hc : c ∈ piece) :
        c ∈ d :: text ∧ c ≠ '/' :=
      ⟨List.mem_cons_of_mem _ (ih hpiece hc).1, (ih hpiece hc).2⟩
    by_cases hd : d = '/'
    · subst hd
      rw [splitOn_slash_cons, List.mem_cons] at hpiece
      rcases hpiece with rfl | hpiece
      · exact absurd hc (by simp)
      · exact htail hpiece hc
    · obtain ⟨first, pieces, htext, hsplit⟩ := splitOn_cons_of_ne hd text
      rw [hsplit, List.mem_cons] at hpiece
      rcases hpiece with rfl | hpiece
      · rcases List.mem_cons.1 hc with rfl | hc
        · exact ⟨List.mem_cons_self, hd⟩
        · exact htail (htext ▸ List.mem_cons_self) hc
      · exact htail (htext ▸ List.mem_cons_of_mem _ hpiece) hc

/-- No piece of a path has in it what the path is cut at. -/
theorem not_mem_of_mem_piecesOf {special : Bool} {text piece : List Char}
    (h : piece ∈ piecesOf special text) : (special = true → '\\' ∉ piece) ∧ '/' ∉ piece := by
  -- whatever is split at the slashes, it is made of the characters of `read`
  obtain ⟨read, hread, hbackslash⟩ : ∃ read : List Char,
      (piece ∈ read.splitOn '/' ∨ piece = []) ∧ (special = true → '\\' ∉ read) := by
    unfold piecesOf at h
    dsimp only at h
    have hmap (text : List Char) (hspecial : special = true) :
        '\\' ∉ if special then text.map fun c => if c = '\\' then '/' else c else text := by
      rw [if_pos hspecial, List.mem_map]
      rintro ⟨d, -, hd⟩
      split at hd
      · exact absurd hd (by decide)
      · contradiction
    split at h
    · rename_i tail heq
      refine ⟨tail, .inl h, fun hspecial hmem => hmap (text.dropWhile isIgnored) hspecial ?_⟩
      rw [heq]
      exact List.mem_cons_of_mem _ hmem
    · refine ⟨[], .inr ?_, by simp⟩
      split at h
      · exact List.mem_singleton.1 h
      · exact absurd h (by simp)
    · exact ⟨_, .inl h, hmap _⟩
  rcases hread with hread | rfl
  · exact ⟨fun hspecial hc => hbackslash hspecial (mem_of_mem_splitOn hread hc).1,
      fun hc => (mem_of_mem_splitOn hread hc).2 rfl⟩
  · simp

/-- The text of a path has its segments with a slash in front of each. -/
theorem toList_text_segments (segments : List String) :
    (Path.segments segments).text.toList
      = segments.flatMap fun segment => '/' :: segment.toList := by
  simp [Path.text, List.flatMap_map]

/-! ## What a segment can be -/

/-- The segment is one dot or two, escaped or not. -/
def IsDots (segment : List Char) : Prop :=
  isDot segment = true ∨ isDoubleDot segment = true

/-- The segment is a letter with a sign behind it. -/
def IsDrive (sign : Char) (segment : String) : Prop :=
  ∃ letter : Char, letter.isAlpha = true ∧ segment = .ofList [letter, sign]

/-- Every character of the segment stands for itself in a path. -/
def IsSpelled (special : Bool) (segment : List Char) : Prop :=
  ∀ c ∈ segment, escapedInPath c = false ∧ c ≠ '/' ∧ (special = true → c ≠ '\\')

/-! ## Drives -/

/-- What is found to be a drive is a letter with a colon. -/
theorem isDrive_of_drive? (h : drive? piece = some drive) : IsDrive ':' drive := by
  unfold drive? at h
  split at h
  · split_ifs at h with hletter
    exact ⟨_, hletter, (Option.some.inj h).symm⟩
  · split_ifs at h with hletter
    exact ⟨_, hletter, (Option.some.inj h).symm⟩
  · exact absurd h (by simp)

/-- What is cut off as a drive is one, and only where a character has vanished from the piece. -/
theorem isDrive_of_cutDrive? {behind : List Char} (h : cutDrive? piece = some (drive, behind)) :
    IsDrive ':' drive ∧ behind ⊆ piece ∧ ∃ c ∈ piece, isIgnored c = true := by
  unfold cutDrive? at h
  split at h
  · exact absurd h (by simp)
  · rename_i letter upper hupper
    split at h
    · rename_i gap lower hlower
      split_ifs at h with hdrive
      obtain ⟨rfl, rfl⟩ := Prod.mk.inj (Option.some.inj h)
      have hsubset : ':' :: gap :: lower ⊆ piece := by
        intro c hc
        have hc : c ∈ upper := (List.dropWhile_sublist _).subset (hlower ▸ hc)
        exact (List.dropWhile_sublist _).subset (hupper ▸ List.mem_cons_of_mem _ hc)
      refine ⟨⟨letter, hdrive.1, rfl⟩, fun c hc => ?_, gap, hsubset (by simp), hdrive.2.1⟩
      exact hsubset (List.mem_cons_of_mem _ (List.mem_cons_of_mem _ hc))
    · exact absurd h (by simp)

theorem IsDrive.not_isDots (h : IsDrive ':' segment) : ¬ IsDots segment.toList := by
  obtain ⟨letter, hletter, rfl⟩ := h
  rw [String.toList_ofList]
  rintro (hdots | hdots)
  · simp [isDot] at hdots
  · simp [isDoubleDot] at hdots

/-- Two dots behind a drive do not take it away. -/
theorem IsDrive.shorten_eq (h : IsDrive ':' segment) : shorten [segment] = [segment] := by
  obtain ⟨letter, hletter, rfl⟩ := h
  have hne : letter ≠ '\\' := by
    rintro rfl
    exact absurd hletter (by decide)
  have hdrive : looksLikeDrive (.ofList [letter, ':']) = true := by
    simp [looksLikeDrive, hne, drive?, hletter]
  rw [shorten, if_pos hdrive]

/-! ## What reading leaves -/

/-- Shortening takes segments away at the end. -/
theorem shorten_suffix (before : List String) : shorten before <:+ before := by
  unfold shorten
  split
  · exact List.suffix_rfl
  · split
    · exact List.suffix_rfl
    · exact List.suffix_cons _ _

/-- The segment of a piece is spelled out. -/
theorem isSpelled_segmentText (hslash : '/' ∉ piece) (hbackslash : special = true → '\\' ∉ piece) :
    IsSpelled special (segmentText piece).toList := by
  rw [segmentText, String.toList_ofList]
  intro c hc
  rcases Percent.mem_encode hc with ⟨hmem, hescaped⟩ | ⟨b, hb⟩
  · have hpiece := (List.mem_filter.1 hmem).1
    exact ⟨hescaped, fun he => hslash (he ▸ hpiece),
      fun hspecial he => hbackslash hspecial (he ▸ hpiece)⟩
  · obtain ⟨hescaped, hnot, hslash⟩ := escapedInPath_encodeByte hb
    exact ⟨hescaped, hslash, fun _ => hnot⟩

/-- The segment of a piece is dots only if the piece is, but for what vanishes. -/
theorem not_isDots_segmentText (h : ¬ IsDots (dropIgnored piece)) :
    ¬ IsDots (segmentText piece).toList := by
  obtain ⟨hdot, hdouble⟩ := not_or.1 h
  rw [segmentText, String.toList_ofList, IsDots, isDot_spelled (by simpa using hdot),
    isDoubleDot_spelled (by simpa using hdouble)]
  simp

theorem escapedInPath_of_isAlpha {c : Char} (h : c.isAlpha = true) : escapedInPath c = false := by
  have hbounds : 65 ≤ c.toNat ∧ c.toNat ≤ 122 := by
    rcases Bool.or_eq_true_iff.1 h with hupper | hlower
    · obtain ⟨hlow, hhigh⟩ := of_decide_eq_true hupper
      have hlow : 65 ≤ c.toNat := UInt32.le_iff_toNat_le.1 hlow
      have hhigh : c.toNat ≤ 90 := UInt32.le_iff_toNat_le.1 hhigh
      omega
    · obtain ⟨hlow, hhigh⟩ := Bool.and_eq_true_iff.1 hlower
      have hlow : 97 ≤ c.toNat := UInt32.le_iff_toNat_le.1 (of_decide_eq_true hlow)
      have hhigh : c.toNat ≤ 122 := UInt32.le_iff_toNat_le.1 (of_decide_eq_true hhigh)
      omega
  -- the signs that are escaped stand between the bounds too, but are no letters
  have hsigns : (" \"<>\x60".toList ++ "#?\x7b\x7d".toList).all (!·.isAlpha) = true := by decide
  by_contra hescaped
  simp only [escapedInPath, escapedInFragment, escapedAnywhere, Bool.not_eq_false, Bool.or_eq_true,
    decide_eq_true_eq] at hescaped
  rcases hescaped with ((hlow | hhigh) | hsign) | hsign
  · omega
  · omega
  · simpa [h] using List.all_eq_true.1 hsigns c (List.mem_append_left _ hsign)
  · simpa [h] using List.all_eq_true.1 hsigns c (List.mem_append_right _ hsign)

/-- A drive is spelled out. -/
theorem IsDrive.isSpelled (h : IsDrive ':' segment) : IsSpelled special segment.toList := by
  obtain ⟨letter, hletter, rfl⟩ := h
  rw [String.toList_ofList]
  intro c hc
  rcases List.mem_cons.1 hc with rfl | hc
  · refine ⟨escapedInPath_of_isAlpha hletter, ?_, fun _ => ?_⟩ <;> rintro rfl <;>
      exact absurd hletter (by decide)
  · rw [List.mem_singleton.1 hc]
    decide +revert

theorem isSpelled_nil : IsSpelled special [] := by
  simp [IsSpelled]

theorem not_isDots_nil : ¬ IsDots [] := by
  simp [IsDots, isDot, isDoubleDot]

/-- One more piece drops segments and may close the path, or it adds a segment that is not dots. The
first piece of a file path may also begin with a drive, and what is kept apart from it is a segment
of its own, whatever it is. -/
theorem resolvePiece_cases (file isLast : Bool) (before : List String) (piece : List Char) :
    (∃ others, others <:+ before ∧
      (resolvePiece file isLast before piece = others ∨
        resolvePiece file isLast before piece = "" :: others)) ∨
    (¬ IsDots (dropIgnored piece) ∧
      resolvePiece file isLast before piece = segmentText piece :: before) ∨
    (file = true ∧ before = [] ∧ ∃ drive, IsDrive ':' drive ∧
      (resolvePiece file isLast before piece = [drive] ∨
        ∃ behind, behind ⊆ piece ∧
          resolvePiece file isLast before piece = [segmentText behind, drive])) := by
  -- dots add at most the empty segment that closes the path
  have hclose {others : List String} (hothers : others <:+ before) :
      ∃ kept, kept <:+ before ∧
        ((if isLast then "" :: others else others) = kept ∨
          (if isLast then "" :: others else others) = "" :: kept) :=
    ⟨others, hothers, by cases isLast <;> simp⟩
  unfold resolvePiece
  by_cases hdouble : isDoubleDot (dropIgnored piece) = true
  · rw [if_pos hdouble]
    exact .inl (hclose (shorten_suffix before))
  · rw [if_neg hdouble]
    by_cases hdot : isDot (dropIgnored piece) = true
    · rw [if_pos hdot]
      exact .inl (hclose List.suffix_rfl)
    · rw [if_neg hdot, addSegment]
      have hdots : ¬ IsDots (dropIgnored piece) := not_or.2 ⟨hdot, hdouble⟩
      split
      · -- only the first piece of a file path can be a drive
        rename_i hfirst
        obtain ⟨hfile, hempty⟩ : file = true ∧ before = [] := by simpa using hfirst
        split
        · rename_i drive behind hcut
          obtain ⟨hdrive, hsubset, -⟩ := isDrive_of_cutDrive? hcut
          exact .inr (.inr ⟨hfile, hempty, drive, hdrive, .inr ⟨behind, hsubset, rfl⟩⟩)
        · cases hdrive : drive? (dropIgnored piece) with
          | none => exact .inr (.inl ⟨hdots, by rw [hempty]; rfl⟩)
          | some drive =>
            exact .inr (.inr ⟨hfile, hempty, drive, isDrive_of_drive? hdrive, .inl rfl⟩)
      · exact .inr (.inl ⟨hdots, rfl⟩)

/-- What is known of the segments that pieces have been resolved to, listed last first: they are
spelled out, and dots stand only behind a drive that begins a file path. -/
structure IsResolved (special file : Bool) (before : List String) : Prop where
  spelled : ∀ segment ∈ before, IsSpelled special segment.toList
  dots : ∀ behind segment front, before = behind ++ segment :: front → IsDots segment.toList →
    file = true ∧ ∃ drive, front = [drive] ∧ IsDrive ':' drive

theorem isResolved_nil : IsResolved special file [] :=
  ⟨by simp, by simp⟩

/-- What is known of the segments is known of them without the last ones. -/
theorem IsResolved.of_suffix {others : List String} (h : IsResolved special file before)
    (hsuffix : others <:+ before) : IsResolved special file others := by
  obtain ⟨dropped, rfl⟩ := hsuffix
  refine ⟨fun segment hsegment => h.spelled segment (List.mem_append_right _ hsegment),
    fun behind segment front heq hdots => h.dots (dropped ++ behind) segment front ?_ hdots⟩
  rw [heq, List.append_assoc]

/-- Dots on top are those of the new segment, any others were there before. -/
theorem IsResolved.cons (h : IsResolved special file before)
    (hspelled : IsSpelled special segment.toList)
    (hdots : IsDots segment.toList → file = true ∧ ∃ drive, before = [drive] ∧ IsDrive ':' drive) :
    IsResolved special file (segment :: before) := by
  refine ⟨fun other hother => ?_, fun behind other front heq hother => ?_⟩
  · rcases List.mem_cons.1 hother with rfl | hother
    · exact hspelled
    · exact h.spelled other hother
  · rcases List.cons_eq_append_iff.1 heq with ⟨rfl, htop⟩ | ⟨behind, rfl, hbefore⟩
    · obtain ⟨rfl, rfl⟩ := List.cons.inj htop
      exact hdots hother
    · exact h.dots behind other front hbefore hother

/-- One more piece keeps what is known of the segments. -/
theorem IsResolved.resolvePiece (h : IsResolved special file before) (hslash : '/' ∉ piece)
    (hbackslash : special = true → '\\' ∉ piece) (isLast : Bool) :
    IsResolved special file (resolvePiece file isLast before piece) := by
  rcases resolvePiece_cases file isLast before piece with
    ⟨others, hsuffix, heq | heq⟩ | ⟨hdots, heq⟩ | ⟨hfile, rfl, drive, hdrive, heq | hcut⟩
  · rw [heq]
    exact h.of_suffix hsuffix
  · rw [heq]
    exact (h.of_suffix hsuffix).cons isSpelled_nil fun hdots => absurd hdots not_isDots_nil
  · rw [heq]
    exact h.cons (isSpelled_segmentText hslash hbackslash)
      fun hsegment => absurd hsegment (not_isDots_segmentText hdots)
  · rw [heq]
    exact isResolved_nil.cons hdrive.isSpelled fun hdots => absurd hdots hdrive.not_isDots
  · obtain ⟨behind, hsubset, heq⟩ := hcut
    rw [heq]
    have hupper : IsResolved special file [drive] :=
      isResolved_nil.cons hdrive.isSpelled fun hdots => absurd hdots hdrive.not_isDots
    -- what is kept apart from a drive may be dots, and a drive is all that is in front of it
    refine hupper.cons (isSpelled_segmentText (fun hmem => hslash (hsubset hmem))
      fun hspecial hmem => hbackslash hspecial (hsubset hmem)) fun _ => ⟨hfile, drive, rfl, hdrive⟩

/-- So it is known once all pieces have been resolved. -/
theorem IsResolved.resolvePieces {pieces : List (List Char)} (h : IsResolved special file before)
    (hpieces : ∀ piece ∈ pieces, (special = true → '\\' ∉ piece) ∧ '/' ∉ piece) :
    IsResolved special file (resolvePieces file before pieces).reverse := by
  induction pieces generalizing before with
  | nil => rwa [Url.resolvePieces, List.reverse_reverse]
  | cons piece pieces ih =>
    obtain ⟨hbackslash, hslash⟩ := hpieces piece List.mem_cons_self
    exact ih (h.resolvePiece hslash hbackslash _)
      fun other hother => hpieces other (List.mem_cons_of_mem _ hother)

/-- Only empty segments are dropped in front. -/
theorem dropLeadingEmpty_suffix (segments : List String) :
    ∃ n, segments = List.replicate n "" ++ dropLeadingEmpty segments := by
  fun_induction dropLeadingEmpty segments with
  | case1 next segments ih =>
    obtain ⟨n, hn⟩ := ih
    exact ⟨n + 1, by rw [List.replicate_succ, List.cons_append, ← hn]⟩
  | case2 segments _ => exact ⟨0, rfl⟩

/-- Of empty segments in front only one is left, and only if nothing else is there. -/
theorem eq_of_head?_dropLeadingEmpty (h : (dropLeadingEmpty segments).head? = some "") :
    dropLeadingEmpty segments = [""] := by
  fun_induction dropLeadingEmpty segments with
  | case1 next segments ih => exact ih h
  | case2 segments hnot =>
    obtain ⟨rest, rfl⟩ := List.head?_eq_some_iff.1 h
    cases rest with
    | nil => rfl
    | cons next rest => exact absurd rfl (hnot next rest)

/-- What is known of the segments of a path. -/
structure AreRead (scheme : String) (segments : List String) : Prop where
  spelled : ∀ segment ∈ segments, IsSpelled (isSpecial scheme) segment.toList
  dots : ∀ front segment behind, segments = front ++ segment :: behind → IsDots segment.toList →
    scheme = "file" ∧ ∃ drive, front = [drive] ∧ IsDrive ':' drive
  head : scheme = "file" → segments.head? = some "" → segments = [""]

/-- A file path is resolved with drives, and the empty segments in front of it are dropped. -/
theorem segmentsOf_of_file (text : List Char) :
    segmentsOf "file" text = dropLeadingEmpty (resolvePieces true [] (piecesOf true text)) :=
  rfl

theorem segmentsOf_of_ne_file (h : scheme ≠ "file") (text : List Char) :
    segmentsOf scheme text = resolvePieces false [] (piecesOf (isSpecial scheme) text) := by
  simp [segmentsOf, h]

/-- All that is known of the segments of a path holds of those that are read. -/
theorem areRead_segmentsOf (scheme : String) (text : List Char) :
    AreRead scheme (segmentsOf scheme text) := by
  have hresolved (file : Bool) : IsResolved (isSpecial scheme) file
      (resolvePieces file [] (piecesOf (isSpecial scheme) text)).reverse :=
    isResolved_nil.resolvePieces fun piece hpiece => not_mem_of_mem_piecesOf hpiece
  have hdots {file : Bool} {segments : List String}
      (h : IsResolved (isSpecial scheme) file segments.reverse) {front behind : List String}
      {segment : String} (heq : segments = front ++ segment :: behind)
      (hsegment : IsDots segment.toList) :
      file = true ∧ ∃ drive, front = [drive] ∧ IsDrive ':' drive := by
    obtain ⟨hfile, drive, hfront, hdrive⟩ :=
      h.dots behind.reverse segment front.reverse (by simp [heq]) hsegment
    exact ⟨hfile, drive, by simpa using congrArg List.reverse hfront, hdrive⟩
  by_cases hfile : scheme = "file"
  · subst hfile
    rw [segmentsOf_of_file]
    have hspecial : isSpecial "file" = true := by decide
    have hread := hresolved true
    rw [hspecial] at hread hdots
    generalize resolvePieces true [] (piecesOf true text) = segments at hread
    obtain ⟨n, hn⟩ := dropLeadingEmpty_suffix segments
    refine ⟨fun segment hsegment => ?_, fun front segment behind heq hsegment => ⟨rfl, ?_⟩,
      fun _ => eq_of_head?_dropLeadingEmpty⟩
    · rw [hspecial]
      refine hread.spelled segment (List.mem_reverse.2 ?_)
      rw [hn]
      exact List.mem_append_right _ hsegment
    · rw [heq, ← List.append_assoc] at hn
      obtain ⟨-, drive, hfront, hdrive⟩ := hdots hread hn hsegment
      -- the drive is not empty, so it is no segment that has been dropped
      cases n with
      | zero => exact ⟨drive, by simpa using hfront, hdrive⟩
      | succ n =>
        obtain ⟨letter, -, rfl⟩ := hdrive
        rw [List.replicate_succ, List.cons_append, List.cons.injEq] at hfront
        exact absurd hfront.1 (by simp [← String.toList_inj])
  · rw [segmentsOf_of_ne_file hfile]
    have hread := hresolved false
    refine ⟨fun segment hsegment => hread.spelled segment (List.mem_reverse.2 hsegment),
      fun front segment behind heq hsegment => ?_, fun h => absurd h hfile⟩
    exact absurd (hdots hread heq hsegment).1 (by simp)

end BlogRouting.Url
