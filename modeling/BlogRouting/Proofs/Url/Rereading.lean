import BlogRouting.Proofs.Text.SingleSlashes
import BlogRouting.Proofs.Url.WebPath

/-!
# Reading a path again

To put a slash behind the path of a URL is to read the path again, with the slash. That changes
nothing else of it as long as its segments are spelled out and none of them is dots, and that is how
reading left them (`AreRead`). Paths of files are the exception, on account of drives.

* A bar behind a letter makes a drive of the first segment when the path is read again, though it
  made none in the URL, where an empty segment was in front of it.
* A tab behind a drive keeps what follows from being read as dots. There is no tab any more when the
  path is read again.

How such segments come out is said by `respelled` (`segmentsOf_append_slash`). A path without
segments is spelled as it was, unless the slash is all there is (`plainOf_append_slash`).
-/

namespace BlogRouting.Url

variable {scheme : String} {special file : Bool} {before segments rest : List String}
  {piece text : List Char} {segment first drive : String}

/-! ## Reading them again -/

/-- The pieces of a path in its final spelling are its segments. -/
theorem piecesOf_text (hne : segments ≠ [])
    (h : ∀ segment ∈ segments, IsSpelled special segment.toList) :
    piecesOf special (Path.segments segments).text.toList = segments.map String.toList := by
  have hslash : ∀ piece ∈ segments.map String.toList, '/' ∉ piece := by
    intro piece hpiece hmem
    obtain ⟨segment, hsegment, rfl⟩ := List.mem_map.1 hpiece
    exact (h segment hsegment '/' hmem).2.1 rfl
  have htext : (Path.segments segments).text.toList
      = '/' :: ['/'].intercalate (segments.map String.toList) := by
    rw [toList_text_segments, ← flatMap_slash_cons (by simpa using hne), List.flatMap_map]
  -- a backslash would be one more slash in a special scheme
  have hbackslash (hspecial : special = true) :
      '\\' ∉ ['/'].intercalate (segments.map String.toList) := by
    have hmem : '\\' ∉ (Path.segments segments).text.toList := by
      rw [toList_text_segments, List.mem_flatMap]
      rintro ⟨segment, hsegment, hmem⟩
      rcases List.mem_cons.1 hmem with hslash | hmem
      · exact absurd hslash (by decide)
      · exact (h segment hsegment _ hmem).2.2 hspecial rfl
    rw [htext] at hmem
    exact fun hrest => hmem (List.mem_cons_of_mem _ hrest)
  rw [htext, piecesOf_slash_cons hbackslash]
  exact List.splitOn_intercalate '/' hslash (by simpa using hne)

theorem text_append_slash (segments : List String) :
    (Path.segments (segments ++ [""])).text.toList
      = (Path.segments segments).text.toList ++ ['/'] := by
  rw [toList_text_segments, toList_text_segments, List.flatMap_append]
  simp

theorem IsSpelled.dropIgnored_eq (h : IsSpelled special piece) : dropIgnored piece = piece := by
  refine List.filter_eq_self.2 fun c hc => ?_
  simp [isIgnored_of_not_escaped (h c hc).1]

theorem IsSpelled.spelled_eq (h : IsSpelled special piece) : spelled piece = piece :=
  spelled_eq_self fun c hc => (h c hc).1

/-- Segments that are spelled out and no dots are read as they are, behind those before them. -/
theorem resolvePieces_map_toList (hfile : file = true → before ≠ [])
    (hspelled : ∀ segment ∈ segments, IsSpelled special segment.toList)
    (hdots : ∀ segment ∈ segments, ¬ IsDots segment.toList) :
    resolvePieces file before (segments.map String.toList) = before.reverse ++ segments := by
  have hself : (segments.map String.toList).map (fun piece => String.ofList (spelled piece))
      = segments := by
    rw [List.map_map]
    refine (List.map_congr_left fun segment hsegment => ?_).trans (List.map_id segments)
    rw [Function.comp_apply, (hspelled segment hsegment).spelled_eq, String.ofList_toList, id_eq]
  rw [resolvePieces_of_plain before hfile, hself]
  · intro piece hpiece
    obtain ⟨segment, hsegment, rfl⟩ := List.mem_map.1 hpiece
    exact (hspelled segment hsegment).dropIgnored_eq
  · intro piece hpiece
    obtain ⟨segment, hsegment, rfl⟩ := List.mem_map.1 hpiece
    obtain ⟨hdot, hdouble⟩ := not_or.1 (hdots segment hsegment)
    exact ⟨by simpa using hdot, by simpa using hdouble⟩

/-- A drive that a file path begins with, as it is written when it is read. -/
def driveOf (segment : String) : String :=
  (drive? segment.toList).getD segment

/-- The segments behind a drive, as they are written when they are read: dots are gone. -/
def behindDrive : List String → List String
  | [] => []
  | segment :: rest =>
    if isDot segment.toList || isDoubleDot segment.toList then rest else segment :: rest

/-- The segments of a path, as they are written when they are read again. -/
def respelled (scheme : String) : List String → List String
  | [] => []
  | first :: rest =>
    if scheme = "file" then driveOf first :: behindDrive rest else first :: rest

theorem mem_of_mem_behindDrive (h : segment ∈ behindDrive rest) : segment ∈ rest := by
  cases rest with
  | nil => exact h
  | cons second rest =>
    rw [behindDrive] at h
    split_ifs at h
    · exact List.mem_cons_of_mem _ h
    · exact h

theorem driveOf_of_isDrive (h : IsDrive ':' drive) : driveOf drive = drive := by
  obtain ⟨letter, hletter, rfl⟩ := h
  simp [driveOf, drive?, hletter]

/-- A first segment that is not empty is not read as an empty one. -/
theorem driveOf_ne_empty (h : first ≠ "") : driveOf first ≠ "" := by
  unfold driveOf
  cases hdrive : drive? first.toList with
  | none => exact h
  | some drive =>
    obtain ⟨letter, -, rfl⟩ := isDrive_of_drive? hdrive
    simp [← String.toList_inj]

section File

variable (h : AreRead "file" (first :: rest))
include h

theorem AreRead.not_isDots_first : ¬ IsDots first.toList := by
  intro hdots
  obtain ⟨-, drive, hfront, -⟩ := h.dots [] first rest rfl hdots
  exact absurd hfront (by simp)

/-- Only right behind the first segment dots can stand. -/
theorem AreRead.not_isDots_behindDrive (hsegment : segment ∈ behindDrive rest) :
    ¬ IsDots segment.toList := by
  intro hdots
  cases rest with
  | nil => exact absurd hsegment (by simp [behindDrive])
  | cons second rest =>
    have hlater (hmem : segment ∈ rest) : False := by
      obtain ⟨front, behind, rfl⟩ := List.append_of_mem hmem
      obtain ⟨-, drive, hfront, -⟩ := h.dots (first :: second :: front) segment behind rfl hdots
      exact absurd hfront (by simp)
    rw [behindDrive] at hsegment
    split_ifs at hsegment with hsecond
    · exact hlater hsegment
    · rcases List.mem_cons.1 hsegment with rfl | hmem
      · exact hsecond (by simpa [IsDots] using hdots)
      · exact hlater hmem

/-- The first segment of a file path is read as a drive if it looks like one, and as it is
if not. -/
theorem AreRead.resolvePiece_first (isLast : Bool) :
    resolvePiece true isLast [] first.toList = [driveOf first] := by
  have hspelled := h.spelled first List.mem_cons_self
  obtain ⟨hdot, hdouble⟩ := not_or.1 h.not_isDots_first
  -- a drive is cut off where a tab is behind it, and nothing that has been read holds one
  have hcut : cutDrive? first.toList = none := by
    refine Option.eq_none_iff_forall_ne_some.2 fun ⟨drive, behind⟩ hcut => ?_
    obtain ⟨-, -, c, hc, hignored⟩ := isDrive_of_cutDrive? hcut
    exact absurd hignored (by simp [isIgnored_of_not_escaped (hspelled c hc).1])
  have htext : segmentText first.toList = first := by
    show String.ofList (Url.spelled (dropIgnored first.toList)) = first
    rw [hspelled.dropIgnored_eq, hspelled.spelled_eq, String.ofList_toList]
  rw [resolvePiece, hspelled.dropIgnored_eq, if_neg hdouble, if_neg hdot]
  simp [addSegment, hcut, htext, driveOf, hspelled.dropIgnored_eq]

/-- Dots behind the first segment find a drive there, which stays. -/
theorem AreRead.resolvePieces_rest : resolvePieces true [driveOf first]
    ((rest ++ [""]).map String.toList) = driveOf first :: behindDrive rest ++ [""] := by
  have hplain : resolvePieces true [driveOf first] ((behindDrive rest ++ [""]).map String.toList)
      = driveOf first :: behindDrive rest ++ [""] := by
    have hkept : ∀ segment ∈ behindDrive rest ++ [""],
        IsSpelled (isSpecial "file") segment.toList ∧ ¬ IsDots segment.toList := by
      intro segment hsegment
      rcases List.mem_append.1 hsegment with hsegment | hsegment
      · exact ⟨h.spelled segment (List.mem_cons_of_mem _ (mem_of_mem_behindDrive hsegment)),
          h.not_isDots_behindDrive hsegment⟩
      · rw [List.mem_singleton.1 hsegment]
        exact ⟨isSpelled_nil, not_isDots_nil⟩
    rw [resolvePieces_map_toList (by simp) (fun s hs => (hkept s hs).1) fun s hs => (hkept s hs).2]
    rfl
  cases rest with
  | nil => exact hplain
  | cons second rest =>
    rw [behindDrive] at hplain ⊢
    split_ifs at hplain ⊢ with hdots
    · obtain ⟨-, drive, hfront, hdrive⟩ := h.dots [first] second rest rfl
        (by simpa [IsDots, or_comm] using hdots)
      obtain rfl : first = drive := by simpa using hfront
      rw [driveOf_of_isDrive hdrive] at hplain ⊢
      have hspelled := h.spelled second (List.mem_cons_of_mem _ List.mem_cons_self)
      -- one dot leaves the drive alone, and so do two
      have hstays : resolvePiece true false [first] second.toList = [first] := by
        rw [resolvePiece, hspelled.dropIgnored_eq, hdrive.shorten_eq]
        by_cases hdouble : isDoubleDot second.toList = true
        · rw [if_pos hdouble]
          rfl
        · have hdot : isDot second.toList = true := by simpa [hdouble] using hdots
          rw [if_neg hdouble, if_pos hdot]
          rfl
      have hlast : ((rest ++ [""]).map String.toList).isEmpty = false := by simp
      rw [List.cons_append, List.map_cons, Url.resolvePieces, hlast, hstays, hplain]
    · exact hplain

end File

/-- Reading the path again with a slash behind it puts an empty segment behind the segments, and
writes a drive and what is kept apart from it in another way. -/
theorem segmentsOf_append_slash (h : AreRead scheme segments)
    (hslash : (Path.segments segments).text.toList.getLast? ≠ some '/') :
    segmentsOf scheme ((Path.segments segments).text.toList ++ ['/'])
      = respelled scheme segments ++ [""] := by
  have hspelled : ∀ segment ∈ segments ++ [""], IsSpelled (isSpecial scheme) segment.toList := by
    intro segment hsegment
    rcases List.mem_append.1 hsegment with hsegment | hsegment
    · exact h.spelled segment hsegment
    · rw [List.mem_singleton.1 hsegment]
      exact isSpelled_nil
  have hpieces := piecesOf_text (by simp) hspelled
  rw [text_append_slash] at hpieces
  by_cases hfile : scheme = "file"
  · subst hfile
    have hspecial : isSpecial "file" = true := by decide
    rw [hspecial] at hpieces
    rw [segmentsOf_of_file, hpieces]
    cases segments with
    | nil => decide
    | cons first rest =>
      -- an empty segment in front would be the only one, and the path a slash
      have hfirst : first ≠ "" := by
        rintro rfl
        rw [h.head rfl rfl] at hslash
        exact hslash (by decide)
      rw [List.cons_append, List.map_cons, resolvePieces, h.resolvePiece_first,
        h.resolvePieces_rest, respelled, if_pos rfl]
      unfold dropLeadingEmpty
      split
      · rename_i heq
        exact absurd (List.cons.inj heq).1 (driveOf_ne_empty hfirst)
      · rfl
  · rw [segmentsOf_of_ne_file hfile, hpieces, resolvePieces_map_toList (by simp) hspelled]
    · cases segments <;> simp [respelled, hfile]
    · intro segment hsegment hdots
      rcases List.mem_append.1 hsegment with hsegment | hsegment
      · obtain ⟨front, behind, heq⟩ := List.append_of_mem hsegment
        exact hfile (h.dots front segment behind heq hdots).1
      · rw [List.mem_singleton.1 hsegment] at hdots
        exact not_isDots_nil hdots

/-! ## What is written in another way -/

/-- The first segment is written otherwise exactly if it is a drive with a bar. -/
theorem driveOf_eq_self_iff : driveOf segment = segment ↔ ¬ IsDrive '|' segment := by
  refine ⟨?_, fun h => ?_⟩
  · rintro h ⟨letter, hletter, rfl⟩
    have hdrive : driveOf (.ofList [letter, '|']) = .ofList [letter, ':'] := by
      simp [driveOf, drive?, hletter]
    rw [hdrive] at h
    exact absurd h (by simp [← String.toList_inj])
  · unfold driveOf
    cases hdrive : drive? segment.toList with
    | none => rfl
    | some drive =>
      unfold drive? at hdrive
      split at hdrive
      · rename_i letter heq
        split_ifs at hdrive
        rw [← Option.some.inj hdrive, ← heq, String.ofList_toList, Option.getD_some]
      · rename_i letter heq
        split_ifs at hdrive with hletter
        exact absurd ⟨letter, hletter, by rw [← heq, String.ofList_toList]⟩ h
      · exact absurd hdrive (by simp)

theorem length_driveOf (segment : String) :
    (driveOf segment).toList.length = segment.toList.length := by
  by_cases hdrive : IsDrive '|' segment
  · obtain ⟨letter, hletter, rfl⟩ := hdrive
    simp [driveOf, drive?, hletter]
  · rw [driveOf_eq_self_iff.2 hdrive]

/-- Behind a drive, segments only go, and those in front. -/
theorem behindDrive_suffix (rest : List String) : behindDrive rest <:+ rest := by
  cases rest with
  | nil => exact List.suffix_rfl
  | cons second rest =>
    rw [behindDrive]
    split_ifs
    · exact List.suffix_cons _ _
    · exact List.suffix_rfl

/-- Nothing goes behind a drive, unless dots stand there. -/
theorem behindDrive_eq_self_iff :
    behindDrive rest = rest ↔ ¬ ∃ dots more, rest = dots :: more ∧ IsDots dots.toList := by
  cases rest with
  | nil => simp [behindDrive]
  | cons second rest => simp [behindDrive, IsDots]

theorem text_cons (segment : String) (segments : List String) :
    (Path.segments (segment :: segments)).text.toList
      = '/' :: (segment.toList ++ (Path.segments segments).text.toList) := by
  rw [toList_text_segments, toList_text_segments, List.flatMap_cons, List.cons_append]

theorem text_append (a b : List String) : (Path.segments (a ++ b)).text.toList
    = (Path.segments a).text.toList ++ (Path.segments b).text.toList := by
  rw [toList_text_segments, toList_text_segments, toList_text_segments, List.flatMap_append]

/-- If segments are left out in front and the text is the same, none were. -/
theorem eq_of_text_eq_of_suffix {others : List String} (hsuffix : others <:+ segments)
    (h : (Path.segments others).text.toList = (Path.segments segments).text.toList) :
    others = segments := by
  obtain ⟨dropped, rfl⟩ := hsuffix
  cases dropped with
  | nil => rfl
  | cons segment dropped =>
    -- the text would have to be longer than it is
    have hlength := congrArg List.length h
    rw [List.cons_append, text_cons, text_append] at hlength
    simp only [List.length_cons, List.length_append] at hlength
    omega

theorem isSpelled_driveOf (h : IsSpelled special segment.toList) :
    IsSpelled special (driveOf segment).toList := by
  unfold driveOf
  cases hdrive : drive? segment.toList with
  | none => exact h
  | some drive => exact (isDrive_of_drive? hdrive).isSpelled

/-- A path that does not end in a slash, without the slash in front. -/
theorem trim_text_cons (hne : segment ≠ "") (hspelled : IsSpelled special segment.toList)
    (hlast : (Path.segments segments).text.toList.getLast? ≠ some '/') :
    Slashes.trim (Path.segments (segment :: segments)).text.toList
      = segment.toList ++ (Path.segments segments).text.toList := by
  have hnot : '/' ∉ segment.toList := fun hmem => (hspelled '/' hmem).2.1 rfl
  rw [text_cons]
  refine Slashes.trim_slash_cons ?_ ?_
  · rw [List.head?_append_of_ne_nil _ (by simpa using hne)]
    exact fun hhead => hnot (List.mem_of_head? hhead)
  · rw [List.getLast?_append]
    cases htext : (Path.segments segments).text.toList.getLast? with
    | none => exact fun hend => hnot (List.mem_of_getLast? (by simpa using hend))
    | some c => rwa [htext] at hlast

/-- The slashes at the ends do not hide that a path is written in another way. -/
theorem trim_text_respelled_iff (h : AreRead scheme segments)
    (hslash : (Path.segments segments).text.toList.getLast? ≠ some '/') :
    Slashes.trim (Path.segments (respelled scheme segments)).text.toList
      = Slashes.trim (Path.segments segments).text.toList ↔
        respelled scheme segments = segments := by
  refine ⟨fun htrim => ?_, fun heq => by rw [heq]⟩
  cases segments with
  | nil => rfl
  | cons first rest =>
    by_cases hfile : scheme = "file"
    · subst hfile
      have hspelled := h.spelled first List.mem_cons_self
      have hfirst : first ≠ "" := by
        rintro rfl
        rw [h.head rfl rfl] at hslash
        exact hslash (by decide)
      have hrest : (Path.segments rest).text.toList.getLast? ≠ some '/' := fun hend => hslash (by
        rw [text_cons, ← List.cons_append, List.getLast?_append, hend]
        rfl)
      obtain ⟨dropped, hdropped⟩ := behindDrive_suffix rest
      have hbehind : (Path.segments (behindDrive rest)).text.toList.getLast? ≠ some '/' :=
        fun hend => hrest (by
          rw [← hdropped, text_append, List.getLast?_append, hend]
          rfl)
      rw [respelled, if_pos rfl] at htrim ⊢
      rw [trim_text_cons hfirst hspelled hrest,
        trim_text_cons (driveOf_ne_empty hfirst) (isSpelled_driveOf hspelled) hbehind] at htrim
      -- a bar and a colon are of the same length, so the two parts can be compared one by one
      obtain ⟨hdrive, htext⟩ := List.append_inj htrim (length_driveOf first)
      rw [String.toList_inj.1 hdrive, eq_of_text_eq_of_suffix (behindDrive_suffix rest) htext]
    · rw [respelled, if_neg hfile]

/-! ## Paths without segments -/

/-- A path without segments has nothing in it that is escaped everywhere. -/
theorem escapedAnywhere_of_mem_plainOf {c : Char} (h : c ∈ plainOf text) :
    escapedAnywhere c = false := by
  have hbyte {b : UInt8} (hb : c ∈ Percent.encodeByte b) : escapedAnywhere c = false :=
    escapedAnywhere_of_not_escaped (escapedInPath_encodeByte hb).1
  have hencode {rest : List Char} (hc : c ∈ Percent.encode escapedAnywhere rest) :
      escapedAnywhere c = false := by
    rcases Percent.mem_encode hc with ⟨-, hescaped⟩ | ⟨b, hb⟩
    · exact hescaped
    · exact hbyte hb
  unfold plainOf at h
  split at h
  · rcases List.mem_append.1 h with hslash | hc
    · exact hbyte (b := 0x2F) hslash
    · exact hencode hc
  · exact hencode h

/-- Such a path never begins with a slash, since one in front is escaped. -/
theorem head?_plainOf (h : dropIgnored text = text) : (plainOf text).head? ≠ some '/' := by
  unfold plainOf
  split
  · simp
  · rename_i hnot
    rw [h]
    cases text with
    | nil => simp [Percent.encode]
    | cons c text =>
      have hc : c ≠ '/' := by
        rintro rfl
        exact hnot text rfl
      rw [Percent.encode, List.flatMap_cons, Percent.encodeChar]
      split
      · -- an escape begins with a percent sign
        obtain ⟨b, bytes, hbytes⟩ :=
          List.exists_cons_of_ne_nil (String.utf8EncodeChar_ne_nil (c := c))
        rw [hbytes]
        simp [Percent.encodeByte]
      · simpa using hc

/-- A slash behind such a path leaves it as it is, unless nothing is in front of the slash. -/
theorem plainOf_append_slash (h : dropIgnored text = text) (hne : plainOf text ≠ []) :
    plainOf (plainOf text ++ ['/']) = plainOf text ++ ['/'] := by
  obtain ⟨c, rest, hcons⟩ := List.exists_cons_of_ne_nil hne
  have hhead : c ≠ '/' := fun hc => head?_plainOf h (by rw [hcons, hc]; rfl)
  have hescaped : ∀ d ∈ plainOf text ++ ['/'], escapedAnywhere d = false := by
    intro d hd
    rcases List.mem_append.1 hd with hd | hd
    · exact escapedAnywhere_of_mem_plainOf hd
    · rw [List.mem_singleton.1 hd]
      decide
  have hkept : dropIgnored (plainOf text ++ ['/']) = plainOf text ++ ['/'] :=
    List.filter_eq_self.2 fun d hd => by simp [isIgnored_of_not_escapedAnywhere (hescaped d hd)]
  have hspelled : Percent.encode escapedAnywhere (plainOf text ++ ['/']) = plainOf text ++ ['/'] :=
    Percent.encode_eq_self hescaped
  rw [hcons, List.cons_append] at hkept hspelled ⊢
  -- the first sign is no slash, so nothing is escaped
  rw [plainOf.eq_def]
  split
  · rename_i heq
    exact absurd (List.cons.inj heq).1 hhead
  · rw [hkept, hspelled]

end BlogRouting.Url
