import BlogRouting.Proofs.Text.Escapes
import Mathlib.Tactic.Common

/-!
# What reading escapes leaves of a text

A text that is read is no longer than before: an escape is three characters and becomes one byte.
The comparison with a root path must not see slashes, of which a text may have more once it is read
(`%2F`) and fewer once they are collapsed. So bytes are counted that are no slashes (`weight`).

* **`octetsOnto_eq_or_lt`**: reading either finds no escape and leaves the text as it is, or loses
  weight.
* **`eq_or_weight_lt_of_decode?`**: the same of the text that has been read.
* **`decodeOnce_eq_empty_iff`**: nothing but the empty text is read as the empty text.
-/

namespace BlogRouting.Percent

variable {text decoded : String} {done bytes : List UInt8}

/-- A text is decoded as another one exactly if its bytes are the UTF-8 form of that one. -/
theorem decode?_eq_some_iff :
    decode? text = some decoded ↔
      octets text.toList = decoded.toList.flatMap String.utf8EncodeChar := by
  have hdecoded : decoded.toByteArray
      = (decoded.toList.flatMap String.utf8EncodeChar).toByteArray :=
    String.utf8Encode_toList.symm
  unfold decode?
  refine ⟨?_, ?_⟩
  · intro h
    rw [String.fromUTF8?] at h
    split at h
    · -- the bytes of what has been read are the ones that it was read from
      have hbytes : (octets text.toList).toByteArray = decoded.toByteArray := by
        rw [← Option.some.inj h]
        rfl
      rwa [hdecoded, List.toByteArray_inj] at hbytes
    · exact absurd h (by simp)
  · intro h
    rw [h, fromUTF8?_utf8, String.ofList_toList]

/-! ## Nothing is read as nothing only -/

/-- Every character of a text gives a byte or is part of an escape that does. -/
theorem octetsOnto_eq_nil_iff (done : List UInt8) (written : List Char) :
    octetsOnto done written = [] ↔ done = [] ∧ written = [] := by
  fun_induction octetsOnto done written with
  | case1 done => simp
  | case2 done a b rest x y hx hy ih =>
    rw [ih]
    simp
  | case3 done a b rest hnot ih =>
    rw [ih]
    simp
  | case4 done c rest hnot ih =>
    rw [ih]
    simp

/-- Nothing but the empty text is read as the empty text. -/
theorem decodeOnce_eq_empty_iff : decodeOnce text = "" ↔ text = "" := by
  refine ⟨?_, ?_⟩
  · intro h
    unfold decodeOnce at h
    cases hread : decode? text with
    | none => rwa [hread] at h
    | some decoded =>
      rw [hread, Option.getD_some] at h
      subst h
      have hoctets : octets text.toList = [] := decode?_eq_some_iff.1 hread
      rw [octets, List.reverse_eq_nil_iff, octetsOnto_eq_nil_iff] at hoctets
      exact String.toList_eq_nil_iff.1 hoctets.2
  · rintro rfl
    exact @decodeOnce_eq_self [] (by simp)

/-! ## Weight -/

/-- How many of the bytes are no slashes. -/
def weight (bytes : List UInt8) : Nat :=
  bytes.countP (· ≠ 0x2F)

/-- How many bytes of the text are no slashes. -/
def textWeight (text : List Char) : Nat :=
  weight (text.flatMap String.utf8EncodeChar)

theorem weight_append (a b : List UInt8) : weight (a ++ b) = weight a + weight b :=
  List.countP_append

theorem weight_reverse (bytes : List UInt8) : weight bytes.reverse = weight bytes :=
  List.countP_reverse

theorem weight_cons_le (b : UInt8) (bytes : List UInt8) :
    weight (b :: bytes) ≤ weight bytes + 1 := by
  unfold weight
  rw [List.countP_cons]
  split <;> omega

theorem textWeight_append (a b : List Char) :
    textWeight (a ++ b) = textWeight a + textWeight b := by
  rw [textWeight, List.flatMap_append, weight_append, textWeight, textWeight]

theorem textWeight_cons (c : Char) (written : List Char) :
    textWeight (c :: written) = textWeight [c] + textWeight written :=
  textWeight_append [c] written

theorem textWeight_replicate_slash (n : Nat) : textWeight (List.replicate n '/') = 0 := by
  induction n with
  | zero => rfl
  | succ n ih =>
    rw [List.replicate_succ, textWeight_cons, ih]
    decide

/-- Leaving characters out makes no text heavier. -/
theorem textWeight_le_of_sublist {a b : List Char} (h : a.Sublist b) :
    textWeight a ≤ textWeight b := by
  induction h with
  | slnil => exact Nat.le_refl _
  | @cons a b c _ ih =>
    rw [textWeight_cons c b]
    omega
  | @cons_cons a b c _ ih =>
    rw [textWeight_cons c a, textWeight_cons c b]
    omega

/-- Only a slash has no weight. -/
theorem one_le_textWeight {c : Char} (hc : c ≠ '/') : 1 ≤ textWeight [c] := by
  obtain ⟨b, bytes, hbytes⟩ := List.exists_cons_of_ne_nil (String.utf8EncodeChar_ne_nil (c := c))
  have hb : b ≠ 0x2F := by
    rintro rfl
    have hval : c.toNat = 0x2F := toNat_of_utf8EncodeChar hbytes (by decide)
    exact hc (Char.ext (UInt32.toNat_inj.1 hval))
  rw [textWeight, List.flatMap_singleton, hbytes, weight,
    List.countP_cons_of_pos (by simpa using hb)]
  omega

/-- An escape is heavier than the byte that it is read as. -/
theorem textWeight_escape {a b : Char} {rest : List Char} (ha : a ≠ '/') :
    textWeight rest + 2 ≤ textWeight ('%' :: a :: b :: rest) := by
  have hpercent : 1 ≤ textWeight ['%'] := one_le_textWeight (by decide)
  have hfirst : 1 ≤ textWeight [a] := one_le_textWeight ha
  rw [textWeight_cons, textWeight_cons a, textWeight_cons b]
  omega

/-- Reading puts the text as it is in front, because there is no escape, or it loses weight. -/
theorem octetsOnto_eq_or_lt (done : List UInt8) (written : List Char) :
    octetsOnto done written = (written.flatMap String.utf8EncodeChar).reverse ++ done ∨
      weight (octetsOnto done written) < weight done + textWeight written := by
  fun_induction octetsOnto done written with
  | case1 done => exact .inl rfl
  | case2 done a b rest x y hy hx ih =>
    -- an escape: one byte instead of three characters that are no slashes
    have ha : a ≠ '/' := by
      rintro rfl
      have hslash : hexValue? '/' = none := by decide
      exact absurd (hslash.symm.trans hx) (by simp)
    have hescape : textWeight rest + 2 ≤ textWeight ('%' :: a :: b :: rest) := textWeight_escape ha
    have hbyte := weight_cons_le (UInt8.ofNat (16 * x + y)) done
    rcases ih with heq | hlt
    · rw [heq, weight_append, weight_reverse]
      have hrest : weight (rest.flatMap String.utf8EncodeChar) = textWeight rest := rfl
      omega
    · omega
  | case3 done a b rest hnot ih =>
    have hpercent : weight (0x25 :: done) = textWeight ['%'] + weight done :=
      weight_append [0x25] done
    rcases ih with heq | hlt
    · left
      have hbytes : ('%' :: a :: b :: rest).flatMap String.utf8EncodeChar
          = [0x25] ++ (a :: b :: rest).flatMap String.utf8EncodeChar := rfl
      rw [heq, hbytes, List.reverse_append, List.append_assoc]
      rfl
    · rw [textWeight_cons]
      omega
  | case4 done c rest hnot ih =>
    have hchar :
        weight ((String.utf8EncodeChar c).reverse ++ done) = textWeight [c] + weight done := by
      rw [weight_append, weight_reverse, textWeight, List.flatMap_singleton]
    rcases ih with heq | hlt
    · left
      rw [heq, List.flatMap_cons, List.reverse_append, List.append_assoc]
    · rw [textWeight_cons]
      omega

/-- A text that does not read as itself reads as a lighter one. -/
theorem eq_or_textWeight_lt_of_decode? (h : decode? text = some decoded) :
    decoded = text ∨ textWeight decoded.toList < textWeight text.toList := by
  have hoctets : octets text.toList = decoded.toList.flatMap String.utf8EncodeChar :=
    decode?_eq_some_iff.1 h
  rcases octetsOnto_eq_or_lt [] text.toList with heq | hlt
  · left
    rw [octets, heq, List.append_nil, List.reverse_reverse] at hoctets
    have hbytes := congrArg List.toByteArray hoctets
    rw [← String.toByteArray_inj]
    exact (String.utf8Encode_toList.symm.trans hbytes.symm).trans String.utf8Encode_toList
  · right
    have hweight : textWeight decoded.toList = weight (octetsOnto [] text.toList) := by
      rw [textWeight, ← hoctets, octets, weight_reverse]
    rw [hweight]
    simpa [weight] using hlt

end BlogRouting.Percent
