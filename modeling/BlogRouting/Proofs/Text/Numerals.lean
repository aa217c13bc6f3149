import BlogRouting.Text.Numeral
import Mathlib.Data.Nat.Digits.Lemmas

/-!
# Reading numerals back

Digits alone are read as their value, with or without room for a sign, and a number that has been
written without padding reads as itself. What is read of any text is the number that it denotes
(`unsigned?_eq_some_iff`, `signed?_eq_some_iff`), and zeros in front of its digits make no
difference to it (`number_replicate_append`).
-/

namespace BlogRouting.Numeral

/-- One or more decimal digits and nothing else. -/
structure IsDigits (text : List Char) : Prop where
  ne_nil : text ≠ []
  isDigit : ∀ c ∈ text, c.isDigit

section Digits

variable {text : List Char}

theorem IsDigits.decimal?_eq (h : IsDigits text) : decimal? text = some (value text) :=
  if_pos ⟨h.ne_nil, List.all_eq_true.2 h.isDigit⟩

/-- No sign stands in front of digits. -/
theorem IsDigits.ne_cons (h : IsDigits text) {sign : Char} (hsign : sign.isDigit = false)
    (rest : List Char) : text ≠ sign :: rest := by
  rintro rfl
  have hdigit : sign.isDigit = true := h.isDigit sign List.mem_cons_self
  rw [hsign] at hdigit
  exact absurd hdigit (by decide)

/-- Digits without a sign are read as their value by the reader of unsigned numbers. -/
theorem IsDigits.unsigned?_eq (h : IsDigits text) : unsigned? text = some (value text) := by
  rw [unsigned?]
  · exact h.decimal?_eq
  · exact h.ne_cons (by decide)

/-- Digits without a sign are read as their value by the reader of signed numbers. -/
theorem IsDigits.signed?_eq (h : IsDigits text) : signed? text = some (value text : Int) := by
  rw [signed?, h.unsigned?_eq]
  · rfl
  · exact h.ne_cons (by decide)

end Digits

theorem isDigits_toDigits (n : Nat) : IsDigits (Nat.toDigits 10 n) :=
  ⟨Nat.toDigits_ne_nil, fun _ => Nat.isDigit_of_mem_toDigits (by decide) (by decide)⟩

theorem value_toDigits (n : Nat) : value (Nat.toDigits 10 n) = n := by
  have hvalue (digits : List Char) : value digits = Nat.ofDigitChars 10 digits 0 := by
    rw [Nat.ofDigitChars_eq_foldl]
    rfl
  rw [hvalue, Nat.ofDigitChars_ten_toDigits]

/-- A number is read back from its digits where no minus is read. -/
theorem unsigned?_toString (n : Nat) : unsigned? (toString n).toList = some n := by
  rw [Nat.toString_eq_ofList_toDigits, String.toList_ofList, (isDigits_toDigits n).unsigned?_eq,
    value_toDigits]

/-- A number is read back from its digits, so two numbers differ in them. -/
theorem toString_inj {m n : Nat} : toString m = toString n ↔ m = n := by
  refine ⟨fun h => ?_, congrArg toString⟩
  have hread := congrArg (fun text => unsigned? text.toList) h
  rw [unsigned?_toString, unsigned?_toString] at hread
  exact Option.some.inj hread

/-- A number is read back from its digits where a minus is read too. -/
theorem signed?_toString (n : Nat) : signed? (toString n).toList = some (n : Int) := by
  rw [Nat.toString_eq_ofList_toDigits, String.toList_ofList, (isDigits_toDigits n).signed?_eq,
    value_toDigits]

/-! ## Numerals and what they denote -/

/-- The number that decimal digits stand for by their places, the last one for the units. -/
def number (digits : List Char) : Nat :=
  Nat.ofDigits 10 (digits.reverse.map digitValue)

/-- One or more digits, maybe behind one of the `signs`, and the number that they stand for. -/
inductive Denotes (signs : List Char) : List Char → Int → Prop where
  | bare {digits : List Char} (h : IsDigits digits) : Denotes signs digits (number digits)
  | plus {digits : List Char} (hsign : '+' ∈ signs) (h : IsDigits digits) :
      Denotes signs ('+' :: digits) (number digits)
  | minus {digits : List Char} (hsign : '-' ∈ signs) (h : IsDigits digits) :
      Denotes signs ('-' :: digits) (-(number digits : Int))

section Denotes

variable {text digits : List Char}

/-- Adding up digit by digit gives what the places of the digits say. -/
theorem value_eq_number (digits : List Char) : value digits = number digits := by
  unfold value number
  rw [← List.foldr_reverse, Nat.ofDigits_eq_foldr, List.foldr_map]
  simp only [Nat.add_comm, Nat.cast_id]

/-- Zeros in front add nothing. -/
theorem number_replicate_append (k : Nat) (digits : List Char) :
    number (List.replicate k '0' ++ digits) = number digits := by
  have hzero : digitValue '0' = 0 := rfl
  unfold number
  rw [List.reverse_append, List.reverse_replicate, List.map_append, List.map_replicate, hzero,
    Nat.ofDigits_append_replicate_zero]

theorem IsDigits.replicate_append (h : IsDigits digits) (k : Nat) :
    IsDigits (List.replicate k '0' ++ digits) := by
  refine ⟨by simp [h.ne_nil], fun c hc => ?_⟩
  rcases List.mem_append.1 hc with hc | hc
  · rw [List.eq_of_mem_replicate hc]
    decide
  · exact h.isDigit c hc

/-- Where more signs are read, a numeral denotes what it did. -/
theorem Denotes.mono {signs signs' : List Char} {n : Int} (h : Denotes signs text n)
    (hsigns : ∀ c ∈ signs, c ∈ signs') : Denotes signs' text n := by
  cases h with
  | bare hdigits => exact .bare hdigits
  | plus hsign hdigits => exact .plus (hsigns _ hsign) hdigits
  | minus hsign hdigits => exact .minus (hsigns _ hsign) hdigits

/-- Exactly digits are read as a number, as the one that they stand for. -/
theorem decimal?_eq_some_iff {n : Nat} :
    decimal? text = some n ↔ IsDigits text ∧ n = number text := by
  rw [← value_eq_number]
  refine ⟨?_, ?_⟩
  · intro h
    unfold decimal? at h
    split at h
    · rename_i hdigits
      cases h
      exact ⟨⟨hdigits.1, List.all_eq_true.1 hdigits.2⟩, rfl⟩
    · exact absurd h (by simp)
  · intro h
    obtain ⟨hdigits, rfl⟩ := h
    exact hdigits.decimal?_eq

/-- A text is read as an unsigned number exactly if it denotes it, maybe behind a plus. -/
theorem unsigned?_eq_some_iff {n : Nat} : unsigned? text = some n ↔ Denotes ['+'] text n := by
  refine ⟨?_, ?_⟩
  · intro h
    unfold unsigned? at h
    split at h
    all_goals obtain ⟨hdigits, rfl⟩ := decimal?_eq_some_iff.1 h
    · exact .plus List.mem_cons_self hdigits
    · exact .bare hdigits
  · intro h
    -- the number is an integer to the relation, which also knows the minus
    generalize hm : (n : Int) = m at h
    cases h with
    | bare hdigits =>
      rw [hdigits.unsigned?_eq, value_eq_number, Int.ofNat_inj.1 hm]
    | plus _ hdigits =>
      rw [unsigned?, hdigits.decimal?_eq, value_eq_number, Int.ofNat_inj.1 hm]
    | minus hsign _ => exact absurd hsign (by decide)

theorem signed?_minus (digits : List Char) :
    signed? ('-' :: digits) = (decimal? digits).map fun n : Nat => -(n : Int) := by
  rw [signed?]
  cases decimal? digits <;> rfl

/-- Without a minus in front a signed number is read as an unsigned one. -/
theorem signed?_of_ne (h : ∀ digits, text ≠ '-' :: digits) :
    signed? text = (unsigned? text).map fun n : Nat => (n : Int) := by
  rw [signed?]
  · cases unsigned? text <;> rfl
  · exact h

/-- A text is read as a signed number exactly if it denotes it, behind either sign or none. -/
theorem signed?_eq_some_iff {n : Int} : signed? text = some n ↔ Denotes ['+', '-'] text n := by
  refine ⟨?_, ?_⟩
  · intro h
    by_cases hminus : ∃ digits, text = '-' :: digits
    · obtain ⟨digits, rfl⟩ := hminus
      rw [signed?_minus] at h
      obtain ⟨k, hk, rfl⟩ := Option.map_eq_some_iff.1 h
      obtain ⟨hdigits, rfl⟩ := decimal?_eq_some_iff.1 hk
      exact .minus (by decide) hdigits
    · rw [signed?_of_ne (not_exists.1 hminus)] at h
      obtain ⟨k, hk, rfl⟩ := Option.map_eq_some_iff.1 h
      exact (unsigned?_eq_some_iff.1 hk).mono (by simp)
  · intro h
    cases h with
    | bare hdigits => rw [hdigits.signed?_eq, value_eq_number]
    | plus _ hdigits =>
      rw [signed?_of_ne (by simp), unsigned?, hdigits.decimal?_eq, value_eq_number, Option.map_some]
    | minus _ hdigits =>
      rw [signed?_minus, hdigits.decimal?_eq, value_eq_number, Option.map_some]

/-! ## Padding -/

theorem IsDigits.decimal?_replicate_append (h : IsDigits digits) (k : Nat) :
    decimal? (List.replicate k '0' ++ digits) = decimal? digits := by
  rw [(h.replicate_append k).decimal?_eq, h.decimal?_eq, value_eq_number, value_eq_number,
    number_replicate_append]

/-- Only a plus sign may stand in front of a number without room for other signs. -/
theorem unsigned?_minus (digits : List Char) : unsigned? ('-' :: digits) = none := by
  have hminus : '-'.isDigit = false := by decide
  simp [unsigned?, decimal?, hminus]

/-- Zeros between the sign and the digits do not change what is read. -/
theorem IsDigits.unsigned?_padded (h : IsDigits digits) {sign : List Char}
    (hsign : sign ∈ [[], ['+'], ['-']]) (k : Nat) :
    unsigned? (sign ++ (List.replicate k '0' ++ digits)) = unsigned? (sign ++ digits) := by
  simp only [List.mem_cons, List.not_mem_nil, or_false] at hsign
  rcases hsign with rfl | rfl | rfl
  · rw [List.nil_append, List.nil_append, (h.replicate_append k).unsigned?_eq, h.unsigned?_eq,
      value_eq_number, value_eq_number, number_replicate_append]
  · exact h.decimal?_replicate_append k
  · exact (unsigned?_minus _).trans (unsigned?_minus _).symm

/-- Zeros between the sign and the digits do not change what is read, a minus included. -/
theorem IsDigits.signed?_padded (h : IsDigits digits) {sign : List Char}
    (hsign : sign ∈ [[], ['+'], ['-']]) (k : Nat) :
    signed? (sign ++ (List.replicate k '0' ++ digits)) = signed? (sign ++ digits) := by
  by_cases hminus : sign = ['-']
  · subst hminus
    rw [List.singleton_append, List.singleton_append, signed?_minus, signed?_minus,
      h.decimal?_replicate_append]
  · -- without the minus the text goes to the reader of unsigned numbers
    have hne (rest : List Char) (hrest : IsDigits rest) (after : List Char) :
        sign ++ rest ≠ '-' :: after := by
      simp only [List.mem_cons, List.not_mem_nil, or_false, hminus] at hsign
      rcases hsign with rfl | rfl
      · exact hrest.ne_cons (by decide) after
      · simp
    rw [signed?_of_ne (hne _ (h.replicate_append k)), signed?_of_ne (hne _ h),
      h.unsigned?_padded hsign]

end Denotes

end BlogRouting.Numeral
