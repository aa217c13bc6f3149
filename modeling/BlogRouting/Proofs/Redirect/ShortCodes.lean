import BlogRouting.Redirect.ShortCode
import Mathlib.Data.List.Basic
import Mathlib.Data.List.Induction
import Mathlib.Data.List.Nodup
import Mathlib.Data.List.Perm.Subperm
import Mathlib.Data.Nat.Log
import Mathlib.Logic.Function.Basic
import Mathlib.Data.String.Basic
import Mathlib.Tactic.Ring

/-!
# What short codes are like

Reading a short code as a number gives the number that it was made from (`value_digits`), so no two
numbers have the same code. Digits are ordered as what they are worth (`digit_lt_digit_iff`), and
what stands behind a digit is worth less than one of it (`value_lt`), so codes of the same length
are ordered as their numbers (`lt_iff_value_lt`). The search for an unused code erases the used ones
that it meets. Since a later number never has the code of an earlier one, what it finds is unused in
the whole list, and every code before it is used (`exists_firstUnused`). There cannot be more such
codes than used ones (`le_add_length_of_used`), so trying one number after another comes to an end.
-/

namespace BlogRouting.ShortCode

variable {n : Nat} {c : Char} {used : List String}

/-- The value of a digit. -/
def digitValue (c : Char) : Nat :=
  if c.toNat < 'a'.toNat then c.toNat - '0'.toNat else c.toNat - 'a'.toNat + 10

/-- The number that some digits stand for, the first digit counting most. -/
def value (code : List Char) : Nat :=
  code.foldl (fun n c => 36 * n + digitValue c) 0

theorem digitValue_digit (h : n < 36) : digitValue (digit n) = n := by
  have hall : ∀ m ∈ List.range 36, digitValue (digit m) = m := by decide
  exact hall n (List.mem_range.2 h)

/-- The last digit counts once, and each of the others thirty-six times as much as on its own. -/
theorem value_concat (code : List Char) (c : Char) :
    value (code ++ [c]) = 36 * value code + digitValue c := by
  simp [value]

/-- The digits of a number are read as the number. -/
theorem value_digits (n : Nat) : value (digits n) = n := by
  fun_induction digits n with
  | case1 n h =>
    show 36 * 0 + digitValue (digit n) = n
    rw [digitValue_digit h]
    omega
  | case2 n h ih =>
    rw [value_concat, ih, digitValue_digit (Nat.mod_lt n (by decide))]
    omega

/-- No two numbers have the same code, since it can be read back. -/
theorem render_injective : Function.Injective render := by
  intro m n h
  have hdigits : digits m = digits n := by simpa [render] using congrArg String.toList h
  rw [← value_digits m, hdigits, value_digits]

theorem digits_ne_nil (n : Nat) : digits n ≠ [] := by
  rw [digits]
  split <;> simp

/-- All digits of a number are digits to the base thirty-six. -/
theorem exists_digit_of_mem_digits (h : c ∈ digits n) : ∃ k < 36, c = digit k := by
  fun_induction digits n with
  | case1 n hn => exact ⟨n, hn, List.mem_singleton.1 h⟩
  | case2 n hn ih =>
    rcases List.mem_append.1 h with h | h
    · exact ih h
    · exact ⟨n % 36, Nat.mod_lt n (by decide), List.mem_singleton.1 h⟩

theorem render_ne_empty (n : Nat) : render n ≠ "" := by
  simpa [render] using digits_ne_nil n

/-- A digit is a letter or a digit, so it means nothing in a path but itself. -/
theorem not_mem_of_mem_render (h : c ∈ (render n).toList) : c ∉ ['/', '?', '#', '%'] := by
  rw [render, String.toList_ofList] at h
  obtain ⟨k, hk, rfl⟩ := exists_digit_of_mem_digits h
  have hall : ∀ k ∈ List.range 36, digit k ∉ ['/', '?', '#', '%'] := by decide
  exact hall k (List.mem_range.2 hk)

/-! ## Numerals -/

/-- The digits up to nine come first and the letters after them, in the order of
their characters. -/
theorem toNat_digit (h : n < 36) : (digit n).toNat = if n < 10 then 48 + n else 87 + n := by
  have hall : ∀ m ∈ List.range 36, (digit m).toNat = if m < 10 then 48 + m else 87 + m := by decide
  exact hall n (List.mem_range.2 h)

/-- The digits come in the order of what they are worth, the letters after the others. -/
theorem digit_lt_digit_iff {m n : Nat} (hm : m < 36) (hn : n < 36) :
    digit m < digit n ↔ m < n := by
  show (digit m).toNat < (digit n).toNat ↔ m < n
  rw [toNat_digit hm, toNat_digit hn]
  split <;> split <;> omega

/-- Dividing the number until nothing is left gives these digits, the last one of the
number first. -/
inductive DividesInto : Nat → List Char → Prop where
  | last {n : Nat} (h : n / 36 = 0) : DividesInto n [digit (n % 36)]
  | next {n : Nat} {upper : List Char} (h : n / 36 ≠ 0) (rest : DividesInto (n / 36) upper) :
      DividesInto n (digit (n % 36) :: upper)

/-- What the division gives are the digits from the last one on. -/
theorem dividesInto_iff {given : List Char} : DividesInto n given ↔ given = (digits n).reverse := by
  refine ⟨fun h => ?_, ?_⟩
  · induction h with
    | @last n h =>
      rw [digits, if_pos (by omega), Nat.mod_eq_of_lt (by omega), List.reverse_singleton]
    | @next n upper h _ ih =>
      rw [digits, if_neg (by omega), ih, List.reverse_append, List.reverse_singleton,
        List.singleton_append]
  · rintro rfl
    fun_induction digits n with
    | case1 n h =>
      have hlast := DividesInto.last (n := n) (by omega)
      rwa [Nat.mod_eq_of_lt h] at hlast
    | case2 n h ih =>
      rw [List.reverse_append, List.reverse_singleton, List.singleton_append]
      exact .next (by omega) ih

/-- One digit for each time that the number is divided. -/
theorem length_digits (n : Nat) : (digits n).length = Nat.log 36 n + 1 := by
  fun_induction digits n with
  | case1 n h => rw [Nat.log_of_lt h, List.length_singleton]
  | case2 n h ih =>
    rw [List.length_append, ih, Nat.log_of_one_lt_of_le (by decide) (Nat.le_of_not_lt h),
      List.length_singleton]

/-- Zero alone has a zero in front. -/
theorem head?_digits_eq_iff (n : Nat) : (digits n).head? = some '0' ↔ n = 0 := by
  fun_induction digits n with
  | case1 n h =>
    rw [List.head?_cons, Option.some.injEq]
    refine ⟨fun hzero => ?_, fun hzero => by rw [hzero]; rfl⟩
    rw [← digitValue_digit h, hzero]
    rfl
  | case2 n h ih =>
    -- what is left of a number with more digits is not zero
    rw [List.head?_append_of_ne_nil _ (digits_ne_nil _), ih]
    omega

/-- The first digit counts as often as there are codes for the others. -/
theorem value_cons (c : Char) (code : List Char) :
    value (c :: code) = digitValue c * 36 ^ code.length + value code := by
  induction code using List.reverseRecOn with
  | nil => simp [value]
  | append_singleton code d ih =>
    rw [← List.cons_append, value_concat, value_concat, ih, List.length_append,
      List.length_singleton, Nat.pow_succ]
    ring

variable {a b : List Char}

/-- Codes of one length are worth less than any longer one without a zero in front. -/
theorem value_lt (h : ∀ c ∈ a, ∃ k < 36, c = digit k) : value a < 36 ^ a.length := by
  induction a with
  | nil => decide
  | cons c a ih =>
    obtain ⟨k, hk, rfl⟩ := h c List.mem_cons_self
    have hrest := ih fun d hd => h d (List.mem_cons_of_mem _ hd)
    have hfirst : (k + 1) * 36 ^ a.length ≤ 36 * 36 ^ a.length := Nat.mul_le_mul_right _ hk
    rw [value_cons, digitValue_digit hk, List.length_cons, Nat.pow_succ']
    rw [Nat.succ_mul] at hfirst
    omega

/-- The first digit in which two numerals of the same length differ decides. -/
theorem lt_iff_value_lt (ha : ∀ c ∈ a, ∃ k < 36, c = digit k) (hb : ∀ c ∈ b, ∃ k < 36, c = digit k)
    (hlength : a.length = b.length) : a < b ↔ value a < value b := by
  induction a generalizing b with
  | nil =>
    obtain rfl : b = [] := List.length_eq_zero_iff.1 hlength.symm
    simp
  | cons c a ih =>
    obtain ⟨d, b, rfl⟩ := List.exists_cons_of_length_eq_add_one hlength.symm
    have htail {e : Char} {code : List Char} (h : ∀ c ∈ e :: code, ∃ k < 36, c = digit k) :
        ∀ c ∈ code, ∃ k < 36, c = digit k := fun c hc => h c (List.mem_cons_of_mem _ hc)
    obtain ⟨j, hj, rfl⟩ := ha c List.mem_cons_self
    obtain ⟨k, hk, rfl⟩ := hb d List.mem_cons_self
    have hlength : a.length = b.length := by simpa using hlength
    have hrest := ih (htail ha) (htail hb) hlength
    have hbelow := value_lt (htail ha)
    have hbelow' := value_lt (htail hb)
    rw [hlength] at hbelow
    rw [List.cons_lt_cons_iff, hrest, value_cons, value_cons, digitValue_digit hj,
      digitValue_digit hk, hlength, digit_lt_digit_iff hj hk]
    -- all digits behind the first one are worth less than one more of it
    rcases Nat.lt_trichotomy j k with hless | rfl | hmore
    · have hfirst : (j + 1) * 36 ^ b.length ≤ k * 36 ^ b.length := Nat.mul_le_mul_right _ hless
      rw [Nat.succ_mul] at hfirst
      exact iff_of_true (.inl hless) (by omega)
    · simp
    · have hfirst : (k + 1) * 36 ^ b.length ≤ j * 36 ^ b.length := Nat.mul_le_mul_right _ hmore
      have hne : digit j ≠ digit k := fun heq => by
        have hvalue := congrArg digitValue heq
        rw [digitValue_digit hj, digitValue_digit hk] at hvalue
        omega
      rw [Nat.succ_mul] at hfirst
      exact iff_of_false (fun h => h.elim (by omega) fun h => hne h.1) (by omega)

/-- A short code is the numeral of its number in base thirty-six. Dividing the number ends and gives
its digits, of which there is one at least and none is a zero in front, unless the number is zero,
and reading them gives the number back. So different numbers have different codes, and among the
codes of one length the order is that of the numbers. -/
theorem render_isNumeral :
    (∀ n, let code := (render n).toList
      (∀ given, DividesInto n given ↔ given = code.reverse) ∧
      code ≠ [] ∧ code.length = Nat.log 36 n + 1 ∧
      (∀ c ∈ code, ('0' ≤ c ∧ c ≤ '9') ∨ ('a' ≤ c ∧ c ≤ 'z')) ∧
      (code.head? = some '0' ↔ n = 0) ∧ value code = n) ∧
    Function.Injective render ∧
    ∀ m n, (render m).length = (render n).length → (render m < render n ↔ m < n) := by
  refine ⟨fun n => ?_, render_injective, fun m n hlength => ?_⟩
  · intro code
    have hcode : code = digits n := String.toList_ofList
    rw [hcode]
    refine ⟨fun given => dividesInto_iff, digits_ne_nil n, length_digits n, fun c hc => ?_,
      head?_digits_eq_iff n, value_digits n⟩
    obtain ⟨k, hk, rfl⟩ := exists_digit_of_mem_digits hc
    have hall : ∀ k ∈ List.range 36,
        ('0' ≤ digit k ∧ digit k ≤ '9') ∨ ('a' ≤ digit k ∧ digit k ≤ 'z') := by decide
    exact hall k (List.mem_range.2 hk)
  · have hdigits : (digits m).length = (digits n).length := by simpa [render] using hlength
    rw [String.lt_iff_toList_lt, render, render, String.toList_ofList, String.toList_ofList,
      lt_iff_value_lt (fun _ => exists_digit_of_mem_digits) (fun _ => exists_digit_of_mem_digits)
        hdigits, value_digits, value_digits]

/-- The greatest number of sixty-four bits has thirteen digits, and a digit comes
before a letter. -/
theorem render_isNumeral_largest :
    (render (2 ^ 64 - 1)).toList = "3w5e11264sgsf".toList ∧
      value "3w5e11264sgsf".toList = 2 ^ 64 - 1 ∧
      (render 45).length = (render 46).length ∧ render 45 < render 46 := by
  have hcode : (render (2 ^ 64 - 1)).toList = "3w5e11264sgsf".toList := by decide +kernel
  have hlength : (render 45).length = (render 46).length := by decide +kernel
  obtain ⟨hnumeral, -, horder⟩ := render_isNumeral
  refine ⟨hcode, ?_, hlength, (horder 45 46 hlength).2 (by decide)⟩
  rw [← hcode]
  exact (hnumeral _).2.2.2.2.2

/-! ## Unused codes -/

/-- The search gives the code of the first number whose code is not used. -/
theorem exists_firstUnused (used : List String) (n : Nat) :
    ∃ m, n ≤ m ∧ firstUnused used n = render m ∧ render m ∉ used ∧
      ∀ k, n ≤ k → k < m → render k ∈ used := by
  fun_induction firstUnused used n with
  | case1 used n h ih =>
    obtain ⟨m, hle, heq, hunused, hbelow⟩ := ih
    -- the code that was erased is another one, so what is unused without it is unused with it
    have hne : render m ≠ render n := fun he => by
      have := render_injective he
      omega
    refine ⟨m, by omega, heq, fun hmem => hunused ((List.mem_erase_of_ne hne).2 hmem), ?_⟩
    intro k hk hkm
    rcases Nat.eq_or_lt_of_le hk with rfl | hlt
    · exact h
    · exact List.mem_of_mem_erase (hbelow k hlt hkm)
  | case2 used n h =>
    exact ⟨n, Nat.le_refl n, rfl, h, by omega⟩

/-- Trying one number after another from `n` on, without erasing anything, ends with `code` after so
many tries. -/
inductive EndsAfter (used : List String) : Nat → Nat → String → Prop where
  | unused {n : Nat} (h : render n ∉ used) : EndsAfter used n 1 (render n)
  | used {n tries : Nat} {code : String} (h : render n ∈ used)
      (rest : EndsAfter used (n + 1) tries code) : EndsAfter used n (tries + 1) code

variable {m tries : Nat} {code : String}

/-- The search ends at the first unused code, with one try for each number up to it. -/
theorem endsAfter_of_unused (hle : n ≤ m) (hunused : render m ∉ used)
    (hbelow : ∀ k, n ≤ k → k < m → render k ∈ used) :
    EndsAfter used n (m + 1 - n) (render m) := by
  induction hle using Nat.decreasingInduction with
  | self => simpa using EndsAfter.unused hunused
  | of_succ n hlt ih =>
    have hrest := ih fun k hk => hbelow k (by omega)
    have htries : m + 1 - n = m + 1 - (n + 1) + 1 := by omega
    rw [htries]
    exact .used (hbelow n (Nat.le_refl n) hlt) hrest

/-- There is only one way in which the tries can end. -/
theorem EndsAfter.unique {tries' : Nat} {code' : String} (h : EndsAfter used n tries code)
    (h' : EndsAfter used n tries' code') : tries = tries' ∧ code = code' := by
  induction h generalizing tries' code' with
  | unused hunused =>
    cases h' with
    | unused => exact ⟨rfl, rfl⟩
    | used hused => exact absurd hused hunused
  | used hused _ ih =>
    cases h' with
    | unused hunused => exact absurd hused hunused
    | used _ rest =>
      obtain ⟨htries, hcode⟩ := ih rest
      exact ⟨by rw [htries], hcode⟩

/-- No two numbers have the same code, so not more of them in a row can have used codes than there
are used codes. -/
theorem le_add_length_of_used (hbelow : ∀ k, n ≤ k → k < m → render k ∈ used) :
    m ≤ n + used.length := by
  have hnodup : ((List.range' n (m - n)).map render).Nodup :=
    List.Nodup.map render_injective (List.nodup_range' 1)
  have hsubset : (List.range' n (m - n)).map render ⊆ used := by
    intro code hcode
    obtain ⟨k, hk, rfl⟩ := List.mem_map.1 hcode
    rw [List.mem_range'_1] at hk
    exact hbelow k hk.1 (by omega)
  have hlength := (hnodup.subperm hsubset).length_le
  rw [List.length_map, List.length_range'] at hlength
  omega

end BlogRouting.ShortCode
