import BlogRouting.Text.Percent

/-!
# Reading escapes back

Escapes are read from left to right, and what has been read is never looked at again. So texts that
read as some texts read as those in a row when they stand in a row (`ReadsAs.append`), and it is
enough to know how single characters are written. An escaped text reads as the text it was made from
(`decodeOnce_encode`), unless the text had percent signs of its own.
-/

namespace BlogRouting.Percent

/-! ## Bytes -/

/-- A hexadecimal digit of either case. -/
def IsDigitOf (n : Nat) (c : Char) : Prop :=
  c = hexDigit n ∨ c = (hexDigit n).toLower

instance (n : Nat) (c : Char) : Decidable (IsDigitOf n c) :=
  inferInstanceAs (Decidable (_ ∨ _))

/-- A digit of either case is read as what it is worth. -/
theorem IsDigitOf.hexValue?_eq {n : Nat} {c : Char} (h : IsDigitOf n c) (hn : n < 16) :
    hexValue? c = some n := by
  rcases h with rfl | rfl
  · exact hexValue?_hexDigit hn
  · have hall : ∀ m ∈ List.range 16, hexValue? (hexDigit m).toLower = some m := by decide
    exact hall n (List.mem_range.2 hn)

/-- The escapes of some bytes in a row. -/
inductive SpellsBytes : List UInt8 → List Char → Prop where
  | nil : SpellsBytes [] []
  | cons {b : UInt8} {bytes : List UInt8} {x y : Char} {written : List Char}
      (high : IsDigitOf (b.toNat / 16) x) (low : IsDigitOf (b.toNat % 16) y)
      (tail : SpellsBytes bytes written) : SpellsBytes (b :: bytes) ('%' :: x :: y :: written)

/-- The escapes that are written are one way to spell the bytes. -/
theorem spellsBytes_encodeByte (bytes : List UInt8) :
    SpellsBytes bytes (bytes.flatMap encodeByte) := by
  induction bytes with
  | nil => exact .nil
  | cons b bytes ih => exact .cons (.inl rfl) (.inl rfl) ih

/-- Spelled bytes are read as these bytes, whatever is in front and behind. -/
theorem octetsOnto_spelledBytes {bytes : List UInt8} {written : List Char}
    (h : SpellsBytes bytes written) (done : List UInt8) (rest : List Char) :
    octetsOnto done (written ++ rest) = octetsOnto (bytes.reverse ++ done) rest := by
  induction h generalizing done with
  | nil => rfl
  | @cons b bytes x y written high low tail ih =>
    have hb := b.toNat_lt
    have hbyte : UInt8.ofNat (16 * (b.toNat / 16) + b.toNat % 16) = b := by
      rw [Nat.div_add_mod, UInt8.ofNat_toNat]
    have hx := high.hexValue?_eq (show b.toNat / 16 < 16 by omega)
    have hy := low.hexValue?_eq (show b.toNat % 16 < 16 by omega)
    simp only [List.cons_append, octetsOnto, hx, hy, hbyte]
    rw [ih, List.reverse_cons, List.append_assoc, List.singleton_append]

/-- A byte of ASCII in front of the UTF-8 form of a character is the whole of it. -/
theorem toNat_of_utf8EncodeChar {c : Char} {b : UInt8} {bytes : List UInt8}
    (h : String.utf8EncodeChar c = b :: bytes) (hb : b.toNat < 0x80) : c.toNat = b.toNat := by
  -- of the four forms only the first begins with a byte of ASCII
  rw [String.utf8EncodeChar] at h
  have hval : c.toNat = c.val.toNat := rfl
  split at h
  · obtain ⟨rfl, -⟩ := List.cons.inj h
    simp only [UInt8.toNat_ofNat']
    omega
  · split at h
    · obtain ⟨rfl, -⟩ := List.cons.inj h
      simp only [UInt8.toNat_ofNat'] at hb
      omega
    · split at h
      · obtain ⟨rfl, -⟩ := List.cons.inj h
        simp only [UInt8.toNat_ofNat'] at hb
        omega
      · obtain ⟨rfl, -⟩ := List.cons.inj h
        simp only [UInt8.toNat_ofNat'] at hb
        omega

/-- A character of an escaped text was there before or belongs to an escape. -/
theorem mem_encode {escaped : Char → Bool} {text : List Char} {c : Char}
    (h : c ∈ encode escaped text) :
    (c ∈ text ∧ escaped c = false) ∨ ∃ b, c ∈ encodeByte b := by
  obtain ⟨d, hd, hc⟩ := List.mem_flatMap.1 h
  unfold encodeChar at hc
  split at hc
  · obtain ⟨b, -, hb⟩ := List.mem_flatMap.1 hc
    exact .inr ⟨b, hb⟩
  · rename_i hescaped
    cases List.mem_singleton.1 hc
    exact .inl ⟨hd, by simpa using hescaped⟩

theorem encode_eq_self {escaped : Char → Bool} {text : List Char}
    (h : ∀ c ∈ text, escaped c = false) : encode escaped text = text := by
  induction text with
  | nil => rfl
  | cons c text ih =>
    have htail := ih fun d hd => h d (List.mem_cons_of_mem _ hd)
    rw [encode, List.flatMap_cons, ← encode, htail, encodeChar, h c List.mem_cons_self]
    rfl

/-! ## Texts -/

/-- Wherever it stands, the first text spells the bytes of the second one. -/
def ReadsAs (written text : List Char) : Prop :=
  ∀ done rest, octetsOnto done (written ++ rest)
    = octetsOnto ((text.flatMap String.utf8EncodeChar).reverse ++ done) rest

section ReadsAs

variable {written written' text text' : List Char} {c : Char}

theorem readsAs_nil : ReadsAs [] [] := by
  intro done rest
  rfl

/-- What two texts read as stands in a row if they do. -/
theorem ReadsAs.append (h : ReadsAs written text) (h' : ReadsAs written' text') :
    ReadsAs (written ++ written') (text ++ text') := by
  intro done rest
  rw [List.append_assoc, h, h', List.flatMap_append, List.reverse_append, List.append_assoc]

theorem readsAs_singleton (hc : c ≠ '%') : ReadsAs [c] [c] := by
  intro done rest
  rw [List.singleton_append, octetsOnto, List.flatMap_singleton]
  intro a b tail h
  cases h
  exact absurd rfl hc

theorem readsAs_self (h : '%' ∉ text) : ReadsAs text text := by
  induction text with
  | nil => exact readsAs_nil
  | cons c text ih =>
    obtain ⟨hc, htext⟩ : '%' ≠ c ∧ '%' ∉ text := by simpa using h
    exact (readsAs_singleton (Ne.symm hc)).append (ih htext)

/-- The escapes of the UTF-8 form of a character are read as that character. -/
theorem SpellsBytes.readsAs (h : SpellsBytes (String.utf8EncodeChar c) written) :
    ReadsAs written [c] := by
  intro done rest
  rw [octetsOnto_spelledBytes h, List.flatMap_singleton]

/-- An escaped text is read as the text that was escaped, whatever is behind it. -/
theorem readsAs_encode {escaped : Char → Bool} (h : '%' ∉ text) :
    ReadsAs (encode escaped text) text := by
  induction text with
  | nil => exact readsAs_nil
  | cons c text ih =>
    obtain ⟨hc, htext⟩ : '%' ≠ c ∧ '%' ∉ text := by simpa using h
    have hchar : ReadsAs (encodeChar escaped c) [c] := by
      unfold encodeChar
      split
      · exact (spellsBytes_encodeByte _).readsAs
      · exact readsAs_singleton (Ne.symm hc)
    exact hchar.append (ih htext)

end ReadsAs

/-- The UTF-8 form of a text is read as this text. -/
theorem fromUTF8?_utf8 (text : List Char) :
    String.fromUTF8? (text.flatMap String.utf8EncodeChar).toByteArray = some (.ofList text) := by
  -- the bytes of a list of characters are UTF-8 by definition
  have hvalid : (text.flatMap String.utf8EncodeChar).toByteArray.IsValidUTF8 := .intro text rfl
  rw [String.fromUTF8?, dif_pos hvalid]
  rfl

/-- A text is decoded as what it reads as. -/
theorem ReadsAs.decodeOnce_eq {written text : List Char} (h : ReadsAs written text) :
    decodeOnce (.ofList written) = .ofList text := by
  have hoctets : octets written = text.flatMap String.utf8EncodeChar := by
    have hread := h [] []
    rw [List.append_nil, List.append_nil] at hread
    rw [octets, hread]
    exact List.reverse_reverse _
  rw [decodeOnce, decode?, String.toList_ofList, hoctets, fromUTF8?_utf8, Option.getD_some]

/-- An escaped text is decoded as the text that was escaped, if that has no percent signs. -/
theorem decodeOnce_encode (escaped : Char → Bool) {text : List Char} (h : '%' ∉ text) :
    decodeOnce (.ofList (encode escaped text)) = .ofList text :=
  (readsAs_encode h).decodeOnce_eq

theorem decodeOnce_eq_self {text : List Char} (h : '%' ∉ text) :
    decodeOnce (.ofList text) = .ofList text :=
  (readsAs_self h).decodeOnce_eq

end BlogRouting.Percent
