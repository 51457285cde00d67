import TestMatrix.Proofs.Json.Tokens

/-!
# Decimals as tokens

A decimal is written with a point among its digits, or with zeros around them, or with an exponent.
In whichever of these forms it is a numeral (`isNumeral_unsigned`), so that a finite floating-point
number is written as one token (`exists_ofText?_writeNumber`). Which number that token denotes is
another matter: a reader may be off by a place.
-/

namespace TestMatrix.Json

variable {rest whole fraction digits : List Char} {ts : List Token} {sign : Char}

/-! ## Forms of numerals -/

/-- The characters begin with a digit, and in front of what does not go on with them they are taken
as a numeral that does not depend on it. -/
structure IsNumeral (body : List Char) : Prop where
  head : ∃ c ∈ body.head?, c.isDigit = true
  take : ∀ negative, ∃ n, ∀ rest, Closed rest →
    takeNumeral negative (body ++ rest) = some (n, rest)

/-- The digits before the point, with no zero in front that does not belong there. -/
structure IsWhole (whole : List Char) : Prop where
  isDigit : ∀ c ∈ whole, c.isDigit = true
  isWholePart : isWholePart whole = true

/-- A whole part begins with a digit. -/
theorem IsWhole.head (h : IsWhole whole) : ∃ c ∈ whole.head?, c.isDigit = true := by
  refine head?_of_isDigit (fun hnil => ?_) h.isDigit
  have hwhole := h.isWholePart
  rw [hnil] at hwhole
  exact absurd hwhole Bool.false_ne_true

theorem isWhole_zero : IsWhole ['0'] := ⟨List.forall_mem_singleton.mpr rfl, rfl⟩

/-- Behind a point, digits are taken as the fraction up to where they end. -/
theorem takeFraction_point (hne : fraction ≠ []) (hdigits : ∀ c ∈ fraction, c.isDigit = true)
    (hstop : Text.NoLeadingDigit rest) :
    takeFraction ('.' :: (fraction ++ rest)) = some (fraction, rest) := by
  simp only [takeFraction, Text.takeWhile_isDigit_append hdigits hstop,
    Text.dropWhile_isDigit_append hdigits hstop]
  rw [if_neg (by simpa using hne)]

/-- The power of ten that a sign and digits behind it stand for. -/
def powerOf (sign : Char) (digits : List Char) : Int :=
  if sign = '-' then -Text.digitsValue digits else Text.digitsValue digits

/-- Behind a sign, digits are taken as the exponent up to where they end. -/
theorem takeExponent_signed (hsign : sign = '-' ∨ sign = '+') (hne : digits ≠ [])
    (hdigits : ∀ c ∈ digits, c.isDigit = true) (hstop : Text.NoLeadingDigit rest) :
    takeExponent ('e' :: sign :: (digits ++ rest)) = some (some (powerOf sign digits), rest) := by
  have hempty : digits.isEmpty = false := by simpa using hne
  rcases hsign with rfl | rfl <;>
    simp [takeExponent, powerOf, hempty, Text.takeWhile_isDigit_append hdigits hstop,
      Text.dropWhile_isDigit_append hdigits hstop]

/-- An exponent does not go on with the digits before it. -/
theorem noLeadingDigit_exponent (cs : List Char) : Text.NoLeadingDigit ('e' :: cs) := by
  rintro c ⟨⟩
  decide

/-- The digits of the whole part end at a point. -/
theorem noLeadingDigit_point (cs : List Char) : Text.NoLeadingDigit ('.' :: cs) := by
  rintro c ⟨⟩
  decide

/-- A whole part and a fraction make a numeral. -/
theorem isNumeral_fraction (hwhole : IsWhole whole) (hne : fraction ≠ [])
    (hdigits : ∀ c ∈ fraction, c.isDigit = true) : IsNumeral (whole ++ '.' :: fraction) := by
  refine ⟨?_, fun negative => ⟨{ negative, whole, fraction }, fun rest hrest => ?_⟩⟩
  · obtain ⟨c, hc, hdigit⟩ := hwhole.head
    exact ⟨c, List.mem_head?_append_of_mem_head? hc, hdigit⟩
  · rw [List.append_assoc, List.cons_append]
    exact takeNumeral_append negative hwhole.isDigit hwhole.isWholePart (noLeadingDigit_point _)
      (takeFraction_point hne hdigits hrest.noLeadingDigit) hrest.takeExponent_eq

/-- So do a whole part and an exponent. -/
theorem isNumeral_exponent (hwhole : IsWhole whole) (hsign : sign = '-' ∨ sign = '+')
    (hne : digits ≠ []) (hdigits : ∀ c ∈ digits, c.isDigit = true) :
    IsNumeral (whole ++ 'e' :: sign :: digits) := by
  refine ⟨?_, fun negative =>
    ⟨{ negative, whole, exponent := powerOf sign digits }, fun rest hrest => ?_⟩⟩
  · obtain ⟨c, hc, hdigit⟩ := hwhole.head
    exact ⟨c, List.mem_head?_append_of_mem_head? hc, hdigit⟩
  -- The whole part ends at the exponent, and there is no point in between.
  · rw [List.append_assoc, List.cons_append, List.cons_append]
    exact takeNumeral_append negative hwhole.isDigit hwhole.isWholePart
      (noLeadingDigit_exponent _) (takeFraction_of_head?_ne (by simp))
      (takeExponent_signed hsign hne hdigits hrest.noLeadingDigit)

/-- So do all three of them. -/
theorem isNumeral_fraction_exponent (hwhole : IsWhole whole) (hfraction : fraction ≠ [])
    (hfractionDigits : ∀ c ∈ fraction, c.isDigit = true) (hsign : sign = '-' ∨ sign = '+')
    (hne : digits ≠ []) (hdigits : ∀ c ∈ digits, c.isDigit = true) :
    IsNumeral (whole ++ '.' :: (fraction ++ 'e' :: sign :: digits)) := by
  refine ⟨?_, fun negative =>
    ⟨{ negative, whole, fraction, exponent := powerOf sign digits }, fun rest hrest => ?_⟩⟩
  · obtain ⟨c, hc, hdigit⟩ := hwhole.head
    exact ⟨c, List.mem_head?_append_of_mem_head? hc, hdigit⟩
  · rw [List.append_assoc, List.cons_append, List.append_assoc, List.cons_append,
      List.cons_append]
    exact takeNumeral_append negative hwhole.isDigit hwhole.isWholePart (noLeadingDigit_point _)
      (takeFraction_point hfraction hfractionDigits (noLeadingDigit_exponent _))
      (takeExponent_signed hsign hne hdigits hrest.noLeadingDigit)

/-! ## Decimals -/

open Decimal (digitChars point positionalChars scientificChars)

variable {d : Decimal}

/-- What a decimal is written as after its sign. -/
def unsigned (d : Decimal) : List Char :=
  if d.digits = 0 then ['0', '.', '0']
  else if -5 < d.point ∧ d.point ≤ 16 then positionalChars realLayout d
  else scientificChars d

/-- A number is written as a sign, if it is negative, and its amount. -/
theorem render_realLayout (d : Decimal) :
    Decimal.render realLayout d = (if d.negative then ['-'] else []) ++ unsigned d := by
  simp [Decimal.render, unsigned, realLayout]

theorem isDigit_of_mem_digitChars : ∀ c ∈ d.digitChars, c.isDigit = true :=
  fun _ hc => Text.isDigit_of_mem_toDigits hc

theorem isDigit_of_mem_zeros {n : Nat} : ∀ c ∈ List.replicate n '0', c.isDigit = true := by
  intro c hc
  rw [List.eq_of_mem_replicate hc]
  decide

/-- The first digits of a decimal, perhaps with zeros behind them, have no zero in front. -/
theorem isWhole_of_head? (h : d.digits ≠ 0) (hdigits : ∀ c ∈ whole, c.isDigit = true)
    (hhead : whole.head? = d.digitChars.head?) : IsWhole whole := by
  have hne : whole ≠ [] := by
    rintro rfl
    exact absurd (List.head?_eq_none_iff.mp hhead.symm) Nat.toDigits_ne_nil
  refine ⟨hdigits, isWholePart_of_head?_ne hne ?_⟩
  rw [hhead]
  exact head?_toDigits_ne h

/-- Positional notation is a numeral wherever the point is put. -/
theorem isNumeral_positionalChars (h : d.digits ≠ 0) :
    IsNumeral (positionalChars realLayout d) := by
  have hne : d.digitChars ≠ [] := Nat.toDigits_ne_nil
  have hdigits := isDigit_of_mem_digitChars (d := d)
  rw [positionalChars]
  split
  · -- All digits stand after the point, behind zeros.
    have hfraction : IsNumeral
        (['0'] ++ '.' :: (List.replicate (-d.point).toNat '0' ++ d.digitChars)) :=
      isNumeral_fraction isWhole_zero (List.append_ne_nil_of_right_ne_nil _ hne)
        (List.forall_mem_append.mpr ⟨isDigit_of_mem_zeros, hdigits⟩)
    simpa using hfraction
  · next hpoint =>
    split
    · -- They all stand before it.
      have hwhole : IsWhole (d.digitChars ++ List.replicate d.exponent.toNat '0') :=
        isWhole_of_head? h (List.forall_mem_append.mpr ⟨hdigits, isDigit_of_mem_zeros⟩)
          (List.head?_append_of_ne_nil _ hne)
      exact isNumeral_fraction hwhole (List.cons_ne_nil '0' []) isWhole_zero.isDigit
    · next hexponent =>
      have hlength : d.digitChars.length = Decimal.digitCount d.digits := rfl
      have hsplit : 0 < d.point.toNat ∧ d.point.toNat < d.digitChars.length := by
        rw [point] at hpoint ⊢
        omega
      have hwhole : IsWhole (d.digitChars.take d.point.toNat) := by
        refine isWhole_of_head? h (fun c hc => hdigits c (List.mem_of_mem_take hc)) ?_
        rw [List.head?_take, if_neg hsplit.1.ne']
      have hrest : d.digitChars.drop d.point.toNat ≠ [] := by simpa using hsplit.2
      have hfraction := isNumeral_fraction hwhole hrest
        fun c hc => hdigits c (List.mem_of_mem_drop hc)
      simpa using hfraction

/-- So is scientific notation. -/
theorem isNumeral_scientificChars (h : d.digits ≠ 0) : IsNumeral (scientificChars d) := by
  have hdigits := isDigit_of_mem_digitChars (d := d)
  have hpower : ∀ c ∈ Nat.toDigits 10 (d.point - 1).natAbs, c.isDigit = true :=
    fun c hc => Text.isDigit_of_mem_toDigits hc
  have hsign : (if d.point - 1 < 0 then '-' else '+') = '-' ∨
      (if d.point - 1 < 0 then '-' else '+') = '+' := by
    split
    · exact .inl rfl
    · exact .inr rfl
  rw [scientificChars]
  cases hchars : d.digitChars with
  | nil => exact absurd hchars Nat.toDigits_ne_nil
  | cons first others =>
    rw [hchars, List.forall_mem_cons] at hdigits
    have hwhole : IsWhole [first] :=
      isWhole_of_head? h (List.forall_mem_singleton.mpr hdigits.1) (by rw [hchars]; rfl)
    cases others with
    | nil => simpa using isNumeral_exponent hwhole hsign Nat.toDigits_ne_nil hpower
    | cons second others =>
      simpa using isNumeral_fraction_exponent hwhole (List.cons_ne_nil second others)
        hdigits.2 hsign Nat.toDigits_ne_nil hpower

/-- In whatever form, a decimal is written as a numeral. -/
theorem isNumeral_unsigned (d : Decimal) : IsNumeral (unsigned d) := by
  rw [unsigned]
  split
  · exact isNumeral_fraction isWhole_zero (List.cons_ne_nil '0' []) isWhole_zero.isDigit
  · next hdigits =>
    split
    · exact isNumeral_positionalChars hdigits
    · exact isNumeral_scientificChars hdigits

/-- A finite floating-point number is written as a token. -/
theorem exists_ofText?_writeNumber {x : Float} (hx : x.isFinite = true) :
    ∃ n, ∀ {rest : List Char} {ts : List Token}, Closed rest → Token.ofText? rest = some ts →
      Token.ofText? (writeNumber (.real x) ++ rest) = some (.number n :: ts) := by
  have hnumeral := isNumeral_unsigned (Decimal.shortest realLayout.tie x)
  obtain ⟨n, htake⟩ := hnumeral.take (Decimal.shortest realLayout.tie x).negative
  refine ⟨n, fun {rest ts} hrest h => ?_⟩
  rw [writeNumber, if_pos hx, Decimal.renderFloat, render_realLayout]
  exact ofText?_numeral hnumeral.head (htake rest hrest) h

end TestMatrix.Json
