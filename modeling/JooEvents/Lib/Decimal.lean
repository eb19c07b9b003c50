import Mathlib.Data.Nat.MaxPowDiv
import Mathlib.Algebra.Order.Ring.Int
import Mathlib.Tactic.Convert

/-!
# Decimal numbers and their texts

A `Decimal` is a significand without trailing zeros, a power of ten and a sign; zero
has one form only. The finite doubles of a language whose numbers print as the shortest
decimal that rounds to them are such decimals, one for each double, and minus zero is
not among them.

`Decimal.text` lays a decimal out as `Number.prototype.toString` does : without an
exponent from `1e-7` up to `1e21`, and in scientific notation outside. `Decimal.read`
reads a number literal of the JSON grammar off the front of a text, exactly : a literal
is not rounded. What was written is read back, whatever follows that does not continue
a number (`read_text_append`).
-/

/-- `± significand * 10 ^ exponent`, in the one form that has no trailing zeros. -/
structure Decimal where
  negative : Bool
  significand : ℕ
  exponent : ℤ
  normal : ¬ 10 ∣ significand ∨ negative = false ∧ significand = 0 ∧ exponent = 0
  deriving DecidableEq

namespace Decimal

/-- The exponent of a number in scientific notation. -/
def exponentText (m : ℤ) : List Char :=
  'e' :: (if m < 0 then '-' else '+') :: Nat.toDigits 10 m.natAbs

/-- The number without its sign. The decimal point stands `n` digits to the right of the
first digit. -/
def magnitudeText (significand : ℕ) (exponent : ℤ) : List Char :=
  let digits := Nat.toDigits 10 significand
  let n := exponent + digits.length
  if digits.length ≤ n ∧ n ≤ 21 then digits ++ List.replicate exponent.toNat '0'
  else if 0 < n ∧ n ≤ 21 then digits.take n.toNat ++ '.' :: digits.drop n.toNat
  else if -6 < n ∧ n ≤ 0 then '0' :: '.' :: (List.replicate (-n).toNat '0' ++ digits)
  else if digits.length = 1 then digits ++ exponentText (n - 1)
  else digits.take 1 ++ '.' :: (digits.drop 1 ++ exponentText (n - 1))

/-- `Number.prototype.toString`. -/
def text (d : Decimal) : List Char :=
  (if d.negative then ['-'] else []) ++ magnitudeText d.significand d.exponent

/-- The integer part of a literal, which has no leading zeros. -/
def readInteger (s : List Char) : Option (List Char × List Char) :=
  if s.head? = some '0' then some (['0'], s.tail)
  else if s.takeWhile Char.isDigit = [] then none
  else some (s.takeWhile Char.isDigit, s.dropWhile Char.isDigit)

/-- The digits after the decimal point, if there is one. -/
def readFraction : List Char → Option (List Char × List Char)
  | '.' :: s =>
    if s.takeWhile Char.isDigit = [] then none
    else some (s.takeWhile Char.isDigit, s.dropWhile Char.isDigit)
  | s => some ([], s)

/-- The digits of an exponent, with their sign. -/
def readExponentDigits (negative : Bool) (s : List Char) : Option (ℤ × List Char) :=
  if s.takeWhile Char.isDigit = [] then none
  else
    let m : ℤ := Nat.ofDigitChars 10 (s.takeWhile Char.isDigit) 0
    some (if negative then -m else m, s.dropWhile Char.isDigit)

/-- The exponent of a literal, if there is one. -/
def readExponent : List Char → Option (ℤ × List Char)
  | [] => some (0, [])
  | c :: s =>
    if c = 'e' ∨ c = 'E' then
      match s with
      | '-' :: s => readExponentDigits true s
      | '+' :: s => readExponentDigits false s
      | s => readExponentDigits false s
    else some (0, c :: s)

/-- `± m * 10 ^ e`. Minus zero is no decimal. -/
def ofScaled (negative : Bool) (m : ℕ) (e : ℤ) : Option Decimal :=
  if h : m = 0 then
    if negative then none else some ⟨false, 0, 0, .inr ⟨rfl, rfl, rfl⟩⟩
  else
    some ⟨negative, m.divMaxPow 10, e + padicValNat 10 m,
      .inl (Nat.not_dvd_divMaxPow (by decide) h)⟩

/-- The literal after its sign. -/
def readMagnitude (negative : Bool) (s : List Char) : Option (Decimal × List Char) := do
  let (int, s) ← readInteger s
  let (frac, s) ← readFraction s
  let (e, s) ← readExponent s
  let d ← ofScaled negative (Nat.ofDigitChars 10 (int ++ frac) 0) (e - frac.length)
  return (d, s)

/-- Read a number literal off the front of a text. -/
def read : List Char → Option (Decimal × List Char)
  | '-' :: s => readMagnitude true s
  | s => readMagnitude false s

/-- No digit begins the text. -/
def NoDigit (s : List Char) : Prop := ∀ c ∈ s.head?, c.isDigit = false

/-- Nothing that continues a number begins the text. -/
def Ends (s : List Char) : Prop :=
  ∀ c ∈ s.head?, c.isDigit = false ∧ c ≠ '.' ∧ c ≠ 'e' ∧ c ≠ 'E'

theorem Ends.noDigit {s : List Char} (h : Ends s) : NoDigit s := fun c hc => (h c hc).1

theorem noDigit_cons {c : Char} {s : List Char} (hc : c.isDigit = false) : NoDigit (c :: s) := by
  intro d hd
  obtain rfl := Option.mem_some_iff.mp hd
  exact hc

/-- The digits before a text that no digit begins. -/
theorem takeWhile_append {ds s : List Char} (hds : ∀ c ∈ ds, c.isDigit = true) (hs : NoDigit s) :
    (ds ++ s).takeWhile Char.isDigit = ds := by
  rw [List.takeWhile_append_of_pos hds]
  cases s with
  | nil => simp
  | cons c s => simp [hs c rfl]

theorem dropWhile_append {ds s : List Char} (hds : ∀ c ∈ ds, c.isDigit = true) (hs : NoDigit s) :
    (ds ++ s).dropWhile Char.isDigit = s := by
  rw [List.dropWhile_append_of_pos hds]
  cases s with
  | nil => simp
  | cons c s => simp [hs c rfl]

theorem isDigit_of_mem_toDigits {n : ℕ} : ∀ c ∈ Nat.toDigits 10 n, c.isDigit = true :=
  fun _ h => Nat.isDigit_of_mem_toDigits (by decide) (by decide) h

/-- No number but zero is written with a leading zero. -/
theorem head?_toDigits {n : ℕ} (hn : n ≠ 0) : (Nat.toDigits 10 n).head? ≠ some '0' := by
  induction n using Nat.strong_induction_on with
  | _ n ih =>
    rw [Nat.toDigits_eq_if (by decide)]
    split_ifs with hlt
    · have hdigit : ∀ m < 10, m ≠ 0 → Nat.digitChar m ≠ '0' := by decide
      simpa using hdigit n hlt hn
    · rw [List.head?_append, Option.or_of_isSome (by simp [Nat.toDigits_ne_nil])]
      exact ih (n / 10) (by omega) (by omega)

theorem ofDigitChars_toDigits_append_zeros (n t : ℕ) :
    Nat.ofDigitChars 10 (Nat.toDigits 10 n ++ List.replicate t '0') 0 = 10 ^ t * n := by
  rw [Nat.ofDigitChars_append, Nat.ofDigitChars_ten_toDigits, Nat.ofDigitChars_replicate_zero]

theorem ofDigitChars_zeros_append_toDigits (n t : ℕ) :
    Nat.ofDigitChars 10 (List.replicate t '0' ++ Nat.toDigits 10 n) 0 = n := by
  rw [Nat.ofDigitChars_append, Nat.ofDigitChars_replicate_zero, Nat.mul_zero,
    Nat.ofDigitChars_ten_toDigits]

/-! ## What was written is read back -/

theorem readInteger_zero (s : List Char) : readInteger ('0' :: s) = some (['0'], s) := rfl

theorem readInteger_append {ds s : List Char} (hds : ∀ c ∈ ds, c.isDigit = true) (hne : ds ≠ [])
    (hzero : ds.head? ≠ some '0') (hs : NoDigit s) : readInteger (ds ++ s) = some (ds, s) := by
  have hhead : (ds ++ s).head? ≠ some '0' := by
    rwa [List.head?_append, Option.or_of_isSome (by simp [hne])]
  rw [readInteger, if_neg hhead, takeWhile_append hds hs, dropWhile_append hds hs, if_neg hne]

theorem readFraction_append {l s : List Char} (hl : ∀ c ∈ l, c.isDigit = true) (hne : l ≠ [])
    (hs : NoDigit s) : readFraction ('.' :: (l ++ s)) = some (l, s) := by
  rw [readFraction, takeWhile_append hl hs, dropWhile_append hl hs, if_neg hne]

theorem readFraction_of_head {s : List Char} (hs : s.head? ≠ some '.') :
    readFraction s = some ([], s) := by
  unfold readFraction
  split
  · exact absurd rfl hs
  · rfl

theorem readExponentDigits_append (negative : Bool) (n : ℕ) {s : List Char} (hs : NoDigit s) :
    readExponentDigits negative (Nat.toDigits 10 n ++ s) =
      some (if negative then -(n : ℤ) else n, s) := by
  rw [readExponentDigits, takeWhile_append isDigit_of_mem_toDigits hs,
    dropWhile_append isDigit_of_mem_toDigits hs, if_neg Nat.toDigits_ne_nil,
    Nat.ofDigitChars_ten_toDigits]

theorem readExponent_append (m : ℤ) {s : List Char} (hs : NoDigit s) :
    readExponent (exponentText m ++ s) = some (m, s) := by
  by_cases hm : m < 0
  · have hread := readExponentDigits_append true m.natAbs hs
    rw [if_pos rfl, show (-(m.natAbs : ℤ)) = m by omega] at hread
    simpa [exponentText, hm, readExponent] using hread
  · have hread := readExponentDigits_append false m.natAbs hs
    rw [if_neg Bool.false_ne_true, show ((m.natAbs : ℤ)) = m by omega] at hread
    simpa [exponentText, hm, readExponent] using hread

theorem readExponent_of_ends {s : List Char} (hs : Ends s) : readExponent s = some (0, s) := by
  cases s with
  | nil => rfl
  | cons c s =>
    obtain ⟨-, -, hlower, hupper⟩ := hs c rfl
    exact if_neg (by simp [hlower, hupper])

theorem head?_exponentText (m : ℤ) (s : List Char) : (exponentText m ++ s).head? = some 'e' := rfl

/-- The parts of a literal make a number. -/
theorem readMagnitude_eq {negative : Bool} {s s₁ s₂ s₃ int frac : List Char} {e : ℤ} {d : Decimal}
    (hint : readInteger s = some (int, s₁)) (hfrac : readFraction s₁ = some (frac, s₂))
    (he : readExponent s₂ = some (e, s₃))
    (hd : ofScaled negative (Nat.ofDigitChars 10 (int ++ frac) 0) (e - frac.length) = some d) :
    readMagnitude negative s = some (d, s₃) := by
  simp only [readMagnitude, hint, hfrac, he, hd, Option.bind_eq_bind, Option.bind_some,
    Option.pure_def]

/-- Trailing zeros of the digits are taken into the exponent. -/
theorem ofScaled_pow (d : Decimal) (t : ℕ) :
    ofScaled d.negative (10 ^ t * d.significand) (d.exponent - t) = some d := by
  obtain ⟨negative, m, e, hnormal | ⟨rfl, rfl, rfl⟩⟩ := d
  · have hm : m ≠ 0 := by
      rintro rfl
      exact hnormal (by decide)
    have hne : 10 ^ t * m ≠ 0 := Nat.mul_ne_zero (pow_ne_zero t (by decide)) hm
    have hsplit := Nat.maxPowDvdDiv_of_pow_mul_eq hne rfl hnormal
    simp only [ofScaled, dif_neg hne, Option.some.injEq, mk.injEq, true_and]
    rw [Nat.divMaxPow, padicValNat, hsplit]
    exact ⟨rfl, by simp⟩
  · simp [ofScaled]

theorem ofScaled_self (d : Decimal) : ofScaled d.negative d.significand d.exponent = some d := by
  simpa using ofScaled_pow d 0

/-- The significand of a number with two digits or more is not zero. -/
theorem significand_ne_zero {n : ℕ} (h : 1 < (Nat.toDigits 10 n).length) : n ≠ 0 := by
  rintro rfl
  exact absurd h (by decide)

theorem head?_take_toDigits {n k : ℕ} (hn : n ≠ 0) (hk : 0 < k) :
    ((Nat.toDigits 10 n).take k).head? ≠ some '0' := by
  rw [List.head?_take, if_neg (by omega)]
  exact head?_toDigits hn

theorem isDigit_of_mem_zeros {t : ℕ} : ∀ c ∈ List.replicate t '0', c.isDigit = true := by
  intro c hc
  rw [List.eq_of_mem_replicate hc]
  rfl

/-- A number that is written is read back, whatever follows it. -/
theorem readMagnitude_magnitudeText (d : Decimal) {s : List Char} (hs : Ends s) :
    readMagnitude d.negative (magnitudeText d.significand d.exponent ++ s) = some (d, s) := by
  have hlen : 0 < (Nat.toDigits 10 d.significand).length := Nat.length_toDigits_pos
  have hpoint : s.head? ≠ some '.' := fun h => (hs '.' h).2.1 rfl
  unfold magnitudeText
  dsimp only
  split_ifs with hwhole hinside hbelow hone
  · -- The digits and the zeros up to the point are the integer part.
    have hint : readInteger (Nat.toDigits 10 d.significand ++
        List.replicate d.exponent.toNat '0' ++ s) = some (Nat.toDigits 10 d.significand ++
          List.replicate d.exponent.toNat '0', s) := by
      rcases eq_or_ne d.significand 0 with hzero | hne
      · obtain hnormal | ⟨-, -, he⟩ := d.normal
        · exact absurd ⟨0, hzero⟩ hnormal
        · rw [hzero, he]
          rfl
      · refine readInteger_append ?_ (by simp [Nat.toDigits_ne_nil]) ?_ hs.noDigit
        · intro c hc
          exact (List.mem_append.mp hc).elim (isDigit_of_mem_toDigits c) (isDigit_of_mem_zeros c)
        · rw [List.head?_append, Option.or_of_isSome (by simp [Nat.toDigits_ne_nil])]
          exact head?_toDigits hne
    refine readMagnitude_eq hint (readFraction_of_head hpoint) (readExponent_of_ends hs) ?_
    rw [List.append_nil, ofDigitChars_toDigits_append_zeros]
    convert ofScaled_pow d d.exponent.toNat using 2
    simp only [List.length_nil, Nat.cast_zero, sub_zero]
    omega
  · -- The point stands between two digits.
    set n := (d.exponent + (Nat.toDigits 10 d.significand).length).toNat with hn
    have hne : d.significand ≠ 0 := significand_ne_zero (by omega)
    have hint := readInteger_append (s := '.' :: ((Nat.toDigits 10 d.significand).drop n ++ s))
      (fun c hc => isDigit_of_mem_toDigits c (List.mem_of_mem_take hc))
      (List.ne_nil_of_length_pos (by rw [List.length_take]; omega))
      (head?_take_toDigits (k := n) hne (by omega)) (noDigit_cons (by decide))
    have hfrac := readFraction_append (l := (Nat.toDigits 10 d.significand).drop n)
      (fun c hc => isDigit_of_mem_toDigits c (List.mem_of_mem_drop hc))
      (List.ne_nil_of_length_pos (by rw [List.length_drop]; omega)) hs.noDigit
    rw [List.append_assoc, List.cons_append]
    refine readMagnitude_eq hint hfrac (readExponent_of_ends hs) ?_
    rw [List.take_append_drop, Nat.ofDigitChars_ten_toDigits, List.length_drop,
      show (0 : ℤ) - ((Nat.toDigits 10 d.significand).length - n : ℕ) = d.exponent by omega]
    exact ofScaled_self d
  · -- Zeros stand between the point and the digits.
    set t := (-(d.exponent + (Nat.toDigits 10 d.significand).length)).toNat with ht
    have hfrac := readFraction_append (l := List.replicate t '0' ++ Nat.toDigits 10 d.significand)
      (fun c hc => (List.mem_append.mp hc).elim (isDigit_of_mem_zeros c)
        (isDigit_of_mem_toDigits c)) (by simp [Nat.toDigits_ne_nil]) hs.noDigit
    rw [List.cons_append, List.cons_append]
    refine readMagnitude_eq (readInteger_zero _) hfrac (readExponent_of_ends hs) ?_
    rw [List.singleton_append, Nat.ofDigitChars_cons, List.length_append, List.length_replicate,
      show (0 : ℤ) - (t + (Nat.toDigits 10 d.significand).length : ℕ) = d.exponent by omega]
    change ofScaled _ (Nat.ofDigitChars 10 _ 0) _ = _
    rw [ofDigitChars_zeros_append_toDigits]
    exact ofScaled_self d
  · -- One digit and an exponent.
    have hne : d.significand ≠ 0 := by
      intro hzero
      obtain hnormal | ⟨-, -, he⟩ := d.normal
      · exact absurd ⟨0, hzero⟩ hnormal
      · omega
    rw [List.append_assoc]
    refine readMagnitude_eq (readInteger_append isDigit_of_mem_toDigits Nat.toDigits_ne_nil
      (head?_toDigits hne) (noDigit_cons (by decide)))
      (readFraction_of_head (by rw [head?_exponentText]; decide)) (readExponent_append _ hs.noDigit) ?_
    rw [List.append_nil, Nat.ofDigitChars_ten_toDigits, List.length_nil,
      show d.exponent + ((Nat.toDigits 10 d.significand).length : ℤ) - 1 - (0 : ℕ) = d.exponent by
        omega]
    exact ofScaled_self d
  · -- The first digit, the other digits and an exponent.
    have hne : d.significand ≠ 0 := significand_ne_zero (by omega)
    have hint := readInteger_append (s := '.' :: ((Nat.toDigits 10 d.significand).drop 1 ++
        (exponentText (d.exponent + (Nat.toDigits 10 d.significand).length - 1) ++ s)))
      (fun c hc => isDigit_of_mem_toDigits c (List.mem_of_mem_take hc))
      (List.ne_nil_of_length_pos (by rw [List.length_take]; omega))
      (head?_take_toDigits (k := 1) hne (by omega)) (noDigit_cons (by decide))
    have hfrac := readFraction_append (l := (Nat.toDigits 10 d.significand).drop 1)
      (s := exponentText (d.exponent + (Nat.toDigits 10 d.significand).length - 1) ++ s)
      (fun c hc => isDigit_of_mem_toDigits c (List.mem_of_mem_drop hc))
      (List.ne_nil_of_length_pos (by rw [List.length_drop]; omega)) (noDigit_cons (by decide))
    rw [List.append_assoc, List.cons_append, List.append_assoc]
    refine readMagnitude_eq hint hfrac (readExponent_append _ hs.noDigit) ?_
    rw [List.take_append_drop, Nat.ofDigitChars_ten_toDigits, List.length_drop,
      show d.exponent + ((Nat.toDigits 10 d.significand).length : ℤ) - 1 -
        ((Nat.toDigits 10 d.significand).length - 1 : ℕ) = d.exponent by omega]
    exact ofScaled_self d

/-- The first character of a number without its sign is a digit. -/
theorem magnitudeText_lead (m : ℕ) (e : ℤ) :
    ∃ c s, magnitudeText m e = c :: s ∧ c.isDigit = true := by
  obtain ⟨c, ds, hds⟩ := List.exists_cons_of_ne_nil (@Nat.toDigits_ne_nil m 10)
  have hc : c.isDigit = true := isDigit_of_mem_toDigits (n := m) c (by simp [hds])
  unfold magnitudeText
  dsimp only
  split_ifs with hwhole hinside
  · exact ⟨c, _, by rw [hds]; rfl, hc⟩
  · obtain ⟨k, hk⟩ : ∃ k, (e + (Nat.toDigits 10 m).length).toNat = k + 1 :=
      Nat.exists_eq_succ_of_ne_zero (by omega)
    exact ⟨c, _, by rw [hk, hds]; rfl, hc⟩
  · exact ⟨'0', _, rfl, rfl⟩
  · exact ⟨c, _, by rw [hds]; rfl, hc⟩
  · exact ⟨c, _, by rw [hds]; rfl, hc⟩

/-- The first character of a number is its sign or a digit. -/
theorem text_lead (d : Decimal) :
    ∃ c s, d.text = c :: s ∧ (c = '-' ∨ c.isDigit = true) := by
  obtain ⟨c, s, htext, hc⟩ := magnitudeText_lead d.significand d.exponent
  cases hneg : d.negative with
  | false => exact ⟨c, s, by simp [text, hneg, htext], .inr hc⟩
  | true => exact ⟨'-', _, by simp [text, hneg]; rfl, .inl rfl⟩

theorem read_text_append (d : Decimal) {s : List Char} (hs : Ends s) :
    read (d.text ++ s) = some (d, s) := by
  have hread := readMagnitude_magnitudeText d hs
  cases hneg : d.negative with
  | false =>
    obtain ⟨c, t, htext, hc⟩ := magnitudeText_lead d.significand d.exponent
    simp only [hneg, htext] at hread
    have hsign : c ≠ '-' := by
      rintro rfl
      exact absurd hc (by decide)
    simp only [text, hneg, htext, Bool.false_eq_true, if_false, List.nil_append, List.cons_append]
    unfold read
    split
    · exact absurd (List.cons.inj ‹_›).1 hsign
    · exact hread
  | true =>
    simp only [hneg] at hread
    simpa only [text, hneg, if_true, List.cons_append, List.nil_append, read] using hread

end Decimal
