import FieldMap.Number.Layout
import FieldMap.Proofs.ShortestDecimals

/-!
# Written numbers

A number is written as digits, perhaps with a point and a power of ten (`Numeral`), in every layout
(`Layout.exists_numeral`). What is written has the value of the number's shortest decimal, and so it
is read back as the number (`Layout.ofText?_write`).
-/

namespace FieldMap

open Binary64

/-! ## Digits and signs -/

theorem digitsValue_append (digits others : List Char) :
    digitsValue (digits ++ others) = Nat.ofDigitChars 10 others (digitsValue digits) :=
  Nat.ofDigitChars_append 0

theorem digitsValue_toDigits (n : ℕ) : digitsValue (Nat.toDigits 10 n) = n :=
  Nat.ofDigitChars_toDigits (by decide) (by decide)

theorem digitsValue_append_zeros (digits : List Char) (k : ℕ) :
    digitsValue (digits ++ List.replicate k '0') = 10 ^ k * digitsValue digits := by
  rw [digitsValue_append, Nat.ofDigitChars_replicate_zero]

theorem digitsValue_zeros_append (k : ℕ) (digits : List Char) :
    digitsValue (List.replicate k '0' ++ digits) = digitsValue digits := by
  have hzeros : digitsValue (List.replicate k '0') = 0 :=
    Nat.ofDigitChars_replicate_zero.trans (mul_zero _)
  rw [digitsValue_append, hzeros]
  rfl

/-- A text behind the sign of a number. -/
def withSign (negative : Bool) (text : List Char) : List Char :=
  if negative then '-' :: text else text

theorem mem_withSign {negative : Bool} {text : List Char} {c : Char} :
    c ∈ withSign negative text ↔ negative = true ∧ c = '-' ∨ c ∈ text := by
  cases negative with
  | true => exact List.mem_cons.trans (or_congr_left (and_iff_right rfl).symm)
  | false => exact (or_iff_right fun h => Bool.false_ne_true h.1).symm

theorem isDigit_toDigits (n : ℕ) : ∀ c ∈ Nat.toDigits 10 n, c.isDigit = true :=
  fun _ => Nat.isDigit_of_mem_toDigits (by decide) (by decide)

theorem isDigit_zeros (k : ℕ) : ∀ c ∈ List.replicate k '0', c.isDigit = true := fun c hc => by
  rw [List.eq_of_mem_replicate hc]
  rfl

/-- Where no digit follows digits, they are all digits at the front. -/
theorem span_isDigit_append {digits rest : List Char} (hdigits : ∀ c ∈ digits, c.isDigit = true)
    (hrest : ∀ c ∈ rest.head?, c.isDigit = false) :
    (digits ++ rest).takeWhile Char.isDigit = digits ∧
      (digits ++ rest).dropWhile Char.isDigit = rest := by
  rw [List.takeWhile_append_of_pos hdigits, List.dropWhile_append_of_pos hdigits]
  cases rest with
  | nil => exact ⟨List.append_nil _, rfl⟩
  | cons c rest =>
    have hc : c.isDigit = false := hrest c rfl
    rw [List.takeWhile_cons, List.dropWhile_cons, hc]
    exact ⟨List.append_nil _, rfl⟩

/-! ## Numerals -/

/-- Digits with a point among them if there are some behind it, and a power of ten if there is one.
It has no sign. -/
structure Numeral where
  whole : List Char
  fraction : List Char
  power : Option ℤ
  whole_ne_nil : whole ≠ []
  isDigit_whole : ∀ c ∈ whole, c.isDigit = true
  isDigit_fraction : ∀ c ∈ fraction, c.isDigit = true

namespace Numeral

variable (n : Numeral)

/-- The text of a power of ten. -/
def powerText : Option ℤ → List Char
  | none => []
  | some power => 'e' :: (if power < 0 then '-' else '+') :: Nat.toDigits 10 power.natAbs

/-- The text of a point and what is behind it. -/
def pointText (fraction : List Char) : List Char :=
  if fraction = [] then [] else '.' :: fraction

/-- What follows the digits before the point. -/
def tail : List Char :=
  pointText n.fraction ++ powerText n.power

/-- The text of a numeral. -/
def text : List Char :=
  n.whole ++ n.tail

/-- Whether it has a point or a power of ten. -/
def IsFloat : Prop :=
  n.fraction ≠ [] ∨ n.power.isSome = true

/-- The value of all digits without the point. -/
def coefficient : ℕ :=
  digitsValue (n.whole ++ n.fraction)

/-- The power of ten of the last digit. -/
def exponent : ℤ :=
  n.power.getD 0 - n.fraction.length

/-- The value of a numeral. -/
def value : ℚ :=
  n.coefficient * 10 ^ n.exponent

theorem readExponent?_powerText (power : Option ℤ) :
    readExponent? (powerText power) = some (power.getD 0) := by
  cases power with
  | none => rfl
  | some power =>
    have hdigits : ((Nat.toDigits 10 power.natAbs).isEmpty ||
        !(Nat.toDigits 10 power.natAbs).all Char.isDigit) = false := by
      rw [List.all_eq_true.mpr (isDigit_toDigits _),
        List.isEmpty_eq_false_iff.mpr Nat.toDigits_ne_nil]
      rfl
    rw [powerText, readExponent?, if_pos (.inl rfl)]
    split_ifs with hneg
    · simp only [takeSign, hdigits, digitsValue_toDigits, Bool.false_eq_true, if_false, if_true,
        Option.getD_some]
      congr 1
      omega
    · simp only [takeSign, hdigits, digitsValue_toDigits, Bool.false_eq_true, if_false,
        Option.getD_some]
      congr 1
      omega

/-- No digit follows the digits. -/
theorem head?_powerText (power : Option ℤ) : ∀ c ∈ (powerText power).head?, c.isDigit = false := by
  cases power with
  | none => exact fun _ h => by cases h
  | some power => rintro _ ⟨⟩; rfl

theorem head?_tail : ∀ c ∈ n.tail.head?, c.isDigit = false := by
  rw [tail, pointText]
  split
  · exact head?_powerText n.power
  · rintro _ ⟨⟩
    rfl

/-- A numeral is read as the number nearest to its value. -/
theorem ofDigits?_text (negative : Bool) : ofDigits? negative n.text =
    some (ofDecimal negative n.coefficient n.exponent) := by
  obtain ⟨htake, hdrop⟩ := span_isDigit_append n.isDigit_whole n.head?_tail
  have hwhole : n.whole.isEmpty = false := List.isEmpty_eq_false_iff.mpr n.whole_ne_nil
  obtain ⟨htake', hdrop'⟩ := span_isDigit_append n.isDigit_fraction (head?_powerText n.power)
  rw [ofDigits?, text, htake, hdrop, tail, pointText, coefficient, exponent]
  split_ifs with hf
  · rw [hf, List.nil_append]
    have hread := readExponent?_powerText n.power
    cases hp : n.power with
    | none =>
      simp only [powerText, hwhole]
      rfl
    | some power =>
      rw [hp] at hread
      simp only [powerText, hwhole] at hread ⊢
      change (readExponent? ('e' :: _)).bind _ = _
      rw [hread]
      rfl
  · simp only [List.cons_append, htake', hdrop', hwhole, readExponent?_powerText]
    rfl

theorem exists_head (n : Numeral) :
    ∃ first rest, n.text = first :: rest ∧ first.isDigit = true := by
  obtain ⟨first, rest, hwhole⟩ := List.exists_cons_of_ne_nil n.whole_ne_nil
  refine ⟨first, rest ++ n.tail, by rw [text, hwhole, List.cons_append], ?_⟩
  exact n.isDigit_whole first (hwhole ▸ List.mem_cons_self)

/-- The digits of a natural number. -/
def ofNat (k : ℕ) : Numeral :=
  ⟨Nat.toDigits 10 k, [], none, Nat.toDigits_ne_nil, isDigit_toDigits k, fun _ hc => by cases hc⟩

theorem text_ofNat (k : ℕ) : (ofNat k).text = Nat.toDigits 10 k :=
  List.append_nil _

theorem coefficient_ofNat (k : ℕ) : (ofNat k).coefficient = k := by
  rw [coefficient, ofNat, List.append_nil, digitsValue_toDigits]

theorem exponent_ofNat (k : ℕ) : (ofNat k).exponent = 0 :=
  rfl

end Numeral

/-! ## Layouts -/

namespace Layout

variable (layout : Layout) {digits : List Char} {exponent : ℤ} (hne : digits ≠ [])
  (hdigits : ∀ c ∈ digits, c.isDigit = true)

include hne hdigits

/-- A whole number is its digits with zeros behind them. -/
theorem exists_positional_of_nonneg (h : 0 ≤ exponent) :
    ∃ n : Numeral, layout.positionalDigits digits exponent = n.text ∧
      n.value = digitsValue digits * 10 ^ exponent ∧ (layout.keepsPoint = true → n.IsFloat) := by
  have hdigits' : ∀ c ∈ digits ++ List.replicate exponent.toNat '0', c.isDigit = true :=
    fun c hc => (List.mem_append.mp hc).elim (hdigits c) (isDigit_zeros _ c)
  have hne' : digits ++ List.replicate exponent.toNat '0' ≠ [] :=
    List.append_ne_nil_of_left_ne_nil hne _
  have hpower : (10 : ℚ) ^ exponent = 10 ^ exponent.toNat := by
    rw [← zpow_natCast, Int.toNat_of_nonneg h]
  rw [positionalDigits, if_pos h]
  cases layout.keepsPoint with
  | false =>
    refine ⟨⟨_, [], none, hne', hdigits', fun c hc => by cases hc⟩, rfl, ?_, fun h => by cases h⟩
    rw [Numeral.value, Numeral.coefficient, List.append_nil, digitsValue_append_zeros, hpower]
    show _ * (10 : ℚ) ^ (0 - 0 : ℤ) = _
    push_cast
    ring
  | true =>
    refine ⟨⟨_, ['0'], none, hne', hdigits', isDigit_zeros 1⟩, rfl, ?_,
      fun _ => .inl (List.cons_ne_nil _ _)⟩
    have hlast : digitsValue (digits ++ List.replicate exponent.toNat '0' ++ ['0']) =
        10 ^ 1 * (10 ^ exponent.toNat * digitsValue digits) :=
      (digitsValue_append_zeros _ 1).trans (congrArg _ (digitsValue_append_zeros _ _))
    rw [Numeral.value, Numeral.coefficient, hlast, hpower]
    show _ * (10 : ℚ) ^ (0 - 1 : ℤ) = _
    push_cast
    ring

omit hne in
/-- A number that is not whole has its last digits behind the point, and as many zeros in front as
leave one digit before it. -/
theorem exists_positional_of_neg (h : exponent < 0) :
    ∃ n : Numeral, layout.positionalDigits digits exponent = n.text ∧
      n.value = digitsValue digits * 10 ^ exponent ∧ n.IsFloat := by
  have hpadded : ∀ c ∈ List.replicate ((-exponent).toNat + 1 - digits.length) '0' ++ digits,
      c.isDigit = true :=
    fun c hc => (List.mem_append.mp hc).elim (isDigit_zeros _ c) (hdigits c)
  have hvalue := digitsValue_zeros_append ((-exponent).toNat + 1 - digits.length) digits
  have hlength : (-exponent).toNat + 1 ≤
      (List.replicate ((-exponent).toNat + 1 - digits.length) '0' ++ digits).length := by
    rw [List.length_append, List.length_replicate]
    omega
  rw [positionalDigits, if_neg h.not_ge]
  simp only
  generalize List.replicate ((-exponent).toNat + 1 - digits.length) '0' ++ digits = padded at *
  generalize hplaces : (-exponent).toNat = places at *
  have hfraction : (padded.drop (padded.length - places)).length = places := by
    rw [List.length_drop]
    omega
  have hfraction' : padded.drop (padded.length - places) ≠ [] :=
    List.ne_nil_of_length_pos (by omega)
  have hwhole : padded.take (padded.length - places) ≠ [] :=
    List.ne_nil_of_length_pos (by rw [List.length_take]; omega)
  refine ⟨⟨_, _, none, hwhole, fun c hc => hpadded c (List.mem_of_mem_take hc),
    fun c hc => hpadded c (List.mem_of_mem_drop hc)⟩, ?_, ?_, .inl hfraction'⟩
  · rw [Numeral.text, Numeral.tail, Numeral.pointText, if_neg hfraction', Numeral.powerText,
      List.append_nil]
  · rw [Numeral.value, Numeral.coefficient, Numeral.exponent, List.take_append_drop, hvalue,
      hfraction]
    congr 2
    show (0 : ℤ) - _ = _
    omega

theorem exists_positional (exponent : ℤ) :
    ∃ n : Numeral, layout.positionalDigits digits exponent = n.text ∧
      n.value = digitsValue digits * 10 ^ exponent ∧ (layout.keepsPoint = true → n.IsFloat) := by
  rcases le_or_gt 0 exponent with h | h
  · exact layout.exists_positional_of_nonneg hne hdigits h
  · obtain ⟨n, htext, hvalue, hfloat⟩ := layout.exists_positional_of_neg hdigits h
    exact ⟨n, htext, hvalue, fun _ => hfloat⟩

/-- The power of ten that is written is that of the first digit. -/
theorem exists_scientific (exponent : ℤ) :
    ∃ n : Numeral, scientificDigits digits (exponent + digits.length - 1) = n.text ∧
      n.value = digitsValue digits * 10 ^ exponent ∧ n.IsFloat := by
  obtain ⟨first, rest, rfl⟩ := List.exists_cons_of_ne_nil hne
  have hfirst : ∀ c ∈ [first], c.isDigit = true := fun c hc =>
    hdigits c (List.mem_cons.mpr (.inl (List.mem_singleton.mp hc)))
  have hrest : ∀ c ∈ rest, c.isDigit = true := fun c hc => hdigits c (List.mem_cons_of_mem _ hc)
  refine ⟨⟨[first], rest, some (exponent + (first :: rest).length - 1), List.cons_ne_nil _ _,
    hfirst, hrest⟩, ?_, ?_, .inr rfl⟩
  · cases rest <;> rfl
  · rw [Numeral.value, Numeral.coefficient, Numeral.exponent, List.singleton_append]
    congr 2
    show exponent + ((rest.length + 1 : ℕ) : ℤ) - 1 - rest.length = exponent
    omega

omit hne hdigits

/-- A magnitude is written as a numeral of the value of its shortest decimal. -/
theorem exists_numeral (m : ℕ) (e : ℤ) : ∃ n : Numeral, layout.magnitude m e = n.text ∧
    n.value = (if m = 0 then 0 else (shortest layout.tie m e).toRat) ∧
    (layout.keepsPoint = true → n.IsFloat) := by
  rw [magnitude]
  split
  · obtain ⟨n, htext, hvalue, hfloat⟩ :=
      layout.exists_positional (List.cons_ne_nil '0' []) (isDigit_zeros 1) 0
    refine ⟨n, htext, hvalue.trans ?_, hfloat⟩
    have hzero : digitsValue ['0'] = 0 := rfl
    rw [hzero, Nat.cast_zero, zero_mul]
  · generalize shortest layout.tie m e = decimal
    have hne : Nat.toDigits 10 decimal.coefficient ≠ [] := Nat.toDigits_ne_nil
    have hpositional := layout.exists_positional hne (isDigit_toDigits _) decimal.exponent
    have hscientific := exists_scientific hne (isDigit_toDigits _) decimal.exponent
    rw [digitsValue_toDigits] at hpositional hscientific
    simp only
    split
    · exact hpositional
    · split_ifs
      · exact hpositional
      · obtain ⟨n, htext, hvalue, hfloat⟩ := hscientific
        exact ⟨n, htext, hvalue, fun _ => hfloat⟩

/-- The value that is written is rounded to the number. -/
theorem exists_numeral_isNearest {m : ℕ} {e : ℤ} (hc : Canonical m e) : ∃ n : Numeral,
    layout.magnitude m e = n.text ∧ (layout.keepsPoint = true → n.IsFloat) ∧
    (Binary64.finite false m e hc).IsNearest n.value ∧ n.value < overflow := by
  obtain ⟨n, htext, hvalue, hfloat⟩ := layout.exists_numeral m e
  refine ⟨n, htext, hfloat, ?_⟩
  rw [hvalue]
  split
  · rename_i hm
    subst hm
    have hself := isNearest_self (x := .finite false 0 e hc) rfl
    have hlt := abs_toRat_lt (x := .finite false 0 e hc) rfl
    have hzero : (Binary64.finite false 0 e hc).toRat = 0 :=
      show ((0 : ℕ) : ℚ) * 2 ^ e = 0 by rw [Nat.cast_zero, zero_mul]
    rw [hzero] at hself hlt
    exact ⟨hself, abs_zero (α := ℚ) ▸ hlt⟩
  · rename_i hm
    have hcontains := contains_shortest layout.tie hc hm
    exact ⟨hcontains.isNearest hc hm, hcontains.lt_overflow hc⟩

end Layout

/-! ## Reading back -/

theorem toLower_of_isDigit {c : Char} (h : c.isDigit = true) : c.toLower = c := by
  have hupper : ¬ (c.val ≥ 'A'.val ∧ c.val ≤ 'Z'.val) := by grind [Char.isDigit]
  exact dif_neg hupper

/-- A numeral is read with its sign: it begins with a digit, and so with no other sign and no
word. -/
theorem Numeral.ofText?_withSign (n : Numeral) (negative : Bool) :
    ofText? (String.ofList (withSign negative n.text)) =
      some (ofDecimal negative n.coefficient n.exponent) := by
  rw [← n.ofDigits?_text]
  obtain ⟨first, rest, hcons, h⟩ := n.exists_head
  rw [hcons]
  have hsign : takeSign (withSign negative (first :: rest)) = (negative, first :: rest) := by
    cases negative with
    | true => rfl
    | false =>
      rw [withSign, if_neg Bool.false_ne_true, takeSign]
      · rintro _ ⟨⟩
        cases h
      · rintro _ ⟨⟩
        cases h
  have hword {word : String} {c : Char} (hw : word.toList.head? = some c)
      (hc : c.isDigit = false) : String.ofList ((first :: rest).map Char.toLower) ≠ word := by
    rintro rfl
    rw [String.toList_ofList, List.map_cons, List.head?_cons, Option.some_inj,
      toLower_of_isDigit h] at hw
    rw [← hw, h] at hc
    cases hc
  rw [ofText?, String.toList_ofList, hsign]
  simp only
  split
  · rename_i hw
    exact absurd hw (hword (c := 'i') (by decide) rfl)
  · rename_i hw
    exact absurd hw (hword (c := 'i') (by decide) rfl)
  · rename_i hw
    exact absurd hw (hword (c := 'n') (by decide) rfl)
  · rfl

/-- What is written of a finite number, in any layout, is read back as a number of its value. -/
theorem Layout.ofText?_write (layout : Layout) {x : Binary64} (hx : x.isFinite = true) :
    ∃ y : Binary64, ofText? (layout.write x) = some y ∧ y.isFinite = true ∧ y.toRat = x.toRat := by
  cases x with
  | finite negative m e hc =>
    obtain ⟨n, htext, -, hnearest, hlt⟩ := layout.exists_numeral_isNearest hc
    rw [write, htext]
    exact ⟨_, n.ofText?_withSign negative, toRat_ofDecimal hnearest hlt negative⟩
  | _ => cases hx

end FieldMap
