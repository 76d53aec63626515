import Remittance.Json.Writer
import Remittance.Proofs.ReadBack

/-!
# Written numbers

A written number is scanned back to its last character, whatever stands behind it, unless
a numeral would go on there (`Ends`). A double-precision number is written as its shortest
decimal in one of three layouts, and all of them denote that decimal (`spells_positional`,
`spells_scientific`); an integer shows neither point nor power, a double-precision number
always one of them. So each number that can be written is read as itself, and as a number
of its own kind (`readNumber_writeNumber?`).
-/

namespace Remittance

namespace Numeral

/-! ## The parts of a numeral -/

def Digits (cs : List Char) : Prop :=
  ∀ c ∈ cs, c.isDigit = true

/-- No run of digits goes on at the start of the text. -/
def NoDigit (cs : List Char) : Prop :=
  ∀ c ∈ cs.head?, c.isDigit = false

/-- No numeral goes on at the start of the text. -/
def Ends (cs : List Char) : Prop :=
  ∀ c ∈ cs.head?, c.isDigit = false ∧ c ≠ '.' ∧ c ≠ 'e' ∧ c ≠ 'E'

theorem ends_nil : Ends [] := by
  rintro c ⟨⟩

theorem Ends.noDigit {cs : List Char} (h : Ends cs) : NoDigit cs :=
  fun c hc => (h c hc).1

theorem noDigit_cons {c : Char} {cs : List Char} (h : c.isDigit = false) : NoDigit (c :: cs) := by
  intro d hd
  cases hd
  exact h

theorem spanDigits_append {ds rest : List Char} (hds : Digits ds) (hrest : NoDigit rest) :
    spanDigits (ds ++ rest) = (ds, rest) := by
  have hstop : rest.takeWhile Char.isDigit = [] ∧ rest.dropWhile Char.isDigit = rest := by
    cases rest with
    | nil => exact ⟨rfl, rfl⟩
    | cons c rest => simp [hrest c rfl]
  unfold spanDigits
  rw [List.takeWhile_append_of_pos hds, List.dropWhile_append_of_pos hds, hstop.1, hstop.2,
    List.append_nil]

/-- Digits that may stand before a point: a lone zero, or digits that do not start with
one. -/
inductive WholePart : List Char → Prop
  | zero : WholePart ['0']
  | digits {c : Char} {cs : List Char} (hzero : c ≠ '0') (hdigits : Digits (c :: cs)) :
      WholePart (c :: cs)

theorem scanWhole_append {ds rest : List Char} (hds : WholePart ds) (hrest : NoDigit rest) :
    scanWhole (ds ++ rest) = some (ds, rest) := by
  cases hds with
  | zero => rfl
  | @digits c cs hzero hdigits =>
      have hc := hdigits c List.mem_cons_self
      rw [List.cons_append, scanWhole, if_neg hzero, if_pos hc, ← List.cons_append,
        spanDigits_append hdigits hrest]

theorem scanFraction_point {f rest : List Char} (hne : f ≠ []) (hf : Digits f)
    (hrest : NoDigit rest) : scanFraction ('.' :: (f ++ rest)) = (some f, rest) := by
  cases f with
  | nil => exact absurd rfl hne
  | cons c f => simp only [scanFraction, spanDigits_append hf hrest]

theorem scanFraction_of_ne {cs : List Char} (h : ∀ c ∈ cs.head?, c ≠ '.') :
    scanFraction cs = (none, cs) := by
  unfold scanFraction
  split
  · exact absurd rfl (h _ rfl)
  · rfl

/-- The sign of a power of ten, which is always written. -/
def signChar (negative : Bool) : Char :=
  if negative then '-' else '+'

def signed (negative : Bool) (n : Nat) : Int :=
  if negative then -(n : Int) else n

theorem scanExponent_power (negative : Bool) {p rest : List Char} (hne : p ≠ []) (hp : Digits p)
    (hrest : NoDigit rest) :
    scanExponent ('e' :: signChar negative :: (p ++ rest)) =
      (some (signed negative (Nat.ofDigitChars 10 p 0)), rest) := by
  have hsign : scanSign (signChar negative :: (p ++ rest)) = (negative, p ++ rest) := by
    cases negative <;> rfl
  cases p with
  | nil => exact absurd rfl hne
  | cons c p =>
      simp only [scanExponent, true_or, if_true, hsign, spanDigits_append hp hrest]
      rfl

theorem scanExponent_of_ne {cs : List Char} (h : ∀ c ∈ cs.head?, c ≠ 'e' ∧ c ≠ 'E') :
    scanExponent cs = (none, cs) := by
  cases cs with
  | nil => rfl
  | cons c cs =>
      obtain ⟨hsmall, hcapital⟩ := h c rfl
      rw [scanExponent, if_neg]
      rintro (rfl | rfl)
      · exact hsmall rfl
      · exact hcapital rfl

theorem scan_of_scanUnsigned {cs rest : List Char} {n : Numeral}
    (h : scanUnsigned false cs = some (n, rest)) : scan cs = some (n, rest) := by
  unfold scan
  split
  · -- no unsigned numeral starts with a minus
    cases h
  · exact h

/-! ## Texts that spell a decimal -/

/-- The text is scanned as a numeral that denotes the decimal and is no integer, of either
sign and whatever follows. -/
def Spells (cs : List Char) (digits : Nat) (exponent : Int) : Prop :=
  ∀ negative rest, Ends rest → ∃ n : Numeral,
    scanUnsigned negative (cs ++ rest) = some (n, rest) ∧ n.isWhole = false ∧
      n.toBinary64 = .ofDecimal negative digits exponent

theorem spells_point {whole fraction : List Char} (hwhole : WholePart whole)
    (hne : fraction ≠ []) (hfraction : Digits fraction) :
    Spells (whole ++ '.' :: fraction) (Nat.ofDigitChars 10 (whole ++ fraction) 0)
      (-fraction.length) := by
  intro negative rest hrest
  refine ⟨⟨negative, whole, some fraction, none⟩, ?_, rfl, ?_⟩
  · have hpoint : NoDigit ('.' :: (fraction ++ rest)) := noDigit_cons rfl
    have hend : ∀ c ∈ rest.head?, c ≠ 'e' ∧ c ≠ 'E' := fun c hc => (hrest c hc).2.2
    rw [List.append_assoc, List.cons_append, scanUnsigned, scanWhole_append hwhole hpoint]
    simp only [Option.map_some, scanFraction_point hne hfraction hrest.noDigit,
      scanExponent_of_ne hend]
  · simp [toBinary64]

theorem spells_power {whole power : List Char} (negativePower : Bool) (hwhole : WholePart whole)
    (hne : power ≠ []) (hpower : Digits power) :
    Spells (whole ++ 'e' :: signChar negativePower :: power) (Nat.ofDigitChars 10 whole 0)
      (signed negativePower (Nat.ofDigitChars 10 power 0)) := by
  intro negative rest hrest
  refine ⟨⟨negative, whole, none, some (signed negativePower (Nat.ofDigitChars 10 power 0))⟩,
    ?_, rfl, ?_⟩
  · have hletter : NoDigit ('e' :: signChar negativePower :: (power ++ rest)) := noDigit_cons rfl
    have hnopoint : ∀ c ∈ ('e' :: signChar negativePower :: (power ++ rest)).head?, c ≠ '.' := by
      rintro c ⟨⟩
      decide
    rw [List.append_assoc, List.cons_append, List.cons_append, scanUnsigned,
      scanWhole_append hwhole hletter]
    simp only [Option.map_some, scanFraction_of_ne hnopoint,
      scanExponent_power negativePower hne hpower hrest.noDigit]
  · simp [toBinary64]

theorem spells_point_power {whole fraction power : List Char} (negativePower : Bool)
    (hwhole : WholePart whole) (hfne : fraction ≠ []) (hfraction : Digits fraction)
    (hne : power ≠ []) (hpower : Digits power) :
    Spells (whole ++ '.' :: (fraction ++ 'e' :: signChar negativePower :: power))
      (Nat.ofDigitChars 10 (whole ++ fraction) 0)
      (signed negativePower (Nat.ofDigitChars 10 power 0) - fraction.length) := by
  intro negative rest hrest
  refine ⟨⟨negative, whole, some fraction,
    some (signed negativePower (Nat.ofDigitChars 10 power 0))⟩, ?_, rfl, ?_⟩
  · have hletter : NoDigit ('e' :: signChar negativePower :: (power ++ rest)) := noDigit_cons rfl
    have hpoint : NoDigit
        ('.' :: (fraction ++ 'e' :: signChar negativePower :: (power ++ rest))) :=
      noDigit_cons rfl
    have htext : (whole ++ '.' :: (fraction ++ 'e' :: signChar negativePower :: power)) ++ rest =
        whole ++ '.' :: (fraction ++ 'e' :: signChar negativePower :: (power ++ rest)) := by
      simp
    rw [htext, scanUnsigned, scanWhole_append hwhole hpoint]
    simp only [Option.map_some, scanFraction_point hfne hfraction hletter,
      scanExponent_power negativePower hne hpower hrest.noDigit]
  · simp [toBinary64]

/-! ## The digits of a number -/

theorem digits_toDigits (n : Nat) : Digits (Nat.toDigits 10 n) :=
  fun _ hc => Nat.isDigit_of_mem_toDigits (by decide) le_rfl hc

theorem digits_zeros (k : Nat) : Digits (List.replicate k '0') := by
  intro c hc
  rw [List.eq_of_mem_replicate hc]
  rfl

theorem Digits.append {cs ds : List Char} (h : Digits cs) (h' : Digits ds) : Digits (cs ++ ds) :=
  List.forall_mem_append.mpr ⟨h, h'⟩

/-- Only zero is written with a leading zero. -/
theorem head_toDigits_ne_zero {n : Nat} (h : n ≠ 0) : (Nat.toDigits 10 n).head? ≠ some '0' := by
  induction n using Nat.strongRecOn with
  | ind n ih =>
      by_cases hsmall : n < 10
      · rw [Nat.toDigits_of_lt_base hsmall]
        interval_cases n
        · exact absurd rfl h
        all_goals decide
      · rw [Nat.toDigits_of_base_le (by decide) (by omega),
          List.head?_append_of_ne_nil _ Nat.toDigits_ne_nil]
        exact ih (n / 10) (by omega) (by omega)

theorem wholePart_of_head {cs : List Char} (hne : cs ≠ []) (hhead : cs.head? ≠ some '0')
    (hdigits : Digits cs) : WholePart cs := by
  cases cs with
  | nil => exact absurd rfl hne
  | cons c cs =>
      refine .digits ?_ hdigits
      rintro rfl
      exact hhead rfl

theorem wholePart_toDigits (n : Nat) : WholePart (Nat.toDigits 10 n) := by
  by_cases h : n = 0
  · rw [h]
    exact .zero
  · exact wholePart_of_head Nat.toDigits_ne_nil (head_toDigits_ne_zero h) (digits_toDigits n)

/-- The digits of a number are cut in front of the point anywhere behind the first one. -/
theorem wholePart_take {n : Nat} (h : n ≠ 0) {k : Nat} (hk : k ≠ 0) :
    WholePart ((Nat.toDigits 10 n).take k) := by
  apply wholePart_of_head
  · simp [hk, Nat.toDigits_ne_nil]
  · rw [List.head?_take, if_neg hk]
    exact head_toDigits_ne_zero h
  · intro c hc
    exact digits_toDigits n c (List.mem_of_mem_take hc)

theorem wholePart_zeros {n : Nat} (h : n ≠ 0) (k : Nat) :
    WholePart (Nat.toDigits 10 n ++ List.replicate k '0') := by
  apply wholePart_of_head
  · simp [Nat.toDigits_ne_nil]
  · rw [List.head?_append_of_ne_nil _ Nat.toDigits_ne_nil]
    exact head_toDigits_ne_zero h
  · exact (digits_toDigits n).append (digits_zeros k)

theorem ofDigitChars_append_zeros (cs : List Char) (k : Nat) :
    Nat.ofDigitChars 10 (cs ++ List.replicate k '0') 0 = Nat.ofDigitChars 10 cs 0 * 10 ^ k := by
  rw [Nat.ofDigitChars_append, Nat.ofDigitChars_replicate_zero, Nat.mul_comm]

theorem ofDigitChars_zeros_append (k : Nat) (cs : List Char) :
    Nat.ofDigitChars 10 (List.replicate k '0' ++ cs) 0 = Nat.ofDigitChars 10 cs 0 := by
  rw [Nat.ofDigitChars_append, Nat.ofDigitChars_replicate_zero, Nat.mul_zero]

/-! ## The three layouts -/

theorem Spells.congr {cs : List Char} {digits digits' : Nat} {exponent exponent' : Int}
    (h : Spells cs digits exponent)
    (heq : ∀ negative, Binary64.ofDecimal negative digits exponent =
      .ofDecimal negative digits' exponent') : Spells cs digits' exponent' := by
  intro negative rest hrest
  obtain ⟨n, hscan, hwhole, hvalue⟩ := h negative rest hrest
  exact ⟨n, hscan, hwhole, hvalue.trans (heq negative)⟩

/-- Digits in positional notation denote themselves with the power that the point leaves
them. -/
theorem spells_positional {w : Nat} (hw : w ≠ 0) (point : Int) :
    Spells (Binary64.positionalChars (Nat.toDigits 10 w) point) w
      (point - (Nat.toDigits 10 w).length) := by
  have hvalue : Nat.ofDigitChars 10 (Nat.toDigits 10 w) 0 = w := Nat.ofDigitChars_ten_toDigits
  have hdigits := digits_toDigits w
  unfold Binary64.positionalChars
  by_cases hpoint : point ≤ 0
  · -- the digits stand behind the point and some zeros
    rw [if_pos hpoint]
    have hne : List.replicate (-point).toNat '0' ++ Nat.toDigits 10 w ≠ [] := by
      simp [Nat.toDigits_ne_nil]
    have hspells := spells_point .zero hne ((digits_zeros _).append hdigits)
    have hzeros : Nat.ofDigitChars 10
        (['0'] ++ (List.replicate (-point).toNat '0' ++ Nat.toDigits 10 w)) 0 = w := by
      rw [← List.append_assoc]
      exact (ofDigitChars_zeros_append ((-point).toNat + 1) _).trans hvalue
    have hexponent : point - (Nat.toDigits 10 w).length =
        -((List.replicate (-point).toNat '0' ++ Nat.toDigits 10 w).length : Int) := by
      rw [List.length_append, List.length_replicate]
      omega
    rw [hzeros, ← hexponent] at hspells
    exact hspells
  · rw [if_neg hpoint]
    obtain ⟨k, rfl⟩ := Int.eq_ofNat_of_zero_le (by omega : 0 ≤ point)
    dsimp only [Int.toNat_natCast]
    by_cases hk : (Nat.toDigits 10 w).length ≤ k
    · -- zeros fill the gap up to the point, and one follows it
      rw [if_pos hk]
      obtain ⟨gap, hgap⟩ := Nat.exists_eq_add_of_le hk
      rw [hgap, Nat.add_sub_cancel_left]
      have hspells := spells_point (wholePart_zeros hw gap) (List.cons_ne_nil '0' [])
        (digits_zeros 1)
      have hzeros : Nat.ofDigitChars 10
          (Nat.toDigits 10 w ++ List.replicate gap '0' ++ ['0']) 0 = w * 10 ^ (gap + 1) := by
        rw [List.append_assoc, ← List.replicate_succ', ofDigitChars_append_zeros, hvalue]
      rw [hzeros] at hspells
      apply hspells.congr
      intro negative
      rw [Binary64.ofDecimal_mul_pow]
      congr 1
      rw [List.length_singleton]
      omega
    · -- the point stands between two digits
      rw [if_neg hk]
      have hne : (Nat.toDigits 10 w).drop k ≠ [] := by
        intro h
        exact hk (List.drop_eq_nil_iff.mp h)
      have hspells := spells_point (wholePart_take hw (by omega : k ≠ 0)) hne
        fun c hc => hdigits c (List.mem_of_mem_drop hc)
      have hexponent : (k : Int) - (Nat.toDigits 10 w).length =
          -(((Nat.toDigits 10 w).drop k).length : Int) := by
        rw [List.length_drop]
        omega
      rw [List.take_append_drop, hvalue, ← hexponent] at hspells
      exact hspells

theorem signed_natAbs (n : Int) : signed (decide (n < 0)) n.natAbs = n := by
  unfold signed
  by_cases h : n < 0
  · rw [if_pos (decide_eq_true h)]
    omega
  · rw [if_neg (by simpa using h)]
    omega

/-- Digits with a power of ten denote themselves with that power, less the digits behind
the point. -/
theorem spells_scientific {w : Nat} (hw : w ≠ 0) (power : Int) :
    Spells (Binary64.scientificChars (Nat.toDigits 10 w) power) w
      (power + 1 - (Nat.toDigits 10 w).length) := by
  have hvalue : Nat.ofDigitChars 10 (Nat.toDigits 10 w) 0 = w := Nat.ofDigitChars_ten_toDigits
  have hlength : 0 < (Nat.toDigits 10 w).length := Nat.length_toDigits_pos
  have hwhole := wholePart_take hw Nat.one_ne_zero
  -- the power is written with a sign and two digits at least
  obtain ⟨digits, hdigits⟩ : ∃ ds, ds = List.replicate (2 - (Nat.toDigits 10 power.natAbs).length)
      '0' ++ Nat.toDigits 10 power.natAbs := ⟨_, rfl⟩
  have hne : digits ≠ [] := by simp [hdigits, Nat.toDigits_ne_nil]
  have hall : Digits digits := hdigits ▸ (digits_zeros _).append (digits_toDigits _)
  have hpower : signed (decide (power < 0)) (Nat.ofDigitChars 10 digits 0) = power := by
    rw [hdigits, ofDigitChars_zeros_append, Nat.ofDigitChars_ten_toDigits, signed_natAbs]
  have hsign : (if power < 0 then '-' else '+') = signChar (decide (power < 0)) := by
    simp [signChar]
  have htext : Binary64.scientificChars (Nat.toDigits 10 w) power =
      (Nat.toDigits 10 w).take 1 ++
        ((if ((Nat.toDigits 10 w).drop 1).isEmpty then [] else '.' :: (Nat.toDigits 10 w).drop 1) ++
          'e' :: signChar (decide (power < 0)) :: digits) := by
    simp [Binary64.scientificChars, hdigits, hsign]
  rw [htext]
  by_cases hone : (Nat.toDigits 10 w).drop 1 = []
  · have htake : (Nat.toDigits 10 w).take 1 = Nat.toDigits 10 w := by
      rw [← List.append_nil ((Nat.toDigits 10 w).take 1), ← hone, List.take_append_drop]
    have hspells := spells_power (decide (power < 0)) hwhole hne hall
    rw [htake, hvalue, hpower] at hspells
    have hexponent : power + 1 - (Nat.toDigits 10 w).length = power := by
      have := List.drop_eq_nil_iff.mp hone
      omega
    rw [hone, htake, hexponent]
    exact hspells
  · have hspells := spells_point_power (decide (power < 0)) hwhole hone
      (fun c hc => digits_toDigits w c (List.mem_of_mem_drop hc)) hne hall
    rw [List.take_append_drop, hvalue, hpower, List.length_drop] at hspells
    have hexponent : power + 1 - (Nat.toDigits 10 w).length =
        power - ((Nat.toDigits 10 w).length - 1 : Nat) := by omega
    rw [if_neg (by simpa using hone), hexponent]
    exact hspells

/-! ## Numbers of either kind -/

theorem spells_magnitude (m : Magnitude) :
    ∃ digits exponent, Spells (Binary64.magnitudeChars m) digits exponent ∧
      ∀ negative, Binary64.ofDecimal negative digits exponent = .finite negative m := by
  unfold Binary64.magnitudeChars
  by_cases hzero : m.units = 0
  · rw [if_pos hzero]
    refine ⟨0, -1, spells_point .zero (List.cons_ne_nil '0' []) (digits_zeros 1), ?_⟩
    intro negative
    have hm : Magnitude.zero = m := Magnitude.ext hzero.symm
    rw [← hm]
    rfl
  · rw [if_neg hzero]
    refine ⟨m.shortest.1, m.shortest.2, ?_, m.ofDecimal_shortest⟩
    have hdigits := Magnitude.shortest_ne_zero hzero
    dsimp only
    split
    · have hspells := spells_positional hdigits
        ((Nat.toDigits 10 m.shortest.1).length + m.shortest.2)
      rwa [add_sub_cancel_left] at hspells
    · have hspells := spells_scientific hdigits
        ((Nat.toDigits 10 m.shortest.1).length + m.shortest.2 - 1)
      rwa [Int.sub_add_cancel, add_sub_cancel_left] at hspells

/-- A finite number is scanned back, and as no integer. -/
theorem scan_toChars (negative : Bool) (m : Magnitude) {rest : List Char} (hrest : Ends rest) :
    ∃ n : Numeral, scan ((Binary64.finite negative m).toChars ++ rest) = some (n, rest) ∧
      n.isWhole = false ∧ n.toBinary64 = .finite negative m := by
  obtain ⟨digits, exponent, hspells, hvalue⟩ := spells_magnitude m
  obtain ⟨n, hscan, hkind, hdenotes⟩ := hspells negative rest hrest
  refine ⟨n, ?_, hkind, hdenotes.trans (hvalue negative)⟩
  cases negative with
  | false => exact scan_of_scanUnsigned hscan
  | true => exact hscan

theorem scanUnsigned_toDigits (negative : Bool) (k : Nat) {rest : List Char}
    (hrest : Ends rest) :
    scanUnsigned negative (Nat.toDigits 10 k ++ rest) =
      some (⟨negative, Nat.toDigits 10 k, none, none⟩, rest) := by
  have hpoint : ∀ c ∈ rest.head?, c ≠ '.' := fun c hc => (hrest c hc).2.1
  have hpower : ∀ c ∈ rest.head?, c ≠ 'e' ∧ c ≠ 'E' := fun c hc => (hrest c hc).2.2
  rw [scanUnsigned, scanWhole_append (wholePart_toDigits k) hrest.noDigit]
  simp only [Option.map_some, scanFraction_of_ne hpoint, scanExponent_of_ne hpower]

/-- An integer is scanned back, with as many digits as its absolute value. -/
theorem scan_wholeChars (value : Int) {rest : List Char} (hrest : Ends rest) :
    ∃ n : Numeral, scan (wholeChars value ++ rest) = some (n, rest) ∧ n.isWhole = true ∧
      n.toInt = value ∧ n.whole = Nat.toDigits 10 value.natAbs := by
  cases value with
  | ofNat k =>
      refine ⟨_, scan_of_scanUnsigned (scanUnsigned_toDigits false k hrest), rfl, ?_, rfl⟩
      simp [toInt, Nat.ofDigitChars_ten_toDigits]
  | negSucc k =>
      refine ⟨_, scanUnsigned_toDigits true (k + 1) hrest, rfl, ?_, rfl⟩
      simp [toInt, Nat.ofDigitChars_ten_toDigits, Int.negSucc_eq]

end Numeral

namespace Json

/-- The number is finite, and short enough to be read again if it is an integer. -/
def Writable : Number → Prop
  | .whole n => (Nat.toDigits 10 n.natAbs).length ≤ Numeral.maxDigits
  | .double x => x.isFinite = true

theorem writeNumber?_isSome_iff (x : Number) : (writeNumber? x).isSome = true ↔ Writable x := by
  cases x with
  | whole n =>
      show Option.isSome (if _ then _ else _) = true ↔ _
      split <;> simp_all [Writable, ← Numeral.isShort_iff]
  | double x =>
      show Option.isSome (if _ then _ else _) = true ↔ _
      split <;> simp_all [Writable]

instance (x : Number) : Decidable (Writable x) :=
  decidable_of_iff _ (writeNumber?_isSome_iff x)

/-- A number that can be written is read as itself, and what stands behind it is left. -/
theorem readNumber_writeNumber? {x : Number} {cs rest : List Char}
    (h : writeNumber? x = some cs) (hrest : Numeral.Ends rest) :
    readNumber (cs ++ rest) = .ok (.number x, rest) := by
  have hwritable : Writable x := by
    rw [← writeNumber?_isSome_iff, h]
    rfl
  cases x with
  | whole n =>
      have hcs : wholeChars n = cs := by
        have hshort : Numeral.isShort n = true := Numeral.isShort_iff.mpr hwritable
        simpa [writeNumber?, hshort] using h
      obtain ⟨numeral, hscan, hwhole, hvalue, hdigits⟩ := Numeral.scan_wholeChars n hrest
      have hshort : ¬Numeral.maxDigits < numeral.whole.length := by
        rw [hdigits]
        exact Nat.not_lt.mpr hwritable
      rw [readNumber, ← hcs, hscan]
      dsimp only
      rw [if_pos hwhole, if_neg hshort, hvalue]
  | double x =>
      have hfinite : x.isFinite = true := hwritable
      have hcs : x.toChars = cs := by
        simpa [writeNumber?, hfinite] using h
      cases x with
      | finite negative m =>
          obtain ⟨numeral, hscan, hkind, hvalue⟩ := Numeral.scan_toChars negative m hrest
          rw [readNumber, ← hcs, hscan]
          dsimp only
          rw [if_neg (by simp [hkind]), hvalue]
      | infinite negative => cases hfinite
      | nan => cases hfinite

end Json

end Remittance
