import Remittance.Proofs.Capitals
import Remittance.Proofs.Locality
import Remittance.Proofs.UncheckedSelection

/-!
# Capitals of capitals

No capital form holds a letter that has another capital form (`disjoint_targets_letters`), so
that the capital form of a capital form is itself (`upper_upper`). The currency that a
snapshot reports can therefore stand for that of its account wherever the account is read
again (`reported_currency_settled`).
-/

namespace Remittance

namespace Text

namespace Uppercase

/-! ## Sets of numbers -/

/-- A set of numbers as the bits of one number. -/
def bits (ns : List Nat) : Nat :=
  ns.foldr (fun n acc => acc ||| 2 ^ n) 0

theorem testBit_bits {ns : List Nat} {n : Nat} (h : n ∈ ns) : (bits ns).testBit n = true := by
  induction h with
  | head ns =>
      rw [bits, List.foldr_cons, Nat.testBit_or, Nat.testBit_two_pow_self, Bool.or_true]
  | tail m _ ih =>
      rw [bits, List.foldr_cons, ← bits, Nat.testBit_or, ih, Bool.true_or]

/-- Sets whose bits never meet share no number. -/
theorem disjoint_of_bits {ms ns : List Nat} (h : bits ms &&& bits ns = 0) : ms.Disjoint ns := by
  intro n hm hn
  have hbit : (bits ms &&& bits ns).testBit n = true := by
    rw [Nat.testBit_and, testBit_bits hm, testBit_bits hn]
    rfl
  rw [h, Nat.zero_testBit] at hbit
  cases hbit

/-! ## Letters and their capitals -/

/-- The small letters of ASCII, which the table leaves out. -/
def asciiRun : Run := ⟨0x61, 0x7A, 1, 0x41⟩

def Run.size (r : Run) : Nat :=
  (r.last - r.first) / r.step + 1

/-- The code points with a capital form that is not themselves. -/
def letters : List Nat :=
  (asciiRun :: runs).flatMap (fun r => List.range' r.first r.size r.step) ++
    singles.map (·.1) ++ expansions.map (·.1)

/-- The code points in the capital forms of letters. -/
def targets : List Nat :=
  (asciiRun :: runs).flatMap (fun r => List.range' r.target r.size r.step) ++
    singles.map (·.2) ++ expansions.flatMap (·.2)

-- As bits, each set is built once; the letters are too many to be compared pair by pair.
theorem disjoint_targets_letters : targets.Disjoint letters :=
  disjoint_of_bits (by decide +kernel)

theorem place_of_covers {r : Run} {n : Nat} (h : r.covers n = true) :
    ∃ i < r.size, n - r.first = r.step * i ∧ r.first ≤ n := by
  simp only [Run.covers, Bool.and_eq_true, decide_eq_true_eq, beq_iff_eq] at h
  obtain ⟨⟨hfirst, hlast⟩, hstep⟩ := h
  refine ⟨(n - r.first) / r.step, ?_, ?_, hfirst⟩
  · have hle : (n - r.first) / r.step ≤ (r.last - r.first) / r.step :=
      Nat.div_le_div_right (Nat.sub_le_sub_right hlast r.first)
    exact Nat.lt_succ_of_le hle
  · exact (Nat.mul_div_cancel' (Nat.dvd_of_mod_eq_zero hstep)).symm

/-- A code point of a run is a letter, and its capital lies at the same place. -/
theorem mem_of_covers {r : Run} (hr : r ∈ asciiRun :: runs) {n : Nat} (h : r.covers n = true) :
    n ∈ letters ∧ r.target + (n - r.first) ∈ targets := by
  obtain ⟨i, hi, hplace, hfirst⟩ := place_of_covers h
  rw [letters, targets, List.append_assoc, List.append_assoc]
  constructor
  · refine List.mem_append_left _ (List.mem_flatMap.mpr ⟨r, hr, ?_⟩)
    exact List.mem_range'.mpr ⟨i, hi, by omega⟩
  · refine List.mem_append_left _ (List.mem_flatMap.mpr ⟨r, hr, ?_⟩)
    exact List.mem_range'.mpr ⟨i, hi, by rw [hplace]⟩

theorem capitals_cases_ascii {n : Nat} (h : n < 0x80) :
    (n ∈ letters ∧ ∀ m ∈ capitals n, m ∈ targets) ∨ capitals n = [n] := by
  rw [capitals_of_ascii h]
  split_ifs with hsmall
  · have hcovers : asciiRun.covers n = true := by
      simp [Run.covers, asciiRun, hsmall, Nat.mod_one]
    obtain ⟨hletter, htarget⟩ := mem_of_covers List.mem_cons_self hcovers
    have hcapital : asciiRun.target + (n - asciiRun.first) = n - 0x20 := by
      simp only [asciiRun]
      omega
    rw [hcapital] at htarget
    exact Or.inl ⟨hletter, List.forall_mem_singleton.mpr htarget⟩
  · exact Or.inr rfl

/-- A code point is a letter, or it is its own capital form. -/
theorem capitals_cases (n : Nat) :
    (n ∈ letters ∧ ∀ m ∈ capitals n, m ∈ targets) ∨ capitals n = [n] := by
  rcases Nat.lt_or_ge n 0x80 with hascii | hwide
  · exact capitals_cases_ascii hascii
  rw [capitals, if_neg (Nat.not_lt.mpr hwide)]
  rcases wideCapitals_cases n with ⟨r, hr, hcovers, h⟩ | ⟨m, hm, h⟩ | ⟨ms, hms, h⟩ | h
  · obtain ⟨hletter, htarget⟩ := mem_of_covers (List.mem_cons_of_mem _ hr) hcovers
    rw [h]
    exact Or.inl ⟨hletter, List.forall_mem_singleton.mpr htarget⟩
  · left
    rw [h, letters, targets]
    refine ⟨?_, List.forall_mem_singleton.mpr ?_⟩
    · exact List.mem_append_left _ (List.mem_append_right _ (List.mem_map_of_mem hm))
    · exact List.mem_append_left _ (List.mem_append_right _ (List.mem_map_of_mem hm))
  · left
    rw [h, letters, targets]
    refine ⟨List.mem_append_right _ (List.mem_map_of_mem hms), fun m hm => ?_⟩
    exact List.mem_append_right _ (List.mem_flatMap.mpr ⟨(n, ms), hms, hm⟩)
  · exact Or.inr h

theorem capitals_of_mem_capitals {n m : Nat} (h : m ∈ capitals n) : capitals m = [m] := by
  rcases capitals_cases n with ⟨_, htargets⟩ | hself
  · have hletter : m ∉ letters := disjoint_targets_letters (htargets m h)
    exact (capitals_cases m).resolve_left fun hm => hletter hm.1
  · rw [hself, List.mem_singleton] at h
    rw [h, hself]

end Uppercase

/-! ## Texts -/

theorem upperChar_of_mem_upperChar {c d : Char} (h : d ∈ upperChar c) : upperChar d = [d] := by
  have hcode : d.toNat ∈ Uppercase.capitals c.toNat := by
    rw [← map_toNat_upperChar]
    exact List.mem_map_of_mem h
  rw [upperChar, Uppercase.capitals_of_mem_capitals hcode, List.map_singleton, Char.ofNat_toNat]

theorem upperChars_eq_self {cs : List Char} (h : ∀ c ∈ cs, upperChar c = [c]) :
    upperChars cs = cs := by
  induction cs with
  | nil => rfl
  | cons c cs ih =>
      obtain ⟨hc, hcs⟩ := List.forall_mem_cons.mp h
      rw [upperChars_cons, hc, ih hcs]
      rfl

/-- The capital form of a capital form is itself. -/
theorem upper_upper (s : String) : upper (upper s) = upper s := by
  rw [upper, upper, String.toList_ofList, upperChars_eq_self]
  intro d hd
  obtain ⟨c, _, hc⟩ := List.mem_flatMap.mp hd
  exact upperChar_of_mem_upperChar hc

end Text

/-! ## Currencies that were reported -/

theorem Currency.normalise_normalise (raw : Option String) :
    normalise (some (normalise raw)) = normalise raw :=
  Text.upper_upper _

namespace Account

/-- The account with its currency as a snapshot reports it. -/
def reported (a : Account) : Account :=
  { a with currency := some a.currencyCode }

theorem reported_eq_of_ofAccount {a : Account} {s : Snapshot} (h : Snapshot.ofAccount a = .ok s) :
    a.reported = { a with currency := some s.currency } := by
  have hcopies := Snapshot.ofAccount_eq_ok_iff.mp h
  have hcode : s.currency = a.currencyCode :=
    Snapshot.eq_currencyCode_iff.mpr ⟨hcopies.currency, hcopies.noCurrency⟩
  rw [reported, hcode]

theorem Alike.refl (a : Account) : a.Alike a := ⟨rfl, rfl, rfl⟩

theorem alike_reported (a : Account) : a.reported.Alike a where
  id := rfl
  balance := rfl
  currency := Currency.normalise_normalise a.currency

end Account

/-- A currency that has been normalised stays as it is. So the rule on currencies answers the
same, a refusal with the same words, when the currency of either account or of both is
replaced by the one that its snapshot reports. -/
theorem reported_currency_settled :
    (∀ raw, Currency.normalise (some (Currency.normalise raw)) = Currency.normalise raw) ∧
    (∀ a s, Snapshot.ofAccount a = .ok s →
      a.reported = { a with currency := some s.currency }) ∧
    ∀ (debit credit : Account) (currency : String),
      Rule.oneCurrency debit.reported credit currency =
          Rule.oneCurrency debit credit currency ∧
        Rule.oneCurrency debit credit.reported currency =
          Rule.oneCurrency debit credit currency ∧
        Rule.oneCurrency debit.reported credit.reported currency =
          Rule.oneCurrency debit credit currency := by
  refine ⟨Currency.normalise_normalise, fun a s => Account.reported_eq_of_ofAccount, ?_⟩
  intro debit credit currency
  have hdebit := debit.alike_reported
  have hcredit := credit.alike_reported
  refine ⟨?_, ?_, ?_⟩
  · exact Rule.oneCurrency_eq_of_alike hdebit (.refl credit) currency
  · exact Rule.oneCurrency_eq_of_alike (.refl debit) hcredit currency
  · exact Rule.oneCurrency_eq_of_alike hdebit hcredit currency

/-- Its currency grows by a letter when it is normalised. -/
def sharpAccount : Account :=
  ⟨"A1", .number (.whole 5), some "ußd"⟩

theorem reported_currency_settled_sharpAccount :
    Snapshot.ofAccount sharpAccount = .ok ⟨"A1", .whole 5, .whole 5, "USSD"⟩ ∧
    sharpAccount.reported = { sharpAccount with currency := some "USSD" } ∧
    Rule.oneCurrency sharpAccount ⟨"A2", .null, some "uſd"⟩ "USD" =
      .error (.currenciesDiffer "USSD" "USD") ∧
    Rule.oneCurrency sharpAccount.reported ⟨"A2", .null, some "uſd"⟩ "USD" =
      .error (.currenciesDiffer "USSD" "USD") := by
  have hsnapshot : Snapshot.ofAccount sharpAccount =
      .ok ⟨"A1", .whole 5, .whole 5, "USSD"⟩ := by decide +kernel
  have hrule : Rule.oneCurrency sharpAccount ⟨"A2", .null, some "uſd"⟩ "USD" =
      .error (.currenciesDiffer "USSD" "USD") := by rfl
  obtain ⟨_, hreported, hsettled⟩ := reported_currency_settled
  exact ⟨hsnapshot, hreported _ _ hsnapshot, hrule, (hsettled _ _ _).1.trans hrule⟩

end Remittance
