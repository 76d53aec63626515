import Remittance.Proofs.WrittenNumber

/-!
# Written values

A value that is written is read back whole, whatever its texts hold: each character is read
as its own code unit, escaped or not (`readUnits?_escapeChar`), and the code units of a text
join to its characters again. The reader's fuel is spent by the characters that are written,
two units for each, and its depth by the lists and objects alone (`nesting`), so the mutual
induction over a value carries both bounds (`reads_value`). All values can be written but
those with a number that cannot (`exists_write?`).
-/

namespace Remittance

namespace Text

/-- The code points of a text are no halves of pairs, so none of them are joined. -/
theorem joinHalves_toNat (cs : List Char) : joinHalves (cs.map Char.toNat) = cs.map Char.toNat := by
  induction cs with
  | nil => rfl
  | cons c cs ih =>
      cases cs with
      | nil => rfl
      | cons d cs =>
          have hhigh : isHighHalf c.toNat = false := by
            have hc := isHalf_toNat c
            rw [isHalf, Bool.or_eq_false_iff] at hc
            exact hc.1
          rw [List.map_cons] at ih
          rw [List.map_cons, List.map_cons, joinHalves, hhigh, Bool.false_and,
            if_neg Bool.false_ne_true, ih]

end Text

namespace Json

open Text

/-! ## Texts -/

variable {lone : Option Char}

/-- Four written digits have the value of their number. -/
theorem hexQuad?_hexDigit {n : Nat} (h : n < 0x10000) :
    hexQuad? (hexDigit (n / 16 / 16 / 16 % 16)) (hexDigit (n / 16 / 16 % 16))
      (hexDigit (n / 16 % 16)) (hexDigit (n % 16)) = some n := by
  have hdigit (k : Nat) : hexValue? (hexDigit (k % 16)) = some (k % 16) :=
    hexValue?_hexDigit _ (Nat.mod_lt _ (by decide))
  have hvalue : ((n / 16 / 16 / 16 % 16 * 16 + n / 16 / 16 % 16) * 16 + n / 16 % 16) * 16 +
      n % 16 = n := by omega
  rw [hexQuad?, hdigit, hdigit, hdigit, hdigit]
  exact congrArg some hvalue

/-- A written character is read as its own code unit, whether it is escaped or not. -/
theorem readUnits?_escapeChar {c : Char} {cs rest : List Char} {ns : List Nat}
    (h : readUnits? cs = some (ns, rest)) :
    readUnits? (escapeChar c ++ cs) = some (c.toNat :: ns, rest) := by
  unfold escapeChar
  -- seven characters have an escape of one letter
  iterate 7
    split
    · rename_i hc
      subst hc
      simp [readUnits?, shortEscape?, h]
  split
  · rename_i hcontrol
    have hquad := hexQuad?_hexDigit (by omega : c.toNat < 0x10000)
    simp [hexDigits, readUnits?, hquad, h]
  · rename_i hquote hbackslash _ _ _ _ _ hcontrol
    have hspace : 0x20 ≤ c.toNat := Nat.le_of_not_lt hcontrol
    rw [List.singleton_append, readUnits?]
    · simp [hbackslash, hspace, h]
    · exact hquote
    · exact fun _ _ _ _ _ hc => absurd hc hbackslash
    · exact fun _ _ hc => absurd hc hbackslash

theorem readUnits?_written (cs rest : List Char) :
    readUnits? (cs.flatMap escapeChar ++ '"' :: rest) = some (cs.map Char.toNat, rest) := by
  induction cs with
  | nil => simp [readUnits?]
  | cons c cs ih =>
      rw [List.flatMap_cons, List.append_assoc]
      exact readUnits?_escapeChar ih

/-- A written text is read back behind its opening quote. -/
theorem readText_written (s : String) (rest : List Char) :
    readText lone (s.toList.flatMap escapeChar ++ '"' :: rest) = .ok (s, rest) := by
  rw [readText, readUnits?_written]
  dsimp only
  rw [joinHalves_toNat, ofPoints?_toNat]
  exact congrArg (fun text => Except.ok (text, rest)) String.ofList_toList

/-- A name is read back with the colon behind it, and so are the blanks that follow. -/
theorem readName_written (lone : Option Char) (s : String) {cs : List Char}
    (h : skipSpace cs = cs) :
    readName lone (writeText s.toList ++ ':' :: cs) = .ok (s, cs) := by
  have htext : writeText s.toList ++ ':' :: cs =
      '"' :: (s.toList.flatMap escapeChar ++ '"' :: ':' :: cs) := by
    simp [writeText]
  rw [htext, readName, readText_written]
  show Except.ok (s, skipSpace cs) = _
  rw [h]

/-! ## Values -/

mutual

/-- How deep the lists and objects of a value are nested. -/
def nesting : Value → Nat
  | .list items => nestingItems items + 1
  | .object members => nestingMembers members + 1
  | _ => 0

def nestingItems : List Value → Nat
  | [] => 0
  | item :: items => max (nesting item) (nestingItems items)

def nestingMembers : List (String × Value) → Nat
  | [] => 0
  | (_, member) :: members => max (nesting member) (nestingMembers members)

end

/-- The text is read as the value, with no more fuel than two units for each character and
whatever follows, unless a number would go on there. -/
def Reads (lone : Option Char) (depth : Nat) (cs : List Char) (v : Value) : Prop :=
  ∀ fuel rest, 2 * cs.length ≤ fuel → Numeral.Ends rest →
    readValue lone fuel depth (cs ++ rest) = .ok (v, rest)

/-- A value does not begin with a blank, and not with a closing bracket either. -/
theorem starts_of_readValue {fuel depth : Nat} {cs : List Char} {p : Value × List Char}
    (h : readValue lone fuel depth cs = .ok p) :
    skipSpace cs = cs ∧ ∀ rest, cs ≠ ']' :: rest := by
  cases fuel with
  | zero => cases h
  | succ fuel =>
      cases cs with
      | nil => cases h
      | cons c cs =>
          constructor
          · have hc : isSpace c = false := by
              by_contra hspace
              simp only [isSpace, Bool.not_eq_false, Bool.or_eq_true, beq_iff_eq] at hspace
              obtain ((rfl | rfl) | rfl) | rfl := hspace <;> cases h
            simp [skipSpace, hc]
          · rintro rest ⟨⟩
            cases h

/-- A number that is read is read as a value, too. -/
theorem readValue_of_readNumber {cs : List Char} {p : Value × List Char}
    (h : readNumber cs = .ok p) (fuel depth : Nat) :
    readValue lone (fuel + 1) depth cs = .ok p := by
  have hatom : readAtom cs = .ok p := by
    unfold readAtom
    split
    all_goals first | exact h | cases h
  unfold readValue
  split
  all_goals first | exact hatom | cases h

theorem reads_number {x : Number} {cs : List Char} (h : writeNumber? x = some cs) (depth : Nat) :
    Reads lone depth cs (.number x) := by
  intro fuel rest hfuel hrest
  have hread := readNumber_writeNumber? h hrest
  cases fuel with
  | zero =>
      -- a number is not written with no characters at all
      have hcs : cs = [] := List.eq_nil_of_length_eq_zero (by omega)
      subst hcs
      cases readNumber_writeNumber? h Numeral.ends_nil
  | succ fuel => exact readValue_of_readNumber hread fuel depth

theorem reads_text (s : String) (depth : Nat) :
    Reads lone depth (writeText s.toList) (.text s) := by
  intro fuel rest hfuel _
  cases fuel with
  | zero => simp [writeText] at hfuel
  | succ fuel =>
      have htext : writeText s.toList ++ rest =
          '"' :: (s.toList.flatMap escapeChar ++ '"' :: rest) := by
        simp [writeText]
      rw [htext, readValue, readText_written]
      rfl

/-! The parts of a written list and of a written object. -/

theorem writeValue?_list_iff {item : Value} {items : List Value} {cs : List Char} :
    writeValue? (.list (item :: items)) = some cs ↔ ∃ head tail,
      writeValue? item = some head ∧ writeItems? items = some tail ∧
        '[' :: (head ++ tail) = cs := by
  simp [writeValue?, Option.bind_eq_some_iff]

theorem writeItems?_cons_iff {item : Value} {items : List Value} {cs : List Char} :
    writeItems? (item :: items) = some cs ↔ ∃ head tail,
      writeValue? item = some head ∧ writeItems? items = some tail ∧
        ',' :: (head ++ tail) = cs := by
  simp [writeItems?, Option.bind_eq_some_iff]

theorem writeValue?_object_iff {name : String} {member : Value}
    {members : List (String × Value)} {cs : List Char} :
    writeValue? (.object ((name, member) :: members)) = some cs ↔ ∃ head tail,
      writeValue? member = some head ∧ writeMembers? members = some tail ∧
        '\x7b' :: (writeText name.toList ++ ':' :: (head ++ tail)) = cs := by
  simp [writeValue?, Option.bind_eq_some_iff]

theorem writeMembers?_cons_iff {name : String} {member : Value}
    {members : List (String × Value)} {cs : List Char} :
    writeMembers? ((name, member) :: members) = some cs ↔ ∃ head tail,
      writeValue? member = some head ∧ writeMembers? members = some tail ∧
        ',' :: (writeText name.toList ++ ':' :: (head ++ tail)) = cs := by
  simp [writeMembers?, Option.bind_eq_some_iff]

/-- No number goes on behind an item or a member. -/
theorem ends_cons {c : Char} {cs : List Char} (h : c = ',' ∨ c = ']' ∨ c = '\x7d') :
    Numeral.Ends (c :: cs) := by
  rintro d ⟨⟩
  rcases h with rfl | rfl | rfl <;> decide

theorem ends_items {items : List Value} {tail : List Char} (h : writeItems? items = some tail)
    (rest : List Char) : Numeral.Ends (tail ++ rest) := by
  cases items with
  | nil =>
      cases h
      exact ends_cons (by decide)
  | cons item items =>
      obtain ⟨_, _, _, _, rfl⟩ := writeItems?_cons_iff.mp h
      exact ends_cons (by decide)

theorem ends_members {members : List (String × Value)} {tail : List Char}
    (h : writeMembers? members = some tail) (rest : List Char) :
    Numeral.Ends (tail ++ rest) := by
  cases members with
  | nil =>
      cases h
      exact ends_cons (by decide)
  | cons member members =>
      obtain ⟨_, _, _, _, rfl⟩ := writeMembers?_cons_iff.mp h
      exact ends_cons (by decide)

/-! The steps of the reader, each from what its parts have read. -/

theorem readItems_last {fuel depth : Nat} {cs rest : List Char} {item : Value}
    (h : readValue lone fuel depth cs = .ok (item, ']' :: rest)) :
    readItems lone (fuel + 1) depth cs = .ok ([item], rest) := by
  rw [readItems, h]
  rfl

theorem readItems_more {fuel depth : Nat} {cs more rest : List Char} {item : Value}
    {items : List Value} (h : readValue lone fuel depth cs = .ok (item, ',' :: more))
    (hmore : readItems lone fuel depth (skipSpace more) = .ok (items, rest)) :
    readItems lone (fuel + 1) depth cs = .ok (item :: items, rest) := by
  rw [readItems, h]
  show (readItems lone fuel depth (skipSpace more) >>= _) = _
  rw [hmore]
  rfl

theorem readValue_list {fuel depth : Nat} {cs rest : List Char} {items : List Value}
    (hblank : skipSpace cs = cs) (hopen : ∀ rest, cs ≠ ']' :: rest)
    (h : readItems lone fuel depth cs = .ok (items, rest)) :
    readValue lone (fuel + 1) (depth + 1) ('[' :: cs) = .ok (.list items, rest) := by
  rw [readValue, hblank]
  split
  · exact absurd rfl (hopen _)
  · rw [h]
    rfl

theorem readMembers_last {fuel depth : Nat} {cs after rest : List Char} {name : String}
    {member : Value} (hname : readName lone cs = .ok (name, after))
    (h : readValue lone fuel depth after = .ok (member, '\x7d' :: rest)) :
    readMembers lone (fuel + 1) depth cs = .ok ([(name, member)], rest) := by
  rw [readMembers, hname]
  show (readValue lone fuel depth after >>= _) = _
  rw [h]
  rfl

theorem readMembers_more {fuel depth : Nat} {cs after more rest : List Char} {name : String}
    {member : Value} {members : List (String × Value)}
    (hname : readName lone cs = .ok (name, after))
    (h : readValue lone fuel depth after = .ok (member, ',' :: more))
    (hmore : readMembers lone fuel depth (skipSpace more) = .ok (members, rest)) :
    readMembers lone (fuel + 1) depth cs = .ok ((name, member) :: members, rest) := by
  rw [readMembers, hname]
  show (readValue lone fuel depth after >>= _) = _
  rw [h]
  show (readMembers lone fuel depth (skipSpace more) >>= _) = _
  rw [hmore]
  rfl

theorem readValue_object {fuel depth : Nat} {cs rest : List Char}
    {members : List (String × Value)}
    (h : readMembers lone fuel depth ('"' :: cs) = .ok (members, rest)) :
    readValue lone (fuel + 1) (depth + 1) ('\x7b' :: '"' :: cs) = .ok (.object members, rest) := by
  have hblank : skipSpace ('"' :: cs) = '"' :: cs := rfl
  rw [readValue, hblank]
  show (readMembers lone fuel depth ('"' :: cs) >>= _) = _
  rw [h]
  rfl

/-- The empty text is read as nothing, so the first unit of fuel can be taken off. -/
theorem Reads.of_succ {depth : Nat} {c : Char} {cs : List Char} {v : Value}
    (h : ∀ fuel rest, 2 * cs.length < fuel → Numeral.Ends rest →
      readValue lone (fuel + 1) depth (c :: (cs ++ rest)) = .ok (v, rest)) :
    Reads lone depth (c :: cs) v := by
  intro fuel rest hfuel hrest
  rw [List.length_cons] at hfuel
  obtain ⟨fuel, rfl⟩ := Nat.exists_eq_succ_of_ne_zero (by omega : fuel ≠ 0)
  exact h fuel rest (by omega) hrest

mutual

/-- A value that is written is read back. -/
theorem reads_value : ∀ (v : Value) (depth : Nat) (cs : List Char),
    writeValue? v = some cs → nesting v ≤ depth → Reads lone depth cs v
  | .null, _, _, h, _ => by
      cases h
      exact .of_succ fun _ _ _ _ => rfl
  | .bool true, _, _, h, _ => by
      cases h
      exact .of_succ fun _ _ _ _ => rfl
  | .bool false, _, _, h, _ => by
      cases h
      exact .of_succ fun _ _ _ _ => rfl
  | .number x, depth, cs, h, _ => reads_number h depth
  | .text s, depth, _, h, _ => by
      cases h
      exact reads_text s depth
  | .list [], 0, _, _, hdepth => by simp [nesting] at hdepth
  | .list [], depth + 1, _, h, _ => by
      cases h
      exact .of_succ fun _ _ _ _ => rfl
  | .list (item :: items), 0, cs, h, hdepth => by simp [nesting] at hdepth
  | .list (item :: items), depth + 1, cs, h, hdepth => by
      obtain ⟨head, tail, hhead, htail, rfl⟩ := writeValue?_list_iff.mp h
      rw [nesting, nestingItems] at hdepth
      have hitem := reads_value item depth head hhead (by omega)
      apply Reads.of_succ
      intro fuel rest hfuel _
      rw [List.length_append] at hfuel
      have hitems := readItems_written items depth tail htail (by omega) hitem fuel rest hfuel
      have hstart := starts_of_readValue (hitem _ _ le_rfl (ends_items htail rest))
      rw [List.append_assoc]
      exact readValue_list hstart.1 hstart.2 hitems
  | .object [], 0, _, _, hdepth => by simp [nesting] at hdepth
  | .object [], depth + 1, _, h, _ => by
      cases h
      exact .of_succ fun _ _ _ _ => rfl
  | .object ((name, member) :: members), 0, cs, h, hdepth => by simp [nesting] at hdepth
  | .object ((name, member) :: members), depth + 1, cs, h, hdepth => by
      obtain ⟨head, tail, hhead, htail, rfl⟩ := writeValue?_object_iff.mp h
      rw [nesting, nestingMembers] at hdepth
      have hmember := reads_value member depth head hhead (by omega)
      apply Reads.of_succ
      intro fuel rest hfuel _
      have hmembers := readMembers_written members depth tail htail (by omega) name hmember fuel
        rest (by simp at hfuel; omega)
      have htext : writeText name.toList ++ ':' :: (head ++ tail) ++ rest =
          writeText name.toList ++ ':' :: (head ++ (tail ++ rest)) := by simp
      rw [htext]
      exact readValue_object hmembers

/-- The items behind one that is read back are read back, too. -/
theorem readItems_written : ∀ (items : List Value) (depth : Nat) (tail : List Char),
    writeItems? items = some tail → nestingItems items ≤ depth →
      ∀ {first : Value} {head : List Char}, Reads lone depth head first → ∀ fuel rest,
        2 * (head.length + tail.length) < fuel →
          readItems lone fuel depth (head ++ (tail ++ rest)) = .ok (first :: items, rest)
  | items, depth, tail, h, hdepth, first, head, hfirst, 0, rest, hfuel =>
      absurd hfuel (Nat.not_lt_zero _)
  | [], depth, tail, h, _, first, head, hfirst, fuel + 1, rest, hfuel => by
      have hread := hfirst fuel _ (by omega) (ends_items h rest)
      cases h
      exact readItems_last hread
  | item :: items, depth, tail, h, hdepth, first, head, hfirst, fuel + 1, rest, hfuel => by
      have hread := hfirst fuel _ (by omega) (ends_items h rest)
      obtain ⟨next, more, hnext, hmore, rfl⟩ := writeItems?_cons_iff.mp h
      rw [nestingItems] at hdepth
      have hitem := reads_value item depth next hnext (by omega)
      rw [List.length_cons, List.length_append] at hfuel
      have hitems := readItems_written items depth more hmore (by omega) hitem fuel rest (by omega)
      have hstart := starts_of_readValue (hitem _ _ le_rfl (ends_items hmore rest))
      rw [← hstart.1, ← List.append_assoc] at hitems
      exact readItems_more hread hitems

theorem readMembers_written : ∀ (members : List (String × Value)) (depth : Nat)
    (tail : List Char), writeMembers? members = some tail → nestingMembers members ≤ depth →
      ∀ (name : String) {first : Value} {head : List Char}, Reads lone depth head first →
        ∀ fuel rest, 2 * (head.length + tail.length) < fuel →
          readMembers lone fuel depth (writeText name.toList ++ ':' :: (head ++ (tail ++ rest))) =
            .ok ((name, first) :: members, rest)
  | members, depth, tail, h, hdepth, name, first, head, hfirst, 0, rest, hfuel =>
      absurd hfuel (Nat.not_lt_zero _)
  | [], depth, tail, h, _, name, first, head, hfirst, fuel + 1, rest, hfuel => by
      have hread := hfirst fuel _ (by omega) (ends_members h rest)
      have hname := readName_written lone name (starts_of_readValue hread).1
      cases h
      exact readMembers_last hname hread
  | (next, member) :: members, depth, tail, h, hdepth, name, first, head, hfirst, fuel + 1, rest,
      hfuel => by
      have hread := hfirst fuel _ (by omega) (ends_members h rest)
      have hname := readName_written lone name (starts_of_readValue hread).1
      obtain ⟨text, more, htext, hmore, rfl⟩ := writeMembers?_cons_iff.mp h
      rw [nestingMembers] at hdepth
      have hmember := reads_value member depth text htext (by omega)
      have hmembers := readMembers_written members depth more hmore (by omega) next hmember fuel
        rest (by simp at hfuel; omega)
      have htail : skipSpace (writeText next.toList ++ ':' :: (text ++ more) ++ rest) =
          writeText next.toList ++ ':' :: (text ++ (more ++ rest)) := by
        simp [writeText, skipSpace, isSpace]
      rw [← htail] at hmembers
      exact readMembers_more hname hread hmembers

end

mutual

/-- The numbers that stand in a value. -/
def numbers : Value → List Number
  | .number x => [x]
  | .list items => numbersOfItems items
  | .object members => numbersOfMembers members
  | _ => []

def numbersOfItems : List Value → List Number
  | [] => []
  | item :: items => numbers item ++ numbersOfItems items

def numbersOfMembers : List (String × Value) → List Number
  | [] => []
  | (_, member) :: members => numbers member ++ numbersOfMembers members

end

mutual

/-- A value can be written unless one of its numbers cannot. -/
theorem exists_writeValue? : ∀ (v : Value), (∀ x ∈ numbers v, Writable x) →
    ∃ cs, writeValue? v = some cs
  | .null, _ => ⟨_, rfl⟩
  | .bool _, _ => ⟨_, rfl⟩
  | .number x, h => by
      rw [numbers, List.forall_mem_singleton] at h
      exact Option.isSome_iff_exists.mp ((writeNumber?_isSome_iff x).mpr h)
  | .text _, _ => ⟨_, rfl⟩
  | .list [], _ => ⟨_, rfl⟩
  | .list (item :: items), h => by
      rw [numbers, numbersOfItems, List.forall_mem_append] at h
      obtain ⟨head, hhead⟩ := exists_writeValue? item h.1
      obtain ⟨tail, htail⟩ := exists_writeItems? items h.2
      exact ⟨_, writeValue?_list_iff.mpr ⟨head, tail, hhead, htail, rfl⟩⟩
  | .object [], _ => ⟨_, rfl⟩
  | .object ((_, member) :: members), h => by
      rw [numbers, numbersOfMembers, List.forall_mem_append] at h
      obtain ⟨head, hhead⟩ := exists_writeValue? member h.1
      obtain ⟨tail, htail⟩ := exists_writeMembers? members h.2
      exact ⟨_, writeValue?_object_iff.mpr ⟨head, tail, hhead, htail, rfl⟩⟩

theorem exists_writeItems? : ∀ (items : List Value), (∀ x ∈ numbersOfItems items, Writable x) →
    ∃ cs, writeItems? items = some cs
  | [], _ => ⟨_, rfl⟩
  | item :: items, h => by
      rw [numbersOfItems, List.forall_mem_append] at h
      obtain ⟨head, hhead⟩ := exists_writeValue? item h.1
      obtain ⟨tail, htail⟩ := exists_writeItems? items h.2
      exact ⟨_, writeItems?_cons_iff.mpr ⟨head, tail, hhead, htail, rfl⟩⟩

theorem exists_writeMembers? : ∀ (members : List (String × Value)),
    (∀ x ∈ numbersOfMembers members, Writable x) → ∃ cs, writeMembers? members = some cs
  | [], _ => ⟨_, rfl⟩
  | (_, member) :: members, h => by
      rw [numbersOfMembers, List.forall_mem_append] at h
      obtain ⟨head, hhead⟩ := exists_writeValue? member h.1
      obtain ⟨tail, htail⟩ := exists_writeMembers? members h.2
      exact ⟨_, writeMembers?_cons_iff.mpr ⟨head, tail, hhead, htail, rfl⟩⟩

end

end Json

end Remittance
