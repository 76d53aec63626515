import Remittance.Proofs.Reporting

/-!
# What the day changes

A sentence is read and the rules are checked without a look at the day. Only the timing of
a payment that keeps the rules depends on it (`evaluate_eq_or_payable`), and as days pass
that turns from later to now and never back (`ofDate_eq_later_of_le`). So the verdict on a
payload changes on one day at most, from pending to successful (`process_ages`).
-/

namespace Remittance

open Instruction

/-! ## Days -/

namespace Date

instance : LE Date where
  le a b := a < b ∨ a = b

theorem lt_iff {a b : Date} : a < b ↔ a.year < b.year ∨ a.year = b.year ∧
    (a.month < b.month ∨ a.month = b.month ∧ a.day < b.day) :=
  Iff.rfl

theorem lt_of_le_of_lt {a b c : Date} (hab : a ≤ b) (hbc : b < c) : a < c := by
  rcases hab with hab | rfl
  · rw [lt_iff] at hab hbc ⊢
    omega
  · exact hbc

theorem le_of_not_lt {a b : Date} (h : ¬ b < a) : a ≤ b := by
  by_cases hab : a < b
  · exact Or.inl hab
  · rw [lt_iff] at h hab
    obtain ⟨year, month, day, _⟩ := a
    obtain ⟨year', month', day', _⟩ := b
    dsimp only at h hab
    obtain ⟨rfl, rfl, rfl⟩ : year = year' ∧ month = month' ∧ day = day' := by omega
    exact Or.inr rfl

end Date

namespace Timing

variable {date : Option Date} {earlier later : Date}

/-- What waits on a day has waited on every day before it. -/
theorem ofDate_eq_later_of_le (hle : earlier ≤ later)
    (h : ofDate (date.map Date.text) later = .later) :
    ofDate (date.map Date.text) earlier = .later := by
  obtain ⟨d, hd, hlt⟩ := ofDate_eq_later_iff.mp h
  exact ofDate_eq_later_iff.mpr ⟨d, hd, Date.lt_of_le_of_lt hle hlt⟩

/-- A timing that differs between two days has turned from later to now. -/
theorem ofDate_of_ne (hle : earlier ≤ later)
    (hne : ofDate (date.map Date.text) earlier ≠ ofDate (date.map Date.text) later) :
    ofDate (date.map Date.text) earlier = .later ∧ ofDate (date.map Date.text) later = .now := by
  cases hlater : ofDate (date.map Date.text) later with
  | later =>
      rw [ofDate_eq_later_of_le hle hlater, hlater] at hne
      exact absurd rfl hne
  | now =>
      cases hearlier : ofDate (date.map Date.text) earlier with
      | later => exact ⟨rfl, rfl⟩
      | now =>
          rw [hearlier, hlater] at hne
          exact absurd rfl hne

end Timing

/-! ## One sentence on two days -/

section

variable {accounts : List Account}

/-- On two days an instruction has one outcome, unless it is a payment that keeps the
rules and that waits on one of them only. -/
theorem decideInstruction_eq_or_payable (hshaped : ∀ a ∈ accounts, a.Shaped) (i : Instruction)
    (today today' : Date) :
    decideInstruction i accounts today = decideInstruction i accounts today' ∨
    (∃ debit credit, Payable accounts i debit credit) ∧
      Timing.ofDate (i.executeBy.map Date.text) today ≠
        Timing.ofDate (i.executeBy.map Date.text) today' := by
  by_cases htiming : Timing.ofDate (i.executeBy.map Date.text) today =
      Timing.ofDate (i.executeBy.map Date.text) today'
  · left
    unfold decideInstruction
    rw [htiming]
  · obtain ⟨snapshots, hselect, _⟩ :=
      selectAccounts_eq_ok hshaped (some i.debitAccount) (some i.creditAccount)
    have hfollows := Rule.check_follows (i := i) hshaped
    unfold decideInstruction
    rw [hselect]
    simp only [bind, Except.bind]
    cases hcheck : Rule.check i (Account.find? accounts (some i.debitAccount))
        (Account.find? accounts (some i.creditAccount)) with
    | error refusal => exact Or.inl rfl
    | ok _ =>
        rw [hcheck] at hfollows
        exact Or.inr ⟨exists_payable_of_clear hfollows, htiming⟩

theorem evaluate_eq_or_payable (hshaped : ∀ a ∈ accounts, a.Shaped) (text : String)
    (today today' : Date) :
    evaluate text accounts today = evaluate text accounts today' ∨
    ∃ i debit credit, ofText? text = some (.ok i) ∧ Payable accounts i debit credit ∧
      Timing.ofDate (i.executeBy.map Date.text) today ≠
        Timing.ofDate (i.executeBy.map Date.text) today' := by
  rw [evaluate, evaluate, sentenceTokens_eq_tokens]
  unfold decideTokens
  cases hkind : kindOf? (tokens text) with
  | none => exact Or.inl rfl
  | some kind =>
      dsimp only
      cases hread : ofTokens kind (tokens text) with
      | error fault => exact Or.inl rfl
      | ok i =>
          have htext : ofText? text = some (.ok i) :=
            ofText?_eq_some_iff.mpr ⟨kind, kindOf?_eq_some_iff.mp hkind, hread⟩
          rcases decideInstruction_eq_or_payable hshaped i today today' with
            heq | ⟨⟨debit, credit, hpay⟩, htiming⟩
          · left
            dsimp only
            rw [heq]
          · exact Or.inr ⟨i, debit, credit, htext, hpay, htiming⟩

end

/-! ## Verdicts on two days -/

/-- The snapshots show one account as it was. Their balances may differ. -/
structure Snapshot.SameBefore (s t : Snapshot) : Prop where
  id : s.id = t.id
  currency : s.currency = t.currency
  balanceBefore : s.balanceBefore = t.balanceBefore

theorem Snapshot.Portrays.sameBefore {s t : Snapshot} {a : Account} (hs : s.Portrays a)
    (ht : t.Portrays a) : s.SameBefore t := by
  obtain ⟨text, htext, hcurrency⟩ := hs.currency
  obtain ⟨text', htext', hcurrency'⟩ := ht.currency
  obtain rfl : text = text' := Option.some.inj (htext.symm.trans htext')
  exact ⟨hs.id.trans ht.id.symm, hcurrency.trans hcurrency'.symm,
    Value.number.inj (hs.balanceBefore.symm.trans ht.balanceBefore)⟩

theorem sameBefore_of_portrays {snapshots snapshots' : List Snapshot} {accounts : List Account}
    (h : List.Forall₂ Snapshot.Portrays snapshots accounts)
    (h' : List.Forall₂ Snapshot.Portrays snapshots' accounts) :
    List.Forall₂ Snapshot.SameBefore snapshots snapshots' := by
  induction h generalizing snapshots' with
  | nil =>
      cases h'
      exact .nil
  | cons hs _ ih =>
      cases h' with
      | cons ht hrest => exact .cons (hs.sameBefore ht) (ih hrest)

/-- The verdicts are about one payment between the same accounts. -/
structure Verdict.SameTerms (v v' : Verdict) : Prop where
  kind : v.kind = v'.kind
  amount : v.amount = v'.amount
  currency : v.currency = v'.currency
  debitAccount : v.debitAccount = v'.debitAccount
  creditAccount : v.creditAccount = v'.creditAccount
  executeBy : v.executeBy = v'.executeBy
  accounts : List.Forall₂ Snapshot.SameBefore v.accounts v'.accounts

/-- What a verdict on one day may become on a later one. It stays as it is but for one
case: a payment that waited until its day takes place. -/
structure Verdict.AgesInto (v v' : Verdict) (earlier later : Date) : Prop where
  failed : v.status = .failed ∨ v'.status = .failed → v' = v
  successful : v.status = .successful → v' = v
  pending : v'.status = .pending → v' = v
  executed : v.status = .pending → v'.status = .successful →
    (∃ d : Date, v.executeBy = some d.text ∧ earlier < d ∧ d ≤ later) ∧ v.SameTerms v'

theorem Verdict.agesInto_self {v : Verdict} {earlier later : Date} :
    v.AgesInto v earlier later := by
  refine ⟨fun _ => rfl, fun _ => rfl, fun _ => rfl, fun hpending hsuccess => ?_⟩
  rw [hpending] at hsuccess
  cases hsuccess

/-- A verdict that has changed cannot change again. -/
theorem Verdict.AgesInto.eq_or_eq {v₁ v₂ v₃ : Verdict} {d₁ d₂ d₂' d₃ : Date}
    (h : v₁.AgesInto v₂ d₁ d₂) (h' : v₂.AgesInto v₃ d₂' d₃) : v₂ = v₁ ∨ v₃ = v₂ := by
  cases hstatus : v₂.status with
  | failed => exact Or.inl (h.failed (Or.inr hstatus))
  | pending => exact Or.inl (h.pending hstatus)
  | successful => exact Or.inr (h'.successful hstatus)

section

variable {accounts : List Account} {text : String} {earlier later : Date}
  {outcome outcome' : Outcome}

theorem Decided.sameBefore (h : Decided accounts text earlier outcome)
    (h' : Decided accounts text later outcome') (hshaped : ∀ a ∈ accounts, a.Shaped)
    {i : Instruction} (hread : ofText? text = some (.ok i)) :
    List.Forall₂ Snapshot.SameBefore (Verdict.ofOutcome outcome).accounts
      (Verdict.ofOutcome outcome').accounts := by
  have hkind := (sentence_of_ofText? hread).kind
  exact sameBefore_of_portrays (h.portrays_named hshaped hkind) (h'.portrays_named hshaped hkind)

/-- A payment that keeps the rules and waits on the earlier day only takes place. -/
theorem Decided.agesInto_of_payable (h : Decided accounts text earlier outcome)
    (h' : Decided accounts text later outcome') (hshaped : ∀ a ∈ accounts, a.Shaped)
    (hle : earlier ≤ later) {i : Instruction} {debit credit : Account}
    (hread : ofText? text = some (.ok i)) (hpay : Payable accounts i debit credit)
    (hne : Timing.ofDate (i.executeBy.map Date.text) earlier ≠
      Timing.ofDate (i.executeBy.map Date.text) later) :
    (Verdict.ofOutcome outcome).AgesInto (Verdict.ofOutcome outcome') earlier later := by
  have haccounts := h.sameBefore h' hshaped hread
  obtain ⟨hearlier, hlater⟩ := Timing.ofDate_of_ne hle hne
  rw [Timing.ofDate_eq_later_iff] at hearlier
  rw [Timing.ofDate_eq_now_iff] at hlater
  obtain ⟨_, _, _, _, ⟨_, rfl⟩ | ⟨hnow, _⟩⟩ := h.accepted_of_payable hread hpay
  · obtain ⟨_, _, _, _, ⟨⟨d, hdate, hlt⟩, _⟩ | ⟨_, _, _, _, _, rfl⟩⟩ :=
      h'.accepted_of_payable hread hpay
    · exact absurd hlt (hlater d hdate)
    · -- the first verdict is pending and the second one successful
      refine ⟨nofun, nofun, nofun, fun _ _ => ⟨?_, rfl, rfl, rfl, rfl, rfl, rfl, haccounts⟩⟩
      obtain ⟨d, hdate, hlt⟩ := hearlier
      refine ⟨d, ?_, hlt, Date.le_of_not_lt (hlater d hdate)⟩
      exact congrArg (Option.map Date.text) hdate
  · obtain ⟨d, hdate, hlt⟩ := hearlier
    exact absurd hlt (hnow d hdate)

theorem Decided.agesInto (h : Decided accounts text earlier outcome)
    (h' : Decided accounts text later outcome') (hshaped : ∀ a ∈ accounts, a.Shaped)
    (hevaluate : evaluate text accounts earlier = .ok (Verdict.ofOutcome outcome))
    (hevaluate' : evaluate text accounts later = .ok (Verdict.ofOutcome outcome'))
    (hle : earlier ≤ later) :
    (Verdict.ofOutcome outcome).AgesInto (Verdict.ofOutcome outcome') earlier later := by
  rcases evaluate_eq_or_payable hshaped text earlier later with
    heq | ⟨i, debit, credit, hread, hpay, hne⟩
  · rw [hevaluate, hevaluate'] at heq
    rw [Except.ok.inj heq]
    exact Verdict.agesInto_self
  · exact h.agesInto_of_payable h' hshaped hle hread hpay hne

end

/-- A payload of the right shape has a verdict on every day, or on none, for a balance too
long to be written. From one day to a later one the verdict is the same, or it was pending,
and is successful once the day of execution has come, with the same terms. Among three days
there is at most one change. -/
theorem process_ages (payload : Value) (request : Request)
    (hshape : Request.ofValue payload = .ok request) :
    (∃ verdict : Date → Verdict, (∀ today, process payload today = .ok (verdict today)) ∧
      (∀ earlier later, earlier ≤ later →
        (verdict earlier).AgesInto (verdict later) earlier later) ∧
      ∀ first second third, first ≤ second → second ≤ third →
        verdict second = verdict first ∨ verdict third = verdict second) ∨
    UnprintableText request.accounts request.instruction ∧
      ∀ today, process payload today = .error .unprintable := by
  have hshaped := Request.shaped_of_ofValue hshape
  by_cases hlong : UnprintableText request.accounts request.instruction
  · refine Or.inr ⟨hlong, fun today => ?_⟩
    rcases process_cases hshape today with ⟨_, _, _, hnot⟩ | ⟨herror, _⟩
    · exact absurd hlong hnot
    · exact herror
  left
  have hcases : ∀ today, ∃ outcome,
      evaluate request.instruction request.accounts today = .ok (Verdict.ofOutcome outcome) ∧
      Decided request.accounts request.instruction today outcome := by
    intro today
    rcases evaluate_cases hshaped request.instruction today with
      ⟨outcome, hevaluate, hdecided, _⟩ | ⟨_, hlong'⟩
    · exact ⟨outcome, hevaluate, hdecided⟩
    · exact absurd hlong' hlong
  choose outcome hevaluate hdecided using hcases
  have hages : ∀ earlier later, earlier ≤ later →
      (Verdict.ofOutcome (outcome earlier)).AgesInto (Verdict.ofOutcome (outcome later))
        earlier later :=
    fun earlier later hle => (hdecided earlier).agesInto (hdecided later) hshaped
      (hevaluate earlier) (hevaluate later) hle
  refine ⟨fun today => Verdict.ofOutcome (outcome today), ?_, hages, ?_⟩
  · intro today
    exact (process_eq_evaluate hshape today).trans (hevaluate today)
  · intro first second third hfirst hsecond
    exact (hages first second hfirst).eq_or_eq (hages second third hsecond)

/-- The payment of `debitRequest` waits on the last of January and takes place on the first
of February. -/
theorem process_ages_debitRequest :
    Request.ofValue debitRequest.toValue = .ok debitRequest ∧
    ∃ verdict : Date → Verdict,
      (∀ today, process debitRequest.toValue today = .ok (verdict today)) ∧
      (∀ earlier later, earlier ≤ later →
        (verdict earlier).AgesInto (verdict later) earlier later) ∧
      (∀ first second third, first ≤ second → second ≤ third →
        verdict second = verdict first ∨ verdict third = verdict second) ∧
      (verdict ⟨2026, 1, 31, by decide⟩).status = .pending ∧
      (verdict ⟨2026, 2, 1, by decide⟩).status = .successful := by
  have hshaped : ∀ a ∈ debitRequest.accounts, a.Shaped := by decide +kernel
  have hshape : Request.ofValue debitRequest.toValue = .ok debitRequest :=
    Request.ofValue_toValue hshaped
  obtain ⟨verdict, hprocess, hages, hchange⟩ := (process_ages _ _ hshape).resolve_right
    fun hlong => not_unprintableText shortDebt_debitRequest _ hlong.1
  have hstatus : ∀ today status, (process debitRequest.toValue today).map Verdict.status =
      .ok status → (verdict today).status = status := by
    intro today status h
    rw [hprocess today] at h
    exact Except.ok.inj h
  refine ⟨hshape, verdict, hprocess, hages, hchange, hstatus _ _ ?_, hstatus _ _ ?_⟩
  · decide +kernel
  · decide +kernel

end Remittance
