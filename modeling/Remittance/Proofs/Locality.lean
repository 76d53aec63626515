import Remittance.Proofs.Reporting

/-!
# What a verdict depends on

A verdict looks at a list of accounts only through the first accounts with the two ids
that its text names. Two lists whose first accounts with these ids hold the same in the
same currency (`SameFirst`) are answered alike (`evaluate_eq_of_sameFirst`), and so are
two lists that differ by accounts that no look-up finds (`Inserted`).
-/

namespace Remittance

open Instruction

namespace Instruction

/-- The ids in the places of the two accounts. A text of no kind has no such places. -/
def namedIds (text : String) : Set String :=
  { id | ∃ kind : Kind, Stands (tokens text) 0 kind.word ∧
      (payerToken kind (tokens text) = some id ∨ payeeToken kind (tokens text) = some id) }

theorem namedIds_of_ofText? {text : String} {i : Instruction}
    (h : ofText? text = some (.ok i)) : namedIds text = {i.debitAccount, i.creditAccount} := by
  have hkind := (sentence_of_ofText? h).kind
  obtain ⟨hpayer, hpayee⟩ := ids_of_ofText? hkind h
  ext id
  constructor
  · rintro ⟨kind, hkind', hid⟩
    rw [kind_unique hkind' hkind, hpayer, hpayee] at hid
    rcases hid with hid | hid
    · exact Or.inl (Option.some.inj hid).symm
    · exact Or.inr (Option.some.inj hid).symm
  · rintro (rfl | rfl)
    · exact ⟨i.kind, hkind, Or.inl hpayer⟩
    · exact ⟨i.kind, hkind, Or.inr hpayee⟩

end Instruction

/-! ## Accounts that cannot be told apart -/

/-- Neither list has an account with the id, or the first ones hold the same balance in
the same currency. -/
inductive SameFirst (accounts accounts' : List Account) (id : String) : Prop
  | unlisted (h : ∀ a ∈ accounts, a.id ≠ id) (h' : ∀ a ∈ accounts', a.id ≠ id)
  | listed {a a' : Account} (h : IsFirst accounts id a) (h' : IsFirst accounts' id a')
      (hbalance : a.balance = a'.balance) (hcurrency : a.currencyCode = a'.currencyCode)

/-- Two accounts that a verdict cannot tell apart. -/
structure Account.Alike (a b : Account) : Prop where
  id : a.id = b.id
  balance : a.balance = b.balance
  currency : a.currencyCode = b.currencyCode

theorem find?_eq_none_iff {accounts : List Account} {id : String} :
    Account.find? accounts (some id) = none ↔ ∀ a ∈ accounts, a.id ≠ id := by
  rw [Account.find?, Option.bind_some, List.find?_eq_none]
  simp only [beq_iff_eq, ne_eq]

section

variable {accounts accounts' : List Account}

theorem SameFirst.of_find?_eq {id : String}
    (h : Account.find? accounts (some id) = Account.find? accounts' (some id)) :
    SameFirst accounts accounts' id := by
  cases hfound : Account.find? accounts (some id) with
  | none =>
      have hfound' := h.symm.trans hfound
      exact .unlisted (find?_eq_none_iff.mp hfound) (find?_eq_none_iff.mp hfound')
  | some a =>
      have hfound' := h.symm.trans hfound
      exact .listed (find?_eq_some_iff_isFirst.mp hfound) (find?_eq_some_iff_isFirst.mp hfound')
        rfl rfl

/-- A look-up under an id finds accounts in both lists that cannot be told apart, or
finds none. -/
theorem find?_rel {id : Option String} (h : ∀ i ∈ id, SameFirst accounts accounts' i) :
    Option.Rel Account.Alike (Account.find? accounts id) (Account.find? accounts' id) := by
  cases id with
  | none => exact .none
  | some id =>
      cases h id rfl with
      | unlisted h h' =>
          rw [find?_eq_none_iff.mpr h, find?_eq_none_iff.mpr h']
          exact .none
      | listed h h' hbalance hcurrency =>
          rw [find?_eq_some_iff_isFirst.mpr h, find?_eq_some_iff_isFirst.mpr h']
          exact .some ⟨h.id_eq.trans h'.id_eq.symm, hbalance, hcurrency⟩

end

/-! ## The stages -/

section

variable {debit debit' credit credit' : Option Account}

theorem Snapshot.ofAccount_eq_of_alike {a b : Account} (h : a.Alike b) :
    ofAccount a = ofAccount b := by
  rw [ofAccount, ofAccount, h.id, h.balance, h.currency]

theorem Snapshot.mapM_ofAccount_eq (h : Option.Rel Account.Alike debit debit') :
    debit.mapM ofAccount = debit'.mapM ofAccount := by
  cases h with
  | none => rfl
  | some halike => rw [Option.mapM_some, Option.mapM_some, ofAccount_eq_of_alike halike]

theorem filter_rel (payer : Option String) (h : Option.Rel Account.Alike credit credit') :
    Option.Rel Account.Alike (credit.filter fun a => some a.id != payer)
      (credit'.filter fun a => some a.id != payer) := by
  cases h with
  | none => exact .none
  | @some a b halike =>
      rw [Option.filter_some, Option.filter_some, halike.id]
      split
      · exact .some halike
      · exact .none

namespace Rule

theorem oneCurrency_eq_of_alike {a a' b b' : Account} (ha : a.Alike a') (hb : b.Alike b')
    (currency : String) : oneCurrency a b currency = oneCurrency a' b' currency := by
  rw [oneCurrency, oneCurrency, ha.currency, hb.currency]

theorem enoughFunds_eq_of_alike {a a' : Account} (ha : a.Alike a') (amount : Int) :
    enoughFunds a amount = enoughFunds a' amount := by
  rw [enoughFunds, enoughFunds, ha.balance]

/-- The rules refuse accounts that cannot be told apart with the same words. -/
theorem check_eq_of_rel (i : Instruction) (hdebit : Option.Rel Account.Alike debit debit')
    (hcredit : Option.Rel Account.Alike credit credit') :
    check i debit credit = check i debit' credit' := by
  cases hdebit with
  | none =>
      cases hcredit with
      | none => rfl
      | some _ => rfl
  | some ha =>
      cases hcredit with
      | none => rfl
      | some hb =>
          unfold check bothFound
          simp only [bind, Except.bind]
          rw [oneCurrency_eq_of_alike ha hb, enoughFunds_eq_of_alike ha]

end Rule

end

section

variable {accounts accounts' : List Account} {payer payee : Option String}

theorem Selection.ofIds_eq_of_rel
    (hpayer : Option.Rel Account.Alike (Account.find? accounts payer)
      (Account.find? accounts' payer))
    (hpayee : Option.Rel Account.Alike (Account.find? accounts payee)
      (Account.find? accounts' payee)) :
    ofIds accounts' payer payee = (ofIds accounts payer payee).map fun selection =>
      ⟨Account.find? accounts' payer, Account.find? accounts' payee, selection.snapshots⟩ := by
  unfold ofIds
  dsimp only
  rw [Snapshot.mapM_ofAccount_eq hpayer, Snapshot.mapM_ofAccount_eq (filter_rel payer hpayee)]
  cases (Account.find? accounts' payer).mapM Snapshot.ofAccount with
  | error _ => rfl
  | ok s =>
      cases ((Account.find? accounts' payee).filter fun a => some a.id != payer).mapM
          Snapshot.ofAccount with
      | error _ => rfl
      | ok t => rfl

/-- Both lists yield a selection with the same snapshots. -/
theorem selectAccounts_eq_of_rel (hshaped : ∀ a ∈ accounts, a.Shaped)
    (hpayer : Option.Rel Account.Alike (Account.find? accounts payer)
      (Account.find? accounts' payer))
    (hpayee : Option.Rel Account.Alike (Account.find? accounts payee)
      (Account.find? accounts' payee)) :
    ∃ snapshots,
      selectAccounts accounts payer payee =
        .ok ⟨Account.find? accounts payer, Account.find? accounts payee, snapshots⟩ ∧
      selectAccounts accounts' payer payee =
        .ok ⟨Account.find? accounts' payer, Account.find? accounts' payee, snapshots⟩ := by
  obtain ⟨snapshots, hselect, _⟩ := Selection.ofIds_eq_ok hshaped payer payee
  refine ⟨snapshots, ?_, ?_⟩
  · rw [selectAccounts, hselect]
    rfl
  · rw [selectAccounts, Selection.ofIds_eq_of_rel hpayer hpayee, hselect]
    rfl

theorem decideInstruction_eq_of_rel (hshaped : ∀ a ∈ accounts, a.Shaped) (i : Instruction)
    (hpayer : Option.Rel Account.Alike (Account.find? accounts (some i.debitAccount))
      (Account.find? accounts' (some i.debitAccount)))
    (hpayee : Option.Rel Account.Alike (Account.find? accounts (some i.creditAccount))
      (Account.find? accounts' (some i.creditAccount))) (today : Date) :
    decideInstruction i accounts' today = decideInstruction i accounts today := by
  obtain ⟨snapshots, hselect, hselect'⟩ := selectAccounts_eq_of_rel hshaped hpayer hpayee
  unfold decideInstruction
  rw [hselect, hselect']
  simp only [bind, Except.bind]
  rw [Rule.check_eq_of_rel i hpayer hpayee]

/-- Lists whose first accounts with the named ids are the same are answered alike. -/
theorem evaluate_eq_of_sameFirst (hshaped : ∀ a ∈ accounts, a.Shaped) {text : String}
    (h : ∀ id ∈ namedIds text, SameFirst accounts accounts' id) (today : Date) :
    evaluate text accounts' today = evaluate text accounts today := by
  rw [evaluate, evaluate, sentenceTokens_eq_tokens]
  refine congrArg (Except.map Verdict.ofOutcome) ?_
  unfold decideTokens
  cases hkind : kindOf? (tokens text) with
  | none => rfl
  | some kind =>
      have hstands := kindOf?_eq_some_iff.mp hkind
      dsimp only
      cases hread : ofTokens kind (tokens text) with
      | ok i =>
          have hids := namedIds_of_ofText? (ofText?_eq_some_iff.mpr ⟨kind, hstands, hread⟩)
          rw [hids] at h
          refine decideInstruction_eq_of_rel hshaped i (find?_rel ?_) (find?_rel ?_) today
          · rintro _ ⟨⟩
            exact h _ (Or.inl rfl)
          · rintro _ ⟨⟩
            exact h _ (Or.inr rfl)
      | error fault =>
          -- a sentence that cannot be read still looks up the tokens in the places of the ids
          have hpayer : ∀ id ∈ payerToken kind (tokens text), SameFirst accounts accounts' id :=
            fun id hid => h id ⟨kind, hstands, Or.inl hid⟩
          have hpayee : ∀ id ∈ payeeToken kind (tokens text), SameFirst accounts accounts' id :=
            fun id hid => h id ⟨kind, hstands, Or.inr hid⟩
          obtain ⟨snapshots, hselect, hselect'⟩ :=
            selectAccounts_eq_of_rel hshaped (find?_rel hpayer) (find?_rel hpayee)
          dsimp only
          rw [payer_ofTokens, payee_ofTokens, hselect, hselect']
          rfl

end

/-! ## Accounts that no look-up finds -/

/-- The second list has one account more, which no look-up of the given ids finds: it has
another id, or it stands behind an account with its id. -/
inductive Inserted (ids : Set String) : List Account → List Account → Prop
  | intro (before after : List Account) (a : Account)
      (h : a.id ∈ ids → a.id ∈ before.map Account.id) :
      Inserted ids (before ++ after) (before ++ a :: after)

theorem Inserted.find?_eq {ids : Set String} {accounts accounts' : List Account}
    (h : Inserted ids accounts accounts') {id : String} (hid : id ∈ ids) :
    Account.find? accounts (some id) = Account.find? accounts' (some id) := by
  obtain ⟨before, after, a, hbehind⟩ := h
  simp only [Account.find?, Option.bind_some, List.find?_append]
  by_cases ha : a.id = id
  · subst ha
    obtain ⟨b, hb, hsame⟩ := List.mem_map.mp (hbehind hid)
    have hfound : (before.find? (·.id == a.id)).isSome = true := by
      rw [List.find?_isSome]
      exact ⟨b, hb, by simpa using hsame⟩
    rw [Option.or_of_isSome hfound, Option.or_of_isSome hfound]
  · rw [List.find?_cons_of_neg (by simpa using ha)]

/-- Accounts that no look-up finds may come and go. -/
theorem find?_eq_of_eqvGen {ids : Set String} {accounts accounts' : List Account}
    (h : Relation.EqvGen (Inserted ids) accounts accounts') {id : String} (hid : id ∈ ids) :
    Account.find? accounts (some id) = Account.find? accounts' (some id) := by
  induction h with
  | rel _ _ h => exact h.find?_eq hid
  | refl _ => rfl
  | symm _ _ _ ih => exact ih.symm
  | trans _ _ _ _ _ ih ih' => exact ih.trans ih'

/-- Payloads with one sentence have one verdict if, for either id that the sentence names,
both lists lack the id or their first accounts with it hold the same balance in the same
currency. This is so when accounts with other ids, or accounts behind the first one with
their id, are put in or taken out, and so also when they are changed or moved. Where one of
the payloads has no verdict, for a balance too long to be written, the other has none
either. -/
theorem process_eq_of_sameFirst (payload payload' : Value) (request request' : Request)
    (today : Date) (hshape : Request.ofValue payload = .ok request)
    (hshape' : Request.ofValue payload' = .ok request')
    (htext : request'.instruction = request.instruction) :
    ((∀ id ∈ namedIds request.instruction,
        SameFirst request.accounts request'.accounts id) →
      process payload' today = process payload today) ∧
    (Relation.EqvGen (Inserted (namedIds request.instruction))
        request.accounts request'.accounts →
      process payload' today = process payload today) ∧
    ((∃ verdict, process payload today = .ok verdict) ∨
      process payload today = .error .unprintable ∧
        UnprintableText request.accounts request.instruction) := by
  have hshaped := Request.shaped_of_ofValue hshape
  have hsame : (∀ id ∈ namedIds request.instruction,
      SameFirst request.accounts request'.accounts id) →
        process payload' today = process payload today := by
    intro h
    rw [process_eq_evaluate hshape', htext, evaluate_eq_of_sameFirst hshaped h,
      process_eq_evaluate hshape]
  refine ⟨hsame, fun h => ?_, exists_verdict_or_unprintable hshape today⟩
  exact hsame fun id hid => .of_find?_eq (find?_eq_of_eqvGen h hid)

/-- The accounts of `debitRequest` without the one that no look-up finds, behind one that
its sentence does not name. -/
def movedInRequest : Request where
  accounts := [⟨"B1", .number (.whole 1), some "GHS"⟩, ⟨"A1", .number (.whole 500), some "NGN"⟩,
    ⟨"A2", .number (.whole 50), some "ngn"⟩]
  instruction := debitRequest.instruction

theorem namedIds_debitRequest : namedIds debitRequest.instruction = {"A1", "A2"} := by
  have hread : ofText? debitRequest.instruction =
      some (.ok ⟨.debit, 100, .ngn, "A1", "A2", some ⟨2026, 2, 1, by decide⟩⟩) := by
    decide +kernel
  exact namedIds_of_ofText? hread

theorem process_eq_of_sameFirst_movedInRequest :
    Request.ofValue debitRequest.toValue = .ok debitRequest ∧
    Request.ofValue movedInRequest.toValue = .ok movedInRequest ∧
    movedInRequest.instruction = debitRequest.instruction ∧
    (∀ id ∈ namedIds debitRequest.instruction,
      SameFirst debitRequest.accounts movedInRequest.accounts id) ∧
    Relation.EqvGen (Inserted (namedIds debitRequest.instruction))
      debitRequest.accounts movedInRequest.accounts ∧
    ∃ verdict, process debitRequest.toValue ⟨2026, 1, 15, by decide⟩ = .ok verdict ∧
      process movedInRequest.toValue ⟨2026, 1, 15, by decide⟩ = .ok verdict := by
  have hshaped : ∀ a ∈ debitRequest.accounts, a.Shaped := by decide +kernel
  have hshaped' : ∀ a ∈ movedInRequest.accounts, a.Shaped := by decide +kernel
  have hshape : Request.ofValue debitRequest.toValue = .ok debitRequest :=
    Request.ofValue_payload _ (Request.accountsOf_accountsValue hshaped)
  have hshape' : Request.ofValue movedInRequest.toValue = .ok movedInRequest :=
    Request.ofValue_payload _ (Request.accountsOf_accountsValue hshaped')
  -- the last account goes out behind the first one with its id, another one comes in
  have hedits : Relation.EqvGen (Inserted (namedIds debitRequest.instruction))
      debitRequest.accounts movedInRequest.accounts := by
    refine .trans _ [⟨"A1", .number (.whole 500), some "NGN"⟩,
      ⟨"A2", .number (.whole 50), some "ngn"⟩] _ (.symm _ _ (.rel _ _ ?_)) (.rel _ _ ?_)
    · exact .intro [_, _] [] _ fun _ => List.mem_cons_self
    · refine .intro [] [_, _] _ fun hid => ?_
      rw [namedIds_debitRequest] at hid
      simp at hid
  have hsame : ∀ id ∈ namedIds debitRequest.instruction,
      SameFirst debitRequest.accounts movedInRequest.accounts id :=
    fun id hid => .of_find?_eq (find?_eq_of_eqvGen hedits hid)
  obtain ⟨hlike, _, ⟨verdict, hverdict⟩ | ⟨_, hlong⟩⟩ :=
    process_eq_of_sameFirst _ _ _ _ ⟨2026, 1, 15, by decide⟩ hshape hshape' rfl
  · exact ⟨hshape, hshape', rfl, hsame, hedits, verdict, hverdict, (hlike hsame).trans hverdict⟩
  · exact absurd hlong (not_unprintableText shortDebt_debitRequest _)

end Remittance
