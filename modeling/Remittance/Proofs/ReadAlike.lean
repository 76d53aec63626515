import Remittance.Proofs.Capitals
import Remittance.Proofs.Decision
import Remittance.Proofs.Spacing

/-!
# Sentences that read alike

A sentence is read at thirteen places. Eight words and the currency are read in capitals, and
the other fields as they are written. Two lists of tokens that no stage can tell apart there
(`ReadAlike`) get one verdict (`evaluate_eq_of_readAlike`). So nothing behind the thirteenth
token counts, nor do spaces and blanks between the tokens (`process_eq_of_firstTokens`), and
the case of letters counts in ids only (`process_eq_of_tokensButCase`).
-/

namespace Remittance

namespace Instruction

open Text

/-- No stage of reading can tell the two lists of tokens apart: not in the words that are
read in capitals, not in the fields that are taken as they are written, and not in whether a
date stands where it should be announced. -/
structure ReadAlike (tokens tokens' : List String) : Prop where
  words : ∀ place ∈ [0, 2, 3, 4, 6, 7, 8, 9],
    tokens[place]?.map upper = tokens'[place]?.map upper
  fields : ∀ place ∈ [1, 5, 10, 12], tokens[place]? = tokens'[place]?
  on : tokens[11]?.map upper = tokens'[11]?.map upper
  dated : looksLikeDate tokens[11]? = looksLikeDate tokens'[11]?

theorem checkKeywords_congr {slots : List Slot} {tokens tokens' : List String}
    (h : ∀ slot ∈ slots, tokens[slot.index]? = tokens'[slot.index]?) :
    checkKeywords slots tokens = checkKeywords slots tokens' := by
  have hmissing : missingKeywords slots tokens = missingKeywords slots tokens' := by
    rw [missingKeywords, missingKeywords]
    refine congrArg _ (List.filter_congr fun slot hslot => ?_)
    rw [decide_eq_decide, ← List.getElem?_eq_none_iff, ← List.getElem?_eq_none_iff, h slot hslot]
  have hwrong : mismatches slots tokens = mismatches slots tokens' := by
    rw [mismatches, mismatches]
    refine List.filterMap_congr fun slot hslot => ?_
    rw [h slot hslot]
  rw [checkKeywords, checkKeywords, hmissing, hwrong]

theorem readCurrency_congr {token token' : Option String} (h : token.map upper = token'.map upper) :
    readCurrency token = readCurrency token' := by
  have hnormalise (raw : Option String) : Currency.normalise raw = (raw.map upper).getD "" := by
    cases raw <;> rfl
  have hsame : Currency.normalise token = Currency.normalise token' := by
    rw [hnormalise, hnormalise, h]
  rw [readCurrency, readCurrency, Currency.read?, Currency.read?, hsame]

theorem readDate_congr {fields fields' : Fields}
    (hcount : fields.count < dateIndex ↔ fields'.count < dateIndex)
    (hon : fields.hasOn = fields'.hasOn) (hdate : fields.date = fields'.date)
    (hdated : looksLikeDate fields.on = looksLikeDate fields'.on) :
    readDate fields = readDate fields' := by
  rw [readDate, readDate, hon, hdate, hdated]
  by_cases hshort : fields.count < dateIndex
  · rw [if_pos hshort, if_pos (hcount.mp hshort)]
  · rw [if_neg hshort, if_neg (mt hcount.mpr hshort)]

namespace ReadAlike

variable {tokens tokens' : List String}

theorem kindOf?_eq (h : ReadAlike tokens tokens') : kindOf? tokens = kindOf? tokens' := by
  have hhead := h.words 0 (by decide)
  rw [← List.getElem?_map, ← List.getElem?_map, ← List.head?_eq_getElem?,
    ← List.head?_eq_getElem?] at hhead
  rw [kindOf?, kindOf?, Kind.detect?, Kind.detect?, hhead]

theorem checkKeywords_eq (h : ReadAlike tokens tokens') (kind : Kind) :
    checkKeywords kind.slots (tokens.map upper) = checkKeywords kind.slots (tokens'.map upper) := by
  have hplaces : ∀ slot ∈ kind.slots, slot.index ∈ [0, 2, 3, 4, 6, 7, 8, 9] := by
    cases kind <;> decide
  refine checkKeywords_congr fun slot hslot => ?_
  rw [List.getElem?_map, List.getElem?_map, h.words _ (hplaces slot hslot)]

/-- Both lists end before the place of the date, or neither does. -/
theorem length_lt_iff (h : ReadAlike tokens tokens') :
    tokens.length < 12 ↔ tokens'.length < 12 := by
  rw [Nat.lt_succ_iff, Nat.lt_succ_iff, ← List.getElem?_eq_none_iff, ← List.getElem?_eq_none_iff,
    ← Option.map_eq_none_iff (f := upper), h.on, Option.map_eq_none_iff]

theorem readDate_eq (h : ReadAlike tokens tokens') (kind : Kind) :
    readDate (Fields.ofTokens kind tokens) = readDate (Fields.ofTokens kind tokens') := by
  have hon : (Fields.ofTokens kind tokens).hasOn = (Fields.ofTokens kind tokens').hasOn := by
    rw [Bool.eq_iff_iff, hasOn_ofTokens_iff, hasOn_ofTokens_iff, Stands, Stands, h.on]
  exact readDate_congr h.length_lt_iff hon (h.fields 12 (by decide)) h.dated

theorem payerToken_eq (h : ReadAlike tokens tokens') (kind : Kind) :
    payerToken kind tokens = payerToken kind tokens' := by
  cases kind with
  | debit => exact h.fields 5 (by decide)
  | credit => exact h.fields 10 (by decide)

theorem payeeToken_eq (h : ReadAlike tokens tokens') (kind : Kind) :
    payeeToken kind tokens = payeeToken kind tokens' := by
  cases kind with
  | debit => exact h.fields 10 (by decide)
  | credit => exact h.fields 5 (by decide)

/-- The same is read, or the same fault is found. -/
theorem ofTokens_eq (h : ReadAlike tokens tokens') (kind : Kind) :
    ofTokens kind tokens = ofTokens kind tokens' := by
  have hamount : (Fields.ofTokens kind tokens).amount = (Fields.ofTokens kind tokens').amount :=
    h.fields 1 (by decide)
  have hcurrency : readCurrency (Fields.ofTokens kind tokens).currency =
      readCurrency (Fields.ofTokens kind tokens').currency :=
    readCurrency_congr (h.words 2 (by decide))
  unfold ofTokens
  simp only [h.checkKeywords_eq kind, h.readDate_eq kind, hamount, hcurrency, payer_ofTokens,
    payee_ofTokens, h.payerToken_eq kind, h.payeeToken_eq kind]

theorem decideTokens_eq (h : ReadAlike tokens tokens') (accounts : List Account) (today : Date) :
    decideTokens tokens accounts today = decideTokens tokens' accounts today := by
  unfold decideTokens
  rw [h.kindOf?_eq]
  cases kindOf? tokens' with
  | none => rfl
  | some kind =>
      dsimp only
      simp only [h.ofTokens_eq kind, payer_ofTokens, payee_ofTokens, h.payerToken_eq kind,
        h.payeeToken_eq kind]

end ReadAlike

end Instruction

open Instruction

theorem evaluate_eq_of_readAlike {text text' : String}
    (h : ReadAlike (tokens text) (tokens text')) (accounts : List Account) (today : Date) :
    evaluate text accounts today = evaluate text' accounts today := by
  rw [evaluate, evaluate, sentenceTokens_eq_tokens, sentenceTokens_eq_tokens,
    h.decideTokens_eq accounts today]

/-- Payloads with the same accounts and with sentences that read alike have one verdict. -/
theorem process_eq_of_readAlike {payload payload' : Value} {request request' : Request}
    (hshape : Request.ofValue payload = .ok request)
    (hshape' : Request.ofValue payload' = .ok request')
    (haccounts : request'.accounts = request.accounts)
    (h : ReadAlike (tokens request.instruction) (tokens request'.instruction)) (today : Date) :
    process payload' today = process payload today := by
  rw [process_eq_evaluate hshape, process_eq_evaluate hshape', haccounts,
    evaluate_eq_of_readAlike h request.accounts today]

/-! ## Behind the thirteenth token -/

namespace Instruction

open Text

/-- The first thirteen tokens are all that is read. -/
theorem ReadAlike.of_take {tokens tokens' : List String}
    (h : tokens.take 13 = tokens'.take 13) : ReadAlike tokens tokens' := by
  have hplace : ∀ place, place < 13 → tokens[place]? = tokens'[place]? := by
    intro place hlt
    rw [← List.getElem?_take_of_lt hlt, h, List.getElem?_take_of_lt hlt]
  have hwords : ∀ place ∈ [0, 2, 3, 4, 6, 7, 8, 9], place < 13 := by decide
  have hfields : ∀ place ∈ [1, 5, 10, 12], place < 13 := by decide
  have hon := hplace 11 (by decide)
  exact ⟨fun place hmem => congrArg _ (hplace place (hwords place hmem)),
    fun place hmem => hplace place (hfields place hmem), congrArg _ hon, congrArg _ hon⟩

/-- The second text has something more that no reading looks at: one more space beside a
space, blanks at an end, or a text behind a space after thirteen tokens. -/
inductive Idle : String → String → Prop
  | space (s t : String) : Idle (s ++ " " ++ t) (s ++ " " ++ " " ++ t)
  | leading (blanks s : String) (h : IsBlankText blanks) : Idle s (blanks ++ s)
  | trailing (s blanks : String) (h : IsBlankText blanks) : Idle s (s ++ blanks)
  | beyond (s t : String) (h : 13 ≤ (tokens s).length) : Idle s (s ++ " " ++ t)

theorem Idle.take_eq {s t : String} (h : Idle s t) : (tokens s).take 13 = (tokens t).take 13 := by
  cases h with
  | space s t =>
      have hblank : IsBlankText " " := by decide
      have hspace : tokens (s ++ " ") = tokens s := tokens_append_blanks hblank s
      rw [tokens_append_space, tokens_append_space, hspace]
  | leading blanks s h => rw [tokens_blanks_append h]
  | trailing s blanks h => rw [tokens_append_blanks h]
  | beyond s t h => rw [tokens_append_space, List.take_append_of_le_length h]

theorem take_eq_of_eqvGen {s t : String} (h : Relation.EqvGen Idle s t) :
    (tokens s).take 13 = (tokens t).take 13 := by
  induction h with
  | rel _ _ h => exact h.take_eq
  | refl _ => rfl
  | symm _ _ _ ih => exact ih.symm
  | trans _ _ _ _ _ ih ih' => exact ih.trans ih'

end Instruction

/-- What comes of a payload depends on the first thirteen tokens of its sentence, and the
blanks that are taken off before the text is cut hold none. So one more space beside another,
blanks at an end and whatever stands behind a space after the thirteenth token make no
difference: both payloads have the same verdict, or else neither has one, for a balance too
long to be written. -/
theorem process_eq_of_firstTokens (payload payload' : Value) (request request' : Request)
    (today : Date) (hshape : Request.ofValue payload = .ok request)
    (hshape' : Request.ofValue payload' = .ok request')
    (haccounts : request'.accounts = request.accounts) :
    (∀ text : String, tokens (Text.trim text) = tokens text) ∧
    ((tokens request.instruction).take 13 = (tokens request'.instruction).take 13 →
      process payload' today = process payload today) ∧
    (Relation.EqvGen Idle request.instruction request'.instruction →
      process payload' today = process payload today) ∧
    ((∃ verdict, process payload today = .ok verdict) ∨
      process payload today = .error .unprintable ∧
        UnprintableText request.accounts request.instruction) := by
  have hsame : (tokens request.instruction).take 13 = (tokens request'.instruction).take 13 →
      process payload' today = process payload today :=
    fun h => process_eq_of_readAlike hshape hshape' haccounts (.of_take h) today
  exact ⟨tokens_trim, hsame, fun h => hsame (take_eq_of_eqvGen h),
    exists_verdict_or_unprintable hshape today⟩

theorem shaped_debitRequest : ∀ a ∈ debitRequest.accounts, a.Shaped := by
  decide +kernel

/-- The sentence of `debitRequest` behind blanks, with a second space and an afterthought. -/
def looseRequest : Request where
  accounts := debitRequest.accounts
  instruction := "\t\u2003DEBIT  100 NGN FROM ACCOUNT A1 FOR CREDIT TO ACCOUNT A2 ON 2026-02-01 or so"

theorem process_eq_of_firstTokens_looseRequest :
    Request.ofValue debitRequest.toValue = .ok debitRequest ∧
    Request.ofValue looseRequest.toValue = .ok looseRequest ∧
    looseRequest.accounts = debitRequest.accounts ∧
    (tokens debitRequest.instruction).take 13 = (tokens looseRequest.instruction).take 13 ∧
    Relation.EqvGen Idle debitRequest.instruction looseRequest.instruction ∧
    ∃ verdict, process debitRequest.toValue ⟨2026, 1, 15, by decide⟩ = .ok verdict ∧
      process looseRequest.toValue ⟨2026, 1, 15, by decide⟩ = .ok verdict := by
  have hshape : Request.ofValue debitRequest.toValue = .ok debitRequest :=
    Request.ofValue_toValue shaped_debitRequest
  have hshape' : Request.ofValue looseRequest.toValue = .ok looseRequest :=
    Request.ofValue_toValue shaped_debitRequest
  have hblanks : IsBlankText "\t\u2003" := by decide
  have hbeyond : 13 ≤ (tokens debitRequest.instruction).length := by decide +kernel
  have hidle : Relation.EqvGen Idle debitRequest.instruction looseRequest.instruction := by
    refine .trans _ (debitRequest.instruction ++ " " ++ "or so") _
      (.rel _ _ (.beyond _ _ hbeyond)) ?_
    refine .trans _
      ("DEBIT" ++ " " ++ " " ++
        "100 NGN FROM ACCOUNT A1 FOR CREDIT TO ACCOUNT A2 ON 2026-02-01 or so") _
      (.rel _ _ ?_) (.rel _ _ ?_)
    · exact .space "DEBIT" "100 NGN FROM ACCOUNT A1 FOR CREDIT TO ACCOUNT A2 ON 2026-02-01 or so"
    · exact .leading "\t\u2003" _ hblanks
  obtain ⟨_, _, hlike, ⟨verdict, hverdict⟩ | ⟨_, hlong⟩⟩ := process_eq_of_firstTokens _ _ _ _
    ⟨2026, 1, 15, by decide⟩ hshape hshape' rfl
  · exact ⟨hshape, hshape', rfl, take_eq_of_eqvGen hidle, hidle, verdict, hverdict,
      (hlike hidle).trans hverdict⟩
  · exact absurd hlong (not_unprintableText shortDebt_debitRequest _)

/-! ## Letter case -/

namespace Text

/-- The texts differ at most in the case of ASCII letters. -/
def SameButCase (s t : String) : Prop :=
  s.toList.map Char.toLower = t.toList.map Char.toLower

instance (s t : String) : Decidable (SameButCase s t) :=
  inferInstanceAs (Decidable (s.toList.map Char.toLower = t.toList.map Char.toLower))

theorem upperChars_map_toLower (cs : List Char) :
    upperChars (cs.map Char.toLower) = upperChars cs := by
  induction cs with
  | nil => rfl
  | cons c cs ih => rw [List.map_cons, upperChars_cons, upperChars_cons, ih, upperChar_toLower]

theorem SameButCase.upper_eq {s t : String} (h : SameButCase s t) : upper s = upper t := by
  rw [upper, upper, ← upperChars_map_toLower, h, upperChars_map_toLower]

theorem SameButCase.length_eq {s t : String} (h : SameButCase s t) : s.length = t.length := by
  have hlength := congrArg List.length h
  rwa [List.length_map, List.length_map, String.length_toList, String.length_toList] at hlength

/-- The hyphen is no letter. -/
theorem toLower_eq_hyphen_iff {c : Char} : c.toLower = '-' ↔ c = '-' := by
  by_cases h : c.isUpper = true
  · have hrange := isUpper_iff_toNat.mp h
    have hyphen : '-'.toNat = 45 := rfl
    rw [← Char.toNat_inj, ← Char.toNat_inj, toNat_toLower h, hyphen]
    omega
  · rw [Char.toLower_eq_of_not_isUpper h]

theorem SameButCase.hyphen_iff {s t : String} (h : SameButCase s t) (place : Nat) :
    s.toList[place]? = some '-' ↔ t.toList[place]? = some '-' := by
  have hsmall (u : String) : u.toList[place]? = some '-' ↔
      (u.toList.map Char.toLower)[place]? = some '-' := by
    simp only [List.getElem?_map, Option.map_eq_some_iff, toLower_eq_hyphen_iff, exists_eq_right]
  rw [hsmall s, hsmall t, h]

end Text

namespace Instruction

open Text

theorem looksLikeDate_eq_of_sameButCase {s t : String} (h : SameButCase s t) :
    looksLikeDate (some s) = looksLikeDate (some t) := by
  rw [Bool.eq_iff_iff, looksLikeDate_iff, looksLikeDate_iff]
  simp only [LooksDated, Option.some.injEq, exists_eq_left', h.length_eq, h.hyphen_iff]

/-- The tokens are the same in the fields that are taken as they are written, have one
capital form in the words and in the currency, and differ at most in the case of ASCII
letters where a date is announced. -/
structure TokensButCase (tokens tokens' : List String) : Prop where
  length : tokens.length = tokens'.length
  fields : ∀ place ∈ [1, 5, 10, 12], tokens[place]? = tokens'[place]?
  words : ∀ place ∈ [0, 2, 3, 4, 6, 7, 8, 9],
    tokens[place]?.map upper = tokens'[place]?.map upper
  on : ∀ s ∈ tokens[11]?, ∀ t ∈ tokens'[11]?, SameButCase s t

/-- A list has no token in the place of the announcement, or both lists have one. -/
theorem TokensButCase.on_cases {tokens tokens' : List String} (h : TokensButCase tokens tokens') :
    (tokens[11]? = none ∧ tokens'[11]? = none) ∨
      ∃ s t, tokens[11]? = some s ∧ tokens'[11]? = some t ∧ SameButCase s t := by
  rcases Nat.lt_or_ge 11 tokens.length with hlong | hshort
  · have hs := List.getElem?_eq_getElem hlong
    have ht := List.getElem?_eq_getElem (h.length ▸ hlong)
    exact Or.inr ⟨_, _, hs, ht, h.on _ hs _ ht⟩
  · exact Or.inl ⟨List.getElem?_eq_none hshort, List.getElem?_eq_none (h.length ▸ hshort)⟩

theorem ReadAlike.of_tokensButCase {tokens tokens' : List String}
    (h : TokensButCase tokens tokens') : ReadAlike tokens tokens' := by
  rcases h.on_cases with ⟨hs, ht⟩ | ⟨s, t, hs, ht, hsame⟩
  · have hon : tokens[11]? = tokens'[11]? := hs.trans ht.symm
    exact ⟨h.words, h.fields, congrArg _ hon, congrArg _ hon⟩
  · refine ⟨h.words, h.fields, ?_, ?_⟩
    · rw [hs, ht, Option.map_some, Option.map_some, hsame.upper_eq]
    · rw [hs, ht]
      exact looksLikeDate_eq_of_sameButCase hsame

end Instruction

/-- The case of letters counts in the fields that are taken as they are written, and nowhere
else: neither for what is read nor for what is told about a sentence, nor for whether there is
a verdict at all. -/
theorem process_eq_of_tokensButCase (payload payload' : Value) (request request' : Request)
    (today : Date) (hshape : Request.ofValue payload = .ok request)
    (hshape' : Request.ofValue payload' = .ok request')
    (haccounts : request'.accounts = request.accounts)
    (h : TokensButCase (tokens request.instruction) (tokens request'.instruction)) :
    process payload' today = process payload today ∧
    ((∃ verdict, process payload today = .ok verdict) ∨
      process payload today = .error .unprintable ∧
        UnprintableText request.accounts request.instruction) :=
  ⟨process_eq_of_readAlike hshape hshape' haccounts (.of_tokensButCase h) today,
    exists_verdict_or_unprintable hshape today⟩

/-- A sentence in small letters, with a slip in the first keyword. -/
def mutteredRequest : Request where
  accounts := debitRequest.accounts
  instruction := "debit 100 ngn form account A1 for credit to account A2 on 2026-02-01"

/-- The sentence of `mutteredRequest` in capitals, but for its ids and a dotless `ı`. -/
def shoutedRequest : Request where
  accounts := debitRequest.accounts
  instruction := "DEBıT 100 NGN FORM ACCOUNT A1 FOR CREDIT TO ACCOUNT A2 ON 2026-02-01"

theorem process_eq_of_tokensButCase_mutteredRequest :
    Request.ofValue mutteredRequest.toValue = .ok mutteredRequest ∧
    Request.ofValue shoutedRequest.toValue = .ok shoutedRequest ∧
    shoutedRequest.accounts = mutteredRequest.accounts ∧
    TokensButCase (tokens mutteredRequest.instruction) (tokens shoutedRequest.instruction) ∧
    ∃ verdict, process mutteredRequest.toValue ⟨2026, 1, 15, by decide⟩ = .ok verdict ∧
      process shoutedRequest.toValue ⟨2026, 1, 15, by decide⟩ = .ok verdict := by
  have hshape : Request.ofValue mutteredRequest.toValue = .ok mutteredRequest :=
    Request.ofValue_toValue shaped_debitRequest
  have hshape' : Request.ofValue shoutedRequest.toValue = .ok shoutedRequest :=
    Request.ofValue_toValue shaped_debitRequest
  have hmuttered : tokens mutteredRequest.instruction =
      ["debit", "100", "ngn", "form", "account", "A1", "for", "credit", "to", "account", "A2",
        "on", "2026-02-01"] := by decide +kernel
  have hshouted : tokens shoutedRequest.instruction =
      ["DEBıT", "100", "NGN", "FORM", "ACCOUNT", "A1", "FOR", "CREDIT", "TO", "ACCOUNT", "A2",
        "ON", "2026-02-01"] := by decide +kernel
  have hcase : TokensButCase (tokens mutteredRequest.instruction)
      (tokens shoutedRequest.instruction) := by
    rw [hmuttered, hshouted]
    exact ⟨rfl, by decide +kernel, by decide +kernel, by decide +kernel⟩
  obtain ⟨hsame, ⟨verdict, hverdict⟩ | ⟨_, hlong⟩⟩ :=
    process_eq_of_tokensButCase _ _ _ _ ⟨2026, 1, 15, by decide⟩ hshape hshape' rfl hcase
  · exact ⟨hshape, hshape', rfl, hcase, verdict, hverdict, hsame.trans hverdict⟩
  · exact absurd hlong (not_unprintableText shortDebt_debitRequest _)

end Remittance
