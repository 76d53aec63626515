import Remittance.Process

/-!
# Validators

What is known of validators settles what they make of the schemas at hand, so any two of them
agree on payloads and on snapshots (`agree_request`, `agree_snapshot`). A payload is processed
alike with each of them (`process_eq_standard`).
-/

namespace Remittance

open Shape

namespace Validator

variable {V W : Validator}

/-- The validators make the same of every value. -/
def Agree (V W : Validator) {α : Type} (schema : Schema α) : Prop :=
  ∀ v, V.check schema v = W.check schema v

def AgreeOn (V W : Validator) {α : Type} (fields : Fields α) : Prop :=
  ∀ given, V.members fields given = W.members fields given

theorem agree_text (hV : V.Documented) (hW : W.Documented) : Agree V W .text := by
  intro v
  by_cases hv : ∃ s, v = .text s
  · obtain ⟨s, rfl⟩ := hv
    rw [hV.text, hW.text]
  · have htext : ∀ s, v ≠ .text s := fun s h => hv ⟨s, h⟩
    rw [hV.notText htext, hW.notText htext]

/-- What a balance is checked for is settled by its kind. -/
theorem agree_number (hV : V.Documented) (hW : W.Documented) : Agree V W Number.schema := by
  have hdouble {U : Validator} (hU : U.Documented) (x : Binary64) :
      U.check .integer (.number (.double x)) = .error [⟨[], .notInteger⟩] :=
    hU.notInteger fun n h => by cases h
  intro v
  by_cases hv : ∃ n, v = .number n
  · obtain ⟨n, rfl⟩ := hv
    cases n with
    | whole n => exact (hV.exactly _ _).trans (hW.exactly _ _).symm
    | double x =>
        cases hx : x.isFinite with
        | true =>
            exact (hV.second (hdouble hV x) (hV.finite hx)).trans
              (hW.second (hdouble hW x) (hW.finite hx)).symm
        | false =>
            exact (hV.neither (hdouble hV x) (hV.notFinite hx)).trans
              (hW.neither (hdouble hW x) (hW.notFinite hx)).symm
  · have hnumber : ∀ n, v ≠ .number n := fun n h => hv ⟨n, h⟩
    have hwhole : ∀ n, v ≠ .number (.whole n) := fun n => hnumber _
    exact (hV.neither (hV.notInteger hwhole) (hV.notNumber hnumber)).trans
      (hW.neither (hW.notInteger hwhole) (hW.notNumber hnumber)).symm

theorem agree_list (hV : V.Documented) (hW : W.Documented) {α : Type} {item : Schema α}
    (h : Agree V W item) : Agree V W (.list item) := by
  intro v
  by_cases hv : ∃ items, v = .list items
  · obtain ⟨items, rfl⟩ := hv
    rw [hV.list, hW.list]
    simp only [h _]
  · have hlist : ∀ items, v ≠ .list items := fun items h => hv ⟨items, h⟩
    rw [hV.notList _ hlist, hW.notList _ hlist]

theorem agreeOn_nil : AgreeOn V W .nil :=
  fun _ => rfl

theorem agreeOn_cons {α β : Type} {name : String} {schema : Schema α} {rest : Fields β}
    (h : Agree V W schema) (hrest : AgreeOn V W rest) : AgreeOn V W (.cons name schema rest) := by
  intro given
  have hcheck : V.check schema = W.check schema := funext h
  show Checked.both (Checked.member name ((Value.lookup name given).map (V.check schema)))
    (V.members rest given) = _
  rw [hcheck, hrest]
  rfl

theorem agree_record (hV : V.Documented) (hW : W.Documented) {α : Type} {kind : Record}
    {fields : Fields α} (h : AgreeOn V W fields) : Agree V W (.record kind fields) := by
  intro v
  by_cases hv : ∃ given, v = .object given
  · obtain ⟨given, rfl⟩ := hv
    rw [hV.record, hW.record, h]
  · have hobject : ∀ given, v ≠ .object given := fun given h => hv ⟨given, h⟩
    rw [hV.notRecord _ _ hobject, hW.notRecord _ _ hobject]

theorem agree_request (hV : V.Documented) (hW : W.Documented) : Agree V W Request.schema := by
  have htext := agree_text hV hW
  have haccount : Agree V W Account.schema :=
    agree_record hV hW
      (agreeOn_cons htext (agreeOn_cons (agree_number hV hW) (agreeOn_cons htext agreeOn_nil)))
  exact agree_record hV hW
    (agreeOn_cons (agree_list hV hW haccount) (agreeOn_cons htext agreeOn_nil))

theorem agree_snapshot (hV : V.Documented) (hW : W.Documented) : Agree V W Snapshot.schema := by
  have htext := agree_text hV hW
  have hnumber := agree_number hV hW
  exact agree_record hV hW (agreeOn_cons htext (agreeOn_cons hnumber (agreeOn_cons hnumber
    (agreeOn_cons htext agreeOn_nil))))

end Validator

/-! ## Processing -/

section

variable [V : Validator]

theorem Request.ofValue_eq_standard (hV : V.Documented) (payload : Value) :
    ofValue payload = @ofValue Validator.standard payload :=
  congrArg (Except.map ofData)
    (Validator.agree_request hV Validator.standard_documented payload)

theorem selectAccounts_eq_standard (hV : V.Documented) :
    selectAccounts = @selectAccounts Validator.standard := by
  have hsnapshot : Snapshot.ofAccount = @Snapshot.ofAccount Validator.standard :=
    funext fun a => congrArg (Except.map Snapshot.ofData)
      (Validator.agree_snapshot hV Validator.standard_documented _)
  funext accounts debitId creditId
  unfold selectAccounts Selection.ofIds
  rw [hsnapshot]

theorem evaluate_eq_standard (hV : V.Documented) :
    evaluate = @evaluate Validator.standard := by
  funext text accounts today
  simp only [evaluate, decideTokens, decideInstruction, selectAccounts_eq_standard hV]

/-- A payload is processed as with the standard validator. -/
theorem process_eq_standard (hV : V.Documented) (payload : Value) (today : Date) :
    process payload today = @process Validator.standard payload today := by
  unfold process readRequest
  rw [Request.ofValue_eq_standard hV, evaluate_eq_standard hV]

end

end Remittance
