import Remittance.Proofs.Recording

/-!
# The lines of a run

A run that stops has written lines before it (`lines`). Every line tells what became of a
text about accounts that passed the shape check, so an invariant that each verdict keeps
holds on all lines (`forall_mem_lines`). A run writes a line for every text unless the
shape check refuses what a line leaves behind, or a text about it is an unprintable payment
(`run_cases`).
-/

namespace Remittance

open Instruction

namespace Ledger

/-- The lines that are written before the instructions end or one of them has no verdict. -/
def lines (accounts : Value) (instructions : List Value) (today : Date) : List Entry :=
  match instructions with
  | [] => []
  | instruction :: rest =>
    match step accounts instruction today with
    | .error _ => []
    | .ok entry => entry :: lines (Request.accountsValue entry.accounts) rest today

/-- The accounts that a run leaves behind. -/
def closing (accounts : List Account) : List Entry → List Account
  | [] => accounts
  | entry :: entries => closing entry.accounts entries

theorem closing_of_forall {I : List Account → Prop} {accounts : List Account}
    {entries : List Entry} (hI : I accounts) (h : ∀ entry ∈ entries, I entry.accounts) :
    I (closing accounts entries) := by
  induction entries generalizing accounts with
  | nil => exact hI
  | cons entry entries ih =>
      obtain ⟨hentry, hrest⟩ := List.forall_mem_cons.mp h
      exact ih hentry hrest

/-- The line of an outcome. -/
def Entry.ofOutcome (accounts : List Account) (outcome : Outcome) : Entry where
  verdict := Verdict.ofOutcome outcome
  accounts := record accounts (Verdict.ofOutcome outcome).accounts

section

variable {accounts instruction : Value} {today : Date} {entry : Entry}

theorem lines_cons (rest : List Value) (h : step accounts instruction today = .ok entry) :
    lines accounts (instruction :: rest) today =
      entry :: lines (Request.accountsValue entry.accounts) rest today := by
  rw [lines, h]

theorem lines_stopped {failure : Failure} (rest : List Value)
    (h : step accounts instruction today = .error failure) :
    lines accounts (instruction :: rest) today = [] := by
  rw [lines, h]

theorem run_stopped {failure : Failure} (rest : List Value)
    (h : step accounts instruction today = .error failure) :
    run accounts (instruction :: rest) today = .error failure := by
  rw [run, h]
  rfl

theorem run_cons (rest : List Value) (h : step accounts instruction today = .ok entry) :
    run accounts (instruction :: rest) today =
      (run (Request.accountsValue entry.accounts) rest today).map (entry :: ·) := by
  rw [run, h]
  simp only [bind, Except.bind, pure, Except.pure]
  cases run (Request.accountsValue entry.accounts) rest today <;> rfl

/-- A run that comes to its end has one line for every instruction. -/
theorem run_eq_ok_iff {instructions : List Value} {entries : List Entry} :
    run accounts instructions today = .ok entries ↔
      entries = lines accounts instructions today ∧ entries.length = instructions.length := by
  induction instructions generalizing accounts entries with
  | nil =>
      rw [run, lines, Except.ok.injEq]
      constructor
      · rintro rfl
        exact ⟨rfl, rfl⟩
      · rintro ⟨rfl, _⟩
        rfl
  | cons instruction rest ih =>
      cases hstep : step accounts instruction today with
      | error failure =>
          rw [run, lines, hstep]
          constructor
          · rintro ⟨⟩
          · rintro ⟨rfl, ⟨⟩⟩
      | ok entry =>
          rw [run_cons rest hstep, lines_cons rest hstep, map_eq_ok_iff]
          simp only [ih]
          constructor
          · rintro ⟨entries, ⟨rfl, hlength⟩, rfl⟩
            exact ⟨rfl, congrArg Nat.succ hlength⟩
          · rintro ⟨rfl, hlength⟩
            exact ⟨_, ⟨rfl, Nat.succ.inj hlength⟩, rfl⟩

theorem step_refused {violations : List Shape.Violation} (text : String)
    (h : Request.accountsOf (some accounts) = .error violations) :
    step accounts (.text text) today = .error (.payload violations) := by
  unfold step readRequest
  rw [Request.ofValue_payload_refused text h]
  rfl

/-- A refused list has no lines, whatever the texts. -/
theorem lines_refused {violations : List Shape.Violation} (texts : List String)
    (h : Request.accountsOf (some accounts) = .error violations) :
    lines accounts (texts.map .text) today = [] := by
  cases texts with
  | nil => rfl
  | cons text texts => rw [List.map_cons, lines, step_refused text h]

end

variable {submitted : Value} {accounts : List Account} {today : Date}

/-- The line of a text against an accepted list records its verdict. -/
theorem step_eq_map (hlist : Request.accountsOf (some submitted) = .ok accounts) (text : String)
    (today : Date) : step submitted (.text text) today =
      (evaluate text accounts today).map fun v => ⟨v, record accounts v.accounts⟩ := by
  unfold step readRequest
  rw [Request.ofValue_payload text hlist]
  simp only [Except.mapError, bind, Except.bind]
  cases evaluate text accounts today <;> rfl

/-- One instruction against an accepted list yields one line, unless it is an unprintable
payment. -/
theorem step_cases (hlist : Request.accountsOf (some submitted) = .ok accounts)
    (text : String) (today : Date) :
    (∃ outcome, step submitted (.text text) today = .ok (.ofOutcome accounts outcome) ∧
      Decided accounts text today outcome ∧ ¬ UnprintableText accounts text) ∨
    step submitted (.text text) today = .error .unprintable ∧ UnprintableText accounts text := by
  rw [step_eq_map hlist]
  rcases evaluate_cases (Request.shaped_of_accountsOf hlist) text today with
    ⟨outcome, hevaluate, hdecided⟩ | ⟨hevaluate, hlong⟩
  · rw [hevaluate]
    exact Or.inl ⟨outcome, rfl, hdecided⟩
  · rw [hevaluate]
    exact Or.inr ⟨rfl, hlong⟩

/-- What every verdict about accepted accounts establishes and hands on holds on every
line. -/
theorem forall_mem_lines {I : List Account → Prop} {P : Entry → Prop}
    (hverdict : ∀ accounts text outcome, (∀ a ∈ accounts, a.Shaped) → I accounts →
      Decided accounts text today outcome →
        P (.ofOutcome accounts outcome) ∧ I (Entry.ofOutcome accounts outcome).accounts)
    (texts : List String) (hlist : Request.accountsOf (some submitted) = .ok accounts)
    (hI : I accounts) : ∀ entry ∈ lines submitted (texts.map .text) today, P entry := by
  induction texts generalizing submitted accounts with
  | nil => exact List.forall_mem_nil _
  | cons text texts ih =>
      rcases step_cases hlist text today with ⟨outcome, hstep, hdecided, _⟩ | ⟨hstep, _⟩
      swap
      · rw [List.map_cons, lines_stopped _ hstep]
        exact List.forall_mem_nil _
      obtain ⟨hP, hI'⟩ :=
        hverdict accounts text outcome (Request.shaped_of_accountsOf hlist) hI hdecided
      rw [List.map_cons, lines_cons _ hstep]
      refine List.forall_mem_cons.mpr ⟨hP, ?_⟩
      cases hnext : Request.accountsOf (some (Request.accountsValue
          (Entry.ofOutcome accounts outcome).accounts)) with
      | error violations =>
          rw [lines_refused texts hnext]
          exact List.forall_mem_nil _
      | ok accepted =>
          obtain ⟨rfl, _⟩ := Request.accountsOf_accountsValue_eq_ok_iff.mp hnext
          exact ih hnext hI'

/-- The run stops at a text that is an unprintable payment by then. -/
def StopsUnprintable (submitted : Value) (accounts : List Account) (texts : List String)
    (today : Date) : Prop :=
  run submitted (texts.map .text) today = .error .unprintable ∧
  ∃ text, texts[(lines submitted (texts.map .text) today).length]? = some text ∧
    UnprintableText (closing accounts (lines submitted (texts.map .text) today)) text

/-- The run stops at a list that the shape check refuses. -/
def StopsRefused (submitted : Value) (accounts : List Account) (texts : List String)
    (today : Date) : Prop :=
  ∃ violations, Request.accountsOf (some (Request.accountsValue
      (closing accounts (lines submitted (texts.map .text) today)))) = .error violations ∧
    run submitted (texts.map .text) today = .error (.payload violations)

/-- A run over texts writes a line for every one of them, unless it stops. -/
theorem run_cases (texts : List String) (today : Date)
    (hlist : Request.accountsOf (some submitted) = .ok accounts) :
    run submitted (texts.map .text) today = .ok (lines submitted (texts.map .text) today) ∨
    StopsRefused submitted accounts texts today ∨
    StopsUnprintable submitted accounts texts today := by
  unfold StopsRefused StopsUnprintable
  induction texts generalizing submitted accounts with
  | nil => exact Or.inl rfl
  | cons text texts ih =>
      rw [List.map_cons]
      rcases step_cases hlist text today with ⟨outcome, hstep, _⟩ | ⟨hstep, hlong⟩
      swap
      · rw [run_stopped _ hstep, lines_stopped _ hstep]
        exact Or.inr (Or.inr ⟨rfl, text, rfl, hlong⟩)
      rw [run_cons _ hstep, lines_cons _ hstep, closing, List.length_cons,
        List.getElem?_cons_succ]
      cases hnext : Request.accountsOf (some (Request.accountsValue
          (Entry.ofOutcome accounts outcome).accounts)) with
      | error violations =>
          rw [lines_refused texts hnext]
          cases texts with
          | nil => exact Or.inl rfl
          | cons next texts =>
              rw [List.map_cons, run_stopped _ (step_refused next hnext)]
              exact Or.inr (Or.inl ⟨violations, hnext, rfl⟩)
      | ok accepted =>
          obtain ⟨rfl, _⟩ := Request.accountsOf_accountsValue_eq_ok_iff.mp hnext
          rcases ih hnext with hrun | ⟨violations, hrefused, hrun⟩ | ⟨hrun, hstops⟩
          · rw [hrun]
            exact Or.inl rfl
          · rw [hrun]
            exact Or.inr (Or.inl ⟨violations, hrefused, rfl⟩)
          · rw [hrun]
            exact Or.inr (Or.inr ⟨rfl, hstops⟩)

/-- When the debts can be written, only a refused list stops a run. -/
theorem run_eq_lines_or_refused (texts : List String) (today : Date)
    (hlist : Request.accountsOf (some submitted) = .ok accounts)
    (hdebts : ∀ a ∈ accounts, a.ShortDebt) :
    run submitted (texts.map .text) today = .ok (lines submitted (texts.map .text) today) ∨
    StopsRefused submitted accounts texts today := by
  have hclosing : ∀ a ∈ closing accounts (lines submitted (texts.map .text) today),
      a.ShortDebt := by
    refine closing_of_forall (I := fun accounts => ∀ a ∈ accounts, a.ShortDebt) hdebts ?_
    exact forall_mem_lines (I := fun accounts => ∀ a ∈ accounts, a.ShortDebt)
      (fun _ _ _ _ hdebts hdecided =>
        ⟨shortDebt_record hdebts hdecided, shortDebt_record hdebts hdecided⟩) texts hlist hdebts
  rcases run_cases texts today hlist with hrun | hrefused | ⟨_, text, _, hlong⟩
  · exact Or.inl hrun
  · exact Or.inr hrefused
  · exact absurd hlong (not_unprintableText hclosing text)

/-- A list stops a run over texts exactly when a line but the last leaves accounts behind
that are not shaped. -/
theorem exists_run_refused_iff (texts : List String) (today : Date)
    (hlist : Request.accountsOf (some submitted) = .ok accounts) :
    (∃ violations, run submitted (texts.map .text) today = .error (.payload violations)) ↔
      ∃ entry ∈ (lines submitted (texts.map .text) today).take (texts.length - 1),
        ¬ ∀ a ∈ entry.accounts, a.Shaped := by
  induction texts generalizing submitted accounts with
  | nil => exact iff_of_false nofun (by simp [lines])
  | cons text texts ih =>
      rw [List.map_cons]
      rcases step_cases hlist text today with ⟨outcome, hstep, _⟩ | ⟨hstep, _⟩
      swap
      · rw [run_stopped _ hstep, lines_stopped _ hstep]
        exact iff_of_false nofun (by simp)
      rw [run_cons _ hstep, lines_cons _ hstep]
      cases texts with
      | nil => exact iff_of_false nofun (by simp)
      | cons next texts =>
          rw [show (text :: next :: texts).length - 1 = (next :: texts).length - 1 + 1 from rfl,
            List.take_succ_cons, List.exists_mem_cons_iff]
          cases hnext : Request.accountsOf (some (Request.accountsValue
              (Entry.ofOutcome accounts outcome).accounts)) with
          | error violations =>
              refine iff_of_true ⟨violations, ?_⟩ (Or.inl fun hshaped => ?_)
              · rw [List.map_cons, run_stopped _ (step_refused next hnext)]
                rfl
              · rw [Request.accountsOf_accountsValue hshaped] at hnext
                cases hnext
          | ok accepted =>
              obtain ⟨rfl, hshaped⟩ := Request.accountsOf_accountsValue_eq_ok_iff.mp hnext
              rw [or_iff_right (not_not_intro hshaped), ← ih hnext]
              cases run (Request.accountsValue (Entry.ofOutcome accounts outcome).accounts)
                ((next :: texts).map .text) today <;> simp [Except.map]

/-- A run over texts whose debts can be written comes to its end or to a refused list. -/
theorem exists_run_iff (texts : List String) (today : Date)
    (hlist : Request.accountsOf (some submitted) = .ok accounts)
    (hdebts : ∀ a ∈ accounts, a.ShortDebt) :
    (∃ entries, run submitted (texts.map .text) today = .ok entries) ↔
      ¬ ∃ violations, run submitted (texts.map .text) today = .error (.payload violations) := by
  rcases run_eq_lines_or_refused texts today hlist hdebts with hrun | ⟨violations, _, hrun⟩
  · rw [hrun]
    exact iff_of_true ⟨_, rfl⟩ nofun
  · rw [hrun]
    exact iff_of_false nofun (not_not_intro ⟨violations, rfl⟩)

end Ledger

end Remittance
