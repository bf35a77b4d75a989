import ShiftMind.Store.ScheduleRun

/-!
# ShiftMind — the cancel command

`application/use_cases/cancel_schedule_run.py`, the route `POST /{run_id}/cancellation` of
`api/routers/schedule_runs.py` and the commit rule of `get_site_context`.

The command reads twice without a lock (`getRunState`, then the receipt) and then writes. Once its
first write has locked the job row no other transaction can touch the run, so the write phase
`cancelWrite` is atomic, while the two reads may be of older committed states.
-/

namespace ShiftMind

open Transactional ScheduleRunRepository

structure CancelCommand where
  runId : Uuid
  siteId : Uuid
  actorId : Uuid
  expectedResourceVersion : Int
  idempotencyKey : String
  deriving DecidableEq, Repr

namespace CancelCommand

/-- `_operation`. -/
def operation (cmd : CancelCommand) : String := s!"cancel_schedule_run:{cmd.runId}"

/-- `_body_hash`. -/
def bodyHash (env : Ambient) (cmd : CancelCommand) : String :=
  env.contractDigest
    [("run_id", .str (toString cmd.runId)),
      ("expected_resource_version", .int cmd.expectedResourceVersion)]

end CancelCommand

/-- The subclasses of `CancelScheduleRunError`, which the route turns into a response. -/
def cancelScheduleRunError : PyError → Bool
  | .cancelScheduleRun _ | .cancelIdempotencyKeyConflict _ | .cancelStaleResourceVersion _ _
  | .cancelRunNotCancellable _ => true
  | _ => false

/-- `_from_payload`. -/
def cancellationOfPayload : ResponsePayload → Except PyError ScheduleRunCancellationV1
  | .cancellation result => .ok result
  | _ => .error (.keyError "reason")

/-- The replay of a stored receipt, refused when it was stored for another body. -/
def replayCancellation (env : Ambient) (cmd : CancelCommand) (stored : CommandIdempotencyRow) :
    Except PyError ScheduleRunCancellationV1 :=
  if stored.bodyHash ≠ cmd.bodyHash env then
    .error (.cancelIdempotencyKeyConflict "idempotency key was already used with another body")
  else cancellationOfPayload stored.responsePayload

/-! ## The command -/

/-- `_resolve_lost_race`: decide what a compare-and-set that matched no row means. -/
def resolveLostRace (env : Ambient) (cmd : CancelCommand) (message : String) :
    DbTx (Option ScheduleRunCancellationV1) := do
  let replayed ← getIdempotentResult cmd.siteId cmd.actorId cmd.operation cmd.idempotencyKey
  match replayed with
  | some stored => some <$> Tx.lift (replayCancellation env cmd stored)
  | none =>
    let current ← getRunState cmd.runId cmd.siteId
    match current with
    | none => pure none
    | some current =>
      if current.resourceVersion ≠ cmd.expectedResourceVersion then
        throw (.cancelStaleResourceVersion cmd.expectedResourceVersion current.resourceVersion)
      else throw (.cancelRunNotCancellable message)

/-- The transition a cancellable status takes, and the result it reports. -/
def cancelStatement (env : Ambient) (cmd : CancelCommand) (state : ScheduleRunStateV1) :
    DbTx ScheduleRunCancellationV1 :=
  match state.status with
  | .solverQueued => do
    cancelQueuedRun env cmd.runId cmd.siteId cmd.actorId cmd.expectedResourceVersion
    pure ⟨cmd.runId, .solverCancelled, "cancelled", state.resourceVersion + 1, false⟩
  | .solverRunning => do
    requestCancellation env cmd.runId cmd.siteId cmd.actorId cmd.expectedResourceVersion
    pure ⟨cmd.runId, .cancellationRequested, "cancellation_requested", state.resourceVersion + 1,
      false⟩
  | _ => pure
      ⟨cmd.runId, .cancellationRequested, "cancellation_requested", state.resourceVersion, false⟩

/-- Read the flag back and store the receipt. -/
def storeCancellation (env : Ambient) (cmd : CancelCommand) (result : ScheduleRunCancellationV1) :
    DbTx (Option ScheduleRunCancellationV1) := do
  let flag ← getJobCancellationRequested cmd.runId cmd.siteId
  let result := { result with cancellationRequested := flag }
  storeIdempotentResult cmd.siteId cmd.actorId cmd.operation cmd.idempotencyKey (cmd.bodyHash env)
    (.cancellation result)
  pure (some result)

/-- The observed statuses whose cancellation writes to the run. -/
def cancelWrites (status : ScheduleRunStatus) : Bool :=
  decide (status = .solverQueued) || decide (status = .solverRunning)

/-- The job's flag, raised before the run is touched: the LOCK ORDER of the source is the job row
before the run row. -/
def raiseFlag (cmd : CancelCommand) (status : ScheduleRunStatus) : DbTx Unit :=
  if cancelWrites status then setJobCancellationRequested cmd.runId cmd.siteId else pure ()

/-- The transition, with a lost race caught. -/
def attemptCancel (env : Ambient) (cmd : CancelCommand) (state : ScheduleRunStateV1) :
    DbTx (Option ScheduleRunCancellationV1) :=
  tryCatch (some <$> cancelStatement env cmd state) fun e =>
    match e with
    | .repositoryRunNotCancellable _ => pure none
    | e => throw e

/-- The write phase, on an admitted observation: raise the job's flag, move the run, store the
receipt. A lost compare-and-set is resolved, not raised. -/
def cancelWrite (env : Ambient) (cmd : CancelCommand) (state : ScheduleRunStateV1) :
    DbTx (Option ScheduleRunCancellationV1) := do
  raiseFlag cmd state.status
  let attempted ← attemptCancel env cmd state
  match attempted with
  | some result => storeCancellation env cmd result
  | none => resolveLostRace env cmd ("schedule run is no longer " ++ state.status.value ++
      " at resource version " ++ toString cmd.expectedResourceVersion)

/-- What the two unlocked reads decide: end with a result, or write on the observed state. -/
inductive CancelAdmission where
  | finished (result : Option ScheduleRunCancellationV1)
  | write (state : ScheduleRunStateV1)
  deriving DecidableEq, Repr

/-- Everything before the first write, on the observed state and receipt. -/
def admitCancel (env : Ambient) (cmd : CancelCommand) (state : Option ScheduleRunStateV1)
    (stored : Option CommandIdempotencyRow) : Except PyError CancelAdmission :=
  if cmd.idempotencyKey.length = 0 ∨ maxIdempotencyKeyLength < cmd.idempotencyKey.length then
    .error (.cancelScheduleRun
      ("idempotency_key must be 1.." ++ toString maxIdempotencyKeyLength ++ " characters"))
  else match state, stored with
    | none, _ => .ok (.finished none)
    | some _, some stored => (fun result => .finished (some result)) <$>
        replayCancellation env cmd stored
    | some state, none =>
      if state.resourceVersion ≠ cmd.expectedResourceVersion then
        .error (.cancelStaleResourceVersion cmd.expectedResourceVersion state.resourceVersion)
      else if cancelWrites state.status = false ∧ state.status ≠ .cancellationRequested then
        .error (.cancelRunNotCancellable
          ("schedule run in " ++ state.status.value ++ " is not cancellable"))
      else .ok (.write state)

/-- The continuation of the command after its admission. -/
def continueCancel (env : Ambient) (cmd : CancelCommand) :
    CancelAdmission → DbTx (Option ScheduleRunCancellationV1)
  | .finished result => pure result
  | .write state => cancelWrite env cmd state

/-- `cancel_schedule_run` on one state of the database. -/
def cancelScheduleRun (env : Ambient) (cmd : CancelCommand) :
    DbTx (Option ScheduleRunCancellationV1) := do
  let state ← getRunState cmd.runId cmd.siteId
  let stored ← getIdempotentResult cmd.siteId cmd.actorId cmd.operation cmd.idempotencyKey
  let admission ← Tx.lift (admitCancel env cmd state stored)
  continueCancel env cmd admission

/-! ## The route and its transaction

The request commits what it answers with, a conflict included. -/

/-- What the client is told. -/
inductive CancelResponse where
  | ok (result : ScheduleRunCancellationV1)
  /-- 404 -/
  | notFound
  /-- the problem response of a `CancelScheduleRunError` -/
  | problem (error : PyError)
  /-- any other exception: the generic 500 -/
  | internalError (error : PyError)
  deriving DecidableEq, Repr

def CancelResponse.isError : CancelResponse → Bool
  | .ok _ => false
  | _ => true

/-- The response to a command that ended without an exception. -/
def CancelResponse.ofValue : Option ScheduleRunCancellationV1 → CancelResponse
  | none => .notFound
  | some result => .ok result

/-- The route: a `CancelScheduleRunError` is caught and **returned** as a problem response. -/
def cancelRoute (body : DbTx (Option ScheduleRunCancellationV1)) : DbTx CancelResponse :=
  tryCatch
    (do
      let value ← body
      pure (CancelResponse.ofValue value))
    fun e => if cancelScheduleRunError e then pure (.problem e) else throw e

/-- `get_site_context` around the route: commit when the endpoint returned, roll back only when an
exception escaped it. -/
def cancelRequest (body : DbTx (Option ScheduleRunCancellationV1)) (db : Db) :
    CancelResponse × Db :=
  match (cancelRoute body).commit db with
  | (.ok response, db') => (response, db')
  | (.error e, db') => (.internalError e, db')

end ShiftMind
