/-
  ClusterClient.Attempt — sending a command, and sending it again.

  A request says how its command is made for a server and what a reply to it means. Most requests
  get one attempt. A retryable request gets a second one, when its command can be recognised if
  it comes twice, the first attempt failed in a way that allows it, and a server, a connection
  and the session support it. The second attempt sends the command of the first; whatever it
  meets, the error of the first attempt is the one that is reported. All that the first attempt
  leased is given back before the second begins.
-/
import ClusterClient.Binding

namespace ClusterClient

open Run

/-! ## §1. Requests -/

/-- What a reply means: given the reply and the server it came from, a result or a failure. -/
abbrev Interpretation (α : Type) := Document → Address → Except Error α

/-- A request whose command is made for the server and the connection at hand. -/
structure Request (α : Type) where
  create : ServerDescription → ConnectionDescription → Exec Command
  /-- Making the command sends nothing. -/
  create_silent : ∀ server connection r, ((create server connection).on r).2.sent = r.sent
  interpret : Interpretation α

/-- Sends a command and interprets the reply. -/
def attempt {α : Type} (source : Source) (lease : Lease) (command : Command)
    (interpret : Interpretation α) : Exec α := do
  let reply ← send lease command source.context
  settle (interpret reply lease.description.address)

/-! ## §2. One attempt -/

/-- Sends a command that reads, routed by the preference of the binding. -/
def performRead {α : Type} (b : Binding) (database : String) (body : Document)
    (interpret : Interpretation α) : Exec α :=
  withSource b .read fun source => withConnection source fun lease => do
    let preference := b.effectivePreference (← currentClient)
    attempt source lease (.ofRead database body preference) interpret

/-- Sends a command that writes. -/
def performWrite {α : Type} (b : Binding) (database : String) (body : Document)
    (interpret : Interpretation α) : Exec α :=
  withSource b .write fun source => withConnection source fun lease =>
    attempt source lease (.of database body) interpret

/-! ## §3. Two attempts -/

/-- What came of a first attempt whose command was made. -/
inductive FirstAttempt (α : Type) where
  | succeeded (result : α)
  | failed (command : Command) (error : Error)

/-- Makes the command and sends it. Failures before it is made are final. -/
def firstAttempt {α : Type} (b : Binding) (request : Request α) : Exec (FirstAttempt α) :=
  withSource b .write fun source => withConnection source fun lease => do
    let command ← request.create source.selected.description lease.description
    match ← observe (attempt source lease command request.interpret) with
    | .ok result => return .succeeded result
    | .error e => return .failed command e

/-- Whether a failed command may be sent again, as far as command and failure tell. -/
def mayRetry (command : Command) (error : Error) : Bool :=
  command.isRetryable && error.isRetryable

/-- Sends the command again on a connection, if server, connection and session support it. -/
def resend {α : Type} (b : Binding) (source : Source) (lease : Lease) (command : Command)
    (first : Error) (interpret : Interpretation α) : Exec α := do
  let server := source.selected.description
  if canRetryWrite (← currentClient) server lease.description b.context then
    emit (.retrying command.name server.address first)
    match ← observe (attempt source lease command interpret) with
    | .ok result => return result
    | .error e =>
      emit (.retryFailed command.name e)
      throw first
  else
    emit (.retryAbandoned command.name server.address)
    throw first

/-- Finds a connection of the server for the command and sends it again. -/
def resendFrom {α : Type} (b : Binding) (source : Source) (command : Command) (first : Error)
    (interpret : Interpretation α) : Exec α := do
  match ← observe source.connection with
  | .error e =>
    emit (.retryUnavailable command.name e)
    throw first
  | .ok lease => ensuring (resend b source lease command first interpret) (checkIn lease)

/-- Finds a server and a connection for the command and sends it again. -/
def secondAttempt {α : Type} (b : Binding) (command : Command) (first : Error)
    (interpret : Interpretation α) : Exec α := do
  match ← observe (b.source .write) with
  | .error e =>
    emit (.retryUnavailable command.name e)
    throw first
  | .ok source => ensuring (resendFrom b source command first interpret) source.release

/-- Sends the command of a request, and once more if that is allowed. -/
def performRetryable {α : Type} (b : Binding) (request : Request α) : Exec α := do
  match ← firstAttempt b request with
  | .succeeded result => return result
  | .failed command error =>
    if mayRetry command error then secondAttempt b command error request.interpret
    else throw error

end ClusterClient
