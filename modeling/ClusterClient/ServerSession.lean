/-
  ClusterClient.ServerSession — sessions as the deployment knows them, and those that wait to be
  used again.

  A server session is an identifier with a counter. Sessions that are not used any more wait in a
  list, the one returned last first. A session is handed out again unless it will expire within a
  minute, and it is not kept at all after a network failure, when nobody knows what its last
  command did.
-/

namespace ClusterClient

/-! ## §1. Sessions -/

/-- A session of the deployment. -/
structure ServerSession where
  /-- Its unique identifier. -/
  id : Nat
  /-- When it was used last, in milliseconds. -/
  lastUse : Nat
  /-- Whether a command failed with a network error under it. -/
  dirty : Bool
  /-- The number of its last transaction or retryable write. A counter of 64 bits with a sign has
      the same value as long as fewer than `2 ^ 63` numbers were taken, and commands carry it so. -/
  txnNumber : Nat
  deriving Repr, DecidableEq

namespace ServerSession

/-- A session nobody has used. -/
def fresh (id now : Nat) : ServerSession := ⟨id, now, false, 0⟩

/-- Sessions are given up this many milliseconds before they expire. -/
def margin : Nat := 60000

/-- Whether the deployment may forget the session within the margin. -/
def aboutToExpire (s : ServerSession) (timeout now : Nat) : Bool :=
  decide (s.lastUse + timeout < now + margin)

end ServerSession

/-! ## §2. Waiting sessions -/

namespace ServerSession.Waiting

/-- Takes the first session that does not expire soon. Those before it are dropped. -/
def checkOut (timeout now : Nat) :
    List ServerSession → Option ServerSession × List ServerSession
  | [] => (none, [])
  | s :: rest => if s.aboutToExpire timeout now then checkOut timeout now rest else (some s, rest)

/-- The list without the sessions at its end that expire soon. -/
def purge (timeout now : Nat) (waiting : List ServerSession) : List ServerSession :=
  (waiting.reverse.dropWhile fun s => s.aboutToExpire timeout now).reverse

/-- Takes a session back, at the front, unless it is dirty or expires soon. -/
def checkIn (s : ServerSession) (timeout now : Nat) (waiting : List ServerSession) :
    List ServerSession :=
  let kept := purge timeout now waiting
  if s.dirty || s.aboutToExpire timeout now then kept else s :: kept

end ServerSession.Waiting

end ClusterClient
