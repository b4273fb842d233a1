/-
  ClusterClient.Pool — the connections to one server.

  A pool lends connections. It keeps those that wait for the next borrower, opens new ones when
  none waits, and closes those on which the network failed. A permit is taken for every
  connection lent, and given back only after the connection itself; idle connections hold none.
  The counters are kept beside the connections, and `status` reports them.
-/
import ClusterClient.Error

namespace ClusterClient

/-! ## §1. State -/

/-- An open connection. -/
structure Connection where
  description : ConnectionDescription
  /-- Whether the network failed under it since it was lent. -/
  broken : Bool

/-- The connections to one server. -/
structure Pool where
  address : Address
  /-- How many more connections may be lent. -/
  permits : Nat
  /-- The number of the next connection to be opened. -/
  nextId : Nat
  /-- Connections that wait, the one that waits longest first. -/
  idle : List Connection
  /-- Connections that are lent. -/
  leased : List Connection
  checkedOut : Nat
  totalCheckOuts : Nat
  totalCheckIns : Nat
  established : Nat
  closed : Nat

namespace Pool

/-- A pool that has opened nothing yet. -/
def empty (address : Address) (capacity : Nat) : Pool where
  address := address
  permits := capacity
  nextId := 1
  idle := []
  leased := []
  checkedOut := 0
  totalCheckOuts := 0
  totalCheckIns := 0
  established := 0
  closed := 0

/-- What a pool reports of itself. -/
structure Status where
  checkedOut : Nat
  idle : Nat
  totalCheckOuts : Nat
  totalCheckIns : Nat
  established : Nat
  closed : Nat
  deriving Repr, DecidableEq

/-- The counters. -/
def status (p : Pool) : Status :=
  ⟨p.checkedOut, p.idle.length, p.totalCheckOuts, p.totalCheckIns, p.established, p.closed⟩

/-! ## §2. Lending -/

/-- Opens the connection with a number, or fails. -/
abbrev Establish := Nat → Except Error ConnectionDescription

/-- How a check-out went. -/
structure CheckOut where
  result : Except Error ConnectionDescription
  /-- Whether a connection was opened for it. -/
  opened : Bool
  pool : Pool

/-- Counts a connection as lent. The permit has been taken already. -/
def lend (p : Pool) (c : ConnectionDescription) : Pool :=
  { p with
    leased := ⟨c, false⟩ :: p.leased
    checkedOut := p.checkedOut + 1
    totalCheckOuts := p.totalCheckOuts + 1 }

/-- Lends the connection that has waited longest, or a new one. Without a permit it fails, as a
    wait does that runs out: nothing else happens in a check-out, so no permit comes back while it
    lasts. Where the options set no limit to the wait, a pool would wait on for a connection to be
    given back; here it fails all the same. A connection that cannot be opened costs its number and
    nothing else. -/
def checkOut (establish : Establish) (p : Pool) : CheckOut :=
  match p.permits with
  | 0 => ⟨.error (Error.of (.poolExhausted p.address)), false, p⟩
  | rest + 1 =>
    match p.idle with
    | c :: waiting => ⟨.ok c.description, false, lend { p with permits := rest, idle := waiting } c.description⟩
    | [] =>
      match establish p.nextId with
      | .error e => ⟨.error e, false, { p with nextId := p.nextId + 1 }⟩
      | .ok c =>
        ⟨.ok c, true,
          lend { p with
            permits := rest
            nextId := p.nextId + 1
            established := p.established + 1 } c⟩

/-! ## §3. Use and return -/

/-- The network failed under a lent connection. -/
def markBroken (p : Pool) (id : Nat) : Pool :=
  { p with leased := p.leased.map fun c =>
      if c.description.id = id then { c with broken := true } else c }

/-- The lent connection with a number. -/
def lent? (p : Pool) (id : Nat) : Option Connection :=
  p.leased.find? fun c => c.description.id = id

/-- Takes a lent connection back: a broken one is closed, any other waits for its next borrower
    behind those that wait already. -/
def checkIn (p : Pool) (id : Nat) : Pool :=
  match p.lent? id with
  | none => p
  | some c =>
    let returned := { p with
      leased := p.leased.eraseP fun c => c.description.id = id
      checkedOut := p.checkedOut - 1
      totalCheckIns := p.totalCheckIns + 1
      permits := p.permits + 1 }
    if c.broken then { returned with closed := p.closed + 1 }
    else { returned with idle := p.idle ++ [c] }

end Pool

end ClusterClient
