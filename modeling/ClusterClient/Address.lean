/-
  ClusterClient.Address — where a server listens.

  An address is a host with an optional port. A missing port means the default port, so two
  addresses are the same when their hosts and their effective ports are. Equality, order, the
  key that tables use, its hash and the displayed form all look at this pair and nothing else.
-/
import ClusterClient.Text.Lowercase
import ClusterClient.Text.Quoted

namespace ClusterClient

/-- A server's host and, when given, its port. -/
structure Address where
  host : String
  port : Option UInt16
  deriving Repr

namespace Address

/-! ## §1. The default port -/

/-- The port a server listens on unless its address says otherwise. -/
def defaultPort : UInt16 := 27017

/-- The port that is connected to. -/
def effectivePort (a : Address) : UInt16 := a.port.getD defaultPort

/-- The server on the local machine. -/
def localhost : Address := ⟨"localhost", none⟩

/-! ## §2. Identity, order and display -/

/-- What identifies an address in tables. -/
def key (a : Address) : String × UInt16 := (a.host, a.effectivePort)

/-- Whether two addresses name the same server. -/
def same (a b : Address) : Bool := a.key == b.key

/-- Hosts are ordered by code points, then ports by number. -/
def order (a b : Address) : Ordering :=
  (compareOfLessAndEq a.host b.host).then (compare a.effectivePort b.effectivePort)

theorem same_iff (a b : Address) : a.same b = true ↔ a.key = b.key := by
  simp [same]

@[simp] theorem same_refl (a : Address) : a.same a = true := by
  simp [same]

theorem same_comm (a b : Address) : a.same b = b.same a := by
  simp only [same, Bool.beq_comm]

/-- Addresses of one server are told apart from a third one alike. -/
theorem same_congr {a b : Address} (c : Address) (h : a.same b = true) : a.same c = b.same c := by
  rw [same_iff] at h
  simp only [same, h]

instance : BEq Address := ⟨same⟩

instance : Ord Address := ⟨order⟩

/-- Whether `a` stands before `b` or beside it in a sorted list. -/
def precedes (a b : Address) : Bool := (a.order b).isLE

/-- What a hash of the address is made of: the bytes of the host, a byte that no text has, and the
    two bytes of the port. -/
def hashInput (a : Address) : List UInt8 :=
  a.host.toUTF8.data.toList ++
    [0xff, a.effectivePort.toUInt8, (a.effectivePort >>> 8).toUInt8]

/-- `host:port`, with the default port written out. -/
def display (a : Address) : String := a.host ++ ":" ++ toString a.effectivePort.toNat

/-- Addresses in order; those of the same server stay as they were. -/
def sort (addresses : List Address) : List Address := addresses.mergeSort precedes

/-- How many servers the addresses name. -/
def distinct (addresses : List Address) : Nat := addresses.eraseDups.length

/-! ## §3. Reading -/

/-- A port is a number from 1 to 65535 in decimal digits, after an optional plus sign. -/
def readPort? (cs : List Char) : Option UInt16 :=
  let digits := match cs with
    | '+' :: rest => rest
    | _ => cs
  match Text.decimalDigits? digits with
  | some n => if 0 < n ∧ n < UInt16.size then some (UInt16.ofNat n) else none
  | none => none

/-- A host, or a host and a port separated by the only colon. The host is kept in small
    letters. -/
def parse? (text : String) : Option Address :=
  let cs := text.toList
  let host := cs.takeWhile (· ≠ ':')
  if host = [] then none
  else
    match cs.dropWhile (· ≠ ':') with
    | [] => some ⟨Text.lowercase (String.ofList host), none⟩
    | _ :: portText =>
      (readPort? portText).map fun p => ⟨Text.lowercase (String.ofList host), some p⟩

end Address

end ClusterClient
