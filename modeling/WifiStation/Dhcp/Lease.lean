import WifiStation.Keyed
import WifiStation.Net.Ipv4
import WifiStation.Net.Mac

/-!
# WifiStation.Dhcp.Lease

The address pool of a server and the bindings it has made.

Design points:

* Times are milliseconds on one clock.
* A `LeaseTable` keeps three indexes: the binding of each client, the client of each address, and
  the expiry times in ascending order. `bind` releases what the client had before; it does not ask
  who holds the address, so binding an address that another client holds is the caller's mistake.
* `LeaseTable.firstFree` looks at the pool's addresses one after the other and never builds their
  list, which may be long; `firstFree_eq_find?` says that this is the first free one of the list.
-/

namespace WifiStation.Dhcp

open WifiStation.Net

/-! ### The pool -/

/-- No milliseconds beyond a whole second. -/
def wholeSecond : Fin 1000 := ⟨0, by decide⟩

/-- The addresses a server gives out, with what it tells its clients about the network. -/
structure Pool where
  /-- The server's own address. -/
  serverId : Ipv4
  /-- The first address. -/
  start : Ipv4
  /-- The number of addresses. -/
  len : Nat
  subnetMask : Ipv4
  gateway : Ipv4
  /-- How long a lease lasts, in whole seconds. -/
  leaseSecs : Nat
  /-- The part of a second that it lasts beyond them, in milliseconds. -/
  leaseRestMs : Fin 1000 := wholeSecond
  deriving DecidableEq, Repr, Inhabited

namespace Pool

/-- Whether an address lies in the pool. -/
def contains (pool : Pool) (addr : Ipv4) : Bool :=
  pool.start.toNat ≤ addr.toNat && addr.toNat - pool.start.toNat < pool.len

/-- The address at a position, counting on from zero behind the last address there is. -/
def addressAt (pool : Pool) (i : Nat) : Ipv4 := .ofNat (pool.start.toNat + i)

/-- All addresses in order. -/
def addresses (pool : Pool) : List Ipv4 := (List.range pool.len).map pool.addressAt

/-- How long a lease lasts, in milliseconds. -/
def leaseMs (pool : Pool) : Nat := pool.leaseSecs * 1000 + pool.leaseRestMs

/-- How long a lease lasts as a packet says it: in whole seconds, at most the largest word. -/
def advertisedSecs (pool : Pool) : UInt32 := UInt32.ofNat (min pool.leaseSecs (2 ^ 32 - 1))

end Pool

/-! ### Bindings -/

/-- The address a client has, and until when. -/
structure Binding where
  addr : Ipv4
  expiresAt : Nat
  deriving DecidableEq, Repr, Inhabited

/-- An expiry time and the client it concerns. -/
abbrev Expiry := Nat × Mac

/-- Expiries are ordered by time, at one time by the client's address. -/
def Expiry.before (a b : Expiry) : Bool :=
  a.1 < b.1 || (a.1 == b.1 && a.2.value < b.2.value)

/-- Puts an expiry in its place among ordered ones; one that is there already stays alone. -/
def Expiry.insert (e : Expiry) : List Expiry → List Expiry
  | [] => [e]
  | x :: xs =>
    if e = x then x :: xs
    else if Expiry.before e x then e :: x :: xs
    else x :: Expiry.insert e xs

/-- The bindings of a server, indexed by client, by address and by time. -/
structure LeaseTable where
  /-- The binding of each client. -/
  byClient : Keyed Mac Binding
  /-- The client of each address. -/
  byAddr : Keyed Ipv4 Mac
  /-- When bindings end, in ascending order. -/
  expiry : List Expiry

namespace LeaseTable

/-- No bindings. -/
def empty : LeaseTable := ⟨.empty, .empty, []⟩

instance : Inhabited LeaseTable := ⟨empty⟩

/-- The number of bindings. -/
def size (t : LeaseTable) : Nat := t.byClient.size

/-- The binding of a client. -/
def get? (t : LeaseTable) (client : Mac) : Option Binding := t.byClient.get? client

/-- The client that holds an address. -/
def holder (t : LeaseTable) (addr : Ipv4) : Option Mac := t.byAddr.get? addr

/-- Ends the binding of a client and gives the address it had. -/
def release (t : LeaseTable) (client : Mac) : LeaseTable × Option Ipv4 :=
  match t.get? client with
  | none => (t, none)
  | some b =>
    ({ byClient := t.byClient.erase client
       byAddr := t.byAddr.erase b.addr
       expiry := t.expiry.filter (· ≠ (b.expiresAt, client)) }, some b.addr)

/-- Binds a client to an address until a time, in place of what it had. -/
def bind (t : LeaseTable) (client : Mac) (addr : Ipv4) (expiresAt : Nat) : LeaseTable :=
  let t := (t.release client).1
  { byClient := t.byClient.insert client ⟨addr, expiresAt⟩
    byAddr := t.byAddr.insert addr client
    expiry := Expiry.insert (expiresAt, client) t.expiry }

/-- Releases clients one after the other and gives the addresses they had. -/
def releaseAll (t : LeaseTable) : List Mac → LeaseTable × List (Mac × Ipv4)
  | [] => (t, [])
  | client :: rest =>
    let released := t.release client
    let others := releaseAll released.1 rest
    match released.2 with
    | some addr => (others.1, (client, addr) :: others.2)
    | none => others

/-- The clients whose bindings have ended at a time, in order of expiry. -/
def due (t : LeaseTable) (now : Nat) : List Mac :=
  (t.expiry.takeWhile (·.1 ≤ now)).map Prod.snd

/-- Releases every binding that ends at or before a time. -/
def expire (t : LeaseTable) (now : Nat) : LeaseTable × List (Mac × Ipv4) :=
  t.releaseAll (t.due now)

/-- The first free one of `count` addresses of the pool from position `i` on. -/
def firstFreeFrom (t : LeaseTable) (pool : Pool) : Nat → Nat → Option Ipv4
  | 0, _ => none
  | count + 1, i =>
    if (t.holder (pool.addressAt i)).isNone then some (pool.addressAt i)
    else firstFreeFrom t pool count (i + 1)

/-- The first address of the pool that no client holds. -/
def firstFree (t : LeaseTable) (pool : Pool) : Option Ipv4 := t.firstFreeFrom pool pool.len 0

/-! ### Properties of the search -/

theorem firstFreeFrom_eq_find? (t : LeaseTable) (pool : Pool) (count i : Nat) :
    t.firstFreeFrom pool count i =
      ((List.range' i count).map pool.addressAt).find? fun a => (t.holder a).isNone := by
  induction count generalizing i with
  | zero => simp [firstFreeFrom]
  | succ n ih =>
    simp only [firstFreeFrom, List.range'_succ, List.map_cons, List.find?_cons, ih]
    cases (t.holder (pool.addressAt i)).isNone <;> simp

theorem firstFree_eq_find? (t : LeaseTable) (pool : Pool) :
    t.firstFree pool = pool.addresses.find? fun a => (t.holder a).isNone := by
  simp [firstFree, firstFreeFrom_eq_find?, Pool.addresses, List.range_eq_range']

end LeaseTable

end WifiStation.Dhcp
