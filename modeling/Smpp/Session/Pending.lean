import Smpp.Pdu.Frame
import Smpp.Session.Error

/-!
The requests that wait for a response, under their sequence numbers. A request gets the next number
that is not in use and a ticket that is never used again; it leaves the table once, and what took it
out is what its ticket resolves to. Between these two, and between the two halves of giving up a wait,
other tasks can go on; `retire`, `complete`, `failAll` and `giveUp` have nobody in between.
-/

namespace Smpp

abbrev Outcome := Except SessionError Frame

structure PendingRequest where
  sequence : UInt32
  commandId : CommandId
  ticket : Nat
  registeredAt : Nat
  deriving DecidableEq, Repr

structure PendingHandle where
  sequence : UInt32
  commandId : CommandId
  ticket : Nat
  deriving DecidableEq, Repr

structure PendingTable where
  next : UInt32 := 1
  requests : List PendingRequest := []
  issued : Nat := 0
  resolved : List (Nat × Outcome) := []

namespace PendingTable

/-- The highest sequence number. The top bit stays clear. -/
def lastSequence : UInt32 := 0x7FFFFFFF

def following (sequence : UInt32) : UInt32 :=
  if lastSequence ≤ sequence then 1 else sequence + 1

def isOutstanding (table : PendingTable) (sequence : UInt32) : Bool :=
  table.requests.any fun request => request.sequence == sequence

/-- The first number from `sequence` on that is not in use, tried so many times. -/
def findFree (table : PendingTable) : Nat → UInt32 → UInt32
  | 0, sequence => sequence
  | tries + 1, sequence =>
      if table.isOutstanding sequence then findFree table tries (following sequence) else sequence

/-- The number that the next request gets. Among one number more than are in use one is free. -/
def freeSequence (table : PendingTable) : UInt32 :=
  table.findFree table.requests.length table.next

def register (table : PendingTable) (commandId : CommandId) (now : Nat) : PendingHandle × PendingTable :=
  let sequence := table.freeSequence
  (⟨sequence, commandId, table.issued⟩,
    { table with
      next := following sequence
      requests := ⟨sequence, commandId, table.issued, now⟩ :: table.requests
      issued := table.issued + 1 })

/-- Takes requests out of the table. What their senders get to see is still to come. -/
def takeOut (table : PendingTable) (leaves : PendingRequest → Bool) :
    List PendingRequest × PendingTable :=
  (table.requests.filter leaves,
    { table with requests := table.requests.filter fun request => !leaves request })

def resolve (table : PendingTable) (leaving : List PendingRequest) (outcome : Outcome) : PendingTable :=
  { table with
    resolved := leaving.map (fun request => (request.ticket, outcome)) ++ table.resolved }

def retire (table : PendingTable) (leaves : PendingRequest → Bool) (outcome : Outcome) :
    Nat × PendingTable :=
  let (leaving, table) := table.takeOut leaves
  (leaving.length, table.resolve leaving outcome)

def complete (table : PendingTable) (sequence : UInt32) (outcome : Outcome) : Bool × PendingTable :=
  let (count, table) := table.retire (fun request => request.sequence == sequence) outcome
  (count != 0, table)

/-- Drops the request under a number, which its sender sees as a lost connection. -/
def remove (table : PendingTable) (sequence : UInt32) : Bool × PendingTable :=
  table.complete sequence (.error .connectionLost)

def expire (table : PendingTable) (now age : Nat) : Nat × PendingTable :=
  table.retire (fun request => decide (age ≤ now - request.registeredAt)) (.error .timeout)

def failAll (table : PendingTable) : Nat × PendingTable :=
  table.retire (fun _ => true) (.error .connectionLost)

def commandFor? (table : PendingTable) (sequence : UInt32) : Option CommandId :=
  (table.requests.find? fun request => request.sequence == sequence).map PendingRequest.commandId

def size (table : PendingTable) : Nat := table.requests.length

def outcome? (table : PendingTable) (handle : PendingHandle) : Option Outcome :=
  table.resolved.lookup handle.ticket

/-- Drops the request of a wait that has found nothing by its deadline. If it has gone by now, this
makes no difference to the wait. -/
def lapse (table : PendingTable) (handle : PendingHandle) : PendingTable :=
  (table.complete handle.sequence (.error .timeout)).2

def giveUp (table : PendingTable) (handle : PendingHandle) : Outcome × PendingTable :=
  match table.outcome? handle with
  | some outcome => (outcome, table)
  | none => (.error .timeout, table.lapse handle)

end PendingTable

end Smpp
