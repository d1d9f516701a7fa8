import RotatedShards.Rows
import RotatedShards.Statement

/-!
# Connections

A connection passes bound statements to a store. The store fixes its response
when a statement is issued; the response arrives after a delay.

Main definitions:

* `Backend`: what a store has to answer.
* `Connection.ask`: issues a statement and records the exchange.
* `Connection.launch`, `Connection.land`: the count of statements in flight.
-/

namespace RotatedShards

/-! ## Responses -/

/-- How a statement turns out: with rows, with a failure, or by bringing down the
    task that waits for it. -/
inductive Outcome
  | rows (rows : RawRows)
  | failed (fault : BackendFault)
  | crashed

/-- The statement failed. -/
def Outcome.isFailure : Outcome → Bool
  | .failed _ => true
  | _ => false

/-- The task that waits for the statement comes down. -/
def Outcome.isCrash : Outcome → Bool
  | .crashed => true
  | _ => false

/-- An outcome and the milliseconds until it arrives. -/
structure Response where
  delay : Nat := 0
  outcome : Outcome

/-- A store that answers bound statements, behind the `DriverSession` of an engine. -/
class Backend (σ : Type) where
  /-- The response to a statement, and the store after it. -/
  answer : BoundStatement → σ → Response × σ

/-! ## Connections -/

/-- A statement that was issued, and the response to it. -/
structure Exchange where
  statement : BoundStatement
  response : Response

/-- A store, every exchange with it in the order of issue, and how many statements
    are in flight now and have been at most. -/
structure Connection (σ : Type) where
  store : σ
  exchanges : List Exchange := []
  inFlight : Nat := 0
  peak : Nat := 0

namespace Connection

variable {σ : Type}

/-- The statements issued, in order. -/
def sent (c : Connection σ) : List BoundStatement := c.exchanges.map Exchange.statement

/-- Issues a statement. -/
def ask [Backend σ] (c : Connection σ) (statement : BoundStatement) : Response × Connection σ :=
  let (response, store) := Backend.answer statement c.store
  (response, { c with store, exchanges := c.exchanges ++ [{ statement, response }] })

/-- One more statement is in flight. -/
def launch (c : Connection σ) : Connection σ :=
  { c with inFlight := c.inFlight + 1, peak := max c.peak (c.inFlight + 1) }

/-- The responses to some statements have arrived. -/
def land (c : Connection σ) (count : Nat) : Connection σ :=
  { c with inFlight := c.inFlight - count }

end Connection

end RotatedShards
