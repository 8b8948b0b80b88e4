import ResilientChannel.Handlers

/-!
Shared handler registries, and handlers that use them while they run.

* A `Registry.Board` holds any number of registries. A registry names the table of handlers it
  shares: a clone names the same table, a new one a table of its own.
* A handler is a tag and a script of further steps, which run right after the handler is noted in
  the log (`Registry.Board.perform`). The handler is looked up before its script runs, so a script
  may replace the very handler it belongs to.
* Handlers may fire one another without end. `perform` follows them down to a given depth, and every
  statement about it is meant for all depths.
-/

namespace ResilientChannel.Registry

/-- What can be done with the registries of a board. -/
inductive Step
  | register (registry : Nat) (kind : TransportEventKind) (tag : String) (script : List Step)
  | fire (registry : Nat) (event : TransportEvent)
  | clone (registry : Nat)
  | create (beside : Nat)

/-- A handler: its tag and the steps it takes. -/
structure Handler where
  tag : String
  script : List Step

/-- A handler that was run, and the event it was run for. -/
structure Call where
  tag : String
  event : TransportEvent
deriving DecidableEq, Repr

/-- Tables of handlers, the table that each registry shares, and the handlers run so far. -/
structure Board where
  tables : List (Handlers Handler) := [{}]
  registries : List Nat := [0]
  log : List Call := []

/-- The registry that a step is taken on. -/
def Step.registry : Step → Nat
  | register r .. => r
  | fire r _ => r
  | clone r => r
  | create r => r

namespace Board

/-- The registry of this number exists. -/
def knows (b : Board) (registry : Nat) : Bool := registry < b.registries.length

/-- The table behind a registry. -/
def table? (b : Board) (registry : Nat) : Option (Handlers Handler) :=
  b.registries[registry]?.bind (b.tables[·]?)

/-- Installs a handler in the table behind a registry. -/
def register (b : Board) (registry : Nat) (kind : TransportEventKind) (handler : Handler) : Board :=
  match b.registries[registry]? with
  | some t => { b with tables := b.tables.modify t (·.register kind handler) }
  | none => b

/-- Adds a registry that shares the table of an existing one. -/
def clone (b : Board) (registry : Nat) : Board :=
  match b.registries[registry]? with
  | some t => { b with registries := b.registries ++ [t] }
  | none => b

/-- Adds a registry with an empty table of its own, beside an existing one. -/
def create (b : Board) (beside : Nat) : Board :=
  if b.knows beside then
    { b with tables := b.tables ++ [{}], registries := b.registries ++ [b.tables.length] }
  else b

/-- Takes a step, following nested handlers down to a depth. A step on a registry that does not
exist does nothing. -/
def perform : (depth : Nat) → Step → Board → Board
  | _, .register r kind tag script, b => b.register r kind { tag, script }
  | _, .clone r, b => b.clone r
  | _, .create r, b => b.create r
  | depth, .fire r event, b =>
    match (b.table? r).bind (·.receiver event) with
    | none => b
    | some handler =>
      let noted := { b with log := b.log ++ [{ tag := handler.tag, event }] }
      match depth with
      | 0 => noted
      | depth + 1 => handler.script.foldl (fun b step => perform depth step b) noted

end Board

end ResilientChannel.Registry
