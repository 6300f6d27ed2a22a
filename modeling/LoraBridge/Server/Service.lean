import LoraBridge.Handler.Desk
import LoraBridge.Server.Basic

/-! # Rehearsals of a server

  A `Service` is a server that can be run: its handler sits at a desk. It forwards commands as
  soon as there are any, and it is a player of rehearsals with a scripted broker.
-/

namespace LoraBridge.Server

open Broker (Player Rehearsal)
open Handler (Desk Outpost)

/-- A server and the desk of its handler. -/
structure Service where
  desk : Desk := {}
  phase : Phase := .serving
  /-- What has been logged. -/
  log : List Log.Line := []

namespace Service

variable (s : Service)

/-- The handler of the server. -/
def handler : Handler.State := s.desk.outpost.handler

/-- The service after an action of the server. An action that is not possible does nothing. -/
def act (action : Action) : Service :=
  match resolve? s.handler s.phase action with
  | none => s
  | some (action?, phase) =>
    let desk := match action? with
      | some step => s.desk.act (.own step)
      | none => s.desk
    { desk, phase, log := s.log ++ lines s.handler action }

/-- What the server does next by itself, if anything. -/
def turn? : Option Action :=
  if s.phase.result?.isSome then none
  else if !s.handler.queue.isEmpty then some .forward
  else match s.phase with
    | .closing call => if (s.handler.returns[call]?).join.isSome then some .closed else none
    | .draining => if s.handler.hasSender then none else some .finish
    | _ => none

/-- The service after its next step at a time, if it has one. -/
def next? (now : Nat) : Option Service :=
  match s.desk.next? now with
  | some desk => some { s with desk }
  | none => s.turn?.map s.act

end Service

instance : Player Service where
  link s := Player.link s.desk
  act s action := { s with desk := Player.act s.desk action }
  disturb s arrivals := { s with desk := Player.disturb s.desk arrivals }
  next? s now := s.next? now
  timers s := Player.timers s.desk
  work s := 2 * Player.work s.desk + s.handler.queue.length + 4

namespace Service

/-- Interrupts a server, and waits until it has returned. -/
def interrupt (r : Rehearsal Service) : Rehearsal Service :=
  Rehearsal.await { r with player := r.player.act .interrupt } fun r =>
    r.player.phase.result?.isSome

end Service

end LoraBridge.Server
