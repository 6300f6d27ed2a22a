import LoraBridge.Server.Invocation
import LoraBridge.Server.Service
import LoraBridge.Settings.Variables

/-! # The program

  The program loads its settings, opens the lock store, connects to the broker and serves until it
  is interrupted. `Program.run` is all of that in a given `World`; it gives a `Report` of what the
  program logs and sends and of how it exits.
-/

namespace LoraBridge.Server.Program

open Broker (Rehearsal)

/-- What the program finds when it starts, and what happens while it serves. -/
structure World where
  directory : Directory := []
  environment : List (String × String) := []
  /-- What makes the client's name different from all others. -/
  unique : String
  broker : Broker.Script := { listening := false }
  lockServer : Lock.Remote.Script := { listening := false }
  /-- The messages that the broker sends before the program is interrupted. -/
  messages : List (String × Bytes) := []

/-- What comes of a run. -/
structure Report where
  exitCode : UInt8
  log : List Log.Line := []
  /-- The packets that the broker has received. -/
  packets : List Broker.Packet := []
  /-- The commands that the lock server has received. -/
  commands : List Lock.Remote.Request := []

/-! ### Log lines -/

/-- The line about the lock store. -/
def readyLine (backend : Lock.Backend) : Log.Line :=
  { level := .info, message := "downlink lock store ready", fields := [("backend", backend.label)] }

/-- The line about settings that cannot be used. -/
def faultLine (fault : Settings.Fault) : Log.Line :=
  { level := .error, message := "Failed to load configuration: " ++ fault.message }

/-- The line about a failure. -/
def failureLine (reason : String) : Log.Line :=
  { level := .error, message := "Server failed: " ++ reason }

/-! ### Serving -/

/-- The exit code of a program that was called in a way that it does not understand. -/
def misuseCode : UInt8 := 2

/-- The exit code of a program that breaks off. -/
def breakCode : UInt8 := 101

/-- The report about a server that has come to its end. -/
def reportOf (r : Rehearsal Service) : Report :=
  let report : Report :=
    { exitCode := 0, log := r.player.log, packets := r.received,
      commands := r.player.desk.store.received }
  match r.player.phase.result? with
  | some (.error e) =>
    { report with exitCode := 1, log := report.log ++ [failureLine e.message] }
  | _ => report

/-- Serves with a lock store until the program is interrupted. -/
def serveWith (world : World) (settings : BrokerSettings) (store : Lock.Store) : Report :=
  let login := Broker.Login.of world.unique settings.username settings.password
  let service : Service := { desk := { store } }
  let (result, r) := Rehearsal.start service world.broker settings.server login
  match result with
  | .error e =>
    { exitCode := 1, log := [failureLine (Handler.Error.connect e).message],
      packets := r.received, commands := store.received }
  | .ok () =>
    let r := world.messages.foldl (fun r (topic, payload) => (r.push topic payload).settle)
      r.settle
    reportOf (Service.interrupt r)

/-- Serves with some settings until the program is interrupted. -/
def serve (world : World) (settings : Settings) : Report :=
  let (result, store) := Lock.Store.connect settings.lock world.directory world.lockServer
  match result with
  | .error e => { exitCode := 1, log := [failureLine e.message], commands := store.received }
  | .ok () =>
    let report := serveWith world settings.broker store
    { report with log := readyLine settings.lock.backend :: report.log }

/-! ### Running -/

/-- The environment with the variables that a file gives. -/
def World.fullEnvironment (world : World) : List (String × String) :=
  match world.directory.file? [Settings.Variables.fileName] with
  | some content => Settings.Variables.addFile world.environment content
  | none => world.environment

/-- Runs the program with some arguments. It breaks off if the environment cannot hold what the
    file gives. -/
def run (world : World) (arguments : List String) : Report :=
  if !Settings.Variables.isHoldable world.fullEnvironment then { exitCode := breakCode }
  else match Invocation.ofArguments arguments with
  | .help => { exitCode := 0 }
  | .misuse => { exitCode := misuseCode }
  | .serve path =>
    match Settings.load world.directory world.fullEnvironment path with
    | .error fault => { exitCode := 1, log := [faultLine fault] }
    | .ok settings =>
      let report := serve world settings
      let level := Log.Level.ofSetting settings.log.level
      { report with log := report.log.filter (·.level.isEnabled level) }

end LoraBridge.Server.Program
