import RemoteDebugger.Console.Loop
import RemoteDebugger.Rehearsal.Stage

/-!
# Rehearsals of the console

The whole console with a scripted agent: in each scene lines may be typed, and the agent does
something and reacts to what the session writes. A line that is typed while a command waits is
read once the command is over.
-/

namespace RemoteDebugger.Rehearsal

/-- A console and all that it has shown, the events of its session included. -/
structure Screen where
  console : Console.State
  shown   : String := ""

namespace Screen

/-- What is shown for the events of the session. -/
def showEvents (s : Screen) : Screen :=
  let (events, queue) := s.console.engine.session.events.drain
  { console := { s.console with
                 engine := s.console.engine.modify fun s => { s with events := queue } }
    shown   := s.shown ++ Console.renderEvents events }

/-- The console after something happened to it. -/
def happen (network : Network) (s : Screen) (h : Console.Happening) : Screen :=
  let (console, text) := s.console.step network h
  { console, shown := s.shown ++ text : Screen }.showEvents

end Screen

/-- A screen as something that a stage is played with. -/
def Player.screen (network : Network) : Player Screen where
  engine s   := s.console.engine
  happen s i := (s.happen network (.session i), none)

/-- A scene of a console. -/
structure ConsoleScene where
  /-- The lines that are typed. -/
  lines   : List Console.InputLine := []
  /-- What the agent does. -/
  actions : List Action := []
  replies : List (List Action) := []

/-- The stage of a console after a line was read. -/
def Stage.readLine (network : Network) (stage : Stage Screen) (line : Console.InputLine) :
    Stage Screen :=
  { stage with actor := stage.actor.happen network (.ofLine line) }

/-- The screen after a scene, and what the session wrote meanwhile. The agent acts once the first
line was read. -/
def ConsoleScene.run (network : Network) (s : Screen) (scene : ConsoleScene) :
    Screen × List Record :=
  let P := Player.screen network
  let noted := s.console.engine.session.sent.length
  let stage : Stage Screen := { actor := s, noted, replies := scene.replies }
  let stage := (scene.lines.take 1).foldl (·.readLine network) stage
  let stage := (stage.plan scene.actions).play P
  let stage := (scene.lines.drop 1).foldl
    (fun stage line => (stage.readLine network line).play P) stage
  (stage.actor, (stage.session P).sent.drop noted)

/-- The screen after a row of scenes, and what the session wrote in each. -/
def runConsoleScenes (network : Network) (s : Screen) :
    List ConsoleScene → Screen × List (List Record)
  | []              => (s, [])
  | scene :: scenes =>
    let (s, sent) := scene.run network s
    let (s, rest) := runConsoleScenes network s scenes
    (s, sent :: rest)

/-- What is told of a rehearsal of the console. -/
structure ConsoleReport where
  /-- All that was shown. -/
  shown      : String
  /-- What the session wrote in each scene, none if the ends do not trust each other. -/
  sent       : List (List Record)
  /-- What the agent tells of the connection. -/
  impression : Option Impression

/-- A rehearsal of the console, with its input at its end after the last scene. -/
def runConsole (config : SessionConfig) (target : Target) (reception : Reception)
    (scenes : List ConsoleScene) : ConsoleReport :=
  let network := reception.network
  let (console, shown) := Console.launch config target network
  let encounter := reception.encounter target
  let (s, sent) := runConsoleScenes network { console, shown } scenes
  { shown      := (s.happen network .endOfInput).shown
    sent       := match encounter.result with
      | .ok ()   => sent
      | .error _ => []
    impression := encounter.impression }

end RemoteDebugger.Rehearsal
