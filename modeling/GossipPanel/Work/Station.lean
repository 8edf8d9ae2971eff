import GossipPanel.Display.Drawing
import GossipPanel.Display.Routing
import GossipPanel.Panel.Update
import GossipPanel.Work.Job

/-!
# The panel at work

A station is a panel with its display, its node and its files. Actions are dispatched at once; the
jobs and timers that they ask for are done while time passes.

* `Station.dispatch` applies an action and carries out its effects.
* `Station.handle` does so with the action that an event becomes.
* `Station.pass` lets time pass.
-/

namespace GossipPanel.Work

open Display Panel

/-- A timer that waits for its time. -/
structure Timer where
  id : UInt64
  /-- The time at which it fires, in milliseconds. -/
  deadline : Nat
  deriving DecidableEq, Repr

/-- A panel with its surroundings. -/
structure Station where
  app : App
  display : Display.State := {}
  node : Answers := {}
  /-- The address of the node. -/
  url : String
  files : Files := {}
  /-- Jobs that have not begun, oldest first. -/
  jobs : List Job := []
  timers : List Timer := []
  /-- Milliseconds that have passed. -/
  clock : Nat := 0

namespace Station

def addJob (s : Station) (job : Job) : Station :=
  { s with jobs := s.jobs ++ [job] }

/-- Adds a search in place of one that has not begun; its results are shown from the start. -/
def addSearch (s : Station) (session : UInt64) (query : Node.SearchQuery) : Station :=
  { s with
    jobs := s.jobs.filter (!·.isSearch) ++ [.search session query]
    display := { s.display with search := {} } }

/-- Carries out an effect. -/
def execute (s : Station) : Effect → Station
  | .fetchSnapshot generation => s.addJob (.fetchSnapshot generation)
  | .scheduleTick timer delay =>
    { s with timers := s.timers ++ [⟨timer, s.clock + delay.toNat⟩] }
  | .refreshTab peer ticket => s.addJob (.refreshTab peer ticket)
  | .startSearch session query => s.addSearch session query
  | .run command => s.addJob (.run command)
  | .pinToBottom => { s with display := s.display.pin s.app.view }
  | .quit => s

/-- Applies an action and carries out its effects; tells whether the panel is to quit. -/
def dispatch (s : Station) (action : Action) : Bool × Station :=
  let (app, effects) := update s.app action
  (effects.contains .quit, effects.foldl execute { s with app })

/-- Dispatches actions one after the other. -/
def dispatchAll (s : Station) (actions : List Action) : Station :=
  actions.foldl (fun s action => (s.dispatch action).2) s

/-- Handles an event; gives the action that it becomes, and whether the panel is to quit. -/
def handle (s : Station) (event : Event) : Option (Action × Bool) × Station :=
  match s.display.route s.app event with
  | (none, display) => (none, { s with display })
  | (some action, display) =>
    let (quit, s) := { s with display }.dispatch action
    (some (action, quit), s)

/-- The report of jobs that begin one after the other, and what is left of them. -/
def startJobs (node : Answers) (jobs : List Job) : Report × List FilePart :=
  jobs.foldl
    (fun (report, parts) job =>
      let (r, part) := job.start node
      (report ++ r, parts ++ part.toList))
    ({}, [])

/-- The report of the second parts of commands, and the files after them. -/
def finishParts (node : Answers) (files : Files) (parts : List FilePart) : Report × Files :=
  parts.foldl
    (fun (report, files) part =>
      let (r, files) := part.finish node files
      (report ++ r, files))
    ({}, files)

/-- The timers that fire by a time, in the order of their deadlines. -/
def due (timers : List Timer) (time : Nat) : List Timer :=
  (timers.filter (·.deadline ≤ time)).mergeSort fun a b => decide (a.deadline ≤ b.deadline)

/-- Lets milliseconds pass: the jobs are done, then the timers fire whose time has come. All
actions are dispatched afterwards; what they ask for waits for the next passing of time. -/
def pass (s : Station) (milliseconds : Nat) : Report × Station :=
  let time := s.clock + milliseconds
  let (started, parts) := startJobs s.node s.jobs
  let (ended, files) := finishParts s.node s.files parts
  let fired : Report := { actions := (due s.timers time).map fun t => .timerFired t.id }
  let report := started ++ ended ++ fired
  let s : Station :=
    { s with files, jobs := [], timers := s.timers.filter (time < ·.deadline), clock := time }
  (report, s.dispatchAll report.actions)

def draw (s : Station) (width height : Nat) : Scene × Station :=
  let (display, scene) := s.display.draw s.app s.url width height
  (scene, { s with display })

end Station

end GossipPanel.Work
