import SensorRelay.Console.Subscriber
import SensorRelay.Proofs.Network.Overheard

/-!
# Turns of a subscriber's console

Lines are typed one after the other, and between them the service sends what it likes. Nothing that
is printed or remembered depends on whether somebody listens in on the service.
-/

namespace SensorRelay.Console

open Auth Client Rpc

/-- What happens at a console: a line is typed, or its service does something on its own. -/
inductive Turn (σ : Type)
  | typed (line : String)
  | served (f : StateM σ (List Signal))

/-- The same turn where somebody listens in on the service. -/
def Turn.overheard {σ : Type} : Turn σ → Turn (Overheard σ)
  | typed line => typed line
  | served f => served (Overheard.pass f)

namespace SubscriberConsole

variable {σ : Type}

section Turns

variable [Service σ]

def serve (f : StateM σ (List Signal)) : SubscriberConsoleM σ Unit :=
  onNetwork do Network.receiveAll (← Network.ask f)

/-- The console after one more turn. -/
def take (c : SubscriberConsole σ) : Turn σ → SubscriberConsole σ
  | .typed line => ((enter line).run c).2
  | .served f => ((serve f).run c).2

def after (c : SubscriberConsole σ) (turns : List (Turn σ)) : SubscriberConsole σ :=
  turns.foldl take c

end Turns

theorem run_printReports (c : SubscriberConsole σ) :
    (printReports.run c).2 = { c with network := { c.network with log := [] } } := by
  cases hr : c.running <;>
    simp [printReports, onNetwork, Network.takeLog, hr] <;> rfl

section Runs

variable [Service σ]

theorem run_control (r : SubscribeRequest) (c : SubscriberConsole σ) :
    (control r).run c = match c.identity with
      | none => ([say "Log in or register first"], c)
      | some client =>
        let x := (onNetwork (Network.control sessionName client.token r)).run c
        (match x.1 with
          | .ok _ => []
          | .error e => [say e.message], x.2) := by
  simp only [control, StateT.run_bind, StateT.run_get, pure_bind]
  cases c.identity with
  | none => rfl
  | some client =>
    dsimp only
    rw [StateT.run_bind]
    generalize (onNetwork (Network.control sessionName client.token r)).run c = x
    obtain ⟨answer, c'⟩ := x
    cases answer <;> rfl

/-- What is printed for a line before the reports, whatever the line is. -/
def answer (line : String) : SubscriberConsoleM σ (List String) :=
  match SubscriberLine.parse line with
  | .ok l => answerLine l
  | .error e => pure [e.message]

theorem run_enter (line : String) (c : SubscriberConsole σ) :
    (enter line).run c =
      if c.running then
        let x := (answer line).run c
        let y := printReports.run x.2
        (x.1.flatMap (·.splitOn "\n") ++ y.1, y.2)
      else ([], c) := by
  simp only [enter, answer, StateT.run_bind, StateT.run_get, pure_bind]
  cases c.running with
  | false => rfl
  | true => cases SubscriberLine.parse line <;> rfl

end Runs

/-- The console of the service itself. -/
def unheard (c : SubscriberConsole (Overheard σ)) : SubscriberConsole σ :=
  { c with network := c.network.unheard }

theorem forgets_onNetwork {α : Type} {f : NetworkM (Overheard σ) α} {g : NetworkM σ α}
    (h : Forgets Network.unheard f g) : Forgets unheard (onNetwork f) (onNetwork g) := by
  intro c
  have hnetwork := h c.network
  change ((g.run c.network.unheard).1,
    ({ c.unheard with network := (g.run c.network.unheard).2 } : SubscriberConsole σ)) = _
  rw [hnetwork]
  rfl

theorem forgets_adopt (greeting : String) (answer : Except Error ClientIdentity) :
    Forgets (unheard (σ := σ)) (adopt greeting answer) (adopt greeting answer) := by
  cases answer <;> exact fun _ => rfl

theorem forgets_printReports :
    Forgets (unheard (σ := σ)) printReports printReports := by
  intro c
  cases hr : c.running <;>
    simp [printReports, onNetwork, Network.takeLog, hr, unheard] <;> rfl

variable [Service σ]

theorem forgets_control (r : SubscribeRequest) :
    Forgets (unheard (σ := σ)) (control r) (control r) := by
  intro c
  have hidentity : c.unheard.identity = c.identity := rfl
  rw [run_control, run_control, hidentity]
  cases c.identity with
  | none => rfl
  | some client =>
    dsimp only
    rw [forgets_onNetwork (Network.forgets_control sessionName client.token r) c]

theorem forgets_answerLine (l : SubscriberLine) :
    Forgets (unheard (σ := σ)) (answerLine l) (answerLine l) := by
  have hoccasion :
      Forgets (unheard (σ := σ)) (onNetwork Network.occasion) (onNetwork Network.occasion) :=
    forgets_onNetwork fun _ => rfl
  have hask {α : Type} {f : StateM (Overheard σ) α} {g : StateM σ α}
      (h : Forgets Overheard.inner f g) :
      Forgets unheard (onNetwork (Network.ask f)) (onNetwork (Network.ask g)) :=
    forgets_onNetwork (Network.forgets_ask h)
  cases l with
  | empty => exact .pure _
  | register login password email =>
    refine hoccasion.bind fun o => (hask ?_).bind (forgets_adopt _)
    rw [Overheard.registerClient_eq]
    exact fun _ => rfl
  | logIn login password =>
    refine hoccasion.bind fun o => (hask ?_).bind (forgets_adopt _)
    rw [Overheard.logIn_eq]
    exact fun _ => rfl
  | list =>
    refine Forgets.bind (hask (g := roster []) ?_) fun answer => ?_
    · rw [Overheard.roster_eq]
      exact fun _ => rfl
    · cases answer <;> exact fun _ => rfl
  | history sensorId depth =>
    refine Forgets.bind (hask (g := history sensorId depth) ?_) fun answer => ?_
    · rw [Overheard.history_eq]
      exact fun _ => rfl
    · cases answer <;> exact fun _ => rfl
  | subscribeOn sensorId => exact forgets_control _
  | unsubscribeFrom sensorId => exact forgets_control _
  | disconnect =>
    refine (forgets_onNetwork (Network.forgets_close sessionName)).bind fun answer => ?_
    cases answer <;> exact .pure _
  | quit =>
    refine Forgets.bind (fun _ => rfl) fun _ => ?_
    exact (forgets_onNetwork (Network.forgets_close sessionName)).bind fun _ => .pure _

theorem forgets_enter (line : String) :
    Forgets (unheard (σ := σ)) (enter line) (enter line) := by
  have hanswer : Forgets (unheard (σ := σ)) (answer line) (answer line) := by
    unfold answer
    cases SubscriberLine.parse line with
    | ok l => exact forgets_answerLine l
    | error e => exact .pure _
  intro c
  have hrunning : c.unheard.running = c.running := rfl
  rw [run_enter, run_enter, hrunning]
  cases c.running with
  | false => rfl
  | true =>
    simp only [if_true]
    rw [hanswer c]
    dsimp only
    rw [forgets_printReports]

theorem unheard_take (c : SubscriberConsole (Overheard σ)) (t : Turn σ) :
    (c.take t.overheard).unheard = c.unheard.take t := by
  cases t with
  | typed line => exact (congrArg Prod.snd (forgets_enter line c)).symm
  | served f =>
    have hserve : Forgets (unheard (σ := σ)) (serve (Overheard.pass f)) (serve f) :=
      forgets_onNetwork ((Network.forgets_ask fun _ => rfl).bind Network.forgets_receiveAll)
    exact (congrArg Prod.snd (hserve c)).symm

theorem unheard_after (c : SubscriberConsole (Overheard σ)) (turns : List (Turn σ)) :
    (c.after (turns.map .overheard)).unheard = c.unheard.after turns := by
  induction turns generalizing c with
  | nil => rfl
  | cons t turns ih => exact (ih _).trans (congrArg (after · turns) (unheard_take c t))

end SubscriberConsole

end SensorRelay.Console
