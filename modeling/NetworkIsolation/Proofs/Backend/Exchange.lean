import NetworkIsolation.Backend.Juju
import NetworkIsolation.Backend.Kubectl
import NetworkIsolation.Proofs.Backend.Observation

/-!
# Exchanges with a script

A script answers every command with its next reply.  A command and its reply
are an exchange, and the exchanges of a run are what can be told about it from
outside.

The second word of a command line, after the credentials, says what the command
does.  Three kinds of commands may be refused without consequence: a change of
subnets, a configuration of the model, and a creation, which is followed by a
replacement.  The output of two kinds is read.  Every other refusal and every
output that cannot be read is fatal.
-/

namespace NetworkIsolation.Backend

/-- Whether a backend did not do what it was asked. -/
def isRefusal {α : Type} : Reply α → Bool
  | .ok _ => false
  | .error _ => true

@[simp]
theorem isRefusal_ok {α : Type} (value : α) : isRefusal (.ok value) = false := rfl

@[simp]
theorem isRefusal_error {α : Type} (cause : BackendError) :
    isRefusal (.error cause : Reply α) = true := rfl

@[simp]
theorem isRefusal_map {α β : Type} (reply : Reply α) (change : α → β) :
    isRefusal (reply.map change) = isRefusal reply := by
  cases reply <;> rfl

/-- A command and the reply that it got. -/
structure Exchange where
  command : Command
  reply : Reply String

namespace Command

/-- The word that says what the command does, after the program and its credentials. -/
def verb (command : Command) : String :=
  let arguments := command.line.drop 1
  if arguments.head? = some "--kubeconfig" then (arguments.drop 2).headD ""
  else arguments.headD ""

end Command

/-- Whether a command that does what a word says may be refused without ending the run. -/
def isTolerated (verb : String) : Bool :=
  ["set-space-subnets", "model-config", "create"].contains verb

/-- Whether the output of a command can be read, if it is read at all. -/
def isReadable (verb output : String) : Bool :=
  if verb = "spaces" then !isRefusal (Juju.spacesOf output)
  else if verb = "status" then !isRefusal (Juju.applicationsOf output)
  else true

/-- The name of the step that issues a command. -/
def stepOf (verb : String) : String :=
  if ["spaces", "add-space", "set-space-subnets", "model-config"].contains verb then "spaces"
  else "pools"

namespace Exchange

/-- The name of the step that issued the command. -/
def step (exchange : Exchange) : String :=
  stepOf exchange.command.verb

/-- Whether the reply ends the run. -/
def isFatal (exchange : Exchange) : Bool :=
  match exchange.reply with
  | .ok output => !isReadable exchange.command.verb output
  | .error _ => !isTolerated exchange.command.verb

/-- Whether a creation was refused. -/
def isRefusedCreation (exchange : Exchange) : Bool :=
  exchange.command.verb = "create" && isRefusal exchange.reply

/-- Whether the command replaces what another command was to create, fed with the same text. -/
def Replaces (exchange creation : Exchange) : Prop :=
  exchange.command.verb = "replace" ∧ exchange.command.input = creation.command.input

end Exchange

namespace Script

/-- The reply that a script has for the command at a position. -/
def replyAt (script : Script) (position : Nat) : Reply String :=
  (script.replies[position]?).getD (.ok "")

/-- One script is what is left of another one after a list of exchanges. -/
structure Reaches (before : Script) (exchanges : List Exchange) (after : Script) : Prop where
  commands : after.commands = before.commands ++ exchanges.map Exchange.command
  replies : after.replies = before.replies.drop exchanges.length
  answers : ∀ position exchange, exchanges[position]? = some exchange →
    exchange.reply = before.replyAt position

theorem Reaches.stays (script : Script) : script.Reaches [] script where
  commands := by simp
  replies := by simp
  answers := by simp

theorem Reaches.joins {first second third : Script} {exchanges further : List Exchange}
    (early : first.Reaches exchanges second) (late : second.Reaches further third) :
    first.Reaches (exchanges ++ further) third where
  commands := by
    rw [late.commands, early.commands, List.map_append, List.append_assoc]
  replies := by
    rw [late.replies, early.replies, List.drop_drop, List.length_append]
  answers := by
    intro position exchange found
    by_cases inside : position < exchanges.length
    · rw [List.getElem?_append_left inside] at found
      exact early.answers position exchange found
    · have beyond : exchanges.length ≤ position := Nat.le_of_not_lt inside
      rw [List.getElem?_append_right beyond] at found
      rw [late.answers _ exchange found, replyAt, replyAt, early.replies, List.getElem?_drop,
        Nat.add_sub_cancel' beyond]

/-- A script is observed by its exchanges. -/
def observation : Observation Script Exchange where
  reaches := Reaches
  stays := Reaches.stays
  joins := Reaches.joins

/-- Running a command on a script is one exchange. -/
theorem emits_run (command : Command) :
    observation.Emits (invoker.run command) fun reply exchanges =>
      exchanges = [⟨command, reply⟩] := by
  intro script
  refine ⟨[⟨command, script.replyAt 0⟩], ⟨rfl, rfl, ?_⟩, ?_⟩
  · intro position exchange found
    cases position with
    | zero =>
        cases found
        rfl
    | succ position => simp at found
  · cases replies : script.replies <;> simp [invoker, play, replyAt, replies]

end Script

end NetworkIsolation.Backend
