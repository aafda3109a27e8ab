/-!
# Running tasks

The order in which waiting tasks go on. A machine's `step t s` is the next move of task `t` in state
`s`, or `none` when the task has to wait or has ended: what a task may do never depends on who else
wants to run, so every order of moves is a run of the machine.

`settle` is one such order. Tasks that have been woken stand in a line; the first of them makes all
the moves it can, then the next, until nobody is left in the line. Fuel bounds a run that would
never come to rest.
-/
namespace Sluice.Schedule

/-- Adds a task to the end of the line, unless it stands there. -/
def wake {τ : Type} [BEq τ] (t : τ) (line : List τ) : List τ :=
  if line.contains t then line else line ++ [t]

/-- Adds tasks to the end of the line, in order. -/
def wakeAll {τ : Type} [BEq τ] (ts line : List τ) : List τ :=
  ts.foldl (fun l t => wake t l) line

/-- All the moves that one task can make. -/
def poll {σ : Type} (step : σ → Option σ) : Nat → σ → σ
  | 0, s => s
  | fuel + 1, s =>
    match step s with
    | none => s
    | some s' => poll step fuel s'

/-- Lets the tasks in the line run until nobody stands in it. -/
def settle {σ τ : Type} (step : τ → σ → Option σ) (next : σ → Option (τ × σ)) : Nat → σ → σ
  | 0, s => s
  | fuel + 1, s =>
    match next s with
    | none => s
    | some (t, s) => settle step next fuel (poll (step t) fuel s)

/-- How many moves a run may take. -/
def fuel : Nat := 100000

end Sluice.Schedule
