import ActionGraph.Process.Basic

/-!
# Time limits

A process under a time limit is asked first and the limit after it: work that
ends at the very moment of the limit has ended in time, and work that never
waits ends in time under any limit.
-/

namespace ActionGraph.Process

variable {W α : Type}

/--
The process under a limit whose alarm is set, given the time.  It answers
nothing if the alarm rings first.
-/
def underAlarm (limit : Alarm) : Nat → Process W α → Process W (Option α)
  | _, .done a => .done (some a)
  | now, .act change next => .act change fun w => (next w).underAlarm limit now
  | now, .wait alarm next =>
      if limit.due ≤ now then .done none
      else if alarm.due ≤ limit.due then
        .wait (alarm.first limit) (next.underAlarm limit alarm.due)
      else .wait limit (.done none)

def within? [Clocked W] (milliseconds : Nat) (start : Nat) :
    Process W α → Process W (Option α)
  | .done a => .done (some a)
  | .act change next => .act change fun w => (next w).within? milliseconds start
  | .wait alarm next =>
      if milliseconds = 0 then .done none
      else
        .act Clocked.setAlarm fun w =>
          (Process.wait alarm next).underAlarm ⟨start + milliseconds, Clocked.alarms w⟩ start

def timeout [Clocked W] (milliseconds : Nat) (p : Process W α) : Process W (Option α) :=
  now.bind fun start => p.within? milliseconds start

end ActionGraph.Process
