import Mockly.IMAP.Session
import Mockly.Lib.Process
import Mockly.Go.Slices

/-!
# IMAP lines that make the server panic

`FETCH` answers with the items `args[1:]` of each message it finds, and nothing checks that there is
a first argument.

Main result: **`session_ne_error_iff`**.
-/

namespace Mockly.IMAP

variable (cfg : Config)

/-! ## One line -/

def Line.struck (line : Line) : Bool := line.fault.isSome && line.roll

lemma faultLine_eq_none_iff (line : Line) (tag : GoString) :
    faultLine line tag = none ↔ line.struck = false := by
  cases hfault : line.fault <;> simp [faultLine, Line.struck, hfault]

/-- A `FETCH` without arguments, in a mailbox that is not empty. -/
def BareFetch (c : Conn) (line : Line) : Prop :=
  c.state = .selected ∧ c.selected.messages ≠ [] ∧ line.struck = false ∧
    ∃ command ∈ parseCommand cfg line.text, command.cmd = go "FETCH" ∧ command.args = []

lemma fetch_panicked_iff (c : Conn) (command : Command) :
    (fetch cfg c command).next = .panicked ↔ c.selected.messages ≠ [] ∧ command.args = [] := by
  have hall : command.args = [] →
      fetchMessages c.selected.messages (command.args.headD []) = c.selected.messages := by
    intro hargs
    simp [hargs, fetchMessages]
  rw [fetch]
  split_ifs with hpanic
  · rw [hall hpanic.2] at hpanic
    exact iff_of_true rfl hpanic
  · exact iff_of_false (by simp) fun h => hpanic ⟨by rw [hall h.2]; exact h.1, h.2⟩

lemma not_panicked_ite {p : Prop} [Decidable p] {a b : Answer} (ha : a.next ≠ .panicked)
    (hb : b.next ≠ .panicked) : (if p then a else b).next ≠ .panicked := by
  split_ifs
  · exact ha
  · exact hb

lemma handleCommand_panicked_iff (mailboxes : List IMAPMailbox) (c : Conn) (line : Line)
    (command : Command) :
    (handleCommand cfg mailboxes c line command).next = .panicked ↔
      c.state = .selected ∧ line.struck = false ∧ command.cmd = go "FETCH" ∧
        c.selected.messages ≠ [] ∧ command.args = [] := by
  by_cases hfetch : command.cmd = go "FETCH"
  · have hother : ∀ name, name ≠ go "FETCH" → command.cmd ≠ name := by
      intro name hname heq
      exact hname (heq.symm.trans hfetch)
    rw [handleCommand, if_neg (hother _ (by decide)), if_neg (hother _ (by decide)),
      if_neg (hother _ (by decide)), if_neg (hother _ (by decide)),
      if_neg (hother _ (by decide)), if_pos hfetch]
    by_cases hstate : c.state = .selected
    · cases hline : faultLine line command.tag with
      | none =>
        have hstruck := (faultLine_eq_none_iff line command.tag).mp hline
        simp [hstate, hstruck, hfetch, fetch_panicked_iff]
      | some reply =>
        have hstruck : line.struck ≠ false := by
          rw [Ne, ← faultLine_eq_none_iff line command.tag, hline]
          simp
        simp [hstate, hstruck]
    · simp [hstate]
  · refine iff_of_false ?_ fun h => hfetch h.2.2.1
    unfold handleCommand
    dsimp only
    rw [if_neg hfetch]
    -- Every other command goes on or closes the connection.
    cases findMailbox cfg mailboxes (join command.args (go " ")) <;>
      cases faultLine line command.tag <;>
      repeat' apply not_panicked_ite
    all_goals nofun

/-- **The lines that make the loop panic.** -/
lemma handleLine_panicked_iff (mailboxes : List IMAPMailbox) (c : Conn) (line : Line) :
    (handleLine cfg mailboxes c line).next = .panicked ↔ BareFetch cfg c line := by
  rw [handleLine, BareFetch]
  cases hparse : parseCommand cfg line.text with
  | none => simp
  | some command =>
    simp only [handleCommand_panicked_iff, Option.mem_def, Option.some.injEq, exists_eq_left']
    tauto

/-! ## The session -/

/-- A line, and the mailboxes there are when it is handled. -/
structure Turn where
  mailboxes : List IMAPMailbox
  line : Line

def Next.outcome : Next → Except Panic (Option Conn)
  | .continue c => .ok (some c)
  | .closed => .ok none
  | .panicked => .error .sliceBounds

lemma outcome_eq_error_iff (n : Next) : (∃ e, n.outcome = .error e) ↔ n = .panicked := by
  cases n <;> simp [Next.outcome]

/-- One round of the loop of `handleConn`. -/
def turn (c : Conn) (t : Turn) : Except Panic (Option Conn) :=
  (handleLine cfg t.mailboxes c t.line).next.outcome

/-- The loop of `handleConn`: a panic, the end, or what it keeps after all lines. -/
def session : List Turn → Except Panic (Option Conn) := Process.run (turn cfg) {}

lemma turn_ne_error_iff (c : Conn) (t : Turn) :
    (∀ e, turn cfg c t ≠ .error e) ↔ ¬BareFetch cfg c t.line := by
  rw [← handleLine_panicked_iff cfg t.mailboxes, ← outcome_eq_error_iff, not_exists]
  rfl

/-- **Whether a session survives.** -/
theorem session_ne_error_iff (turns : List Turn) :
    (∀ e, session cfg turns ≠ .error e) ↔
      Process.Along (turn cfg) (fun c t => ¬BareFetch cfg c t.line) {} turns :=
  Process.run_ne_error_iff (turn_ne_error_iff cfg) {} turns

def oneMessage : IMAPMailbox where
  name := go "INBOX"
  messages := [{ seqNum := 1 }]

/-- `LOGIN`, `SELECT` and a `FETCH` without arguments. -/
theorem session_bare_fetch :
    session oneUser
      [⟨[oneMessage], { text := go "a LOGIN u p\r\n" }⟩,
        ⟨[oneMessage], { text := go "b SELECT INBOX\r\n" }⟩,
        ⟨[oneMessage], { text := go "c FETCH\r\n" }⟩] = .error .sliceBounds :=
  rfl

end Mockly.IMAP
