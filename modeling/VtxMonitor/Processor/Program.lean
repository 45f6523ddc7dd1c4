import VtxMonitor.Processor.Operation

/-!
# Processor/Program — programs as trees of operations

A `Program` is a finite tree: a request to the processor and, for every reply, the rest. What a
program means depends on the `Hardware` that answers: `Hardware.run` threads a state through the
tree, `Hardware.runLogged` also keeps a journal of what is reported, and **the journal changes
nothing else** (`runLogged_fst`, `runLogged_snd_fst`). Programs are a lawful monad, and running
commutes with sequencing (`run_bind`).
-/

namespace VtxMonitor

/-- A program for one processor that ends with a value of type `α`. -/
inductive Program (α : Type) : Type where
  | done (value : α)
  | perform (op : Operation) (next : op.Reply → Program α)

namespace Program

variable {α β γ : Type}

/-- Goes on with a second program from the value of the first. -/
def bind : Program α → (α → Program β) → Program β
  | .done value, f => f value
  | .perform op next, f => .perform op fun reply => (next reply).bind f

instance : Monad Program where
  pure := .done
  bind := bind

@[simp]
theorem pure_eq (a : α) : (pure a : Program α) = .done a := rfl

@[simp]
theorem done_bind (a : α) (f : α → Program β) : (Program.done a >>= f) = f a := rfl

@[simp]
theorem perform_bind (op : Operation) (next : op.Reply → Program α) (f : α → Program β) :
    (Program.perform op next >>= f) = .perform op fun reply => next reply >>= f := rfl

theorem bind_done (p : Program α) : p >>= Program.done = p := by
  induction p with
  | done a => rfl
  | perform op next ih => exact congrArg (Program.perform op) (funext ih)

theorem bind_assoc (p : Program α) (f : α → Program β) (g : β → Program γ) :
    (p >>= f) >>= g = p >>= fun a => f a >>= g := by
  induction p with
  | done a => rfl
  | perform op next ih => exact congrArg (Program.perform op) (funext ih)

instance : LawfulMonad Program :=
  LawfulMonad.mk' Program bind_done (fun _ _ => rfl) bind_assoc

/-- A single request, whose reply is the value. -/
def request (op : Operation) : Program op.Reply := .perform op .done

/-- Reports a diagnostic. -/
def report (diagnostic : Diagnostic) : Program Unit := request (.report diagnostic)

/-- Reports diagnostics in order. -/
def reportAll : List Diagnostic → Program Unit
  | [] => pure ()
  | diagnostic :: rest => do
      report diagnostic
      reportAll rest

end Program

/-- Something that answers the requests of programs, with a state of type `σ`. Besides the reply it
may have something to report about a request. -/
structure Hardware (σ : Type) where
  answer : (op : Operation) → σ → op.Reply × σ
  remarks : Operation → σ → List Diagnostic := fun _ _ => []

namespace Hardware

variable {σ α β : Type}

/-- Everything that is reported when a request is made. -/
def reports (hw : Hardware σ) (op : Operation) (s : σ) : List Diagnostic :=
  match op with
  | .report diagnostic => [diagnostic]
  | op => hw.remarks op s

/-- Runs a program from a state to its value and the state it leaves. -/
def run (hw : Hardware σ) : Program α → σ → α × σ
  | .done value, s => (value, s)
  | .perform op next, s =>
      let answer := hw.answer op s
      hw.run (next answer.1) answer.2

/-- Runs a program and collects what is reported on the way. -/
def runLogged (hw : Hardware σ) : Program α → σ → Journal → α × σ × Journal
  | .done value, s, journal => (value, s, journal)
  | .perform op next, s, journal =>
      let answer := hw.answer op s
      hw.runLogged (next answer.1) answer.2 (journal.addAll (hw.reports op s))

@[simp]
theorem run_done (hw : Hardware σ) (a : α) (s : σ) : hw.run (.done a) s = (a, s) := rfl

@[simp]
theorem run_perform (hw : Hardware σ) (op : Operation) (next : op.Reply → Program α) (s : σ) :
    hw.run (.perform op next) s = hw.run (next (hw.answer op s).1) (hw.answer op s).2 := rfl

theorem run_bind (hw : Hardware σ) (p : Program α) (f : α → Program β) (s : σ) :
    hw.run (p >>= f) s = hw.run (f (hw.run p s).1) (hw.run p s).2 := by
  induction p generalizing s with
  | done a => rfl
  | perform op next ih => exact ih _ _

/-- Collecting reports does not change the value. -/
theorem runLogged_fst (hw : Hardware σ) (p : Program α) (s : σ) (journal : Journal) :
    (hw.runLogged p s journal).1 = (hw.run p s).1 := by
  induction p generalizing s journal with
  | done a => rfl
  | perform op next ih => exact ih _ _ _

/-- Collecting reports does not change the state. -/
theorem runLogged_snd_fst (hw : Hardware σ) (p : Program α) (s : σ) (journal : Journal) :
    (hw.runLogged p s journal).2.1 = (hw.run p s).2 := by
  induction p generalizing s journal with
  | done a => rfl
  | perform op next ih => exact ih _ _ _

end Hardware

end VtxMonitor
