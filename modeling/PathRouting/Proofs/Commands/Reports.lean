import PathRouting.CommandLine.Run

/-!
# What commands leave behind

Each command prints after all that can fail.  So what a run leaves behind is known from how it ends:
the complaint alone, or what was printed.
-/

namespace PathRouting

/-! ## Steps of a command -/

namespace CommandLine

variable {α β : Type} {host : Host} {config path template : String} {data args : List String}
  {command other : Command} {op : Operation} {trace : Bool}

namespace CommandM

theorem lift_ok_bind (a : α) (f : α → CommandM β) :
    (liftM (Except.ok a : Except CommandError α) >>= f) = f a := rfl

theorem lift_error_bind (e : CommandError) (f : α → CommandM β) :
    (liftM (Except.error e : Except CommandError α) >>= f) = throw e := rfl

theorem run_printLine (line : String) (start : Output) : (printLine line).run.run start =
    (.ok (), ⟨start.out ++ line ++ "\n", start.err⟩) := rfl

theorem run_showLine_printLine (shown line : String) (start : Output) :
    (do showLine shown; printLine line : CommandM Unit).run.run start =
      (.ok (), ⟨start.out ++ line ++ "\n", start.err ++ shown ++ "\n"⟩) := rfl

/-- If the step fails, it has printed nothing. -/
def FailsSilently (m : CommandM α) : Prop :=
  ∀ start e after, m.run.run start = (.error e, after) → after = start

/-- The step does not fail, whatever was printed before. -/
def Succeeds (m : CommandM Unit) : Prop :=
  ∀ start, ∃ after, m.run.run start = (.ok (), after)

theorem succeeds_printLine (line : String) : Succeeds (printLine line) :=
  fun _ => ⟨_, rfl⟩

theorem succeeds_showLine (line : String) : Succeeds (showLine line) :=
  fun _ => ⟨_, rfl⟩

theorem Succeeds.seq {first next : CommandM Unit} (ends : Succeeds first) (rest : Succeeds next) :
    Succeeds (first >>= fun _ => next) := by
  intro start
  obtain ⟨middle, first⟩ := ends start
  obtain ⟨after, next⟩ := rest middle
  refine ⟨after, ?_⟩
  simp only [ExceptT.run_bind, StateT.run_bind] at first next ⊢
  rw [first]
  exact next

theorem succeeds_forM {f : α → CommandM Unit} (each : ∀ a, Succeeds (f a)) (items : List α) :
    Succeeds (items.forM f) := by
  induction items with
  | nil => exact fun _ => ⟨_, rfl⟩
  | cons a items ih => exact (each a).seq ih

theorem Succeeds.failsSilently {m : CommandM Unit} (ends : Succeeds m) : FailsSilently m := by
  intro start e after fails
  obtain ⟨_, succeeds⟩ := ends start
  cases succeeds.symm.trans fails

theorem failsSilently_lift_bind {x : Except CommandError α} {f : α → CommandM β}
    (rest : ∀ a, FailsSilently (f a)) : FailsSilently (liftM x >>= f) := by
  cases x with
  | error e =>
    intro start e' after fails
    exact (Prod.mk.inj fails).2.symm
  | ok a => exact rest a

end CommandM

theorem dispatchOn_failsSilently (host : Host) (config : String) (op : Operation)
    (options : DispatchOptions) : (dispatchOn host config op options).FailsSilently := by
  refine CommandM.failsSilently_lift_bind fun loaded => ?_
  dsimp only
  split
  · refine CommandM.failsSilently_lift_bind fun trace => ?_
    have shown := CommandM.succeeds_showLine trace.display
    exact (shown.seq (CommandM.succeeds_printLine _)).failsSilently
  · exact CommandM.failsSilently_lift_bind fun _ => (CommandM.succeeds_printLine _).failsSilently

/-- Every line is printed after all that can fail. -/
theorem execute_failsSilently (host : Host) (command : Command) :
    (execute host command).FailsSilently := by
  cases command with
  | info =>
    have header := CommandM.succeeds_printLine "Registered handlers:"
    exact (header.seq
      (CommandM.succeeds_forM (fun _ => CommandM.succeeds_printLine _) _)).failsSilently
  | check config =>
    exact CommandM.failsSilently_lift_bind fun _ => (CommandM.succeeds_printLine _).failsSilently
  | change config path options => exact dispatchOn_failsSilently host config _ options
  | set config template data options =>
    exact CommandM.failsSilently_lift_bind fun _ => dispatchOn_failsSilently host config _ options
  | expand template data =>
    exact CommandM.failsSilently_lift_bind fun _ =>
      CommandM.failsSilently_lift_bind fun _ => (CommandM.succeeds_printLine _).failsSilently

/-! ## Reports -/

def Report.errorText (report : Report) : String :=
  if report.exitCode = 0 then "" else report.err

/-- Two runs that differ at most in the steps that they show. -/
structure Report.Alike (report other : Report) : Prop where
  exitCode : report.exitCode = other.exitCode
  out : report.out = other.out
  errorText : report.errorText = other.errorText

/-- The run succeeds, and what it prints is one line. -/
structure Report.Prints (report : Report) (line : String) : Prop where
  exitCode : report.exitCode = 0
  out : report.out = line ++ "\n"

def CommandError.report (e : CommandError) : Report :=
  ⟨1, "", "error: " ++ e.message ++ "\n"⟩

theorem report_of_ok {after : Output}
    (ends : (execute host command).run.run ⟨"", ""⟩ = (.ok (), after)) :
    report host command = ⟨0, after.out, after.err⟩ := by
  simp only [report, ends]

theorem report_of_error {e : CommandError} {after : Output}
    (fails : (execute host command).run.run ⟨"", ""⟩ = (.error e, after)) :
    report host command = e.report := by
  obtain rfl := execute_failsSilently host command _ _ _ fails
  simp only [report, fails, CommandError.report, String.empty_append]

theorem report_of_printLine {line : String} (prints : execute host command = printLine line) :
    report host command = ⟨0, line ++ "\n", ""⟩ := by
  have ends : (execute host command).run.run ⟨"", ""⟩ = (.ok (), ⟨line ++ "\n", ""⟩) := by
    rw [prints, CommandM.run_printLine, String.empty_append]
  exact report_of_ok ends

theorem report_of_throw {e : CommandError} (fails : execute host command = throw e) :
    report host command = e.report :=
  report_of_error (by rw [fails]; rfl)

theorem out_of_failed (exits : (report host command).exitCode = 1) :
    (report host command).out = "" := by
  cases ends : (execute host command).run.run ⟨"", ""⟩ with
  | mk result after =>
    cases result with
    | ok => simp [report_of_ok ends] at exits
    | error e => rw [report_of_error ends, CommandError.report]

theorem prints_iff {line text shown : String} :
    (⟨0, line ++ "\n", shown⟩ : Report).Prints text ↔ line = text := by
  constructor
  · intro prints
    exact (String.append_left_inj "\n").mp prints.out
  · rintro rfl
    exact ⟨rfl, rfl⟩

theorem CommandError.not_prints (e : CommandError) (text : String) : ¬ e.report.Prints text :=
  fun prints => Nat.one_ne_zero prints.exitCode

end CommandLine

end PathRouting
