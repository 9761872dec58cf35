import QueryByExample.Proofs.Compile
import QueryByExample.Session
/-!
# Runs of sessions

A session keeps nothing but the queries that were asked. Every step is answered as if it were the
only one: its reply is a function of the step alone, and the executor is asked once for every
document that is transformed and compiles, also if it then fails.

## Main definitions

- `Session.Step.query?`: the query that a step asks.
- `Session.outcome`: what a step is answered.

## Main statements

- `Session.exists_reply`: one step, after any queries.
- `Session.run_stateless`: a whole run.
-/

namespace QueryByExample

namespace Settings

variable (settings : Settings)

theorem outcome_compile (document : Json) :
    (settings.compile document).outcome =
      (QueryByExample.compile document).outcome.mapError .prototype := by
  simp only [compile, Traced.outcome_bind, Traced.mapError, Traced.outcome_report,
    Traced.outcome_pure]
  cases (QueryByExample.compile document).outcome <;> rfl

theorem outcome_finish (compiled : CompiledQuery) (response : Except ExecutionError ResultSet) :
    (settings.finish compiled response).outcome =
      (response.mapError .execution).map (compiled.assemble settings) := by
  cases response <;> rfl

/-- With a fixed response, a document is transformed by compiling it and finishing its query; the
query is asked once, if there is one. -/
theorem run_transform (executor : Canned) (document : Json) (asked : List String) :
    (settings.transform executor.execute document).run asked =
      ((settings.compile document).andThen fun compiled =>
          settings.finish compiled executor.response,
        asked ++ ((QueryByExample.compile document).outcome.toOption.map
          CompiledQuery.text).toList) := by
  have hcompile := settings.outcome_compile document
  cases h : (QueryByExample.compile document).outcome with
  | ok compiled =>
    rw [h, Except.mapError] at hcompile
    simp only [transform, Traced.andThen, hcompile]
    rfl
  | error fault =>
    rw [h, Except.mapError] at hcompile
    simp only [transform, Traced.andThen, hcompile, Except.toOption, Option.map_none,
      Option.toList_none, List.append_nil]
    rfl

end Settings

namespace Session

/-- The document of a step. -/
def Step.document : Step → Json
  | .compile document | .transform document | .assemble document _ => document

/-- The query that a step asks: only a document that is transformed asks one, if it compiles. -/
def Step.query? : Step → Option String
  | .transform document =>
    (QueryByExample.compile document).outcome.toOption.map CompiledQuery.text
  | .compile _ | .assemble _ _ => none

/-- What a step is answered if its document compiles. -/
def answer (session : Session) (compiled : CompiledQuery) : Step → Except TransformError Reply
  | .compile _ => .ok (.query compiled.text)
  | .transform _ =>
    match session.executor.response with
    | .ok results => .ok (.output (compiled.assemble session.settings results))
    | .error fault => .error (.execution fault)
  | .assemble _ results => .ok (.output (compiled.assemble session.settings results))

/-- What a step is answered. -/
def outcome (session : Session) (step : Step) : Except TransformError Reply :=
  match (QueryByExample.compile step.document).outcome with
  | .ok compiled => session.answer compiled step
  | .error fault => .error (.prototype fault)

variable (session : Session)

/-- The reply to one step does not depend on the queries that were asked before, and the step adds
its own query to them. -/
theorem exists_reply (step : Step) :
    ∃ reply, reply.outcome = session.outcome step ∧
      ∀ asked, (session.reply step).run asked = (reply, asked ++ step.query?.toList) := by
  cases step with
  | compile document =>
    refine ⟨_, ?_, fun asked => by rw [Step.query?, Option.toList_none, List.append_nil]; rfl⟩
    rw [Traced.outcome_bind, Settings.outcome_compile, outcome, Step.document]
    cases (QueryByExample.compile document).outcome <;> rfl
  | transform document =>
    refine ⟨(session.settings.compile document).andThen (fun compiled =>
      session.settings.finish compiled session.executor.response) >>= fun answer =>
        pure (.output answer), ?_, fun asked => ?_⟩
    · -- with a fixed response the two halves of a transformation are one sequence again
      change ((session.settings.compile document >>= _) >>= _).outcome = _
      rw [Traced.outcome_bind, Traced.outcome_bind, Settings.outcome_compile, outcome,
        Step.document]
      cases (QueryByExample.compile document).outcome with
      | ok compiled =>
        simp only [Except.mapError, Except.bind, Settings.outcome_finish, answer]
        cases session.executor.response <;> rfl
      | error fault => rfl
    · simp only [reply, StateT.run_bind, Settings.run_transform]
      rfl
  | assemble document results =>
    refine ⟨_, ?_, fun asked => by rw [Step.query?, Option.toList_none, List.append_nil]; rfl⟩
    rw [Traced.outcome_bind, Settings.outcome_compile, outcome, Step.document]
    cases (QueryByExample.compile document).outcome <;> rfl

/-- A whole run, step by step. -/
theorem getElem?_run {reply : Step → Traced TransformError Reply}
    (hstep : ∀ step asked, (session.reply step).run asked =
      (reply step, asked ++ step.query?.toList)) (asked : List String) (steps : List Step)
    (i : Nat) :
    (session.run asked steps)[i]? = steps[i]?.map fun step =>
      (reply step, asked ++ (steps.take (i + 1)).filterMap Step.query?) := by
  -- the rest of a run starts with a longer log, so the induction is over every log
  induction steps generalizing asked i with
  | nil => rfl
  | cons step rest ih =>
    have hrun : session.run asked (step :: rest) =
        (reply step, asked ++ step.query?.toList) ::
          session.run (asked ++ step.query?.toList) rest := by
      rw [run, hstep]
    have htaken : ∀ taken : List Step, (step :: taken).filterMap Step.query? =
        step.query?.toList ++ taken.filterMap Step.query? := by
      intro taken
      cases h : step.query? <;> simp [h]
    rw [hrun]
    cases i with
    | zero => simp [htaken]
    | succ i => simp [ih, htaken]

/-- A session has no state but its log, and it asks once for every document. Each step has an answer
of its own, whatever was asked before and whatever the other steps are: the reason why its document
does not compile, the failure of the executor, or the answer that is assembled from the result.
After each step the log holds the queries of the documents that were transformed so far and compile,
in order. -/
theorem run_stateless :
    ∃ reply : Step → Traced TransformError Reply,
      (∀ step, (reply step).outcome = session.outcome step) ∧
      ∀ (asked : List String) (steps : List Step) (i : Nat),
        (session.run asked steps)[i]? = steps[i]?.map fun step =>
          (reply step, asked ++ (steps.take (i + 1)).filterMap Step.query?) := by
  choose reply houtcome hstep using session.exists_reply
  exact ⟨reply, houtcome, session.getElem?_run hstep⟩

end Session

end QueryByExample
