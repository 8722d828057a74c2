import Parley.Console.Session
import Parley.Proofs.Chat
import Parley.Proofs.Stopping

namespace Parley.Console

variable {c : Console} {s t : State} {due : List Move} {actions : List Action} {now : Instant}

theorem obey_closed {command : Command} (h : command ≠ .quit) :
    (c.obey s now command).1.closed = s.closed := by
  have hcancel : s.cancelCurrent.closed = s.closed := by
    unfold State.cancelCurrent
    split
    · rw [State.abandon_eq]
    · rfl
  cases command with
  | quit => exact absurd rfl h
  | nothing | history => rfl
  | stop | clear => exact hcancel
  | prompt text => exact (State.submit_frame _ _).2.2

namespace Loop

theorem play_append {l l' : Loop} {first : List Tick} (h : l.play c first = some l')
    (second : List Tick) : l.play c (first ++ second) = l'.play c second := by
  induction first generalizing l with
  | nil =>
    cases h
    rfl
  | cons tick rest ih =>
    obtain ⟨next, hnext, hrest⟩ := Option.bind_eq_some_iff.mp h
    rw [List.cons_append, play, hnext, Option.bind_some, ih hrest]

/-- What a line asks for is carried out move by move. -/
theorem play_due (h : s.play c.setup due = some t) :
    play c ⟨s, due⟩ (List.replicate due.length .proceed) = some ⟨t, []⟩ := by
  induction due generalizing s with
  | nil =>
    cases h
    rfl
  | cons m rest ih =>
    obtain ⟨u, hu, hrest⟩ := Option.bind_eq_some_iff.mp h
    have hstep : step c ⟨s, m :: rest⟩ .proceed = some ⟨u, rest⟩ := by
      simp [step, hu]
    rw [List.length_cons, List.replicate_succ, play, hstep, Option.bind_some, ih hrest]

theorem play_workers (h : s.run c.setup actions = some t)
    (hw : ∀ action ∈ actions, action.byWorker = true) :
    play c ⟨s, due⟩ (actions.map .worker) = some ⟨t, due⟩ := by
  induction actions generalizing s with
  | nil =>
    cases h
    rfl
  | cons action rest ih =>
    obtain ⟨u, hu, hrest⟩ := Option.bind_eq_some_iff.mp h
    have hu : s.perform c.setup action = some u := hu
    rw [List.map_cons, play, step, if_pos (hw action (.head _)), hu, Option.map_some,
      Option.bind_some, ih hrest (fun a ha => hw a (.tail _ ha))]

end Loop

namespace Session

variable {s s' : Session} {exchanges : List Exchange} {line : List UInt8} {printed : List Printed}

/-- A session goes on with its orchestrator as long as it is not over. -/
def Usable (s : Session) : Prop := s.exit = none → s.state.closed = false

/-- The steps of a loop that lead from one session to another, with the lines that are read. -/
def Plays (s s' : Session) (ticks : List Tick) : Prop :=
  s'.console = s.console ∧ Loop.play s.console ⟨s.state, []⟩ ticks = some ⟨s'.state, []⟩

theorem Plays.trans {u : Session} {first second : List Tick} (h : Plays s s' first)
    (h' : Plays s' u second) : Plays s u (first ++ second) := by
  obtain ⟨hconsole, hplay⟩ := h
  obtain ⟨hconsole', hplay'⟩ := h'
  rw [hconsole] at hconsole' hplay'
  exact ⟨hconsole', (Loop.play_append hplay second).trans hplay'⟩

theorem serve_plays (h : s.serve exchanges now = some (s', printed)) :
    s'.exit = s.exit ∧ s'.state.closed = s.state.closed ∧
      ∃ actions : List Action, Plays s s' (actions.map .worker) := by
  unfold serve at h
  split at h
  · cases h
    exact ⟨rfl, rfl, [], rfl, rfl⟩
  · obtain ⟨call, -, h⟩ := Option.bind_eq_some_iff.mp h
    obtain ⟨after, hrun, ⟨⟩⟩ := Option.bind_eq_some_iff.mp h
    have hw : ∀ action ∈ [Action.take now, .finish call.reply, .conclude now,
        .audit (some call.usage), .deliver], action.byWorker = true := by
      simp [Action.byWorker]
    exact ⟨rfl, (State.Stays.run hrun hw).2, _, rfl, Loop.play_workers hrun hw⟩

/-- What a line does at once: it is read, and then what it asks for is carried out. -/
theorem obey_plays (hclosed : s.state.closed = false) (text : String) (exit : Option Nat) :
    Plays s { s with state := (s.console.obey s.state now (Command.ofLine text)).1, exit }
      (.read text now :: List.replicate (s.console.moves now (Command.ofLine text)).length
        .proceed) := by
  have hread : Loop.step s.console ⟨s.state, []⟩ (.read text now) =
      some ⟨s.state, s.console.moves now (Command.ofLine text)⟩ := by
    simp [Loop.step, Loop.waits, hclosed]
  refine ⟨rfl, ?_⟩
  rw [Loop.play, hread, Option.bind_some]
  exact Loop.play_due (play_moves hclosed _)

/-- Reading a line is a run of the loop: the line itself, what it asks for move by move, and then
what the worker does. -/
theorem read_plays {text : String} (hs : s.Usable) (hexit : s.exit = none)
    (ht : lineText line = .ok text) (h : s.read exchanges now line = some (s', printed)) :
    s'.Usable ∧ ∃ ticks, Plays s s' ticks ∧ ticks.filterMap Tick.line? = [text] := by
  simp only [read, hexit, Option.isSome_none, Bool.false_eq_true, ↓reduceIte, ht] at h
  obtain ⟨⟨u, more⟩, hserve, ⟨⟩⟩ := Option.bind_eq_some_iff.mp h
  obtain ⟨hsame, hclosed, actions, hplays⟩ := serve_plays hserve
  refine ⟨fun hnone => ?_, _, (obey_plays (hs hexit) text _).trans hplays, ?_⟩
  · have hstay : Command.ofLine text ≠ .quit := by
      intro hquit
      simp [hsame, hquit] at hnone
    exact hclosed.trans ((obey_closed hstay).trans (hs hexit))
  · have hproceed (n : Nat) : (List.replicate n Tick.proceed).filterMap Tick.line? = [] := by
      simp [Tick.line?]
    have hworker : (actions.map Tick.worker).filterMap Tick.line? = [] := by
      simp [List.filterMap_map, Function.comp_def, Tick.line?]
    rw [List.filterMap_append, List.filterMap_cons, hproceed, hworker]
    rfl

theorem read_unreadable {e : Text.BadUtf8} (hexit : s.exit = none) (ht : lineText line = .error e)
    (h : s.read exchanges now line = some (s', printed)) :
    Plays s s' [] ∧ s'.exit.isSome := by
  simp only [read, hexit, Option.isSome_none, Bool.false_eq_true, ↓reduceIte, ht] at h
  cases h
  exact ⟨⟨rfl, rfl⟩, rfl⟩

def readAll (s : Session) (inputs : List (List Exchange × Instant × List UInt8)) :
    Option Session :=
  inputs.foldlM (fun s (exchanges, now, line) => (s.read exchanges now line).map Prod.fst) s

theorem readAll_exited (h : s.exit.isSome)
    (inputs : List (List Exchange × Instant × List UInt8)) : s.readAll inputs = some s := by
  induction inputs with
  | nil => rfl
  | cons input rest ih =>
    simp only [readAll, List.foldlM_cons, read, h, ↓reduceIte] at ih ⊢
    exact ih

/-- A session is a run of the loop, whose lines are those that can be read, up to the first that
cannot or that ends the session. -/
theorem readAll_plays {inputs : List (List Exchange × Instant × List UInt8)} (hs : s.Usable)
    (h : s.readAll inputs = some s') :
    ∃ ticks, Plays s s' ticks ∧ ticks.filterMap Tick.line? <+:
      inputs.filterMap (fun input => (lineText input.2.2).toOption) := by
  induction inputs generalizing s with
  | nil =>
    cases h
    exact ⟨[], ⟨rfl, rfl⟩, List.nil_prefix⟩
  | cons input rest ih =>
    obtain ⟨exchanges, now, line⟩ := input
    cases hexit : s.exit with
    | some code =>
      rw [readAll_exited (by rw [hexit]; rfl)] at h
      cases h
      exact ⟨[], ⟨rfl, rfl⟩, List.nil_prefix⟩
    | none =>
      obtain ⟨_, hfirst, hrest⟩ := Option.bind_eq_some_iff.mp h
      obtain ⟨⟨_, printed⟩, hread, rfl⟩ := Option.map_eq_some_iff.mp hfirst
      cases ht : lineText line with
      | ok text =>
        obtain ⟨hu, first, hplays, hlines⟩ := read_plays hs hexit ht hread
        obtain ⟨more, hmore, hprefix⟩ := ih hu hrest
        refine ⟨first ++ more, hplays.trans hmore, ?_⟩
        simpa [hlines, ht, Except.toOption] using hprefix
      | error e =>
        obtain ⟨hplays, hover⟩ := read_unreadable hexit ht hread
        have hsame := (readAll_exited hover rest).symm.trans hrest
        cases hsame
        exact ⟨[], hplays, List.nil_prefix⟩

/-- From its start to any line a session at the console is a run of the loop with its settings. -/
theorem start_plays {files : Files} {environment : Environment} {chosen : Option String}
    {key : ConversationKey} {inputs : List (List Exchange × Instant × List UInt8)}
    (h : (start files environment chosen key).1.readAll inputs = some s') :
    ∃ settings prompt ticks, s'.console = .ofSettings settings prompt key ∧
      Loop.start.play s'.console ticks = some ⟨s'.state, []⟩ ∧
      ticks.filterMap Tick.line? <+:
        inputs.filterMap (fun input => (lineText input.2.2).toOption) := by
  obtain ⟨ticks, ⟨hconsole, hplay⟩, hlines⟩ := readAll_plays (fun _ => rfl) h
  rw [← hconsole] at hplay
  exact ⟨_, _, ticks, hconsole, hplay, hlines⟩

end Session

end Parley.Console
