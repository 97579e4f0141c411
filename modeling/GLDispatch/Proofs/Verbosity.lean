import GLDispatch.Proofs.Output

/-! # Details change nothing

A wish for details in front of a command line is carried along by every step of the reading and does
nothing else, so the run prints, writes and ends as it does without. The log without details is the
log with details, less everything below a warning. -/
namespace GLDispatch

/-! ## Reading with a wish for details -/

/-- The same settings, and a wish for details. -/
def Settings.detailed (s : Settings) : Settings :=
  { s with verbose := true }

namespace Invocation

/-- The same arguments, and a wish for details. -/
def Reading.detailed (r : Reading) : Reading :=
  { r with verbose := true }

def detailed : Invocation → Invocation
  | run settings => run settings.detailed
  | other => other

namespace Reading

variable (r : Reading)

theorem operand_detailed (text : Text) : r.detailed.operand text = (r.operand text).detailed := by
  rw [operand, operand, detailed]
  cases r.header <;> rfl

theorem requests?_detailed (requests : List Request) :
    r.detailed.requests? requests = (r.requests? requests).map detailed := by
  have one (r : Reading) (request : Request) :
      r.detailed.request? request = (r.request? request).map detailed := by
    cases request <;> rfl
  have all (r : Reading) :
      requests.foldlM request? r.detailed = (requests.foldlM request? r).map detailed := by
    induction requests generalizing r with
    | nil => rfl
    | cons request rest ih =>
      rw [List.foldlM_cons, List.foldlM_cons, one]
      cases r.request? request with
      | none => rfl
      | some next => exact ih next
  exact all { r with headerJustTaken := false }

theorem operands_detailed (texts : List Text) :
    r.detailed.operands texts = (r.operands texts).detailed := by
  obtain ⟨header, output, verbose, extras, headerJustTaken⟩ := r
  cases header <;> cases texts <;> rfl

theorem finish_detailed : r.detailed.finish = r.finish.detailed := by
  rw [finish, finish, detailed]
  split <;> rfl

end Reading

theorem ofTokens_detailed (r : Reading) (behindDash : Option (List Text)) (tokens : List Token) :
    ofTokens r.detailed behindDash tokens = (ofTokens r behindDash tokens).detailed := by
  fun_induction ofTokens r behindDash tokens with
  | case1 r =>
    cases behindDash with
    | none => exact r.finish_detailed
    | some texts => rw [ofTokens, Reading.operands_detailed, Reading.finish_detailed]
  | case2 r text rest ih => rw [ofTokens, Reading.operand_detailed, ih]
  | case3 r argument rest ih => exact ih
  | case4 r error rest => rfl
  | case5 r requests last path rest next taken ih =>
    rw [ofTokens, if_pos last, Reading.requests?_detailed, taken]
    exact ih
  | case6 r requests last path rest stopped =>
    rw [ofTokens, if_pos last, Reading.requests?_detailed, stopped]
    rfl
  | case7 r requests rest last noPath =>
    rw [ofTokens.eq_def]
    simp only [if_pos last]
    rfl
  | case8 r requests rest last next taken ih =>
    have alike : r.detailed.requests? requests = some next.detailed := by
      rw [Reading.requests?_detailed, taken]
      rfl
    rw [ofTokens_options last alike, ih]
  | case9 r requests rest last stopped =>
    rw [ofTokens.eq_def]
    simp only [if_neg last, Reading.requests?_detailed, stopped]
    rfl

/-- The wish stands in front of whatever else the command line says, be it usable or not. -/
theorem ofArguments_detailed (arguments : List Text) :
    ofArguments ("-v".toList :: arguments) = (ofArguments arguments).detailed := by
  have apart : "-v".toList ≠ Token.doubleDash := by decide
  have token : Token.ofArgument "-v".toList = .ok (.options (.ok [.verbose])) := rfl
  have front : ("-v".toList :: arguments).takeWhile (· != Token.doubleDash) =
      "-v".toList :: arguments.takeWhile (· != Token.doubleDash) :=
    List.takeWhile_cons_of_pos (by simpa using apart)
  have behind : ("-v".toList :: arguments).dropWhile (· != Token.doubleDash) =
      arguments.dropWhile (· != Token.doubleDash) :=
    List.dropWhile_cons_of_pos (by simpa using apart)
  simp only [ofArguments, List.mem_cons, apart.symm, false_or, front, behind, List.mapM_cons, token]
  cases (arguments.takeWhile (· != Token.doubleDash)).mapM Token.ofArgument with
  | error error => rfl
  | ok tokens =>
    have first (behindDash : Option (List Text)) :
        ofTokens {} behindDash (.options (.ok [.verbose]) :: tokens) =
          ofTokens (Reading.detailed {}) behindDash tokens :=
      ofTokens_options (by decide) rfl behindDash tokens
    exact (first _).trans (ofTokens_detailed {} _ tokens)

end Invocation

/-! ## Who wishes for details -/

/-- The token is an option which asks for details, among other things perhaps. -/
def Token.WantsDetails : Token → Prop
  | options (.ok requests) => .verbose ∈ requests
  | _ => False

namespace Invocation

theorem Reading.verbose_requests? {r next : Reading} {requests : List Request}
    (taken : r.requests? requests = some next) :
    next.verbose = true ↔ r.verbose = true ∨ .verbose ∈ requests := by
  have one {r next : Reading} {request : Request} (taken : r.request? request = some next) :
      next.verbose = true ↔ r.verbose = true ∨ request = .verbose := by
    cases request <;> cases taken <;> simp
  have all (requests : List Request) (r : Reading)
      (taken : requests.foldlM request? r = some next) :
      next.verbose = true ↔ r.verbose = true ∨ .verbose ∈ requests := by
    induction requests generalizing r with
    | nil =>
      cases taken
      simp
    | cons request rest ih =>
      rw [List.foldlM_cons] at taken
      obtain ⟨between, first, later⟩ := Option.bind_eq_some_iff.mp taken
      rw [ih between later, one first, List.mem_cons, or_assoc, eq_comm (a := request)]
  exact all requests { r with headerJustTaken := false } taken

theorem verbose_ofTokens {r : Reading} {behindDash : Option (List Text)} {tokens : List Token}
    {s : Settings} (ran : ofTokens r behindDash tokens = .run s) :
    s.verbose = true ↔ r.verbose = true ∨ ∃ token ∈ tokens, token.WantsDetails := by
  have finished {r : Reading} (ran : r.finish = .run s) : s.verbose = r.verbose := by
    rw [Reading.finish] at ran
    split at ran <;> cases ran
    rfl
  fun_induction ofTokens r behindDash tokens with
  | case1 r =>
    rw [finished ran]
    cases behindDash with
    | none => simp
    | some texts =>
      obtain ⟨header, output, verbose, extras, headerJustTaken⟩ := r
      cases header <;> cases texts <;> simp [Reading.operands]
  | case2 r text rest ih =>
    have kept : (r.operand text).verbose = r.verbose := by
      rw [Reading.operand]
      cases r.header <;> rfl
    simp [ih ran, kept, Token.WantsDetails]
  | case3 r argument rest ih => simp [ih ran, Reading.unknown, Token.WantsDetails]
  | case4 r error rest => cases ran
  | case5 r requests last path rest next taken ih =>
    simp [ih ran, Reading.verbose_requests? taken, Token.WantsDetails, or_assoc]
  | case6 r requests last path rest stopped => cases ran
  | case7 r requests rest last noPath => cases ran
  | case8 r requests rest last next taken ih =>
    simp [ih ran, Reading.verbose_requests? taken, Token.WantsDetails, or_assoc]
  | case9 r requests rest last stopped => cases ran

/-- Some argument in front of a lone double dash asks for details. -/
def WantsDetails (arguments : List Text) : Prop :=
  ∃ argument ∈ arguments.takeWhile (· != Token.doubleDash),
    ∃ token, Token.ofArgument argument = .ok token ∧ token.WantsDetails

theorem verbose_iff {arguments : List Text} {s : Settings} (ran : ofArguments arguments = .run s) :
    s.verbose = true ↔ WantsDetails arguments := by
  rw [ofArguments] at ran
  rw [WantsDetails]
  cases read : (arguments.takeWhile (· != Token.doubleDash)).mapM Token.ofArgument with
  | error error =>
    rw [read] at ran
    cases ran
  | ok tokens =>
    rw [read] at ran
    rw [verbose_ofTokens ran, exists_mem_mapM_iff read]
    exact or_iff_right Bool.false_ne_true

end Invocation

/-! ## What the log shows -/

/-- Two computations which have the same effects and give results in a relation. -/
def Coupled {m : Type → Type} [Monad m] {α β : Type} (R : α → β → Prop) (x : m α) (y : m β) :
    Prop :=
  ∃ both : m {pair : α × β // R pair.1 pair.2},
    x = (fun pair => pair.val.1) <$> both ∧ y = (fun pair => pair.val.2) <$> both

namespace Coupled

variable {m : Type → Type} [Monad m] [LawfulMonad m] {α β γ : Type} {R : α → β → Prop}

theorem pure {a : α} {b : β} (related : R a b) : Coupled R (pure a : m α) (pure b : m β) :=
  ⟨Pure.pure ⟨(a, b), related⟩, by rw [map_pure], by rw [map_pure]⟩

/-- What both do first may be anything. -/
theorem bind (first : m γ) {f : γ → m α} {g : γ → m β} (rest : ∀ c, Coupled R (f c) (g c)) :
    Coupled R (first >>= f) (first >>= g) := by
  choose both left right using rest
  refine ⟨first >>= both, ?_, ?_⟩
  · rw [map_bind]
    exact bind_congr left
  · rw [map_bind]
    exact bind_congr right

/-- From the same state both come to the same state. -/
theorem stateM {σ : Type} {x : StateM σ α} {y : StateM σ β} (coupled : Coupled R x y) (before : σ) :
    R (x before).1 (y before).1 ∧ (x before).2 = (y before).2 := by
  obtain ⟨both, rfl, rfl⟩ := coupled
  exact ⟨(both before).1.property, rfl⟩

end Coupled

namespace Report

/-- The records of the log. -/
def records : Report → List Event
  | ran _ _ events => events
  | _ => []

/-- A report like a detailed one. Unless it was asked for details too, its log has just the warnings
and errors of the detailed one. -/
structure Abridges (asked : Prop) (plain detailed : Report) : Prop where
  status : plain.status = detailed.status
  stdout : plain.stdout = detailed.stdout
  plainLog : plain.stderr = plain.records.flatMap Event.line
  detailedLog : detailed.stderr = detailed.records.flatMap Event.line
  notable : ¬ asked → plain.records =
    detailed.records.filter fun event => event.level = .warning ∨ event.level = .error

theorem abridges_shown (s : Settings) (succeeded : Bool) (printed : Text) (events : List Event) :
    Abridges (s.verbose = true) (ran succeeded printed (s.shown events))
      (ran succeeded printed (s.detailed.shown events)) where
  status := rfl
  stdout := rfl
  plainLog := rfl
  detailedLog := rfl
  notable unasked := by
    have all : s.detailed.shown events = events := rfl
    rw [records, records, all, Settings.shown, if_neg unasked]
    exact List.filter_congr fun event _ => by simp [Event.isNotable, beq_eq_decide]

end Report

/-- Every run is the run with details, with less of its log shown. -/
theorem Settings.run_coupled {m : Type → Type} [Monad m] [LawfulMonad m] (files : Files m)
    (s : Settings) :
    Coupled (Report.Abridges (s.verbose = true)) (s.run files) (s.detailed.run files) := by
  have output : s.detailed.outputFile = s.outputFile := rfl
  rw [run, run, output]
  refine Coupled.bind _ fun content => ?_
  cases content with
  | error error => exact .pure (Report.abridges_shown s false [] _)
  | ok bytes =>
    cases s.outputFile with
    | none => exact .pure (Report.abridges_shown s true _ _)
    | some path =>
      refine Coupled.bind _ fun written => ?_
      cases written with
      | ok => exact .pure (Report.abridges_shown s true [] _)
      | error error => exact .pure (Report.abridges_shown s false [] _)

/-- Asking for details in front of a usable command line keeps the effects, the status and the
printed text, however files are read and written. The log of a command line without any wish for
details has just the warnings and errors. Where the effects are on a state, such as the file system
of a machine, both runs leave the same state. -/
theorem command_detailed {arguments : List Text} {settings : Settings}
    (usable : Invocation.ofArguments arguments = .run settings) :
    (∀ {m : Type → Type} [Monad m] [LawfulMonad m] (files : Files m),
      Coupled (Report.Abridges (Invocation.WantsDetails arguments))
        (command files arguments) (command files ("-v".toList :: arguments))) ∧
    ∀ {σ : Type} (files : Files (StateM σ)) (before : σ),
      let plain := command files arguments before
      let detailed := command files ("-v".toList :: arguments) before
      plain.1.Abridges (Invocation.WantsDetails arguments) detailed.1 ∧ plain.2 = detailed.2 := by
  have coupled {m : Type → Type} [Monad m] [LawfulMonad m] (files : Files m) :
      Coupled (Report.Abridges (Invocation.WantsDetails arguments))
        (command files arguments) (command files ("-v".toList :: arguments)) := by
    have asked : Invocation.WantsDetails arguments = (settings.verbose = true) :=
      propext (Invocation.verbose_iff usable).symm
    rw [asked, command, command, Invocation.ofArguments_detailed, usable]
    exact settings.run_coupled files
  exact ⟨coupled, fun files before => (coupled files).stateM before⟩

/-- A header which ends inside a region gives a warning. Only with details the log tells of the
entry into the region, and of what was parsed. -/
theorem command_detailed_abandoned :
    let arguments := ["-ogl.txt".toList, "gl3.h".toList]
    let settings : Settings := ⟨"gl3.h".toList, some "gl.txt".toList, false⟩
    let guard := "GL_VERSION_1_0".toList
    let header : Bytes := Utf8.encode ("#ifndef ".toList ++ guard)
    let fs : FileSystem :=
      { files := (∅ : OrderedMap Location Bytes).insert ⟨0, ["gl3.h".toList]⟩ header }
    let plain := command FileSystem.access arguments fs
    let detailed := command FileSystem.access ("-v".toList :: arguments) fs
    Invocation.ofArguments arguments = .run settings ∧ ¬ Invocation.WantsDetails arguments ∧
      plain.2 = detailed.2 ∧ plain.1.status = detailed.1.status ∧
      detailed.1.records = [.entered guard, .abandoned guard, .parsed 1 1] ∧
      plain.1.records = [.abandoned guard] := by
  intro arguments settings guard header fs plain detailed
  have usable : Invocation.ofArguments arguments = .run settings := by decide +kernel
  have unasked : ¬ Invocation.WantsDetails arguments := fun asked =>
    Bool.false_ne_true ((Invocation.verbose_iff usable).mpr asked)
  have told : detailed.1.records = [.entered guard, .abandoned guard, .parsed 1 1] := by
    decide +kernel
  obtain ⟨abridges, files⟩ := (command_detailed usable).2 FileSystem.access fs
  refine ⟨usable, unasked, files, abridges.status, told, ?_⟩
  rw [abridges.notable unasked, told]
  rfl

end GLDispatch
