import GLDispatch.Command.Run
import GLDispatch.Proofs.Results
import GLDispatch.Proofs.Text
import Mathlib.Data.List.TakeWhile

/-! # Spellings of a command line

What a command line asks for can be spelled in many ways: long options may be shortened, the path
of an output may stand in the option's own argument or in the next one, and all this may come in any
order. A command line is read from left to right, one ask at a time, so the reading depends on the
asks only, and the run on no more than the header, the last output and whether details are wanted.
-/
namespace GLDispatch
open Text

/-- One thing which a command line asks for. -/
inductive Ask where
  | header (path : Text)
  | details
  | output (path : Text)
  deriving DecidableEq, Repr

namespace Ask

def header? : Ask → Option Text
  | header path => some path
  | _ => none

def output? : Ask → Option Text
  | output path => some path
  | _ => none

end Ask

/-- The argument is no option, whatever it says. -/
def IsPlain (argument : Text) : Prop :=
  argument.head? ≠ some '-'

instance (argument : Text) : Decidable (IsPlain argument) :=
  inferInstanceAs (Decidable (_ ≠ _))

/-- The names of a switch on the command line: its letter, and the beginnings of its long name. -/
inductive Switch.Named (s : Switch) : Text → Prop where
  | letter : Named s ['-', s.letter]
  | word {start : Text} : start ≠ [] → start <+: s.word → Named s ("--".toList ++ start)

/-- The arguments which spell an ask. -/
inductive Ask.Spelled : Ask → List Text → Prop where
  | header {path : Text} : IsPlain path → Spelled (.header path) [path]
  | details {option : Text} : Switch.verbose.Named option → Spelled .details [option]
  | output {option path : Text} : Switch.output.Named option → IsPlain path →
      Spelled (.output path) [option, path]
  | outputJoined {path : Text} : path ≠ [] → path.head? ≠ some '=' → IsPlain path →
      Spelled (.output path) ["-o".toList ++ path]
  | outputAssigned {start path : Text} : start ≠ [] → start <+: Switch.output.word → IsPlain path →
      Spelled (.output path) ["--".toList ++ (start ++ '=' :: path)]

/-- The arguments spell the asks one after the other. -/
inductive Spelled : List Ask → List Text → Prop where
  | nil : Spelled [] []
  | cons {ask : Ask} {group : List Text} {asks : List Ask} {arguments : List Text} :
      ask.Spelled group → Spelled asks arguments → Spelled (ask :: asks) (group ++ arguments)

/-! ## Arguments by themselves -/

/-- Long names differ in their first letters. -/
theorem Switch.candidates_of_prefix {s : Switch} {start : Text} (nonempty : start ≠ [])
    (begins : start <+: s.word) : Switch.candidates start = [s] := by
  have shorter : start.length < 8 := Nat.lt_of_le_of_lt begins.length_le (by cases s <;> decide)
  have longer : start.length ≠ 0 := fun none => nonempty (List.length_eq_zero_iff.mp none)
  have all : ∀ n < 8, n ≠ 0 → Switch.candidates (s.word.take n) = [s] := by cases s <;> decide
  rw [List.prefix_iff_eq_take.mp begins]
  exact all _ shorter longer

namespace Token

theorem ofArgument_plain {argument : Text} (plain : IsPlain argument) :
    ofArgument argument = .ok (.operand argument) := by
  cases argument with
  | nil => rfl
  | cons c rest =>
    have apart : c ≠ '-' := by simpa [IsPlain] using plain
    rw [ofArgument]
    · intro body whole
      exact apart (List.cons.inj whole).1
    · intro d rest' whole
      exact apart (List.cons.inj whole).1

theorem ofArgument_long {s : Switch} {body : Text}
    (only : Switch.candidates (before '=' body) = [s]) :
    ofArgument ("--".toList ++ body) =
      .ok (.options (valueRequests s ((before '=' body ++ ['=']).isPrefixOf? body))) := by
  have dashes : "--".toList ++ body = '-' :: '-' :: body := rfl
  rw [dashes, ofArgument]
  simp only [only]

/-- A long option, shortened or not, with a value behind an equals sign or without. -/
theorem ofArgument_word {s : Switch} {start : Text} (nonempty : start ≠ [])
    (begins : start <+: s.word) (value : Option Text) :
    ofArgument ("--".toList ++ (start ++ value.elim [] ('=' :: ·))) =
      .ok (.options (valueRequests s value)) := by
  have noSign : ∀ c ∈ start, (c != '=') = true := by
    have word : s.word.all (· != '=') = true := by cases s <;> decide
    exact fun c member => List.all_eq_true.mp word c (begins.subset member)
  have sign : HeadNot (· != '=') (value.elim [] ('=' :: ·)) := by
    cases value with
    | none => simp [HeadNot]
    | some path => exact headNot_cons.mpr (by decide)
  have name : before '=' (start ++ value.elim [] ('=' :: ·)) = start := takeWhile_of_cut noSign sign
  have rest : (start ++ ['=']).isPrefixOf? (start ++ value.elim [] ('=' :: ·)) = value := by
    cases value with
    | some path => exact List.isPrefixOf?_eq_some_iff_append_eq.mpr (by simp)
    | none =>
      cases found : (start ++ ['=']).isPrefixOf? (start ++ []) with
      | none => exact found
      | some behind =>
        have whole := congrArg List.length (List.append_eq_of_isPrefixOf?_eq_some found).symm
        simp at whole
  rw [ofArgument_long (name.symm ▸ Switch.candidates_of_prefix nonempty begins), name, rest]

theorem ofArgument_named {s : Switch} {option : Text} (named : s.Named option) :
    ofArgument option = .ok (.options (.ok [s.request])) := by
  cases named with
  | letter => cases s <;> rfl
  | word nonempty begins =>
    have plain := ofArgument_word nonempty begins none
    rw [Option.elim_none, List.append_nil] at plain
    rw [plain]
    cases s <;> rfl

theorem outputTo_plain {path : Text} (plain : IsPlain path) : outputTo path = .output path := by
  have apart : path ≠ doubleDash := fun same => plain (same ▸ rfl)
  rw [outputTo, if_neg apart]

theorem ofArgument_joined {path : Text} (nonempty : path ≠ []) (noSign : path.head? ≠ some '=')
    (plain : IsPlain path) :
    ofArgument ("-o".toList ++ path) = .ok (.options (.ok [.output path])) := by
  cases path with
  | nil => exact absurd rfl nonempty
  | cons c rest =>
    have other : c ≠ '=' := by simpa using noSign
    have short : shortRequests .output (c :: rest) = .ok [.output (c :: rest)] := by
      rw [← outputTo_plain plain]
      simp [shortRequests, cluster, other]
    exact congrArg (fun requests => Except.ok (options requests)) short

end Token

theorem IsPlain.ne_doubleDash {argument : Text} (plain : IsPlain argument) :
    argument ≠ Token.doubleDash :=
  fun same => plain (same ▸ rfl)

theorem Switch.Named.ne_doubleDash {s : Switch} {option : Text} (named : s.Named option) :
    option ≠ Token.doubleDash := by
  cases named with
  | letter => cases s <;> decide
  | word nonempty begins =>
    intro same
    exact nonempty (List.append_cancel_left (same.trans (List.append_nil _).symm))

/-! ## Asks one by one -/

namespace Invocation

/-- What the arguments amount to after one more ask. -/
def Reading.take (r : Reading) : Ask → Reading
  | .header path => r.operand path
  | .details => { r with verbose := true, headerJustTaken := false }
  | .output path => { r with output := some path, headerJustTaken := false }

theorem ofTokens_options {r next : Reading} {requests : List Request}
    (here : requests.getLast? ≠ some .outputNext) (taken : r.requests? requests = some next)
    (behindDash : Option (List Text)) (rest : List Token) :
    ofTokens r behindDash (.options (.ok requests) :: rest) = ofTokens next behindDash rest := by
  rw [ofTokens.eq_def]
  simp only [if_neg here, taken]

theorem ofTokens_outputNext (r : Reading) (path : Text) (behindDash : Option (List Text))
    (rest : List Token) :
    ofTokens r behindDash (.options (.ok [.outputNext]) :: .operand path :: rest) =
      ofTokens (r.take (.output path)) behindDash rest := by
  rw [ofTokens, if_pos (by decide)]
  rfl

end Invocation

/-- The tokens of an argument in front of others. -/
theorem Token.mapM_cons {argument : Text} {token : Token} {arguments : List Text}
    {tokens : List Token} (first : ofArgument argument = .ok token)
    (rest : arguments.mapM ofArgument = .ok tokens) :
    (argument :: arguments).mapM ofArgument = .ok (token :: tokens) :=
  mapM_cons_eq_ok_iff.mpr ⟨token, tokens, first, rest, rfl⟩

/-- An ask in front of other tokens is read by itself, however it is spelled. -/
theorem Ask.Spelled.exists_tokens {ask : Ask} {group : List Text} (spelled : ask.Spelled group) :
    Token.doubleDash ∉ group ∧ ∃ tokens, group.mapM Token.ofArgument = .ok tokens ∧
      ∀ r behindDash rest, Invocation.ofTokens r behindDash (tokens ++ rest) =
        Invocation.ofTokens (r.take ask) behindDash rest := by
  cases spelled with
  | @header path plain =>
    have token := Token.ofArgument_plain plain
    exact ⟨by simp [plain.ne_doubleDash.symm], _, Token.mapM_cons token rfl, fun r _ _ => rfl⟩
  | @details option named =>
    have token := Token.ofArgument_named named
    exact ⟨by simp [named.ne_doubleDash.symm], _, Token.mapM_cons token rfl,
      fun r => Invocation.ofTokens_options (by decide) rfl⟩
  | @output option path named plain =>
    have token := Token.ofArgument_named named
    have value := Token.ofArgument_plain plain
    exact ⟨by simp [named.ne_doubleDash.symm, plain.ne_doubleDash.symm], _,
      Token.mapM_cons token (Token.mapM_cons value rfl),
      fun r => Invocation.ofTokens_outputNext r path⟩
  | @outputJoined path nonempty noSign plain =>
    have token := Token.ofArgument_joined nonempty noSign plain
    exact ⟨by simp [Token.doubleDash], _, Token.mapM_cons token rfl,
      fun r => Invocation.ofTokens_options (by simp) rfl⟩
  | @outputAssigned start path nonempty begins plain =>
    have token := Token.ofArgument_word nonempty begins (some path)
    rw [Token.valueRequests, Token.outputTo_plain plain] at token
    exact ⟨by simp [Token.doubleDash], _, Token.mapM_cons token rfl,
      fun r => Invocation.ofTokens_options (by simp) rfl⟩

namespace Spelled

theorem not_mem_doubleDash {asks : List Ask} {arguments : List Text}
    (spelled : Spelled asks arguments) : Token.doubleDash ∉ arguments := by
  induction spelled with
  | nil => exact List.not_mem_nil
  | cons ask _ ih =>
    exact fun member => (List.mem_append.mp member).elim ask.exists_tokens.1 ih

/-- The reading of a command line takes its asks in turn. -/
theorem exists_tokens {asks : List Ask} {arguments : List Text} (spelled : Spelled asks arguments) :
    ∃ tokens, arguments.mapM Token.ofArgument = .ok tokens ∧
      ∀ r, Invocation.ofTokens r none tokens =
        (asks.foldl Invocation.Reading.take r).finish := by
  induction spelled with
  | nil => exact ⟨[], rfl, fun r => rfl⟩
  | @cons ask group asks arguments spelled _ ih =>
    obtain ⟨-, first, firstRead, reads⟩ := spelled.exists_tokens
    obtain ⟨rest, restRead, later⟩ := ih
    refine ⟨first ++ rest, ?_, fun r => ?_⟩
    · rw [List.mapM_append, firstRead, restRead]
      rfl
    · rw [reads, later, List.foldl_cons]

theorem ofArguments_eq {asks : List Ask} {arguments : List Text}
    (spelled : Spelled asks arguments) :
    Invocation.ofArguments arguments = (asks.foldl Invocation.Reading.take {}).finish := by
  have noDash := spelled.not_mem_doubleDash
  have all : arguments.takeWhile (· != Token.doubleDash) = arguments :=
    List.takeWhile_eq_self_iff.mpr fun argument member => by
      simpa using fun same : argument = Token.doubleDash => noDash (same ▸ member)
  obtain ⟨tokens, read, reads⟩ := spelled.exists_tokens
  rw [Invocation.ofArguments, if_neg noDash, all, read]
  exact reads {}

end Spelled

/-! ## What the asks amount to -/

namespace Ask

def headers (asks : List Ask) : List Text :=
  asks.filterMap header?

def outputs (asks : List Ask) : List Text :=
  asks.filterMap output?

end Ask

/-- The settings for which the asks call: the header, the last output, and details if there is any
ask for them. -/
def Settings.ofAsks (asks : List Ask) : Settings where
  header := (Ask.headers asks).head?.getD defaultHeader
  output := (Ask.outputs asks).getLast?
  verbose := asks.contains .details

namespace Invocation.Reading

theorem output_foldl_take (asks : List Ask) (r : Reading) :
    (asks.foldl take r).output = (Ask.outputs asks).getLast?.or r.output := by
  induction asks generalizing r with
  | nil => rfl
  | cons ask asks ih =>
    rw [List.foldl_cons, ih]
    cases ask with
    | header path => cases held : r.header <;> simp [take, operand, held, Ask.outputs, Ask.output?]
    | details => simp [take, Ask.outputs, Ask.output?]
    | output path =>
      simp only [take, Ask.outputs, List.filterMap_cons, Ask.output?, List.getLast?_cons]
      cases (List.filterMap Ask.output? asks).getLast? <;> rfl

theorem verbose_foldl_take (asks : List Ask) (r : Reading) :
    (asks.foldl take r).verbose = (asks.contains .details || r.verbose) := by
  induction asks generalizing r with
  | nil => rfl
  | cons ask asks ih =>
    rw [List.foldl_cons, ih]
    cases ask with
    | header path => cases held : r.header <;> simp [take, operand, held]
    | details => simp [take]
    | output path => simp [take]

/-- The first header counts, and all others are extras. -/
theorem header_foldl_take (asks : List Ask) (r : Reading) :
    (asks.foldl take r).header = r.header.or (Ask.headers asks).head? ∧
      (asks.foldl take r).extras =
        r.extras ++ r.header.elim (Ask.headers asks).tail fun _ => Ask.headers asks := by
  induction asks generalizing r with
  | nil => cases held : r.header <;> simp [Ask.headers, held]
  | cons ask asks ih =>
    rw [List.foldl_cons, (ih _).1, (ih _).2]
    cases ask with
    | header path => cases held : r.header <;> simp [take, operand, held, Ask.headers, Ask.header?]
    | details => simp [take, Ask.headers, List.filterMap_cons, Ask.header?]
    | output path => simp [take, Ask.headers, List.filterMap_cons, Ask.header?]

end Invocation.Reading

namespace Spelled

/-- With one header at most, a command line can be used, and asks for what its parts ask for. -/
theorem ofArguments_eq_run {asks : List Ask} {arguments : List Text}
    (spelled : Spelled asks arguments) (single : (Ask.headers asks).length ≤ 1) :
    Invocation.ofArguments arguments = .run (Settings.ofAsks asks) := by
  obtain ⟨header, extras⟩ := Invocation.Reading.header_foldl_take asks {}
  have none : (asks.foldl Invocation.Reading.take {}).extras = [] := by
    rw [extras]
    exact List.length_eq_zero_iff.mp (by simp; omega)
  rw [spelled.ofArguments_eq, Invocation.Reading.finish, none]
  simp [header, Invocation.Reading.output_foldl_take, Invocation.Reading.verbose_foldl_take,
    Settings.ofAsks]

end Spelled

/-- A run sees of its settings the header, where the output goes and whether details are wanted. -/
theorem Settings.run_congr {m : Type → Type} [Monad m] (files : Files m) {s t : Settings}
    (header : s.header = t.header) (output : s.outputFile = t.outputFile)
    (verbose : s.verbose = t.verbose) : s.run files = t.run files := by
  have shown (events : List Event) : s.shown events = t.shown events := by
    rw [Settings.shown, Settings.shown, verbose]
  simp only [Settings.run, header, output, shown]

/-- However a command line is spelled, and whatever the order, it is read as its header, its last
output and its wish for details, and the run is that for these; so command lines which agree on them
run alike. -/
theorem command_eq_run {m : Type → Type} [Monad m] (files : Files m) {asks : List Ask}
    {arguments : List Text} (spelled : Spelled asks arguments)
    (single : (Ask.headers asks).length ≤ 1) :
    Invocation.ofArguments arguments = .run (Settings.ofAsks asks) ∧
      command files arguments = (Settings.ofAsks asks).run files ∧
      ∀ (others : List Ask) (respelled : List Text), Spelled others respelled →
        (Ask.headers others).length ≤ 1 →
        (Settings.ofAsks others).header = (Settings.ofAsks asks).header →
        (Settings.ofAsks others).outputFile = (Settings.ofAsks asks).outputFile →
        (Settings.ofAsks others).verbose = (Settings.ofAsks asks).verbose →
        command files respelled = command files arguments := by
  have runs {asks : List Ask} {arguments : List Text} (spelled : Spelled asks arguments)
      (single : (Ask.headers asks).length ≤ 1) :
      command files arguments = (Settings.ofAsks asks).run files := by
    rw [command, spelled.ofArguments_eq_run single]
  refine ⟨spelled.ofArguments_eq_run single, runs spelled single, ?_⟩
  intro others respelled spelled' single' header output verbose
  rw [runs spelled' single', runs spelled single]
  exact Settings.run_congr files header output verbose

/-- A shortened option, a path in the option's own argument, the header between the options, and an
empty path at last: the binding is printed, with details. -/
theorem command_respelled :
    let asks := [.details, .output "a".toList, .header "x.h".toList, .output [], .details]
    let arguments :=
      ["--verb".toList, "-oa".toList, "x.h".toList, "--out=".toList, "-v".toList]
    let settings : Settings := ⟨"x.h".toList, some [], true⟩
    Spelled asks arguments ∧ (Ask.headers asks).length ≤ 1 ∧
      Invocation.ofArguments arguments = .run settings ∧
      command FileSystem.access arguments = settings.run FileSystem.access ∧
      command FileSystem.access ["x.h".toList, "-v".toList] =
        command FileSystem.access arguments := by
  intro asks arguments settings
  have letter : Ask.Spelled .details ["-v".toList] := .details .letter
  have header : Ask.Spelled (.header "x.h".toList) ["x.h".toList] := .header (by decide)
  have word : Ask.Spelled .details ["--verb".toList] :=
    .details (@Switch.Named.word .verbose "verb".toList (by decide) (by decide))
  have joined : Ask.Spelled (.output "a".toList) ["-oa".toList] :=
    .outputJoined (by decide) (by decide) (by decide)
  have assigned : Ask.Spelled (.output []) ["--out=".toList] :=
    @Ask.Spelled.outputAssigned "out".toList [] (by decide) (by decide) (by decide)
  have spelled : Spelled asks arguments :=
    .cons word (.cons joined (.cons header (.cons assigned (.cons letter .nil))))
  have respelled : Spelled [.header "x.h".toList, .details] ["x.h".toList, "-v".toList] :=
    .cons header (.cons letter .nil)
  obtain ⟨reading, runs, alike⟩ := command_eq_run FileSystem.access spelled (by decide)
  exact ⟨spelled, by decide, reading, runs,
    alike _ _ respelled (by decide) (by decide) (by decide) (by decide)⟩

end GLDispatch
