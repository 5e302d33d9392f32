import LayoutEquations.CommandLine.Run
import LayoutEquations.Proofs.Results

/-!
# General options in front of a command

A toolkit takes general options in front of a command (`Toolkit.TakesOptions`) when they add to the settings and leave
the command as it is. The bundled toolkit does (`takesOptions_bundled`): these words are read as options
(`readItems_words`), and how the words behind them are read does not depend on them (`commandInvocation_of_ok`).
-/

namespace LayoutEquations.CommandLine

/-! ## Options with and without values -/

section Options

variable {flags : List Flag} {untilOperand : Bool} {word option text : String} {more : List String} {f : Flag}

theorem readItems_flag (hshape : shapeOf word = .long option none) (hflag : flags.find? (·.name == option) = some f)
    (hf : f.takesValue = false) : readItems flags untilOperand (word :: more) =
      (.flag option :: (readItems flags untilOperand more).1, (readItems flags untilOperand more).2) := by
  rw [readItems, hshape]
  dsimp only
  rw [hflag]
  dsimp only
  rw [if_neg (by simp [hf])]

theorem readItems_value (hshape : shapeOf word = .long option none) (hflag : flags.find? (·.name == option) = some f)
    (hf : f.takesValue = true) (htext : shapeOf text = .plain) :
    readItems flags untilOperand (word :: text :: more) =
      (.value option text :: (readItems flags untilOperand more).1, (readItems flags untilOperand more).2) := by
  rw [readItems, hshape]
  dsimp only
  rw [hflag]
  dsimp only
  rw [if_pos hf, htext]
  simp

end Options

/-! ## All general options -/

def OutputFormat.name : OutputFormat → String
  | text => "text"
  | json => "json"

/-- General options as they are given, each of them or not. -/
structure GeneralOptions where
  output : Option OutputFormat := none
  quiet : Bool := false
  verbose : Bool := false

namespace GeneralOptions

def words (o : GeneralOptions) : List String :=
  o.output.elim [] (fun format => ["--output", format.name]) ++
    ((if o.quiet then ["--quiet"] else []) ++ if o.verbose then ["--verbose"] else [])

/-- What these words are read as. -/
def items (o : GeneralOptions) : List Item :=
  o.output.elim [] (fun format => [.value "output" format.name]) ++
    ((if o.quiet then [.flag "quiet"] else []) ++ if o.verbose then [.flag "verbose"] else [])

/-- What is given by these words and a word for a command. -/
def given (o : GeneralOptions) (word : String) : Given where
  flags := (if o.verbose then ["verbose"] else []) ++ if o.quiet then ["quiet"] else []
  values := o.output.elim [] (fun format => [("output", format.name)])
  operands := [word]

end GeneralOptions

def Command.name : Command → String
  | compile .. => "compile"
  | check .. => "check"
  | tokens .. => "tokens"
  | margins .. => "margins"

/-- In front of the word that asks for a command, general options add to its settings, and the command is the same with
them. The output format is the one in front, or the one without it. -/
def Toolkit.TakesOptions (tools : Toolkit) : Prop :=
  ∀ words i, tools.readWords words = .ok i → words.head? = some i.command.name → ∀ o : GeneralOptions, ∃ output,
    (o.output = some output ∨ output = i.settings.output) ∧ tools.readWords (o.words ++ words) =
      .ok ⟨⟨output, o.quiet || i.settings.quiet, o.verbose || i.settings.verbose⟩, i.command⟩

/-- The options that may stand in front of a command. -/
def frontFlags : List Flag := { name := "version", letter := 'V' } :: generalFlags

theorem readItems_words (o : GeneralOptions) (more : List String) :
    readItems frontFlags true (o.words ++ more) =
      (o.items ++ (readItems frontFlags true more).1, (readItems frontFlags true more).2) := by
  have hquiet : ∀ more, readItems frontFlags true ("--quiet" :: more) =
      (.flag "quiet" :: (readItems frontFlags true more).1, (readItems frontFlags true more).2) := by
    intro more
    have hflag : frontFlags.find? (·.name == "quiet") = some { name := "quiet" } := by decide +kernel
    exact readItems_flag (by decide +kernel) hflag rfl
  have hverbose : ∀ more, readItems frontFlags true ("--verbose" :: more) =
      (.flag "verbose" :: (readItems frontFlags true more).1, (readItems frontFlags true more).2) := by
    intro more
    have hflag : frontFlags.find? (·.name == "verbose") = some { name := "verbose", letter := 'v' } := by
      decide +kernel
    exact readItems_flag (by decide +kernel) hflag rfl
  have houtput : ∀ (format : OutputFormat) more, readItems frontFlags true ("--output" :: format.name :: more) =
      (.value "output" format.name :: (readItems frontFlags true more).1, (readItems frontFlags true more).2) := by
    intro format more
    have hflag : frontFlags.find? (·.name == "output") = some { name := "output", takesValue := true } := by
      decide +kernel
    refine readItems_value (by decide +kernel) hflag rfl ?_
    cases format <;> decide +kernel
  obtain ⟨output, quiet, verbose⟩ := o
  cases output <;> cases quiet <;> cases verbose <;>
    simp [GeneralOptions.words, GeneralOptions.items, houtput, hquiet, hverbose]

theorem ofItems_items (o : GeneralOptions) (word : String) :
    Given.ofItems none (o.items ++ [.operand word]) = .ok (o.given word) := by
  obtain ⟨output, quiet, verbose⟩ := o
  cases quiet <;> cases verbose <;> rcases output with _ | ⟨⟩ | ⟨⟩ <;> rfl

/-! ## The command behind the options -/

theorem readItems_verb (verb : Verb) (more : List String) :
    readItems frontFlags true (verb.name :: more) = ([.operand verb.name], more) := by
  have hshape : shapeOf verb.name = .plain := by cases verb <;> decide +kernel
  rw [readItems, hshape]
  rfl

/-- The words in front of a command are read before it. -/
theorem ofWords_of_readItems {items : List Item} {given : Given} {verb : Verb} {words more : List String}
    (hitems : readItems frontFlags true words = (items, more)) (hgiven : Given.ofItems none items = .ok given)
    (hverb : given.operands = [verb.name]) :
    Invocation.ofWords words =
      if verb = .help then .error (helpRequest more) else commandInvocation given verb more := by
  have hword : Verb.ofWord? verb.name = some verb := by cases verb <;> decide +kernel
  unfold frontFlags at hitems
  rw [Invocation.ofWords, hitems]
  dsimp only
  rw [hgiven, ok_bind, hverb]
  dsimp only
  rw [hword]
  cases verb <;> rfl

theorem settings_given (o : GeneralOptions) (word : String) (behind : Given) :
    ∃ output, (o.output = some output ∨ output = (Given.settings { operands := [word] } behind).output) ∧
      Given.settings (o.given word) behind =
        ⟨output, o.quiet || (Given.settings { operands := [word] } behind).quiet,
          o.verbose || (Given.settings { operands := [word] } behind).verbose⟩ := by
  have hflags : ∀ name, (behind.flags ++ (o.given word).flags).contains name =
      ((o.given word).flags.contains name || behind.flags.contains name) := by
    intro name
    rw [List.contains_append, Bool.or_comm]
  have hquiet : (o.given word).flags.contains "quiet" = o.quiet := by
    obtain ⟨output, quiet, verbose⟩ := o
    cases quiet <;> cases verbose <;> rfl
  have hverbose : (o.given word).flags.contains "verbose" = o.verbose := by
    obtain ⟨output, quiet, verbose⟩ := o
    cases quiet <;> cases verbose <;> rfl
  refine ⟨(Given.settings (o.given word) behind).output, ?_, ?_⟩
  · dsimp only [Given.settings]
    rw [List.lookup_append, List.append_nil]
    obtain ⟨output, quiet, verbose⟩ := o
    -- a format behind the command hides the one in front
    cases behind.values.lookup "output" with
    | some text => exact .inr rfl
    | none =>
      cases output with
      | none => exact .inr rfl
      | some format =>
        refine .inl ?_
        cases format <;> rfl
  · dsimp only [Given.settings]
    rw [hflags, hflags, hquiet, hverbose, List.append_nil]

/-- What is given in front of a command changes its settings alone. -/
theorem commandInvocation_of_ok {before : Given} {verb : Verb} {more : List String} {i : Invocation}
    (h : commandInvocation before verb more = .ok i) (before' : Given) :
    ∃ behind, i.settings = Given.settings before behind ∧
      commandInvocation before' verb more = .ok ⟨Given.settings before' behind, i.command⟩ := by
  obtain ⟨behind, hbehind, h⟩ := bind_eq_ok.1 h
  obtain ⟨command, hcommand, h⟩ := bind_eq_ok.1 h
  cases h
  exact ⟨behind, rfl, bind_eq_ok.2 ⟨behind, hbehind, bind_eq_ok.2 ⟨command, hcommand, rfl⟩⟩⟩

theorem exists_verb (c : Command) : ∃ verb : Verb, verb ≠ .help ∧ verb.name = c.name := by
  cases c with
  | compile => exact ⟨.compile, by decide, rfl⟩
  | check => exact ⟨.check, by decide, rfl⟩
  | tokens => exact ⟨.tokens, by decide, rfl⟩
  | margins => exact ⟨.margins, by decide, rfl⟩

theorem takesOptions_bundled : Toolkit.bundled.TakesOptions := by
  intro words i h hhead o
  have h : Invocation.ofWords words = .ok i := mapError_eq_ok.1 h
  obtain ⟨verb, hverb, hname⟩ := exists_verb i.command
  obtain ⟨more, rfl⟩ : ∃ more, words = verb.name :: more := by
    rw [hname]
    exact List.head?_eq_some_iff.1 hhead
  have halone : Given.ofItems none [.operand verb.name] = .ok { operands := [verb.name] } := rfl
  have hitems : readItems frontFlags true (o.words ++ verb.name :: more) = (o.items ++ [.operand verb.name], more) := by
    rw [readItems_words, readItems_verb]
  rw [ofWords_of_readItems (readItems_verb verb more) halone rfl, if_neg hverb] at h
  obtain ⟨behind, hsettings, hwith⟩ := commandInvocation_of_ok h (o.given verb.name)
  obtain ⟨output, houtput, hgiven⟩ := settings_given o verb.name behind
  rw [← hsettings] at houtput hgiven
  refine ⟨output, houtput, mapError_eq_ok.2 ?_⟩
  rw [ofWords_of_readItems hitems (ofItems_items o verb.name) rfl, if_neg hverb, hwith, hgiven]

end LayoutEquations.CommandLine
