import ScriptedShell.Proofs.Delivery
import ScriptedShell.Proofs.Protection
import ScriptedShell.Proofs.Reference
import ScriptedShell.Proofs.Rendering
import ScriptedShell.Script.Standard

/-!
What a chain of functions hands on. A value that a reference has put into a command goes from function
to function as it is, however long the chain: it is neither split nor expanded again, and an empty one
is not lost.
-/

namespace ScriptedShell

namespace Quoting

namespace Refers

variable {name spelling : String}

theorem isBare (refers : Refers name spelling) (identifier : isIdentifier name = true) :
    ∀ character ∈ spelling.toList, Lexer.isBare character = true := by
  cases refers with
  | bare =>
      intro character member
      rw [String.toList_append, List.mem_append] at member
      rcases member with mark | part
      · rw [List.mem_singleton.mp mark]
        decide
      · exact Lexer.isBare_of_isNamePart (isNamePart_of_isIdentifier identifier character part)
  | braced => exact isBare_reference identifier

theorem head? (refers : Refers name spelling) : spelling.toList.head? = some '$' := by
  cases refers with
  | bare => simp
  | braced => rw [toList_reference, List.head?_cons]

end Refers

theorem double_of_isBare {text : String}
    (bare : ∀ character ∈ text.toList, Lexer.isBare character = true) :
    double text = "\"" ++ text ++ "\"" := by
  have same : text.toList.flatMap escapeDouble = text.toList := by
    have alone : ∀ character ∈ text.toList, escapeDouble character = [character] := by
      intro character member
      have plain := Lexer.isBare_iff.mp (bare character member)
      simp [escapeDouble, plain]
    rw [List.flatMap_congr alone, List.flatMap_singleton']
  rw [← String.toList_inj, double, same]
  simp

end Quoting

namespace Lexer

open Quoting

variable {name spelling : String}

theorem word_referring (refers : Refers name spelling) (quoted : Bool) :
    (spelling.toList.foldl Draft.addLive { quoted }).word = referring quoted spelling := by
  have live : '$' ∈ spelling.toList := List.mem_of_mem_head? refers.head?
  rw [Draft.foldl_addLive]
  simp [Draft.word, Draft.flags, referring, live]

theorem holds_referring (refers : Refers name spelling) (identifier : isIdentifier name = true)
    (words : List Word) :
    Holds (scan ⟨words, .between⟩ spelling.toList) (words ++ [referring false spelling]) := by
  have start : ∃ first ∈ spelling.toList.head?, first ≠ '#' :=
    ⟨'$', refers.head?, by decide⟩
  rw [← word_referring refers, scan_bare_between words (refers.isBare identifier) start]
  exact .inside words _

theorem holds_referring_quoted (refers : Refers name spelling)
    (identifier : isIdentifier name = true) (words : List Word) :
    Holds (scan ⟨words, .between⟩ ("\"" ++ spelling ++ "\"").toList)
      (words ++ [referring true spelling]) := by
  rw [← word_referring refers, ← double_of_isBare (refers.isBare identifier), scan_double]
  exact .inside words _

end Lexer

/-- A chain of functions, as long as the number says. Each hands its arguments to the next one, and the
last one hands them to the command of the label. -/
inductive Shell.HandsOn (shell : Shell) (label : String) : Nat → String → Prop where
  | command : HandsOn shell label 0 label
  | function {length : Nat} {name next : String} {shape : RecordShape}
      (identifier : isIdentifier name = true) (shaped : shell.shape = some shape)
      (found : shell.functions.find? name =
        some (.ofWords shape [.ofText next, .ofText allArguments]))
      (onward : HandsOn shell label length next) : HandsOn shell label (length + 1) name

structure Shell.Recorder (shell : Shell) (label : String) (status : Status) : Prop where
  unshadowed : shell.functions.find? label = none
  enabled : shell.extensions.find? label = some (.recorder label status)

namespace Shell.HandsOn

variable {shell : Shell} {label name : String} {length : Nat}

theorem enterFunction (chain : shell.HandsOn label length name) (texts : List String) :
    (shell.enterFunction texts).HandsOn label length name := by
  induction chain with
  | command => exact .command
  | function identifier shaped found _ ih => exact .function identifier shaped found ih

theorem isLiteral (chain : shell.HandsOn label length name)
    (literal : Template.isLiteral label = true) : Template.isLiteral name = true := by
  cases chain with
  | command => exact literal
  | function identifier =>
      exact Template.isLiteral_of_notMem (notMem_of_isIdentifier identifier '$' (by decide))

end Shell.HandsOn

namespace Session

def noted (session : Session) (label : String) (status : Status) (texts : List String) : Session :=
  { session with
    shell := session.shell.finish status
    events := session.events.push (.recorded label (texts.map Word.literal)) }

end Session

section

open Execution

variable {session : Session} {label name : String} {status : Status} {length : Nat}

theorem assignments?_forwarding (next : String) :
    Shell.assignments? [.ofText next, .ofText Shell.allArguments] = none :=
  Shell.assignments?_eq_none (List.mem_cons_of_mem _ List.mem_cons_self) (by decide)

theorem expandWords_forwarding (shell : Shell) {next : String}
    (literal : Template.isLiteral next = true) :
    shell.expandWords [.ofText next, .ofText Shell.allArguments] = next :: shell.arguments := by
  rw [Shell.expandWords_cons, Shell.expandWords_allArguments, shell.expandWord_of_isLiteral literal]
  rfl

theorem callFunction_of_body {nested : Nested} {body : Command} {texts : List String}
    {after : Session} (allowed : session.shell.depth < session.shell.settings.maxCallDepth.toNat)
    (ran : nested body { session with shell := session.shell.enterFunction texts } =
      (status, after)) :
    callFunction nested name body texts session =
      (status, { after with shell := after.shell.leaveFunction }) := by
  rw [callFunction, Run.get_bind, if_neg (Nat.not_le_of_lt allowed)]
  change (nested body >>= fun status => do
    Run.changeShell Shell.leaveFunction
    return status) { session with shell := session.shell.enterFunction texts } = _
  rw [Run.bind_of_eq _ ran]
  rfl

/-- Whatever the texts are, each function of a chain hands on the very texts that it was given. -/
theorem runFields_handsOn [Script.Language] (chain : session.shell.HandsOn label length name)
    (recorder : session.shell.Recorder label status) (literal : Template.isLiteral label = true)
    (free : session.shell.depth + length ≤ session.shell.settings.maxCallDepth.toNat) {bound : Nat}
    (enough : length ≤ bound) (line : Int32) (texts : List String) :
    (runFields (execute bound) line (name :: texts) >>= finishCommand false) session =
      (status, session.noted label status texts) := by
  induction length generalizing session name bound line with
  | zero =>
      cases chain with
      | command =>
          have ran := runFields_recorder recorder.unshadowed recorder.enabled (execute bound) line
            texts
          rw [Run.bind_of_eq session ran]
          rfl
  | succ length ih =>
      cases chain with
      | @function _ _ next shape identifier shaped found onward =>
          obtain ⟨bound, rfl⟩ := Nat.exists_eq_add_of_le' (Nat.le_trans (Nat.le_add_left 1 _) enough)
          let entered : Session := { session with shell := session.shell.enterFunction texts }
          have known : entered.shell.shape = some shape := shaped
          have handed : entered.shell.HandsOn label length next := onward.enterFunction texts
          have within : entered.shell.depth + length ≤
              entered.shell.settings.maxCallDepth.toNat := by
            change session.shell.depth + 1 + length ≤ session.shell.settings.maxCallDepth.toNat
            omega
          have fields : runWords (execute bound) 0 [.ofText next, .ofText Shell.allArguments] entered =
              runFields (execute bound) 0 (next :: texts) entered := by
            rw [runWords_eq_runFields _ 0 (assignments?_forwarding next),
              expandWords_forwarding _ (onward.isLiteral literal)]
            rfl
          have body : execute (bound + 1)
              (.ofWords shape [.ofText next, .ofText Shell.allArguments]) entered =
                (status, entered.noted label status texts) := by
            rw [execute_eq_runWords known, Run.bind_of_eq entered fields]
            exact ih handed ⟨recorder.unshadowed, recorder.enabled⟩ within
              (Nat.le_of_succ_le_succ enough) 0
          have ran : runFields (execute (bound + 1)) line (name :: texts) session =
              (status, session.noted label status texts) := by
            rw [runFields, Run.get_bind]
            simp only [found]
            exact callFunction_of_body (by omega) body
          rw [Run.bind_of_eq session ran]
          rfl

theorem records_handsOn [Script.Language] {argument : String} {word : Word}
    (chain : session.shell.HandsOn label length name) (positive : 1 ≤ length)
    (recorder : session.shell.Recorder label status) (literal : Template.isLiteral label = true)
    (free : session.shell.depth + length ≤ session.shell.settings.maxCallDepth.toNat)
    (read : ∀ words, Lexer.Holds (Lexer.scan ⟨words, .between⟩ argument.toList) (words ++ [word])) :
    session.Records (name ++ " " ++ argument) label status (session.shell.expandWord word) := by
  obtain ⟨length, rfl⟩ := Nat.exists_eq_add_of_le' positive
  cases chain with
  | @function _ _ next shape identifier shaped found onward =>
      have lexed := Lexer.lexLine_pair (Lexer.scan_name [] identifier) read
      have command : Shell.assignments? [Quoting.plain name, word] = none :=
        Shell.assignments?_eq_none List.mem_cons_self rfl
      obtain ⟨bound, enough, same⟩ :=
        session.executeCommand_eq_execute (.ofWords shape [Quoting.plain name, word])
      have fields : runWords (execute bound) 0 [Quoting.plain name, word] session =
          runFields (execute bound) 0 (name :: session.shell.expandWord word) session := by
        rw [runWords_eq_runFields _ 0 command, Shell.expandWords_plain, Shell.expandWords_cons]
        simp [Shell.expandWords]
      rw [Session.Records, Session.runLine_eq_executeCommand lexed
        (Session.isInversion_plain identifier) shaped, same, execute_eq_runWords shaped,
        Run.bind_of_eq session fields]
      exact runFields_handsOn (.function identifier shaped found onward) recorder literal free
        (by omega) 0 _

end

theorem Session.Reachable.changes [Script.Language] {session : Session} (reached : session.Reachable)
    (changes : List Change) :
    (changes.foldl (fun session change => change.apply session) session).Reachable := by
  induction changes generalizing session with
  | nil => exact reached
  | cons first rest ih => exact ih (reached.change first)

def relaying (label value : String) : Session :=
  let handOn (next : String) : Command :=
    (.ofWords .version3 [.ofText next, .ofText Shell.allArguments])
  let changes : List Change :=
    [.extend label (.recorder label 3), .define "f" (handOn label), .define "g" (handOn "f"),
      .assign "T" "true", .assign "X" value]
  changes.foldl (fun session change => change.apply session) (Session.new {} .bare)

theorem relaying_handsOn (label value : String) :
    (relaying label value).shell.HandsOn label 1 "f" :=
  .function (by decide) rfl rfl .command

/-- A value that is written into a command by reference reaches the recorder at the end of a chain as one
argument, with every character it has. Unless the reference is quoted, an empty value is no argument. -/
theorem value_forwarded [Script.Language] {session : Session} {name label source value spelling : String}
    {status : Status} {length : Nat} (top : session.shell.depth = 0) (positive : 1 ≤ length)
    (allowed : length ≤ session.shell.settings.maxCallDepth.toNat)
    (chain : session.shell.HandsOn label length name)
    (recorder : session.shell.Recorder label status) (literal : Template.isLiteral label = true)
    (identifier : isIdentifier source = true)
    (stored : session.shell.bindings.value? source = some value)
    (refers : Quoting.Refers source spelling) :
    session.Records (name ++ " " ++ ("\"" ++ spelling ++ "\"")) label status [value] ∧
      session.Records (name ++ " " ++ spelling) label status
        (if value.isEmpty then [] else [value]) := by
  have free : session.shell.depth + length ≤ session.shell.settings.maxCallDepth.toNat := by
    omega
  have quoted := records_handsOn chain positive recorder literal free
    (Lexer.holds_referring_quoted refers identifier)
  have bare := records_handsOn chain positive recorder literal free
    (Lexer.holds_referring refers identifier)
  rw [refers.expandWord identifier true stored] at quoted
  rw [refers.expandWord identifier false stored] at bare
  refine ⟨?_, ?_⟩
  · simpa using quoted
  · simpa using bare

theorem value_forwarded_twice :
    (relaying "rec" " it's \"$T\"").Records ("g" ++ " " ++ ("\"" ++ "$X" ++ "\"")) "rec" 3
        [" it's \"$T\""] ∧
      (relaying "rec" " it's \"$T\"").Records ("g" ++ " " ++ "$X") "rec" 3 [" it's \"$T\""] ∧
      (relaying "rec" "").Records ("g" ++ " " ++ ("\"" ++ Quoting.reference "X" ++ "\"")) "rec" 3
        [""] ∧
      (relaying "rec" "").Records ("g" ++ " " ++ Quoting.reference "X") "rec" 3 [] := by
  have chain (value : String) : (relaying "rec" value).shell.HandsOn "rec" 2 "g" :=
    .function (by decide) rfl rfl (relaying_handsOn "rec" value)
  have recorder (value : String) : (relaying "rec" value).shell.Recorder "rec" 3 := ⟨rfl, rfl⟩
  have identifier : isIdentifier "X" = true := by decide
  have full := value_forwarded rfl (by decide) (by decide) (chain " it's \"$T\"")
    (recorder " it's \"$T\"") (by decide) identifier rfl .bare
  have empty := value_forwarded rfl (by decide) (by decide) (chain "") (recorder "") (by decide)
    identifier rfl .braced
  exact ⟨full.1, full.2, empty.1, empty.2⟩

theorem referring_label_expanded :
    let session := relaying "$T" "v"
    let line := "f" ++ " " ++ ("\"" ++ "$X" ++ "\"")
    let ended := Session.runLine line session
    session.Reachable ∧ session.shell.depth = 0 ∧
      1 ≤ session.shell.settings.maxCallDepth.toNat ∧ session.shell.HandsOn "$T" 1 "f" ∧
      session.shell.Recorder "$T" 3 ∧ session.shell.bindings.value? "X" = some "v" ∧
      ended.1 = .success ∧ ended.2.events = #[] ∧ ¬ session.Records line "$T" 3 ["v"] := by
  intro session line ended
  have status : ended.1 = .success := by decide
  have silent : ended.2.events = #[] := by decide
  refine ⟨(Session.Reachable.new {} .bare).changes _, rfl, by decide, relaying_handsOn "$T" "v",
    ⟨rfl, rfl⟩, rfl, status, silent, ?_⟩
  intro recorded
  have other : ended.1 = 3 := congrArg Prod.fst recorded
  rw [status] at other
  contradiction

end ScriptedShell
