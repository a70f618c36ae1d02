import ScriptedShell.Proofs.Refusal
import ScriptedShell.Script.Standard

/-!
The grammar of a bridge's command. The usage text lists three forms. The reader of a request looks at no
more words than it needs, so it takes `init`, and `load` with a path, also when words follow, and drops
these.
-/

namespace ScriptedShell

namespace BridgeRequest

/-- The forms of the usage text. Of the words up to the path or the name only the texts count; the arguments
of a call are kept as they are. -/
inductive Documented : List Word → BridgeRequest → Prop where
  | start {command : Word} (named : command.text = "init") : Documented [command] .start
  | load {command path : Word} (named : command.text = "load") (given : path.text ≠ "") :
      Documented [command, path] (.load path.text)
  | call {command function : Word} {arguments : List Word} (named : command.text = "call")
      (given : function.text ≠ "") :
      Documented (command :: function :: arguments) (.call function.text arguments)

def isCall : BridgeRequest → Bool
  | .call _ _ => true
  | _ => false

/-- Words that have one of the forms, or that have words behind a form which is no call. -/
def Opens (words : List Word) (request : BridgeRequest) : Prop :=
  ∃ form ignored, words = form ++ ignored ∧ Documented form request ∧
    (request.isCall = true → ignored = [])

section

variable {words : List Word} {request : BridgeRequest}

theorem opens_of_ofWords (read : ofWords words = .ok request) : Opens words request := by
  cases words with
  | nil => contradiction
  | cons command rest =>
      simp only [ofWords] at read
      split at read
      · next named =>
        cases read
        exact ⟨[command], rest, rfl, .start named, nofun⟩
      · next named =>
        cases rest with
        | nil => contradiction
        | cons path behind =>
            simp only at read
            split at read
            · contradiction
            · next given =>
              cases read
              exact ⟨[command, path], behind, rfl, .load named (by simpa using given), nofun⟩
      · next named =>
        cases rest with
        | nil => contradiction
        | cons function arguments =>
            simp only at read
            split at read
            · contradiction
            · next given =>
              cases read
              exact ⟨command :: function :: arguments, [], (List.append_nil _).symm,
                .call named (by simpa using given), fun _ => rfl⟩
      · contradiction

theorem ofWords_of_opens (opens : Opens words request) : ofWords words = .ok request := by
  obtain ⟨form, ignored, rfl, documented, whole⟩ := opens
  cases documented with
  | start named => simp [ofWords, named]
  | load named given => simp [ofWords, named, given]
  | call named given =>
      rw [whole rfl]
      simp [ofWords, named, given]

theorem ofWords_eq_ok_iff : ofWords words = .ok request ↔ Opens words request :=
  ⟨opens_of_ofWords, ofWords_of_opens⟩

end

/-- A list of words is read as a request if and only if it opens with one of the documented forms, and the
request has what the form says. Any other is malformed, and then the bridge's command prints its usage,
fails and does nothing else. -/
theorem words_read_as_documented [Script.Language] (words : List Word) :
    (∀ request, ofWords words = .ok request ↔ Opens words request) ∧
      ((∃ request, Opens words request) ∨
        ∃ problem, ofWords words = .error (.malformedRequest problem) ∧
          ∀ (nested : Nested) (index : Nat) (session : Session),
            let usage := bridgeUsage (session.bridge index).settings.builtinName ++ "\n"
            Bridge.runWords nested index words session =
              (.failure, { session with events := session.events.push (.diagnostic usage) })) := by
  refine ⟨fun request => ofWords_eq_ok_iff, ?_⟩
  cases read : ofWords words with
  | ok request => exact .inl ⟨request, opens_of_ofWords read⟩
  | error fault =>
      obtain ⟨problem, rfl⟩ := malformed_of_ofWords read
      refine .inr ⟨problem, rfl, fun nested index session => ?_⟩
      unfold Bridge.runWords
      simp only [read]
      exact Bridge.report_refusal rfl index session

theorem Documented.start_alone {command : Word} {rest : List Word} {request : BridgeRequest}
    (documented : Documented (command :: rest) request) (named : command.text = "init") : rest = [] := by
  cases documented with
  | start named' => rfl
  | load named' given => exact absurd (named.symm.trans named') (by decide)
  | call named' given => exact absurd (named.symm.trans named') (by decide)

theorem Documented.load_alone {command path : Word} {rest : List Word} {request : BridgeRequest}
    (documented : Documented (command :: path :: rest) request) (named : command.text = "load") :
    rest = [] := by
  cases documented with
  | load named' given => rfl
  | call named' given => exact absurd (named.symm.trans named') (by decide)

theorem words_too_many_dropped :
    let tooMany := [.literal "init", .literal "extra"]
    let twoPaths := [.literal "load", .literal "a.js", .literal "b.js"]
    (∀ request, ¬ Documented tooMany request) ∧ ofWords tooMany = .ok .start ∧
      (∀ request, ¬ Documented twoPaths request) ∧ ofWords twoPaths = .ok (.load "a.js") ∧
      Session.runBridgeWords 0 tooMany Machine.printing = (.success, Machine.printing) := by
  refine ⟨?tooMany, rfl, ?twoPaths, rfl, rfl⟩
  case tooMany => exact fun request documented => List.cons_ne_nil _ _ (documented.start_alone rfl)
  case twoPaths => exact fun request documented => List.cons_ne_nil _ _ (documented.load_alone rfl)

end BridgeRequest

end ScriptedShell
