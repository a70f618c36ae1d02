import ScriptedShell.Proofs.LastStatus
import ScriptedShell.Proofs.Rendering
import ScriptedShell.Script.Standard

/-!
Commands that are given as texts. Where no text needs quotes, they are the commands of the line that the
texts make, whether a script asks for them or the shell reads the line.
-/

namespace ScriptedShell

/-- A text that a line takes as one word without quotes. -/
def isPlainText (text : String) : Bool :=
  !text.isEmpty && text.toList.all Lexer.isBare && text.toList.head? != some '#'

section

variable {text : String}

theorem bare_of_isPlainText (plain : isPlainText text = true) :
    ∀ character ∈ text.toList, Lexer.isBare character = true := by
  intro character member
  simp only [isPlainText, Bool.and_eq_true, List.all_eq_true] at plain
  exact plain.1.2 character member

theorem isEmpty_of_isPlainText (plain : isPlainText text = true) : text.isEmpty = false := by
  simp only [isPlainText, Bool.and_eq_true, Bool.not_eq_true'] at plain
  exact plain.1.1

theorem start_of_isPlainText (plain : isPlainText text = true) :
    ∃ first ∈ text.toList.head?, first ≠ '#' := by
  simp only [isPlainText, Bool.and_eq_true, Bool.not_eq_true', bne_iff_ne, ne_eq] at plain
  obtain ⟨⟨given, _⟩, noComment⟩ := plain
  have given : text ≠ "" := by
    rintro rfl
    contradiction
  exact starts_iff.mpr ⟨given, noComment⟩

theorem unquoted_of_isPlainText (plain : isPlainText text = true) :
    (Word.ofText text).flags.quoted = false := by
  simp only [Word.ofText, WordFlags.ofText, List.any_eq_false, Bool.or_eq_true, beq_iff_eq]
  intro character member marked
  have bare := Lexer.isBare_iff.mp (bare_of_isPlainText plain character member)
  tauto

theorem lexed_of_isPlainText (plain : isPlainText text = true) : (Word.ofText text).Lexed where
  dollars := by simp [Word.ofText, WordFlags.ofText]
  exclusive := fun _ => rfl
  assignment := rfl
  protection := nofun
  bare := fun _ => bare_of_isPlainText plain
  start := fun _ => start_of_isPlainText plain

theorem render_of_isPlainText (plain : isPlainText text = true) :
    (Word.ofText text).render = text := by
  rw [Word.render, unquoted_of_isPlainText plain]
  rfl

end

theorem lexLine_plain {texts : List String} (plain : ∀ text ∈ texts, isPlainText text = true) :
    lexLine (" ".intercalate texts) = .ok (texts.map Word.ofText) := by
  have lexed : ∀ word ∈ texts.map Word.ofText, word.Lexed := by
    intro word member
    obtain ⟨text, given, rfl⟩ := List.mem_map.mp member
    exact lexed_of_isPlainText (plain text given)
  have written : (texts.map Word.ofText).map Word.render = texts := by
    rw [List.map_map, List.map_congr_left, List.map_id]
    intro text given
    exact render_of_isPlainText (plain text given)
  have read := lexLine_renderWords lexed
  rwa [renderWords, written] at read

namespace Session

theorem isInversion_ofText {text : String} (plain : isPlainText text = true) :
    isInversion (.ofText text) = (text == "!") := by
  rw [isInversion, unquoted_of_isPlainText plain]
  exact Bool.and_true _

theorem readLine_plain {shell : Shell} {shape : RecordShape} {texts : List String}
    (shaped : shell.shape = some shape) (given : texts ≠ [])
    (plain : ∀ text ∈ texts, isPlainText text = true) (upright : texts.head? ≠ some "!")
    (number : Int32) :
    readLine shell number (" ".intercalate texts) =
      .command ((Command.ofWords shape (texts.map Word.ofText)).atLine number) := by
  have lexed := lexLine_plain plain
  cases texts with
  | nil => contradiction
  | cons first rest =>
      have begins : isInversion (.ofText first) = false := by
        rw [isInversion_ofText (plain first List.mem_cons_self), beq_eq_false_iff_ne]
        rintro rfl
        exact upright rfl
      exact readLine_eq_command lexed begins shaped number

end Session

open Machine

/-- Texts that need no quotes are the same command whether a script asks for it or a line holds them: it
ends with the same status and leaves the same session. A script's request and the line lead to the same
next moment, also where the shell is in the midst of functions and scripts. -/
theorem texts_run_as_line [Script.Language] {session : Session} {index : Nat} {shape : RecordShape}
    {texts : List String} (shaped : session.shell.shape = some shape)
    (known : (session.bridge index).shape = session.shell.shape) (given : texts ≠ [])
    (plain : ∀ text ∈ texts, isPlainText text = true) (upright : texts.head? ≠ some "!") :
    let line := " ".intercalate texts
    Session.invoke (session.bridge index).shape texts session =
        (.ok ((Session.runLine line).result session), (Session.runLine line).after session) ∧
      ∀ engine : Script.Engine,
        let stored := session.stored index engine
        let after := (Session.runLine line).after stored
        Bridge.answer Session.nested index engine (.call texts) session =
            ((.ok ((Session.runLine line).result stored), after.engine index), after) ∧
          ∀ (next : Except Fault Status → Script.Engine → Talk) (outer : Waiting .request)
            (waiting : Waiting .command), ∃ command : Command,
            step ⟨.script index (.ask engine (.call texts) next), outer, session⟩ =
                some ⟨.command command, .script index next outer, stored⟩ ∧
              step ⟨.line 0 line, waiting, stored⟩ = some ⟨.command command, waiting, stored⟩ := by
  intro line
  let command : Command := .ofWords shape (texts.map Word.ofText)
  have asked : Bridge.commandOfTexts (some shape) texts = .ok command :=
    Bridge.commandOfTexts_ok shape given
  have read : Session.readLine session.shell 0 line = .command command := by
    rw [Session.readLine_plain shaped given plain upright, Command.ofWords_atLine_zero]
  have ran (other : Session) (same : other.shell = session.shell) :
      Session.runLine line other = Session.executeCommand command other := by
    rw [Session.runLine, Session.runNumbered, Run.get_bind, same, read]
  refine ⟨?invoked, ?_⟩
  case invoked =>
    rw [Run.result, Run.after, ran session rfl, Session.invoke, Bridge.invoke, known, shaped, asked]
    rfl
  intro engine stored after
  have stillAsked : Bridge.commandOfTexts (stored.bridge index).shape texts = .ok command := by
    rw [session.shape_stored index engine, known, shaped, asked]
  refine ⟨?answered, ?steps⟩
  case answered =>
    rw [Bridge.answer_call_ok stillAsked]
    simp only [after, Run.result, Run.after, ran stored rfl]
    rfl
  case steps =>
    intro next outer waiting
    refine ⟨command, ?_, ?_⟩
    · simp only [step, resume]
      rw [stillAsked]
    · have same : stored.shell = session.shell := rfl
      simp only [step, startLine, same]
      rw [read]

def insideTwo : Session :=
  let shell := (printing.shell.extend "rec" (.recorder "rec" 3)).assign "A" "$x y"
  { printing with shell := shell.enterFunction ["one", ""] }

theorem texts_run_as_line_inside_function :
    let texts := ["rec", "$A", "$@", "${1}b", "$none", "a#b"]
    let line := "rec $A $@ ${1}b $none a#b"
    Session.invoke (some .version3) texts insideTwo =
        (.ok ((Session.runLine line).result insideTwo), (Session.runLine line).after insideTwo) ∧
      (Session.runLine line).result insideTwo = 3 ∧
      ((Session.runLine line).after insideTwo).events.toList =
        [.recorded "rec" (["$x y", "one", "", "oneb", "a#b"].map Word.literal)] := by
  intro texts line
  have shaped : insideTwo.shell.shape = some .version3 := rfl
  have known : (insideTwo.bridge 0).shape = insideTwo.shell.shape := rfl
  have plain : ∀ text ∈ texts, isPlainText text = true := by decide
  have same := texts_run_as_line shaped known (by decide) plain (by decide)
  have joined : " ".intercalate texts = line := by decide
  rw [joined] at same
  have status : (Session.runLine line).result insideTwo = 3 := by decide
  have recorded : ((Session.runLine line).after insideTwo).events.toList =
      [.recorded "rec" (["$x y", "one", "", "oneb", "a#b"].map Word.literal)] := by
    decide
  exact ⟨same.1, status, recorded⟩

end ScriptedShell
