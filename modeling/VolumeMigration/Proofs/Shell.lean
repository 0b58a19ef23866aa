import VolumeMigration.Transfer.Lifecycle
/-!
# How a shell reads a script

A shell takes a script character by character: blanks end words, line breaks and
control operators end commands, and quotes keep both from doing so. Nothing is
expanded. A script made of command lines is read as exactly those commands
(`commands_copyScript`), whatever the quoted words contain.
-/

namespace VolumeMigration

open Text (ShellWord)

namespace Shell

/-- What the next character is taken for. -/
inductive Mode where
  | plain
  /-- Between single quotes. -/
  | single
  /-- Between double quotes. -/
  | double
  /-- After a backslash. -/
  | escaped
  /-- After a backslash between double quotes. -/
  | doubleEscaped
  | comment
deriving DecidableEq, Repr

/-- What was read so far. -/
structure Reader where
  mode : Mode := .plain
  /-- The word that has begun. -/
  word : Option (List Char) := none
  /-- The words of the command that has begun. -/
  words : List String := []
  commands : List (List String) := []
deriving DecidableEq, Repr

namespace Reader

/-- Adds characters to the word, which begins with them if none has begun. -/
def push (r : Reader) (cs : List Char) : Reader := { r with word := some (r.word.getD [] ++ cs) }

def endWord (r : Reader) : Reader :=
  match r.word with
  | none => r
  | some cs => { r with word := none, words := r.words ++ [String.ofList cs] }

/-- Ends the command; one without words is none. -/
def endCommand (r : Reader) : Reader :=
  let r := r.endWord
  if r.words.isEmpty then r else { r with words := [], commands := r.commands ++ [r.words] }

/-- What a backslash between double quotes takes away the meaning of. -/
def isDoubleSpecial (c : Char) : Bool := "$`\"\\".toList.contains c

/-- The reader after the next character. -/
def step (r : Reader) (c : Char) : Reader :=
  match r.mode with
  | .plain =>
    if c = '\'' then { r.push [] with mode := .single }
    else if c = '"' then { r.push [] with mode := .double }
    else if c = '\\' then { r with mode := .escaped }
    else if c = ' ' ∨ c = '\t' then r.endWord
    else if c = '\n' ∨ c = ';' ∨ c = '&' ∨ c = '|' then r.endCommand
    else if c = '#' ∧ r.word = none then { r with mode := .comment }
    else r.push [c]
  | .single => if c = '\'' then { r with mode := .plain } else r.push [c]
  | .double =>
    if c = '"' then { r with mode := .plain }
    else if c = '\\' then { r with mode := .doubleEscaped }
    else r.push [c]
  | .escaped => if c = '\n' then { r with mode := .plain } else { r.push [c] with mode := .plain }
  | .doubleEscaped =>
    if c = '\n' then { r with mode := .double }
    else if isDoubleSpecial c then { r.push [c] with mode := .double }
    else { r.push ['\\', c] with mode := .double }
  | .comment => if c = '\n' then { r.endCommand with mode := .plain } else r

def run (r : Reader) (cs : List Char) : Reader := cs.foldl step r

/-- Between two words. -/
def Idle (r : Reader) : Prop := r.mode = .plain ∧ r.word = none

end Reader

/-- The commands of a script, each with its words, in the order they stand in. -/
def commands (script : String) : List (List String) := (Reader.run {} script.toList).endCommand.commands

/-- The commands of a script that run a program. -/
def invocations (program script : String) : List (List String) :=
  (commands script).filter fun words => words.head? == some program

/-! ## Reading words -/

namespace Reader

variable {r : Reader}

@[simp] theorem run_nil (r : Reader) : r.run [] = r := rfl

@[simp] theorem run_cons (r : Reader) (c : Char) (cs : List Char) : r.run (c :: cs) = (r.step c).run cs := rfl

theorem run_append (r : Reader) (cs ds : List Char) : r.run (cs ++ ds) = (r.run cs).run ds :=
  List.foldl_append

@[simp] theorem push_push (r : Reader) (cs ds : List Char) : (r.push cs).push ds = r.push (cs ++ ds) := by
  simp [push]

/-- A character that stands for itself wherever it is written. -/
def isLiteral (c : Char) : Bool := c.isAlphanum || "/-_.:@%+,=".toList.contains c

/-- The characters that a shell takes for something else. -/
def special : List Char := ['\'', '"', '\\', ' ', '\t', '\n', ';', '&', '|', '#']

theorem not_isLiteral_of_mem_special : special.all (fun c => !isLiteral c) = true := rfl

theorem step_literal {c : Char} (hr : r.mode = .plain) (hc : isLiteral c = true) : r.step c = r.push [c] := by
  have hne : ∀ d ∈ special, c ≠ d := by
    rintro d hd rfl
    have := List.all_eq_true.1 not_isLiteral_of_mem_special c hd
    simp [hc] at this
  simp only [special, List.mem_cons, List.not_mem_nil, or_false, forall_eq_or_imp, forall_eq] at hne
  simp [step, hr, hne]

/-- Literal characters make up a word. -/
theorem run_literal {cs : List Char} : ∀ {r : Reader}, r.mode = .plain → cs ≠ [] → (∀ c ∈ cs, isLiteral c = true) →
    r.run cs = r.push cs := by
  induction cs with
  | nil => simp
  | cons c cs ih =>
    intro r hr _ hcs
    rw [run_cons, step_literal hr (hcs c List.mem_cons_self)]
    by_cases hnil : cs = []
    · rw [hnil, run_nil]
    · rw [ih (r := r.push [c]) hr hnil fun d hd => hcs d (List.mem_cons_of_mem c hd), push_push]
      rfl

/-- The quotes are closed, a quote is escaped, and they are opened again. -/
theorem run_escapedQuote (hr : r.mode = .single) : r.run ['\'', '\\', '\'', '\''] = r.push ['\''] := by
  simp [step, hr, push]

/-- Between single quotes every character is read as itself, a quote by way of a backslash. -/
theorem run_escapeQuotes (cs : List Char) : ∀ {r : Reader}, r.mode = .single → r.word ≠ none →
    r.run (Text.escapeQuotes cs) = r.push cs := by
  induction cs with
  | nil =>
    intro r _ hw
    obtain ⟨w, hw⟩ := Option.ne_none_iff_exists'.1 hw
    cases r
    simp_all [Text.escapeQuotes, push]
  | cons c cs ih =>
    intro r hr hw
    unfold Text.escapeQuotes
    by_cases hc : c = '\''
    · subst hc
      rw [if_pos rfl]
      show (r.run ['\'', '\\', '\'', '\'']).run (Text.escapeQuotes cs) = _
      rw [run_escapedQuote hr, ih (r := r.push ['\'']) hr (by simp [push]), push_push]
      rfl
    · have hstep : r.step c = r.push [c] := by simp [step, hr, hc]
      rw [if_neg hc, run_cons, hstep, ih (r := r.push [c]) hr (by simp [push]), push_push]
      rfl

end Reader

end Shell

/-- A word that a shell reads as the argument that it stands for. -/
def Text.ShellWord.Legible : ShellWord → Prop
  | .bare s => s ≠ "" ∧ ∀ c ∈ s.toList, Shell.Reader.isLiteral c = true
  | .quoted _ => True

namespace Shell.Reader

variable {r : Reader} {w : ShellWord} {ws : List ShellWord}

theorem run_word (hr : r.Idle) (hw : w.Legible) : r.run w.render.toList = r.push w.text.toList := by
  obtain ⟨hplain, hnone⟩ := hr
  cases w with
  | bare s => exact run_literal hplain (fun h => hw.1 (String.toList_eq_nil_iff.1 h)) hw.2
  | quoted s =>
    have hopen : r.step '\'' = { r.push [] with mode := .single } := by simp [step, hplain]
    show r.run (Text.shellQuote s).toList = _
    rw [Text.shellQuote, String.toList_ofList, List.cons_append, run_cons, hopen, run_append,
      run_escapeQuotes _ rfl (by simp [push])]
    cases r
    simp_all [step, push, ShellWord.text]

/-- Words before a text are read one by one. -/
theorem run_words (hws : ∀ w ∈ ws, w.Legible) (last : String) : ∀ {r : Reader}, r.Idle →
    r.run (Text.join " " (ws.map (·.render) ++ [last])).toList =
      ({ r with words := r.words ++ ws.map (·.text) } : Reader).run last.toList := by
  induction ws with
  | nil =>
    intro r hr
    simp [Text.join]
  | cons w ws ih =>
    intro r hr
    have hjoin : Text.join " " ((w :: ws).map (·.render) ++ [last]) =
        w.render ++ " " ++ Text.join " " (ws.map (·.render) ++ [last]) := by
      cases ws <;> rfl
    have hblank : (r.push w.text.toList).step ' ' = { r with words := r.words ++ [w.text] } := by
      obtain ⟨hplain, hnone⟩ := hr
      cases r
      simp_all [step, push, endWord]
    rw [hjoin, String.toList_append, String.toList_append, run_append, run_append,
      run_word hr (hws w List.mem_cons_self)]
    show ((r.push w.text.toList).step ' ').run _ = _
    rw [hblank, ih (r := { r with words := r.words ++ [w.text] }) (fun v hv => hws v (List.mem_cons_of_mem w hv)) hr]
    simp

/-- Between two commands, after the given ones. -/
def after (commands : List (List String)) : Reader := { commands }

variable {cmds : List (List String)}

theorem run_line (hne : ws ≠ []) (hws : ∀ w ∈ ws, w.Legible) :
    (after cmds).run (Transfer.commandLine ws).toList = after (cmds ++ [ws.map (·.text)]) := by
  obtain ⟨init, w, rfl⟩ := (List.eq_nil_or_concat ws).resolve_left hne
  simp only [List.concat_eq_append, List.mem_append, List.mem_singleton] at hws ⊢
  have hinit : ∀ v ∈ init, v.Legible := fun v hv => hws v (.inl hv)
  rw [Transfer.commandLine, String.toList_append, run_append, List.map_append, List.map_singleton,
    run_words hinit w.render ⟨rfl, rfl⟩, run_word ⟨rfl, rfl⟩ (hws w (.inr rfl))]
  simp [after, step, push, endCommand, endWord]

/-- A command that is left running in the background. -/
theorem run_background (hne : ws ≠ []) (hws : ∀ w ∈ ws, w.Legible) (cmds : List (List String)) :
    (after cmds).run (Transfer.commandLine (ws ++ [.bare "&"])).toList = after (cmds ++ [ws.map (·.text)]) := by
  rw [Transfer.commandLine, String.toList_append, run_append, List.map_append, List.map_singleton,
    show (ShellWord.bare "&").render = "&" from rfl, run_words hws "&" ⟨rfl, rfl⟩]
  simp [after, step, endCommand, endWord, hne]

/-- Parts of a script are read one after the other. -/
theorem run_join {α : Type} (items : List α) (text : α → String) (read : α → List (List String))
    (h : ∀ a ∈ items, ∀ cmds, (after cmds).run (text a).toList = after (cmds ++ read a)) :
    ∀ cmds, (after cmds).run (String.join (items.map text)).toList = after (cmds ++ items.flatMap read) := by
  induction items with
  | nil => simp
  | cons a items ih =>
    intro cmds
    rw [List.map_cons, String.join_cons, String.toList_append, run_append, h a List.mem_cons_self,
      ih fun b hb => h b (List.mem_cons_of_mem a hb)]
    simp

theorem run_lines {lines : List (List ShellWord)} (hlines : ∀ ws ∈ lines, ws ≠ [] ∧ ∀ w ∈ ws, w.Legible) :
    (after cmds).run (String.join (lines.map Transfer.commandLine)).toList =
      after (cmds ++ lines.map fun ws => ws.map (·.text)) := by
  rw [run_join lines Transfer.commandLine (fun ws => [ws.map (·.text)])
    fun ws hws cmds => run_line (hlines ws hws).1 (hlines ws hws).2, List.map_eq_flatMap]

/-- The reader after other commands. -/
def prepend (r : Reader) (cmds : List (List String)) : Reader := { r with commands := cmds ++ r.commands }

theorem step_prepend (r : Reader) (c : Char) : (r.prepend cmds).step c = (r.step c).prepend cmds := by
  have hword : (r.prepend cmds).endWord = r.endWord.prepend cmds := by
    cases r with
    | mk mode word words commands => cases word <;> rfl
  have hcommand : (r.prepend cmds).endCommand = r.endCommand.prepend cmds := by
    unfold endCommand
    rw [hword]
    by_cases hw : r.endWord.words = [] <;> simp [prepend, hw]
  -- A step is nested choices between readers that all keep the commands.
  have hite : ∀ (p : Prop) [Decidable p] (a b : Reader),
      (if p then a else b).prepend cmds = if p then a.prepend cmds else b.prepend cmds := by
    intro p _ a b
    split <;> rfl
  unfold step
  rw [hword, hcommand]
  cases r with
  | mk mode word words commands => cases mode <;> simp only [hite] <;> rfl

theorem run_prepend (cs : List Char) : ∀ r : Reader, (r.prepend cmds).run cs = (r.run cs).prepend cmds := by
  induction cs with
  | nil => simp
  | cons c cs ih =>
    intro r
    rw [run_cons, step_prepend, ih, run_cons]

/-- What was read before has no part in what is read next. -/
theorem run_after {cs : List Char} {more : List (List String)} (h : run {} cs = after more)
    (cmds : List (List String)) : (after cmds).run cs = after (cmds ++ more) := by
  have hstart : after cmds = prepend {} cmds := by
    simp [after, prepend]
  rw [hstart, run_prepend, h]
  rfl

end Shell.Reader

namespace Shell

/-- The commands that every copying script begins with. -/
def prelude : List (List String) := [["trap", "touch " ++ Control.file, "EXIT"], ["set", "-e"]]

theorem run_prelude : Reader.run {} (Control.trap ++ "set -e\n").toList = .after prelude := by
  rfl

/-- A script of commands is read as those commands. -/
theorem commands_copyScript {lines : List (List ShellWord)}
    (hlines : ∀ ws ∈ lines, ws ≠ [] ∧ ∀ w ∈ ws, w.Legible) :
    commands (Transfer.copyScript lines) = prelude ++ lines.map fun ws => ws.map (·.text) := by
  rw [commands, Transfer.copyScript, String.toList_append, Reader.run_append, run_prelude, Reader.run_lines hlines]
  rfl

/-- The copying commands of a script are those that it was made of. -/
theorem invocations_copyScript {program : String} {lines : List (List ShellWord)}
    (hlines : ∀ ws ∈ lines, ws.head? = some (.bare program) ∧ ∀ w ∈ ws, w.Legible)
    (hprelude : prelude.all (fun words => words.head? != some program) = true) :
    invocations program (Transfer.copyScript lines) = lines.map fun ws => ws.map (·.text) := by
  have hne : ∀ ws ∈ lines, ws ≠ [] ∧ ∀ w ∈ ws, w.Legible := by
    intro ws hws
    obtain ⟨hhead, hlegible⟩ := hlines ws hws
    refine ⟨fun h => ?_, hlegible⟩
    simp [h] at hhead
  have hfirst : prelude.filter (fun words => words.head? == some program) = [] := by
    refine List.filter_eq_nil_iff.2 fun words hwords => ?_
    have := List.all_eq_true.1 hprelude words hwords
    simpa using this
  have hrest : (lines.map fun ws => ws.map (·.text)).filter (fun words => words.head? == some program) =
      lines.map fun ws => ws.map (·.text) := by
    refine List.filter_eq_self.2 fun words hwords => ?_
    obtain ⟨ws, hws, rfl⟩ := List.mem_map.1 hwords
    simp [List.head?_map, (hlines ws hws).1, ShellWord.text]
  rw [invocations, commands_copyScript hne, List.filter_append, hfirst, hrest, List.nil_append]

example : commands "touch 'it''s' # done\n/bin/ls -l & \"a b\"" = [["touch", "its"], ["/bin/ls", "-l"], ["a b"]] := by
  rfl

end Shell

/-! ## Arguments -/

/-- The arguments that stand after a flag. -/
def flagValues (flag : String) : List String → List String
  | a :: b :: r => if a = flag then b :: flagValues flag r else flagValues flag (b :: r)
  | _ => []

theorem flagValues_cons_of_ne {flag a : String} (h : a ≠ flag) (r : List String) :
    flagValues flag (a :: r) = flagValues flag r := by
  cases r with
  | nil => rfl
  | cons b r => rw [flagValues, if_neg h]

theorem flagValues_cons_cons (flag b : String) (r : List String) :
    flagValues flag (flag :: b :: r) = b :: flagValues flag r := by
  rw [flagValues, if_pos rfl]

end VolumeMigration
