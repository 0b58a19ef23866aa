import VolumeMigration.Proofs.PairedDevices
import VolumeMigration.Proofs.PairedTrees
/-!
# The commands of a client's script

A script may hold characters that a shell takes for more than the end of a word:
it expands variables and patterns, and redirects and groups commands. A script
of a client has none of them outside single quotes, so a reader that stops at
the first of them reads all of it (`Shell.read?`). What it reads after the first
two commands is one command for each pair, with each argument as it was given
(`Transfer.client_read?`).
-/

namespace VolumeMigration

open Text (ShellWord)

/-! ## A reader that expands nothing -/

namespace Shell

namespace Reader

/-- Whether nothing is to be known of the next character but how words, single quotes and backslashes are read. -/
def knows (r : Reader) (c : Char) : Bool :=
  match r.mode with
  | .plain => isLiteral c || ['\'', '\\', ' ', '\n'].contains c
  | .single | .escaped => true
  | .double | .doubleEscaped | .comment => false

def knowsAll : Reader → List Char → Bool
  | _, [] => true
  | r, c :: cs => r.knows c && knowsAll (r.step c) cs

end Reader

/-- The commands of a script that consists of words, some of them in single quotes or after a backslash. -/
def read? (script : String) : Option (List (List String)) :=
  if Reader.knowsAll {} script.toList && (Reader.run {} script.toList).mode == .plain then some (commands script)
  else none

example : read? "/bin/ls it\\'s '$HOME; *'\n" = some [["/bin/ls", "it's", "$HOME; *"]] := by rfl

example : read? "/bin/ls $HOME\n" = none := by rfl

namespace Reader

variable {r : Reader} {w : ShellWord} {ws : List ShellWord} {cmds : List (List String)}

theorem knowsAll_append (r : Reader) (cs ds : List Char) :
    r.knowsAll (cs ++ ds) = (r.knowsAll cs && (r.run cs).knowsAll ds) := by
  induction cs generalizing r with
  | nil => rfl
  | cons c cs ih => rw [List.cons_append, knowsAll, ih, knowsAll, run_cons, Bool.and_assoc]

theorem knowsAll_literal {cs : List Char} (hr : r.mode = .plain) (hcs : ∀ c ∈ cs, isLiteral c = true) :
    r.knowsAll cs = true := by
  induction cs generalizing r with
  | nil => rfl
  | cons c cs ih =>
    obtain ⟨hc, hcs⟩ := List.forall_mem_cons.1 hcs
    have hrest : (r.step c).knowsAll cs = true := by
      rw [step_literal hr hc]
      exact ih hr hcs
    simp [knowsAll, knows, hr, hc, hrest]

theorem knowsAll_escapeQuotes {cs : List Char} (hr : r.mode = .single) : r.knowsAll (Text.escapeQuotes cs) = true := by
  induction cs generalizing r with
  | nil => rfl
  | cons c cs ih =>
    unfold Text.escapeQuotes
    by_cases hc : c = '\''
    · have hquote : r.knowsAll ['\'', '\\', '\'', '\''] = true := by simp [knowsAll, knows, step, hr, push]
      rw [if_pos hc]
      show r.knowsAll (['\'', '\\', '\'', '\''] ++ Text.escapeQuotes cs) = true
      rw [knowsAll_append, hquote, run_escapedQuote hr, ih (r := r.push ['\'']) hr, Bool.true_and]
    · have hstep : r.step c = r.push [c] := by simp [step, hr, hc]
      rw [if_neg hc, knowsAll, hstep, ih (r := r.push [c]) hr]
      simp [knows, hr]

theorem knowsAll_word (hr : r.Idle) (hw : w.Legible) : r.knowsAll w.render.toList = true := by
  cases w with
  | bare s => exact knowsAll_literal hr.1 hw.2
  | quoted s =>
    have hopen : r.step '\'' = { r.push [] with mode := .single } := by simp [step, hr.1]
    show r.knowsAll (Text.shellQuote s).toList = true
    rw [Text.shellQuote, String.toList_ofList, List.cons_append, knowsAll, hopen, knowsAll_append,
      knowsAll_escapeQuotes rfl, run_escapeQuotes _ rfl (by simp [push])]
    simp [knowsAll, knows, hr.1, push]

theorem idle_step_blank (hr : r.Idle) (cs : List Char) : ((r.push cs).step ' ').Idle := by
  obtain ⟨hplain, hnone⟩ := hr
  simp [Idle, step, push, hplain, endWord]

theorem knowsAll_commandLine (hws : ∀ w ∈ ws, w.Legible) (hr : r.Idle) :
    r.knowsAll (Transfer.commandLine ws).toList = true := by
  rw [Transfer.commandLine, String.toList_append]
  induction ws generalizing r with
  | nil => simp [Text.join, knowsAll, knows, hr.1]
  | cons w ws ih =>
    obtain ⟨hw, hws⟩ := List.forall_mem_cons.1 hws
    cases ws with
    | nil =>
      rw [List.map_singleton, Text.join, knowsAll_append, knowsAll_word hr hw, run_word hr hw]
      simp [knowsAll, knows, push, hr.1]
    | cons v ws =>
      have hjoin : Text.join " " ((w :: v :: ws).map (·.render)) =
          w.render ++ " " ++ Text.join " " ((v :: ws).map (·.render)) := rfl
      rw [hjoin, String.toList_append, String.toList_append, List.append_assoc, List.append_assoc, knowsAll_append,
        knowsAll_word hr hw, run_word hr hw, Bool.true_and]
      have hblank : (r.push w.text.toList).knows ' ' = true := by simp [knows, push, hr.1]
      exact (Bool.and_eq_true ..).mpr ⟨hblank, ih hws (idle_step_blank hr w.text.toList)⟩

theorem knowsAll_lines {lines : List (List ShellWord)} (hlines : ∀ ws ∈ lines, ws ≠ [] ∧ ∀ w ∈ ws, w.Legible) :
    (after cmds).knowsAll (String.join (lines.map Transfer.commandLine)).toList = true := by
  induction lines generalizing cmds with
  | nil => rfl
  | cons ws lines ih =>
    obtain ⟨⟨hne, hws⟩, hlines⟩ := List.forall_mem_cons.1 hlines
    rw [List.map_cons, String.join_cons, String.toList_append, knowsAll_append, knowsAll_commandLine hws ⟨rfl, rfl⟩,
      run_line hne hws, ih hlines, Bool.and_true]

end Reader

/-- A script of commands is read as those commands, and nothing in it is expanded. -/
theorem read?_copyScript {lines : List (List ShellWord)} (hlines : ∀ ws ∈ lines, ws ≠ [] ∧ ∀ w ∈ ws, w.Legible) :
    read? (Transfer.copyScript lines) = some (prelude ++ lines.map fun ws => ws.map (·.text)) := by
  have hknown : Reader.knowsAll {} (Control.trap ++ "set -e\n").toList = true := rfl
  rw [read?, commands_copyScript hlines, Transfer.copyScript, String.toList_append, Reader.knowsAll_append,
    Reader.run_append, hknown, run_prelude, Reader.knowsAll_lines hlines, Reader.run_lines hlines]
  rfl

/-- A script with a command for each of some items is read as these commands. -/
theorem read?_copyScript_map {α : Type} {items : List α} {command : α → List ShellWord} {words : α → List String}
    (hne : ∀ a ∈ items, words a ≠ []) (hlegible : ∀ a ∈ items, ∀ w ∈ command a, w.Legible)
    (hwords : ∀ a ∈ items, (command a).map (·.text) = words a) :
    read? (Transfer.copyScript (items.map command)) = some (prelude ++ items.map words) := by
  have hlines : ∀ ws ∈ items.map command, ws ≠ [] ∧ ∀ w ∈ ws, w.Legible := by
    intro ws hws
    obtain ⟨a, ha, rfl⟩ := List.mem_map.1 hws
    refine ⟨fun hnil => hne a ha ?_, hlegible a ha⟩
    rw [← hwords a ha, hnil, List.map_nil]
  rw [read?_copyScript hlines, List.map_map]
  exact congrArg (fun commands => some (prelude ++ commands)) (List.map_congr_left hwords)

end Shell

/-! ## The clients -/

namespace Transfer

namespace Rsync

/-- The command for a pair: the flags, the directory of the source claim, and the place of the destination claim on the
server. -/
def copyWords (t : Transfer) (options : RsyncOptions) (target : Address) (p : Pair) : List String :=
  "/usr/bin/rsync" :: options.toFlags ++ ["/mnt/" ++ p.source.name ++ "/",
    "rsync://" ++ t.credentials.username ++ "@" ++ target.hostname ++ ":" ++ Nat.repr target.port ++ "/mnt/" ++
      p.destination.name ++ "/"]

theorem read?_clientScript (t : Transfer) (options : RsyncOptions) (target : Address) :
    Shell.read? (clientScript t options target) =
      some (Shell.prelude ++ t.pairs.pairs.map (copyWords t options target)) := by
  refine Shell.read?_copyScript_map (fun p _ => List.cons_ne_nil _ _)
    (fun p _ => legible_copyCommand t options target p) fun p _ => ?_
  have hplace : "rsync://" ++ t.credentials.username ++ "@" ++ target.display ++ "/" ++ moduleName ++
      ("/" ++ p.destination.name ++ "/") = "rsync://" ++ t.credentials.username ++ "@" ++ target.hostname ++ ":" ++
        Nat.repr target.port ++ "/mnt/" ++ p.destination.name ++ "/" := by
    rw [show target.display = target.hostname ++ ":" ++ Nat.repr target.port from rfl, ← String.toList_inj]
    simp [moduleName]
  rw [text_copyCommand, hplace]
  rfl

end Rsync

namespace Rclone

/-- The command for a pair: the directory of the source claim, and the place of the destination claim at the remote. -/
def copyWords (p : Pair) : List String :=
  ["/usr/local/bin/rclone", "sync", "--config", "/etc/rclone/rclone.conf", "/mnt/" ++ p.source.name ++ "/",
    "destination:/" ++ p.destination.name ++ "/"]

theorem read?_clientScript (t : Transfer) :
    Shell.read? (clientScript t) = some (Shell.prelude ++ t.pairs.pairs.map copyWords) := by
  refine Shell.read?_copyScript_map (fun p _ => List.cons_ne_nil _ _) (fun p _ => legible_copyCommand p) fun p _ => ?_
  have hplace : remote ++ ":" ++ ("/" ++ p.destination.name ++ "/") = "destination:/" ++ p.destination.name ++ "/" := by
    rw [← String.toList_inj]
    simp [remote]
  rw [text_copyCommand, hplace]
  rfl

end Rclone

namespace Blockrsync

/-- The command for the pair at an index: the device of the source claim and the identity of the pair. -/
def copyWords (options : BlockrsyncOptions) (i : Nat) (p : Pair) : List String :=
  ["/blockrsync", (Device.ofClaim i p.source).path, "--source", "--target-address", "localhost", "--port", "3222",
    "--identifier", p.identity, "--block-size", Nat.repr options.blockSize]

theorem read?_clientScript (t : Transfer) (options : BlockrsyncOptions) :
    Shell.read? (clientScript t options) = some (Shell.prelude ++ t.pairs.pairs.mapIdx (copyWords options)) := by
  have hcommands : (identified t .client).map (fun p => sendWords options p.1 p.2) =
      t.pairs.pairs.mapIdx (copyWords options) := by
    refine List.ext_getElem? fun i => ?_
    rw [List.getElem?_map, List.getElem?_mapIdx]
    cases hp : t.pairs.pairs[i]? with
    | some p =>
      have hsource : (t.claims .client)[i]? = some p.source := by
        rw [claims, PairList.sources, List.getElem?_map, hp]
        rfl
      rw [getElem?_identified hsource hp]
      rfl
    | none =>
      have hnone : (identified t .client)[i]? = none := by
        rw [List.getElem?_eq_none_iff, length_identified]
        exact List.getElem?_eq_none_iff.1 hp
      rw [hnone]
      rfl
  rw [← hcommands]
  refine Shell.read?_copyScript_map (fun p _ => List.cons_ne_nil _ _) (fun p hp => ?_) fun p _ => rfl
  exact legible_sendCommand options p.1 (legible_of_mem_identities (List.of_mem_zip hp).2)

end Blockrsync

/-- The words of the client's command for the pair at an index. -/
def copyWords (t : Transfer) (target : Address) (i : Nat) (p : Pair) : List String :=
  match t.method with
  | .rsync options => Rsync.copyWords t options target p
  | .rclone => Rclone.copyWords p
  | .blockrsync options => Blockrsync.copyWords options i p

/-- Whatever the claims, the options and the address are: after the first two commands the script of the client has one
command for each pair, and no other one. Each flag and operand is one word of it, with the characters that it was given
with. -/
theorem client_read? (t : Transfer) (target : Address) : ∃ client script,
    (t.client target).payload? = some client ∧ client.script? = some script ∧
      Shell.read? script = some
        ([["trap", "touch " ++ Control.file, "EXIT"], ["set", "-e"]] ++ t.pairs.pairs.mapIdx (t.copyWords target)) := by
  have hmapIdx (words : Pair → List String) : t.pairs.pairs.map words = t.pairs.pairs.mapIdx fun _ p => words p :=
    List.ext_getElem? fun i => by rw [List.getElem?_map, List.getElem?_mapIdx]
  unfold client copyWords
  cases t.method with
  | rsync options => exact ⟨_, _, rfl, rfl, (Rsync.read?_clientScript t options target).trans (by rw [hmapIdx]; rfl)⟩
  | rclone => exact ⟨_, _, rfl, rfl, (Rclone.read?_clientScript t).trans (by rw [hmapIdx]; rfl)⟩
  | blockrsync options => exact ⟨_, _, rfl, rfl, Blockrsync.read?_clientScript t options⟩

end Transfer

end VolumeMigration
